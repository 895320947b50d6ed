import LootSieve.Proofs.Engine.Outcomes
import Mathlib.Logic.Function.Basic

/-!
One engine in the hands of many callers. Some ask about a block or about many at once, some take
snapshots of the profiles and ask against these, and some replace the profiles, all at the same
time. Taking a snapshot and replacing are single steps. A call starts with a snapshot; what follows
until its answer may be cut in anywhere by the steps of others, also between two blocks of one call.
-/

namespace LootSieve.Engine

def withProfiles (engine : Engine) (profiles : ProfileSet) : Engine := { engine with profiles }

namespace Sharing

/-- A block of a call, with what has come of it once it has been processed. -/
structure Entry where
  block : List String
  answer : Option (Option Outcome)

theorem map_block_unprocessed (blocks : List (List String)) :
    (blocks.map fun block => (⟨block, none⟩ : Entry)).map Entry.block = blocks := by
  rw [List.map_map]
  exact List.map_id blocks

theorem map_block_set {entries : List Entry} {place : Nat} {block : List String}
    {before after : Option (Option Outcome)} (found : entries[place]? = some ⟨block, before⟩) :
    (entries.set place ⟨block, after⟩).map Entry.block = entries.map Entry.block := by
  have here : (entries.map Entry.block)[place]? = some block := by
    rw [List.getElem?_map, found, Option.map_some]
  obtain ⟨inside, rfl⟩ := List.getElem?_eq_some_iff.1 here
  rw [List.map_set]
  exact List.set_getElem_self inside

/-- A call that has taken its snapshot and has not answered yet. -/
inductive Call where
  | single (block : List String) (snapshot : ProfileSet)
  | batch (entries : List Entry) (snapshot : ProfileSet)

def Call.blocks : Call → List (List String)
  | single block _ => [block]
  | batch entries _ => entries.map Entry.block

inductive Event where
  | replaces (passed returned : ProfileSet)
  /-- A call about one block takes its snapshot. -/
  | begins (caller : Nat) (block : List String)
  | answers (caller : Nat) (outcome : Option Outcome)
  /-- A call about many blocks takes its snapshot. -/
  | beginsBatch (caller : Nat) (blocks : List (List String))
  /-- One block of a call about many is processed. -/
  | processes (caller place : Nat)
  | answersBatch (caller : Nat) (outcomes : List (Option Outcome))
  /-- A call ends without an answer. -/
  | breaksOff (caller : Nat)
  /-- A snapshot is taken and kept under a handle. -/
  | holds (handle : Nat) (snapshot : ProfileSet)
  /-- An item is decided about against a kept snapshot. -/
  | consults (handle : Nat) (item : Item) (policy : Policy) (verdict : Verdict)

namespace Event

/-- A call of this caller is answered. -/
def Answers (caller : Nat) : Event → Prop
  | answers other _ | answersBatch other _ => other = caller
  | _ => False

/-- A call of this caller starts or ends. -/
def Bounds (caller : Nat) : Event → Prop
  | begins other _ | beginsBatch other _ | answers other _ | answersBatch other _
  | breaksOff other => other = caller
  | _ => False

/-- From now on the handle stands for this snapshot. -/
def Rebinds (handle : Nat) : Event → Prop
  | holds other _ => other = handle
  | _ => False

end Event

structure State where
  /-- Its profiles are the current ones. -/
  engine : Engine
  /-- The calls under way, by their callers. -/
  calls : Nat → Option Call
  /-- The snapshots that are kept, by their handles. -/
  held : Nat → Option ProfileSet

def State.start (engine : Engine) : State where
  engine := engine
  calls := fun _ => none
  held := fun _ => none

open Function (update)

/-- The blocks of one call are processed in any order, but answered for in the order of the call. A
block whose lines have no positions breaks its call off. -/
inductive Step (state : State) : Event → State → Prop
  | replace (profiles : ProfileSet) :
      Step state (.replaces profiles (state.engine.replaceProfiles profiles).1)
        { state with engine := (state.engine.replaceProfiles profiles).2 }
  | begin {caller : Nat} (block : List String) (free : state.calls caller = none) :
      Step state (.begins caller block)
        { state with
          calls := update state.calls caller (some (.single block state.engine.profiles)) }
  | answer {caller : Nat} {block : List String} {snapshot : ProfileSet}
      (underway : state.calls caller = some (.single block snapshot))
      (addressable : state.engine.Addressable block) :
      Step state (.answers caller ((state.engine.withProfiles snapshot).process block))
        { state with calls := update state.calls caller none }
  | beginBatch {caller : Nat} (blocks : List (List String)) (free : state.calls caller = none) :
      Step state (.beginsBatch caller blocks)
        { state with
          calls := update state.calls caller
            (some (.batch (blocks.map fun block => ⟨block, none⟩) state.engine.profiles)) }
  | process {caller place : Nat} {block : List String} {entries : List Entry}
      {snapshot : ProfileSet} (underway : state.calls caller = some (.batch entries snapshot))
      (unprocessed : entries[place]? = some ⟨block, none⟩)
      (addressable : state.engine.Addressable block) :
      Step state (.processes caller place)
        { state with
          calls := update state.calls caller (some (.batch
            (entries.set place ⟨block, some ((state.engine.withProfiles snapshot).process block)⟩)
            snapshot)) }
  | answerBatch {caller : Nat} {entries : List Entry} {snapshot : ProfileSet}
      {outcomes : List (Option Outcome)}
      (underway : state.calls caller = some (.batch entries snapshot))
      (complete : entries.map Entry.answer = outcomes.map some) :
      Step state (.answersBatch caller outcomes)
        { state with calls := update state.calls caller none }
  | breakOff {caller : Nat} {call : Call} {block : List String}
      (underway : state.calls caller = some call) (member : block ∈ call.blocks)
      (overflows : ¬ state.engine.Addressable block) :
      Step state (.breaksOff caller) { state with calls := update state.calls caller none }
  | hold (handle : Nat) :
      Step state (.holds handle state.engine.profiles)
        { state with held := update state.held handle (some state.engine.profiles) }
  | consult {handle : Nat} {snapshot : ProfileSet} (item : Item) (policy : Policy)
      (kept : state.held handle = some snapshot) :
      Step state (.consults handle item policy (Verdict.decide item snapshot policy)) state

/-- The events lead from the first state to the second. -/
inductive Run : State → List Event → State → Prop
  | done (state : State) : Run state [] state
  | step {state middle final : State} {event : Event} {events : List Event}
      (first : Step state event middle) (rest : Run middle events final) :
      Run state (event :: events) final

section
variable {state final : State} {event : Event} {events front back : List Event}

theorem Step.run (step : Step state event final) : Run state [event] final :=
  .step step (.done final)

theorem run_cons_iff :
    Run state (event :: events) final ↔
      ∃ middle, Step state event middle ∧ Run middle events final := by
  constructor
  · intro run
    cases run with
    | step first rest => exact ⟨_, first, rest⟩
  · intro ⟨middle, first, rest⟩
    exact .step first rest

theorem run_append_iff :
    Run state (front ++ back) final ↔
      ∃ middle, Run state front middle ∧ Run middle back final := by
  induction front generalizing state with
  | nil =>
    constructor
    · intro run
      exact ⟨state, .done state, run⟩
    · intro ⟨middle, before, after⟩
      cases before
      exact after
  | cons event front ih =>
    constructor
    · intro run
      obtain ⟨next, first, rest⟩ := run_cons_iff.1 run
      obtain ⟨middle, before, after⟩ := ih.1 rest
      exact ⟨middle, .step first before, after⟩
    · intro ⟨middle, before, after⟩
      obtain ⟨next, first, rest⟩ := run_cons_iff.1 before
      exact .step first (ih.2 ⟨middle, rest, after⟩)

end

section Progress
variable {state : State} {caller : Nat}

theorem exists_outcomes_of_processed {entries : List Entry}
    (processed : ∀ entry ∈ entries, entry.answer ≠ none) :
    ∃ outcomes : List (Option Outcome), entries.map Entry.answer = outcomes.map some := by
  refine ⟨entries.map fun entry => entry.answer.getD none, ?_⟩
  rw [List.map_map]
  apply List.map_congr_left
  intro entry member
  obtain ⟨answer, answered⟩ := Option.ne_none_iff_exists'.1 (processed entry member)
  rw [Function.comp_apply, answered, Option.getD_some]

/-- The events process blocks of one call, and then it can be answered. -/
def Completes (state : State) (caller : Nat) (own : List Event) : Prop :=
  (∀ event ∈ own, ∃ place, event = .processes caller place) ∧
    ∃ answer final, Run state (own ++ [answer]) final ∧ answer.Answers caller

theorem Completes.cons {middle : State} {place : Nat} {own : List Event}
    (first : Step state (.processes caller place) middle) (rest : Completes middle caller own) :
    Completes state caller (.processes caller place :: own) := by
  obtain ⟨processing, answer, final, run, answers⟩ := rest
  refine ⟨?_, answer, final, .step first run, answers⟩
  intro event member
  cases List.mem_cons.1 member with
  | inl same => exact ⟨place, same⟩
  | inr later => exact processing event later

theorem exists_processes {place : Nat} {block : List String} {entries : List Entry}
    {snapshot : ProfileSet} (underway : state.calls caller = some (.batch entries snapshot))
    (unprocessed : entries[place]? = some ⟨block, none⟩)
    (addressable : state.engine.Addressable block) :
    ∃ next answer, Step state (.processes caller place) next ∧ next.engine = state.engine ∧
      next.calls caller = some (.batch (entries.set place ⟨block, some answer⟩) snapshot) :=
  ⟨_, _, .process underway unprocessed addressable, rfl, Function.update_self caller _ state.calls⟩

theorem exists_completes_batch {entries : List Entry} {snapshot : ProfileSet}
    (underway : state.calls caller = some (.batch entries snapshot))
    (addressable : ∀ block ∈ entries.map Entry.block, state.engine.Addressable block) :
    ∃ own, Completes state caller own := by
  induction pending : entries.countP (·.answer.isNone) generalizing state entries with
  | zero =>
    have processed : ∀ entry ∈ entries, entry.answer ≠ none := by
      intro entry member unanswered
      exact List.countP_eq_zero.1 pending entry member (Option.isNone_iff_eq_none.2 unanswered)
    obtain ⟨outcomes, complete⟩ := exists_outcomes_of_processed processed
    have step := Step.answerBatch underway complete
    exact ⟨[], List.forall_mem_nil _, _, _, step.run, rfl⟩
  | succ count ih =>
    obtain ⟨⟨block, answer⟩, member, unanswered⟩ :
        ∃ entry ∈ entries, entry.answer.isNone := by
      apply List.countP_pos_iff.1
      omega
    obtain rfl : answer = none := Option.isNone_iff_eq_none.1 unanswered
    obtain ⟨place, found⟩ := List.getElem?_of_mem member
    obtain ⟨next, answer, step, engine, continues⟩ :=
      exists_processes underway found (addressable block (List.mem_map_of_mem member))
    obtain ⟨inside, here⟩ := List.getElem?_eq_some_iff.1 found
    obtain ⟨own, completes⟩ : ∃ own, Completes next caller own := by
      apply ih continues
      · rw [map_block_set found, engine]
        exact addressable
      · rw [List.countP_set inside, here, pending]
        rfl
    exact ⟨_, completes.cons step⟩

/-- A call that is under way can be answered by steps of its own, whatever the others have done. -/
theorem exists_completes {call : Call} (underway : state.calls caller = some call)
    (addressable : ∀ block ∈ call.blocks, state.engine.Addressable block) :
    ∃ own, Completes state caller own := by
  cases call with
  | single block snapshot =>
    have step := Step.answer underway (addressable block List.mem_cons_self)
    exact ⟨[], List.forall_mem_nil _, _, _, step.run, rfl⟩
  | batch entries snapshot => exact exists_completes_batch underway addressable

end Progress

end Sharing

end LootSieve.Engine
