import LootSieve.Proofs.Engine.Sharing
import Mathlib.Data.List.Basic

/-!
Which profiles answer a call. The history of a shared engine tells which profiles were current when.
All blocks of one call are answered under the profiles that were current when the call took its
snapshot, and a kept snapshot answers under those that were current when it was taken, however often
they have been replaced since. No replacement is lost, and none is made twice.
-/

namespace LootSieve.Engine

/-- What comes of a block under some profiles: it is read, and its item decided about. -/
def under (engine : Engine) (profiles : ProfileSet) (block : List String) : Option Outcome :=
  (engine.read block).toOption.map fun item => ⟨item, Verdict.decide item profiles engine.policy⟩

theorem process_withProfiles (engine : Engine) (profiles : ProfileSet) (block : List String) :
    (engine.withProfiles profiles).process block = engine.under profiles block :=
  process_eq_map (engine.withProfiles profiles) block

/-- What the engine makes of many blocks at once under some profiles. -/
theorem processAll_withProfiles (engine : Engine) (profiles : ProfileSet)
    (blocks : List (List String)) :
    (engine.withProfiles profiles).processAll blocks = blocks.map (engine.under profiles) :=
  List.map_congr_left fun block _ => process_withProfiles engine profiles block

namespace Sharing
open Function (update)

namespace Event

def passed? : Event → Option ProfileSet
  | replaces passed _ => some passed
  | _ => none

def returned? : Event → Option ProfileSet
  | replaces _ returned => some returned
  | _ => none

theorem returned?_eq_none {event : Event} (silent : event.passed? = none) :
    event.returned? = none := by
  cases event with
  | replaces => cases silent
  | _ => rfl

end Event

/-- The sets passed to the replacements, in their order. -/
def passed (events : List Event) : List ProfileSet := events.filterMap Event.passed?

/-- The sets returned by the replacements, in their order. -/
def returned (events : List Event) : List ProfileSet := events.filterMap Event.returned?

/-- The profiles that are current after a history. -/
def current (initial : ProfileSet) (events : List Event) : ProfileSet :=
  (passed events).getLastD initial

section Current
variable {initial : ProfileSet} {events : List Event} {event : Event}

theorem passed_concat_of_silent (silent : event.passed? = none) :
    passed (events ++ [event]) = passed events := by
  rw [passed, List.filterMap_append, List.filterMap_cons_none silent, List.filterMap_nil,
    List.append_nil, ← passed]

theorem returned_concat_of_silent (silent : event.passed? = none) :
    returned (events ++ [event]) = returned events := by
  rw [returned, List.filterMap_append, List.filterMap_cons_none (Event.returned?_eq_none silent),
    List.filterMap_nil, List.append_nil, ← returned]

theorem passed_concat_replaces (set previous : ProfileSet) :
    passed (events ++ [.replaces set previous]) = passed events ++ [set] :=
  List.filterMap_append

theorem returned_concat_replaces (set previous : ProfileSet) :
    returned (events ++ [.replaces set previous]) = returned events ++ [previous] :=
  List.filterMap_append

theorem current_concat_of_silent (silent : event.passed? = none) :
    current initial (events ++ [event]) = current initial events := by
  rw [current, passed_concat_of_silent silent, ← current]

theorem current_concat_replaces (set previous : ProfileSet) :
    current initial (events ++ [.replaces set previous]) = set := by
  rw [current, passed_concat_replaces, List.getLastD_concat]

end Current

/-- The engine is what a history has made of the first one. -/
structure Follows (engine : Engine) (events : List Event) (now : Engine) : Prop where
  profiles : now = engine.withProfiles (current engine.profiles events)
  replaced : returned events ++ [now.profiles] = engine.profiles :: passed events

/-- The event has happened under these profiles, and none that ends it has happened since. -/
def Since (initial : ProfileSet) (events : List Event) (origin : Event) (ends : Event → Prop)
    (profiles : ProfileSet) : Prop :=
  ∃ before between, events = before ++ origin :: between ∧
    (∀ event ∈ between, ¬ ends event) ∧ profiles = current initial before

section Steps
variable {engine now : Engine} {events : List Event} {event : Event}

theorem Follows.concat (follows : Follows engine events now) (silent : event.passed? = none) :
    Follows engine (events ++ [event]) now where
  profiles := by
    rw [current_concat_of_silent silent]
    exact follows.profiles
  replaced := by
    rw [returned_concat_of_silent silent, passed_concat_of_silent silent]
    exact follows.replaced

theorem Follows.replace (follows : Follows engine events now) (set : ProfileSet) :
    Follows engine (events ++ [.replaces set (now.replaceProfiles set).1])
      (now.replaceProfiles set).2 where
  profiles := by
    rw [current_concat_replaces, follows.profiles]
    rfl
  replaced := by
    rw [returned_concat_replaces, passed_concat_replaces, ← List.cons_append, ← follows.replaced]
    rfl

theorem Follows.addressable_iff (follows : Follows engine events now) (block : List String) :
    now.Addressable block ↔ engine.Addressable block := by
  rw [follows.profiles]
  rfl

theorem Follows.process (follows : Follows engine events now) (snapshot : ProfileSet)
    (block : List String) :
    (now.withProfiles snapshot).process block = engine.under snapshot block := by
  rw [process_withProfiles, follows.profiles]
  rfl

variable {initial profiles : ProfileSet} {origin : Event} {ends : Event → Prop}

theorem since_concat (initial : ProfileSet) (events : List Event) (origin : Event)
    (ends : Event → Prop) :
    Since initial (events ++ [origin]) origin ends (current initial events) :=
  ⟨events, [], rfl, List.forall_mem_nil _, rfl⟩

theorem Since.concat (since : Since initial events origin ends profiles) (goesOn : ¬ ends event) :
    Since initial (events ++ [event]) origin ends profiles := by
  obtain ⟨before, between, whole, none, same⟩ := since
  refine ⟨before, between ++ [event], ?_, ?_, same⟩
  · rw [whole, List.append_assoc, List.cons_append]
  · intro other member
    cases List.mem_append.1 member with
    | inl earlier => exact none other earlier
    | inr last => exact List.mem_singleton.1 last ▸ goesOn

end Steps

/-- The call works against the profiles that were current when it began. -/
def Call.Agrees (engine : Engine) (events : List Event) (caller : Nat) : Call → Prop
  | single block snapshot =>
    Since engine.profiles events (.begins caller block) (Event.Bounds caller) snapshot
  | batch entries snapshot =>
    Since engine.profiles events (.beginsBatch caller (entries.map Entry.block))
      (Event.Bounds caller) snapshot ∧
    ∀ entry ∈ entries, ∀ outcome, entry.answer = some outcome →
      outcome = engine.under snapshot entry.block

/-- What holds after a history. -/
structure Invariant (engine : Engine) (events : List Event) (state : State) : Prop where
  follows : Follows engine events state.engine
  calls : ∀ caller call, state.calls caller = some call → call.Agrees engine events caller
  held : ∀ handle snapshot, state.held handle = some snapshot →
    Since engine.profiles events (.holds handle snapshot) (Event.Rebinds handle) snapshot

theorem invariant_start (engine : Engine) : Invariant engine [] (.start engine) where
  follows := ⟨rfl, rfl⟩
  calls := nofun
  held := nofun

section Invariant
variable {engine : Engine} {events : List Event} {event : Event} {state next : State}

theorem Call.Agrees.concat {caller : Nat} {call : Call} (agrees : call.Agrees engine events caller)
    (goesOn : ¬ event.Bounds caller) : call.Agrees engine (events ++ [event]) caller := by
  cases call with
  | single => exact Since.concat agrees goesOn
  | batch => exact ⟨agrees.1.concat goesOn, agrees.2⟩

theorem Invariant.calls_concat (invariant : Invariant engine events state)
    (goesOn : ∀ caller, ¬ event.Bounds caller) :
    ∀ caller call, state.calls caller = some call →
      call.Agrees engine (events ++ [event]) caller :=
  fun caller call underway => (invariant.calls caller call underway).concat (goesOn caller)

theorem Invariant.held_concat (invariant : Invariant engine events state)
    (goesOn : ∀ handle, ¬ event.Rebinds handle) :
    ∀ handle snapshot, state.held handle = some snapshot →
      Since engine.profiles (events ++ [event]) (.holds handle snapshot) (Event.Rebinds handle)
        snapshot :=
  fun handle snapshot kept => (invariant.held handle snapshot kept).concat (goesOn handle)

/-- A step within one caller's call leaves all other calls and the kept snapshots as they are. -/
theorem Invariant.update_calls {caller : Nat} {after : Option Call}
    (invariant : Invariant engine events state) (silent : event.passed? = none)
    (others : ∀ other, other ≠ caller → ¬ event.Bounds other)
    (handles : ∀ handle, ¬ event.Rebinds handle)
    (own : ∀ call, after = some call → call.Agrees engine (events ++ [event]) caller) :
    Invariant engine (events ++ [event])
      { state with calls := update state.calls caller after } where
  follows := invariant.follows.concat silent
  calls := by
    apply (Function.forall_update_iff state.calls fun other call? =>
      ∀ call, call? = some call → call.Agrees engine (events ++ [event]) other).2
    refine ⟨own, ?_⟩
    intro other different call underway
    exact (invariant.calls other call underway).concat (others other different)
  held := invariant.held_concat handles

theorem Invariant.end_call {caller : Nat} (invariant : Invariant engine events state)
    (silent : event.passed? = none) (others : ∀ other, other ≠ caller → ¬ event.Bounds other)
    (handles : ∀ handle, ¬ event.Rebinds handle) :
    Invariant engine (events ++ [event])
      { state with calls := update state.calls caller none } :=
  invariant.update_calls silent others handles nofun

theorem Invariant.profiles (invariant : Invariant engine events state) :
    state.engine.profiles = current engine.profiles events := by
  rw [invariant.follows.profiles]
  rfl

theorem Invariant.step (invariant : Invariant engine events state) (step : Step state event next) :
    Invariant engine (events ++ [event]) next := by
  cases step with
  | replace profiles =>
    exact ⟨invariant.follows.replace profiles, invariant.calls_concat fun _ => id,
      invariant.held_concat fun _ => id⟩
  | begin block free =>
    refine invariant.update_calls rfl (fun other different => different.symm) (fun _ => id) ?_
    intro call same
    cases same
    rw [invariant.profiles]
    exact since_concat ..
  | beginBatch blocks free =>
    refine invariant.update_calls rfl (fun other different => different.symm) (fun _ => id) ?_
    intro call same
    cases same
    rw [invariant.profiles]
    refine ⟨?_, ?_⟩
    · rw [map_block_unprocessed]
      exact since_concat ..
    · intro entry member outcome answered
      obtain ⟨block, _, rfl⟩ := List.mem_map.1 member
      cases answered
  | @process caller place block entries snapshot underway unprocessed addressable =>
    refine invariant.update_calls rfl (fun _ _ => id) (fun _ => id) ?_
    intro call same
    cases same
    obtain ⟨since, answers⟩ := invariant.calls caller _ underway
    refine ⟨?_, ?_⟩
    · rw [map_block_set unprocessed]
      exact since.concat id
    · intro entry member outcome answered
      rcases List.mem_or_eq_of_mem_set member with before | rfl
      · exact answers entry before outcome answered
      · rw [← Option.some.inj answered]
        exact invariant.follows.process snapshot block
  | answer | answerBatch | breakOff =>
    exact invariant.end_call rfl (fun other different => different.symm) fun _ => id
  | hold handle =>
    refine ⟨invariant.follows.concat rfl, invariant.calls_concat fun _ => id, ?_⟩
    apply (Function.forall_update_iff state.held fun other snapshot? =>
      ∀ snapshot, snapshot? = some snapshot → Since engine.profiles (events ++ [_])
        (.holds other snapshot) (Event.Rebinds other) snapshot).2
    refine ⟨?_, ?_⟩
    · intro snapshot same
      cases same
      rw [invariant.profiles]
      exact since_concat ..
    · intro other different snapshot kept
      exact (invariant.held other snapshot kept).concat different.symm
  | consult item policy kept =>
    exact ⟨invariant.follows.concat rfl, invariant.calls_concat fun _ => id,
      invariant.held_concat fun _ => id⟩

theorem Run.invariant {later : List Event} {final : State} (run : Run state later final)
    (invariant : Invariant engine events state) : Invariant engine (events ++ later) final := by
  induction run generalizing events with
  | done => rwa [List.append_nil]
  | step first _ ih =>
    have whole := ih (invariant.step first)
    rwa [List.append_assoc] at whole

end Invariant

theorem eq_map_of_answers {engine : Engine} {snapshot : ProfileSet} {entries : List Entry}
    {outcomes : List (Option Outcome)} (complete : entries.map Entry.answer = outcomes.map some)
    (answers : ∀ entry ∈ entries, ∀ outcome, entry.answer = some outcome →
      outcome = engine.under snapshot entry.block) :
    outcomes = (entries.map Entry.block).map (engine.under snapshot) := by
  apply List.map_injective_iff.2 fun _ _ => Option.some.inj
  rw [← complete, List.map_map, List.map_map]
  apply List.map_congr_left
  intro entry member
  have answered : entry.answer ∈ outcomes.map some := complete ▸ List.mem_map_of_mem member
  obtain ⟨outcome, _, same⟩ := List.mem_map.1 answered
  rw [← same, answers entry member outcome same.symm]
  rfl

/-- One engine shared by any number of callers, under every order of their steps. A call about many
blocks answers for each of them, in order, under the profiles that were current when it took its
snapshot: as the engine answers for all of them at once that has these profiles and is shared with
nobody. So does a call about one block, and a kept snapshot whenever it is asked. Every call whose
blocks have positions can be answered by steps of its own. What the replacements have returned, and
then the current profiles, are the first profiles and then what the replacements have been
passed. -/
theorem answers_under_snapshots (engine : Engine) (events : List Event) (state : State)
    (run : Run (.start engine) events state) :
    (∀ front after caller outcomes, events = front ++ .answersBatch caller outcomes :: after →
      ∃ blocks profiles, Since engine.profiles front (.beginsBatch caller blocks)
          (Event.Bounds caller) profiles ∧
        outcomes = (engine.withProfiles profiles).processAll blocks ∧
        outcomes = blocks.map (engine.under profiles)) ∧
    (∀ front after caller outcome, events = front ++ .answers caller outcome :: after →
      ∃ block profiles, Since engine.profiles front (.begins caller block)
          (Event.Bounds caller) profiles ∧
        outcome = (engine.withProfiles profiles).process block ∧
        outcome = engine.under profiles block) ∧
    (∀ front after handle item policy verdict,
      events = front ++ .consults handle item policy verdict :: after →
      ∃ profiles, Since engine.profiles front (.holds handle profiles)
          (Event.Rebinds handle) profiles ∧
        verdict = Verdict.decide item profiles policy) ∧
    (∀ caller call, state.calls caller = some call →
      (∀ block ∈ call.blocks, engine.Addressable block) → ∃ own, Completes state caller own) ∧
    returned events ++ [state.engine.profiles] = engine.profiles :: passed events := by
  have reached : ∀ front event after, events = front ++ event :: after →
      ∃ middle next, Invariant engine front middle ∧ Step middle event next := by
    intro front event after whole
    obtain ⟨middle, before, rest⟩ := run_append_iff.1 (whole ▸ run)
    obtain ⟨next, step, _⟩ := run_cons_iff.1 rest
    exact ⟨middle, next, before.invariant (invariant_start engine), step⟩
  have invariant : Invariant engine events state := run.invariant (invariant_start engine)
  refine ⟨?_, ?_, ?_, ?_, invariant.follows.replaced⟩
  · intro front after caller outcomes whole
    obtain ⟨middle, next, before, step⟩ := reached _ _ _ whole
    cases step with
    | answerBatch underway complete =>
      obtain ⟨since, answers⟩ := before.calls caller _ underway
      have answered := eq_map_of_answers complete answers
      exact ⟨_, _, since, answered.trans (processAll_withProfiles engine _ _).symm, answered⟩
  · intro front after caller outcome whole
    obtain ⟨middle, next, before, step⟩ := reached _ _ _ whole
    cases step with
    | @answer caller block snapshot underway =>
      have answered := before.follows.process snapshot block
      exact ⟨_, _, before.calls caller _ underway,
        answered.trans (process_withProfiles engine snapshot block).symm, answered⟩
  · intro front after handle item policy verdict whole
    obtain ⟨middle, next, before, step⟩ := reached _ _ _ whole
    cases step with
    | consult _ _ kept => exact ⟨_, before.held handle _ kept, rfl⟩
  · intro caller call underway addressable
    apply exists_completes underway
    intro block member
    rw [invariant.follows.addressable_iff]
    exact addressable block member

/-! The profiles are replaced while a call is under way. -/

def plainRing : List String :=
  ["GRIM LOOP", "Rare Ring", "750 Item Power", "Sanctified", "Right mouse button"]

def helmsOnly : ProfileSet := [⟨"barbarian", [⟨"Helms", [.helm], 0, 0, [], []⟩], [], none, [], []⟩]

theorem plainRing_kept_under_snapshot :
    ∃ first second final, Run (.start plain) [.beginsBatch 0 [plainRing], .replaces helmsOnly [],
        .begins 1 plainRing, .processes 0 0, .answers 1 second, .answersBatch 0 [first]] final ∧
      first.map (·.verdict.keep) = some true ∧ second.map (·.verdict.keep) = some false := by
  have addressable : plain.Addressable plainRing := by decide +kernel
  obtain ⟨first, second, final, run⟩ : ∃ first second final, Run (.start plain)
      [.beginsBatch 0 [plainRing], .replaces helmsOnly [], .begins 1 plainRing, .processes 0 0,
        .answers 1 second, .answersBatch 0 [first]] final :=
    ⟨_, _, _, .step (.beginBatch _ rfl) <| .step (.replace _) <| .step (.begin _ rfl) <|
      .step (.process rfl rfl addressable) <| .step (.answer rfl addressable) <|
      .step (.answerBatch rfl rfl) <| .done _⟩
  obtain ⟨batch, single, _⟩ := answers_under_snapshots plain _ final run
  refine ⟨first, second, final, run, ?_, ?_⟩
  · obtain ⟨blocks, profiles, ⟨before, between, whole, _, same⟩, _, answered⟩ :=
      batch [_, _, _, _, _] [] 0 [first] rfl
    obtain ⟨rfl, rfl, _⟩ : before = [] ∧ blocks = [plainRing] ∧ between = _ := by
      simpa [List.cons_eq_append_iff] using whole
    subst same
    obtain rfl : first = plain.under [] plainRing := List.singleton_inj.1 answered
    decide +kernel
  · obtain ⟨block, profiles, ⟨before, between, whole, _, same⟩, _, answered⟩ :=
      single [_, _, _, _] [_] 1 second rfl
    obtain ⟨rfl, rfl, _⟩ : before = [_, _] ∧ block = plainRing ∧ between = _ := by
      simpa [List.cons_eq_append_iff] using whole
    subst same
    obtain rfl : second = plain.under helmsOnly plainRing := answered
    decide +kernel

end Sharing

end LootSieve.Engine
