import LootSieve.Proofs.Engine.Outcomes
import LootSieve.Proofs.Feed.Interleaving

/-!
An engine at work on a session. A loop receives one block after another, reads and decides about it,
hands the outcome to a sink and counts. The threads that deliver the blocks go on meanwhile and
know nothing of it. When no block can come any more the loop joins the threads and returns the
counts, or that the source crashed. Whatever the order of steps, the sink gets what reading all
blocks one by one gives.
-/

namespace LootSieve.Engine.Operation
open Feed (Config FeedError Reading deliver)

inductive Phase where
  /-- Waits for a block, or for a thread to end. -/
  | waiting
  /-- Has received a block that it has not read yet. -/
  | holding (block : List String)
  /-- Has broken off in a block whose lines have no positions. -/
  | broken (block : List String)

/-- The blocks that have been received, but have led to nothing yet. -/
def Phase.blocks : Phase → List (List String)
  | waiting => []
  | holding block | broken block => [block]

structure State where
  pipeline : Feed.Pipeline.State
  phase : Phase
  /-- All outcomes that the sink has been given so far. -/
  sink : List Outcome
  tally : Tally

namespace State

def start (script : List Reading) : State where
  pipeline := .start script
  phase := .waiting
  sink := []
  tally := ⟨0, 0, 0⟩

/-- What the loop returns once it has joined the threads. -/
def result? (state : State) : Option (Except FeedError Tally) :=
  match state.pipeline.consumer with
  | .done ending => some (ending.map fun _ => state.tally)
  | _ => none

def IsOver (state : State) : Prop :=
  state.pipeline.IsFinal ∨ ∃ block, state.phase = .broken block

end State

/-- One step of the loop, or of a thread of the pipeline. The loop is the consumer of the pipeline,
and steps as such only while it waits. -/
inductive Step (engine : Engine) (config : Config) (state : State) : State → Prop
  | thread {next : Feed.Pipeline.State} (step : Feed.Pipeline.Step config state.pipeline next)
      (consumer : next.consumer = state.pipeline.consumer)
      (received : next.received = state.pipeline.received) :
      Step engine config state { state with pipeline := next }
  | receive {next : Feed.Pipeline.State} {block : List String} (waits : state.phase = .waiting)
      (step : Feed.Pipeline.Step config state.pipeline next)
      (received : next.received = state.pipeline.received ++ [block]) :
      Step engine config state { state with
        pipeline := next
        phase := .holding block
        tally := { state.tally with blocks := state.tally.blocks + 1 } }
  | leave {next : Feed.Pipeline.State} (waits : state.phase = .waiting)
      (step : Feed.Pipeline.Step config state.pipeline next)
      (consumer : next.consumer ≠ state.pipeline.consumer) :
      Step engine config state { state with pipeline := next }
  | deliver {block : List String} {item : Item} (holds : state.phase = .holding block)
      (readable : engine.read block = .ok item) :
      Step engine config state { state with
        phase := .waiting
        sink := state.sink ++ [⟨item, engine.judge item⟩]
        tally := { state.tally with
          kept := state.tally.kept + if (engine.judge item).keep then 1 else 0 } }
  | skip {block : List String} {fault : Tooltip.ReadError} (holds : state.phase = .holding block)
      (unreadable : engine.read block = .error fault) (addressable : engine.Addressable block) :
      Step engine config state { state with
        phase := .waiting
        tally := { state.tally with failed := state.tally.failed + 1 } }
  | breakOff {block : List String} (holds : state.phase = .holding block)
      (overflows : ¬ engine.Addressable block) :
      Step engine config state { state with phase := .broken block }

/-- Some order of steps leads from the first state to the second. -/
abbrev Run (engine : Engine) (config : Config) : State → State → Prop :=
  Relation.ReflTransGen (Step engine config)

section Progress
variable {engine : Engine} {config : Config}

/-- As long as the session is not over, the loop or a thread can step. -/
theorem exists_step_of_not_over {state : State} (unfinished : ¬ state.IsOver) :
    ∃ next, Step engine config state next := by
  cases phase : state.phase with
  | waiting =>
    have atWork : ¬ state.pipeline.IsFinal := fun final => unfinished (.inl final)
    obtain ⟨next, step⟩ : ∃ next, Feed.Pipeline.Step config state.pipeline next :=
      Feed.Pipeline.exists_step_of_not_final atWork
    rcases step.sort with ⟨consumer, received⟩ | ⟨_, _, block, received⟩ | ⟨consumer, _⟩
    · exact ⟨_, .thread step consumer received⟩
    · exact ⟨_, .receive phase step received⟩
    · exact ⟨_, .leave phase step consumer⟩
  | holding block =>
    cases reading : engine.read block with
    | ok item => exact ⟨_, .deliver phase reading⟩
    | error fault =>
      by_cases addressable : engine.Addressable block
      · exact ⟨_, .skip phase reading addressable⟩
      · exact ⟨_, .breakOff phase addressable⟩
  | broken block => exact absurd (.inr ⟨block, phase⟩) unfinished

def Phase.work : Phase → Nat
  | waiting | broken _ => 0
  | holding _ => 1

/-- A bound on the steps that are still to come. -/
def State.work (state : State) : Nat := 2 * state.pipeline.work + state.phase.work

theorem Step.work_lt {state next : State} (step : Step engine config state next) :
    next.work < state.work := by
  cases step with
  | thread step =>
    have less := step.work_lt
    simp only [State.work]
    omega
  | receive waits step =>
    have less := step.work_lt
    simp only [State.work, waits, Phase.work]
    omega
  | leave waits step =>
    have less := step.work_lt
    simp only [State.work]
    omega
  | deliver holds | skip holds | breakOff holds =>
    simp only [State.work, holds, Phase.work]
    omega

/-- Every session can be brought to an end, whatever steps it has taken. -/
theorem exists_over (state : State) : ∃ final, Run engine config state final ∧ final.IsOver := by
  induction bound : state.work using Nat.strongRecOn generalizing state with
  | _ work ih =>
    by_cases ended : state.IsOver
    · exact ⟨state, .refl, ended⟩
    · obtain ⟨next, step⟩ : ∃ next, Step engine config state next := exists_step_of_not_over ended
      obtain ⟨final, run, done⟩ := ih next.work (bound ▸ step.work_lt) next rfl
      exact ⟨final, .head step run, done⟩

end Progress

end LootSieve.Engine.Operation
