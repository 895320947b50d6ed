import LootSieve.Feed.Delivery
import Mathlib.Logic.Relation

/-!
A session as two threads and a consumer. The reader offers fragments to a queue of bounded capacity
and waits while it is full; the detector takes them from there and hands its blocks on through a
channel without bound; the consumer receives until no block can come any more, and then joins the
threads. A step is one read of the source, one operation on a queue or one join, and any thread may
be the next to step.
-/

namespace LootSieve.Feed.Pipeline

inductive Reader where
  | reading (failures : Nat) (script : List Reading)
  /-- Waits until the queue takes a fragment. -/
  | offering (text : String) (script : List Reading)
  | ended
  | crashed

namespace Reader

def isStopped : Reader → Bool
  | ended | crashed => true
  | _ => false

/-- What the reader does with what it reads after `failures` failed reads in a row. -/
def next (limit failures : Nat) : List Reading → Reader
  | [] => ended
  | .closed :: _ => ended
  | .crash :: _ => crashed
  | .failure :: rest => if limit ≤ failures + 1 then ended else reading (failures + 1) rest
  | .fragment raw :: rest =>
    let text := withoutNul raw
    if text.isEmpty then reading 0 rest
    else if Text.occursIn disconnected.toList text.toList then ended
    else offering text rest

end Reader

inductive Scanner where
  | receiving (detector : Detector)
  /-- Has a block that is not in the channel yet. -/
  | sending (block : List String) (detector : Detector)
  | ended

namespace Scanner

/-- The detector thread after it has taken a fragment from the queue. -/
def scan (detector : Detector) (text : String) : Scanner :=
  match detector.take text with
  | (some block, detector) => sending block detector
  | (none, detector) => receiving detector

/-- The blocks that are still to come if the queue holds these fragments. -/
def emits : Scanner → List String → List (List String)
  | receiving detector, queue => detector.blocks queue
  | sending block detector, queue => block :: detector.blocks queue
  | ended, _ => []

end Scanner

inductive Consumer where
  | receiving
  | joiningReader
  | joiningDetector
  | done (ending : Except FeedError Unit)

structure State where
  reader : Reader
  queue : List String
  scanner : Scanner
  channel : List (List String)
  consumer : Consumer
  /-- All fragments that the reader has put into the queue so far. -/
  accepted : List String
  /-- All blocks that the consumer has received so far. -/
  received : List (List String)

namespace State

def start (script : List Reading) : State where
  reader := .reading 0 script
  queue := []
  scanner := .receiving .new
  channel := []
  consumer := .receiving
  accepted := []
  received := []

def IsFinal (state : State) : Prop := ∃ ending, state.consumer = .done ending

end State

/-- The number of fragments that may wait in the queue. -/
def capacity (config : Config) : Nat := max config.queueCapacity 1

/-- The number of failed reads in a row that end the reader. -/
def readLimit (config : Config) : Nat := max config.maxReadErrors 1

/-- One step of one thread. A queue whose receiver is gone refuses what is sent, and one whose
sender is gone ends when it is empty. -/
inductive Step (config : Config) (state : State) : State → Prop
  | read {failures : Nat} {script : List Reading}
      (reading : state.reader = .reading failures script) :
      Step config state { state with reader := .next (readLimit config) failures script }
  | enqueue {text : String} {script : List Reading} (offers : state.reader = .offering text script)
      (room : state.queue.length < capacity config) (alive : state.scanner ≠ .ended) :
      Step config state { state with
        reader := .reading 0 script
        queue := state.queue ++ [text]
        accepted := state.accepted ++ [text] }
  | refuseFragment {text : String} {script : List Reading}
      (offers : state.reader = .offering text script) (gone : state.scanner = .ended) :
      Step config state { state with reader := .ended }
  | scan {detector : Detector} {text : String} {rest : List String}
      (receiving : state.scanner = .receiving detector) (waiting : state.queue = text :: rest) :
      Step config state { state with queue := rest, scanner := .scan detector text }
  | drain {detector : Detector} (receiving : state.scanner = .receiving detector)
      (empty : state.queue = []) (stopped : state.reader.isStopped = true) :
      Step config state { state with scanner := .ended }
  | send {block : List String} {detector : Detector}
      (sends : state.scanner = .sending block detector) (alive : state.consumer = .receiving) :
      Step config state { state with
        scanner := .receiving detector
        channel := state.channel ++ [block] }
  | refuseBlock {block : List String} {detector : Detector}
      (sends : state.scanner = .sending block detector) (gone : state.consumer ≠ .receiving) :
      Step config state { state with scanner := .ended }
  | receive {block : List String} {rest : List (List String)}
      (receiving : state.consumer = .receiving) (waiting : state.channel = block :: rest) :
      Step config state { state with channel := rest, received := state.received ++ [block] }
  | hangUp (receiving : state.consumer = .receiving) (empty : state.channel = [])
      (gone : state.scanner = .ended) :
      Step config state { state with consumer := .joiningReader }
  | joinReader (joining : state.consumer = .joiningReader) (ended : state.reader = .ended) :
      Step config state { state with consumer := .joiningDetector }
  | joinCrashed (joining : state.consumer = .joiningReader) (ended : state.reader = .crashed) :
      Step config state { state with consumer := .done (.error .sourceCrashed) }
  | joinDetector (joining : state.consumer = .joiningDetector) (ended : state.scanner = .ended) :
      Step config state { state with consumer := .done (.ok ()) }

/-- A step is none of the consumer's, or hands it a block, or brings it on towards the end. -/
theorem Step.sort {config : Config} {state next : State} (step : Step config state next) :
    (next.consumer = state.consumer ∧ next.received = state.received) ∨
    (state.consumer = .receiving ∧ next.consumer = .receiving ∧
      ∃ block, next.received = state.received ++ [block]) ∨
    (next.consumer ≠ state.consumer ∧ next.received = state.received) := by
  cases step with
  | read | enqueue | refuseFragment | scan | drain | send | refuseBlock => exact .inl ⟨rfl, rfl⟩
  | receive receiving => exact .inr (.inl ⟨receiving, receiving, _, rfl⟩)
  | hangUp consumer | joinReader consumer | joinCrashed consumer | joinDetector consumer =>
    refine .inr (.inr ⟨?_, rfl⟩)
    rw [consumer]
    exact nofun

/-- Some order of steps leads from the first state to the second. -/
abbrev Run (config : Config) : State → State → Prop := Relation.ReflTransGen (Step config)

section Progress
variable {config : Config}

/-- Nothing ever waits for good: whoever waits, waits for another that can step. -/
theorem exists_step_of_not_final {state : State} (unfinished : ¬state.IsFinal) :
    ∃ next, Step config state next := by
  have positive : 0 < capacity config := Nat.lt_of_lt_of_le Nat.one_pos (Nat.le_max_right _ 1)
  cases scanner : state.scanner with
  | sending block detector =>
    by_cases alive : state.consumer = .receiving
    · exact ⟨_, .send scanner alive⟩
    · exact ⟨_, .refuseBlock scanner alive⟩
  | receiving detector =>
    cases queue : state.queue with
    | cons text rest => exact ⟨_, .scan scanner queue⟩
    | nil =>
      cases reader : state.reader with
      | reading failures script => exact ⟨_, .read reader⟩
      | offering text script =>
        exact ⟨_, .enqueue reader (by rw [queue]; exact positive) (by rw [scanner]; simp)⟩
      | ended => exact ⟨_, .drain scanner queue (by rw [reader]; rfl)⟩
      | crashed => exact ⟨_, .drain scanner queue (by rw [reader]; rfl)⟩
  | ended =>
    cases consumer : state.consumer with
    | receiving =>
      cases channel : state.channel with
      | cons block rest => exact ⟨_, .receive consumer channel⟩
      | nil => exact ⟨_, .hangUp consumer channel scanner⟩
    | joiningReader =>
      cases reader : state.reader with
      | reading failures script => exact ⟨_, .read reader⟩
      | offering text script => exact ⟨_, .refuseFragment reader scanner⟩
      | ended => exact ⟨_, .joinReader consumer reader⟩
      | crashed => exact ⟨_, .joinCrashed consumer reader⟩
    | joiningDetector => exact ⟨_, .joinDetector consumer scanner⟩
    | done ending => exact absurd ⟨ending, consumer⟩ unfinished

def Reader.work : Reader → Nat
  | reading _ script => 5 * script.length + 1
  | offering _ script => 5 * script.length + 5
  | ended | crashed => 0

def Scanner.work : Scanner → Nat
  | receiving _ => 1
  | sending _ _ => 3
  | ended => 0

def Consumer.work : Consumer → Nat
  | receiving => 3
  | joiningReader => 2
  | joiningDetector => 1
  | done _ => 0

/-- A bound on the steps that are still to come. -/
def State.work (state : State) : Nat :=
  state.reader.work + 3 * state.queue.length + state.scanner.work + state.channel.length +
    state.consumer.work

theorem Reader.work_next (limit failures : Nat) (script : List Reading) :
    (next limit failures script).work < 5 * script.length + 1 := by
  cases script with
  | nil => simp [next, work]
  | cons reading rest =>
    cases reading with
    | closed | crash => simp [next, work]
    | failure =>
      simp only [next, List.length_cons]
      split <;> simp only [work] <;> omega
    | fragment raw =>
      simp only [next, List.length_cons]
      split
      · simp only [work]
        omega
      · split <;> simp only [work] <;> omega

theorem Scanner.work_scan (detector : Detector) (text : String) :
    (scan detector text).work ≤ 3 := by
  unfold scan
  split <;> simp [work]

theorem Step.work_lt {state next : State} (step : Step config state next) :
    next.work < state.work := by
  cases step with
  | @read failures script reading =>
    have before : state.reader.work = 5 * script.length + 1 := by rw [reading]; rfl
    have less := Reader.work_next (readLimit config) failures script
    simp only [State.work]
    omega
  | enqueue offers =>
    simp only [State.work, offers, Reader.work, List.length_append, List.length_singleton]
    omega
  | refuseFragment offers =>
    simp only [State.work, offers, Reader.work]
    omega
  | @scan detector text rest receiving waiting =>
    have before : state.scanner.work = 1 := by rw [receiving]; rfl
    have less := Scanner.work_scan detector text
    simp only [State.work, waiting, List.length_cons]
    omega
  | drain receiving =>
    simp only [State.work, receiving, Scanner.work]
    omega
  | send sends =>
    simp only [State.work, sends, Scanner.work, List.length_append, List.length_singleton]
    omega
  | refuseBlock sends =>
    simp only [State.work, sends, Scanner.work]
    omega
  | receive receiving waiting =>
    simp only [State.work, waiting, List.length_cons]
    omega
  | hangUp consumer | joinReader consumer | joinCrashed consumer | joinDetector consumer =>
    simp only [State.work, consumer, Consumer.work]
    omega

/-- Every run can be brought to an end, whatever steps it has taken. -/
theorem exists_final (state : State) : ∃ final, Run config state final ∧ final.IsFinal := by
  induction bound : state.work using Nat.strongRecOn generalizing state with
  | _ work ih =>
    by_cases finished : state.IsFinal
    · exact ⟨state, .refl, finished⟩
    · obtain ⟨next, step⟩ : ∃ next, Step config state next := exists_step_of_not_final finished
      obtain ⟨final, run, done⟩ := ih next.work (bound ▸ step.work_lt) next rfl
      exact ⟨final, .head step run, done⟩

end Progress

end LootSieve.Feed.Pipeline
