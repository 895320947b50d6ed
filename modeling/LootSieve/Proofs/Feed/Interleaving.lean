import LootSieve.Proofs.Feed.Pipeline
import LootSieve.Proofs.Feed.Segmentation

/-!
What all orders of steps of a session agree on. Whatever the threads have done so far, the blocks on
their way are those that one detector finds in the fragments accepted so far, and a session that is
over has delivered what reading the whole script at once delivers.
-/

namespace LootSieve.Feed

/-- A session with some fragments accepted before its own. -/
def Session.following (front : List String) (session : Session) : Session :=
  { session with accepted := front ++ session.accepted }

theorem Session.following_accept (front : List String) (text : String) (session : Session) :
    (session.accept text).following front = session.following (front ++ [text]) := by
  simp only [following, accept, List.append_assoc, List.singleton_append]

namespace Pipeline
variable {config : Config} {state next : State}

/-- The session that is left to the reader. -/
def Reader.remaining (limit : Nat) : Reader → Session
  | reading failures script => .after limit failures script
  | offering text script => (Session.after limit 0 script).accept text
  | ended => .finished
  | crashed => ⟨[], true⟩

theorem Reader.remaining_next (limit failures : Nat) (script : List Reading) :
    (Reader.next limit failures script).remaining limit = Session.after limit failures script := by
  cases script with
  | nil => simp only [Reader.next, remaining, Session.after]
  | cons reading rest =>
    cases reading with
    | closed | crash => simp only [Reader.next, remaining, Session.after]
    | failure =>
      simp only [Reader.next, Session.after]
      split <;> rfl
    | fragment raw =>
      simp only [Reader.next, Session.after]
      split
      · rfl
      · split <;> rfl

/-- The threads end one after the other: first the reader, then the detector when the queue is
empty, and last the consumer when the channel is. -/
structure EndsInOrder (state : State) : Prop where
  scanner : state.scanner = .ended → state.queue = [] ∧ state.reader.isStopped = true
  consumer : state.consumer ≠ .receiving → state.scanner = .ended ∧ state.channel = []
  joined : state.consumer = .joiningDetector ∨ state.consumer = .done (.ok ()) →
    state.reader = .ended
  crashed : state.consumer = .done (.error .sourceCrashed) → state.reader = .crashed

theorem endsInOrder_start (script : List Reading) : EndsInOrder (.start script) := by
  constructor <;> simp [State.start]

theorem EndsInOrder.consumer_receiving (order : EndsInOrder state)
    (alive : state.scanner ≠ .ended) : state.consumer = .receiving := by
  by_contra gone
  exact alive (order.consumer gone).1

theorem EndsInOrder.step (order : EndsInOrder state) (step : Step config state next) :
    EndsInOrder next := by
  cases step with
  | refuseFragment offers gone =>
    -- The queue has a receiver for as long as the reader is at work.
    have stopped := (order.scanner gone).2
    rw [offers] at stopped
    cases stopped
  | refuseBlock sends gone =>
    -- The consumer receives for as long as the detector is at work.
    exact absurd (order.consumer_receiving (by rw [sends]; simp)) gone
  | @scan detector text rest receiving waiting =>
    have alive : Scanner.scan detector text ≠ .ended := by
      unfold Scanner.scan
      split <;> simp
    have atWork : state.consumer = .receiving := order.consumer_receiving (by rw [receiving]; simp)
    constructor <;> simp [alive, atWork]
  | read | enqueue | drain | send | receive | hangUp | joinReader | joinCrashed | joinDetector =>
    obtain ⟨scanner, consumer, joined, crashed⟩ := order
    constructor <;> grind [Reader.isStopped]

theorem queue_length_le (step : Step config state next)
    (bounded : state.queue.length ≤ capacity config) : next.queue.length ≤ capacity config := by
  cases step with
  | enqueue offers room =>
    rw [List.length_append]
    exact room
  | scan receiving waiting =>
    rw [waiting, List.length_cons] at bounded
    exact Nat.le_of_succ_le bounded
  | _ => exact bounded

theorem following_remaining (order : EndsInOrder state) (step : Step config state next) :
    (next.reader.remaining (readLimit config)).following next.accepted =
      (state.reader.remaining (readLimit config)).following state.accepted := by
  cases step with
  | read reading => rw [Reader.remaining_next, reading, Reader.remaining]
  | enqueue offers => rw [offers, Reader.remaining, Reader.remaining, Session.following_accept]
  | refuseFragment offers gone =>
    have stopped := (order.scanner gone).2
    rw [offers] at stopped
    cases stopped
  | _ => rfl

/-- Whatever fragments may follow, the blocks on their way are those of all fragments. -/
def BlocksAgree (state : State) : Prop :=
  ∀ more, (state.scanner = .ended → more = []) →
    state.received ++ state.channel ++ state.scanner.emits (state.queue ++ more) =
      Detector.new.blocks (state.accepted ++ more)

theorem Scanner.emits_scan (detector : Detector) (text : String) (queue : List String) :
    (scan detector text).emits queue = detector.blocks (text :: queue) := by
  rw [Detector.blocks_cons, scan]
  split
  next block after taken => rw [taken]; rfl
  next after taken => rw [taken]; rfl

theorem BlocksAgree.step (agree : BlocksAgree state) (order : EndsInOrder state)
    (step : Step config state next) : BlocksAgree next := by
  intro more idle
  cases step with
  | enqueue offers room alive =>
    simpa only [List.append_assoc] using agree ([_] ++ more) fun gone => absurd gone alive
  | scan receiving waiting =>
    have before := agree more fun gone => by rw [receiving] at gone; cases gone
    rw [← before, receiving, waiting, Scanner.emits_scan]
    rfl
  | drain receiving empty =>
    have before := agree more fun gone => by rw [receiving] at gone; cases gone
    rw [← before, receiving, empty, idle rfl]
    rfl
  | send sends =>
    have before := agree more fun gone => by rw [sends] at gone; cases gone
    rw [← before, sends]
    simp only [Scanner.emits, List.append_assoc, List.singleton_append]
  | refuseBlock sends gone => exact absurd (order.consumer_receiving (by rw [sends]; simp)) gone
  | receive receiving waiting =>
    rw [← agree more idle, waiting]
    simp only [List.append_assoc, List.singleton_append]
  | refuseFragment offers gone => exact agree more idle
  | read | hangUp | joinReader | joinCrashed | joinDetector => exact agree more idle

/-- What holds in every state that some order of steps reaches. -/
structure Invariant (config : Config) (script : List Reading) (state : State) : Prop where
  order : EndsInOrder state
  bounded : state.queue.length ≤ capacity config
  session : (state.reader.remaining (readLimit config)).following state.accepted =
    .ofScript config.maxReadErrors script
  agree : BlocksAgree state

theorem invariant_start (config : Config) (script : List Reading) :
    Invariant config script (.start script) where
  order := endsInOrder_start script
  bounded := Nat.zero_le _
  session := rfl
  agree := fun _ _ => rfl

theorem Invariant.step {script : List Reading} (invariant : Invariant config script state)
    (step : Step config state next) : Invariant config script next where
  order := invariant.order.step step
  bounded := queue_length_le step invariant.bounded
  session := (following_remaining invariant.order step).trans invariant.session
  agree := invariant.agree.step invariant.order step

theorem Run.invariant {script : List Reading} (run : Run config (.start script) state) :
    Invariant config script state := by
  induction run with
  | refl => exact invariant_start config script
  | tail _ step ih => exact ih.step step

/-- A session that is over has accepted and delivered all that the script has to give. -/
theorem Invariant.final {script : List Reading} {ending : Except FeedError Unit}
    (invariant : Invariant config script state) (finished : state.consumer = .done ending) :
    state.accepted = (Session.ofScript config.maxReadErrors script).accepted ∧
      state.received = Detector.new.blocks state.accepted ∧
      ending = (deliver config script).ending := by
  obtain ⟨scannerEnded, channelEmpty⟩ := invariant.order.consumer (by rw [finished]; simp)
  have queueEmpty := (invariant.order.scanner scannerEnded).1
  have received := invariant.agree [] fun _ => rfl
  rw [channelEmpty, scannerEnded, Scanner.emits, List.append_nil, List.append_nil, List.append_nil]
    at received
  have session := invariant.session
  cases ending with
  | ok =>
    rw [invariant.order.joined (.inr finished), Reader.remaining, Session.following,
      Session.finished, List.append_nil] at session
    refine ⟨by rw [← session], received, ?_⟩
    rw [deliver, ← session]
    rfl
  | error =>
    rw [invariant.order.crashed finished, Reader.remaining, Session.following, List.append_nil]
      at session
    refine ⟨by rw [← session], received, ?_⟩
    rw [deliver, ← session]
    rfl

/-- The blocks received so far are the first of all blocks that the script has to give. -/
theorem Invariant.exists_later {script : List Reading}
    (invariant : Invariant config script state) :
    ∃ later, (deliver config script).blocks = state.received ++ later := by
  have agree := invariant.agree [] fun _ => rfl
  rw [List.append_nil, List.append_nil, List.append_assoc] at agree
  have whole : (deliver config script).blocks = Detector.new.blocks
      (state.accepted ++ (state.reader.remaining (readLimit config)).accepted) := by
    rw [deliver, ← invariant.session]
    rfl
  rw [whole, Detector.blocks_append, ← agree, List.append_assoc]
  exact ⟨_, rfl⟩

/-- Agreement under every order of steps. In each state that a session can reach, the queue is
within its capacity and no block is lost, repeated or out of order on the way; the session can go
on, and to its end; and when it is over, the consumer has received the blocks of all fragments that
the script gets accepted, and has learned whether the source crashed. -/
theorem every_interleaving_agrees (config : Config) (script : List Reading) (state : State)
    (run : Run config (.start script) state) :
    state.queue.length ≤ max config.queueCapacity 1 ∧
    state.received ++ state.channel ++ state.scanner.emits state.queue =
      Detector.new.blocks state.accepted ∧
    (state.IsFinal ∨ ∃ next, Step config state next) ∧
    (∃ final, Run config state final ∧ final.IsFinal) ∧
    ∀ ending, state.consumer = .done ending →
      state.accepted = (Session.ofScript config.maxReadErrors script).accepted ∧
      state.received = Detector.new.blocks state.accepted ∧
      ending = if (Session.ofScript config.maxReadErrors script).crashed then
        .error .sourceCrashed else .ok () := by
  have invariant := run.invariant
  refine ⟨invariant.bounded, ?_, ?_, exists_final state,
    fun ending finished => invariant.final finished⟩
  · have agree := invariant.agree [] fun _ => rfl
    rwa [List.append_nil, List.append_nil] at agree
  · by_cases finished : state.IsFinal
    · exact .inl finished
    · exact .inr (exists_step_of_not_final finished)

/-- A crash takes back no block that was closed before it, and joining tells of it. -/
theorem crashed_session_delivers_block :
    ∃ final, Run ⟨0, 16⟩
        (.start [.fragment "ROYAL RUBY", .fragment "Right mouse button", .crash]) final ∧
      final.received = [["ROYAL RUBY", "Right mouse button"]] ∧
      final.consumer = .done (.error .sourceCrashed) := by
  obtain ⟨final, run, ending, finished⟩ : ∃ final, Run ⟨0, 16⟩ (.start [.fragment "ROYAL RUBY",
      .fragment "Right mouse button", .crash]) final ∧ final.IsFinal := exists_final _
  obtain ⟨_, _, _, _, ends⟩ := every_interleaving_agrees _ _ final run
  obtain ⟨accepted, received, told⟩ := ends ending finished
  refine ⟨final, run, ?_, ?_⟩
  · rw [received, accepted]
    decide
  · rw [finished, told]
    rfl

end Pipeline

end LootSieve.Feed
