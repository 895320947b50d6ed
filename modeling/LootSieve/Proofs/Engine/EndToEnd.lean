import LootSieve.Proofs.Engine.Operation

/-!
What all orders of steps of a session come to. After any of them the sink has been given what comes
of the first blocks of the session, each once and in order, and the counts tell of just these; when
the loop has returned, these are all blocks. A crash of the source changes what is returned, but
takes nothing from the sink.
-/

namespace LootSieve.Engine.Operation
open Feed (Config FeedError Reading deliver)

variable {engine : Engine} {config : Config} {state next : State} {handled : List (List String)}

/-- The loop is done with these blocks, and the sink and the counts tell of them. -/
structure Accounts (engine : Engine) (state : State) (handled : List (List String)) : Prop where
  received : state.pipeline.received = handled ++ state.phase.blocks
  sink : state.sink = engine.outcomes handled
  tally : state.tally = { engine.tally handled with blocks := state.pipeline.received.length }
  addressable : ∀ block ∈ handled, engine.Addressable block
  broken : ∀ block, state.phase = .broken block → ¬ engine.Addressable block
  busy : state.phase ≠ .waiting → state.pipeline.consumer = .receiving

theorem accounts_start (engine : Engine) (script : List Reading) :
    Accounts engine (.start script) [] where
  received := rfl
  sink := rfl
  tally := rfl
  addressable := nofun
  broken := nofun
  busy := fun atWork => absurd rfl atWork

/-- The loop is done with the block that it holds. -/
theorem Accounts.concat {block : List String} (accounts : Accounts engine state handled)
    (holds : state.phase = .holding block) (addressable : engine.Addressable block) :
    Accounts engine { state with
      phase := .waiting
      sink := state.sink ++ (engine.process block).toList
      tally := {
        blocks := state.tally.blocks
        failed := state.tally.failed + if (engine.process block).isNone then 1 else 0
        kept := state.tally.kept + (engine.process block).toList.countP (·.verdict.keep) } }
      (handled ++ [block]) where
  received := by
    have received := accounts.received
    rw [holds] at received
    rw [received]
    exact (List.append_nil _).symm
  sink := by rw [outcomes_concat, accounts.sink]
  tally := by rw [accounts.tally, tally_concat]
  addressable := by
    intro other member
    cases List.mem_append.1 member with
    | inl before => exact accounts.addressable other before
    | inr last => exact List.mem_singleton.1 last ▸ addressable
  broken := nofun
  busy := fun atWork => absurd rfl atWork

theorem Accounts.step (accounts : Accounts engine state handled)
    (step : Step engine config state next) : ∃ handled, Accounts engine next handled := by
  cases step with
  | thread step consumer received =>
    refine ⟨handled, ?_⟩
    obtain ⟨before, sink, tally, addressable, broken, busy⟩ := accounts
    exact ⟨received.trans before, sink, by rw [tally, received], addressable, broken,
      fun atWork => consumer.trans (busy atWork)⟩
  | @leave after waits step moves =>
    refine ⟨handled, ?_⟩
    obtain ⟨before, sink, tally, addressable, broken, _⟩ := accounts
    have received : after.received = state.pipeline.received := by
      rcases step.sort with ⟨stays, _⟩ | ⟨stays, still, _⟩ | ⟨_, received⟩
      · exact absurd stays moves
      · exact absurd (still.trans stays.symm) moves
      · exact received
    exact ⟨received.trans before, sink, by rw [tally, received], addressable, broken,
      fun atWork => absurd waits atWork⟩
  | @receive after block waits step received =>
    refine ⟨handled, ?_⟩
    obtain ⟨before, sink, tally, addressable, _, _⟩ := accounts
    rw [waits, Phase.blocks, List.append_nil] at before
    refine ⟨by rw [received, before]; rfl, sink, ?_, addressable, ?_, fun _ => ?_⟩
    · rw [tally, received, List.length_append]
      rfl
    · intro other same
      cases same
    · rcases step.sort with ⟨_, same⟩ | ⟨_, still, _⟩ | ⟨_, same⟩
      · exact absurd (same.symm.trans received) (by simp)
      · exact still
      · exact absurd (same.symm.trans received) (by simp)
  | @deliver block item holds readable =>
    refine ⟨handled ++ [block], ?_⟩
    have done := accounts.concat holds (addressable_of_read_eq_ok readable)
    rw [process_of_read_eq_ok readable] at done
    simpa only [Option.toList_some, Option.isNone_some, Bool.false_eq_true, if_false,
      Nat.add_zero, List.countP_singleton] using done
  | @skip block fault holds unreadable addressable =>
    refine ⟨handled ++ [block], ?_⟩
    have done := accounts.concat holds addressable
    rw [process_of_read_eq_error unreadable] at done
    simpa only [Option.toList_none, Option.isNone_none, if_true, List.append_nil,
      List.countP_nil, Nat.add_zero] using done
  | @breakOff block holds overflows =>
    refine ⟨handled, ?_⟩
    obtain ⟨before, sink, tally, addressable, _, busy⟩ := accounts
    rw [holds] at before busy
    refine ⟨before, sink, tally, addressable, ?_, fun _ => busy nofun⟩
    intro other same
    cases same
    exact overflows

/-- To the pipeline the loop is a consumer like any other. -/
theorem Step.pipeline (step : Step engine config state next) :
    Feed.Pipeline.Run config state.pipeline next.pipeline := by
  cases step with
  | thread step | receive _ step | leave _ step => exact .single step
  | deliver | skip | breakOff => exact .refl

theorem Run.pipeline (run : Run engine config state next) :
    Feed.Pipeline.Run config state.pipeline next.pipeline := by
  induction run with
  | refl => exact .refl
  | tail _ step ih => exact ih.trans step.pipeline

theorem Run.accounts {script : List Reading} (run : Run engine config (.start script) state) :
    ∃ handled, Accounts engine state handled := by
  induction run with
  | refl => exact ⟨[], accounts_start engine script⟩
  | tail _ step ih =>
    obtain ⟨handled, accounts⟩ := ih
    exact accounts.step step

/-- What a session has come to when the loop returns: the sink has the outcomes of all blocks that
can be read, in order, and a tally counts them; it is withheld exactly if the source crashed. -/
structure Concluded (engine : Engine) (blocks : List (List String)) (crashed : Bool)
    (sink : List Outcome) (result : Except FeedError Tally) : Prop where
  outcomes : sink = (blocks.filterMap fun block => (engine.read block).toOption).map fun item =>
    ⟨item, Verdict.decide item engine.profiles engine.policy⟩
  crash : crashed = true → result = .error .sourceCrashed
  success : crashed = false → ∃ tally, result = .ok tally
  counts : ∀ tally, result = .ok tally → tally.blocks = blocks.length ∧
    tally.failed = blocks.countP (fun block => (engine.read block).toOption.isNone) ∧
    tally.kept = sink.countP (·.verdict.keep) ∧ tally.blocks = tally.failed + sink.length

theorem concluded_run (engine : Engine) (config : Config) (script : List Reading) :
    Concluded engine (deliver config script).blocks
      (Feed.Session.ofScript config.maxReadErrors script).crashed
      (engine.run config script).1 (engine.run config script).2 where
  outcomes := outcomes_eq_map engine _
  crash := by
    intro crashed
    rw [run, deliver, if_pos crashed]
    rfl
  success := by
    intro orderly
    rw [run, deliver, if_neg (Bool.eq_false_iff.1 orderly)]
    exact ⟨_, rfl⟩
  counts := by
    intro tally returned
    have counted : tally = engine.tally (deliver config script).blocks := by
      change (deliver config script).ending.map _ = _ at returned
      cases ending : (deliver config script).ending with
      | error fault =>
        rw [ending] at returned
        cases returned
      | ok =>
        rw [ending] at returned
        exact (Except.ok.inj returned).symm
    rw [counted]
    refine ⟨rfl, ?_, rfl, length_eq_failed_add_outcomes engine _⟩
    apply congrArg (List.countP · _)
    funext block
    rw [process_eq_map, Option.isNone_map]

/-- When the loop has returned, the sink and what is returned are those of a run block by block. -/
theorem Accounts.returned {script : List Reading} {result : Except FeedError Tally}
    (accounts : Accounts engine state handled)
    (invariant : Feed.Pipeline.Invariant config script state.pipeline)
    (returned : state.result? = some result) : (state.sink, result) = engine.run config script := by
  unfold State.result? at returned
  split at returned
  · next ending finished =>
    have idle : state.phase = .waiting := by
      by_contra atWork
      rw [accounts.busy atWork] at finished
      cases finished
    obtain ⟨accepted, received, ends⟩ := invariant.final finished
    have blocks : handled = (deliver config script).blocks := by
      have before := accounts.received
      rw [idle, Phase.blocks, List.append_nil] at before
      rw [← before, received, accepted]
      rfl
    have tally : state.tally = engine.tally handled := by
      rw [accounts.tally, accounts.received, idle, Phase.blocks, List.append_nil]
      rfl
    cases returned
    rw [accounts.sink, tally, blocks, ends]
    rfl
  · cases returned

/-- A session from end to end, under every order of steps of its loop and its threads. At any time
the sink has been given what comes of the first blocks of the session; the session can go on, and to
its end. It breaks off only in a block whose lines have no positions. Otherwise the loop returns,
and then all is as if the accepted fragments had been cut into blocks, and these read and decided
about, one by one. -/
theorem every_session_concludes (engine : Engine) (config : Config) (script : List Reading)
    (state : State) (run : Run engine config (.start script) state) :
    (∃ handled later, (deliver config script).blocks = handled ++ later ∧
      state.sink = engine.outcomes handled) ∧
    (state.IsOver ∨ ∃ next, Step engine config state next) ∧
    (∃ final, Run engine config state final ∧ final.IsOver) ∧
    (∀ block, state.phase = .broken block →
      block ∈ (deliver config script).blocks ∧ ¬ engine.Addressable block) ∧
    ∀ result, state.result? = some result →
      Concluded engine (deliver config script).blocks
        (Feed.Session.ofScript config.maxReadErrors script).crashed state.sink result ∧
      (state.sink, result) = engine.run config script := by
  obtain ⟨handled, accounts⟩ := run.accounts
  have invariant := run.pipeline.invariant
  obtain ⟨later, whole⟩ := invariant.exists_later
  rw [accounts.received, List.append_assoc] at whole
  refine ⟨⟨handled, _, whole, accounts.sink⟩, ?_, exists_over state, ?_, ?_⟩
  · by_cases ended : state.IsOver
    · exact .inl ended
    · exact .inr (exists_step_of_not_over ended)
  · intro block broken
    refine ⟨?_, accounts.broken block broken⟩
    rw [whole, broken]
    apply List.mem_append_right
    exact List.mem_cons_self
  · intro result returned
    have same := accounts.returned invariant returned
    refine ⟨?_, same⟩
    have concluded := concluded_run engine config script
    rw [← same] at concluded
    exact concluded

/-! A crash after two rings, of which the first is unknown. -/

def twoRings : List Reading :=
  [.fragment "LOST LOOP", .fragment "Unique Ring", .fragment "Right mouse button", .failure,
    .fragment "GRIM LOOP", .fragment "Rare Ring", .fragment "750 Item Power",
    .fragment "Sanctified", .fragment "Right mouse button", .crash]

theorem twoRings_concludes :
    ∃ final, Run plain ⟨0, 16⟩ (.start twoRings) final ∧
      final.sink.map (fun outcome => (outcome.item.name, outcome.verdict.keep)) =
        [("grim_loop", true)] ∧
      final.result? = some (.error .sourceCrashed) := by
  obtain ⟨final, run, ended⟩ :
      ∃ final, Run plain ⟨0, 16⟩ (.start twoRings) final ∧ final.IsOver := exists_over _
  obtain ⟨_, _, _, broken, concludes⟩ := every_session_concludes _ _ _ final run
  have returns : ∃ result, final.result? = some result := by
    cases ended with
    | inl final =>
      obtain ⟨ending, finished⟩ := final
      rw [State.result?, finished]
      exact ⟨_, rfl⟩
    | inr broke =>
      obtain ⟨block, broke⟩ := broke
      have addressable : ∀ block ∈ (deliver ⟨0, 16⟩ twoRings).blocks,
          plain.Addressable block := by
        decide +kernel
      obtain ⟨member, overflows⟩ := broken block broke
      exact absurd (addressable block member) overflows
  obtain ⟨result, returned⟩ := returns
  obtain ⟨concluded, same⟩ := concludes result returned
  refine ⟨final, run, ?_, ?_⟩
  · have sink : final.sink = (plain.run ⟨0, 16⟩ twoRings).1 := congrArg Prod.fst same
    rw [sink]
    decide +kernel
  · rw [returned, concluded.crash (by decide +kernel)]

end LootSieve.Engine.Operation
