import LootSieve.Proofs.Feed.Interleaving
import LootSieve.Proofs.Text.Scanning

/-!
Failed reads of a session. As long as no row of them is as long as the limit they leave no trace:
the session is that of the script without them. Otherwise the script counts up to the failure that
completes the first such row. Of what counts, everything up to the first reading that ends the
session is accepted, with nothing taken from it but its NUL characters.
-/

namespace LootSieve.Feed

/-! What single readings stand for. -/

namespace Reading

/-- The source closes, crashes or disconnects. -/
def ends : Reading → Bool
  | fragment raw => Text.occursIn disconnected.toList (withoutNul raw).toList
  | failure => false
  | closed | crash => true

/-- The text to accept, unless nothing is left without the NUL characters. -/
def text? : Reading → Option String
  | fragment raw => if (withoutNul raw).isEmpty then none else some (withoutNul raw)
  | failure | closed | crash => none

theorem ends_of_isEmpty {raw : String} (empty : (withoutNul raw).isEmpty = true) :
    (fragment raw).ends = false := by
  rw [String.isEmpty_iff] at empty
  rw [ends, empty]
  decide

end Reading

/-- The session over readings that all count. -/
def Session.ofReadings (readings : List Reading) : Session where
  accepted := (readings.takeWhile (!·.ends)).filterMap Reading.text?
  crashed := readings.find? Reading.ends = some .crash

namespace Session

theorem ofReadings_cons_of_ends {reading : Reading} (ends : reading.ends = true)
    (rest : List Reading) : ofReadings (reading :: rest) = ⟨[], reading = .crash⟩ := by
  simp [ofReadings, ends]

theorem ofReadings_cons_of_goes_on {reading : Reading} (goesOn : reading.ends = false)
    (rest : List Reading) :
    ofReadings (reading :: rest) =
      { ofReadings rest with accepted := reading.text?.toList ++ (ofReadings rest).accepted } := by
  cases text : reading.text? <;> simp [ofReadings, goesOn, text]

end Session

/-- The script with its failed reads deleted. -/
def withoutFailures (script : List Reading) : List Reading := script.filter (· ≠ .failure)

theorem ofReadings_withoutFailures (script : List Reading) :
    Session.ofReadings (withoutFailures script) = Session.ofReadings script := by
  induction script with
  | nil => rfl
  | cons reading rest ih =>
    by_cases fails : reading = .failure
    · subst fails
      rw [Session.ofReadings_cons_of_goes_on rfl, ← ih]
      rfl
    · have kept : withoutFailures (reading :: rest) = reading :: withoutFailures rest :=
        List.filter_cons_of_pos (by simpa using fails)
      rw [kept]
      by_cases ends : reading.ends = true
      · rw [Session.ofReadings_cons_of_ends ends, Session.ofReadings_cons_of_ends ends]
      · rw [Bool.not_eq_true] at ends
        rw [Session.ofReadings_cons_of_goes_on ends, Session.ofReadings_cons_of_goes_on ends, ih]

/-! Failures in a row. -/

/-- Somewhere so many reads fail in a row. -/
def FailsInRow (limit : Nat) (script : List Reading) : Prop :=
  List.replicate limit .failure <:+: script

instance (limit : Nat) (script : List Reading) : Decidable (FailsInRow limit script) :=
  inferInstanceAs (Decidable (_ <:+: _))

section FailsInRow
variable {limit failures : Nat} {front script rest : List Reading} {reading : Reading}

theorem failsInRow_append_cons_iff (reads : reading ≠ .failure) :
    FailsInRow limit (front ++ reading :: rest) ↔ FailsInRow limit front ∨ FailsInRow limit rest :=
  Text.isInfix_append_cons_iff fun member => reads (List.eq_of_mem_replicate member)

theorem failsInRow_of_le (reached : limit ≤ failures) :
    FailsInRow limit (List.replicate failures .failure ++ rest) := by
  refine ⟨[], List.replicate (failures - limit) .failure ++ rest, ?_⟩
  rw [List.nil_append, ← List.append_assoc, ← List.replicate_add, Nat.add_sub_cancel' reached]

theorem le_of_failsInRow (row : FailsInRow limit (List.replicate failures .failure)) :
    limit ≤ failures := by
  have shorter := row.length_le
  rwa [List.length_replicate, List.length_replicate] at shorter

theorem not_failsInRow_nil (positive : 0 < limit) : ¬ FailsInRow limit [] := by
  intro row
  have none : limit ≤ 0 := le_of_failsInRow row
  omega

theorem not_failsInRow_withoutFailures (positive : 0 < limit) (script : List Reading) :
    ¬ FailsInRow limit (withoutFailures script) := by
  intro row
  have member : .failure ∈ withoutFailures script :=
    row.subset (List.mem_replicate.2 ⟨Nat.ne_of_gt positive, rfl⟩)
  simp [withoutFailures] at member

/-- A failure at the head of a script adds to the row before it. -/
theorem replicate_append_failure (failures : Nat) (script : List Reading) :
    List.replicate failures .failure ++ Reading.failure :: script =
      List.replicate (failures + 1) .failure ++ script := by
  rw [List.replicate_succ', List.append_assoc, List.singleton_append]

/-- A row before a reading that does not fail is over. -/
theorem not_failsInRow_rest (reads : reading ≠ .failure)
    (steady : ¬ FailsInRow limit (List.replicate failures .failure ++ reading :: rest)) :
    ¬ FailsInRow limit (List.replicate 0 .failure ++ rest) :=
  fun row => steady ((failsInRow_append_cons_iff reads).2 (.inr row))

end FailsInRow

/-- The readings that count: all of them, or those before the failure that completes the first row
as long as the limit. -/
inductive Counts (limit : Nat) (script : List Reading) : List Reading → Prop
  | whole (steady : ¬ FailsInRow limit script) : Counts limit script script
  | cut {before after : List Reading} (split : script = before ++ .failure :: after)
    (row : FailsInRow limit (before ++ [.failure])) (first : ¬ FailsInRow limit before) :
    Counts limit script before

theorem exists_counts {limit : Nat} (positive : 0 < limit) (script : List Reading) :
    ∃ counted, Counts limit script counted := by
  induction script using List.reverseRecOn with
  | nil => exact ⟨[], .whole (not_failsInRow_nil positive)⟩
  | append_singleton script reading ih =>
    obtain ⟨counted, counts⟩ := ih
    cases counts with
    | @cut _ after split row first =>
      have split_concat : script ++ [reading] = counted ++ .failure :: (after ++ [reading]) := by
        rw [split, List.append_assoc, List.cons_append]
      exact ⟨counted, .cut split_concat row first⟩
    | whole steady =>
      by_cases row : FailsInRow limit (script ++ [reading])
      · have fails : reading = .failure := by
          by_contra reads
          rcases (failsInRow_append_cons_iff reads).1 row with before | after
          · exact steady before
          · exact not_failsInRow_nil positive after
        subst fails
        exact ⟨script, .cut rfl row steady⟩
      · exact ⟨_, .whole row⟩

/-! The session. -/

namespace Session

/-- Failures in rows shorter than the limit are passed over. The row that is under way when the
script begins counts as a part of it. -/
theorem after_eq_of_steady {limit failures : Nat} {script : List Reading}
    (steady : ¬ FailsInRow limit (List.replicate failures .failure ++ script)) :
    after limit failures script = ofReadings script := by
  induction script generalizing failures with
  | nil => rfl
  | cons reading rest ih =>
    cases reading with
    | closed => rfl
    | crash => rfl
    | failure =>
      rw [replicate_append_failure] at steady
      have below : ¬ limit ≤ failures + 1 := fun reached => steady (failsInRow_of_le reached)
      rw [after, if_neg below, ih steady, ofReadings_cons_of_goes_on rfl]
      rfl
    | fragment raw =>
      have reads : Reading.fragment raw ≠ .failure := by simp
      have rest_eq := ih (not_failsInRow_rest reads steady)
      simp only [after]
      split
      case isTrue empty =>
        rw [rest_eq, ofReadings_cons_of_goes_on (Reading.ends_of_isEmpty empty), Reading.text?,
          if_pos empty]
        rfl
      case isFalse nonempty =>
        split
        case isTrue occurs =>
          have ends : (Reading.fragment raw).ends = true := occurs
          rw [ofReadings_cons_of_ends ends]
          rfl
        case isFalse absent =>
          have goesOn : (Reading.fragment raw).ends = false := Bool.eq_false_iff.2 absent
          rw [ofReadings_cons_of_goes_on goesOn, rest_eq, Reading.text?, if_neg nonempty]
          rfl

/-- The failure that completes a row ends the session like the end of the script. -/
theorem after_append_failure {limit failures : Nat} {before : List Reading}
    (row : FailsInRow limit (List.replicate failures .failure ++ (before ++ [.failure])))
    (first : ¬ FailsInRow limit (List.replicate failures .failure ++ before))
    (rest : List Reading) :
    after limit failures (before ++ .failure :: rest) = after limit failures before := by
  induction before generalizing failures with
  | nil =>
    rw [List.nil_append, replicate_append_failure, List.append_nil] at row
    simp only [List.nil_append, after, if_pos (le_of_failsInRow row)]
  | cons reading before ih =>
    rw [List.cons_append] at row
    cases reading with
    | closed => rfl
    | crash => rfl
    | failure =>
      rw [replicate_append_failure] at row first
      rw [List.cons_append, after, after, ih row first]
    | fragment raw =>
      have reads : Reading.fragment raw ≠ .failure := by simp
      have later : FailsInRow limit (List.replicate 0 .failure ++ (before ++ [.failure])) := by
        rcases (failsInRow_append_cons_iff reads).1 row with early | late
        · exact absurd ((failsInRow_append_cons_iff reads).2 (.inl early)) first
        · exact late
      rw [List.cons_append, after, after, ih later (not_failsInRow_rest reads first)]

theorem after_eq_of_counts {limit : Nat} {script counted : List Reading}
    (counts : Counts limit script counted) : after limit 0 script = ofReadings counted := by
  cases counts with
  | whole steady => exact after_eq_of_steady steady
  | cut split row first => rw [split, after_append_failure row first, after_eq_of_steady first]

end Session

theorem deliver_congr {config : Config} {script other : List Reading}
    (same : Session.ofScript config.maxReadErrors other =
      Session.ofScript config.maxReadErrors script) :
    deliver config other = deliver config script := by
  unfold deliver
  rw [same]

/-- Read errors are transparent up to the cut-off. Without a row of failures as long as the limit,
the failures may as well be deleted; with one, only what stands before the end of the first such row
counts. What counts is accepted in order up to the first reading that ends the session, however the
threads of the session take turns. -/
theorem read_errors_transparent (config : Config) (script : List Reading) :
    (¬ FailsInRow (max config.maxReadErrors 1) script →
      Session.ofScript config.maxReadErrors (withoutFailures script) =
          Session.ofScript config.maxReadErrors script ∧
        deliver config (withoutFailures script) = deliver config script) ∧
    (∃ counted, Counts (max config.maxReadErrors 1) script counted) ∧
    ∀ counted, Counts (max config.maxReadErrors 1) script counted →
      let texts := (counted.takeWhile (!·.ends)).filterMap Reading.text?
      (Session.ofScript config.maxReadErrors script).accepted = texts ∧
      (deliver config script).blocks = Detector.new.blocks texts ∧
      ∀ state ending, Pipeline.Run config (.start script) state → state.consumer = .done ending →
        state.accepted = texts ∧ state.received = Detector.new.blocks texts := by
  have positive : 0 < max config.maxReadErrors 1 :=
    Nat.lt_of_lt_of_le Nat.one_pos (Nat.le_max_right _ 1)
  refine ⟨fun steady => ?_, exists_counts positive script, fun counted counts => ?_⟩
  case refine_1 =>
    have same : Session.ofScript config.maxReadErrors (withoutFailures script) =
        Session.ofScript config.maxReadErrors script := by
      have steadyToo := not_failsInRow_withoutFailures positive script
      calc Session.ofScript config.maxReadErrors (withoutFailures script)
        _ = Session.ofReadings (withoutFailures script) :=
            Session.after_eq_of_counts (.whole steadyToo)
        _ = Session.ofReadings script := ofReadings_withoutFailures script
        _ = Session.ofScript config.maxReadErrors script :=
            (Session.after_eq_of_counts (.whole steady)).symm
    exact ⟨same, deliver_congr same⟩
  case refine_2 =>
    have accepted : (Session.ofScript config.maxReadErrors script).accepted =
        (Session.ofReadings counted).accepted := by
      rw [Session.ofScript, Session.after_eq_of_counts counts]
    refine ⟨accepted, ?_, fun state ending run finished => ?_⟩
    · rw [deliver, accepted]
      rfl
    · obtain ⟨acceptedByThreads, received, _⟩ := run.invariant.final finished
      rw [received, acceptedByThreads, accepted]
      exact ⟨rfl, rfl⟩

/-- Two failures with an empty fragment between them do no harm; two in a row end the session before
the hint, so that no block comes out of it. -/
theorem ruby_lost_to_failures :
    let config : Config := ⟨100, 2⟩
    let steady : List Reading := [.failure, .fragment "ROYAL RUBY", .failure, .fragment "\x00",
      .failure, .fragment "Right mouse button"]
    let broken : List Reading := [.failure, .fragment "ROYAL\x00 RUBY", .failure, .failure,
      .fragment "Right mouse button"]
    ¬ FailsInRow 2 steady ∧ deliver config (withoutFailures steady) = deliver config steady ∧
    Counts 2 broken [.failure, .fragment "ROYAL\x00 RUBY", .failure] ∧
    (deliver config broken).blocks = [] ∧
    ∃ final, Pipeline.Run config (.start broken) final ∧ final.IsFinal ∧
      final.accepted = ["ROYAL RUBY"] := by
  intro config steady broken
  have apart : ¬ FailsInRow 2 steady := by decide
  have counts : Counts 2 broken [.failure, .fragment "ROYAL\x00 RUBY", .failure] :=
    .cut rfl (by decide) (by decide)
  obtain ⟨transparent, _, _⟩ := read_errors_transparent config steady
  obtain ⟨_, _, counted⟩ := read_errors_transparent config broken
  obtain ⟨_, blocks, threads⟩ := counted _ counts
  obtain ⟨final, run, ending, finished⟩ : ∃ final, Pipeline.Run config (.start broken) final ∧
    final.IsFinal := Pipeline.exists_final _
  refine ⟨apart, (transparent apart).2, counts, ?_, final, run, ⟨ending, finished⟩, ?_⟩
  · rw [blocks]
    decide
  · rw [(threads final ending run finished).1]
    decide

end LootSieve.Feed
