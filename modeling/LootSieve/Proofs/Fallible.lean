import Mathlib.Data.List.Forall2

/-!
Steps that may fail, one after another. A sequence gives a result exactly if each step does with the
results of the steps before it; a step taken for each element of a list, exactly if it succeeds for
every element.
-/

namespace LootSieve.Fallible

variable {ε α β : Type}

/-- The step gives some result. -/
def Succeeds (step : Except ε α) : Prop := ∃ result, step = .ok result

theorem succeeds_ok (result : α) : Succeeds (.ok result : Except ε α) := ⟨result, rfl⟩

theorem succeeds_pure (result : α) : Succeeds (pure result : Except ε α) := ⟨result, rfl⟩

theorem not_succeeds_error (fault : ε) : ¬ Succeeds (.error fault : Except ε α) := nofun

theorem ok_bind (value : α) (next : α → Except ε β) : (Except.ok value >>= next) = next value :=
  rfl

theorem bind_eq_ok_iff {step : Except ε α} {next : α → Except ε β} {result : β} :
    (step >>= next) = .ok result ↔ ∃ value, step = .ok value ∧ next value = .ok result := by
  cases step with
  | error fault =>
    constructor
    · exact nofun
    · rintro ⟨value, absurd, _⟩
      cases absurd
  | ok value =>
    constructor
    · exact fun last => ⟨value, rfl, last⟩
    · rintro ⟨other, same, last⟩
      cases same
      exact last

theorem bind_eq_error_iff {step : Except ε α} {next : α → Except ε β} {fault : ε} :
    (step >>= next) = .error fault ↔
      step = .error fault ∨ ∃ value, step = .ok value ∧ next value = .error fault := by
  cases step with
  | error first =>
    constructor
    · intro last
      cases last
      exact .inl rfl
    · rintro (same | ⟨value, absurd, _⟩)
      · cases same
        rfl
      · cases absurd
  | ok value =>
    constructor
    · exact fun last => .inr ⟨value, rfl, last⟩
    · rintro (absurd | ⟨other, same, last⟩)
      · cases absurd
      · cases same
        exact last

theorem succeeds_bind_iff {step : Except ε α} {next : α → Except ε β} :
    Succeeds (step >>= next) ↔ ∃ value, step = .ok value ∧ Succeeds (next value) := by
  constructor
  · rintro ⟨result, last⟩
    obtain ⟨value, first, second⟩ := bind_eq_ok_iff.1 last
    exact ⟨value, first, result, second⟩
  · rintro ⟨value, first, result, second⟩
    exact ⟨result, bind_eq_ok_iff.2 ⟨value, first, second⟩⟩

/-- What the later steps need may not depend on the result of the first. -/
theorem succeeds_bind_iff_and {step : Except ε α} {next : α → Except ε β} {rest : Prop}
    (independent : ∀ value, Succeeds (next value) ↔ rest) :
    Succeeds (step >>= next) ↔ Succeeds step ∧ rest := by
  rw [succeeds_bind_iff]
  constructor
  · rintro ⟨value, first, later⟩
    exact ⟨⟨value, first⟩, (independent value).1 later⟩
  · rintro ⟨⟨value, first⟩, later⟩
    exact ⟨value, first, (independent value).2 later⟩

theorem succeeds_bind_iff_left {step : Except ε α} {next : α → Except ε β}
    (always : ∀ value, Succeeds (next value)) : Succeeds (step >>= next) ↔ Succeeds step := by
  rw [succeeds_bind_iff_and fun value => iff_of_true (always value) trivial]
  exact and_iff_left trivial

theorem mapM_eq_ok_iff {step : α → Except ε β} {values : List α} {results : List β} :
    values.mapM step = .ok results ↔
      List.Forall₂ (fun value result => step value = .ok result) values results := by
  induction values generalizing results with
  | nil =>
    rw [List.mapM_nil, List.forall₂_nil_left_iff]
    exact ⟨fun last => (Except.ok.inj last).symm, fun none => none ▸ rfl⟩
  | cons value values ih =>
    rw [List.mapM_cons, bind_eq_ok_iff, List.forall₂_cons_left_iff]
    constructor
    · rintro ⟨head, first, later⟩
      obtain ⟨tail, others, last⟩ := bind_eq_ok_iff.1 later
      exact ⟨head, tail, first, ih.1 others, (Except.ok.inj last).symm⟩
    · rintro ⟨head, tail, first, others, rfl⟩
      exact ⟨head, first, bind_eq_ok_iff.2 ⟨tail, ih.2 others, rfl⟩⟩

/-- The results of a step that succeeds for all elements are those of the elements. -/
theorem mem_of_mapM_eq_ok {step : α → Except ε β} {values : List α} {results : List β}
    (read : values.mapM step = .ok results) {result : β} :
    result ∈ results ↔ ∃ value ∈ values, step value = .ok result := by
  have related := mapM_eq_ok_iff.1 read
  clear read
  induction related with
  | nil => simp
  | cons first _ ih =>
    rw [List.mem_cons, List.exists_mem_cons_iff, first, Except.ok.injEq, eq_comm]
    exact or_congr Iff.rfl ih

theorem succeeds_mapM_iff {step : α → Except ε β} {values : List α} :
    Succeeds (values.mapM step) ↔ ∀ value ∈ values, Succeeds (step value) := by
  induction values with
  | nil => exact iff_of_true (succeeds_ok []) nofun
  | cons value values ih =>
    have rest : ∀ head, Succeeds (values.mapM step >>= fun tail => pure (head :: tail)) ↔
        ∀ value ∈ values, Succeeds (step value) := by
      intro head
      rw [← ih]
      exact succeeds_bind_iff_left fun tail => succeeds_ok (head :: tail)
    rw [List.mapM_cons, succeeds_bind_iff_and rest, List.forall_mem_cons]

/-- A step taken for each element fails as it does for the first element for which it fails. -/
theorem mapM_eq_error_iff {step : α → Except ε β} {values : List α} {fault : ε} :
    values.mapM step = .error fault ↔ ∃ before value after, values = before ++ value :: after ∧
      (∀ other ∈ before, Succeeds (step other)) ∧ step value = .error fault := by
  induction values with
  | nil =>
    apply iff_of_false nofun
    rintro ⟨before, value, after, split, _⟩
    cases before <;> cases split
  | cons value values ih =>
    have rest : ∀ head, (values.mapM step >>= fun tail => pure (head :: tail)) = .error fault ↔
        values.mapM step = .error fault := by
      intro head
      rw [bind_eq_error_iff]
      exact or_iff_left fun ⟨_, _, last⟩ => nomatch last
    rw [List.mapM_cons, bind_eq_error_iff]
    simp only [rest, ih]
    constructor
    · rintro (fails | ⟨head, first, before, other, after, rfl, fine, fails⟩)
      · exact ⟨[], value, values, rfl, nofun, fails⟩
      · exact ⟨value :: before, other, after, rfl,
          List.forall_mem_cons.2 ⟨⟨head, first⟩, fine⟩, fails⟩
    · rintro ⟨before, other, after, split, fine, fails⟩
      cases before with
      | nil =>
        cases split
        exact .inl fails
      | cons first before =>
        cases split
        obtain ⟨⟨head, first⟩, fine⟩ := List.forall_mem_cons.1 fine
        exact .inr ⟨head, first, before, other, after, rfl, fine, fails⟩

theorem map_eq_ok_iff {change : α → β} {step : Except ε α} {result : β} :
    step.map change = .ok result ↔ ∃ value, step = .ok value ∧ change value = result := by
  cases step <;> simp [Except.map]

theorem mapError_eq_ok_iff {ζ : Type} {describe : ε → ζ} {step : Except ε α} {result : α} :
    step.mapError describe = .ok result ↔ step = .ok result := by
  cases step <;> simp [Except.mapError]

theorem mapError_eq_error_iff {ζ : Type} {describe : ε → ζ} (injective : describe.Injective)
    {step : Except ε α} {fault : ε} :
    step.mapError describe = .error (describe fault) ↔ step = .error fault := by
  cases step <;> simp [Except.mapError, injective.eq_iff]

theorem succeeds_mapError_iff {ζ : Type} {describe : ε → ζ} {step : Except ε α} :
    Succeeds (step.mapError describe) ↔ Succeeds step :=
  exists_congr fun _ => mapError_eq_ok_iff

theorem succeeds_optionMapM_iff {step : α → Except ε β} {value? : Option α} :
    Succeeds (value?.mapM step) ↔ ∀ value, value? = some value → Succeeds (step value) := by
  cases value? with
  | none => exact iff_of_true (succeeds_ok none) nofun
  | some value =>
    have single : Succeeds ((some value).mapM step) ↔ Succeeds (step value) := by
      change Succeeds (some <$> step value) ↔ _
      cases step value with
      | error fault => exact iff_of_false (not_succeeds_error fault) (not_succeeds_error fault)
      | ok result => exact iff_of_true (succeeds_ok _) (succeeds_ok _)
    rw [single]
    exact ⟨fun first other same => Option.some.inj same ▸ first, fun all => all value rfl⟩

/-! Changes to the elements that no step notices. -/

theorem mapM_map_of_same {change : α → α} {step : α → Except ε β}
    (same : ∀ value, step (change value) = step value) (values : List α) :
    (values.map change).mapM step = values.mapM step := by
  induction values with
  | nil => rfl
  | cons value values ih => rw [List.map_cons, List.mapM_cons, List.mapM_cons, same, ih]

theorem optionMapM_map_of_same {change : α → α} {step : α → Except ε β}
    (same : ∀ value, step (change value) = step value) (value? : Option α) :
    (value?.map change).mapM step = value?.mapM step := by
  cases value? with
  | none => rfl
  | some value => simp [same]

/-! Faults of a sequence. -/

/-- Whatever the step fails with has the property. -/
def FailsOnlyWith (holds : ε → Prop) (step : Except ε α) : Prop :=
  ∀ fault, step = .error fault → holds fault

section FailsOnlyWith
variable {holds : ε → Prop}

theorem failsOnlyWith_ok (result : α) : FailsOnlyWith holds (.ok result : Except ε α) := nofun

theorem failsOnlyWith_error {fault : ε} (given : holds fault) :
    FailsOnlyWith holds (.error fault : Except ε α) := by
  rintro _ ⟨⟩
  exact given

theorem FailsOnlyWith.bind {step : Except ε α} {next : α → Except ε β}
    (first : FailsOnlyWith holds step) (later : ∀ value, FailsOnlyWith holds (next value)) :
    FailsOnlyWith holds (step >>= next) := by
  intro fault fails
  rcases bind_eq_error_iff.1 fails with fails | ⟨value, _, fails⟩
  · exact first fault fails
  · exact later value fault fails

theorem failsOnlyWith_mapM {step : α → Except ε β}
    (each : ∀ value, FailsOnlyWith holds (step value)) (values : List α) :
    FailsOnlyWith holds (values.mapM step) := by
  intro fault fails
  obtain ⟨_, value, _, _, _, fails⟩ := mapM_eq_error_iff.1 fails
  exact each value fault fails

theorem failsOnlyWith_optionMapM {step : α → Except ε β}
    (each : ∀ value, FailsOnlyWith holds (step value)) (value? : Option α) :
    FailsOnlyWith holds (value?.mapM step) := by
  cases value? with
  | none => exact failsOnlyWith_ok none
  | some value => exact (each value).bind fun _ => failsOnlyWith_ok _

end FailsOnlyWith

/-! Two sequences side by side. -/

/-- Where the first step succeeds, so does the second, with a related result. -/
def Carries {γ : Type} (related : α → γ → Prop) (step : Except ε α) (next : Except ε γ) : Prop :=
  ∀ result, step = .ok result → ∃ other, next = .ok other ∧ related result other

section Carries
variable {γ δ : Type} {related : α → γ → Prop}

theorem carries_ok {result : α} {other : γ} (given : related result other) :
    Carries related (.ok result : Except ε α) (.ok other) := by
  rintro _ ⟨⟩
  exact ⟨other, rfl, given⟩

theorem carries_error {fault : ε} {next : Except ε γ} : Carries related (.error fault) next := nofun

theorem carries_self {step : Except ε α} : Carries Eq step step :=
  fun result succeeds => ⟨result, succeeds, rfl⟩

theorem Carries.bind {furtherRelated : β → δ → Prop} {step : Except ε α} {next : Except ε γ}
    {further : α → Except ε β} {furtherNext : γ → Except ε δ} (first : Carries related step next)
    (later : ∀ result other, related result other →
      Carries furtherRelated (further result) (furtherNext other)) :
    Carries furtherRelated (step >>= further) (next >>= furtherNext) := by
  intro result succeeds
  obtain ⟨value, succeedsFirst, succeedsLater⟩ := bind_eq_ok_iff.1 succeeds
  obtain ⟨other, nextSucceeds, given⟩ := first value succeedsFirst
  obtain ⟨last, lastSucceeds, lastGiven⟩ := later value other given result succeedsLater
  exact ⟨last, bind_eq_ok_iff.2 ⟨other, nextSucceeds, lastSucceeds⟩, lastGiven⟩

theorem Carries.bind_eq {furtherRelated : β → δ → Prop} {step next : Except ε α}
    {further : α → Except ε β} {furtherNext : α → Except ε δ} (first : Carries Eq step next)
    (later : ∀ result, Carries furtherRelated (further result) (furtherNext result)) :
    Carries furtherRelated (step >>= further) (next >>= furtherNext) := by
  refine first.bind ?_
  rintro result _ rfl
  exact later result

theorem carries_mapM {step : β → Except ε α} {next : β → Except ε γ}
    (each : ∀ value, Carries related (step value) (next value)) (values : List β) :
    Carries (List.Forall₂ related) (values.mapM step) (values.mapM next) := by
  induction values with
  | nil => exact carries_ok .nil
  | cons value values ih =>
    rw [List.mapM_cons, List.mapM_cons]
    exact (each value).bind fun _ _ head => ih.bind fun _ _ tail => carries_ok (.cons head tail)

theorem carries_optionMapM {step : β → Except ε α} {next : β → Except ε γ}
    (each : ∀ value, Carries related (step value) (next value)) (value? : Option β) :
    Carries (Option.Rel related) (value?.mapM step) (value?.mapM next) := by
  cases value? with
  | none => exact carries_ok .none
  | some value => exact (each value).bind fun _ _ given => carries_ok (.some given)

/-- Steps that give equal results may differ in their faults. -/
theorem carries_mapM_eq {step next : β → Except ε α}
    (each : ∀ value, Carries Eq (step value) (next value)) (values : List β) :
    Carries Eq (values.mapM step) (values.mapM next) := by
  intro results succeeds
  obtain ⟨others, nextSucceeds, same⟩ := carries_mapM each values results succeeds
  exact ⟨others, nextSucceeds, List.forall₂_eq_eq_eq ▸ same⟩

theorem carries_optionMapM_eq {step next : β → Except ε α}
    (each : ∀ value, Carries Eq (step value) (next value)) (value? : Option β) :
    Carries Eq (value?.mapM step) (value?.mapM next) := by
  intro result succeeds
  obtain ⟨other, nextSucceeds, same⟩ := carries_optionMapM each value? result succeeds
  refine ⟨other, nextSucceeds, ?_⟩
  cases same with
  | none => rfl
  | some same => rw [same]

end Carries

end LootSieve.Fallible
