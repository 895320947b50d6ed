import Mathlib.Data.List.Forall2

/-!
Steps that may find nothing, taken for each element of a list or one beside another. Two steps side
by side find related results, or neither finds any.
-/

namespace LootSieve.Optional

variable {α β γ δ : Type}

/-! One step for each element. -/

theorem mapM_eq_some_iff {step : α → Option β} {values : List α} {results : List β} :
    values.mapM step = some results ↔
      List.Forall₂ (fun value result => step value = some result) values results := by
  induction values generalizing results with
  | nil =>
    rw [List.mapM_nil, List.forall₂_nil_left_iff, Option.pure_def, Option.some.injEq, eq_comm]
  | cons value values ih =>
    rw [List.mapM_cons, List.forall₂_cons_left_iff]
    simp only [Option.bind_eq_bind, Option.bind_eq_some_iff, Option.pure_def, Option.some.injEq, ih]
    constructor
    · rintro ⟨head, first, tail, others, rfl⟩
      exact ⟨head, tail, first, others, rfl⟩
    · rintro ⟨head, tail, first, others, rfl⟩
      exact ⟨head, first, tail, others, rfl⟩

theorem isSome_mapM_iff {step : α → Option β} {values : List α} :
    (values.mapM step).isSome = true ↔ ∀ value ∈ values, (step value).isSome = true := by
  induction values with
  | nil => simp
  | cons value values ih =>
    rw [List.mapM_cons, List.forall_mem_cons, ← ih]
    cases step value with
    | none => simp
    | some result => cases values.mapM step <;> simp

/-! Steps side by side. -/

/-- The results agree in what the form keeps of them. -/
def SameForm (form : α → β) (left right : α) : Prop := form left = form right

theorem sameForm_refl (form : α → β) (result : α) : SameForm form result result := rfl

theorem rel_refl {alike : α → α → Prop} (refl : ∀ result, alike result result) (read : Option α) :
    Option.Rel alike read read := by
  cases read with
  | none => exact .none
  | some result => exact .some (refl result)

theorem rel_imp {alike alikeToo : α → β → Prop} {first : Option α} {second : Option β}
    (now : Option.Rel alike first second) (imp : ∀ left right, alike left right →
      alikeToo left right) : Option.Rel alikeToo first second := by
  cases now with
  | none => exact .none
  | some given => exact .some (imp _ _ given)

theorem rel_map {alike : α → β → Prop} {alikeThen : γ → δ → Prop} {first : Option α}
    {second : Option β} {change : α → γ} {changeToo : β → δ} (now : Option.Rel alike first second)
    (later : ∀ left right, alike left right → alikeThen (change left) (changeToo right)) :
    Option.Rel alikeThen (first.map change) (second.map changeToo) := by
  cases now with
  | none => exact .none
  | some given => exact .some (later _ _ given)

theorem rel_of_map_eq {form : α → β} {first second : Option α}
    (same : first.map form = second.map form) : Option.Rel (SameForm form) first second := by
  cases first with
  | none =>
    cases second with
    | none => exact .none
    | some => cases same
  | some =>
    cases second with
    | none => cases same
    | some => exact .some (Option.some.inj same)

theorem rel_bind {alike : α → β → Prop} {alikeThen : γ → δ → Prop} {first : Option α}
    {second : Option β} {next : α → Option γ} {nextToo : β → Option δ}
    (now : Option.Rel alike first second)
    (later : ∀ left right, alike left right → Option.Rel alikeThen (next left) (nextToo right)) :
    Option.Rel alikeThen (first >>= next) (second >>= nextToo) := by
  cases now with
  | none => exact .none
  | some given => exact later _ _ given

theorem rel_bind_eq {alikeThen : γ → δ → Prop} {first second : Option α}
    {next : α → Option γ} {nextToo : α → Option δ} (now : Option.Rel Eq first second)
    (later : ∀ result, Option.Rel alikeThen (next result) (nextToo result)) :
    Option.Rel alikeThen (first >>= next) (second >>= nextToo) := by
  refine rel_bind now ?_
  rintro result _ rfl
  exact later result

theorem rel_mapM {alike : α → β → Prop} {alikeThen : γ → δ → Prop} {step : α → Option γ}
    {stepToo : β → Option δ} {values : List α} {others : List β}
    (each : List.Forall₂ alike values others)
    (steps : ∀ left right, alike left right → Option.Rel alikeThen (step left) (stepToo right)) :
    Option.Rel (List.Forall₂ alikeThen) (values.mapM step) (others.mapM stepToo) := by
  induction each with
  | nil => exact .some .nil
  | cons head _ ih =>
    rw [List.mapM_cons, List.mapM_cons]
    refine rel_bind (steps _ _ head) fun _ _ first => ?_
    exact rel_bind ih fun _ _ rest => .some (.cons first rest)

theorem sameForm_map {form : α → β} {lefts rights : List α}
    (each : List.Forall₂ (SameForm form) lefts rights) :
    SameForm (List.map form) lefts rights := by
  induction each with
  | nil => rfl
  | cons head _ ih => exact List.cons_eq_cons.2 ⟨head, ih⟩

end LootSieve.Optional
