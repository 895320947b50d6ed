import LootSieve.Proofs.Optional
import LootSieve.Verdict.Pools

/-!
What a pool counts. A requirement is hit by the first affix of its name or not at all. Whether the
threshold for greater affixes is off, within what the requirements can give or beyond it, the pool
asks for one thing: as many greater hits as the threshold says, or as there can be at most.
-/

namespace LootSieve

namespace Requirement

variable {requirement : Requirement} {affixes : List Affix} {affix : Affix}

/-- The affix is the first of the requirement's name, and its value is as asked for. -/
structure IsHit (requirement : Requirement) (affixes : List Affix) (affix : Affix) : Prop where
  named : affix.name = requirement.name
  first : ∃ before after, affixes = before ++ affix :: after ∧
    ∀ other ∈ before, other.name ≠ requirement.name
  valued : ∀ target, requirement.value = some target →
    ∃ value, affix.roll.value = some value ∧ requirement.comparison.accepts value target = true

/-- Some affix hits the requirement. -/
def IsMet (requirement : Requirement) (affixes : List Affix) : Prop :=
  ∃ affix, requirement.IsHit affixes affix

/-- The requirement wants a greater affix, and one hits it. -/
def IsMetGreater (requirement : Requirement) (affixes : List Affix) : Prop :=
  requirement.greater = true ∧ ∃ affix, requirement.IsHit affixes affix ∧ affix.isGreater = true

theorem valueMeets_iff {value : Option Float} :
    requirement.valueMeets value = true ↔ ∀ target, requirement.value = some target →
      ∃ number, value = some number ∧ requirement.comparison.accepts number target = true := by
  unfold valueMeets
  cases requirement.value with
  | none => exact iff_of_true rfl nofun
  | some target => simp only [Option.any_eq_true, Option.some.injEq, forall_eq']

theorem hit?_eq_some_iff :
    requirement.hit? affixes = some affix ↔ requirement.IsHit affixes affix := by
  unfold hit?
  rw [Option.filter_eq_some_iff, List.find?_eq_some_iff_append, valueMeets_iff]
  simp only [decide_eq_true_eq, Bool.not_eq_true', decide_eq_false_iff_not]
  constructor
  · rintro ⟨⟨named, before, after, split, others⟩, valued⟩
    exact ⟨named, ⟨before, after, split, others⟩, valued⟩
  · rintro ⟨named, ⟨before, after, split, others⟩, valued⟩
    exact ⟨⟨named, before, after, split, others⟩, valued⟩

theorem isSome_hit?_iff : (requirement.hit? affixes).isSome = true ↔ requirement.IsMet affixes := by
  rw [Option.isSome_iff_exists]
  exact exists_congr fun _ => hit?_eq_some_iff

theorem hitsGreater_iff : requirement.hitsGreater affixes = true ↔
    requirement.IsMetGreater affixes := by
  simp only [hitsGreater, Bool.and_eq_true, Option.any_eq_true, hit?_eq_some_iff, IsMetGreater]

instance (requirement : Requirement) (affixes : List Affix) :
    Decidable (requirement.IsMet affixes) :=
  decidable_of_iff _ isSome_hit?_iff

instance (requirement : Requirement) (affixes : List Affix) :
    Decidable (requirement.IsMetGreater affixes) :=
  decidable_of_iff _ hitsGreater_iff

end Requirement

section Counts

variable {requirements : List Requirement} {affixes : List Affix}
  {minCount maxCount threshold : Nat}

/-- The requirements that are met. -/
def metCount (requirements : List Requirement) (affixes : List Affix) : Nat :=
  requirements.countP fun requirement => requirement.IsMet affixes

/-- The requirements that want a greater affix. -/
def wantedCount (requirements : List Requirement) : Nat := requirements.countP (·.greater)

/-- The requirements that want a greater affix and have one. -/
def greaterCount (requirements : List Requirement) (affixes : List Affix) : Nat :=
  requirements.countP fun requirement => requirement.IsMetGreater affixes

theorem countP_hitsGreater (requirements : List Requirement) (affixes : List Affix) :
    requirements.countP (·.hitsGreater affixes) = greaterCount requirements affixes := by
  apply List.countP_congr
  intro requirement _
  rw [decide_eq_true_eq, Requirement.hitsGreater_iff]

theorem length_hits (requirements : List Requirement) (affixes : List Affix) :
    (requirements.filterMap (·.hit? affixes)).length = metCount requirements affixes := by
  rw [List.length_filterMap_eq_countP]
  apply List.countP_congr
  intro requirement _
  rw [decide_eq_true_eq, Requirement.isSome_hit?_iff]

theorem greaterCount_le_wantedCount (requirements : List Requirement) (affixes : List Affix) :
    greaterCount requirements affixes ≤ wantedCount requirements := by
  apply List.countP_mono_left
  intro requirement _ met
  exact (of_decide_eq_true met).1

/-- Off, flexible and hard mode ask for the same. -/
theorem enoughGreater_iff : enoughGreater requirements affixes threshold = true ↔
    min threshold (wantedCount requirements) ≤ greaterCount requirements affixes := by
  have most := greaterCount_le_wantedCount requirements affixes
  unfold enoughGreater
  dsimp only
  rw [countP_hitsGreater]
  change (if wantedCount requirements = 0 || threshold = 0 then true
    else if wantedCount requirements < threshold then
      decide (greaterCount requirements affixes = wantedCount requirements)
    else decide (threshold ≤ greaterCount requirements affixes)) = true ↔ _
  split
  · next off =>
    simp only [Bool.or_eq_true, decide_eq_true_eq] at off
    exact iff_of_true rfl (by omega)
  · split
    · next hard =>
      rw [decide_eq_true_eq]
      omega
    · next flexible =>
      rw [decide_eq_true_eq]
      omega

theorem isSome_matchRequirements_iff :
    (matchRequirements requirements minCount maxCount affixes threshold).isSome = true ↔
      minCount ≤ metCount requirements affixes ∧ metCount requirements affixes ≤ maxCount ∧
        min threshold (wantedCount requirements) ≤ greaterCount requirements affixes := by
  unfold matchRequirements
  dsimp only
  rw [length_hits, Option.isSome_ite]
  simp only [Bool.and_eq_true, decide_eq_true_eq, enoughGreater_iff, and_assoc]

end Counts

namespace Pool

variable {pools : List Pool} {affixes : List Affix} {threshold : Nat}

theorem isSome_allMatched?_iff :
    (allMatched? pools affixes threshold).isSome = true ↔
      ∀ pool ∈ pools, (pool.matched? affixes threshold).isSome = true := by
  rw [allMatched?, Option.isSome_map, Optional.isSome_mapM_iff]

end Pool

end LootSieve
