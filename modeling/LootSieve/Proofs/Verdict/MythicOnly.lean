import LootSieve.Proofs.Verdict.Agreement
import LootSieve.Proofs.Verdict.UniqueFlags
import Mathlib.Tactic.ByContra

/-!
Unique filters for mythic items only, and items that are not mythic. Such a filter accepts none of
them, and every rule but the one for uniques passes it over. That rule still counts it among the
filters that ask for no aspect or for the aspect of the item, so it may take from a unique what
would have spared it. This is all that its presence can do.
-/

namespace LootSieve

/-- The profile without its filters for mythic items only. -/
def Profile.withoutMythicOnly (profile : Profile) : Profile :=
  { profile with uniques := profile.uniques.filter (!·.mythic) }

def ProfileSet.withoutMythicOnly (profiles : ProfileSet) : ProfileSet :=
  profiles.map Profile.withoutMythicOnly

namespace Verdict

variable {item : Item} {profiles : ProfileSet} {policy : Policy}

/-! Every other rule reads parts of the profiles that stay. -/

theorem ofSigil_withoutMythicOnly :
    ofSigil item profiles.withoutMythicOnly = ofSigil item profiles := by
  have asked : profiles.withoutMythicOnly.hasSigilFilters = profiles.hasSigilFilters := by
    exact List.any_map
  have accepted : profiles.withoutMythicOnly.filterMap (sigilMatch? item) =
      profiles.filterMap (sigilMatch? item) := by
    exact List.filterMap_map
  rw [ofSigil, ofSigil, asked, accepted]

theorem ofTribute_withoutMythicOnly :
    ofTribute item profiles.withoutMythicOnly = ofTribute item profiles := by
  have asked : profiles.withoutMythicOnly.hasTributeFilters = profiles.hasTributeFilters := by
    exact List.any_map
  have accepted : profiles.withoutMythicOnly.filterMap (tributeMatch? item) =
      profiles.filterMap (tributeMatch? item) := by
    exact List.filterMap_map
  rw [ofTribute, ofTribute, asked, accepted]

theorem ofGear_withoutMythicOnly :
    ofGear item profiles.withoutMythicOnly = ofGear item profiles := by
  have asked : profiles.withoutMythicOnly.hasAffixFilters = profiles.hasAffixFilters := by
    exact List.any_map
  have accepted : gearMatches item profiles.withoutMythicOnly = gearMatches item profiles := by
    exact List.flatMap_map _ _ _
  rw [ofGear, ofGear, asked, accepted]

theorem ofAspectUpgrade_withoutMythicOnly :
    ofAspectUpgrade item profiles.withoutMythicOnly policy =
      ofAspectUpgrade item profiles policy := by
  have accepted :
      upgradeMatches item profiles.withoutMythicOnly = upgradeMatches item profiles := by
    unfold upgradeMatches
    split
    · rw [ProfileSet.withoutMythicOnly, List.filterMap_map]
      rfl
    · rfl
  rw [ofAspectUpgrade, ofAspectUpgrade, accepted]

theorem ofEquipment_withoutMythicOnly (plain : item.rarity.isUniqueOrMythic = false) :
    ofEquipment item profiles.withoutMythicOnly policy = ofEquipment item profiles policy := by
  unfold ofEquipment
  rw [if_neg (Bool.eq_false_iff.1 plain), if_neg (Bool.eq_false_iff.1 plain),
    ofGear_withoutMythicOnly, ofAspectUpgrade_withoutMythicOnly]

/-! The rule for uniques. -/

theorem uniqueFilters_withoutMythicOnly :
    profiles.withoutMythicOnly.uniqueFilters = profiles.uniqueFilters.filter (!·.mythic) := by
  unfold ProfileSet.uniqueFilters ProfileSet.withoutMythicOnly
  rw [List.flatMap_map, List.filter_flatMap]
  rfl

theorem admits_eq_false_of_mythic {filter : UniqueFilter} (other : item.rarity ≠ .mythic)
    (mythic : filter.mythic = true) : filter.admits item = false := by
  simp [UniqueFilter.admits, mythic, other]

/-- No filter for mythic items only is among the matches. -/
theorem uniqueMatches_withoutMythicOnly (other : item.rarity ≠ .mythic) :
    uniqueMatches item profiles.withoutMythicOnly = uniqueMatches item profiles := by
  have skips : ∀ profile : String, (fun filter : UniqueFilter =>
      if (!filter.mythic) = true then filter.match? profile item else none) =
        UniqueFilter.match? profile item := by
    intro profile
    funext filter
    by_cases mythic : filter.mythic = true
    · rw [UniqueFilter.match?, admits_eq_false_of_mythic other mythic, mythic]
      rfl
    · rw [Bool.eq_false_iff.2 mythic]
      rfl
  unfold uniqueMatches ProfileSet.withoutMythicOnly
  rw [List.flatMap_map]
  apply congrArg profiles.flatMap
  funext profile
  change (profile.uniques.filter (!·.mythic)).filterMap (UniqueFilter.match? profile.name item) = _
  rw [List.filterMap_filter, skips]

theorem mem_withoutMythicOnly {filter : UniqueFilter} :
    filter ∈ profiles.withoutMythicOnly.uniqueFilters ↔
      filter ∈ profiles.uniqueFilters ∧ filter.mythic = false := by
  rw [uniqueFilters_withoutMythicOnly, List.mem_filter, Bool.not_eq_true']

theorem IsSpared.withoutMythicOnly (spared : IsSpared item profiles policy) :
    IsSpared item profiles.withoutMythicOnly policy := by
  apply spared.imp_right
  intro ⟨asks, unnamed, lenient⟩
  refine ⟨fun filter member => asks filter (mem_withoutMythicOnly.1 member).1, ?_, lenient⟩
  intro ⟨filter, member, names⟩
  exact unnamed ⟨filter, (mem_withoutMythicOnly.1 member).1, names⟩

/-- A filter for mythic items only takes from a unique that no filter accepts what would spare it:
of the other filters all ask for aspects and none for that of the item, but this one asks for none
or for just that. -/
structure IsObstructed (item : Item) (profiles : ProfileSet) (policy : Policy) : Prop where
  equipment : item.IsEquipment
  unique : item.rarity = .unique
  unmatched : ∀ filter ∈ profiles.uniqueFilters, filter.admits item = false
  lenient : policy.uniques ≠ .junk
  others : ∀ filter ∈ profiles.uniqueFilters, filter.mythic = false →
    filter.aspect.isSome = true ∧ filter.namesAspect item = false
  obstacle : ∃ filter ∈ profiles.uniqueFilters, filter.mythic = true ∧
    (filter.aspect = none ∨ filter.namesAspect item = true)

theorem isSpared_iff_of_unique (unique : item.rarity = .unique) :
    IsSpared item profiles policy ↔ (∀ filter ∈ profiles.uniqueFilters,
      filter.aspect.isSome = true ∧ filter.namesAspect item = false) ∧ policy.uniques ≠ .junk := by
  have ordinary : item.rarity ≠ .mythic := by
    rw [unique]
    decide
  have unnamed : ¬ AspectIsNamed item profiles ↔
      ∀ filter ∈ profiles.uniqueFilters, filter.namesAspect item = false := by
    rw [← any_namesAspect_iff, List.any_eq_true]
    simp only [not_exists, not_and, Bool.not_eq_true]
  unfold IsSpared AllAskForAspects
  rw [or_iff_right ordinary, unnamed, ← and_assoc, ← forall₂_and]

/-- What the filters for mythic items only can do is to obstruct. -/
theorem isObstructed_iff (equipment : item.IsEquipment) (unique : item.rarity = .unique) :
    IsObstructed item profiles policy ↔
      (∀ filter ∈ profiles.uniqueFilters, filter.admits item = false) ∧
        IsSpared item profiles.withoutMythicOnly policy ∧ ¬ IsSpared item profiles policy := by
  rw [isSpared_iff_of_unique unique, isSpared_iff_of_unique unique]
  constructor
  · intro obstructed
    obtain ⟨filter, member, mythic, obstacle⟩ := obstructed.obstacle
    refine ⟨obstructed.unmatched, ⟨?_, obstructed.lenient⟩, ?_⟩
    · intro other remains
      obtain ⟨among, ordinary⟩ := mem_withoutMythicOnly.1 remains
      exact obstructed.others other among ordinary
    · intro ⟨spares, _⟩
      obtain ⟨asks, unnamed⟩ := spares filter member
      cases obstacle with
      | inl absent => rw [absent] at asks; cases asks
      | inr named => rw [named] at unnamed; cases unnamed
  · intro ⟨unmatched, ⟨spares, lenient⟩, notSpared⟩
    have others : ∀ filter ∈ profiles.uniqueFilters, filter.mythic = false →
        filter.aspect.isSome = true ∧ filter.namesAspect item = false :=
      fun filter member ordinary => spares filter (mem_withoutMythicOnly.2 ⟨member, ordinary⟩)
    refine ⟨equipment, unique, unmatched, lenient, others, ?_⟩
    by_contra free
    apply notSpared
    refine ⟨fun filter member => ?_, lenient⟩
    by_cases ordinary : filter.mythic = false
    · exact others filter member ordinary
    · have mythic : filter.mythic = true := by simpa using ordinary
      constructor
      · by_contra absent
        exact free ⟨filter, member, mythic, .inl (by simpa using absent)⟩
      · by_contra named
        exact free ⟨filter, member, mythic, .inr (by simpa using named)⟩

/-! The decision. -/

/-- Both keep the item or both drop it, with the same matches. -/
structure Agree (first second : Verdict) : Prop where
  keep : first.keep = second.keep
  accepted : first.accepted = second.accepted

theorem decide_withoutMythicOnly (noUnique : item.IsEquipment → item.rarity ≠ .unique)
    (other : item.rarity ≠ .mythic) :
    decide item profiles.withoutMythicOnly policy = decide item profiles policy := by
  apply decide_congr ofSigil_withoutMythicOnly ofTribute_withoutMythicOnly
  intro equipment
  apply ofEquipment_withoutMythicOnly
  cases rarity : item.rarity with
  | unique => exact absurd rarity (noUnique equipment)
  | mythic => exact absurd rarity other
  | common | magic | rare | legendary => rfl

theorem isUniqueOrMythic_of_unique (unique : item.rarity = .unique) :
    item.rarity.isUniqueOrMythic = true := by
  rw [unique]
  rfl

/-- An obstructed unique would be kept unasked, but only its look may still save it. -/
theorem decide_of_isObstructed (obstructed : IsObstructed item profiles policy) :
    (decide item profiles.withoutMythicOnly policy).KeptUnasked ∧
      decide item profiles policy = ofCosmetic item policy := by
  obtain ⟨unmatched, spares, notSpared⟩ :=
    (isObstructed_iff obstructed.equipment obstructed.unique).1 obstructed
  have unique := isUniqueOrMythic_of_unique obstructed.unique
  constructor
  · apply Unasked.keptUnasked
    apply Unasked.sparedUnique obstructed.equipment unique ?_ spares
    intro filter remains
    exact unmatched filter (mem_withoutMythicOnly.1 remains).1
  · rw [decide_of_unique obstructed.equipment unique, if_neg]
    intro keeps
    cases keep_ofUnique_iff.1 keeps with
    | inl matched =>
      obtain ⟨filter, member, admits⟩ := matched
      rw [unmatched filter member] at admits
      cases admits
    | inr spared => exact notSpared spared

theorem agree_of_unobstructed (equipment : item.IsEquipment) (unique : item.rarity = .unique)
    (free : ¬ IsObstructed item profiles policy) :
    Agree (decide item profiles.withoutMythicOnly policy) (decide item profiles policy) := by
  have other : item.rarity ≠ .mythic := by
    rw [unique]
    decide
  have accepted : uniqueMatches item profiles.withoutMythicOnly = uniqueMatches item profiles :=
    uniqueMatches_withoutMythicOnly other
  have keeps : (ofUnique item profiles.withoutMythicOnly policy).keep =
      (ofUnique item profiles policy).keep := by
    rw [Bool.eq_iff_iff, keep_ofUnique_iff_ne_nil, keep_ofUnique_iff_ne_nil, accepted]
    by_cases matched : uniqueMatches item profiles ≠ []
    · exact iff_of_true (.inl matched) (.inl matched)
    · rw [or_iff_right matched, or_iff_right matched]
      refine ⟨fun spares => ?_, IsSpared.withoutMythicOnly⟩
      by_contra notSpared
      have unmatched := uniqueMatches_eq_nil_iff.1 (not_ne_iff.1 matched)
      exact free ((isObstructed_iff equipment unique).2 ⟨unmatched, spares, notSpared⟩)
  rw [decide_of_unique equipment (isUniqueOrMythic_of_unique unique),
    decide_of_unique equipment (isUniqueOrMythic_of_unique unique), keeps]
  split
  · exact ⟨keeps, by rw [ofUnique_eq, ofUnique_eq, accepted]⟩
  · exact ⟨rfl, rfl⟩

/-- Filters for mythic items only leave every other item to the remaining filters, unless one of
them obstructs it: without them the item is kept then, though no filter accepts it, and with them it
is left to its look. So they never save an item either. -/
theorem mythicOnly_matters_iff (item : Item) (profiles : ProfileSet) (policy : Policy)
    (other : item.rarity ≠ .mythic) :
    (Agree (decide item profiles.withoutMythicOnly policy) (decide item profiles policy) ↔
      ¬ IsObstructed item profiles policy) ∧
    (IsObstructed item profiles policy →
      (decide item profiles.withoutMythicOnly policy).KeptUnasked ∧
        decide item profiles policy = ofCosmetic item policy) ∧
    ((decide item profiles policy).keep = true →
      (decide item profiles.withoutMythicOnly policy).keep = true) := by
  have agree : ¬ IsObstructed item profiles policy →
      Agree (decide item profiles.withoutMythicOnly policy) (decide item profiles policy) := by
    intro free
    by_cases unique : item.IsEquipment ∧ item.rarity = .unique
    · exact agree_of_unobstructed unique.1 unique.2 free
    · rw [decide_withoutMythicOnly (fun equipment same => unique ⟨equipment, same⟩) other]
      exact ⟨rfl, rfl⟩
  refine ⟨⟨?_, agree⟩, decide_of_isObstructed, ?_⟩
  · intro agrees obstructed
    obtain ⟨unasked, left⟩ := decide_of_isObstructed obstructed
    have keptUnasked : (decide item profiles policy).KeptUnasked :=
      ⟨agrees.keep.symm.trans unasked.1, agrees.accepted.symm.trans unasked.2⟩
    rw [left] at keptUnasked
    exact restsOnMatches_ofCosmetic.not_keptUnasked keptUnasked
  · intro keeps
    by_cases obstructed : IsObstructed item profiles policy
    · exact (decide_of_isObstructed obstructed).1.1
    · rw [(agree obstructed).keep]
      exact keeps

/-- Asks for mythic items, of any kind or with one aspect. -/
def mythicProfiles (aspect : Option AspectRequirement) : ProfileSet :=
  [⟨"sorcerer", [], [], none, [], [⟨aspect, [], [], none, 0, 0, 0, true⟩]⟩]

def heirProfiles : ProfileSet := mythicProfiles (some ⟨"heir_of_perdition", none, .larger⟩)

theorem unsoughtRing_unobstructed :
    unsoughtRing.rarity ≠ .mythic ∧
    Agree (decide unsoughtRing heirProfiles.withoutMythicOnly .standard)
      (decide unsoughtRing heirProfiles .standard) := by
  have other : unsoughtRing.rarity ≠ .mythic := by decide
  have free : ¬ IsObstructed unsoughtRing heirProfiles .standard := by
    intro obstructed
    obtain ⟨filter, member, _, obstacle⟩ := obstructed.obstacle
    cases List.mem_singleton.1 member
    revert obstacle
    decide
  exact ⟨other, (mythicOnly_matters_iff _ _ _ other).1.2 free⟩

/-- A filter that asks for any mythic item costs a unique ring that is kept without the filter. -/
theorem unsoughtRing_lost_to_mythicOnly :
    unsoughtRing.rarity ≠ .mythic ∧
    (decide unsoughtRing (mythicProfiles none).withoutMythicOnly .standard).keep = true ∧
    (decide unsoughtRing (mythicProfiles none) .standard).keep = false := by
  refine ⟨by decide, ?_, ?_⟩
  · decide +kernel
  · decide +kernel

end Verdict

end LootSieve
