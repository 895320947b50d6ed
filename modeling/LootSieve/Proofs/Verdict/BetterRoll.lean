import LootSieve.Proofs.Verdict.Dispatch
import LootSieve.Proofs.Verdict.PoolCounting

/-!
A better roll never loses an item. Of two items that differ in power and random affixes only, the
second is better if it has at least the power of the first and at each place an affix at least as
good, with others after them. A requirement looks at the first affix of its name, which stays at
its place, so it is met again. For pools that do not limit their matches from above, each filter
that accepts the first item accepts the second.
-/

namespace LootSieve

/-- The requirements that some filter has on random affixes. Inherents are none of them. -/
def ProfileSet.requirements (profiles : ProfileSet) : List Requirement :=
  profiles.flatMap fun profile =>
    (profile.affixFilters.flatMap fun filter => filter.affixPools.flatMap (·.requirements)) ++
      profile.uniques.flatMap (·.affixes)

/-- No pool of affixes ever matches too many of its requirements. -/
def ProfileSet.LeavesRoom (profiles : ProfileSet) : Prop :=
  ∀ profile ∈ profiles, ∀ filter ∈ profile.affixFilters, ∀ pool ∈ filter.affixPools,
    pool.requirements.length ≤ pool.maxCount

/-- The second affix can take the place of the first: no requirement of the profiles that the first
meets is lost by its value. -/
structure Affix.Improvement (profiles : ProfileSet) (old new : Affix) : Prop where
  name : new.name = old.name
  tempered : new.isTempered = old.isTempered
  greater : old.isGreater = true → new.isGreater = true
  meets : ∀ requirement ∈ profiles.requirements, requirement.name = old.name →
    requirement.valueMeets old.roll.value = true → requirement.valueMeets new.roll.value = true

/-- The items differ in power and affixes only, and in these the second is the better one. -/
structure Item.Improvement (profiles : ProfileSet) (item better : Item) : Prop where
  powered : better.power.isSome = item.power.isSome
  power : ∀ old new, item.power = some old → better.power = some new → old ≤ new
  affixes : ∃ improved further, better.affixes = improved ++ further ∧
    List.Forall₂ (Affix.Improvement profiles) item.affixes improved
  rest : { item with power := better.power, affixes := better.affixes } = better

/-! Requirements and pools. -/

/-- Each requirement that the first affixes meet is met by the second, and by a greater affix if it
was before. -/
def Serves (requirements : List Requirement) (old new : List Affix) : Prop :=
  ∀ requirement ∈ requirements, ∀ hit, requirement.hit? old = some hit →
    ∃ better, requirement.hit? new = some better ∧ (hit.isGreater = true → better.isGreater = true)

theorem Requirement.hit?_cons (requirement : Requirement) (affix : Affix) (affixes : List Affix) :
    requirement.hit? (affix :: affixes) =
      if affix.name = requirement.name then
        if requirement.valueMeets affix.roll.value then some affix else none
      else requirement.hit? affixes := by
  unfold hit?
  rw [List.find?_cons]
  by_cases named : affix.name = requirement.name
  · simp [named, Option.filter]
  · simp [named]

theorem serves_of_improvement {profiles : ProfileSet} {requirements : List Requirement}
    {old improved : List Affix} (improves : List.Forall₂ (Affix.Improvement profiles) old improved)
    (asked : ∀ requirement ∈ requirements, requirement ∈ profiles.requirements)
    (further : List Affix) : Serves requirements old (improved ++ further) := by
  intro requirement member hit met
  induction improves with
  | nil => cases met
  | @cons first second old improved improves _ ih =>
    rw [List.cons_append, Requirement.hit?_cons, improves.name]
    rw [Requirement.hit?_cons] at met
    by_cases named : first.name = requirement.name
    · rw [if_pos named] at met ⊢
      obtain ⟨meets, same⟩ := Option.ite_none_right_eq_some.1 met
      cases same
      rw [if_pos (improves.meets requirement (asked requirement member) named.symm meets)]
      exact ⟨second, rfl, improves.greater⟩
    · rw [if_neg named] at met ⊢
      exact ih met

theorem countP_greater_le_of_improvement {profiles : ProfileSet} {old improved : List Affix}
    (improves : List.Forall₂ (Affix.Improvement profiles) old improved) :
    old.countP Affix.isGreater ≤ improved.countP Affix.isGreater := by
  induction improves with
  | nil => exact Nat.le_refl 0
  | @cons first second old improved better _ ih =>
    rw [List.countP_cons, List.countP_cons]
    have counted : (if first.isGreater = true then 1 else 0) ≤
        if second.isGreater = true then 1 else 0 := by
      split
      · next greater => exact Nat.le_of_eq (if_pos (better.greater greater)).symm
      · exact Nat.zero_le _
    omega

namespace Serves

variable {requirements : List Requirement} {old new : List Affix}
  (serves : Serves requirements old new)

include serves

theorem greaterCount_le : greaterCount requirements old ≤ greaterCount requirements new := by
  rw [← countP_hitsGreater, ← countP_hitsGreater]
  apply List.countP_mono_left
  intro requirement member hits
  obtain ⟨wanted, isGreater⟩ := Bool.and_eq_true_iff.1 hits
  obtain ⟨hit, met, greater⟩ := (Option.any_eq_true _ _).1 isGreater
  obtain ⟨better, again, stays⟩ := serves requirement member hit met
  rw [Requirement.hitsGreater, wanted, again]
  exact stays greater

theorem metCount_le : metCount requirements old ≤ metCount requirements new := by
  rw [← length_hits, ← length_hits, List.length_filterMap_eq_countP,
    List.length_filterMap_eq_countP]
  apply List.countP_mono_left
  intro requirement member isMet
  obtain ⟨hit, met⟩ := Option.isSome_iff_exists.1 isMet
  obtain ⟨better, again, _⟩ := serves requirement member hit met
  rw [again]
  rfl

theorem matchRequirements {minCount maxCount threshold : Nat}
    (room : requirements.length ≤ maxCount)
    (matched : (matchRequirements requirements minCount maxCount old threshold).isSome = true) :
    (LootSieve.matchRequirements requirements minCount maxCount new threshold).isSome = true := by
  have more := serves.metCount_le
  have greater := serves.greaterCount_le
  have all : metCount requirements new ≤ requirements.length := List.countP_le_length
  rw [isSome_matchRequirements_iff] at matched ⊢
  omega

end Serves

namespace Item.Improvement

variable {profiles : ProfileSet} {item better : Item}
  (improvement : Item.Improvement profiles item better)

include improvement

theorem type : better.type = item.type := (congrArg Item.type improvement.rest).symm

theorem rarity : better.rarity = item.rarity := (congrArg Item.rarity improvement.rest).symm

theorem name : better.name = item.name := (congrArg Item.name improvement.rest).symm

theorem inherents : better.inherents = item.inherents :=
  (congrArg Item.inherents improvement.rest).symm

theorem aspect : better.aspect = item.aspect := (congrArg Item.aspect improvement.rest).symm

theorem chaos : better.chaos = item.chaos := (congrArg Item.chaos improvement.rest).symm

theorem codexUpgrade : better.codexUpgrade = item.codexUpgrade :=
  (congrArg Item.codexUpgrade improvement.rest).symm

theorem cosmeticUpgrade : better.cosmeticUpgrade = item.cosmeticUpgrade :=
  (congrArg Item.cosmeticUpgrade improvement.rest).symm

theorem admitsPower {minPower : Int} (admits : admitsPower minPower item.power = true) :
    LootSieve.admitsPower minPower better.power = true := by
  obtain ⟨old, before, enough⟩ := (Option.any_eq_true _ _).1 admits
  have powered : better.power.isSome = true := by
    rw [improvement.powered, before]
    rfl
  obtain ⟨new, after⟩ := Option.isSome_iff_exists.1 powered
  rw [LootSieve.admitsPower, after]
  have least : minPower ≤ old := of_decide_eq_true enough
  exact decide_eq_true (Int.le_trans least (improvement.power old new before after))

theorem serves {requirements : List Requirement}
    (asked : ∀ requirement ∈ requirements, requirement ∈ profiles.requirements) :
    Serves requirements item.affixes better.affixes := by
  obtain ⟨improved, further, whole, improves⟩ := improvement.affixes
  rw [whole]
  exact serves_of_improvement improves asked further

/-- Affixes of both items are tempered at the same places, so they pair without these too. -/
theorem serves_untempered {requirements : List Requirement}
    (asked : ∀ requirement ∈ requirements, requirement ∈ profiles.requirements) :
    Serves requirements (item.affixes.filter (!·.isTempered))
      (better.affixes.filter (!·.isTempered)) := by
  obtain ⟨improved, further, whole, improves⟩ := improvement.affixes
  rw [whole, List.filter_append]
  apply serves_of_improvement ?_ asked
  apply List.rel_filter ?_ improves
  intro old new better
  beta_reduce
  rw [better.tempered]

theorem greaterCount_le : item.greaterCount ≤ better.greaterCount := by
  obtain ⟨improved, further, whole, improves⟩ := improvement.affixes
  have paired := countP_greater_le_of_improvement improves
  unfold Item.greaterCount
  rw [whole, List.countP_append]
  omega

end Item.Improvement

/-! Filters. -/

theorem mem_requirements_of_pool {profiles : ProfileSet} {profile : Profile} {filter : ItemFilter}
    {pool : Pool} (member : profile ∈ profiles) (among : filter ∈ profile.affixFilters)
    (inFilter : pool ∈ filter.affixPools) :
    ∀ requirement ∈ pool.requirements, requirement ∈ profiles.requirements := by
  intro requirement inPool
  apply List.mem_flatMap_of_mem member
  apply List.mem_append_left
  apply List.mem_flatMap_of_mem among
  exact List.mem_flatMap_of_mem inFilter inPool

theorem mem_requirements_of_unique {profiles : ProfileSet} {filter : UniqueFilter}
    (member : filter ∈ profiles.uniqueFilters) :
    ∀ requirement ∈ filter.affixes, requirement ∈ profiles.requirements := by
  intro requirement inFilter
  obtain ⟨profile, inProfiles, among⟩ := List.mem_flatMap.1 member
  apply List.mem_flatMap_of_mem inProfiles
  apply List.mem_append_right
  exact List.mem_flatMap_of_mem among inFilter

theorem ItemFilter.isSome_matched?_iff (filter : ItemFilter) (item : Item) :
    (filter.matched? item).isSome = true ↔
      (admitsType filter.types item.type = true ∧ admitsPower filter.minPower item.power = true ∧
        filter.minGreaterCount ≤ item.greaterCount) ∧
      (∀ pool ∈ filter.affixPools, (pool.matched? (item.affixes.filter (!·.isTempered))
        filter.minGreaterCount).isSome = true) ∧
      ∀ pool ∈ filter.inherentPools,
        (pool.matched? item.inherents filter.minGreaterCount).isSome = true := by
  rw [← Pool.isSome_allMatched?_iff, ← Pool.isSome_allMatched?_iff]
  unfold matched?
  simp only [Bool.and_eq_true, decide_eq_true_eq, and_assoc]
  split
  · next applies =>
    rw [and_iff_right applies.1, and_iff_right applies.2.1, and_iff_right applies.2.2]
    cases Pool.allMatched? filter.affixPools _ _ with
    | none => exact iff_of_false Bool.false_ne_true fun both => Bool.false_ne_true both.1
    | some found =>
      cases Pool.allMatched? filter.inherentPools _ _ with
      | none => exact iff_of_false Bool.false_ne_true fun both => Bool.false_ne_true both.2
      | some inherents => exact iff_of_true rfl ⟨rfl, rfl⟩
  · next refuses =>
    apply iff_of_false Bool.false_ne_true
    intro ⟨typed, powered, greater, _⟩
    exact refuses ⟨typed, powered, greater⟩

namespace Item.Improvement

variable {profiles : ProfileSet} {item better : Item}
  (improvement : Item.Improvement profiles item better)

include improvement

theorem itemFilter {profile : Profile} {filter : ItemFilter} (room : profiles.LeavesRoom)
    (member : profile ∈ profiles) (among : filter ∈ profile.affixFilters)
    (accepts : (filter.matched? item).isSome = true) : (filter.matched? better).isSome = true := by
  rw [ItemFilter.isSome_matched?_iff] at accepts ⊢
  obtain ⟨⟨typed, powered, greater⟩, affixes, inherents⟩ := accepts
  rw [improvement.type, improvement.inherents]
  refine ⟨⟨typed, improvement.admitsPower powered, ?_⟩, ?_, inherents⟩
  · exact Nat.le_trans greater improvement.greaterCount_le
  · intro pool inFilter
    have serves := improvement.serves_untempered (mem_requirements_of_pool member among inFilter)
    exact serves.matchRequirements (room profile member filter among pool inFilter)
      (affixes pool inFilter)

theorem uniqueFilter {filter : UniqueFilter} (member : filter ∈ profiles.uniqueFilters)
    (accepts : filter.admits item = true) : filter.admits better = true := by
  have serves := improvement.serves (mem_requirements_of_unique member)
  have aspect : ∀ wanted : AspectRequirement, wanted.admits better = wanted.admits item := by
    intro wanted
    rw [AspectRequirement.admits, AspectRequirement.admits, improvement.aspect, improvement.chaos]
  unfold UniqueFilter.admits at accepts ⊢
  simp only [Bool.and_eq_true, decide_eq_true_eq, improvement.rarity, improvement.type,
    improvement.aspect, aspect] at accepts ⊢
  obtain ⟨⟨⟨⟨⟨⟨mythic, typed⟩, powered⟩, named⟩, affixes⟩, greater⟩, percent⟩ := accepts
  exact ⟨⟨⟨⟨⟨⟨mythic, typed⟩, improvement.admitsPower powered⟩, named⟩,
    serves.matchRequirements (Nat.le_refl _) affixes⟩,
    Nat.le_trans greater improvement.greaterCount_le⟩, percent⟩

end Item.Improvement

/-! The decision. -/

namespace Verdict

variable {profiles : ProfileSet} {policy : Policy} {item better : Item}

/-- The matches of the filters that the rule for the item's rarity asks. -/
def filterMatches (item : Item) (profiles : ProfileSet) : List Match :=
  if item.rarity.isUniqueOrMythic then uniqueMatches item profiles else gearMatches item profiles

theorem mem_gearMatches_iff {found : Match} :
    found ∈ gearMatches item profiles ↔ ∃ profile ∈ profiles, ∃ filter ∈ profile.affixFilters,
      filter.match? profile.name item = some found := by
  simp only [gearMatches, List.mem_flatMap, List.mem_filterMap]

theorem mem_uniqueMatches_iff {found : Match} :
    found ∈ uniqueMatches item profiles ↔ ∃ profile ∈ profiles, ∃ filter ∈ profile.uniques,
      filter.match? profile.name item = some found := by
  simp only [uniqueMatches, List.mem_flatMap, List.mem_filterMap]

/-- Where one of the filters asked accepts the item, their matches are the answer. -/
theorem ofEquipment_of_matches (matched : filterMatches item profiles ≠ []) :
    (ofEquipment item profiles policy).keep = true ∧
      (ofEquipment item profiles policy).accepted = filterMatches item profiles := by
  unfold filterMatches at matched ⊢
  by_cases unique : item.rarity.isUniqueOrMythic = true
  · rw [if_pos unique] at matched
    rw [if_pos unique, ofEquipment_of_unique unique]
    refine ⟨keep_ofUnique_iff_ne_nil.2 (.inl matched), ?_⟩
    rw [ofUnique_eq]
  · rw [if_neg unique] at matched
    have asked : profiles.hasAffixFilters = true := by
      obtain ⟨found, member⟩ := List.exists_mem_of_ne_nil _ matched
      obtain ⟨profile, inProfiles, filter, among, _⟩ := mem_gearMatches_iff.1 member
      apply List.any_eq_true.2
      refine ⟨profile, inProfiles, ?_⟩
      rw [Bool.not_eq_true', List.isEmpty_eq_false_iff]
      exact List.ne_nil_of_mem among
    have keeps : (ofMatches (gearMatches item profiles)).keep = true := by
      rw [ofMatches, Bool.not_eq_true', List.isEmpty_eq_false_iff]
      exact matched
    rw [if_neg unique, ofEquipment, if_neg unique, ofGear, if_pos asked]
    dsimp only
    rw [keeps, Bool.true_or, if_pos rfl]
    exact ⟨keeps, rfl⟩

theorem decide_of_matches (equipment : item.IsEquipment) (worth : item.IsWorthAsking policy)
    (matched : filterMatches item profiles ≠ []) :
    (decide item profiles policy).keep = true ∧
      (decide item profiles policy).accepted = filterMatches item profiles := by
  have own := @ofEquipment_of_matches profiles policy item matched
  rw [decide_of_isEquipment equipment, ofRest_of_isWorthAsking equipment worth, if_pos own.1]
  exact own

end Verdict

namespace Item.Improvement

open Verdict

variable {profiles : ProfileSet} {policy : Policy} {item better : Item}
  (improvement : Item.Improvement profiles item better)

include improvement

theorem gearMatches (room : profiles.LeavesRoom) {found : Match}
    (member : found ∈ gearMatches item profiles) :
    ∃ again ∈ Verdict.gearMatches better profiles,
      again.name = found.name ∧ again.aspectMatched = found.aspectMatched := by
  obtain ⟨profile, inProfiles, filter, among, accepts⟩ := mem_gearMatches_iff.1 member
  obtain ⟨affixes, matched, rfl⟩ := Option.map_eq_some_iff.1 accepts
  have again := improvement.itemFilter room inProfiles among (Option.isSome_of_eq_some matched)
  obtain ⟨others, rematched⟩ := Option.isSome_iff_exists.1 again
  refine ⟨⟨profile.name ++ "." ++ filter.name, others, false⟩, ?_, rfl, rfl⟩
  apply mem_gearMatches_iff.2
  refine ⟨profile, inProfiles, filter, among, ?_⟩
  rw [ItemFilter.match?, rematched]
  rfl

theorem uniqueMatches {found : Match} (member : found ∈ uniqueMatches item profiles) :
    found ∈ Verdict.uniqueMatches better profiles := by
  obtain ⟨profile, inProfiles, filter, among, accepts⟩ := mem_uniqueMatches_iff.1 member
  apply mem_uniqueMatches_iff.2
  refine ⟨profile, inProfiles, filter, among, ?_⟩
  obtain ⟨admits, same⟩ := Option.ite_none_right_eq_some.1 accepts
  have again := improvement.uniqueFilter (List.mem_flatMap_of_mem inProfiles among) admits
  rw [UniqueFilter.match?, if_pos again, ← same, improvement.name, Item.aspectName?,
    improvement.aspect]
  rfl

theorem filterMatches (room : profiles.LeavesRoom) {found : Match}
    (member : found ∈ filterMatches item profiles) :
    ∃ again ∈ Verdict.filterMatches better profiles,
      again.name = found.name ∧ again.aspectMatched = found.aspectMatched := by
  unfold Verdict.filterMatches at member ⊢
  rw [improvement.rarity]
  split at member
  · next unique =>
    rw [if_pos unique]
    exact ⟨found, improvement.uniqueMatches member, rfl, rfl⟩
  · next plain =>
    rw [if_neg plain]
    exact improvement.gearMatches room member

/-- Where no filter accepts the better item, none accepted the other, and what else may keep an item
sees no difference. -/
theorem ofEquipment_eq (room : profiles.LeavesRoom)
    (unmatched : Verdict.filterMatches better profiles = []) :
    ofEquipment better profiles policy = ofEquipment item profiles policy := by
  have before : Verdict.filterMatches item profiles = [] := by
    apply List.eq_nil_iff_forall_not_mem.2
    intro found member
    obtain ⟨again, still, _⟩ := improvement.filterMatches room member
    rw [unmatched] at still
    cases still
  unfold Verdict.filterMatches at before unmatched
  unfold ofEquipment
  rw [improvement.rarity] at unmatched ⊢
  split
  · next unique =>
    rw [if_pos unique] at before unmatched
    have names : ∀ filter : UniqueFilter, filter.namesAspect better = filter.namesAspect item := by
      intro filter
      rw [UniqueFilter.namesAspect, UniqueFilter.namesAspect, Item.aspectName?, Item.aspectName?,
        improvement.aspect]
    rw [ofUnique_eq, ofUnique_eq, before, unmatched, improvement.rarity]
    simp only [names]
  · next plain =>
    rw [if_neg plain] at before unmatched
    have byAffixes : ofGear better profiles = ofGear item profiles := by
      rw [ofGear, ofGear, before, unmatched]
    have byAspect : ofAspectUpgrade better profiles policy =
        ofAspectUpgrade item profiles policy := by
      unfold ofAspectUpgrade upgradeMatches policyKeepsAspect
      rw [improvement.aspect, improvement.codexUpgrade]
    rw [byAffixes, byAspect]

theorem isEquipment (equipment : item.IsEquipment) : better.IsEquipment where
  typed := by
    rw [improvement.type]
    exact equipment.typed
  powered := improvement.powered.trans equipment.powered

theorem isWorthAsking (worth : item.IsWorthAsking policy) : better.IsWorthAsking policy := by
  rw [Item.IsWorthAsking, improvement.rarity, improvement.cosmeticUpgrade]
  exact worth

/-- The rules for tributes and looks read no affixes, and so does the dispatch. -/
theorem decide_eq (noSigil : ∀ type, item.type = some type → type.isSigil = false)
    (own : item.IsEquipment → item.IsWorthAsking policy →
      ofEquipment better profiles policy = ofEquipment item profiles policy) :
    Verdict.decide better profiles policy = Verdict.decide item profiles policy := by
  have fit : isUnfit better policy = isUnfit item policy := by
    have powered : better.power.isNone = item.power.isNone := by
      rw [← Option.not_isSome, ← Option.not_isSome, improvement.powered]
    rw [isUnfit, isUnfit, improvement.type, powered, improvement.rarity,
      improvement.cosmeticUpgrade]
  unfold Verdict.decide
  rw [improvement.type]
  split
  · next typed => exact absurd (noSigil _ typed) (by decide)
  · next typed => exact absurd (noSigil _ typed) (by decide)
  · unfold ofTribute tributeMatch? TributeFilter.admits
    rw [improvement.rarity, improvement.name]
  · next noTribute =>
    unfold ofRest
    rw [fit]
    split
    · rfl
    · next worth =>
      have unfit := Bool.eq_false_iff.2 worth
      obtain ⟨_, _, worth⟩ := isUnfit_eq_false_iff.1 unfit
      rw [own (isEquipment_of_fit noSigil noTribute unfit) worth]
      unfold ofCosmetic
      rw [improvement.cosmeticUpgrade]

/-- A better item is accepted by filters that its rule asks, or nothing changes for it. -/
theorem decide_cases (room : profiles.LeavesRoom)
    (noSigil : ∀ type, item.type = some type → type.isSigil = false) :
    ((Verdict.decide better profiles policy).keep = true ∧
      (Verdict.decide better profiles policy).accepted = Verdict.filterMatches better profiles) ∨
    Verdict.decide better profiles policy = Verdict.decide item profiles policy := by
  by_cases asked : item.IsEquipment ∧ item.IsWorthAsking policy ∧
      Verdict.filterMatches better profiles ≠ []
  · obtain ⟨equipment, worth, matched⟩ := asked
    exact .inl (decide_of_matches (improvement.isEquipment equipment)
      (improvement.isWorthAsking worth) matched)
  · apply Or.inr
    apply improvement.decide_eq noSigil
    intro equipment worth
    apply improvement.ofEquipment_eq room
    by_contra matched
    exact asked ⟨equipment, worth, matched⟩

end Item.Improvement

namespace Verdict

/-- A better roll never loses an item. If the pools leave room for more matches, whatever is kept of
the first item is kept of the better one, and every filter that accepts the first accepts the better
one, under the same name where the verdict lists it. -/
theorem keep_of_better_roll (item better : Item) (profiles : ProfileSet) (policy : Policy)
    (improvement : Item.Improvement profiles item better) (room : profiles.LeavesRoom)
    (noSigil : ∀ type, item.type = some type → type.isSigil = false) :
    ((decide item profiles policy).keep = true → (decide better profiles policy).keep = true) ∧
    (∀ profile ∈ profiles, ∀ filter ∈ profile.affixFilters,
      (filter.matched? item).isSome = true → (filter.matched? better).isSome = true) ∧
    (∀ filter ∈ profiles.uniqueFilters,
      filter.admits item = true → filter.admits better = true) ∧
    ∀ found ∈ (decide item profiles policy).accepted, found ∈ filterMatches item profiles →
      ∃ again ∈ (decide better profiles policy).accepted,
        again.name = found.name ∧ again.aspectMatched = found.aspectMatched := by
  refine ⟨?_, ?_, ?_, ?_⟩
  · intro keeps
    cases improvement.decide_cases room noSigil with
    | inl matched => exact matched.1
    | inr same =>
      rw [same]
      exact keeps
  · intro profile member filter among
    exact improvement.itemFilter room member among
  · intro filter member
    exact improvement.uniqueFilter member
  · intro found listed matched
    cases improvement.decide_cases room noSigil with
    | inl answer =>
      rw [answer.2]
      exact improvement.filterMatches room matched
    | inr same =>
      rw [same]
      exact ⟨found, listed, rfl, rfl⟩

/-- A rare ring with a dexterity roll and maybe more. -/
def dexterityRing (power : Int) (kind : AffixKind) (dexterity : Float) (further : List Affix) :
    Item :=
  { Item.plain .rare (some .ring) with
    power := some power
    affixes := ⟨"dexterity", "", .bare dexterity, kind⟩ :: further }

/-- Asks for one or two affixes, of which dexterity counts from a hundred on. -/
def rogueProfiles : ProfileSet :=
  [⟨"rogue", [⟨"Ring", [.ring], 600, 0, [⟨[⟨"dexterity", some 100.0, .larger, true⟩,
    ⟨"maximum_life", none, .larger, false⟩], 1, 2⟩], []⟩], [], none, [], []⟩]

theorem dexterityRing_improves :
    Item.Improvement rogueProfiles (dexterityRing 700 .normal 110.0 [])
      (dexterityRing 750 .greater 150.0 [⟨"maximum_life", "", .bare 400.0, .tempered⟩]) where
  powered := rfl
  power := by
    intro old new before after
    cases before
    cases after
    decide
  affixes := by
    refine ⟨_, _, List.singleton_append.symm, .cons ?_ .nil⟩
    -- By evaluation, as unification would compare the rolls.
    constructor <;> decide +kernel
  rest := rfl

theorem dexterityRing_stays_kept :
    rogueProfiles.LeavesRoom ∧
    (decide (dexterityRing 700 .normal 110.0 []) rogueProfiles .standard).keep = true ∧
    (decide (dexterityRing 750 .greater 150.0 [⟨"maximum_life", "", .bare 400.0, .tempered⟩])
      rogueProfiles .standard).keep = true := by
  have room : rogueProfiles.LeavesRoom := by
    unfold ProfileSet.LeavesRoom
    decide
  have noSigil : ∀ type, (dexterityRing 700 .normal 110.0 []).type = some type →
      type.isSigil = false := by
    intro type typed
    cases typed
    rfl
  have kept :
      (decide (dexterityRing 700 .normal 110.0 []) rogueProfiles .standard).keep = true := by
    decide +kernel
  exact ⟨room, kept, (keep_of_better_roll _ _ _ _ dexterityRing_improves room noSigil).1 kept⟩

end Verdict

end LootSieve
