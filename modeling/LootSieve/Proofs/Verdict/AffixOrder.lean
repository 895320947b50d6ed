import LootSieve.Proofs.Verdict.Dispatch
import LootSieve.Proofs.Verdict.PoolCounting
import Mathlib.Data.List.Perm.Basic

/-!
The order of the affixes on a tooltip does not matter. A requirement looks at the first affix of its
name, and where names are distinct there is no other. All else that the rules ask of affixes is
whether some have a name, or how many are greater. So an item gets the same verdict, with the same
affixes listed in the same order, however its affixes and its inherents are arranged.
-/

namespace LootSieve

/-- No two affixes share a name. -/
def DistinctNames (affixes : List Affix) : Prop := (affixes.map (·.name)).Nodup

/-- Every requirement meets the same affix in both lists. -/
def HitAlike (others affixes : List Affix) : Prop :=
  ∀ requirement : Requirement, requirement.hit? others = requirement.hit? affixes

section Lists

variable {affixes others : List Affix}

theorem DistinctNames.perm (distinct : DistinctNames affixes) (permuted : others.Perm affixes) :
    DistinctNames others :=
  (permuted.map _).nodup_iff.2 distinct

theorem DistinctNames.filter (distinct : DistinctNames affixes) (test : Affix → Bool) :
    DistinctNames (affixes.filter test) :=
  List.Nodup.sublist (List.filter_sublist.map _) distinct

namespace Requirement

variable {requirement : Requirement} {affix : Affix}

/-- The only affix of a name is the first of it. -/
theorem isHit_iff_mem (distinct : DistinctNames affixes) :
    requirement.IsHit affixes affix ↔
      affix ∈ affixes ∧ affix.name = requirement.name ∧
        requirement.valueMeets affix.roll.value = true := by
  rw [valueMeets_iff]
  constructor
  · rintro ⟨named, ⟨before, after, rfl, _⟩, valued⟩
    exact ⟨List.mem_append_right _ List.mem_cons_self, named, valued⟩
  · rintro ⟨member, named, valued⟩
    obtain ⟨before, after, rfl⟩ := List.append_of_mem member
    refine ⟨named, ⟨before, after, rfl, fun other earlier same => ?_⟩, valued⟩
    rw [DistinctNames, List.map_append, List.nodup_append] at distinct
    refine distinct.2.2 other.name (List.mem_map_of_mem earlier) affix.name ?_
      (same.trans named.symm)
    exact List.mem_map_of_mem List.mem_cons_self

end Requirement

theorem hitAlike_of_perm (permuted : others.Perm affixes) (distinct : DistinctNames affixes) :
    HitAlike others affixes := by
  intro requirement
  apply Option.ext
  intro affix
  rw [Requirement.hit?_eq_some_iff, Requirement.hit?_eq_some_iff,
    Requirement.isHit_iff_mem (distinct.perm permuted), Requirement.isHit_iff_mem distinct,
    permuted.mem_iff]

end Lists

namespace HitAlike

variable {affixes others : List Affix} (alike : HitAlike others affixes)

include alike

theorem matchRequirements (requirements : List Requirement) (minCount maxCount threshold : Nat) :
    matchRequirements requirements minCount maxCount others threshold =
      LootSieve.matchRequirements requirements minCount maxCount affixes threshold := by
  have hits : requirements.filterMap (·.hit? others) = requirements.filterMap (·.hit? affixes) := by
    simp only [alike _]
  have greater : ∀ requirement : Requirement,
      requirement.hitsGreater others = requirement.hitsGreater affixes := by
    intro requirement
    rw [Requirement.hitsGreater, alike requirement, Requirement.hitsGreater]
  unfold LootSieve.matchRequirements enoughGreater
  simp only [hits, greater]

theorem allMatched? (pools : List Pool) (threshold : Nat) :
    Pool.allMatched? pools others threshold = Pool.allMatched? pools affixes threshold := by
  unfold Pool.allMatched? Pool.matched?
  simp only [alike.matchRequirements]

end HitAlike

/-! Items. -/

namespace Item

/-- The item with its affixes and its inherents listed in this way. -/
def listing (item : Item) (affixes inherents : List Affix) : Item :=
  { item with affixes := affixes, inherents := inherents }

/-- The lists hold the affixes and the inherents of the item, which have distinct names among each
kind. -/
structure Reorders (item : Item) (affixes inherents : List Affix) : Prop where
  affixes : affixes.Perm item.affixes
  inherents : inherents.Perm item.inherents
  distinct : DistinctNames item.affixes
  distinctInherents : DistinctNames item.inherents

namespace Reorders

variable {item : Item} {affixes inherents : List Affix} (reorders : item.Reorders affixes inherents)

include reorders

theorem hitAlike : HitAlike affixes item.affixes :=
  hitAlike_of_perm reorders.affixes reorders.distinct

theorem hitAlike_untempered :
    HitAlike (affixes.filter (!·.isTempered)) (item.affixes.filter (!·.isTempered)) :=
  hitAlike_of_perm (reorders.affixes.filter _) (reorders.distinct.filter _)

theorem hitAlike_inherents : HitAlike inherents item.inherents :=
  hitAlike_of_perm reorders.inherents reorders.distinctInherents

theorem greaterCount : (item.listing affixes inherents).greaterCount = item.greaterCount :=
  reorders.affixes.countP_eq _

/-! The filters. -/

theorem itemFilter (filter : ItemFilter) :
    filter.matched? (item.listing affixes inherents) = filter.matched? item := by
  have found : ∀ threshold, Pool.allMatched? filter.affixPools
      ((item.listing affixes inherents).affixes.filter (!·.isTempered)) threshold =
        Pool.allMatched? filter.affixPools (item.affixes.filter (!·.isTempered)) threshold :=
    reorders.hitAlike_untempered.allMatched? filter.affixPools
  have foundInherents : ∀ threshold, Pool.allMatched? filter.inherentPools
      (item.listing affixes inherents).inherents threshold =
        Pool.allMatched? filter.inherentPools item.inherents threshold :=
    reorders.hitAlike_inherents.allMatched? filter.inherentPools
  unfold ItemFilter.matched?
  dsimp only
  rw [reorders.greaterCount, found, foundInherents]
  rfl

theorem uniqueFilter (filter : UniqueFilter) :
    filter.admits (item.listing affixes inherents) = filter.admits item := by
  have matched : LootSieve.matchRequirements filter.affixes filter.affixes.length
      filter.affixes.length (item.listing affixes inherents).affixes filter.minGreaterCount =
        LootSieve.matchRequirements filter.affixes filter.affixes.length filter.affixes.length
          item.affixes filter.minGreaterCount :=
    reorders.hitAlike.matchRequirements filter.affixes _ _ _
  unfold UniqueFilter.admits
  dsimp only
  rw [reorders.greaterCount, matched]
  rfl

/-- An entry asks only which names are among the affixes and inherents. -/
theorem sigilEntry (entry : SigilEntry) :
    entry.lists (item.listing affixes inherents) = entry.lists item := by
  have names : ((affixes ++ inherents).map (·.name)).Perm
      ((item.affixes ++ item.inherents).map (·.name)) :=
    (reorders.affixes.append reorders.inherents).map _
  unfold SigilEntry.lists
  dsimp only [listing]
  rw [names.contains_eq, names.any_eq]
  rfl

theorem sigilFilter (filter : SigilFilter) :
    filter.keeps (item.listing affixes inherents) = filter.keeps item := by
  unfold SigilFilter.keeps
  simp only [reorders.sigilEntry]

/-! The rules. Tributes, aspects and looks are judged without affixes. -/

theorem ofSigil (profiles : ProfileSet) :
    Verdict.ofSigil (item.listing affixes inherents) profiles = Verdict.ofSigil item profiles := by
  unfold Verdict.ofSigil Verdict.sigilMatch?
  simp only [reorders.sigilFilter]

theorem ofGear (profiles : ProfileSet) :
    Verdict.ofGear (item.listing affixes inherents) profiles = Verdict.ofGear item profiles := by
  unfold Verdict.ofGear Verdict.gearMatches ItemFilter.match?
  simp only [reorders.itemFilter]

theorem ofUnique (profiles : ProfileSet) (policy : Policy) :
    Verdict.ofUnique (item.listing affixes inherents) profiles policy =
      Verdict.ofUnique item profiles policy := by
  have matched : Verdict.uniqueMatches (item.listing affixes inherents) profiles =
      Verdict.uniqueMatches item profiles := by
    unfold Verdict.uniqueMatches UniqueFilter.match?
    simp only [reorders.uniqueFilter]
    rfl
  unfold Verdict.ofUnique
  rw [matched]
  rfl

theorem ofEquipment (profiles : ProfileSet) (policy : Policy) :
    Verdict.ofEquipment (item.listing affixes inherents) profiles policy =
      Verdict.ofEquipment item profiles policy := by
  unfold Verdict.ofEquipment
  rw [reorders.ofUnique, reorders.ofGear]
  rfl

theorem ofRest (profiles : ProfileSet) (policy : Policy) :
    Verdict.ofRest (item.listing affixes inherents) profiles policy =
      Verdict.ofRest item profiles policy := by
  unfold Verdict.ofRest
  rw [reorders.ofEquipment]
  rfl

theorem decide (profiles : ProfileSet) (policy : Policy) :
    Verdict.decide (item.listing affixes inherents) profiles policy =
      Verdict.decide item profiles policy := by
  unfold Verdict.decide
  rw [reorders.ofSigil, reorders.ofRest]
  rfl

end Reorders

end Item

namespace Verdict

/-- Where the affixes of an item have distinct names, and so have its inherents, any other
arrangement of the two gets the same verdict from all profiles under every policy, down to the
affixes that each match lists. -/
theorem decide_of_reordered (item : Item) (affixes inherents : List Affix)
    (permuted : affixes.Perm item.affixes) (permutedInherents : inherents.Perm item.inherents)
    (distinct : DistinctNames item.affixes) (distinctInherents : DistinctNames item.inherents)
    (profiles : ProfileSet) (policy : Policy) :
    decide { item with affixes := affixes, inherents := inherents } profiles policy =
      decide item profiles policy :=
  Item.Reorders.decide ⟨permuted, permutedInherents, distinct, distinctInherents⟩ profiles policy

/-! Boots whose filter lists its affixes in an order of its own. -/

def swiftBoots : Item :=
  { Item.plain .legendary (some .boots) with
    power := some 750
    affixes := [⟨"maximum_life", "", .none, .greater⟩, ⟨"armor", "", .none, .normal⟩,
      ⟨"cold_resist", "", .none, .tempered⟩]
    inherents := [⟨"movement_speed", "", .none, .inherent⟩, ⟨"evade", "", .none, .inherent⟩] }

def bootsProfiles : ProfileSet :=
  [⟨"rogue", [⟨"Boots", [.boots], 700, 1,
      [⟨[⟨"armor", none, .larger, false⟩, ⟨"maximum_life", none, .larger, true⟩], 2, 2⟩],
      [⟨[⟨"movement_speed", none, .larger, false⟩], 1, 1⟩]⟩], [], none, [], []⟩]

/-- Reversed on the tooltip, the affixes are listed as before. -/
theorem swiftBoots_reversed :
    DistinctNames swiftBoots.affixes ∧ DistinctNames swiftBoots.inherents ∧
    (decide { swiftBoots with
        affixes := swiftBoots.affixes.reverse
        inherents := swiftBoots.inherents.reverse } bootsProfiles .standard).accepted.map
      (fun own => (own.name, own.affixes.map (·.name))) =
        [("rogue.Boots", ["armor", "maximum_life", "movement_speed"])] := by
  have distinct : DistinctNames swiftBoots.affixes := by
    unfold DistinctNames
    decide
  have distinctInherents : DistinctNames swiftBoots.inherents := by
    unfold DistinctNames
    decide
  refine ⟨distinct, distinctInherents, ?_⟩
  rw [decide_of_reordered swiftBoots _ _ (List.reverse_perm _) (List.reverse_perm _) distinct
    distinctInherents]
  decide +kernel

end Verdict

end LootSieve
