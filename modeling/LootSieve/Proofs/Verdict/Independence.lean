import LootSieve.Proofs.Verdict.Dispatch
import Mathlib.Data.List.Basic

/-!
Profiles contribute independently. A rule that has filters to read goes through the profiles one by
one, and what it finds in one of them does not depend on the others: the matches of two sets joined
are those of the first followed by those of the second. So the order of the profiles decides about
the order of the matches and about nothing else.
-/

namespace LootSieve.Verdict

/-- The filters that accept items, each kind read by a rule of its own. -/
inductive FilterKind where
  | sigil
  | tribute
  | unique
  | affix
  deriving DecidableEq

namespace FilterKind

/-- Some profile has a filter of the kind. -/
def isPresent : FilterKind → ProfileSet → Bool
  | sigil, profiles => profiles.hasSigilFilters
  | tribute, profiles => profiles.hasTributeFilters
  | unique, profiles => profiles.hasUniqueFilters
  | affix, profiles => profiles.hasAffixFilters

/-- The rule that reads the filters of the kind. -/
def rule : FilterKind → Item → ProfileSet → Policy → Verdict
  | sigil, item, profiles, _ => ofSigil item profiles
  | tribute, item, profiles, _ => ofTribute item profiles
  | unique, item, profiles, policy => ofUnique item profiles policy
  | affix, item, profiles, _ => ofGear item profiles

/-- The matches that one profile contributes. -/
def share : FilterKind → Item → Profile → List Match
  | sigil, item, profile => (sigilMatch? item profile).toList
  | tribute, item, profile => (tributeMatch? item profile).toList
  | unique, item, profile => profile.uniques.filterMap (UniqueFilter.match? profile.name item)
  | affix, item, profile => profile.affixFilters.filterMap (ItemFilter.match? profile.name item)

/-- The rule asks the filters about the item. A mythic tribute is kept unasked. -/
def Asks (kind : FilterKind) (item : Item) : Prop := kind = tribute → item.rarity ≠ .mythic

end FilterKind

/-- The match that one profile contributes for an improvement that the item brings. -/
def upgradeShare (item : Item) (profile : Profile) : List Match :=
  match item.aspect with
  | some aspect => if item.codexUpgrade then (upgradeMatch? aspect profile).toList else []
  | none => []

variable {item : Item} {profiles others : ProfileSet} {policy : Policy}

/-! The rules, profile by profile. -/

namespace FilterKind

theorem accepted_rule {kind : FilterKind} (present : kind.isPresent profiles = true)
    (asks : kind.Asks item) :
    (kind.rule item profiles policy).accepted = profiles.flatMap (kind.share item) := by
  cases kind with
  | sigil =>
    simp only [rule, ofSigil, isPresent] at present ⊢
    rw [if_pos present]
    exact List.filterMap_eq_flatMap_toList _ _
  | tribute =>
    have notMythic : item.rarity ≠ .mythic := asks rfl
    simp only [rule, ofTribute, isPresent] at present ⊢
    rw [if_neg (by simp [notMythic, present])]
    exact List.filterMap_eq_flatMap_toList _ _
  | unique =>
    simp only [rule, ofUnique, isPresent] at present ⊢
    rw [if_pos present]
    rfl
  | affix =>
    simp only [rule, ofGear, isPresent] at present ⊢
    rw [if_pos present]
    rfl

theorem isPresent_append (kind : FilterKind) (first second : ProfileSet) :
    kind.isPresent (first ++ second) = (kind.isPresent first || kind.isPresent second) := by
  cases kind <;> exact List.any_append

theorem isPresent_perm (kind : FilterKind) (permuted : others.Perm profiles) :
    kind.isPresent others = kind.isPresent profiles := by
  cases kind <;> exact permuted.any_eq

/-- What a rule finds in two sets joined is what it finds in each. -/
theorem accepted_append {kind : FilterKind} {first second : ProfileSet}
    (inFirst : kind.isPresent first = true) (inSecond : kind.isPresent second = true)
    (asks : kind.Asks item) :
    (kind.rule item (first ++ second) policy).accepted =
      (kind.rule item first policy).accepted ++ (kind.rule item second policy).accepted := by
  have inBoth : kind.isPresent (first ++ second) = true := by
    rw [isPresent_append, inFirst, Bool.true_or]
  rw [accepted_rule inBoth asks, accepted_rule inFirst asks, accepted_rule inSecond asks,
    List.flatMap_append]

end FilterKind

theorem uniqueFilters_append (first second : ProfileSet) :
    ProfileSet.uniqueFilters (first ++ second) = first.uniqueFilters ++ second.uniqueFilters :=
  List.flatMap_append

theorem onlyAspects_append (first second : ProfileSet) :
    (ofUnique item (first ++ second) policy).onlyAspects =
      ((ofUnique item first policy).onlyAspects && (ofUnique item second policy).onlyAspects) := by
  simp only [ofUnique_eq, uniqueFilters_append, List.all_append]

theorem aspectNamed_append (first second : ProfileSet) :
    (ofUnique item (first ++ second) policy).aspectNamed =
      ((ofUnique item first policy).aspectNamed || (ofUnique item second policy).aspectNamed) := by
  simp only [ofUnique_eq, uniqueFilters_append, List.any_append]

theorem accepted_ofTribute_of_mythic (mythic : item.rarity = .mythic) (profiles : ProfileSet) :
    (ofTribute item profiles).accepted = [.named "default"] := by
  unfold ofTribute
  rw [if_pos (by simp [mythic])]
  rfl

theorem upgradeMatches_eq_flatMap (item : Item) (profiles : ProfileSet) :
    upgradeMatches item profiles = profiles.flatMap (upgradeShare item) := by
  unfold upgradeMatches upgradeShare
  cases item.aspect with
  | none => simp
  | some aspect =>
    cases item.codexUpgrade with
    | false => simp
    | true => exact List.filterMap_eq_flatMap_toList _ _

/-! Profiles in another order. -/

/-- Matches of the profiles in one order and in another: those of each profile go where it goes,
while matches that no profile contributes stay. -/
inductive MovedMatches (item : Item) (profiles others : ProfileSet) : List Match → List Match → Prop
  | fixed (accepted : List Match) : MovedMatches item profiles others accepted accepted
  | filters (kind : FilterKind) :
    MovedMatches item profiles others (profiles.flatMap (kind.share item))
      (others.flatMap (kind.share item))
  | upgrades :
    MovedMatches item profiles others (profiles.flatMap (upgradeShare item))
      (others.flatMap (upgradeShare item))

theorem MovedMatches.perm {accepted moved : List Match} (permuted : others.Perm profiles)
    (moves : MovedMatches item profiles others accepted moved) : moved.Perm accepted := by
  cases moves with
  | fixed => exact .refl _
  | filters kind => exact permuted.flatMap_right _
  | upgrades => exact permuted.flatMap_right _

/-- All that a change of order does to a verdict. -/
structure Rearranged (item : Item) (profiles others : ProfileSet) (verdict other : Verdict) :
    Prop where
  keep : other.keep = verdict.keep
  aspectNamed : other.aspectNamed = verdict.aspectNamed
  onlyAspects : other.onlyAspects = verdict.onlyAspects
  moved : MovedMatches item profiles others verdict.accepted other.accepted
  permuted : other.accepted.Perm verdict.accepted

namespace Rearranged

theorem refl (verdict : Verdict) : Rearranged item profiles others verdict verdict :=
  ⟨rfl, rfl, rfl, .fixed _, .refl _⟩

variable (permuted : others.Perm profiles)

include permuted

theorem ofMatches {accepted moved : List Match}
    (moves : MovedMatches item profiles others accepted moved) :
    Rearranged item profiles others (ofMatches accepted) (ofMatches moved) := by
  have sameMatches := moves.perm permuted
  have keep : (!moved.isEmpty) = !accepted.isEmpty := by rw [sameMatches.isEmpty_eq]
  exact ⟨keep, rfl, rfl, moves, sameMatches⟩

theorem ofSigil :
    Rearranged item profiles others (ofSigil item profiles) (ofSigil item others) := by
  have present : others.hasSigilFilters = profiles.hasSigilFilters :=
    FilterKind.isPresent_perm .sigil permuted
  unfold Verdict.ofSigil
  rw [present]
  split
  · rw [List.filterMap_eq_flatMap_toList, List.filterMap_eq_flatMap_toList]
    exact ofMatches permuted (.filters .sigil)
  · exact refl _

theorem ofTribute :
    Rearranged item profiles others (ofTribute item profiles) (ofTribute item others) := by
  have present : others.hasTributeFilters = profiles.hasTributeFilters :=
    FilterKind.isPresent_perm .tribute permuted
  unfold Verdict.ofTribute
  rw [present]
  split
  · exact refl _
  · rw [List.filterMap_eq_flatMap_toList, List.filterMap_eq_flatMap_toList]
    exact ofMatches permuted (.filters .tribute)

theorem ofGear :
    Rearranged item profiles others (ofGear item profiles) (ofGear item others) := by
  have present : others.hasAffixFilters = profiles.hasAffixFilters :=
    FilterKind.isPresent_perm .affix permuted
  unfold Verdict.ofGear
  rw [present]
  split
  · exact ofMatches permuted (.filters .affix)
  · exact refl _

theorem ofUnique (policy : Policy) :
    Rearranged item profiles others (ofUnique item profiles policy)
      (ofUnique item others policy) := by
  have filters : others.uniqueFilters.Perm profiles.uniqueFilters := permuted.flatMap_right _
  have moves : MovedMatches item profiles others (uniqueMatches item profiles)
      (uniqueMatches item others) := .filters .unique
  rw [ofUnique_eq, ofUnique_eq]
  refine ⟨?_, filters.any_eq, filters.all_eq, moves, moves.perm permuted⟩
  dsimp only
  rw [(moves.perm permuted).isEmpty_eq, filters.any_eq, filters.all_eq]

/-- The policy speaks where no profile does, in either order. -/
theorem ofAspectUpgrade (policy : Policy) :
    Rearranged item profiles others (ofAspectUpgrade item profiles policy)
      (ofAspectUpgrade item others policy) := by
  have moves : MovedMatches item profiles others (upgradeMatches item profiles)
      (upgradeMatches item others) := by
    rw [upgradeMatches_eq_flatMap, upgradeMatches_eq_flatMap]
    exact .upgrades
  unfold Verdict.ofAspectUpgrade
  dsimp only
  rw [(moves.perm permuted).isEmpty_eq]
  split
  · exact ofMatches permuted moves
  · exact refl _

theorem ofEquipment (policy : Policy) :
    Rearranged item profiles others (ofEquipment item profiles policy)
      (ofEquipment item others policy) := by
  unfold Verdict.ofEquipment
  split
  · exact ofUnique permuted policy
  · dsimp only
    rw [(ofGear permuted).keep]
    split
    · exact ofGear permuted
    · exact ofAspectUpgrade permuted policy

theorem ofRest (policy : Policy) :
    Rearranged item profiles others (ofRest item profiles policy) (ofRest item others policy) := by
  unfold Verdict.ofRest
  split
  · exact refl _
  · dsimp only
    rw [(ofEquipment permuted policy).keep]
    split
    · exact ofEquipment permuted policy
    · exact refl _

theorem decide (policy : Policy) :
    Rearranged item profiles others (decide item profiles policy) (decide item others policy) := by
  unfold Verdict.decide
  split
  · split
    · exact refl _
    · exact ofSigil permuted
  · exact ofSigil permuted
  · exact ofTribute permuted
  · exact ofRest permuted policy

end Rearranged

/-- Each rule finds in two sets of profiles joined what it finds in the first, followed by what it
finds in the second, as long as either set has filters for it. The flags on uniques are joined by
"and" and "or". The decision about an item therefore does not depend on the order of the profiles,
except for the order of its matches. -/
theorem profiles_contribute_independently (item : Item) (policy : Policy) :
    (∀ (kind : FilterKind) (first second : ProfileSet), kind.isPresent first = true →
      kind.isPresent second = true → kind.Asks item →
      (kind.rule item (first ++ second) policy).accepted =
        (kind.rule item first policy).accepted ++ (kind.rule item second policy).accepted) ∧
    (item.rarity = .mythic →
      ∀ profiles, (ofTribute item profiles).accepted = [.named "default"]) ∧
    (∀ first second : ProfileSet,
      first.hasUniqueFilters = true → second.hasUniqueFilters = true →
      (ofUnique item (first ++ second) policy).onlyAspects =
        ((ofUnique item first policy).onlyAspects && (ofUnique item second policy).onlyAspects) ∧
      (ofUnique item (first ++ second) policy).aspectNamed =
        ((ofUnique item first policy).aspectNamed ||
          (ofUnique item second policy).aspectNamed)) ∧
    ∀ profiles others : ProfileSet, others.Perm profiles →
      Rearranged item profiles others (decide item profiles policy) (decide item others policy) :=
  ⟨fun _ _ _ inFirst inSecond asks => FilterKind.accepted_append inFirst inSecond asks,
    accepted_ofTribute_of_mythic,
    fun first second _ _ => ⟨onlyAspects_append first second, aspectNamed_append first second⟩,
    fun _ _ permuted => Rearranged.decide permuted policy⟩

/-- A mythic ring, which would be kept even if no profile asked for it. -/
def mythicRing : Item :=
  { Item.plain .mythic (some .ring) with
    power := some 800
    aspect := some ⟨"ring_of_starless_skies", "", .none⟩ }

/-- Asks for the aspect of the ring. -/
def ringProfiles : ProfileSet :=
  [⟨"sorcerer", [], [], none, [],
    [⟨some ⟨"ring_of_starless_skies", none, .larger⟩, [], [], none, 0, 0, 0, false⟩]⟩]

/-- Asks for any unique ring. -/
def anyRingProfiles : ProfileSet :=
  [⟨"barbarian", [], [], none, [], [⟨none, [], [.ring], none, 0, 0, 0, false⟩]⟩]

theorem mythicRing_matches_rearranged :
    FilterKind.isPresent .unique ringProfiles = true ∧
    FilterKind.isPresent .unique anyRingProfiles = true ∧
    FilterKind.Asks .unique mythicRing ∧
    mythicRing.rarity = .mythic ∧
    (anyRingProfiles ++ ringProfiles).Perm (ringProfiles ++ anyRingProfiles) ∧
    (ofUnique mythicRing (ringProfiles ++ anyRingProfiles) .strict).matchedNames =
      ["sorcerer.ring_of_starless_skies", "barbarian.ring_of_starless_skies"] ∧
    (ofUnique mythicRing (ringProfiles ++ anyRingProfiles) .strict).onlyAspects = false ∧
    (decide mythicRing (anyRingProfiles ++ ringProfiles) .strict).accepted.Perm
      (decide mythicRing (ringProfiles ++ anyRingProfiles) .strict).accepted := by
  have inRing : FilterKind.isPresent .unique ringProfiles = true := rfl
  have inAnyRing : FilterKind.isPresent .unique anyRingProfiles = true := rfl
  have asks : FilterKind.Asks .unique mythicRing := nofun
  have swapped : (anyRingProfiles ++ ringProfiles).Perm (ringProfiles ++ anyRingProfiles) :=
    List.perm_append_comm
  obtain ⟨joined, _, flags, rearranged⟩ := profiles_contribute_independently mythicRing .strict
  have accepted : (ofUnique mythicRing (ringProfiles ++ anyRingProfiles) .strict).accepted =
      (ofUnique mythicRing ringProfiles .strict).accepted ++
        (ofUnique mythicRing anyRingProfiles .strict).accepted :=
    joined .unique ringProfiles anyRingProfiles inRing inAnyRing asks
  refine ⟨inRing, inAnyRing, asks, rfl, swapped, ?_, ?_, (rearranged _ _ swapped).permuted⟩
  · rw [Verdict.matchedNames, accepted]
    decide +kernel
  · rw [(flags ringProfiles anyRingProfiles inRing inAnyRing).1]
    decide +kernel

end LootSieve.Verdict
