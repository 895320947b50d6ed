import LootSieve.Verdict.Decision

/-!
The ways through the decision about an item. `Decided` says for each verdict which step gave it and
what led there, so that what holds of every verdict is shown step by step. The rule for uniques
treats the absence of unique filters apart; `ofUnique_eq` shows that it need not.
-/

namespace LootSieve

/-- The item has a power and a type without a rule of its own, so its rarity chooses the rule. -/
structure Item.IsEquipment (item : Item) : Prop where
  typed : ∃ type, item.type = some type ∧ type.isSigil = false ∧ type ≠ .tribute
  powered : item.power.isSome = true

/-- The rarity is no junk, or an unlocked look redeems it. -/
def Item.IsWorthAsking (item : Item) (policy : Policy) : Prop :=
  item.rarity.isJunk policy.junkRares = false ∨ item.cosmeticUpgrade = true

theorem Rarity.not_junk_of_isUniqueOrMythic {rarity : Rarity} (junkRares : Bool)
    (unique : rarity.isUniqueOrMythic = true) : rarity.isJunk junkRares = false := by
  cases rarity with
  | unique | mythic => rfl
  | common | magic | rare | legendary => cases unique

namespace Verdict

variable {item : Item} {profiles : ProfileSet} {policy : Policy}

theorem isUnfit_eq_false_iff :
    isUnfit item policy = false ↔
      item.type.isSome = true ∧ item.power.isSome = true ∧ item.IsWorthAsking policy := by
  simp only [isUnfit, Item.IsWorthAsking, Bool.or_eq_false_iff, Bool.and_eq_false_iff,
    Option.isNone_eq_false_iff, Bool.not_eq_false', and_assoc]

/-- The step of the decision that gives a verdict, with what led to it. -/
inductive Decided (item : Item) (profiles : ProfileSet) (policy : Policy) : Verdict → Prop
  | ignoredSigil (typed : item.type = some .escalationSigil)
    (ignored : policy.ignoreEscalationSigils = true) : Decided item profiles policy kept
  | sigil {type : ItemType} (typed : item.type = some type) (isSigil : type.isSigil = true)
    (asked : type = .escalationSigil → policy.ignoreEscalationSigils = false) :
    Decided item profiles policy (ofSigil item profiles)
  | tribute (typed : item.type = some .tribute) :
    Decided item profiles policy (ofTribute item profiles)
  | unfit (unfit : isUnfit item policy = true) : Decided item profiles policy dropped
  | ownRule (equipment : item.IsEquipment) (worth : item.IsWorthAsking policy)
    (keeps : (ofEquipment item profiles policy).keep = true) :
    Decided item profiles policy (ofEquipment item profiles policy)
  | cosmetic (equipment : item.IsEquipment) (worth : item.IsWorthAsking policy)
    (drops : (ofEquipment item profiles policy).keep = false) :
    Decided item profiles policy (ofCosmetic item policy)

theorem ofRest_of_isWorthAsking (equipment : item.IsEquipment)
    (worth : item.IsWorthAsking policy) :
    ofRest item profiles policy =
      if (ofEquipment item profiles policy).keep then ofEquipment item profiles policy
      else ofCosmetic item policy := by
  obtain ⟨type, typed, _⟩ := equipment.typed
  have fit : isUnfit item policy = false :=
    isUnfit_eq_false_iff.2 ⟨typed ▸ rfl, equipment.powered, worth⟩
  rw [ofRest, fit]
  rfl

theorem decide_of_type {type : ItemType} (typed : item.type = some type)
    (noSigil : type.isSigil = false) (noTribute : type ≠ .tribute) :
    decide item profiles policy = ofRest item profiles policy := by
  unfold decide
  rw [typed]
  cases type with
  | sigil | escalationSigil => cases noSigil
  | tribute => exact absurd rfl noTribute
  | _ => rfl

theorem decide_of_isEquipment (equipment : item.IsEquipment) :
    decide item profiles policy = ofRest item profiles policy := by
  obtain ⟨type, typed, noSigil, noTribute⟩ := equipment.typed
  exact decide_of_type typed noSigil noTribute

theorem isEquipment_of_fit (noSigil : ∀ type, item.type = some type → type.isSigil = false)
    (noTribute : item.type ≠ some .tribute) (fit : isUnfit item policy = false) :
    item.IsEquipment := by
  obtain ⟨isTyped, powered, _⟩ := isUnfit_eq_false_iff.1 fit
  obtain ⟨type, typed⟩ := Option.isSome_iff_exists.1 isTyped
  exact ⟨⟨type, typed, noSigil type typed, fun tribute => noTribute (tribute ▸ typed)⟩, powered⟩

theorem decided_ofRest (noSigil : ∀ type, item.type = some type → type.isSigil = false)
    (noTribute : item.type ≠ some .tribute) :
    Decided item profiles policy (ofRest item profiles policy) := by
  by_cases unfit : isUnfit item policy = true
  · rw [ofRest, if_pos unfit]
    exact .unfit unfit
  · have fit := Bool.eq_false_iff.2 unfit
    have equipment := isEquipment_of_fit noSigil noTribute fit
    obtain ⟨_, _, worth⟩ := isUnfit_eq_false_iff.1 fit
    rw [ofRest_of_isWorthAsking equipment worth]
    split
    · next keeps => exact .ownRule equipment worth keeps
    · next drops => exact .cosmetic equipment worth (Bool.eq_false_iff.2 drops)

theorem noSigil_of_types (noEscalation : item.type ≠ some .escalationSigil)
    (noSigil : item.type ≠ some .sigil) (type : ItemType) (typed : item.type = some type) :
    type.isSigil = false := by
  cases type with
  | sigil => exact absurd typed noSigil
  | escalationSigil => exact absurd typed noEscalation
  | _ => rfl

/-- Every verdict comes from one of the steps. -/
theorem decided (item : Item) (profiles : ProfileSet) (policy : Policy) :
    Decided item profiles policy (decide item profiles policy) := by
  unfold decide
  split
  · next typed =>
    split
    · next ignored => exact .ignoredSigil typed ignored
    · next asked => exact .sigil typed rfl fun _ => Bool.eq_false_iff.2 asked
  · next typed => exact .sigil typed rfl (nomatch ·)
  · next typed => exact .tribute typed
  · next noEscalation noSigil noTribute =>
    exact decided_ofRest (noSigil_of_types noEscalation noSigil) noTribute

/-- The profiles enter a decision through three rules only, and through the rule for the item's
rarity only if it is equipment. -/
theorem decide_congr {others : ProfileSet} (sigil : ofSigil item others = ofSigil item profiles)
    (tribute : ofTribute item others = ofTribute item profiles)
    (own : item.IsEquipment → ofEquipment item others policy = ofEquipment item profiles policy) :
    decide item others policy = decide item profiles policy := by
  unfold decide
  split
  · rw [sigil]
  · exact sigil
  · exact tribute
  · next noEscalation noSigil noTribute =>
    unfold ofRest
    split
    · rfl
    · next fit =>
      rw [own (isEquipment_of_fit (noSigil_of_types noEscalation noSigil) noTribute
        (Bool.eq_false_iff.2 fit))]

/-! The rule for uniques. -/

theorem uniqueFilters_eq_nil (absent : profiles.hasUniqueFilters = false) :
    profiles.uniqueFilters = [] := by
  unfold ProfileSet.hasUniqueFilters at absent
  unfold ProfileSet.uniqueFilters
  rw [List.flatMap_eq_nil_iff]
  intro profile member
  have none := List.any_eq_false.1 absent profile member
  simpa using none

theorem uniqueMatches_eq_nil_iff :
    uniqueMatches item profiles = [] ↔ ∀ filter ∈ profiles.uniqueFilters,
      filter.admits item = false := by
  unfold uniqueMatches ProfileSet.uniqueFilters
  simp only [List.flatMap_eq_nil_iff, List.filterMap_eq_nil_iff, List.mem_flatMap]
  constructor
  · rintro unmatched filter ⟨profile, member, inProfile⟩
    have none := unmatched profile member filter inProfile
    unfold UniqueFilter.match? at none
    split at none
    · cases none
    · next refused => exact Bool.eq_false_iff.2 refused
  · intro refused profile member filter inProfile
    rw [UniqueFilter.match?, refused filter ⟨profile, member, inProfile⟩]
    rfl

/-- Where there are no unique filters, all that is asked of each of them holds. -/
theorem ofUnique_eq (item : Item) (profiles : ProfileSet) (policy : Policy) :
    ofUnique item profiles policy = {
      keep := !(uniqueMatches item profiles).isEmpty || item.rarity = .mythic ||
        (profiles.uniqueFilters.all (·.aspect.isSome) &&
          !profiles.uniqueFilters.any (·.namesAspect item) && policy.uniques ≠ .junk)
      accepted := uniqueMatches item profiles
      aspectNamed := profiles.uniqueFilters.any (·.namesAspect item)
      onlyAspects := profiles.uniqueFilters.all (·.aspect.isSome) } := by
  unfold ofUnique
  by_cases filters : profiles.hasUniqueFilters = true
  · rw [if_pos filters]
  · have none := uniqueFilters_eq_nil (Bool.eq_false_iff.2 filters)
    have unmatched : uniqueMatches item profiles = [] := by
      rw [uniqueMatches_eq_nil_iff, none]
      exact fun filter member => nomatch member
    rw [if_neg filters, unmatched, none]
    simp [Bool.or_comm]

/-- Some unique filter asks for the aspect of the item. -/
def AspectIsNamed (item : Item) (profiles : ProfileSet) : Prop :=
  ∃ filter ∈ profiles.uniqueFilters, ∃ wanted, filter.aspect = some wanted ∧
    item.aspectName? = some wanted.name

/-- Every unique filter asks for an aspect. -/
def AllAskForAspects (profiles : ProfileSet) : Prop :=
  ∀ filter ∈ profiles.uniqueFilters, filter.aspect.isSome = true

theorem any_namesAspect_iff :
    profiles.uniqueFilters.any (·.namesAspect item) = true ↔ AspectIsNamed item profiles := by
  simp only [List.any_eq_true, UniqueFilter.namesAspect, Option.any_eq_true, decide_eq_true_eq,
    AspectIsNamed]

theorem all_aspect_isSome_iff :
    profiles.uniqueFilters.all (·.aspect.isSome) = true ↔ AllAskForAspects profiles := by
  rw [List.all_eq_true, AllAskForAspects]

/-- What spares a unique that no filter accepts. -/
def IsSpared (item : Item) (profiles : ProfileSet) (policy : Policy) : Prop :=
  item.rarity = .mythic ∨
    AllAskForAspects profiles ∧ ¬ AspectIsNamed item profiles ∧ policy.uniques ≠ .junk

theorem keep_ofUnique_iff_ne_nil :
    (ofUnique item profiles policy).keep = true ↔
      uniqueMatches item profiles ≠ [] ∨ IsSpared item profiles policy := by
  have matched : (!(uniqueMatches item profiles).isEmpty) = true ↔
      uniqueMatches item profiles ≠ [] := by
    rw [Bool.not_eq_true', List.isEmpty_eq_false_iff]
  rw [ofUnique_eq]
  simp only [Bool.or_eq_true, Bool.and_eq_true, matched, Bool.not_eq_true', decide_eq_true_eq,
    all_aspect_isSome_iff, ← Bool.not_eq_true, any_namesAspect_iff, IsSpared, or_assoc, and_assoc]

theorem keep_ofUnique_iff :
    (ofUnique item profiles policy).keep = true ↔
      (∃ filter ∈ profiles.uniqueFilters, filter.admits item = true) ∨
        IsSpared item profiles policy := by
  rw [keep_ofUnique_iff_ne_nil, ne_eq, uniqueMatches_eq_nil_iff]
  simp only [Classical.not_forall, Bool.not_eq_false, exists_prop]

theorem ofEquipment_of_unique (unique : item.rarity.isUniqueOrMythic = true) :
    ofEquipment item profiles policy = ofUnique item profiles policy :=
  if_pos unique

end Verdict

end LootSieve
