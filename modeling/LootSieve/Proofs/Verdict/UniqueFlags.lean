import LootSieve.Proofs.Verdict.Dispatch

/-!
The flags of a verdict about a unique. They say whether some unique filter names the aspect of the
item, and whether all unique filters ask for aspects. The rule for uniques sets them on every
verdict, but a unique that it drops goes on to the rule for looks, whose verdict has its flags
unset: what they say holds exactly as long as the item is kept by its own rule.
-/

namespace LootSieve.Verdict

variable {item : Item} {profiles : ProfileSet} {policy : Policy}

/-- The flags of the verdict say what they stand for. -/
structure FlagsHold (item : Item) (profiles : ProfileSet) (verdict : Verdict) : Prop where
  aspectNamed : verdict.aspectNamed = true ↔ AspectIsNamed item profiles
  onlyAspects : verdict.onlyAspects = true ↔ AllAskForAspects profiles

/-- Neither flag is set, whatever the profiles say. -/
structure FlagsUnset (verdict : Verdict) : Prop where
  aspectNamed : verdict.aspectNamed = false
  onlyAspects : verdict.onlyAspects = false

/-- The rule for uniques has a reason to keep the item: a match, or that it is spared. -/
def KeptAsUnique (item : Item) (profiles : ProfileSet) (policy : Policy) : Prop :=
  (∃ filter ∈ profiles.uniqueFilters, filter.admits item = true) ∨ IsSpared item profiles policy

theorem flagsHold_ofUnique : FlagsHold item profiles (ofUnique item profiles policy) := by
  rw [ofUnique_eq]
  exact ⟨any_namesAspect_iff, all_aspect_isSome_iff⟩

theorem flagsUnset_ofCosmetic : FlagsUnset (ofCosmetic item policy) := by
  unfold ofCosmetic
  split <;> exact ⟨rfl, rfl⟩

/-- A unique is always worth asking about, so its own rule speaks first and only the rule for looks
after it. -/
theorem decide_of_unique (equipment : item.IsEquipment)
    (unique : item.rarity.isUniqueOrMythic = true) :
    decide item profiles policy =
      if (ofUnique item profiles policy).keep then ofUnique item profiles policy
      else ofCosmetic item policy := by
  have worth : item.IsWorthAsking policy := .inl (Rarity.not_junk_of_isUniqueOrMythic _ unique)
  rw [decide_of_isEquipment equipment, ofRest_of_isWorthAsking equipment worth,
    ofEquipment_of_unique unique]

/-- The flags of the final verdict hold for a unique that its own rule keeps, and are unset for any
other, also for one that is kept for its look. -/
theorem flags_of_unique (item : Item) (profiles : ProfileSet) (policy : Policy)
    (equipment : item.IsEquipment) (unique : item.rarity.isUniqueOrMythic = true) :
    (KeptAsUnique item profiles policy →
      FlagsHold item profiles (decide item profiles policy)) ∧
    (¬ KeptAsUnique item profiles policy → FlagsUnset (decide item profiles policy)) := by
  have keeps : (ofUnique item profiles policy).keep = true ↔ KeptAsUnique item profiles policy :=
    keep_ofUnique_iff
  rw [decide_of_unique equipment unique]
  constructor
  · intro kept
    rw [if_pos (keeps.2 kept)]
    exact flagsHold_ofUnique
  · intro notKept
    rw [if_neg fun kept => notKept (keeps.1 kept)]
    exact flagsUnset_ofCosmetic

/-- A unique ring, or a mythic one. -/
def starlessRing (rarity : Rarity) : Item :=
  { Item.plain rarity (some .ring) with
    power := some 750
    aspect := some ⟨"ring_of_starless_skies", "", .none⟩ }

/-- Asks for the ring, but with more power than it has. -/
def starlessProfiles : ProfileSet :=
  [⟨"sorcerer", [], [], none, [],
    [⟨some ⟨"ring_of_starless_skies", none, .larger⟩, [], [], none, 0, 0, 800, false⟩]⟩]

theorem starlessRing_isEquipment (rarity : Rarity) : (starlessRing rarity).IsEquipment :=
  ⟨⟨.ring, rfl, rfl, nofun⟩, rfl⟩

theorem starlessRing_mythic_flags :
    (starlessRing .mythic).IsEquipment ∧
    (starlessRing .mythic).rarity.isUniqueOrMythic = true ∧
    KeptAsUnique (starlessRing .mythic) starlessProfiles .strict ∧
    FlagsHold (starlessRing .mythic) starlessProfiles
      (decide (starlessRing .mythic) starlessProfiles .strict) := by
  have kept : KeptAsUnique (starlessRing .mythic) starlessProfiles .strict := .inr (.inl rfl)
  exact ⟨starlessRing_isEquipment _, rfl, kept,
    (flags_of_unique _ _ _ (starlessRing_isEquipment _) rfl).1 kept⟩

/-- The ring is dropped for its power. The filter names its aspect and is the only one, but the
verdict has neither flag. -/
theorem starlessRing_flags_lost :
    (starlessRing .unique).IsEquipment ∧
    (starlessRing .unique).rarity.isUniqueOrMythic = true ∧
    AspectIsNamed (starlessRing .unique) starlessProfiles ∧
    AllAskForAspects starlessProfiles ∧
    ¬ FlagsHold (starlessRing .unique) starlessProfiles
      (decide (starlessRing .unique) starlessProfiles .standard) := by
  have named : AspectIsNamed (starlessRing .unique) starlessProfiles :=
    any_namesAspect_iff.1 (by decide)
  refine ⟨starlessRing_isEquipment _, rfl, named, all_aspect_isSome_iff.1 (by decide), ?_⟩
  intro holds
  have flag := holds.aspectNamed.2 named
  revert flag
  decide +kernel

end LootSieve.Verdict
