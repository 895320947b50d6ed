import LootSieve.Proofs.Verdict.Dispatch

/-!
The decision and the list of matches agree. A dropped item is on no list, and an item is kept
without a match in three cases only: a sigil that the policy keeps unseen, gear where no profile has
an item filter, and a unique that nobody speaks about.
-/

namespace LootSieve.Verdict

variable {item : Item} {profiles : ProfileSet} {policy : Policy}

/-- The item is kept because, and only because, some filter accepted it. -/
def RestsOnMatches (verdict : Verdict) : Prop := verdict.keep = !verdict.accepted.isEmpty

/-- The item is kept, but no filter accepted it. -/
def KeptUnasked (verdict : Verdict) : Prop := verdict.keep = true ∧ verdict.accepted = []

namespace RestsOnMatches

variable {verdict : Verdict} (rests : verdict.RestsOnMatches)

include rests

theorem accepted_of_dropped (drops : verdict.keep = false) : verdict.accepted = [] := by
  rw [RestsOnMatches, drops] at rests
  simpa using rests

theorem not_keptUnasked : ¬ verdict.KeptUnasked := by
  rintro ⟨keeps, unmatched⟩
  rw [RestsOnMatches, keeps, unmatched] at rests
  cases rests

end RestsOnMatches

/-! The rules. -/

theorem restsOnMatches_ofMatches (accepted : List Match) : (ofMatches accepted).RestsOnMatches :=
  rfl

theorem restsOnMatches_dropped : dropped.RestsOnMatches := rfl

theorem restsOnMatches_ofSigil : (ofSigil item profiles).RestsOnMatches := by
  unfold ofSigil
  split <;> exact restsOnMatches_ofMatches _

theorem restsOnMatches_ofTribute : (ofTribute item profiles).RestsOnMatches := by
  unfold ofTribute
  split <;> exact restsOnMatches_ofMatches _

theorem restsOnMatches_ofCosmetic : (ofCosmetic item policy).RestsOnMatches := by
  unfold ofCosmetic
  split
  · exact restsOnMatches_ofMatches _
  · exact restsOnMatches_dropped

theorem restsOnMatches_ofAspectUpgrade :
    (ofAspectUpgrade item profiles policy).RestsOnMatches := by
  unfold ofAspectUpgrade
  dsimp only
  split
  · exact restsOnMatches_ofMatches _
  · split
    · exact restsOnMatches_ofMatches _
    · exact restsOnMatches_dropped

theorem hasAffixFilters_eq_false_iff :
    profiles.hasAffixFilters = false ↔ ∀ profile ∈ profiles, profile.affixFilters = [] := by
  simp [ProfileSet.hasAffixFilters]

/-- Without any item filter all gear is kept. -/
theorem keptUnasked_ofGear_iff :
    (ofGear item profiles).KeptUnasked ↔ ∀ profile ∈ profiles, profile.affixFilters = [] := by
  rw [← hasAffixFilters_eq_false_iff, ofGear]
  cases profiles.hasAffixFilters with
  | false => exact iff_of_true ⟨rfl, rfl⟩ rfl
  | true => exact iff_of_false (restsOnMatches_ofMatches _).not_keptUnasked (nomatch ·)

/-- A legendary that its filters drop may be kept for its aspect, but then that is its match. -/
theorem keptUnasked_ofEquipment_iff (plain : item.rarity.isUniqueOrMythic = false) :
    (ofEquipment item profiles policy).KeptUnasked ↔
      ∀ profile ∈ profiles, profile.affixFilters = [] := by
  rw [← @keptUnasked_ofGear_iff item, ofEquipment, if_neg (Bool.eq_false_iff.1 plain)]
  dsimp only
  split
  · exact Iff.rfl
  · next asked =>
    have drops : ¬ (ofGear item profiles).KeptUnasked := by
      intro unasked
      apply asked
      rw [unasked.1]
      rfl
    exact iff_of_false restsOnMatches_ofAspectUpgrade.not_keptUnasked drops

theorem keptUnasked_ofUnique_iff :
    (ofUnique item profiles policy).KeptUnasked ↔
      (∀ filter ∈ profiles.uniqueFilters, filter.admits item = false) ∧
        IsSpared item profiles policy := by
  have accepted : (ofUnique item profiles policy).accepted = uniqueMatches item profiles := by
    rw [ofUnique_eq]
  unfold KeptUnasked
  rw [accepted, keep_ofUnique_iff, uniqueMatches_eq_nil_iff, and_comm]
  apply and_congr_right
  intro unmatched
  apply or_iff_right
  rintro ⟨filter, member, admits⟩
  rw [unmatched filter member] at admits
  cases admits

/-! The decision. -/

/-- The cases in which an item is kept that no filter accepted. -/
inductive Unasked (item : Item) (profiles : ProfileSet) (policy : Policy) : Prop
  | ignoredSigil (typed : item.type = some .escalationSigil)
    (ignored : policy.ignoreEscalationSigils = true)
  | noItemFilter (equipment : item.IsEquipment) (worth : item.IsWorthAsking policy)
    (plain : item.rarity.isUniqueOrMythic = false)
    (none : ∀ profile ∈ profiles, profile.affixFilters = [])
  | sparedUnique (equipment : item.IsEquipment) (unique : item.rarity.isUniqueOrMythic = true)
    (unmatched : ∀ filter ∈ profiles.uniqueFilters, filter.admits item = false)
    (spared : IsSpared item profiles policy)

namespace Decided

variable {verdict : Verdict} (decided : Decided item profiles policy verdict)

include decided

theorem accepted_of_dropped (drops : verdict.keep = false) : verdict.accepted = [] := by
  cases decided with
  | ignoredSigil => cases drops
  | sigil => exact restsOnMatches_ofSigil.accepted_of_dropped drops
  | tribute => exact restsOnMatches_ofTribute.accepted_of_dropped drops
  | unfit => rfl
  | ownRule _ _ keeps =>
    rw [keeps] at drops
    cases drops
  | cosmetic => exact restsOnMatches_ofCosmetic.accepted_of_dropped drops

theorem unasked (keptUnasked : verdict.KeptUnasked) : Unasked item profiles policy := by
  cases decided with
  | ignoredSigil typed ignored => exact .ignoredSigil typed ignored
  | sigil => exact absurd keptUnasked restsOnMatches_ofSigil.not_keptUnasked
  | tribute => exact absurd keptUnasked restsOnMatches_ofTribute.not_keptUnasked
  | unfit => exact absurd keptUnasked restsOnMatches_dropped.not_keptUnasked
  | ownRule equipment worth =>
    by_cases unique : item.rarity.isUniqueOrMythic = true
    · rw [ofEquipment_of_unique unique, keptUnasked_ofUnique_iff] at keptUnasked
      exact .sparedUnique equipment unique keptUnasked.1 keptUnasked.2
    · have plain := Bool.eq_false_iff.2 unique
      rw [keptUnasked_ofEquipment_iff plain] at keptUnasked
      exact .noItemFilter equipment worth plain keptUnasked
  | cosmetic => exact absurd keptUnasked restsOnMatches_ofCosmetic.not_keptUnasked

end Decided

theorem keptUnasked_decide_of_ofEquipment (equipment : item.IsEquipment)
    (worth : item.IsWorthAsking policy)
    (keptUnasked : (ofEquipment item profiles policy).KeptUnasked) :
    (decide item profiles policy).KeptUnasked := by
  rw [decide_of_isEquipment equipment, ofRest_of_isWorthAsking equipment worth,
    if_pos keptUnasked.1]
  exact keptUnasked

theorem Unasked.keptUnasked (unasked : Unasked item profiles policy) :
    (decide item profiles policy).KeptUnasked := by
  cases unasked with
  | ignoredSigil typed ignored =>
    unfold decide
    rw [typed]
    dsimp only
    rw [if_pos ignored]
    exact ⟨rfl, rfl⟩
  | noItemFilter equipment worth plain none =>
    apply keptUnasked_decide_of_ofEquipment equipment worth
    exact (keptUnasked_ofEquipment_iff plain).2 none
  | sparedUnique equipment unique unmatched spared =>
    have worth : item.IsWorthAsking policy := .inl (Rarity.not_junk_of_isUniqueOrMythic _ unique)
    apply keptUnasked_decide_of_ofEquipment equipment worth
    rw [ofEquipment_of_unique unique]
    exact keptUnasked_ofUnique_iff.2 ⟨unmatched, spared⟩

/-- A dropped item has no matches, and which items are kept without a match is known exactly. -/
theorem keep_and_matches_agree (item : Item) (profiles : ProfileSet) (policy : Policy) :
    ((decide item profiles policy).keep = false →
      (decide item profiles policy).accepted = []) ∧
    ((decide item profiles policy).keep = true ∧ (decide item profiles policy).accepted = [] ↔
      Unasked item profiles policy) :=
  ⟨(decided item profiles policy).accepted_of_dropped,
    (decided item profiles policy).unasked, Unasked.keptUnasked⟩

/-- A unique ring that no filter accepts. -/
def unsoughtRing : Item :=
  { Item.plain .unique (some .ring) with
    power := some 750
    aspect := some ⟨"ring_of_starless_skies", "", .none⟩ }

/-- Asks for the aspect of another unique only. -/
def otherAspectProfiles : ProfileSet :=
  [⟨"sorcerer", [], [], none, [],
    [⟨some ⟨"galvanic_azurite", none, .larger⟩, [], [], none, 0, 0, 0, false⟩]⟩]

theorem unsoughtRing_kept_or_dropped :
    (decide unsoughtRing otherAspectProfiles .strict).keep = false ∧
    (decide unsoughtRing otherAspectProfiles .strict).accepted = [] ∧
    Unasked unsoughtRing otherAspectProfiles .standard := by
  have drops : (decide unsoughtRing otherAspectProfiles .strict).keep = false := by decide +kernel
  have keeps : (decide unsoughtRing otherAspectProfiles .standard).keep = true := by
    decide +kernel
  exact ⟨drops, (keep_and_matches_agree unsoughtRing otherAspectProfiles .strict).1 drops,
    (keep_and_matches_agree unsoughtRing otherAspectProfiles .standard).2.1 ⟨keeps, rfl⟩⟩

end LootSieve.Verdict
