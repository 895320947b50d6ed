import LootSieve.Proofs.Tooltip.GearReading
import LootSieve.Proofs.Verdict.Dispatch

/-! Items that unlock a look. The heading sets the flag for cosmetic items, a line of the block for
gear, and the flag redeems a junk rarity; but what shows no power is dropped before anything is
asked of it. Under a policy that leaves cosmetics alone it is therefore the power alone that
decides. -/

namespace LootSieve

namespace Tooltip
open Text Fallible

variable {lexicon : Lexicon} {block : List String} {item : Item}

/-! The power line. -/

/-- The first line that mentions an item power has a digit. -/
def ShowsPower (block : List String) : Prop :=
  ∃ line, block.find? (mentions itemPower) = some line ∧ hasDigit line.toList = true

theorem isSome_power?_iff : (power? block).isSome = true ↔ ShowsPower block := by
  rw [power?_eq, Option.isSome_iff_exists]
  constructor
  · rintro ⟨power, present⟩
    obtain ⟨line, found, read⟩ := Option.bind_eq_some_iff.1 present
    obtain ⟨number, shown, _⟩ := Option.map_eq_some_iff.1 read
    exact ⟨line, found, (isSome_firstNumber? line.toList).1 (Option.isSome_iff_exists.2 ⟨_, shown⟩)⟩
  · rintro ⟨line, found, digit⟩
    obtain ⟨number, shown⟩ :=
      Option.isSome_iff_exists.1 ((isSome_firstNumber? line.toList).2 digit)
    exact ⟨number.toModel.toInt32.toInt, by rw [found, Option.bind_some, shown]; rfl⟩

/-! The flag from heading to item. -/

theorem cosmetic_of_classify {rule : Rule} (classified : classify block = .ok (rule, item))
    (flagged : item.cosmeticUpgrade = true) : item.type = some .cosmetic := by
  obtain ⟨title, typeLine, rest, _, _, rfl⟩ := classify_eq_ok classified
  cases rule with
  | cosmetic => rfl
  | _ => cases flagged

theorem type_and_power_of_readGear {type : ItemType} {start : Item}
    (read : readGear lexicon block type start = .ok item) :
    item.type = start.type ∧ item.power = start.power := by
  unfold readGear at read
  dsimp only at read
  split at read
  · cases read
    exact ⟨rfl, rfl⟩
  · unfold readRolls at read
    obtain ⟨identity, _, read⟩ := bind_eq_ok_iff.1 read
    obtain ⟨layout, _, read⟩ := bind_eq_ok_iff.1 read
    obtain ⟨inherents, _, read⟩ := bind_eq_ok_iff.1 read
    obtain ⟨affixes, _, read⟩ := bind_eq_ok_iff.1 read
    cases read
    exact ⟨rfl, rfl⟩

/-- The power of an item is that of its block, and what unlocks a look is no sigil or tribute. -/
theorem power_and_type_of_read (succeeds : read lexicon block = .ok item) :
    item.power = power? block ∧ (item.cosmeticUpgrade = true →
      ∃ type, item.type = some type ∧ type.isSigil = false ∧ type ≠ .tribute) := by
  unfold read at succeeds
  obtain ⟨⟨rule, heading⟩, classified, succeeds⟩ := bind_eq_ok_iff.1 succeeds
  have cosmetic := cosmetic_of_classify classified
  dsimp only at succeeds
  split at succeeds
  · next type typed =>
    split at succeeds
    · next isSigil =>
      cases succeeds
      refine ⟨rfl, fun flagged => ?_⟩
      cases typed.symm.trans (cosmetic flagged)
      cases isSigil
    · next noSigil =>
      split at succeeds
      · next isGear =>
        obtain ⟨sameType, samePower⟩ := type_and_power_of_readGear succeeds
        refine ⟨samePower, fun _ => ⟨type, sameType.trans typed, Bool.eq_false_iff.2 noSigil, ?_⟩⟩
        rintro rfl
        cases isGear
      · cases succeeds
        refine ⟨rfl, fun flagged => ⟨.cosmetic, cosmetic flagged, rfl, ?_⟩⟩
        exact ItemType.noConfusion
  · next untyped =>
    cases succeeds
    refine ⟨rfl, fun flagged => ?_⟩
    cases untyped.symm.trans (cosmetic flagged)

end Tooltip

/-! The verdict. -/

namespace Verdict
open Tooltip

variable {item : Item} {profiles : ProfileSet} {policy : Policy}

theorem keep_of_unlocked_look (equipment : item.IsEquipment)
    (unlocks : item.cosmeticUpgrade = true) (ignored : policy.cosmetics = .ignore) :
    (decide item profiles policy).keep = true := by
  have kept : (ofCosmetic item policy).keep = true := by
    rw [ofCosmetic, ignored, unlocks]
    rfl
  rw [decide_of_isEquipment equipment, ofRest_of_isWorthAsking equipment (.inr unlocks)]
  split
  · next keeps => exact keeps
  · exact kept

theorem dropped_without_power {type : ItemType} (typed : item.type = some type)
    (noSigil : type.isSigil = false) (noTribute : type ≠ .tribute) (powerless : item.power = none) :
    decide item profiles policy = dropped := by
  have unfit : isUnfit item policy = true := by
    simp [isUnfit, powerless]
  rw [decide_of_type typed noSigil noTribute, ofRest, if_pos unfit]

/-- Where cosmetics are left alone, an item that unlocks a look is kept if its block shows an item
power, and is dropped like all that shows none otherwise. -/
theorem unlocked_look_kept_iff (lexicon : Lexicon) (block : List String) (item : Item)
    (profiles : ProfileSet) (policy : Policy) (succeeds : read lexicon block = .ok item)
    (unlocks : item.cosmeticUpgrade = true) (ignored : policy.cosmetics = .ignore) :
    (decide item profiles policy).keep = true ↔ ShowsPower block := by
  obtain ⟨power, typed⟩ := power_and_type_of_read succeeds
  obtain ⟨type, typed, noSigil, noTribute⟩ := typed unlocks
  rw [← isSome_power?_iff, ← power]
  constructor
  · intro keeps
    by_contra powerless
    rw [dropped_without_power typed noSigil noTribute (Option.not_isSome_iff_eq_none.1 powerless)]
      at keeps
    cases keeps
  · intro powered
    exact keep_of_unlocked_look ⟨⟨type, typed, noSigil, noTribute⟩, powered⟩ unlocks ignored

def crudeHelm : List String :=
  ["CRUDE HELM", "Magic Helm", "400 Item Power", "120 Armor", "Unlocks new look on salvage"]

theorem crudeHelm_kept_for_look : ∃ item, read .empty crudeHelm = .ok item ∧
    item.cosmeticUpgrade = true ∧ (decide item [] .standard).keep = true := by
  have flagged : (read .empty crudeHelm).toOption.any (·.cosmeticUpgrade) = true := by
    decide +kernel
  have power : ShowsPower crudeHelm := ⟨"400 Item Power", by decide +kernel, by decide⟩
  cases succeeds : read .empty crudeHelm with
  | error fault =>
    rw [succeeds] at flagged
    cases flagged
  | ok item =>
    rw [succeeds] at flagged
    have keeps := unlocked_look_kept_iff .empty crudeHelm item [] .standard succeeds flagged rfl
    exact ⟨item, rfl, flagged, keeps.2 power⟩

/-- The look of a cosmetic item that shows no power is lost. -/
theorem mourningVeil_dropped : ∃ item, read .empty ["MOURNING VEIL", "Cosmetic Helm"] = .ok item ∧
    item.cosmeticUpgrade = true ∧ Policy.standard.cosmetics = .ignore ∧
      (decide item [] .standard).keep = false := by
  refine ⟨{ Item.plain .common (some .cosmetic) with
    name := "mourning_veil", cosmeticUpgrade := true }, ?_, rfl, rfl, rfl⟩
  rfl

end Verdict

end LootSieve
