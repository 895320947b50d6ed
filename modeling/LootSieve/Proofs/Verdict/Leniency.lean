import LootSieve.Verdict.Decision
import Mathlib.Order.BooleanAlgebra.Defs
import Mathlib.Order.Basic

/-!
Lenient policies keep more. Policies are compared field by field, and an item that is kept under
one of them is kept under every policy that is at least as lenient: a field that lets an item into
another rule never leads it away from being kept.
-/

namespace LootSieve

def UniquePolicy.leniency : UniquePolicy → Nat
  | junk => 0
  | ignore | favorite => 1

def AspectPolicy.leniency : AspectPolicy → Nat
  | none => 0
  | upgrade => 1
  | all => 2

def CosmeticPolicy.leniency : CosmeticPolicy → Nat
  | junk => 0
  | ignore => 1

theorem UniquePolicy.ne_junk_iff (policy : UniquePolicy) : policy ≠ junk ↔ 1 ≤ policy.leniency := by
  cases policy <;> simp [leniency]

theorem CosmeticPolicy.eq_ignore_iff (policy : CosmeticPolicy) :
    policy = ignore ↔ 1 ≤ policy.leniency := by
  cases policy <;> simp [leniency]

/-- The second policy is at least as lenient as the first in every field. -/
structure Policy.AtMost (stricter milder : Policy) : Prop where
  uniques : stricter.uniques.leniency ≤ milder.uniques.leniency
  aspects : stricter.aspects.leniency ≤ milder.aspects.leniency
  cosmetics : stricter.cosmetics.leniency ≤ milder.cosmetics.leniency
  junkRares : milder.junkRares ≤ stricter.junkRares
  ignoreEscalationSigils : stricter.ignoreEscalationSigils ≤ milder.ignoreEscalationSigils

instance Policy.instLE : LE Policy := ⟨Policy.AtMost⟩

theorem Policy.strict_le_standard : strict ≤ standard := by
  constructor <;> decide

theorem Policy.standard_le_collector : standard ≤ collector := by
  constructor <;> decide

theorem Rarity.isJunk_mono (rarity : Rarity) {milder stricter : Bool} (le : milder ≤ stricter)
    (junk : rarity.isJunk milder = true) : rarity.isJunk stricter = true := by
  cases rarity with
  | common | magic => rfl
  | rare => exact le junk
  | legendary | unique | mythic => cases junk

namespace Verdict
variable {item : Item} {profiles : ProfileSet} {stricter milder : Policy}

theorem isUnfit_mono (le : stricter ≤ milder) (unfit : isUnfit item milder = true) :
    isUnfit item stricter = true := by
  simp only [isUnfit, Bool.or_eq_true, Bool.and_eq_true] at unfit ⊢
  refine unfit.imp_right ?_
  rintro ⟨junk, plain⟩
  exact ⟨item.rarity.isJunk_mono le.junkRares junk, plain⟩

/-- The policy on uniques enters the rule through one condition only. -/
theorem ofUnique_mono (le : stricter ≤ milder)
    (kept : (ofUnique item profiles stricter).keep = true) :
    (ofUnique item profiles milder).keep = true := by
  have uniques : stricter.uniques ≠ .junk → milder.uniques ≠ .junk := by
    rw [UniquePolicy.ne_junk_iff, UniquePolicy.ne_junk_iff]
    exact fun spares => Nat.le_trans spares le.uniques
  unfold ofUnique at kept ⊢
  by_cases filters : profiles.hasUniqueFilters = true
  · simp only [filters, if_true, Bool.or_eq_true, Bool.and_eq_true, decide_eq_true_eq] at kept ⊢
    exact kept.imp_right fun ⟨unnamed, spares⟩ => ⟨unnamed, uniques spares⟩
  · simp only [filters, Bool.false_eq_true, if_false, Bool.or_eq_true, decide_eq_true_eq] at kept ⊢
    exact kept.imp_left uniques

theorem policyKeepsAspect_iff (policy : Policy) : policyKeepsAspect item policy = true ↔
    2 ≤ policy.aspects.leniency ∨ 1 ≤ policy.aspects.leniency ∧ item.codexUpgrade = true := by
  unfold policyKeepsAspect
  cases policy.aspects <;> simp [AspectPolicy.leniency]

theorem policyKeepsAspect_mono (le : stricter ≤ milder)
    (keeps : policyKeepsAspect item stricter = true) : policyKeepsAspect item milder = true := by
  have bound := le.aspects
  rw [policyKeepsAspect_iff] at keeps ⊢
  rcases keeps with all | ⟨upgrade, brings⟩
  · exact .inl (by omega)
  · exact .inr ⟨by omega, brings⟩

theorem ofAspectUpgrade_mono (le : stricter ≤ milder)
    (kept : (ofAspectUpgrade item profiles stricter).keep = true) :
    (ofAspectUpgrade item profiles milder).keep = true := by
  unfold ofAspectUpgrade at kept ⊢
  by_cases wanted : (!(upgradeMatches item profiles).isEmpty) = true
  · simpa only [wanted, if_true] using kept
  · simp only [wanted, Bool.false_eq_true, if_false] at kept ⊢
    by_cases keeps : policyKeepsAspect item stricter = true
    · rw [if_pos (policyKeepsAspect_mono le keeps)]
      rfl
    · rw [if_neg keeps] at kept
      cases kept

theorem ofCosmetic_mono (le : stricter ≤ milder) (kept : (ofCosmetic item stricter).keep = true) :
    (ofCosmetic item milder).keep = true := by
  have cosmetics : stricter.cosmetics = .ignore → milder.cosmetics = .ignore := by
    rw [CosmeticPolicy.eq_ignore_iff, CosmeticPolicy.eq_ignore_iff]
    exact fun spares => Nat.le_trans spares le.cosmetics
  unfold ofCosmetic at kept ⊢
  by_cases saves : (stricter.cosmetics = .ignore && item.cosmeticUpgrade) = true
  · simp only [Bool.and_eq_true, decide_eq_true_eq] at saves
    rw [if_pos (by simp [cosmetics saves.1, saves.2])]
    rfl
  · rw [if_neg saves] at kept
    cases kept

theorem ofEquipment_mono (le : stricter ≤ milder)
    (kept : (ofEquipment item profiles stricter).keep = true) :
    (ofEquipment item profiles milder).keep = true := by
  unfold ofEquipment at kept ⊢
  split at kept
  · next named => rw [if_pos named]; exact ofUnique_mono le kept
  · next plain =>
    rw [if_neg plain]
    dsimp only at kept ⊢
    split at kept
    · next settled => rw [if_pos settled]; exact kept
    · next unsettled => rw [if_neg unsettled]; exact ofAspectUpgrade_mono le kept

/-- An item that leaves its rule for the look of it does so under both policies, or is kept by the
milder one before. -/
theorem ofRest_mono (le : stricter ≤ milder) (kept : (ofRest item profiles stricter).keep = true) :
    (ofRest item profiles milder).keep = true := by
  have fit : isUnfit item stricter ≠ true := by
    intro unfit
    rw [ofRest, if_pos unfit] at kept
    cases kept
  rw [ofRest, if_neg fit] at kept
  rw [ofRest, if_neg fun unfit => fit (isUnfit_mono le unfit)]
  dsimp only at kept ⊢
  by_cases accepted : (ofEquipment item profiles milder).keep = true
  · rw [if_pos accepted]
    exact accepted
  · rw [if_neg fun before => accepted (ofEquipment_mono le before)] at kept
    rw [if_neg accepted]
    exact ofCosmetic_mono le kept

theorem keep_decide_of_le (le : stricter ≤ milder)
    (kept : (decide item profiles stricter).keep = true) :
    (decide item profiles milder).keep = true := by
  unfold decide at kept ⊢
  split at kept
  · by_cases ignores : stricter.ignoreEscalationSigils = true
    · rw [if_pos (le.ignoreEscalationSigils ignores)]
      rfl
    · rw [if_neg ignores] at kept
      split
      · rfl
      · exact kept
  · exact kept
  · exact kept
  · exact ofRest_mono le kept

/-- Leniency is monotone: what a policy keeps, every milder one keeps, and the three standard
policies keep more and more. -/
theorem decide_mono (item : Item) (profiles : ProfileSet) :
    (∀ stricter milder : Policy, stricter ≤ milder →
      (decide item profiles stricter).keep = true → (decide item profiles milder).keep = true) ∧
    ((decide item profiles .strict).keep = true → (decide item profiles .standard).keep = true) ∧
    ((decide item profiles .standard).keep = true →
      (decide item profiles .collector).keep = true) :=
  ⟨fun _ _ le kept => keep_decide_of_le le kept, keep_decide_of_le Policy.strict_le_standard,
    keep_decide_of_le Policy.standard_le_collector⟩

/-- A helm that no filter accepts, but that improves the collection. -/
def improvingHelm : Item :=
  { Item.plain .legendary (some .helm) with
    power := some 800
    aspect := some ⟨"of_disobedience", "", .none⟩
    codexUpgrade := true }

def dexterityProfiles : ProfileSet :=
  [⟨"rogue", [⟨"Helm", [.helm], 0, 0, [.ofAll [⟨"dexterity", none, .larger, false⟩]], []⟩], [],
    none, [], []⟩]

theorem improvingHelm_kept_by_milder :
    (⟨.junk, .upgrade, .junk, true, false⟩ : Policy) ≤ ⟨.ignore, .all, .ignore, false, true⟩ ∧
    (decide improvingHelm dexterityProfiles ⟨.junk, .upgrade, .junk, true, false⟩).keep = true ∧
    (decide improvingHelm dexterityProfiles ⟨.ignore, .all, .ignore, false, true⟩).keep = true := by
  have le : (⟨.junk, .upgrade, .junk, true, false⟩ : Policy) ≤
      ⟨.ignore, .all, .ignore, false, true⟩ := by
    constructor <;> decide
  have kept : (decide improvingHelm dexterityProfiles
      ⟨.junk, .upgrade, .junk, true, false⟩).keep = true := by
    decide
  exact ⟨le, kept, (decide_mono improvingHelm dexterityProfiles).1 _ _ le kept⟩

end Verdict

end LootSieve
