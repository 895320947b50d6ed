import LootSieve.Proofs.Text.Spelling
import LootSieve.Proofs.Text.Trimming
import Mathlib.Tactic.MkIffOfInductiveProp
import LootSieve.Tooltip.Heading
import LootSieve.Tooltip.Layout

/-! The heading of gear. A type line that spells a rarity and the wording of a gear type falls under
no other rule, and both are read back from it. What is checked of the wordings themselves is checked
once for all rarities and types. -/

namespace LootSieve.Tooltip
open Text

/-- The type line of a piece of gear in lower case. -/
def gearPhrase (rarity : Rarity) (type : ItemType) : List Char :=
  rarity.name.toList ++ ' ' :: type.wording.toList

/-- The label of the line after the item power, which is not the same for all gear. -/
def landmarkLabel (type : ItemType) : String :=
  if type.isWeapon then "damage per second"
  else if type.isJewelry then "all resist"
  else "armor"

/-- Titles that place a block whatever its type line reads. -/
def categoryTitles : List String :=
  ["Compass", "Nightmare Sigil", "Escalation Sigil", "TRIBUTE OF", "WHISPERING KEY"]

/-! Wordings. -/

instance Rarity.decidableForall (holds : Rarity → Prop) [DecidablePred holds] :
    Decidable (∀ rarity, holds rarity) :=
  decidable_of_iff (∀ rarity ∈ Rarity.all, holds rarity)
    ⟨fun check rarity => check rarity (Rarity.mem_all rarity), fun check rarity _ => check rarity⟩

instance ItemType.decidableForall (holds : ItemType → Prop) [DecidablePred holds] :
    Decidable (∀ type, holds type) :=
  decidable_of_iff (∀ type ∈ ItemType.all, holds type)
    ⟨fun check type => check type (ItemType.mem_all type), fun check type _ => check type⟩

theorem gearPhrase_ascii (rarity : Rarity) (type : ItemType) :
    IsAscii (gearPhrase rarity type) := by
  have names : ∀ rarity : Rarity, IsAscii rarity.name.toList := by decide +kernel
  have wordings : ∀ type : ItemType, IsAscii type.wording.toList := by decide +kernel
  intro char member
  rcases List.mem_append.1 member with inName | inRest
  · exact names rarity char inName
  · rcases List.mem_cons.1 inRest with rfl | inWording
    · decide
    · exact wordings type char inWording

/-- Other rules look for these at the end of a type line. -/
def typeEndings : List String :=
  ["summoning", "gem", "cache", "whispering wood", "boss key", "elixir", "incense", "consumable",
   "scroll"]

/-- What the rules and the layout look for in a type line and do not find in that of gear. -/
@[mk_iff]
structure IsPlain (type : ItemType) (phrase : List Char) : Prop where
  trimmed : trim phrase = phrase
  ending : ∀ ending ∈ typeEndings, ending.toList.isSuffixOf phrase = false
  cosmetic : "cosmetic".toList.isPrefixOf phrase = false
  rune : occursIn "rune of".toList phrase = false
  chaos : occursIn "chaos".toList phrase = false
  power : occursIn itemPower.toList phrase = false
  landmark : [' '].intercalate (words (phrase.filter Naming.isLetterOrBlank)) ≠
    (landmarkLabel type).toList

instance (type : ItemType) (phrase : List Char) : Decidable (IsPlain type phrase) :=
  decidable_of_iff _ (isPlain_iff type phrase).symm

theorem gearPhrase_plain : ∀ (rarity : Rarity) (type : ItemType), type.isGear = true →
    IsPlain type (gearPhrase rarity type) := by
  decide +kernel

/-- The words that are left of the type line once annotations and qualifiers are dropped. -/
theorem gearPhrase_words : ∀ (rarity : Rarity) (type : ItemType), type.isGear = true →
    words (erase "chaos".toList (erase "ancestral".toList
      (dropAnnotations (gearPhrase rarity type)))) =
      rarity.name.toList :: words type.wording.toList := by
  decide +kernel

theorem ofToken_name : ∀ rarity : Rarity, Rarity.ofToken rarity.name.toList = rarity := by
  decide +kernel

theorem ofGearWording_words : ∀ type : ItemType, type.isGear = true →
    ItemType.ofGearWording? (Heading.spaced (words type.wording.toList)) = some type := by
  decide +kernel

/-! Classification. -/

/-- A title without its blanks on either side that no rule on titles looks for. -/
def TitleIsFree (title : String) : Prop :=
  ∀ phrase ∈ categoryTitles, ¬ phrase.toList <+: trim title.toList

instance (title : String) : Decidable (TitleIsFree title) :=
  inferInstanceAs (Decidable (∀ phrase ∈ categoryTitles, _))

/-- The name that a title stands for. -/
def titleName (title : String) : String := String.ofList (Naming.ofTitle (trim title.toList))

theorem titleName_eq (title : String) :
    titleName title = String.ofList (Naming.ofTitle title.toList) := by
  unfold titleName Naming.ofTitle
  rw [trim_trim]

namespace Heading

variable {heading : Heading} {rarity : Rarity} {type : ItemType}

/-- Gear is what no other rule claims. -/
theorem forHeading_eq_gear (free : ∀ phrase ∈ categoryTitles, heading.titleStarts phrase = false)
    (ending : ∀ ending ∈ typeEndings, heading.typeEnds ending = false)
    (cosmetic : heading.typeStarts "cosmetic" = false)
    (rune : heading.typeMentions "rune of" = false) : Rule.forHeading heading = .gear := by
  simp only [categoryTitles, List.forall_mem_cons] at free
  simp only [typeEndings, List.forall_mem_cons] at ending
  simp [Rule.forHeading, Rule.ordered, Rule.applies, free, ending, cosmetic, rune]

theorem forHeading_gear (free : ∀ phrase ∈ categoryTitles, heading.titleStarts phrase = false)
    (plain : IsPlain type heading.typeLower) : Rule.forHeading heading = .gear :=
  forHeading_eq_gear free plain.ending plain.cosmetic plain.rune

theorem gear_of_gearWords
    (cut : heading.gearWords = rarity.name.toList :: words type.wording.toList)
    (isGear : type.isGear = true) :
    heading.gear = { Item.plain rarity (some type) with
      name := String.ofList (Naming.ofTitle heading.title)
      chaos := heading.typeMentions "chaos" } := by
  unfold gear
  rw [cut]
  simp only [leadingRarity, List.tail_cons, ofToken_name, ofGearWording_words type isGear]

theorem gear_of_typeLower (line : heading.typeLower = gearPhrase rarity type)
    (isGear : type.isGear = true) :
    heading.gear = { Item.plain rarity (some type) with
      name := String.ofList (Naming.ofTitle heading.title) } := by
  have noChaos : heading.typeMentions "chaos" = false := by
    unfold typeMentions
    rw [line]
    exact (gearPhrase_plain rarity type isGear).chaos
  have cut : heading.gearWords = rarity.name.toList :: words type.wording.toList := by
    unfold gearWords
    rw [line]
    exact gearPhrase_words rarity type isGear
  rw [gear_of_gearWords cut isGear, noChaos]
  rfl

end Heading

/-- The item of a block is what the rule builds, with a name of its own or that of the title. -/
theorem classify_eq_ok {block : List String} {rule : Rule} {item : Item}
    (classified : classify block = .ok (rule, item)) :
    ∃ title typeLine rest, block = title :: typeLine :: rest ∧
      let heading : Heading := ⟨trim title.toList, trim typeLine.toList⟩
      let built := rule.build heading
      rule = Rule.forHeading heading ∧ item = { built with
        name := if built.name.isEmpty then titleName title else built.name } := by
  cases block with
  | nil => cases classified
  | cons title rest =>
    cases rest with
    | nil => cases classified
    | cons typeLine rest =>
      refine ⟨title, typeLine, rest, rfl, ?_⟩
      have same := Except.ok.inj classified
      intro heading built
      unfold Heading.classify at same
      dsimp only at same
      split at same
      · next nameless =>
        obtain ⟨rfl, rfl⟩ := Prod.mk.inj same
        exact ⟨rfl, by rw [if_pos nameless]; rfl⟩
      · next named =>
        obtain ⟨rfl, rfl⟩ := Prod.mk.inj same
        exact ⟨rfl, by rw [if_neg named]⟩

theorem titleStarts_of_free {title : String} (free : TitleIsFree title) (typeLine : List Char) :
    ∀ phrase ∈ categoryTitles,
      (⟨trim title.toList, typeLine⟩ : Heading).titleStarts phrase = false := by
  intro phrase member
  rw [← Bool.not_eq_true]
  exact fun found => free phrase member (List.isPrefixOf_iff_prefix.1 found)

/-- Gear bears the name of the title, be it empty or not. -/
theorem classify_of_gear {title typeLine : String} {item : Item}
    (fires : Rule.forHeading ⟨trim title.toList, trim typeLine.toList⟩ = .gear)
    (built : Heading.gear ⟨trim title.toList, trim typeLine.toList⟩ = item)
    (named : item.name = titleName title) (rest : List String) :
    classify (title :: typeLine :: rest) = .ok (.gear, item) := by
  unfold classify Heading.ofBlock? Heading.classify
  dsimp only
  rw [fires]
  unfold Rule.build
  dsimp only
  rw [built, ← titleName, ← named]
  split <;> rfl

/-- A block is gear of the rarity and type that its second line spells, named by its first. -/
theorem classify_gear {rarity : Rarity} {type : ItemType} {title typeLine : String}
    (free : TitleIsFree title) (isGear : type.isGear = true)
    (spells : Spells (gearPhrase rarity type) typeLine.toList) (rest : List String) :
    classify (title :: typeLine :: rest) =
      .ok (.gear, { Item.plain rarity (some type) with name := titleName title }) := by
  have plain := gearPhrase_plain rarity type isGear
  have line : (⟨trim title.toList, trim typeLine.toList⟩ : Heading).typeLower =
      gearPhrase rarity type := by
    change lower (trim typeLine.toList) = _
    rw [spells.lower_trim (gearPhrase_ascii rarity type), plain.trimmed]
  apply classify_of_gear
  case fires => exact Heading.forHeading_gear (titleStarts_of_free free _) (line ▸ plain)
  case built => exact Heading.gear_of_typeLower line isGear
  case named => rfl

/-! The type line, seen by the layout. -/

theorem typeLine_mentions_no_power {rarity : Rarity} {type : ItemType} {typeLine : String}
    (isGear : type.isGear = true) (spells : Spells (gearPhrase rarity type) typeLine.toList) :
    mentions itemPower typeLine = false := by
  unfold mentions
  rw [spells.lower_eq (gearPhrase_ascii rarity type)]
  exact (gearPhrase_plain rarity type isGear).power

theorem typeLine_is_no_landmark {rarity : Rarity} {type : ItemType} {typeLine : String}
    (isGear : type.isGear = true) (spells : Spells (gearPhrase rarity type) typeLine.toList) :
    Naming.wording typeLine.toList ≠ (landmarkLabel type).toList := by
  unfold Naming.wording
  rw [Naming.letterWords_of_spells spells (gearPhrase_ascii rarity type)]
  exact (gearPhrase_plain rarity type isGear).landmark

end LootSieve.Tooltip
