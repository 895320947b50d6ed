import LootSieve.Proofs.Fallible
import LootSieve.Proofs.Tooltip.AspectLine
import LootSieve.Proofs.Tooltip.GearLayout

/-! Reading the tooltip of a piece of gear gives back the item that it shows. -/

namespace LootSieve.Tooltip
open Text Fallible

variable {lexicon : Lexicon} {title : String} {rarity : Rarity} {identity : Identity}

theorem identify_of_named (named : Named lexicon title rarity identity) {item : Item}
    (ranked : item.rarity = rarity) (titled : item.name = titleName title) :
    identify lexicon item = .ok identity := by
  unfold identify
  rw [ranked, titled]
  cases named with
  | rare => rfl
  | legendary known | unique known | mythic known =>
    simp only [Rarity.isUniqueOrMythic, Bool.false_eq_true, if_false, if_true, known]

theorem Named.not_plain (named : Named lexicon title rarity identity) :
    rarity ≠ .common ∧ rarity ≠ .magic := by
  cases named <;> decide

/-- The rolled lines fill in what the heading leaves open. -/
theorem readRolls_block (tooltip : GearTooltip identity.ownInherentCount)
    {inherents affixes : List Affix}
    (named : Named lexicon tooltip.title tooltip.rarity identity)
    (inherentsDecode : Decode lexicon tooltip.inherents inherents)
    (affixesDecode : Decode lexicon tooltip.affixes affixes)
    (addressable : tooltip.block.length < Layout.positionLimit)
    {item : Item} (ranked : item.rarity = tooltip.rarity)
    (titled : item.name = titleName tooltip.title) :
    readRolls lexicon tooltip.block tooltip.type item = .ok { item with
      name := identity.name
      inherents := inherents.map fun affix => { affix with kind := .inherent }
      affixes := affixes
      aspect := tooltip.aspect.map fun line =>
        aspectOf tooltip.rarity line identity.aspectName } := by
  obtain ⟨layout, located, inherentLines, affixLines, aspectLine⟩ :=
    tooltip.exists_layout addressable
  unfold readRolls
  rw [identify_of_named named ranked titled, ranked]
  simp only [ok_bind, located, inherentLines, affixLines, aspectLine,
    mapM_eq_ok_iff.2 inherentsDecode, mapM_eq_ok_iff.2 affixesDecode]
  rfl

namespace GearTooltip

variable {own : Option Nat} (tooltip : GearTooltip own)

/-- What is known of the item before its flags and rolled lines are read. -/
def outline : Item :=
  { Item.plain tooltip.rarity (some tooltip.type) with
    power := some (min (natOfDigits tooltip.power) greatestInt32 : Nat)
    name := titleName tooltip.title
    inShop := anyMentions tooltip.block shopMarkers }

theorem read_block :
    read lexicon tooltip.block = readGear lexicon tooltip.block tooltip.type tooltip.outline := by
  have classified : classify tooltip.block = .ok (.gear,
      { Item.plain tooltip.rarity (some tooltip.type) with name := titleName tooltip.title }) :=
    classify_gear tooltip.titleFree tooltip.isGear tooltip.typed _
  unfold read outline
  rw [classified, ok_bind]
  dsimp only [Item.plain]
  rw [isSigil_of_isGear _ tooltip.isGear, tooltip.isGear, tooltip.power?_block]
  rfl

theorem withFlags_outline (unmarked : ∀ line ∈ tooltip.block, isSanctifiedMark line = false) :
    withFlags tooltip.block tooltip.outline =
      { tooltip.outline with
        codexUpgrade := anyMentions tooltip.block codexMarkers
        cosmeticUpgrade := anyMentions tooltip.block cosmeticMarkers } := by
  have noMark : tooltip.block.any isSanctifiedMark = false := by
    rw [List.any_eq_false]
    intro line member
    rw [unmarked line member]
    exact Bool.false_ne_true
  unfold withFlags
  rw [noMark]
  rfl

theorem readGear_outline (unmarked : ∀ line ∈ tooltip.block, isSanctifiedMark line = false)
    (rolled : tooltip.rarity ≠ .common ∧ tooltip.rarity ≠ .magic) :
    readGear lexicon tooltip.block tooltip.type tooltip.outline =
      readRolls lexicon tooltip.block tooltip.type (withFlags tooltip.block tooltip.outline) := by
  unfold readGear
  apply if_neg
  rw [tooltip.withFlags_outline unmarked]
  simp [isPlainGear, outline, Item.plain, rolled]

end GearTooltip

/-- The aspect line, if there is one, tells of one aspect. -/
theorem GearTooltip.exists_aspect {own : Option Nat} (tooltip : GearTooltip own) (name : String) :
    Option.Rel (ShowsAspect tooltip.rarity name) tooltip.aspect
      (tooltip.aspect.map fun line => aspectOf tooltip.rarity line name) := by
  cases tooltip.aspect with
  | none => exact .none
  | some line => exact .some (showsAspect_aspectOf tooltip.rarity name line)

/-- The tooltip of a piece of gear is read as the item that it shows. Whatever the lexicon, the type
and the rarity, and whatever stands on the lines that no label fixes: as long as the lexicon knows
the title, each inherent and affix line decodes on its own and no line marks the item as sanctified,
each group of lines is taken for what it is, and the aspect is the one that its line tells of. A
block that fits into memory is addressable. -/
theorem read_gearTooltip (lexicon : Lexicon) (identity : Identity)
    (tooltip : GearTooltip identity.ownInherentCount) (inherents affixes : List Affix)
    (named : Named lexicon tooltip.title tooltip.rarity identity)
    (inherentsDecode : Decode lexicon tooltip.inherents inherents)
    (affixesDecode : Decode lexicon tooltip.affixes affixes)
    (unmarked : ∀ line ∈ tooltip.block, isSanctifiedMark line = false)
    (addressable : tooltip.block.length < Layout.positionLimit) :
    ∃ aspect, Option.Rel (ShowsAspect tooltip.rarity identity.aspectName) tooltip.aspect aspect ∧
      read lexicon tooltip.block = .ok (tooltip.item identity inherents affixes aspect) := by
  refine ⟨_, tooltip.exists_aspect identity.aspectName, ?_⟩
  rw [tooltip.read_block, tooltip.readGear_outline unmarked named.not_plain,
    tooltip.withFlags_outline unmarked]
  exact readRolls_block tooltip named inherentsDecode affixesDecode addressable rfl rfl

/-! A legendary made of a rare with three affixes. -/

def staffLexicon : Lexicon := Lexicon.empty.addAspects ["of_unyielding_hits"]

def imprintedStaff : GearTooltip none where
  rarity := .legendary
  type := .quarterstaff
  power := "800".toList
  title := "QUARTERSTAFF OF UNYIELDING HITS"
  typeLine := "Legendary Quarterstaff"
  powerLine := "800 Item Power"
  landmark := "596 Damage Per Second"
  details := ["[434 - 650] Damage per Hit", "1.10 Attacks per Second (Fast)"]
  inherents := ["45% Block Chance [45]%"]
  affixes := ["+231 Dexterity +[214 - 242]", "+1,370 Maximum Life", "+30 Strength [25 - 35]"]
  aspect := some "Imprinted: Casting increases your Damage by 52% [20 - 60]%"
  rolls := ["+231 Dexterity +[214 - 242]", "+1,370 Maximum Life", "+30 Strength [25 - 35]",
    "Imprinted: Casting increases your Damage by 52% [20 - 60]%"]
  tail := ["Empty Socket", "Right mouse button"]
  isGear := rfl
  titleFree := by decide +kernel
  titlePower := by decide +kernel
  titleLandmark := by decide +kernel
  typed := by decide +kernel
  powerNonempty := by decide
  powerDigits := List.all_eq_true.1 (by decide)
  powered := ⟨"Item Power".toList, by decide, by decide⟩
  landmarked := ⟨"596".toList,
    fun char member => not_alphabetic_of_isDigit (List.all_eq_true.1 (by decide) char member),
    "Damage Per Second".toList, by decide, by decide⟩
  detailed := rfl
  inherited := rfl
  rolled := .imprinted (by decide +kernel)

theorem imprintedStaff_recovered :
    ∃ item, read staffLexicon imprintedStaff.block = .ok item ∧
      item.rarity = .legendary ∧ item.type = some .quarterstaff ∧ item.power = some 800 ∧
      item.inherents.map (·.text) = imprintedStaff.inherents ∧
      item.affixes.map (·.name) = ["dexterity", "maximum_life", "strength"] ∧
      item.aspect = some ⟨"of_unyielding_hits",
        "Imprinted: Casting increases your Damage by 52% [20 - 60]%",
        .ranged (decimalValue "52".toList []) (decimalValue "20".toList [])
          (decimalValue "60".toList [])⟩ := by
  obtain ⟨_, shows, recovered⟩ := read_gearTooltip staffLexicon
    ⟨"quarterstaff_of_unyielding_hits", "of_unyielding_hits", none⟩ imprintedStaff _ _
    (.legendary (by decide +kernel)) (.cons rfl .nil) (.cons rfl (.cons rfl (.cons rfl .nil)))
    (by decide +kernel) (by decide)
  cases shows with
  | some shown =>
    have same := shown.unique (showsAspect_aspectOf .legendary "of_unyielding_hits" _)
    refine ⟨_, recovered, rfl, rfl, rfl, rfl, ?_, ?_⟩
    · dsimp only [GearTooltip.item]
      decide +kernel
    · exact congrArg some same

end LootSieve.Tooltip
