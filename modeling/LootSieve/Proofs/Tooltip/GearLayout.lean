import LootSieve.Proofs.Tooltip.GearTooltip
import LootSieve.Proofs.Tooltip.Numerals

/-! Where the lines of a gear tooltip are found. The labels of its fixed lines place item power and
landmark; from the landmark on, the counts of lines place everything else. -/

namespace LootSieve.Tooltip
open Text

/-! Lines with labels. -/

namespace Labelled

variable {number : List Char} {label line : String}

theorem letterWords (labelled : Labelled number label line) (fixed : IsAscii label.toList)
    (noLetter : ∀ char ∈ number, isAlphabetic char = false) :
    Naming.letterWords line.toList =
      words ((' ' :: label.toList).filter Naming.isLetterOrBlank) := by
  obtain ⟨wording, is, spells⟩ := labelled
  have spaced : Spells (' ' :: label.toList) (' ' :: wording) :=
    congrArg (List.cons ' ') spells
  have spacedFixed : IsAscii (' ' :: label.toList) :=
    List.forall_mem_cons.2 ⟨by decide, fixed⟩
  rw [is, Naming.letterWords_append noLetter, Naming.letterWords_of_spells spaced spacedFixed]

end Labelled

/-! Item power. -/

namespace Labelled

variable {number : List Char} {line : String}

/-- The characters of the line apart from those of the number. -/
theorem mem_line {label : String} (labelled : Labelled number label line) {char : Char}
    (member : char ∈ line.toList) :
    char ∈ number ∨ char = ' ' ∨ char.toLower ∈ label.toList := by
  obtain ⟨wording, is, spells⟩ := labelled
  rw [is] at member
  rcases List.mem_append.1 member with inNumber | inRest
  · exact .inl inNumber
  · rcases List.mem_cons.1 inRest with space | inWording
    · exact .inr (.inl space)
    · exact .inr (.inr (spells ▸ List.mem_map_of_mem inWording))

variable (powered : Labelled number "item power" line)
  (digits : ∀ char ∈ number, char.isDigit = true)

include powered digits

theorem mentions_power : mentions itemPower line = true := by
  have ascii : IsAscii line.toList := by
    intro char member
    rcases powered.mem_line member with inNumber | rfl | low
    · exact ascii_of_isDigit (digits char inNumber)
    · decide
    · have fixed : IsAscii "item power".toList := by decide
      exact (toLower_ascii_iff char).1 (fixed _ low)
  obtain ⟨wording, is, spells⟩ := powered
  unfold mentions
  rw [occursIn_iff, lower_of_ascii ascii, is, List.map_append, List.map_cons, spells]
  exact ⟨number.map Char.toLower ++ [' '], [], by simp [itemPower]⟩

theorem firstNumber (nonempty : number ≠ []) :
    firstNumber? line.toList = some (decimalValue number []) := by
  have noComma : line.toList.filter (· ≠ ',') = line.toList := by
    rw [List.filter_eq_self]
    intro char member
    rw [decide_eq_true_eq]
    rintro rfl
    rcases powered.mem_line member with inNumber | space | low
    · exact absurd (digits _ inNumber) (by decide)
    · exact absurd space (by decide)
    · exact absurd low (by decide)
  obtain ⟨wording, is, _⟩ := powered
  have read : numeral? line.toList = some ((number, []), ' ' :: wording) := by
    unfold numeral?
    have stop : ∀ char ∈ (' ' :: wording).head?, char.isDigit = false := by
      intro char head
      cases head
      rfl
    rw [is, digits?_append nonempty digits stop]
    rfl
  unfold firstNumber?
  rw [noComma, leftmost_of_head read]
  rfl

end Labelled

/-! The first affix. -/

def landmarkLabels : List String := ["damage per second", "all resist", "armor"]

theorem landmarkLabel_mem (type : ItemType) : landmarkLabel type ∈ landmarkLabels := by
  unfold landmarkLabel landmarkLabels
  split
  · simp
  · split <;> simp

theorem isSigil_of_isGear : ∀ type : ItemType, type.isGear = true → type.isSigil = false := by
  decide

theorem landmark?_of_isGear : ∀ type : ItemType, type.isGear = true →
    landmark? type = some (landmarkLabel type, detailCount type + 1) := by
  decide +kernel

theorem wording_power {number : List Char} {line : String}
    (powered : Labelled number "item power" line)
    (digits : ∀ char ∈ number, char.isDigit = true) :
    Naming.wording line.toList = "item power".toList := by
  have fixed : IsAscii "item power".toList := by decide
  unfold Naming.wording
  rw [powered.letterWords fixed fun char member => not_alphabetic_of_isDigit (digits char member)]
  decide

theorem landmarkLabel_ne_power (type : ItemType) :
    "item power".toList ≠ (landmarkLabel type).toList := by
  have checked : ∀ label ∈ landmarkLabels, "item power".toList ≠ label.toList := by decide
  exact checked _ (landmarkLabel_mem type)

theorem wording_landmark {number : List Char} {type : ItemType} {line : String}
    (labelled : Labelled number (landmarkLabel type) line)
    (noLetter : ∀ char ∈ number, isAlphabetic char = false) :
    Naming.wording line.toList = (landmarkLabel type).toList := by
  have ascii : ∀ label ∈ landmarkLabels, IsAscii label.toList := by decide
  have same : ∀ label ∈ landmarkLabels,
      [' '].intercalate (words ((' ' :: label.toList).filter Naming.isLetterOrBlank)) =
        label.toList := by
    decide
  unfold Naming.wording
  rw [labelled.letterWords (ascii _ (landmarkLabel_mem type)) noLetter]
  exact same _ (landmarkLabel_mem type)

namespace GearTooltip

variable {own : Option Nat} (tooltip : GearTooltip own)

theorem findMention?_power : findMention? tooltip.block itemPower = some 2 := by
  unfold findMention? block
  simp only [List.findIdx?_cons, tooltip.titlePower,
    typeLine_mentions_no_power tooltip.isGear tooltip.typed,
    tooltip.powered.mentions_power tooltip.powerDigits, Bool.false_eq_true, if_false, if_true,
    Option.map_some]

theorem power?_block :
    power? tooltip.block = some ((min (natOfDigits tooltip.power) greatestInt32 : Nat) : Int) := by
  unfold power?
  rw [tooltip.findMention?_power]
  change (firstNumber? tooltip.powerLine.toList).bind _ = _
  rw [tooltip.powered.firstNumber tooltip.powerDigits tooltip.powerNonempty, Option.bind_some,
    toInt32_decimalValue]
  rfl

theorem start?_block : start? tooltip.block tooltip.type = some (4 + tooltip.details.length) := by
  obtain ⟨number, noLetter, labelled⟩ := tooltip.landmarked
  have place : tooltip.block.findIdx? (fun line =>
      Naming.wording line.toList = (landmarkLabel tooltip.type).toList) = some 3 := by
    unfold block
    simp only [List.findIdx?_cons, tooltip.titleLandmark,
      typeLine_is_no_landmark tooltip.isGear tooltip.typed,
      wording_power tooltip.powered tooltip.powerDigits, landmarkLabel_ne_power,
      wording_landmark labelled noLetter, decide_false, decide_true, Bool.false_eq_true, if_false,
      if_true, Option.map_some]
  unfold start? startAfterLandmark?
  rw [landmark?_of_isGear _ tooltip.isGear, Option.bind_eq_bind, Option.bind_some]
  dsimp only
  have offset : 3 + (tooltip.details.length + 1) = 4 + tooltip.details.length := by omega
  rw [place, Option.bind_eq_bind, Option.bind_some, Option.pure_def, Option.some_or,
    ← tooltip.detailed, offset]

end GearTooltip

/-! Affixes and aspect. -/

theorem beginsWithMarker_iff (rarity : Rarity) (line : String) :
    ((threeAffixMarkers rarity).any fun marker =>
      marker.toList.isPrefixOf (lower (trim line.toList))) = true ↔
      MarksThreeAffixes rarity line := by
  simp only [List.any_eq_true, List.isPrefixOf_iff_prefix, MarksThreeAffixes]

theorem affixCountAt_append {before lines : List String} {rarity : Rarity} {line : String}
    (fourth : lines[3]? = some line) :
    Layout.affixCountAt (before ++ lines) rarity before.length =
      if MarksThreeAffixes rarity line then 3 else 4 := by
  have place : (before ++ lines)[before.length + Layout.fullAffixCount - 1]? = some line := by
    change (before ++ lines)[before.length + 3]? = some line
    rw [List.getElem?_append_right (Nat.le_add_right _ _), Nat.add_sub_cancel_left, fourth]
  unfold Layout.affixCountAt
  rw [place]
  simp only [beginsWithMarker_iff]
  rfl

namespace RollLines

variable {rarity : Rarity} {affixes lines : List String} {aspect : Option String}

theorem four_le (rolled : RollLines rarity affixes aspect lines) : 4 ≤ lines.length := by
  cases rolled <;> simp

theorem affixCountAt (rolled : RollLines rarity affixes aspect lines)
    (before tail : List String) :
    Layout.affixCountAt (before ++ (lines ++ tail)) rarity before.length = affixes.length := by
  cases rolled with
  | rare free | withAspect _ free =>
    rw [affixCountAt_append rfl, if_neg free]
    rfl
  | rareOfThree marks | imprinted marks =>
    rw [affixCountAt_append rfl, if_pos marks]
    rfl

theorem take_affixes (rolled : RollLines rarity affixes aspect lines) (tail : List String) :
    (lines ++ tail).take affixes.length = affixes := by
  cases rolled <;> rfl

/-- The line after the affixes is the aspect of the rarities that have one. -/
theorem aspectAt (rolled : RollLines rarity affixes aspect lines) (before tail : List String) :
    (if rarity.hasAspect && before.length + affixes.length < (before ++ (lines ++ tail)).length then
      some (before.length + affixes.length) else none).bind
      ((before ++ (lines ++ tail))[·]?) = aspect := by
  cases rolled with
  | rare | rareOfThree => rfl
  | withAspect hasAspect =>
    rw [if_pos (by simp [hasAspect])]
    simp
  | imprinted =>
    rw [if_pos (by simp [Rarity.hasAspect])]
    simp

end RollLines

/-! The layout of a whole tooltip. -/

namespace GearTooltip

variable {own : Option Nat} (tooltip : GearTooltip own)

/-- The lines before the first inherent line. -/
def opening : List String :=
  tooltip.title :: tooltip.typeLine :: tooltip.powerLine :: tooltip.landmark :: tooltip.details

/-- The lines before the first affix. -/
def beforeAffixes : List String := tooltip.opening ++ tooltip.inherents

theorem block_eq_opening :
    tooltip.block = tooltip.opening ++ (tooltip.inherents ++ (tooltip.rolls ++ tooltip.tail)) :=
  rfl

theorem block_eq_beforeAffixes :
    tooltip.block = tooltip.beforeAffixes ++ (tooltip.rolls ++ tooltip.tail) := by
  rw [block_eq_opening, beforeAffixes, List.append_assoc]

theorem opening_length : tooltip.opening.length = 4 + tooltip.details.length := by
  simp only [opening, List.length_cons]
  omega

theorem beforeAffixes_length :
    tooltip.beforeAffixes.length =
      4 + tooltip.details.length + inherentCount tooltip.type tooltip.rarity own := by
  rw [beforeAffixes, List.length_append, opening_length, tooltip.inherited]

/-- Each group of lines is found where it stands. -/
theorem exists_layout (addressable : tooltip.block.length < Layout.positionLimit) :
    ∃ layout, Layout.locate tooltip.block tooltip.type tooltip.rarity own = .ok layout ∧
      layout.inherentLines tooltip.block = tooltip.inherents ∧
      layout.affixLines tooltip.block = tooltip.affixes ∧
      layout.aspectLine.bind (tooltip.block[·]?) = tooltip.aspect := by
  have fits : ¬ Layout.positionLimit ≤ tooltip.beforeAffixes.length + Layout.fullAffixCount := by
    have four := tooltip.rolled.four_le
    rw [block_eq_beforeAffixes, List.length_append, List.length_append] at addressable
    unfold Layout.fullAffixCount
    omega
  have located : Layout.locate tooltip.block tooltip.type tooltip.rarity own = .ok {
      start := tooltip.opening.length
      inherentCount := tooltip.inherents.length
      affixCount := tooltip.affixes.length
      aspectLine :=
        if tooltip.rarity.hasAspect &&
            tooltip.beforeAffixes.length + tooltip.affixes.length < tooltip.block.length then
          some (tooltip.beforeAffixes.length + tooltip.affixes.length)
        else none } := by
    have count := tooltip.rolled.affixCountAt tooltip.beforeAffixes tooltip.tail
    rw [← block_eq_beforeAffixes] at count
    unfold Layout.locate
    rw [tooltip.start?_block]
    dsimp only
    rw [← beforeAffixes_length, if_neg fits, count, tooltip.inherited, opening_length]
  refine ⟨_, located, ?_, ?_, ?_⟩
  · unfold Layout.inherentLines
    rw [block_eq_opening, List.drop_left, List.take_left]
  · have place : tooltip.opening.length + tooltip.inherents.length =
        tooltip.beforeAffixes.length := List.length_append.symm
    unfold Layout.affixLines
    rw [place, block_eq_beforeAffixes, List.drop_left, tooltip.rolled.take_affixes]
  · rw [block_eq_beforeAffixes]
    exact tooltip.rolled.aspectAt tooltip.beforeAffixes tooltip.tail

end GearTooltip

end LootSieve.Tooltip
