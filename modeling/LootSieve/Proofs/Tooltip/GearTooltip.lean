import LootSieve.Proofs.Text.WholeNumber
import LootSieve.Proofs.Tooltip.GearHeading
import LootSieve.Tooltip.Reading

/-! The tooltips of gear from rare upwards, as the game writes them line by line. The label of each
fixed line may stand in any letter case. What the lines say of the item is fixed here, before any of
them is read. -/

namespace LootSieve.Tooltip
open Text

/-- A number, a space and a label. -/
def Labelled (number : List Char) (label line : String) : Prop :=
  ∃ wording, line.toList = number ++ ' ' :: wording ∧ Spells label.toList wording

/-- Weapons show their damage per hit and their speed below the landmark. -/
def detailCount (type : ItemType) : Nat := if type.isWeapon then 2 else 0

/-- The line begins as no fourth affix of the rarity does. -/
def MarksThreeAffixes (rarity : Rarity) (line : String) : Prop :=
  ∃ marker ∈ threeAffixMarkers rarity, marker.toList <+: lower (trim line.toList)

instance (rarity : Rarity) (line : String) : Decidable (MarksThreeAffixes rarity line) :=
  inferInstanceAs (Decidable (∃ marker ∈ threeAffixMarkers rarity, _))

/-- The lines from the first affix on: the affixes, then the aspect of the rarities that have one. A
rare that has three affixes goes on with a line that tells of it. A legendary made of such a rare by
imprinting has the line of the imprint for its aspect. -/
inductive RollLines :
    Rarity → (affixes : List String) → (aspect : Option String) → (lines : List String) → Prop
  | rare {first second third fourth : String} (free : ¬ MarksThreeAffixes .rare fourth) :
    RollLines .rare [first, second, third, fourth] none [first, second, third, fourth]
  | rareOfThree {first second third marker : String} (marks : MarksThreeAffixes .rare marker) :
    RollLines .rare [first, second, third] none [first, second, third, marker]
  | withAspect {rarity : Rarity} {first second third fourth aspect : String}
    (hasAspect : rarity.hasAspect = true) (free : ¬ MarksThreeAffixes rarity fourth) :
    RollLines rarity [first, second, third, fourth] (some aspect)
      [first, second, third, fourth, aspect]
  | imprinted {first second third aspect : String}
    (marks : MarksThreeAffixes .legendary aspect) :
    RollLines .legendary [first, second, third] (some aspect) [first, second, third, aspect]

/-- A tooltip of gear. `own` is the number of inherent lines that a unique may have for itself. -/
structure GearTooltip (own : Option Nat) where
  rarity : Rarity
  type : ItemType
  power : List Char
  title : String
  typeLine : String
  powerLine : String
  landmark : String
  details : List String
  inherents : List String
  affixes : List String
  aspect : Option String
  rolls : List String
  tail : List String
  isGear : type.isGear = true
  titleFree : TitleIsFree title
  titlePower : mentions itemPower title = false
  titleLandmark : Naming.wording title.toList ≠ (landmarkLabel type).toList
  typed : Spells (gearPhrase rarity type) typeLine.toList
  powerNonempty : power ≠ []
  powerDigits : ∀ char ∈ power, char.isDigit = true
  powered : Labelled power "item power" powerLine
  landmarked : ∃ number, (∀ char ∈ number, isAlphabetic char = false) ∧
    Labelled number (landmarkLabel type) landmark
  detailed : details.length = detailCount type
  inherited : inherents.length = inherentCount type rarity own
  rolled : RollLines rarity affixes aspect rolls

namespace GearTooltip

variable {own : Option Nat}

def block (tooltip : GearTooltip own) : List String :=
  tooltip.title :: tooltip.typeLine :: tooltip.powerLine :: tooltip.landmark ::
    (tooltip.details ++ (tooltip.inherents ++ (tooltip.rolls ++ tooltip.tail)))

/-- The item that the tooltip shows, given what its title and its inherent, affix and aspect lines
stand for. Item power is held within 32 bits. -/
def item (tooltip : GearTooltip own) (identity : Identity) (inherents affixes : List Affix)
    (aspect : Option Aspect) : Item where
  rarity := tooltip.rarity
  type := some tooltip.type
  power := some (min (natOfDigits tooltip.power) greatestInt32 : Nat)
  name := identity.name
  affixes := affixes
  inherents := inherents.map fun affix => { affix with kind := .inherent }
  aspect := aspect
  sanctified := false
  chaos := false
  inShop := anyMentions tooltip.block shopMarkers
  codexUpgrade := anyMentions tooltip.block codexMarkers
  cosmeticUpgrade := anyMentions tooltip.block cosmeticMarkers

end GearTooltip

/-- What the lexicon knows a title by. -/
inductive Named (lexicon : Lexicon) (title : String) : Rarity → Identity → Prop
  | rare : Named lexicon title .rare ⟨titleName title, "", none⟩
  | legendary {id : String} (known : lexicon.resolveAspect? (titleName title) = some id) :
    Named lexicon title .legendary ⟨titleName title, id, none⟩
  | unique {id : String} (known : lexicon.resolveUnique? (titleName title) = some id) :
    Named lexicon title .unique ⟨id, id, lexicon.inherentCount? id⟩
  | mythic {id : String} (known : lexicon.resolveUnique? (titleName title) = some id) :
    Named lexicon title .mythic ⟨id, id, lexicon.inherentCount? id⟩

/-- Each line decodes on its own. -/
def Decode (lexicon : Lexicon) : List String → List Affix → Prop :=
  List.Forall₂ fun line affix => decodeAffix lexicon line = .ok affix

end LootSieve.Tooltip
