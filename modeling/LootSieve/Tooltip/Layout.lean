import LootSieve.Lexicon.Naming
import LootSieve.Tooltip.Error
import LootSieve.Tooltip.Line

/-! Where the inherent, affix and aspect lines of gear stand in a block. They follow a landmark line
of the item's category or, without one, the item power line and its continuations. -/

namespace LootSieve.Tooltip
open Text

def itemPower : String := "item power"

/-- Lines that may follow the item power line before the first affix. -/
def continuations : List String := ["quality", "masterwork", "armory loadout"]

/-- Wordings that, found in place of a fourth affix, tell that the item has three. -/
def threeAffixMarkers : Rarity → List String
  | .rare => ["empty socket", "requires level", "properties lost when equipped"]
  | .legendary => ["imprinted:"]
  | _ => []

/-- The wording of a landmark, and how many lines after it the first inherent or affix line stands.
Two further damage lines follow the landmark of a weapon. -/
def landmark? (type : ItemType) : Option (String × Nat) :=
  if type.isWeapon then some ("damage per second", 3)
  else if type.isArmor || type == .shield then some ("armor", 1)
  else if type.isJewelry then some ("all resist", 1)
  else none

/-- The number of inherent lines. That of a unique may be its own. -/
def inherentCount (type : ItemType) (rarity : Rarity) (own : Option Nat) : Nat :=
  let usual :=
    if type.isWeapon || type == .boots then 1
    else if type == .shield then 3
    else 0
  if rarity.isUniqueOrMythic then own.getD usual else usual

/-- The first place of a block past a run of continuation lines. -/
def pastContinuations : List String → Nat → Nat
  | [], place => place
  | line :: rest, place =>
    if continuations.any (mentions · line) then pastContinuations rest (place + 1) else place

def startAfterLandmark? (block : List String) (type : ItemType) : Option Nat := do
  let (wording, offset) ← landmark? type
  let place ← block.findIdx? fun line => Naming.wording line.toList = wording.toList
  return place + offset

def startAfterPower? (block : List String) : Option Nat := do
  let place ← findMention? block itemPower
  return pastContinuations (block.drop (place + 1)) (place + 1)

def start? (block : List String) (type : ItemType) : Option Nat :=
  (startAfterLandmark? block type).or (startAfterPower? block)

structure Layout where
  start : Nat
  inherentCount : Nat
  affixCount : Nat
  aspectLine : Option Nat

namespace Layout

def fullAffixCount : Nat := 4

/-- Positions are numbers of 64 bits. -/
def positionLimit : Nat := bitLimit 64

/-- Three where the line of the fourth affix begins with a marker, else four. -/
def affixCountAt (block : List String) (rarity : Rarity) (firstAffix : Nat) : Nat :=
  match block[firstAffix + fullAffixCount - 1]? with
  | some line =>
    let wording := lower (trim line.toList)
    if (threeAffixMarkers rarity).any fun marker => marker.toList.isPrefixOf wording then
      fullAffixCount - 1
    else fullAffixCount
  | none => fullAffixCount

def locate (block : List String) (type : ItemType) (rarity : Rarity) (own : Option Nat) :
    Except ReadError Layout :=
  match start? block type with
  | none => .error (.missingLandmark type)
  | some start =>
    let inherents := Tooltip.inherentCount type rarity own
    let firstAffix := start + inherents
    if positionLimit ≤ firstAffix + fullAffixCount then .error .positionOverflow
    else
      let affixes := affixCountAt block rarity firstAffix
      let aspect := firstAffix + affixes
      .ok {
        start := start
        inherentCount := inherents
        affixCount := affixes
        aspectLine := if rarity.hasAspect && aspect < block.length then some aspect else none }

def inherentLines (layout : Layout) (block : List String) : List String :=
  (block.drop layout.start).take layout.inherentCount

def affixLines (layout : Layout) (block : List String) : List String :=
  (block.drop (layout.start + layout.inherentCount)).take layout.affixCount

end Layout

end LootSieve.Tooltip
