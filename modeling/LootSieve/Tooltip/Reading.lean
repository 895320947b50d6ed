import LootSieve.Tooltip.Decoding
import LootSieve.Tooltip.Heading
import LootSieve.Tooltip.Layout

/-! Reading a block as an item. The heading decides what kind of item it is. Sigils have their own
arrangement of lines; gear has flags and, unless it is plain or sanctified, inherents, affixes and
an aspect. -/

namespace LootSieve.Tooltip
open Text

def shopMarkers : List String := ["to purchase"]

def codexMarkers : List String :=
  ["upgrades an aspect in the codex of power", "unlocks new aspect"]

def cosmeticMarkers : List String := ["unlocks new look on salvage"]

/-- A line that consists of the word, blanks around it aside. -/
def isSanctifiedMark (line : String) : Bool :=
  (trim line.toList).map Char.toLower = "sanctified".toList

/-- The number on the item power line without its fraction, held within 32 bits. -/
def power? (block : List String) : Option Int := do
  let place ← findMention? block itemPower
  let line ← block[place]?
  let power ← firstNumber? line.toList
  return power.toModel.toInt32.toInt

namespace Sigil

def nameLine : Nat := 2

/-- The line that opens the affixes; their names alternate with descriptions after it. -/
def affixHeader? (block : List String) : Option Nat :=
  let isHeader (line : String) : Bool :=
    "affixes".toList.isSuffixOf (Naming.wording line.toList)
  ((block.drop (nameLine + 1)).findIdx? isHeader).map (· + (nameLine + 1))

def affixPlaces (block : List String) : List Nat :=
  match affixHeader? block with
  | some header => [header + 1, header + 3]
  | none => [4, 6]

def affix (line : String) : Affix :=
  ⟨String.ofList (Naming.canonical line.toList), line, .none, .normal⟩

def dungeon? (block : List String) : Option String := do
  let line ← block[nameLine]?
  return String.ofList (Naming.ofTitle (beforePhrase " in ".toList line.toList))

def read (block : List String) (item : Item) : Item :=
  { item with
    name := (dungeon? block).getD item.name
    affixes := ((affixPlaces block).filterMap (block[·]?)).map affix }

end Sigil

/-- The name that the lexicon gives a unique, mythic or legendary item: its own id for the first
two, the id of its aspect for the last. -/
structure Identity where
  name : String
  aspectName : String
  ownInherentCount : Option Nat

def identify (lexicon : Lexicon) (item : Item) : Except ReadError Identity :=
  if item.rarity.isUniqueOrMythic then
    match lexicon.resolveUnique? item.name with
    | some id => .ok ⟨id, id, lexicon.inherentCount? id⟩
    | none => .error (.unknownUnique item.name)
  else if item.rarity = .legendary then
    match lexicon.resolveAspect? item.name with
    | some id => .ok ⟨item.name, id, none⟩
    | none => .error (.unknownAspect item.name)
  else .ok ⟨item.name, "", none⟩

def aspectOf (rarity : Rarity) (line name : String) : Aspect :=
  if rarity = .mythic then decodeMythicAspect line name else decodeAspect line name

/-- Fills in the rolled lines of gear. -/
def readRolls (lexicon : Lexicon) (block : List String) (type : ItemType) (item : Item) :
    Except ReadError Item := do
  let identity ← identify lexicon item
  let layout ← Layout.locate block type item.rarity identity.ownInherentCount
  let inherents ← (layout.inherentLines block).mapM (decodeAffix lexicon)
  let affixes ← (layout.affixLines block).mapM (decodeAffix lexicon)
  let aspectText := layout.aspectLine.bind (block[·]?)
  return { item with
    name := identity.name
    inherents := inherents.map fun affix => { affix with kind := .inherent }
    affixes := affixes
    aspect := aspectText.map fun line => aspectOf item.rarity line identity.aspectName }

/-- Gear whose lines are not decoded: sanctified, common and magic pieces. -/
def isPlainGear (item : Item) : Bool :=
  item.sanctified || item.rarity = .common || item.rarity = .magic

def withFlags (block : List String) (item : Item) : Item :=
  { item with
    codexUpgrade := anyMentions block codexMarkers
    cosmeticUpgrade := item.cosmeticUpgrade || anyMentions block cosmeticMarkers
    sanctified := block.any isSanctifiedMark }

def readGear (lexicon : Lexicon) (block : List String) (type : ItemType) (item : Item) :
    Except ReadError Item :=
  let item := withFlags block item
  if isPlainGear item then .ok item else readRolls lexicon block type item

def read (lexicon : Lexicon) (block : List String) : Except ReadError Item := do
  let (_, item) ← classify block
  let item := { item with inShop := anyMentions block shopMarkers, power := power? block }
  match item.type with
  | some type =>
    if type.isSigil then return Sigil.read block item
    else if type.isGear then readGear lexicon block type item
    else return item
  | none => return item

end LootSieve.Tooltip
