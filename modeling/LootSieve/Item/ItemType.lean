import LootSieve.Item.NameError
import LootSieve.Text.Blank
import LootSieve.Text.Lowercase

/-! Item types. Each has a tag that identifies it and a wording that tooltips use on the type
line. -/

namespace LootSieve

inductive ItemType where
  | axe
  | axe2H
  | bow
  | crossbow2H
  | dagger
  | focus
  | glaive
  | mace
  | mace2H
  | polearm
  | quarterstaff
  | scythe
  | scythe2H
  | staff
  | sword
  | sword2H
  | tome
  | wand
  | boots
  | chestArmor
  | gloves
  | helm
  | legs
  | amulet
  | ring
  | shield
  | compass
  | sigil
  | escalationSigil
  | tribute
  | cache
  | consumable
  | cosmetic
  | elixir
  | gem
  | incense
  | lairBossKey
  | material
  | rune
  | whisperingWood
  deriving DecidableEq

namespace ItemType

def all : List ItemType :=
  [axe, axe2H, bow, crossbow2H, dagger, focus, glaive, mace, mace2H, polearm, quarterstaff,
   scythe, scythe2H, staff, sword, sword2H, tome, wand, boots, chestArmor, gloves, helm, legs,
   amulet, ring, shield, compass, sigil, escalationSigil, tribute, cache, consumable, cosmetic,
   elixir, gem, incense, lairBossKey, material, rune, whisperingWood]

def tag : ItemType → String
  | axe => "Axe"
  | axe2H => "Axe2H"
  | bow => "Bow"
  | crossbow2H => "Crossbow2H"
  | dagger => "Dagger"
  | focus => "Focus"
  | glaive => "Glaive"
  | mace => "Mace"
  | mace2H => "Mace2H"
  | polearm => "Polearm"
  | quarterstaff => "Quarterstaff"
  | scythe => "Scythe"
  | scythe2H => "Scythe2H"
  | staff => "Staff"
  | sword => "Sword"
  | sword2H => "Sword2H"
  | tome => "Tome"
  | wand => "Wand"
  | boots => "Boots"
  | chestArmor => "ChestArmor"
  | gloves => "Gloves"
  | helm => "Helm"
  | legs => "Legs"
  | amulet => "Amulet"
  | ring => "Ring"
  | shield => "Shield"
  | compass => "Compass"
  | sigil => "Sigil"
  | escalationSigil => "EscalationSigil"
  | tribute => "Tribute"
  | cache => "Cache"
  | consumable => "Consumable"
  | cosmetic => "Cosmetic"
  | elixir => "Elixir"
  | gem => "Gem"
  | incense => "Incense"
  | lairBossKey => "LairBossKey"
  | material => "Material"
  | rune => "Rune"
  | whisperingWood => "WhisperingWood"

def wording : ItemType → String
  | axe => "axe"
  | axe2H => "two-handed axe"
  | bow => "bow"
  | crossbow2H => "crossbow"
  | dagger => "dagger"
  | focus => "focus"
  | glaive => "glaive"
  | mace => "mace"
  | mace2H => "two-handed mace"
  | polearm => "polearm"
  | quarterstaff => "quarterstaff"
  | scythe => "scythe"
  | scythe2H => "two-handed scythe"
  | staff => "staff"
  | sword => "sword"
  | sword2H => "two-handed sword"
  | tome => "tome"
  | wand => "wand"
  | boots => "boots"
  | chestArmor => "chest armor"
  | gloves => "gloves"
  | helm => "helm"
  | legs => "pants"
  | amulet => "amulet"
  | ring => "ring"
  | shield => "shield"
  | compass => "compass"
  | sigil => "nightmare sigil"
  | escalationSigil => "escalation sigil"
  | tribute => "tribute"
  | cache => "cache"
  | consumable => "consumable"
  | cosmetic => "cosmetic"
  | elixir => "elixir"
  | gem => "gem"
  | incense => "incense"
  | lairBossKey => "boss key"
  | material => "material"
  | rune => "rune"
  | whisperingWood => "whispering wood"

theorem mem_all (type : ItemType) : type ∈ all := by
  cases type <;> decide

def isWeapon : ItemType → Bool
  | axe | axe2H | bow | crossbow2H | dagger | focus | glaive | mace | mace2H | polearm
  | quarterstaff | scythe | scythe2H | staff | sword | sword2H | tome | wand => true
  | _ => false

def isArmor : ItemType → Bool
  | boots | chestArmor | gloves | helm | legs => true
  | _ => false

def isJewelry : ItemType → Bool
  | amulet | ring => true
  | _ => false

/-- Equipment, the only items whose affixes are decoded. -/
def isGear (type : ItemType) : Bool :=
  type.isWeapon || type.isArmor || type.isJewelry || type == shield

def isSigil : ItemType → Bool
  | sigil | escalationSigil => true
  | _ => false

/-- The gear type with exactly this wording, in any letter case and with blanks around it. -/
def ofGearWording? (wording : List Char) : Option ItemType :=
  let wanted := Text.lower (Text.trim wording)
  (all.filter isGear).find? (·.wording.toList = wanted)

/-- Letters and digits of a name in lower case. -/
def squash (name : List Char) : List Char :=
  (name.filter Char.isAlphanum).map Char.toLower

def ofName? (name : List Char) : Option ItemType :=
  let wanted := squash name
  all.find? fun type => squash type.tag.toList = wanted || squash type.wording.toList = wanted

/-- Reads a tag or a wording, with letter case and separators left open. -/
def ofName (name : String) : Except NameError ItemType :=
  match ofName? name.toList with
  | some type => .ok type
  | none => .error (.itemType name)

end ItemType

end LootSieve
