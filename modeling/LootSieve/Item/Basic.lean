import LootSieve.Item.ItemType
import LootSieve.Item.Rarity

/-! Items as read from tooltips. An item without a type could not be placed, and no filter ever
accepts it. -/

namespace LootSieve

/-- The number shown on a line with the range it was rolled from, as far as they are shown. -/
structure Roll where
  value : Option Float
  low : Option Float
  high : Option Float

namespace Roll

def none : Roll := ⟨Option.none, Option.none, Option.none⟩

def bare (value : Float) : Roll := ⟨some value, Option.none, Option.none⟩

def ranged (value low high : Float) : Roll := ⟨some value, some low, some high⟩

end Roll

/-- How an affix came to its line. A greater affix is rolled above its range, which is then not
shown. -/
inductive AffixKind where
  | normal
  | greater
  | inherent
  | rerolled
  | tempered
  deriving DecidableEq

namespace AffixKind

def all : List AffixKind := [normal, greater, inherent, rerolled, tempered]

def name : AffixKind → String
  | normal => "normal"
  | greater => "greater"
  | inherent => "inherent"
  | rerolled => "rerolled"
  | tempered => "tempered"

end AffixKind

structure Affix where
  name : String
  text : String
  roll : Roll
  kind : AffixKind

def Affix.isGreater (affix : Affix) : Bool := affix.kind = .greater

def Affix.isTempered (affix : Affix) : Bool := affix.kind = .tempered

structure Aspect where
  name : String
  text : String
  roll : Roll

structure Item where
  rarity : Rarity
  type : Option ItemType
  power : Option Int
  name : String
  affixes : List Affix
  inherents : List Affix
  aspect : Option Aspect
  sanctified : Bool
  chaos : Bool
  inShop : Bool
  codexUpgrade : Bool
  cosmeticUpgrade : Bool

namespace Item

def plain (rarity : Rarity) (type : Option ItemType) : Item where
  rarity := rarity
  type := type
  power := none
  name := ""
  affixes := []
  inherents := []
  aspect := none
  sanctified := false
  chaos := false
  inShop := false
  codexUpgrade := false
  cosmeticUpgrade := false

/-- Greater affixes among the random affixes. -/
def greaterCount (item : Item) : Nat := item.affixes.countP Affix.isGreater

def aspectName? (item : Item) : Option String := item.aspect.map (·.name)

end Item

end LootSieve
