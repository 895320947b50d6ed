import LootSieve.Item.Basic
import LootSieve.Text.Numeral

/-! Profiles: the filters that a user has written, in the form that the rules read. -/

namespace LootSieve

inductive Comparison where
  | larger
  | smaller
  deriving DecidableEq

namespace Comparison

def all : List Comparison := [larger, smaller]

def name : Comparison → String
  | larger => "larger"
  | smaller => "smaller"

/-- A value is at least, or at most, what is asked for. -/
def accepts (comparison : Comparison) (value target : Float) : Bool :=
  match comparison with
  | larger => target ≤ value
  | smaller => value ≤ target

end Comparison

/-- An affix that a pool or a unique filter asks for. -/
structure Requirement where
  name : String
  value : Option Float
  comparison : Comparison
  /-- The affix is wanted as a greater one. -/
  greater : Bool

/-- Requirements of which a number between the two counts must be met. -/
structure Pool where
  requirements : List Requirement
  minCount : Nat
  maxCount : Nat

namespace Pool

/-- A count that stands for no limit. -/
def unlimited : Nat := Text.bitLimit 64 - 1

/-- All requirements must be met. -/
def ofAll (requirements : List Requirement) : Pool :=
  ⟨requirements, requirements.length, requirements.length⟩

end Pool

structure ItemFilter where
  name : String
  /-- No type at all stands for any. -/
  types : List ItemType
  minPower : Int
  minGreaterCount : Nat
  affixPools : List Pool
  inherentPools : List Pool

structure AspectRequirement where
  name : String
  value : Option Float
  comparison : Comparison

structure UniqueFilter where
  aspect : Option AspectRequirement
  affixes : List Requirement
  types : List ItemType
  profileAlias : Option String
  minGreaterCount : Nat
  /-- The least position of the roll within its range, in percent. -/
  minPercent : Nat
  minPower : Int
  /-- The filter concerns mythic items only. -/
  mythic : Bool

inductive SigilPriority where
  | blacklist
  | whitelist
  deriving DecidableEq

namespace SigilPriority

def all : List SigilPriority := [blacklist, whitelist]

def name : SigilPriority → String
  | blacklist => "blacklist"
  | whitelist => "whitelist"

end SigilPriority

/-- A dungeon or sigil affix, which may count only beside one of several others. -/
structure SigilEntry where
  name : String
  conditions : List String
  deriving DecidableEq

structure SigilFilter where
  blacklist : List SigilEntry
  whitelist : List SigilEntry
  /-- The list that decides about a sigil on both. -/
  priority : SigilPriority

/-- What is absent admits any tribute. -/
structure TributeFilter where
  name : Option String
  rarities : List Rarity

structure Profile where
  name : String
  affixFilters : List ItemFilter
  /-- Legendary aspects whose improvement is wanted. -/
  aspectUpgrades : List String
  sigils : Option SigilFilter
  tributes : List TributeFilter
  uniques : List UniqueFilter

/-- Profiles that are asked together, in the order in which they were loaded. -/
abbrev ProfileSet := List Profile

namespace ProfileSet

def find? (profiles : ProfileSet) (name : String) : Option Profile :=
  List.find? (·.name = name) profiles

def hasAffixFilters (profiles : ProfileSet) : Bool := profiles.any (!·.affixFilters.isEmpty)

def hasUniqueFilters (profiles : ProfileSet) : Bool := profiles.any (!·.uniques.isEmpty)

def hasSigilFilters (profiles : ProfileSet) : Bool := profiles.any (·.sigils.isSome)

def hasTributeFilters (profiles : ProfileSet) : Bool := profiles.any (!·.tributes.isEmpty)

end ProfileSet

end LootSieve
