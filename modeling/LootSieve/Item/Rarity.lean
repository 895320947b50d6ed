import LootSieve.Item.NameError
import LootSieve.Text.Blank
import LootSieve.Text.Lowercase

/-! Rarity tiers, from the plainest to the rarest. -/

namespace LootSieve

inductive Rarity where
  | common
  | magic
  | rare
  | legendary
  | unique
  | mythic
  deriving DecidableEq

namespace Rarity

def all : List Rarity := [common, magic, rare, legendary, unique, mythic]

def name : Rarity → String
  | common => "common"
  | magic => "magic"
  | rare => "rare"
  | legendary => "legendary"
  | unique => "unique"
  | mythic => "mythic"

def rank : Rarity → Nat
  | common => 0
  | magic => 1
  | rare => 2
  | legendary => 3
  | unique => 4
  | mythic => 5

/-- The rarity that a word names in any letter case, blanks around it aside. -/
def ofWord? (word : List Char) : Option Rarity :=
  let wanted := Text.lower (Text.trim word)
  all.find? (·.name.toList = wanted)

def ofName (name : String) : Except NameError Rarity :=
  match ofWord? name.toList with
  | some rarity => .ok rarity
  | none => .error (.rarity name)

/-- The rarity that a word of a type line stands for. A word that names none stands for common. -/
def ofToken (token : List Char) : Rarity := (ofWord? token).getD common

theorem mem_all (rarity : Rarity) : rarity ∈ all := by
  cases rarity <;> decide

/-- Legendaries, uniques and mythics carry an aspect. -/
def hasAspect : Rarity → Bool
  | legendary | unique | mythic => true
  | _ => false

def isUniqueOrMythic : Rarity → Bool
  | unique | mythic => true
  | _ => false

/-- Rarities dropped before any rule is asked. -/
def isJunk (junkRares : Bool) : Rarity → Bool
  | common | magic => true
  | rare => junkRares
  | _ => false

end Rarity

end LootSieve
