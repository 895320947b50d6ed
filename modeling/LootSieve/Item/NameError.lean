/-! A name that no rarity or item type bears. -/

namespace LootSieve

inductive NameError where
  | rarity (name : String)
  | itemType (name : String)
  deriving DecidableEq

def NameError.message : NameError → String
  | .rarity name => "unknown rarity `" ++ name ++ "`"
  | .itemType name => "unknown item type `" ++ name ++ "`"

end LootSieve
