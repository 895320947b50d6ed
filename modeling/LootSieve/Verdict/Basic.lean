import LootSieve.Profile.Basic

/-! The answer about an item: whether to keep it, and which filters asked for it. -/

namespace LootSieve

/-- A filter that accepted an item, by the name of its profile and its own. -/
structure Match where
  name : String
  affixes : List Affix
  aspectMatched : Bool

namespace Match

def named (name : String) : Match := ⟨name, [], false⟩

def forAspect (name : String) : Match := ⟨name, [], true⟩

end Match

structure Verdict where
  keep : Bool
  accepted : List Match
  /-- Some unique filter names the item's aspect. -/
  aspectNamed : Bool
  /-- Every unique filter asks for an aspect. -/
  onlyAspects : Bool

namespace Verdict

def dropped : Verdict := ⟨false, [], false, false⟩

def kept : Verdict := ⟨true, [], false, false⟩

/-- Keeps an item that any filter accepted. -/
def ofMatches (accepted : List Match) : Verdict := ⟨!accepted.isEmpty, accepted, false, false⟩

def matchedNames (verdict : Verdict) : List String := verdict.accepted.map (·.name)

end Verdict

end LootSieve
