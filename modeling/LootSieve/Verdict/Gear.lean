import LootSieve.Verdict.Basic
import LootSieve.Verdict.Pools

/-! The rule for gear that is neither unique nor mythic: an item filter of some profile accepts it.
Tempered affixes do not count. Without any item filter all such gear is kept. -/

namespace LootSieve

/-- No type at all stands for any, but an item without a type has none of them. -/
def admitsType (types : List ItemType) (type : Option ItemType) : Bool :=
  type.any fun type => types.isEmpty || types.contains type

def admitsPower (minPower : Int) (power : Option Int) : Bool := power.any (minPower ≤ ·)

namespace ItemFilter

def matched? (filter : ItemFilter) (item : Item) : Option (List Affix) :=
  if admitsType filter.types item.type && admitsPower filter.minPower item.power &&
      filter.minGreaterCount ≤ item.greaterCount then do
    let affixes := item.affixes.filter (!·.isTempered)
    let found ← Pool.allMatched? filter.affixPools affixes filter.minGreaterCount
    let foundInherents ← Pool.allMatched? filter.inherentPools item.inherents filter.minGreaterCount
    return found ++ foundInherents
  else none

def match? (profile : String) (item : Item) (filter : ItemFilter) : Option Match :=
  (filter.matched? item).map fun affixes => ⟨profile ++ "." ++ filter.name, affixes, false⟩

end ItemFilter

namespace Verdict

def gearMatches (item : Item) (profiles : ProfileSet) : List Match :=
  profiles.flatMap fun profile =>
    profile.affixFilters.filterMap (ItemFilter.match? profile.name item)

def ofGear (item : Item) (profiles : ProfileSet) : Verdict :=
  if profiles.hasAffixFilters then ofMatches (gearMatches item profiles) else kept

end Verdict

end LootSieve
