import LootSieve.Verdict.Basic

/-! The rule for tributes. Mythic tributes are always kept, and so is every tribute where no profile
has a filter for them. -/

namespace LootSieve

/-- The name of a filter may be the beginning of a longer one. -/
def TributeFilter.admits (filter : TributeFilter) (item : Item) : Bool :=
  filter.name.all (fun name => name.toList.isPrefixOf item.name.toList) &&
    (filter.rarities.isEmpty || filter.rarities.contains item.rarity)

namespace Verdict

def tributeMatch? (item : Item) (profile : Profile) : Option Match :=
  if profile.tributes.any (·.admits item) then some (.named (profile.name ++ ".Tributes"))
  else none

def ofTribute (item : Item) (profiles : ProfileSet) : Verdict :=
  if item.rarity = .mythic || !profiles.hasTributeFilters then ofMatches [.named "default"]
  else ofMatches (profiles.filterMap (tributeMatch? item))

end Verdict

end LootSieve
