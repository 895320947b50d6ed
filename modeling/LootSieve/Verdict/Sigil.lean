import LootSieve.Verdict.Basic

/-! The rule for sigils. A profile without entries keeps every sigil; one with a whitelist keeps the
sigils on it, one with a blacklist those that are not on it, and about a sigil on both lists its
priority decides. -/

namespace LootSieve

/-- An entry lists a sigil that bears its name as a dungeon or an affix and, where it has
conditions, one of these among its affixes. -/
def SigilEntry.lists (entry : SigilEntry) (item : Item) : Bool :=
  let affixes := (item.affixes ++ item.inherents).map (·.name)
  (entry.name = item.name || affixes.contains entry.name) &&
    (entry.conditions.isEmpty || affixes.any entry.conditions.contains)

namespace SigilFilter

def keeps (filter : SigilFilter) (item : Item) : Bool :=
  let black := filter.blacklist.any (·.lists item)
  let white := filter.whitelist.any (·.lists item)
  match filter.blacklist.isEmpty, filter.whitelist.isEmpty with
  | true, true => true
  | true, false => white
  | false, true => !black
  | false, false => if black && white then filter.priority = .whitelist else white && !black

end SigilFilter

namespace Verdict

def sigilMatch? (item : Item) (profile : Profile) : Option Match :=
  if profile.sigils.any (·.keeps item) then some (.named (profile.name ++ ".Sigils")) else none

def ofSigil (item : Item) (profiles : ProfileSet) : Verdict :=
  if profiles.hasSigilFilters then ofMatches (profiles.filterMap (sigilMatch? item))
  else ofMatches [.named "default"]

end Verdict

end LootSieve
