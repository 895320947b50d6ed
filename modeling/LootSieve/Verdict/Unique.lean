import LootSieve.Policy
import LootSieve.Verdict.Gear
import LootSieve.Verdict.Percent

/-! The rule for uniques and mythics. Where no unique filter accepts the item, a mythic is kept, and
another unique is kept only if all filters ask for aspects, none for its own, and the policy does
not make it junk. -/

namespace LootSieve

/-- The aspect of a chaos item is rolled at its best, so its value always suffices. -/
def AspectRequirement.admits (requirement : AspectRequirement) (item : Item) : Bool :=
  item.aspect.any fun aspect =>
    requirement.name = aspect.name &&
      match requirement.value with
      | none => true
      | some target =>
        item.chaos || aspect.roll.value.any (requirement.comparison.accepts · target)

def admitsPercent (percent : Nat) (aspect : Option Aspect) : Bool :=
  aspect.all fun aspect => passesPercent percent aspect.roll.value aspect.roll.low aspect.roll.high

namespace UniqueFilter

def admits (filter : UniqueFilter) (item : Item) : Bool :=
  let count := filter.affixes.length
  (!filter.mythic || item.rarity = .mythic) &&
    admitsType filter.types item.type &&
    admitsPower filter.minPower item.power &&
    filter.aspect.all (·.admits item) &&
    (matchRequirements filter.affixes count count item.affixes filter.minGreaterCount).isSome &&
    filter.minGreaterCount ≤ item.greaterCount &&
    admitsPercent filter.minPercent item.aspect

/-- The filter asks for the aspect that the item has. -/
def namesAspect (filter : UniqueFilter) (item : Item) : Bool :=
  filter.aspect.any fun wanted => item.aspectName? = some wanted.name

def match? (profile : String) (item : Item) (filter : UniqueFilter) : Option Match :=
  if filter.admits item then
    some (.forAspect
      (filter.profileAlias.getD profile ++ "." ++ item.aspectName?.getD item.name))
  else none

end UniqueFilter

namespace ProfileSet

def uniqueFilters (profiles : ProfileSet) : List UniqueFilter := profiles.flatMap (·.uniques)

end ProfileSet

namespace Verdict

def uniqueMatches (item : Item) (profiles : ProfileSet) : List Match :=
  profiles.flatMap fun profile => profile.uniques.filterMap (UniqueFilter.match? profile.name item)

def ofUnique (item : Item) (profiles : ProfileSet) (policy : Policy) : Verdict :=
  let policyKeeps := policy.uniques ≠ .junk
  let isMythic := item.rarity = .mythic
  if profiles.hasUniqueFilters then
    let accepted := uniqueMatches item profiles
    let onlyAspects := profiles.uniqueFilters.all (·.aspect.isSome)
    let aspectNamed := profiles.uniqueFilters.any (·.namesAspect item)
    { keep := !accepted.isEmpty || isMythic || (onlyAspects && !aspectNamed && policyKeeps)
      accepted := accepted
      aspectNamed := aspectNamed
      onlyAspects := onlyAspects }
  else ⟨policyKeeps || isMythic, [], false, true⟩

end Verdict

end LootSieve
