import LootSieve.Profile.Basic

/-! Matching requirements against affixes. A requirement looks at the first affix of its name. A
pool matches when the number of requirements met lies in its window and enough of those that want a
greater affix have met one: all of them where the filter asks for more than there are, else as many
as the filter asks for. -/

namespace LootSieve

namespace Requirement

def valueMeets (requirement : Requirement) (value : Option Float) : Bool :=
  match requirement.value with
  | none => true
  | some target => value.any (requirement.comparison.accepts · target)

/-- The affix that meets a requirement. -/
def hit? (affixes : List Affix) (requirement : Requirement) : Option Affix :=
  (affixes.find? (·.name = requirement.name)).filter (requirement.valueMeets ·.roll.value)

def hitsGreater (affixes : List Affix) (requirement : Requirement) : Bool :=
  requirement.greater && (requirement.hit? affixes).any Affix.isGreater

end Requirement

/-- Whether enough greater affixes are met. Without requirements that want one, or without a
threshold, nothing is asked. -/
def enoughGreater (requirements : List Requirement) (affixes : List Affix) (threshold : Nat) :
    Bool :=
  let wanted := requirements.countP (·.greater)
  let met := requirements.countP (·.hitsGreater affixes)
  if wanted = 0 || threshold = 0 then true
  else if wanted < threshold then met = wanted
  else threshold ≤ met

/-- The affixes met, in the order of the requirements, if their number is in the window. -/
def matchRequirements (requirements : List Requirement) (minCount maxCount : Nat)
    (affixes : List Affix) (threshold : Nat) : Option (List Affix) :=
  let hits := requirements.filterMap (·.hit? affixes)
  if minCount ≤ hits.length && hits.length ≤ maxCount &&
      enoughGreater requirements affixes threshold then
    some hits
  else none

namespace Pool

def matched? (pool : Pool) (affixes : List Affix) (threshold : Nat) : Option (List Affix) :=
  matchRequirements pool.requirements pool.minCount pool.maxCount affixes threshold

/-- The affixes of all pools together, if every pool matches. -/
def allMatched? (pools : List Pool) (affixes : List Affix) (threshold : Nat) :
    Option (List Affix) :=
  (pools.mapM fun (pool : Pool) => pool.matched? affixes threshold).map List.flatten

end Pool

end LootSieve
