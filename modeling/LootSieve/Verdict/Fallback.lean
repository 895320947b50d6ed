import LootSieve.Policy
import LootSieve.Verdict.Basic

/-! What may save an item that no filter accepts: the aspect of a legendary and an unlocked look. -/

namespace LootSieve.Verdict

def upgradeMatch? (aspect : Aspect) (profile : Profile) : Option Match :=
  if profile.aspectUpgrades.contains aspect.name then
    some (.forAspect (profile.name ++ ".AspectUpgrades"))
  else none

/-- The profiles that want the improvement an item brings. -/
def upgradeMatches (item : Item) (profiles : ProfileSet) : List Match :=
  match item.aspect with
  | some aspect => if item.codexUpgrade then profiles.filterMap (upgradeMatch? aspect) else []
  | none => []

def policyKeepsAspect (item : Item) (policy : Policy) : Bool :=
  match policy.aspects with
  | .none => false
  | .upgrade => item.codexUpgrade
  | .all => true

def ofAspectUpgrade (item : Item) (profiles : ProfileSet) (policy : Policy) : Verdict :=
  let accepted := upgradeMatches item profiles
  if !accepted.isEmpty then ofMatches accepted
  else if policyKeepsAspect item policy then ofMatches [.forAspect "AspectUpgrades"]
  else dropped

def ofCosmetic (item : Item) (policy : Policy) : Verdict :=
  if policy.cosmetics = .ignore && item.cosmeticUpgrade then ofMatches [.named "Cosmetics"]
  else dropped

end LootSieve.Verdict
