/-! Policies for items that no profile speaks about. -/

namespace LootSieve

/-- What becomes of uniques that no profile names. Mythics are kept under any policy. -/
inductive UniquePolicy where
  | favorite
  | ignore
  | junk
  deriving DecidableEq

namespace UniquePolicy

def all : List UniquePolicy := [favorite, ignore, junk]

def name : UniquePolicy → String
  | favorite => "favorite"
  | ignore => "ignore"
  | junk => "junk"

end UniquePolicy

/-- Whether a legendary is kept for its aspect: never, when it improves the collection, or
always. -/
inductive AspectPolicy where
  | none
  | upgrade
  | all
  deriving DecidableEq

namespace AspectPolicy

def values : List AspectPolicy := [none, upgrade, all]

def name : AspectPolicy → String
  | none => "none"
  | upgrade => "upgrade"
  | all => "all"

end AspectPolicy

/-- Whether an unlocked look alone saves an item. -/
inductive CosmeticPolicy where
  | junk
  | ignore
  deriving DecidableEq

namespace CosmeticPolicy

def all : List CosmeticPolicy := [junk, ignore]

def name : CosmeticPolicy → String
  | junk => "junk"
  | ignore => "ignore"

end CosmeticPolicy

structure Policy where
  uniques : UniquePolicy
  aspects : AspectPolicy
  cosmetics : CosmeticPolicy
  /-- Rares count as junk. -/
  junkRares : Bool
  /-- Escalation sigils are kept without asking the profiles. -/
  ignoreEscalationSigils : Bool
  deriving DecidableEq

namespace Policy

def standard : Policy := ⟨.favorite, .upgrade, .ignore, false, false⟩

/-- Keeps only what profiles ask for. -/
def strict : Policy := ⟨.junk, .none, .junk, true, false⟩

/-- Keeps all that may be of use later. -/
def collector : Policy := ⟨.favorite, .all, .ignore, false, true⟩

end Policy

end LootSieve
