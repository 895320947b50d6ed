import LootSieve.Feed.Detector
import LootSieve.Feed.Source

/-! What a session delivers: the blocks that a detector finds in the accepted fragments, and whether
the source crashed. Blocks completed before a crash are delivered. -/

namespace LootSieve.Feed

structure Config where
  /-- The number of fragments that may wait for the detector. -/
  queueCapacity : Nat
  /-- The number of failures in a row that end a session. -/
  maxReadErrors : Nat

namespace Config

def standard : Config := ⟨100, 16⟩

/-- At least one fragment may wait. -/
def withQueueCapacity (config : Config) (capacity : Nat) : Config :=
  { config with queueCapacity := max capacity 1 }

end Config

inductive FeedError where
  | sourceCrashed
  deriving DecidableEq

def FeedError.message : FeedError → String
  | sourceCrashed => "fragment-reader thread panicked"

structure Delivery where
  blocks : List (List String)
  ending : Except FeedError Unit

def deliver (config : Config) (script : List Reading) : Delivery :=
  let session := Session.ofScript config.maxReadErrors script
  { blocks := Detector.new.blocks session.accepted
    ending := if session.crashed then .error .sourceCrashed else .ok () }

end LootSieve.Feed
