import LootSieve.Feed.Delivery
import LootSieve.Profile.Validation
import LootSieve.Tooltip.Reading
import LootSieve.Verdict.Decision

/-! The engine reads blocks and decides about their items. Its profiles can be replaced at any time;
a snapshot taken before keeps its own. A block that cannot be read is passed over. -/

namespace LootSieve

structure Outcome where
  item : Item
  verdict : Verdict

structure Engine where
  lexicon : Lexicon
  policy : Policy
  profiles : ProfileSet

/-- The counts of a session: blocks delivered, blocks that could not be read, and items kept. -/
structure Tally where
  blocks : Nat
  failed : Nat
  kept : Nat
  deriving DecidableEq

namespace Engine

def read (engine : Engine) (block : List String) : Except Tooltip.ReadError Item :=
  Tooltip.read engine.lexicon block

def judge (engine : Engine) (item : Item) : Verdict :=
  Verdict.decide item engine.profiles engine.policy

/-- Reads a block and decides about its item. -/
def process (engine : Engine) (block : List String) : Option Outcome :=
  match engine.read block with
  | .ok item => some ⟨item, engine.judge item⟩
  | .error _ => none

/-- Processes blocks against one snapshot of the profiles, in their order. -/
def processAll (engine : Engine) (blocks : List (List String)) : List (Option Outcome) :=
  blocks.map engine.process

/-- Replaces the profiles and hands back the previous ones. -/
def replaceProfiles (engine : Engine) (profiles : ProfileSet) : ProfileSet × Engine :=
  (engine.profiles, { engine with profiles })

def outcomes (engine : Engine) (blocks : List (List String)) : List Outcome :=
  blocks.filterMap engine.process

def tally (engine : Engine) (blocks : List (List String)) : Tally where
  blocks := blocks.length
  failed := blocks.countP fun block => (engine.process block).isNone
  kept := (engine.outcomes blocks).countP (·.verdict.keep)

/-- Processes all blocks of a session. Outcomes are handed on even if the source crashes, but only
an orderly end gives a tally. -/
def run (engine : Engine) (config : Feed.Config) (script : List Feed.Reading) :
    List Outcome × Except Feed.FeedError Tally :=
  let delivery := Feed.deliver config script
  (engine.outcomes delivery.blocks, delivery.ending.map fun _ => engine.tally delivery.blocks)

end Engine

end LootSieve
