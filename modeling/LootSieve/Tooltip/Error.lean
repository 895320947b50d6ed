import LootSieve.Item.Basic

/-! Why a block cannot be read as an item. A failure concerns one block only. -/

namespace LootSieve.Tooltip

inductive ReadError where
  /-- A line holds digits, but its numbers stand in no known arrangement. -/
  | unknownFormat (line cleaned : String)
  | unknownUnique (name : String)
  | unknownAspect (name : String)
  | emptyBlock
  | missingLandmark (type : ItemType)
  /-- The lines of the item would lie beyond what a position of 64 bits can address. -/
  | positionOverflow
  deriving DecidableEq

namespace ReadError

/-- The failure tells of outdated ids rather than of an unfamiliar layout. -/
def isStaleData : ReadError → Bool
  | unknownUnique _ | unknownAspect _ => true
  | _ => false

def escaped : Char → List Char
  | '"' => ['\\', '"']
  | '\\' => ['\\', '\\']
  | '\n' => ['\\', 'n']
  | '\r' => ['\\', 'r']
  | '\t' => ['\\', 't']
  | char => [char]

def quoted (text : String) : String :=
  "\"" ++ String.ofList (text.toList.flatMap escaped) ++ "\""

def message : ReadError → String
  | unknownFormat line cleaned =>
    "Unknown affix format: " ++ quoted line ++ " (cleaned: " ++ quoted cleaned ++ ")"
  | unknownUnique name =>
    "Unknown unique item: " ++ name ++ " (game data may be stale or mistranslated)"
  | unknownAspect name =>
    "No known legendary aspect in item name: " ++ name ++ " (game data may be stale)"
  | emptyBlock => "Tooltip block is too short to classify"
  | missingLandmark type => "No layout landmark found for " ++ type.wording
  | positionOverflow => "Tooltip layout lies beyond the addressable lines"

end ReadError

end LootSieve.Tooltip
