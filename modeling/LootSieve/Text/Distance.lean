/-! Edit distance: the least number of single character insertions, deletions and substitutions
between two texts, computed one row of the table of prefix distances at a time. -/

namespace LootSieve.Text

/-- Continues a row after the entry `left`; `above` is the previous row from the entry diagonally
before. -/
def continueRow (char : Char) : Nat → List Char → List Nat → List Nat
  | left, target :: targets, diagonal :: above :: row =>
    let cost := if char = target then 0 else 1
    let here := min (min (above + 1) (left + 1)) (diagonal + cost)
    here :: continueRow char here targets (above :: row)
  | _, _, _ => []

def nextRow (targets : List Char) (row : List Nat) (char : Char) : List Nat :=
  match row with
  | [] => []
  | first :: _ => (first + 1) :: continueRow char (first + 1) targets row

def editDistance (source target : List Char) : Nat :=
  (source.foldl (nextRow target) (List.range (target.length + 1))).getLastD 0

end LootSieve.Text
