import LootSieve.Feed.Fragment

/-! The detector gathers fragments until a hint closes a tooltip. The tooltip then reaches back to
the nearest line that can be its title; what lies before is dropped. A hint without such a line is
noise and is gathered like any other fragment. -/

namespace LootSieve.Feed

structure Detector where
  pending : List String

namespace Detector

def new : Detector := ⟨[]⟩

/-- Takes one fragment. Gives the block that it closes, if any, and the detector after it. -/
def take (detector : Detector) (fragment : String) : Option (List String) × Detector :=
  let line := normalize fragment
  let lines := detector.pending ++ [line]
  if isHint line then
    match lastStart? lines with
    | some place => (some (lines.drop place), new)
    | none => (none, ⟨lines⟩)
  else (none, ⟨lines⟩)

/-- The blocks that a sequence of fragments closes, in order. -/
def blocks : Detector → List String → List (List String)
  | _, [] => []
  | detector, fragment :: rest =>
    let (block, detector) := detector.take fragment
    block.toList ++ detector.blocks rest

end Detector

end LootSieve.Feed
