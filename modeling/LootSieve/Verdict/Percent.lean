/-! The position of a roll within its range. On a scale that falls from its first bound to its
second, the smaller roll is the better one. A small slack admits rolls that are exact in decimal
but not in binary. -/

namespace LootSieve

/-- Numbers in which positions are computed. -/
class RollNumber (N : Type) extends Add N, Sub N, Div N, LE N, LT N where
  decideLE : DecidableLE N
  decideLT : DecidableLT N
  ofPercent : Nat → N
  slack : N

namespace RollNumber

instance instDecidableLE {N : Type} [RollNumber N] : DecidableLE N := decideLE

instance instDecidableLT {N : Type} [RollNumber N] : DecidableLT N := decideLT

instance instFloat : RollNumber Float where
  decideLE := inferInstance
  decideLT := inferInstance
  ofPercent percent := Float.ofNat percent / 100.0
  slack := 1e-9

end RollNumber

/-- A roll is at least `percent` of the way from its first bound to its second. A range without
extent admits any roll. -/
def reachesPercent {N : Type} [RollNumber N] (percent : Nat) (value low high : N) : Bool :=
  if low < high then
    RollNumber.ofPercent percent ≤ (value - low) / (high - low) + RollNumber.slack
  else if high < low then
    (value - high) / (low - high) ≤ RollNumber.ofPercent (100 - percent) + RollNumber.slack
  else true

/-- The check of a roll, which passes where it is not shown with both bounds or nothing is asked. -/
def passesPercent {N : Type} [RollNumber N] (percent : Nat) : Option N → Option N → Option N → Bool
  | some value, some low, some high => percent = 0 || reachesPercent percent value low high
  | _, _, _ => true

end LootSieve
