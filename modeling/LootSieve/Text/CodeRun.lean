/-! Arithmetic runs of code points. A character property is a table of runs in increasing order;
a run with step two covers alphabets that alternate capital and small letters. -/

namespace LootSieve.Text

structure CodeRun where
  first : Nat
  last : Nat
  step : Nat

namespace CodeRun

def covers (run : CodeRun) (code : Nat) : Bool :=
  run.first ≤ code && code ≤ run.last && (code - run.first) % run.step == 0

theorem covers_iff (run : CodeRun) (code : Nat) : run.covers code = true ↔
    run.first ≤ code ∧ code ≤ run.last ∧ (code - run.first) % run.step = 0 := by
  simp [covers, and_assoc]

def anyCovers (table : List CodeRun) (char : Char) : Bool :=
  table.any (·.covers char.toNat)

end CodeRun

end LootSieve.Text
