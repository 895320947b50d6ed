import LootSieve.Lexicon.Basic
import LootSieve.Tooltip.Arrangement
import LootSieve.Tooltip.Cleaning
import LootSieve.Tooltip.Error

/-! Decoding of single affix and aspect lines. -/

namespace LootSieve.Tooltip
open Text

/-- An affix line. Without any digit it is an affix in words; digits that stand in no known
arrangement are an error. -/
def decodeAffix (lexicon : Lexicon) (line : String) : Except ReadError Affix :=
  let cleaned := clean line.toList
  let name := lexicon.resolveAffix line
  match Arrangement.find? cleaned with
  | some (arrangement, roll) =>
    .ok ⟨name, line, roll, if arrangement.isGreater then .greater else .normal⟩
  | none =>
    if hasDigit cleaned then .error (.unknownFormat line (String.ofList cleaned))
    else .ok ⟨name, line, .none, .normal⟩

/-- An aspect line. Without a range in brackets it is an aspect in words. -/
def decodeAspect (line name : String) : Aspect :=
  ⟨name, line, (leftmost looseRangeAt? (clean line.toList)).getD .none⟩

/-- The aspect of a mythic item does not vary; its value is the first number of the line. -/
def decodeMythicAspect (line name : String) : Aspect :=
  ⟨name, line, ⟨firstNumber? line.toList, none, none⟩⟩

end LootSieve.Tooltip
