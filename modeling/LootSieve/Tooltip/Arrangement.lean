import LootSieve.Item.Basic
import LootSieve.Tooltip.Line

/-! Arrangements of numbers on a cleaned line: a value with its range in brackets, a value with a
single bracketed number, or a greater value without a range. Each arrangement is looked for at the
leftmost place; where several readings start there, the order in which they are listed decides. -/

namespace LootSieve.Tooltip
open Text

def integer? (text : List Char) : Option (Float × List Char) :=
  (digits? text).map fun (whole, rest) => (decimalValue whole [], rest)

/-- A numeral with digits on both sides of its point. -/
def pointed? (text : List Char) : Option (Float × List Char) := do
  let (whole, rest) ← digits? text
  let (fraction, rest) ← digits? (← afterPhrase? ['.'] rest)
  return (decimalValue whole fraction, rest)

/-- A numeral whose point and further digits may be missing. A point without digits may also be
left to what follows. -/
def looseReadings (text : List Char) : List (Float × List Char) :=
  match digits? text with
  | none => []
  | some (whole, '.' :: rest) =>
    match rest.span Char.isDigit with
    | ([], _) => [(decimalValue whole [], rest), (decimalValue whole [], '.' :: rest)]
    | (fraction, rest) => [(decimalValue whole fraction, rest)]
  | some (whole, rest) => [(decimalValue whole [], rest)]

def loose? (text : List Char) : Option (Float × List Char) := (looseReadings text).head?

/-- The bounds of a range such as `[10 - 20]` at the start of a text. -/
def range? (bound? : List Char → Option (Float × List Char)) (text : List Char) :
    Option (Float × Float) := do
  let (low, rest) ← bound? (← afterPhrase? ['['] text)
  let (high, rest) ← bound? (← afterPhrase? " - ".toList rest)
  let _ ← afterPhrase? [']'] rest
  return (low, high)

def notDigit (char : Char) : Bool := !char.isDigit

/-- The range after the longest stretch without digits that a range can follow. -/
def rangeAfterGap? (bound? : List Char → Option (Float × List Char)) (text : List Char) :
    Option (Float × Float) :=
  (endings notDigit text).reverse.findSome? (range? bound?)

def integerRangeAt? (text : List Char) : Option Roll := do
  let (value, rest) ← integer? text
  let (low, high) ← rangeAfterGap? integer? rest
  return .ranged value low high

/-- All numbers have points here, and the nearest range on the line counts. -/
def pointedRangeAt? (text : List Char) : Option Roll := do
  let (whole, rest) ← digits? text
  (cuts Char.isDigit (← afterPhrase? ['.'] rest)).reverse.findSome? fun (fraction, rest) => do
    let (low, high) ← (endings (· ≠ '\n') rest).findSome? (range? pointed?)
    return .ranged (decimalValue whole fraction) low high

def looseRangeAt? (text : List Char) : Option Roll :=
  (looseReadings text).findSome? fun (value, rest) => do
    let (low, high) ← rangeAfterGap? loose? rest
    return .ranged value low high

def isNumeralChar (char : Char) : Bool := char.isDigit || char = '.'

def boxed? (text : List Char) : Option (List Char) := do
  let (only, rest) := (← afterPhrase? ['['] text).span isNumeralChar
  let _ ← afterPhrase? [']'] rest
  if only.isEmpty then none else return only

def singleAt? (text : List Char) : Option (List Char × List Char) :=
  (cuts isNumeralChar text).reverse.findSome? fun (value, rest) =>
    ((endings notDigit rest).reverse.findSome? boxed?).map fun only => (value, only)

/-- A value and a bracket with one number. If points make either unreadable, the line has no such
arrangement at all. -/
def single? (text : List Char) : Option Roll := do
  let (value, only) ← leftmost singleAt? text
  let only ← readDecimal? only
  return .ranged (← readDecimal? value) only only

/-- A value before an empty bracket. -/
def emptyBoxAt? (text : List Char) : Option Roll := do
  let (value, rest) ← pointed? text
  let rest ← afterPhrase? ['['] (trimStart rest)
  let _ ← afterPhrase? [']'] (trimStart rest)
  return .bare value

/-- The first number of a line without brackets. -/
def bare? (text : List Char) : Option Roll :=
  if text.contains '[' || text.contains ']' then none else (firstNumber? text).map .bare

inductive Arrangement where
  | integerRange
  | pointedRange
  | single
  | emptyBox
  | bare
  deriving DecidableEq

namespace Arrangement

/-- The order in which arrangements are tried. -/
def all : List Arrangement := [integerRange, pointedRange, single, emptyBox, bare]

def roll? : Arrangement → List Char → Option Roll
  | integerRange, text => leftmost integerRangeAt? text
  | pointedRange, text => leftmost pointedRangeAt? text
  | single, text => single? text
  | emptyBox, text => leftmost emptyBoxAt? text
  | bare, text => bare? text

/-- A value shown without a range is a greater roll. -/
def isGreater : Arrangement → Bool
  | emptyBox | bare => true
  | _ => false

/-- The first arrangement that a cleaned line shows, with its numbers. -/
def find? (text : List Char) : Option (Arrangement × Roll) :=
  all.findSome? fun arrangement => (arrangement.roll? text).map fun roll => (arrangement, roll)

end Arrangement

end LootSieve.Tooltip
