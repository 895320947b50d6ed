/-! Numerals. A decimal numeral denotes the double nearest to its digits read as an exact decimal
fraction; an exponent moves the point before rounding. -/

namespace LootSieve.Text

/-- Numbers of so many bits are those below. -/
def bitLimit (bits : Nat) : Nat := 1 <<< bits

def hexDigit? (char : Char) : Option Nat :=
  if char.isDigit then some (char.toNat - '0'.toNat)
  else if 'a' ≤ char ∧ char ≤ 'f' then some (char.toNat - 'a'.toNat + 10)
  else if 'A' ≤ char ∧ char ≤ 'F' then some (char.toNat - 'A'.toNat + 10)
  else none

def digitIn? (radix : Nat) (char : Char) : Option Nat := (hexDigit? char).filter (· < radix)

def natOfDigits (digits : List Char) : Nat :=
  digits.foldl (fun value digit => 10 * value + (digit.toNat - '0'.toNat)) 0

/-- Reads a text that is nothing but digits of the radix, at least one. -/
def readNat? (radix : Nat) (text : List Char) : Option Nat :=
  if text.isEmpty then none
  else (text.mapM (digitIn? radix)).map (·.foldl (fun value digit => radix * value + digit) 0)

/-- The value of `whole.fraction` with the point moved `shift` places to the right. -/
def scaledValue (whole fraction : List Char) (shift : Int) : Float :=
  let exponent := shift - fraction.length
  Float.ofScientific (natOfDigits (whole ++ fraction)) (decide (exponent < 0)) exponent.natAbs

/-- The value of `whole.fraction`. -/
def decimalValue (whole fraction : List Char) : Float := scaledValue whole fraction 0

/-- Cuts digits with at most one point before, among or after them from the start of a text. -/
def takeDecimal? (text : List Char) : Option ((List Char × List Char) × List Char) :=
  let (whole, afterWhole) := text.span Char.isDigit
  let (fraction, rest) := match afterWhole with
    | '.' :: afterPoint => afterPoint.span Char.isDigit
    | _ => ([], afterWhole)
  if whole.isEmpty && fraction.isEmpty then none else some ((whole, fraction), rest)

/-- Reads a whole text as a decimal numeral. -/
def readDecimal? (text : List Char) : Option Float :=
  match takeDecimal? text with
  | some ((whole, fraction), []) => some (decimalValue whole fraction)
  | _ => none

def readExponent? : List Char → Option Int
  | [] => some 0
  | mark :: rest =>
    if mark = 'e' || mark = 'E' then
      match rest with
      | '-' :: digits => (readNat? 10 digits).map fun value => -Int.ofNat value
      | '+' :: digits => (readNat? 10 digits).map Int.ofNat
      | digits => (readNat? 10 digits).map Int.ofNat
    else none

/-- Reads a whole text as a decimal numeral with an optional exponent. -/
def readUnsignedFloat? (text : List Char) : Option Float := do
  let ((whole, fraction), rest) ← takeDecimal? text
  let shift ← readExponent? rest
  return scaledValue whole fraction shift

/-- Reads a whole text as a numeral with an optional minus sign and an optional exponent. -/
def readFloat? : List Char → Option Float
  | '-' :: text => (readUnsignedFloat? text).map (-·)
  | text => readUnsignedFloat? text

def hasDigit (text : List Char) : Bool := text.any Char.isDigit

end LootSieve.Text
