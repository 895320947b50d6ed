import LootSieve.Yaml.Node

/-! Generic values of a document. A plain scalar reads as null, a truth value, a number or, failing
these, text; a quoted scalar is always text. A mapping has no key twice and nesting is bounded. -/

namespace LootSieve.Yaml

inductive Value where
  | null
  | bool (value : Bool)
  | integer (value : Int)
  | float (value : Float)
  | text (value : String)
  | list (items : List Value)
  | mapping (entries : List (Value × Value))

namespace Plain

def isNull (text : String) : Bool :=
  text = "" || text = "null" || text = "Null" || text = "NULL" || text = "~"

def bool? (text : String) : Option Bool :=
  if text = "true" || text = "True" || text = "TRUE" then some true
  else if text = "false" || text = "False" || text = "FALSE" then some false
  else none

def dropPlus : List Char → List Char
  | '+' :: rest => rest
  | text => text

def dropSign : List Char → List Char
  | '-' :: rest => rest
  | text => dropPlus text

/-- Digits after a leading zero are text. -/
def isZeroPadded (text : List Char) : Bool :=
  match dropSign text with
  | '0' :: digits => !digits.isEmpty && digits.all Char.isDigit
  | _ => false

def radixNat? : List Char → Option Nat
  | '0' :: 'x' :: digits => Text.readNat? 16 digits
  | '0' :: 'o' :: digits => Text.readNat? 8 digits
  | '0' :: 'b' :: digits => Text.readNat? 2 digits
  | _ => none

def decimalNat? (text : List Char) : Option Nat :=
  if isZeroPadded text then none else Text.readNat? 10 text

/-- A number without a minus sign. -/
def natural? (text : List Char) : Option Nat :=
  let digits := dropPlus text
  (radixNat? digits).or (decimalNat? digits)

/-- An integer of any size. -/
def integer? : List Char → Option Int
  | '-' :: digits => ((radixNat? digits).or (decimalNat? digits)).map fun value => -Int.ofNat value
  | text => (natural? text).map Int.ofNat

def isOneOf (text : List Char) (words : List String) : Bool := words.contains (String.ofList text)

/-- A finite numeral, an infinity or not a number. -/
def float? (text : List Char) : Option Float :=
  if isOneOf text ["-.inf", "-.Inf", "-.INF"] then some (-1.0 / 0.0)
  else if isOneOf text [".nan", ".NaN", ".NAN"] then some (0.0 / 0.0)
  else if isOneOf (dropPlus text) [".inf", ".Inf", ".INF"] then some (1.0 / 0.0)
  else if isZeroPadded text then none
  else
    let value := match text with
      | '+' :: rest => Text.readUnsignedFloat? rest
      | text => Text.readFloat? text
    value.filter Float.isFinite

/-- Integers of 64 bits are values, those of up to 128 bits are refused, and longer ones read as
floats. -/
def value? (text : List Char) : Option Value :=
  let word := String.ofList text
  if isNull word then some .null
  else if let some value := bool? word then some (.bool value)
  else
    let number := (integer? text).filter fun value =>
      -(Text.bitLimit 127 : Int) ≤ value && value < Text.bitLimit 128
    match number with
    | some value =>
      if -(Text.bitLimit 63 : Int) ≤ value && value < Text.bitLimit 64 then
        some (.integer value)
      else none
    | none =>
      match float? text with
      | some value => some (.float value)
      | none => some (.text word)

end Plain

namespace Value

def isNull : Value → Bool
  | .null => true
  | _ => false

mutual

/-- Equality of keys. The order of the entries of a mapping does not matter. -/
def same : Value → Value → Bool
  | .null, .null => true
  | .bool left, .bool right => left == right
  | .integer left, .integer right => left == right
  | .float left, .float right => left == right || (left.isNaN && right.isNaN)
  | .text left, .text right => left == right
  | .list left, .list right => sameItems left right
  | .mapping left, .mapping right => left.length == right.length && sameEntries left right
  | _, _ => false

def sameItems : List Value → List Value → Bool
  | [], [] => true
  | left :: lefts, right :: rights => same left right && sameItems lefts rights
  | _, _ => false

def sameEntries : List (Value × Value) → List (Value × Value) → Bool
  | [], _ => true
  | (key, value) :: entries, others =>
    others.any (fun other => same key other.1 && same value other.2) && sameEntries entries others

end

def hasRepeat : List (Value × Value) → Bool
  | [] => false
  | (key, _) :: entries => entries.any (fun entry => same key entry.1) || hasRepeat entries

mutual

def ofNode? : Nat → Node → Option Value
  | _, .scalar true word => Plain.value? word
  | _, .scalar false word => some (.text (String.ofList word))
  | 0, .sequence _ => none
  | 0, .mapping _ => none
  | depth + 1, .sequence items => (ofItems? depth items).map .list
  | depth + 1, .mapping entries => do
    let entries ← ofEntries? depth entries
    if hasRepeat entries then none else return .mapping entries

def ofItems? : Nat → List Node → Option (List Value)
  | _, [] => some []
  | depth, item :: items => do
    return (← ofNode? depth item) :: (← ofItems? depth items)

def ofEntries? : Nat → List (Node × Node) → Option (List (Value × Value))
  | _, [] => some []
  | depth, (key, value) :: entries => do
    return (← ofNode? depth key, ← ofNode? depth value) :: (← ofEntries? depth entries)

end

/-- How deep collections may nest. -/
def maxDepth : Nat := 128

/-- A parser of documents in block and flow style that need no anchors, tags or block scalars. -/
def read? (text : String) : Option Value := do
  ofNode? maxDepth (← Node.read? text)

end Value

end LootSieve.Yaml
