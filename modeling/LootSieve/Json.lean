import LootSieve.Text.Numeral

/-! JSON texts. The reader accepts exactly the standard grammar. A string may hold escapes of
surrogates that are not paired; such a string denotes no text, which matters only to a reader that
needs the text, so it is kept as an absent one. Numbers are kept as written. -/

namespace LootSieve

inductive Json where
  | null
  | bool (value : Bool)
  | number (literal : List Char)
  | string (value : Option String)
  | list (items : List Json)
  | object (fields : List (Option String × Json))

namespace Json

def isSpace (char : Char) : Bool := char = ' ' || char = '\n' || char = '\t' || char = '\r'

def skipSpace (text : List Char) : List Char := text.dropWhile isSpace

def escapedCode? (char : Char) : Option Nat :=
  match char with
  | '"' => some 0x22
  | '\\' => some 0x5C
  | '/' => some 0x2F
  | 'b' => some 0x08
  | 'f' => some 0x0C
  | 'n' => some 0x0A
  | 'r' => some 0x0D
  | 't' => some 0x09
  | _ => none

/-- The code units of a string after its opening quote, with what follows its closing quote. -/
def stringCodes : List Char → Option (List Nat × List Char)
  | [] => none
  | '"' :: rest => some ([], rest)
  | '\\' :: 'u' :: first :: second :: third :: fourth :: rest => do
    let code ← Text.readNat? 16 [first, second, third, fourth]
    let (codes, left) ← stringCodes rest
    return (code :: codes, left)
  | '\\' :: char :: rest => do
    let code ← escapedCode? char
    let (codes, left) ← stringCodes rest
    return (code :: codes, left)
  | char :: rest =>
    if char.toNat < 0x20 then none
    else (stringCodes rest).map fun (codes, left) => (char.toNat :: codes, left)

/-- Joins surrogate pairs; fails on a surrogate without its partner. -/
def charsOfCodes : List Nat → Option (List Char)
  | [] => some []
  | high :: rest =>
    if 0xD800 ≤ high && high < 0xDC00 then
      match rest with
      | low :: rest =>
        if 0xDC00 ≤ low && low < 0xE000 then
          (charsOfCodes rest).map
            (Char.ofNat (0x10000 + (high - 0xD800) * 0x400 + (low - 0xDC00)) :: ·)
        else none
      | [] => none
    else if 0xDC00 ≤ high && high < 0xE000 then none
    else (charsOfCodes rest).map (Char.ofNat high :: ·)

def stringText? (text : List Char) : Option (Option String × List Char) :=
  (stringCodes text).map fun (codes, rest) => ((charsOfCodes codes).map String.ofList, rest)

def wholePart? : List Char → Option (List Char × List Char)
  | '0' :: rest => some (['0'], rest)
  | text => match text.span Char.isDigit with
    | ([], _) => none
    | cut => some cut

def fractionPart? : List Char → Option (List Char × List Char)
  | '.' :: rest => match rest.span Char.isDigit with
    | ([], _) => none
    | (digits, rest) => some ('.' :: digits, rest)
  | text => some ([], text)

def exponentPart? : List Char → Option (List Char × List Char)
  | [] => some ([], [])
  | mark :: rest =>
    if mark = 'e' || mark = 'E' then
      let (sign, digits) := match rest with
        | '+' :: rest => (['+'], rest)
        | '-' :: rest => (['-'], rest)
        | rest => ([], rest)
      match digits.span Char.isDigit with
      | ([], _) => none
      | (digits, rest) => some (mark :: sign ++ digits, rest)
    else some ([], mark :: rest)

def number? (text : List Char) : Option (List Char × List Char) := do
  let (sign, text) := match text with
    | '-' :: rest => (['-'], rest)
    | text => ([], text)
  let (whole, text) ← wholePart? text
  let (fraction, text) ← fractionPart? text
  let (exponent, text) ← exponentPart? text
  return (sign ++ whole ++ fraction ++ exponent, text)

mutual

/-- Reads a value at the start of a text that begins with no space. -/
def value? : Nat → List Char → Option (Json × List Char)
  | 0, _ => none
  | fuel + 1, text =>
    match text with
    | '"' :: rest => (stringText? rest).map fun (value, rest) => (.string value, rest)
    | '[' :: rest =>
      match skipSpace rest with
      | ']' :: rest => some (.list [], rest)
      | rest => (items? fuel rest).map fun (items, rest) => (.list items, rest)
    | '\x7b' :: rest =>
      match skipSpace rest with
      | '\x7d' :: rest => some (.object [], rest)
      | rest => (fields? fuel rest).map fun (fields, rest) => (.object fields, rest)
    | 'n' :: 'u' :: 'l' :: 'l' :: rest => some (.null, rest)
    | 't' :: 'r' :: 'u' :: 'e' :: rest => some (.bool true, rest)
    | 'f' :: 'a' :: 'l' :: 's' :: 'e' :: rest => some (.bool false, rest)
    | text => (number? text).map fun (literal, rest) => (.number literal, rest)

def items? : Nat → List Char → Option (List Json × List Char)
  | 0, _ => none
  | fuel + 1, text => do
    let (item, rest) ← value? fuel text
    match skipSpace rest with
    | ',' :: rest =>
      let (items, rest) ← items? fuel (skipSpace rest)
      return (item :: items, rest)
    | ']' :: rest => return ([item], rest)
    | _ => none

def fields? : Nat → List Char → Option (List (Option String × Json) × List Char)
  | 0, _ => none
  | fuel + 1, text => do
    let rest ← match text with
      | '"' :: rest => some rest
      | _ => none
    let (name, rest) ← stringText? rest
    let rest ← match skipSpace rest with
      | ':' :: rest => some (skipSpace rest)
      | _ => none
    let (value, rest) ← value? fuel rest
    match skipSpace rest with
    | ',' :: rest =>
      let (fields, rest) ← fields? fuel (skipSpace rest)
      return ((name, value) :: fields, rest)
    | '\x7d' :: rest => return ([(name, value)], rest)
    | _ => none

end

/-- Reads a whole text. Every second nested call consumes a character, which bounds their number. -/
def read? (text : String) : Option Json :=
  let chars := skipSpace text.toList
  match value? (2 * chars.length + 2) chars with
  | some (value, rest) => if (skipSpace rest).isEmpty then some value else none
  | none => none

end Json

end LootSieve
