import LootSieve.Yaml.Scalar

/-! The tokens of a document. Indentation turns into opening and closing tokens of block
collections. A key is recognised late, at its colon, so its token and the opening of its mapping
are placed back where the key began.

The dialect has block and flow collections, plain and quoted scalars, comments and document marks.
Anchors, aliases, tags, directives and block scalars are refused. -/

namespace LootSieve.Yaml

inductive Token where
  | documentStart
  | documentEnd
  | blockSequence
  | blockMapping
  | blockEnd
  | flowSequence
  | flowSequenceEnd
  | flowMapping
  | flowMappingEnd
  | entry
  | comma
  | key
  | value
  | scalar (plain : Bool) (text : List Char)

/-- A place where a key may have begun. A required one must turn out to be a key. -/
structure KeyPlace where
  token : Nat
  spot : Spot
  required : Bool

/-- The state between two tokens. `indents` and `keys` have the innermost entry first; `keys` has
one entry for the block context and one for each open flow collection. -/
structure Scan where
  spots : List Spot
  tokens : Array Token
  indents : List Int
  keys : List (Option KeyPlace)
  keyAllowed : Bool

namespace Scan

def start (spots : List Spot) : Scan := ⟨spots, #[], [-1], [none], true⟩

def indent (scan : Scan) : Int := scan.indents.headD (-1)

def inFlow (scan : Scan) : Bool := 1 < scan.keys.length

def push (scan : Scan) (token : Token) : Scan := { scan with tokens := scan.tokens.push token }

def insert (scan : Scan) (place : Nat) (token : Token) : Scan :=
  let before := scan.tokens.extract 0 place
  let after := scan.tokens.extract place scan.tokens.size
  { scan with tokens := before.push token ++ after }

/-- Passes over spaces, comments, breaks and a byte order mark at the start of a line; outside flow
collections a new line allows a key. -/
def passGap (inFlow : Bool) : Bool → Bool → List Spot → Bool × List Spot
  | _, keyAllowed, [] => (keyAllowed, [])
  | inComment, keyAllowed, spot :: rest =>
    if isBreak spot.char then passGap inFlow false (keyAllowed || !inFlow) rest
    else if inComment then passGap inFlow true keyAllowed rest
    else if spot.char = ' ' || (spot.char = '\t' && (inFlow || !keyAllowed)) then
      passGap inFlow false keyAllowed rest
    else if spot.char = '\uFEFF' && spot.column = 0 then passGap inFlow false keyAllowed rest
    else if spot.char = '#' then passGap inFlow true keyAllowed rest
    else (keyAllowed, spot :: rest)

def toNextToken (scan : Scan) : Scan :=
  let (keyAllowed, spots) := passGap scan.inFlow false scan.keyAllowed scan.spots
  { scan with keyAllowed, spots }

/-- A key fits on one line and is no longer than 1024 characters. -/
def isStale (place : KeyPlace) (spot : Spot) : Bool :=
  place.spot.line < spot.line || place.spot.index + 1024 < spot.index

def dropStale? (scan : Scan) (spot : Spot) : Option Scan := do
  let keys ← scan.keys.mapM fun key =>
    match key with
    | some place =>
      if isStale place spot then if place.required then none else some none
      else some (some place)
    | none => some none
  return { scan with keys }

/-- Gives up the innermost possible key. -/
def dropKey? (scan : Scan) : Option Scan :=
  match scan.keys with
  | some place :: keys => if place.required then none else some { scan with keys := none :: keys }
  | _ => some scan

/-- Notes that a key may begin here. -/
def noteKey? (scan : Scan) (spot : Spot) : Option Scan :=
  if scan.keyAllowed then do
    let required := !scan.inFlow && scan.indent = spot.column
    let scan ← scan.dropKey?
    return { scan with keys := some ⟨scan.tokens.size, spot, required⟩ :: scan.keys.tail }
  else some scan

def closeBlocks (scan : Scan) (column : Int) : Scan :=
  if scan.inFlow then scan
  else
    let closed := scan.indents.takeWhile (column < ·)
    { scan with
      indents := scan.indents.dropWhile (column < ·)
      tokens := scan.tokens ++ (closed.map fun _ => Token.blockEnd).toArray }

def openBlock (scan : Scan) (column place : Nat) (token : Token) : Scan :=
  if scan.inFlow || column ≤ scan.indent then scan
  else { scan.insert place token with indents := (column : Int) :: scan.indents }

def skip (scan : Scan) (count : Nat) : Scan := { scan with spots := scan.spots.drop count }

def documentMark? (scan : Scan) (token : Token) : Option Scan := do
  let scan ← (scan.closeBlocks (-1)).dropKey?
  return { (scan.skip 3).push token with keyAllowed := false }

def openFlow? (scan : Scan) (spot : Spot) (token : Token) : Option Scan := do
  let scan ← scan.noteKey? spot
  return { (scan.skip 1).push token with keys := none :: scan.keys, keyAllowed := true }

def closeFlow? (scan : Scan) (token : Token) : Option Scan := do
  let scan ← scan.dropKey?
  let keys := if scan.inFlow then scan.keys.tail else scan.keys
  return { (scan.skip 1).push token with keys, keyAllowed := false }

def comma? (scan : Scan) : Option Scan := do
  let scan ← scan.dropKey?
  return { (scan.skip 1).push .comma with keyAllowed := true }

def entry? (scan : Scan) (spot : Spot) : Option Scan := do
  guard (scan.inFlow || scan.keyAllowed)
  let scan ← (scan.openBlock spot.column scan.tokens.size .blockSequence).dropKey?
  return { (scan.skip 1).push .entry with keyAllowed := true }

def key? (scan : Scan) (spot : Spot) : Option Scan := do
  guard (scan.inFlow || scan.keyAllowed)
  let scan ← (scan.openBlock spot.column scan.tokens.size .blockMapping).dropKey?
  return { (scan.skip 1).push .key with keyAllowed := !scan.inFlow }

def value? (scan : Scan) (spot : Spot) : Option Scan :=
  match scan.keys with
  | some place :: keys =>
    let keyed := scan.insert place.token .key
    let opened := keyed.openBlock place.spot.column place.token .blockMapping
    some { (opened.skip 1).push .value with keys := none :: keys, keyAllowed := false }
  | _ => do
    guard (scan.inFlow || scan.keyAllowed)
    let scan := scan.openBlock spot.column scan.tokens.size .blockMapping
    return { (scan.skip 1).push .value with keyAllowed := !scan.inFlow }

def quoted? (scan : Scan) (spot : Spot) : Option Scan := do
  let scan ← scan.noteKey? spot
  let (text, rest) ← takeQuoted spot.char scan.spots.length (scan.spots.drop 1)
  return { scan.push (.scalar false text) with spots := rest, keyAllowed := false }

def plain? (scan : Scan) (spot : Spot) : Option Scan := do
  let scan ← scan.noteKey? spot
  let (text, broken, rest) ←
    takePlain scan.inFlow (scan.indent + 1) scan.spots.length [] false scan.spots
  return { scan.push (.scalar true text) with spots := rest, keyAllowed := broken }

/-- A plain scalar may start here, given that no indicator has been recognised. -/
def startsPlain (inFlow : Bool) (spot : Spot) (rest : List Spot) : Bool :=
  match spot.char with
  | '-' => !endsWord rest
  | '?' | ':' => !inFlow && !endsWord rest
  | ',' | '[' | ']' | '\x7b' | '\x7d' | '#' | '&' | '*' | '!' | '|' | '>' | '\'' | '"' | '%' | '@'
  | '\x60' | '\t' => false
  | _ => true

def token? (scan : Scan) (spot : Spot) (rest : List Spot) : Option Scan :=
  if atMark '-' (spot :: rest) then scan.documentMark? .documentStart
  else if atMark '.' (spot :: rest) then scan.documentMark? .documentEnd
  else
    let indicates := scan.inFlow || endsWord rest
    match spot.char with
    | '[' => scan.openFlow? spot .flowSequence
    | '\x7b' => scan.openFlow? spot .flowMapping
    | ']' => scan.closeFlow? .flowSequenceEnd
    | '\x7d' => scan.closeFlow? .flowMappingEnd
    | ',' => scan.comma?
    | '\'' | '"' => scan.quoted? spot
    | char =>
      if char = '-' && endsWord rest then scan.entry? spot
      else if char = '?' && indicates then scan.key? spot
      else if char = ':' && indicates then scan.value? spot
      else if startsPlain scan.inFlow spot rest then scan.plain? spot
      else none

/-- Scans to the end of the document. Every token takes at least one character. -/
def tokens? : Nat → Scan → Option (List Token)
  | 0, _ => none
  | fuel + 1, scan =>
    let scan := scan.toNextToken
    match scan.spots with
    | [] => do
      let scan ← (scan.closeBlocks (-1)).dropKey?
      return scan.tokens.toList
    | spot :: rest => do
      let scan ← scan.dropStale? spot
      let scan ← (scan.closeBlocks spot.column).token? spot rest
      tokens? fuel scan

end Scan

def tokens? (text : List Char) : Option (List Token) := do
  let spots ← spots? text
  (Scan.start spots).tokens? (spots.length + 1)

end LootSieve.Yaml
