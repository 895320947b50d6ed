import LootSieve.Yaml.Spot
import LootSieve.Text.Numeral

/-! Scalars as written: words and the gaps between them. A gap without a break is kept, a single
break reads as a space, and a break followed by others reads as those others. -/

namespace LootSieve.Yaml

/-- The blanks of a gap before its first break, its breaks, and what follows. Tabs left of `margin`
may not start a line; without a margin they may. -/
def takeGap (margin : Option Int) (broken : Bool) :
    List Spot → Option (List Char × List Char × List Spot)
  | [] => some ([], [], [])
  | spot :: rest =>
    if isGap spot.char then
      if !broken then
        (takeGap margin false rest).map fun (blanks, breaks, left) =>
          (spot.char :: blanks, breaks, left)
      else if spot.char = '\t' && margin.any ((spot.column : Int) < ·) then none
      else takeGap margin true rest
    else if isBreak spot.char then
      (takeGap margin true rest).map fun (_, breaks, left) => ([], spot.char :: breaks, left)
    else some ([], [], spot :: rest)

def foldGap (blanks : List Char) : List Char → List Char
  | [] => blanks
  | ['\n'] => [' ']
  | '\n' :: breaks => breaks
  | breaks => breaks

def isFlowMark (char : Char) : Bool :=
  char = ',' || char = '[' || char = ']' || char = '\x7b' || char = '\x7d'

/-- A colon that touches one of these inside a flow collection is refused. -/
def touches : List Spot → Bool
  | [] => false
  | spot :: _ => isFlowMark spot.char || spot.char = '?'

/-- The longest plain word at the start of the spots, possibly empty. -/
def takeWord (inFlow : Bool) : List Spot → Option (List Char × List Spot)
  | [] => some ([], [])
  | spot :: rest =>
    if isGap spot.char || isBreak spot.char then some ([], spot :: rest)
    else if inFlow && spot.char = ':' && touches rest then none
    else if (spot.char = ':' && endsWord rest) || (inFlow && isFlowMark spot.char) then
      some ([], spot :: rest)
    else (takeWord inFlow rest).map fun (word, left) => (spot.char :: word, left)

/-- A plain scalar, whether a break stands at its end, and what follows. `lead` is the folded gap
that joins the next word on. -/
def takePlain (inFlow : Bool) (margin : Int) :
    Nat → List Char → Bool → List Spot → Option (List Char × Bool × List Spot)
  | 0, _, _, _ => none
  | fuel + 1, lead, broken, spots =>
    if atDocumentMark spots || spots.head?.any (·.char = '#') then some ([], broken, spots)
    else do
      let (word, rest) ← takeWord inFlow spots
      if word.isEmpty then return ([], broken, spots)
      if !endsWord rest then return (lead ++ word, false, rest)
      let (blanks, breaks, rest) ← takeGap (some margin) false rest
      let broken := !breaks.isEmpty
      match rest with
      | [] => return (lead ++ word, broken, [])
      | next :: _ =>
        if !inFlow && next.column < margin then return (lead ++ word, broken, rest)
        let (more, broken, rest) ← takePlain inFlow margin fuel (foldGap blanks breaks) broken rest
        return (lead ++ word ++ more, broken, rest)

def escapeWidth? (char : Char) : Option Nat :=
  match char with
  | 'x' => some 2
  | 'u' => some 4
  | 'U' => some 8
  | _ => none

def escapedChar? (char : Char) : Option Char :=
  match char with
  | '0' => some '\x00'
  | 'a' => some '\x07'
  | 'b' => some '\x08'
  | 't' => some '\t'
  | '\t' => some '\t'
  | 'n' => some '\n'
  | 'v' => some '\x0B'
  | 'f' => some '\x0C'
  | 'r' => some '\r'
  | 'e' => some '\x1B'
  | ' ' => some ' '
  | '"' => some '"'
  | '/' => some '/'
  | '\\' => some '\\'
  | 'N' => some '\u0085'
  | '_' => some '\u00A0'
  | 'L' => some '\u2028'
  | 'P' => some '\u2029'
  | _ => none

/-- The character that `width` hexadecimal digits name. -/
def takeCode? (width : Nat) (spots : List Spot) : Option (Char × List Spot) := do
  let digits := (spots.take width).map (·.char)
  let code ← Text.readNat? 16 digits
  if digits.length = width && code.isValidChar then
    return (Char.ofNat code, spots.drop width)
  else none

/-- The rest of a quoted scalar after its opening quote, and what follows its closing quote. -/
def takeQuoted (quote : Char) : Nat → List Spot → Option (List Char × List Spot)
  | 0, _ => none
  | _ + 1, [] => none
  | fuel + 1, spot :: rest =>
    let andMore (chars : List Char) (rest : List Spot) :=
      (takeQuoted quote fuel rest).map fun (more, left) => (chars ++ more, left)
    if atDocumentMark (spot :: rest) then none
    else if isGap spot.char || isBreak spot.char then do
      let (blanks, breaks, rest) ← takeGap none false (spot :: rest)
      andMore (foldGap blanks breaks) rest
    else if spot.char = quote then
      match rest with
      | next :: rest =>
        if quote = '\'' && next.char = quote then andMore [quote] rest else some ([], next :: rest)
      | [] => some ([], [])
    else if quote = '"' && spot.char = '\\' then
      match rest with
      | [] => none
      | next :: rest =>
        if isBreak next.char then do
          let (_, breaks, rest) ← takeGap none true rest
          andMore breaks rest
        else
          match escapeWidth? next.char with
          | some width => do
            let (char, rest) ← takeCode? width rest
            andMore [char] rest
          | none => do
            let char ← escapedChar? next.char
            andMore [char] rest
    else andMore [spot.char] rest

end LootSieve.Yaml
