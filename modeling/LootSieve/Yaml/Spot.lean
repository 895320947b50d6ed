/-! A document as positioned characters. Every line break becomes one character, so that later
stages meet a single newline where the text had a carriage return, a newline or both. The two
separators of lines and paragraphs stay themselves, since folding keeps them. -/

namespace LootSieve.Yaml

structure Spot where
  char : Char
  index : Nat
  line : Nat
  column : Nat

def isBreak (char : Char) : Bool :=
  char = '\n' || char = '\r' || char = '\u0085' || char = '\u2028' || char = '\u2029'

def isGap (char : Char) : Bool := char = ' ' || char = '\t'

/-- Characters that a document may hold at all. -/
def isPrintable (char : Char) : Bool :=
  let code := char.toNat
  code = 0x09 || code = 0x0A || code = 0x0D || (0x20 ≤ code && code ≤ 0x7E) || code = 0x85 ||
    (0xA0 ≤ code && code ≤ 0xD7FF) || (0xE000 ≤ code && code ≤ 0xFFFD) || 0x10000 ≤ code

def spotsFrom (index line column : Nat) : List Char → List Spot
  | [] => []
  | '\r' :: '\n' :: rest => ⟨'\n', index, line, column⟩ :: spotsFrom (index + 2) (line + 1) 0 rest
  | char :: rest =>
    if isBreak char then
      let kept := if char = '\u2028' || char = '\u2029' then char else '\n'
      ⟨kept, index, line, column⟩ :: spotsFrom (index + 1) (line + 1) 0 rest
    else ⟨char, index, line, column⟩ :: spotsFrom (index + 1) line (column + 1) rest

def spots? (text : List Char) : Option (List Spot) :=
  if text.all isPrintable then some (spotsFrom 0 0 0 text) else none

/-- A word cannot go on: the text ends here, or a gap or a break follows. -/
def endsWord : List Spot → Bool
  | [] => true
  | spot :: _ => isGap spot.char || isBreak spot.char

/-- A line starts with three marks of one kind that stand as a word. -/
def atMark (mark : Char) : List Spot → Bool
  | first :: second :: third :: rest =>
    first.column = 0 && first.char = mark && second.char = mark && third.char = mark &&
      endsWord rest
  | _ => false

def atDocumentMark (spots : List Spot) : Bool := atMark '-' spots || atMark '.' spots

end LootSieve.Yaml
