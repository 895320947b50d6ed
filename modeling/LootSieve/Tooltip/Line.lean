import LootSieve.Text.Blank
import LootSieve.Text.Lowercase
import LootSieve.Text.Numeral
import LootSieve.Text.Search

/-! What is read off single lines of a block: numbers, fixed phrases in any letter case, and
annotations in parentheses. -/

namespace LootSieve.Tooltip
open Text

def digits? (text : List Char) : Option (List Char × List Char) :=
  match text.span Char.isDigit with
  | ([], _) => none
  | cut => some cut

/-- Digits at the start of a text, with a point and further digits if both follow. -/
def numeral? (text : List Char) : Option ((List Char × List Char) × List Char) := do
  let (whole, rest) ← digits? text
  match rest with
  | '.' :: afterPoint =>
    match digits? afterPoint with
    | some (fraction, rest) => return ((whole, fraction), rest)
    | none => return ((whole, []), rest)
  | rest => return ((whole, []), rest)

/-- The first number of a line, its thousands separators left out. -/
def firstNumber? (line : List Char) : Option Float :=
  (leftmost numeral? (line.filter (· ≠ ','))).map fun ((whole, fraction), _) =>
    decimalValue whole fraction

def mentions (phrase : String) (line : String) : Bool :=
  occursIn phrase.toList (lower line.toList)

def anyMentions (block : List String) (phrases : List String) : Bool :=
  block.any fun line => phrases.any (mentions · line)

/-- The first line that mentions a phrase, which is given in lower case. -/
def findMention? (block : List String) (phrase : String) : Option Nat :=
  block.findIdx? (mentions phrase)

/-- The length of an annotation from its opening parenthesis to the next closing one. -/
def annotationWidth : List Char → Nat
  | '(' :: rest =>
    let inner := rest.takeWhile fun char => char ≠ ')' && char ≠ '\n'
    match rest.drop inner.length with
    | ')' :: _ => inner.length + 2
    | _ => 0
  | _ => 0

def dropAnnotations (line : List Char) : List Char := eraseMatches annotationWidth 0 line

end LootSieve.Tooltip
