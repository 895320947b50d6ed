import LootSieve.Tooltip.Line

/-! Cleaning of affix and aspect lines. Signs and markers go first, then a comparison in
parentheses, then a duration together with the bracket that repeats it, so that none of these is
taken for a roll. -/

namespace LootSieve.Tooltip
open Text

/-- Erased in this order. -/
def cosmeticTokens : List String := ["%", "+", ",", "[+]", "[x]", "per 5 Seconds"]

def dropCosmetics (line : List Char) : List Char :=
  cosmeticTokens.foldl (fun line token => erase token.toList line) line

/-- The length from an opening parenthesis to the last closing one on the same line. -/
def comparisonWidth : List Char → Nat
  | '(' :: rest =>
    let line := rest.takeWhile (· ≠ '\n')
    let upToLast := line.reverse.dropWhile (· ≠ ')')
    if upToLast.isEmpty then 0 else upToLast.length + 1
  | _ => 0

def dropComparison (line : List Char) : List Char := eraseMatches comparisonWidth 0 line

/-- Equal up to letter case; the long s is a small letter of S. -/
def sameLetter (letter char : Char) : Bool :=
  char.toLower = letter || (letter = 's' && char = 'ſ')

/-- What follows a phrase, given in lower case, at the start of a text in any letter case. -/
def afterWording? : List Char → List Char → Option (List Char)
  | [], text => some text
  | _ :: _, [] => none
  | letter :: phrase, char :: rest =>
    if sameLetter letter char then afterWording? phrase rest else none

/-- A duration at the start of a text as written, and its number. -/
def duration? (text : List Char) : Option (List Char × List Char) := do
  let start ← afterWording? "for ".toList text
  let ((_, _), rest) ← numeral? start
  let number := start.take (start.length - rest.length)
  let rest ← afterWording? " seconds".toList rest
  return (text.take (text.length - rest.length), number)

def dropDuration (line : List Char) : List Char :=
  match leftmost duration? line with
  | none => line
  | some (phrase, number) => erase ('[' :: number ++ [']']) (erase phrase line)

def clean (line : List Char) : List Char :=
  trim (dropDuration (dropComparison (dropCosmetics line)))

end LootSieve.Tooltip
