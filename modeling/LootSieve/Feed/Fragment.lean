import LootSieve.Text.Blank
import LootSieve.Text.LetterCase
import LootSieve.Text.Search

/-! Fragments of the feed: what is stripped from them, which of them close a tooltip, and which can
be the first line of one. -/

namespace LootSieve.Feed
open Text

/-- Markup and leftovers of other encodings. -/
def artifacts : List String :=
  ["&apos;", "&quot;", "[FAVORITED ITEM]. ", "\uFFC2\uFFA0", "(Spiritborn Only)",
   "[MARKED AS JUNK]. "]

/-- Phrases of fragments that close no tooltip although they mention a button. -/
def deniedPhrases : List String := ["Champions who earn the favor of"]

def hintPhrases : List String := ["mouse button", "action button"]

def ignoredHeaders : List String := ["COMPASS AFFIXES", "DUNGEON AFFIXES", "AFFIXES"]

/-- How the titles start that are not written in capitals. -/
def titleStarts : List String :=
  ["Compass", "Escalation Sigil", "Nightmare Sigil", "TRIBUTE OF", "WHISPERING KEY"]

def artifactWidth (text : List Char) : Nat :=
  match artifacts.find? (·.toList.isPrefixOf text) with
  | some artifact => artifact.length
  | none => 0

def normalize (fragment : String) : String :=
  String.ofList (trim (eraseMatches artifactWidth 0 fragment.toList))

def holdsAny (phrases : List String) (text : List Char) : Bool :=
  phrases.any fun phrase => occursIn phrase.toList text

/-- A hint closes a tooltip. It mentions a button in any ASCII letter case. -/
def isHint (line : String) : Bool :=
  !holdsAny deniedPhrases line.toList && holdsAny hintPhrases (line.toList.map Char.toLower)

/-- At least three ASCII letters, some capital and no small letter. -/
def isShouted (line : List Char) : Bool :=
  3 ≤ line.countP Char.isAlpha && line.any isUppercase && !line.any isLowercase

def isStart (line : String) : Bool :=
  !holdsAny ignoredHeaders line.toList &&
    (titleStarts.any (·.toList.isPrefixOf line.toList) || isShouted line.toList)

/-- The place of the last line that can be a title. -/
def lastStart? : List String → Option Nat
  | [] => none
  | line :: rest =>
    match lastStart? rest with
    | some place => some (place + 1)
    | none => if isStart line then some 0 else none

end LootSieve.Feed
