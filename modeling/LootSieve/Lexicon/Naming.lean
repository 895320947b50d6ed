import LootSieve.Text.Alphabetic
import LootSieve.Text.Blank
import LootSieve.Text.Lowercase

/-! Ids made of free text. The id of a line keeps letters only, so numbers and signs around the
wording do not matter; the id of an item or dungeon keeps digits too. -/

namespace LootSieve.Naming

/-- The words of a line in lower case, every character but letters and blanks left out. -/
def letterWords (line : List Char) : List (List Char) :=
  (Text.words (line.filter fun char => Text.isAlphabetic char || Text.isBlank char)).map Text.lower

def canonical (line : List Char) : List Char := ['_'].intercalate (letterWords line)

/-- Letters of a line in lower case with single spaces, for comparison with fixed wording. -/
def wording (line : List Char) : List Char := [' '].intercalate (letterWords line)

def isNamePunctuation (char : Char) : Bool :=
  char = '\'' || char = ',' || char = '(' || char = ')'

def ofTitle (title : List Char) : List Char :=
  let plain := (Text.lower (Text.trim title)).filter (!isNamePunctuation ·)
  ['_'].intercalate (Text.words plain)

end LootSieve.Naming
