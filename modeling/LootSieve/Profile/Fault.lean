/-! What can be wrong with a profile document. -/

namespace LootSieve

/-- What a name was looked up as. -/
inductive NameKind where
  | affix
  | aspect
  | uniqueAspect
  | sigil
  | tribute
  deriving DecidableEq

def NameKind.wording : NameKind → String
  | affix => "affix"
  | aspect => "aspect"
  | uniqueAspect => "unique aspect"
  | sigil => "sigil"
  | tribute => "tribute"

/-- A part that is well formed but makes no sense. -/
inductive Flaw where
  | affixListLength
  | affixListName
  | affixListValue (affix value : String)
  | affixListComparison (affix comparison : String)
  | affixListNumberComparison (affix : String)
  | emptyPool (filter : String)
  | countWindow (filter : String) (minCount maxCount : Nat)
  | greaterCount (filter : String)
  | aspectPercent (percent : Nat)
  | greaterAspect (aspect : String)
  | emptySigilEntry
  | sigilOverlap (names : List String)
  | emptyRarityList
  deriving DecidableEq

/-- The most greater affixes that a filter may ask for. -/
def maxGreaterCount : Nat := 3

def maxAspectPercent : Nat := 100

def Flaw.message : Flaw → String
  | affixListLength => "an affix list must have 1 to 3 entries: [name, value, comparison]"
  | affixListName => "the first entry of an affix list must be its name"
  | affixListValue affix value =>
    "affix `" ++ affix ++ "`: value must be a number, got `" ++ value ++ "`"
  | affixListComparison affix comparison =>
    "affix `" ++ affix ++ "`: comparison must be larger or smaller, got `" ++ comparison ++ "`"
  | affixListNumberComparison affix =>
    "affix `" ++ affix ++ "`: comparison must be larger or smaller"
  | emptyPool filter => "filter `" ++ filter ++ "`: an affix pool must not be empty"
  | countWindow filter minCount maxCount =>
    "filter `" ++ filter ++ "`: minCount (" ++ toString minCount ++
      ") must not exceed maxCount (" ++ toString maxCount ++ ")"
  | greaterCount filter =>
    "filter `" ++ filter ++ "`: minGreaterAffixCount must be between 0 and " ++
      toString maxGreaterCount
  | aspectPercent percent =>
    "minPercentOfAspect must be at most " ++ toString maxAspectPercent ++ ", got " ++
      toString percent
  | greaterAspect aspect => "aspect `" ++ aspect ++ "`: greater only applies to affixes"
  | emptySigilEntry => "a sigil list entry must not be empty"
  | sigilOverlap names =>
    "sigil blacklist and whitelist must not overlap: " ++ ", ".intercalate names
  | emptyRarityList => "a tribute rarity list must not be empty"

inductive Fault where
  /-- The text is no document, or a part of it has the wrong type. -/
  | malformed
  | empty
  | unknownName (kind : NameKind) (name : String)
  | invalid (flaw : Flaw)
  /-- A pool sets the count of greater affixes that belongs to its filter. -/
  | poolGreaterCount (filter : String)
  deriving DecidableEq

def Fault.message : Fault → String
  | malformed => "invalid YAML"
  | empty => "document is empty"
  | unknownName kind name => "unknown " ++ kind.wording ++ " `" ++ name ++ "`"
  | invalid flaw => flaw.message
  | poolGreaterCount filter =>
    "filter `" ++ filter ++ "` sets minGreaterAffixCount on an affix pool. " ++
      "This is the old profile format. Move minGreaterAffixCount up to the `" ++ filter ++
      "` filter itself and mark the pool entries that must be greater affixes with " ++
      "`greater: true`, e.g. `- \x7bname: critical_strike_chance, greater: true\x7d`"

/-- A fault with the profile that has it. -/
structure ProfileError where
  profile : String
  fault : Fault
  deriving DecidableEq

def ProfileError.message (error : ProfileError) : String :=
  "profile " ++ error.profile ++ ": " ++ error.fault.message

end LootSieve
