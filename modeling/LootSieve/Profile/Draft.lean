import LootSieve.Profile.Basic
import LootSieve.Yaml.Shape

/-! A profile as its author wrote it, with each entry in the form that was chosen for it. Reading a
draft settles the types of all parts; whether names exist and numbers make sense is not asked. -/

namespace LootSieve

inductive ListPart where
  | number (value : Float)
  | text (value : String)

/-- An affix by its name, as a list of name, value and comparison, or in full. -/
inductive RequirementDraft where
  | byName (name : String)
  | byList (parts : List ListPart)
  | inFull (requirement : Requirement)

structure PoolDraft where
  count : List RequirementDraft
  minCount : Option Nat
  maxCount : Option Nat
  /-- A setting that belongs to the filter; read only to be refused. -/
  minGreaterCount : Option Nat

structure ItemFilterDraft where
  affixPools : List PoolDraft
  inherentPools : List PoolDraft
  types : List ItemType
  minGreaterCount : Nat
  minPower : Int

/-- A sigil by its name, as a list of name and conditions, or in full. -/
inductive SigilDraft where
  | byName (name : String)
  | byList (names : List String)
  | inFull (entry : SigilEntry)

structure SigilFilterDraft where
  blacklist : List SigilDraft
  whitelist : List SigilDraft
  priority : SigilPriority

/-- A rarity or a tribute by its name, a list of rarities, or both in full. -/
inductive TributeDraft where
  | byWord (word : String)
  | byRarities (rarities : List Rarity)
  | inFull (name : Option String) (rarities : List Rarity)

structure UniqueDraft where
  aspect : Option RequirementDraft
  affixes : List RequirementDraft
  types : List ItemType
  profileAlias : Option String
  minGreaterCount : Nat
  minPercent : Nat
  minPower : Int
  mythic : Bool

structure ProfileDraft where
  affixes : List (List (String × ItemFilterDraft))
  aspectUpgrades : List String
  sigils : Option SigilFilterDraft
  tributes : List TributeDraft
  uniques : List UniqueDraft

namespace Draft
open Yaml Yaml.Value

def count? (value : Value) : Option Nat := value.naturalBelow? (Text.bitLimit 64)

def power? (value : Value) : Option Int :=
  value.integerIn? (-Text.bitLimit 31) (Text.bitLimit 31)

def percent? (value : Value) : Option Nat := value.naturalBelow? (Text.bitLimit 32)

def itemType? (value : Value) : Option ItemType := do
  (ItemType.ofName (← value.text?)).toOption

def rarity? (value : Value) : Option Rarity := do
  (Rarity.ofName (← value.text?)).toOption

def listPart? (value : Value) : Option ListPart :=
  match value.number? with
  | some number => some (.number number)
  | none => value.text?.map .text

def requirementFields : List String := ["name", "value", "comparison", "greater"]

def fullRequirement? (value : Value) : Option Requirement := do
  let fields ← (leadingFields? requirementFields value).or
    (entryRecord? requirementFields true value)
  return {
    name := ← field? fields "name" text?
    value := ← fieldOr? fields "value" none (orNull? number?)
    comparison := ← fieldOr? fields "comparison" .larger
      (entryChoice? Comparison.all Comparison.name)
    greater := ← fieldOr? fields "greater" false bool? }

def requirement? (value : Value) : Option RequirementDraft :=
  (value.text?.map .byName).or <| ((listOf? listPart? value).map .byList).or <|
    (fullRequirement? value).map .inFull

def pool? (value : Value) : Option PoolDraft := do
  let fields ← record? ["count", "minCount", "maxCount", "minGreaterAffixCount"] value
  return {
    count := ← field? fields "count" (listOrNull? requirement?)
    minCount := ← fieldOr? fields "minCount" none (orNull? count?)
    maxCount := ← fieldOr? fields "maxCount" none (orNull? count?)
    minGreaterCount := ← fieldOr? fields "minGreaterAffixCount" none (orNull? count?) }

def itemFilter? (value : Value) : Option ItemFilterDraft := do
  let fields ← record?
    ["affixPool", "inherentPool", "itemType", "minGreaterAffixCount", "minPower"] value
  return {
    affixPools := ← fieldOr? fields "affixPool" [] (listOrNull? pool?)
    inherentPools := ← fieldOr? fields "inherentPool" [] (listOrNull? pool?)
    types := ← fieldOr? fields "itemType" [] (oneOrMany? itemType?)
    minGreaterCount := ← fieldOr? fields "minGreaterAffixCount" 0 count?
    minPower := ← fieldOr? fields "minPower" 0 power? }

def fullSigil? (value : Value) : Option SigilEntry := do
  let fields ← entryRecord? ["name", "condition"] false value
  return {
    name := ← field? fields "name" text?
    conditions := ← fieldOr? fields "condition" [] (listOf? text?) }

def sigil? (value : Value) : Option SigilDraft :=
  (value.text?.map .byName).or <| ((listOf? text? value).map .byList).or <|
    (fullSigil? value).map .inFull

def sigilFilter? (value : Value) : Option SigilFilterDraft := do
  let fields ← record? ["blacklist", "whitelist", "priority"] value
  return {
    blacklist := ← fieldOr? fields "blacklist" [] (listOrNull? sigil?)
    whitelist := ← fieldOr? fields "whitelist" [] (listOrNull? sigil?)
    priority := ← fieldOr? fields "priority" .blacklist
      (choice? SigilPriority.all SigilPriority.name) }

def fullTribute? (value : Value) : Option TributeDraft := do
  let fields ← entryRecord? ["name", "rarities"] false value
  return .inFull (← fieldOr? fields "name" none (orNull? text?))
    (← fieldOr? fields "rarities" [] (oneOrMany? rarity?))

def tribute? (value : Value) : Option TributeDraft :=
  (value.text?.map .byWord).or <| ((listOf? rarity? value).map .byRarities).or <|
    fullTribute? value

def unique? (value : Value) : Option UniqueDraft := do
  let fields ← record? ["aspect", "affix", "itemType", "profileAlias", "minGreaterAffixCount",
    "minPercentOfAspect", "minPower", "mythic"] value
  return {
    aspect := ← fieldOr? fields "aspect" none (orNull? requirement?)
    affixes := ← fieldOr? fields "affix" [] (listOrNull? requirement?)
    types := ← fieldOr? fields "itemType" [] (oneOrMany? itemType?)
    profileAlias := ← fieldOr? fields "profileAlias" none (orNull? text?)
    minGreaterCount := ← fieldOr? fields "minGreaterAffixCount" 0 count?
    minPercent := ← fieldOr? fields "minPercentOfAspect" 0 percent?
    minPower := ← fieldOr? fields "minPower" 0 power?
    mythic := ← fieldOr? fields "mythic" false bool? }

/-- Named item filters in ascending order of their names. -/
def itemFilters? (value : Value) : Option (List (String × ItemFilterDraft)) := do
  let filters ← (← entriesOrNull? value).mapM fun (name, filter) =>
    return (name, ← itemFilter? filter)
  return filters.mergeSort fun left right => decide (left.1 ≤ right.1)

def profile? (value : Value) : Option ProfileDraft := do
  let fields ← record? ["Affixes", "AspectUpgrades", "Sigils", "Tributes", "Uniques"] value
  return {
    affixes := ← fieldOr? fields "Affixes" [] (listOrNull? itemFilters?)
    aspectUpgrades := ← fieldOr? fields "AspectUpgrades" [] (listOrNull? text?)
    sigils := ← fieldOr? fields "Sigils" none (orNull? sigilFilter?)
    tributes := ← fieldOr? fields "Tributes" [] (listOrNull? tribute?)
    uniques := ← fieldOr? fields "Uniques" [] (listOrNull? unique?) }

end Draft

/-- What is made of the trees that a parser of documents yields: which of them are null, and which
have the shape of a draft. -/
structure TreeReader (Tree : Type) where
  isNull : Tree → Bool
  draft? : Tree → Option ProfileDraft

/-- Reads generic values. -/
def TreeReader.generic : TreeReader Yaml.Value where
  isNull := Yaml.Value.isNull
  draft? := Draft.profile?

end LootSieve
