import LootSieve.Lexicon.Basic
import LootSieve.Profile.Draft
import LootSieve.Profile.Fault

/-! Turning a draft into a profile. Names are checked against a lexicon and numbers against their
bounds, in the order of the document; the first fault found is the answer. -/

namespace LootSieve

def invalid {α : Type} (flaw : Flaw) : Except Fault α := .error (.invalid flaw)

def comparisonWord? (word : String) : Option Comparison :=
  let wanted := Text.lower (Text.trim word.toList)
  Comparison.all.find? (·.name.toList = wanted)

def listName : Option ListPart → Except Fault String
  | some (.text name) => .ok name
  | _ => invalid .affixListName

def listValue (name : String) : Option ListPart → Except Fault (Option Float)
  | some (.number value) => .ok (some value)
  | some (.text word) => invalid (.affixListValue name word)
  | none => .ok none

def listComparison (name : String) : Option ListPart → Except Fault Comparison
  | some (.text word) =>
    match comparisonWord? word with
    | some comparison => .ok comparison
    | none => invalid (.affixListComparison name word)
  | some (.number _) => invalid (.affixListNumberComparison name)
  | none => .ok .larger

def requirementOfList (parts : List ListPart) : Except Fault Requirement := do
  if parts.isEmpty || 3 < parts.length then invalid .affixListLength
  else
    let name ← listName parts[0]?
    let value ← listValue name parts[1]?
    let comparison ← listComparison name parts[2]?
    return ⟨name, value, comparison, false⟩

namespace RequirementDraft

def toRequirement : RequirementDraft → Except Fault Requirement
  | byName name => .ok ⟨name, none, .larger, false⟩
  | byList parts => requirementOfList parts
  | inFull requirement => .ok requirement

/-- A requirement on an affix that the lexicon knows. -/
def toAffix (lexicon : Lexicon) (draft : RequirementDraft) : Except Fault Requirement := do
  let requirement ← draft.toRequirement
  if lexicon.affixes.contains requirement.name then return requirement
  else .error (.unknownName .affix requirement.name)

/-- A requirement on the aspect of a unique, which is named by any spelling of its title. -/
def toAspect (lexicon : Lexicon) (draft : RequirementDraft) : Except Fault AspectRequirement := do
  let requirement ← draft.toRequirement
  if requirement.greater then invalid (.greaterAspect requirement.name)
  else
    let name := String.ofList (Naming.ofTitle requirement.name.toList)
    match lexicon.resolveUnique? name with
    | some id => return ⟨id, requirement.value, requirement.comparison⟩
    | none => .error (.unknownName .uniqueAspect name)

end RequirementDraft

/-- Without counts all requirements must be met; a missing bound is open. -/
def poolOf (requirements : List Requirement) (minCount maxCount : Option Nat) : Pool :=
  if minCount.isNone && maxCount.isNone then .ofAll requirements
  else ⟨requirements, minCount.getD 0, maxCount.getD Pool.unlimited⟩

def PoolDraft.toPool (lexicon : Lexicon) (filter : String) (draft : PoolDraft) :
    Except Fault Pool := do
  if draft.minGreaterCount.any (0 < ·) then .error (.poolGreaterCount filter)
  else if draft.count.isEmpty then invalid (.emptyPool filter)
  else
    let requirements ← draft.count.mapM (·.toAffix lexicon)
    let pool := poolOf requirements draft.minCount draft.maxCount
    if pool.maxCount < pool.minCount then
      invalid (.countWindow filter pool.minCount pool.maxCount)
    else return pool

def ItemFilterDraft.toItemFilter (lexicon : Lexicon) (name : String) (draft : ItemFilterDraft) :
    Except Fault ItemFilter := do
  if maxGreaterCount < draft.minGreaterCount then invalid (.greaterCount name)
  else
    let affixPools ← draft.affixPools.mapM (·.toPool lexicon name)
    let inherentPools ← draft.inherentPools.mapM (·.toPool lexicon name)
    return ⟨name, draft.types, draft.minPower, draft.minGreaterCount, affixPools, inherentPools⟩

namespace SigilDraft

def entry : SigilDraft → Except Fault SigilEntry
  | byName name => .ok ⟨name, []⟩
  | byList [] => invalid .emptySigilEntry
  | byList (name :: conditions) => .ok ⟨name, conditions⟩
  | inFull entry => .ok entry

def toEntry (lexicon : Lexicon) (draft : SigilDraft) : Except Fault SigilEntry := do
  let entry ← draft.entry
  match (entry.name :: entry.conditions).find? (!lexicon.sigils.contains ·) with
  | some name => .error (.unknownName .sigil name)
  | none => return entry

end SigilDraft

def SigilFilterDraft.toSigilFilter (lexicon : Lexicon) (draft : SigilFilterDraft) :
    Except Fault SigilFilter := do
  let blacklist ← draft.blacklist.mapM (·.toEntry lexicon)
  let whitelist ← draft.whitelist.mapM (·.toEntry lexicon)
  let overlap := blacklist.filter whitelist.contains
  if overlap.isEmpty then return ⟨blacklist, whitelist, draft.priority⟩
  else invalid (.sigilOverlap (overlap.map (·.name)))

def tributeName (lexicon : Lexicon) (name : String) : Except Fault String :=
  match lexicon.resolveTribute? name with
  | some id => .ok id
  | none => .error (.unknownName .tribute name)

def TributeDraft.toTribute (lexicon : Lexicon) : TributeDraft → Except Fault TributeFilter
  | byWord word =>
    match Rarity.ofWord? word.toList with
    | some rarity => .ok ⟨none, [rarity]⟩
    | none => do return ⟨some (← tributeName lexicon word), []⟩
  | byRarities rarities =>
    if rarities.isEmpty then invalid .emptyRarityList else .ok ⟨none, rarities⟩
  | inFull name rarities =>
    match name.filter (!·.isEmpty) with
    | some name => do return ⟨some (← tributeName lexicon name), rarities⟩
    | none => .ok ⟨none, rarities⟩

def UniqueDraft.toUnique (lexicon : Lexicon) (draft : UniqueDraft) :
    Except Fault UniqueFilter := do
  if maxAspectPercent < draft.minPercent then invalid (.aspectPercent draft.minPercent)
  else
    let aspect ← draft.aspect.mapM (·.toAspect lexicon)
    let affixes ← draft.affixes.mapM (·.toAffix lexicon)
    return {
      aspect := aspect
      affixes := affixes
      types := draft.types
      profileAlias := draft.profileAlias.filter (!·.isEmpty)
      minGreaterCount := draft.minGreaterCount
      minPercent := draft.minPercent
      minPower := draft.minPower
      mythic := draft.mythic }

def knownAspect (lexicon : Lexicon) (name : String) : Except Fault String :=
  if lexicon.aspects.contains name then .ok name else .error (.unknownName .aspect name)

def ProfileDraft.toProfile (lexicon : Lexicon) (name : String) (draft : ProfileDraft) :
    Except Fault Profile := do
  let affixFilters ← draft.affixes.flatten.mapM fun (name, filter) =>
    filter.toItemFilter lexicon name
  let aspectUpgrades ← draft.aspectUpgrades.mapM (knownAspect lexicon)
  let sigils ← draft.sigils.mapM (·.toSigilFilter lexicon)
  let tributes ← draft.tributes.mapM (·.toTribute lexicon)
  let uniques ← draft.uniques.mapM (·.toUnique lexicon)
  return ⟨name, affixFilters, aspectUpgrades, sigils, tributes, uniques⟩

section Documents
variable {Tree : Type}

/-- The draft that a tree spells out. -/
def TreeReader.draft (reader : TreeReader Tree) (tree : Tree) : Except Fault ProfileDraft :=
  if reader.isNull tree then .error .empty
  else
    match reader.draft? tree with
    | some draft => .ok draft
    | none => .error .malformed

/-- The draft that a document spells out, given a parser. -/
def ProfileDraft.read (parse? : String → Option Tree) (reader : TreeReader Tree) (text : String) :
    Except Fault ProfileDraft :=
  match parse? text with
  | some tree => reader.draft tree
  | none => .error .malformed

/-- Loads a profile document, whichever way it is parsed. -/
def Profile.loadBy (parse? : String → Option Tree) (reader : TreeReader Tree) (lexicon : Lexicon)
    (name text : String) : Except ProfileError Profile :=
  let profile := do (← ProfileDraft.read parse? reader text).toProfile lexicon name
  profile.mapError fun fault => ⟨name, fault⟩

end Documents

namespace Profile

/-- The profile of a document that was parsed to a generic value. -/
def ofValue (lexicon : Lexicon) (name : String) (value : Yaml.Value) : Except Fault Profile := do
  (← TreeReader.generic.draft value).toProfile lexicon name

/-- Loads a profile document with the parser that the program runs. -/
def load (lexicon : Lexicon) (name text : String) : Except ProfileError Profile :=
  loadBy Yaml.Value.read? .generic lexicon name text

end Profile

/-- Loads named documents. One that has a fault is reported and left out. -/
def ProfileSet.load (lexicon : Lexicon) : List (String × String) → ProfileSet × List ProfileError
  | [] => ([], [])
  | (name, text) :: rest =>
    let (profiles, errors) := ProfileSet.load lexicon rest
    match Profile.load lexicon name text with
    | .ok profile => (profile :: profiles, errors)
    | .error error => (profiles, error :: errors)

end LootSieve
