import LootSieve.Lexicon.Basic
import LootSieve.Profile.Draft
import LootSieve.Profile.Fault

/-! What a sound profile looks like. The predicates follow the form of a draft and say of each part
what its author has to respect. Nothing of how a profile is checked enters here: neither the order
of the checks nor the faults that they report. -/

namespace LootSieve
open Text

/-! Requirements. -/

/-- The lists that an affix may be written as, with what they stand for. -/
inductive ListMeans : List ListPart → Requirement → Prop
  | name (name : String) : ListMeans [.text name] ⟨name, none, .larger, false⟩
  | value (name : String) (value : Float) :
    ListMeans [.text name, .number value] ⟨name, some value, .larger, false⟩
  | comparison (name : String) (value : Float) {word : String} {comparison : Comparison}
    (spelled : lower (trim word.toList) = comparison.name.toList) :
    ListMeans [.text name, .number value, .text word] ⟨name, some value, comparison, false⟩

namespace RequirementDraft

inductive Means : RequirementDraft → Requirement → Prop
  | byName (name : String) : Means (.byName name) ⟨name, none, .larger, false⟩
  | byList {parts : List ListPart} {requirement : Requirement}
    (listed : ListMeans parts requirement) : Means (.byList parts) requirement
  | inFull (requirement : Requirement) : Means (.inFull requirement) requirement

/-- The draft asks for an affix that the lexicon knows. -/
def IsAffix (lexicon : Lexicon) (draft : RequirementDraft) : Prop :=
  ∃ requirement, draft.Means requirement ∧ requirement.name ∈ lexicon.affixes.keys

/-- The draft asks for the aspect of a unique that the lexicon knows by this title, underscores
aside, and not for a greater affix. -/
def IsAspect (lexicon : Lexicon) (draft : RequirementDraft) : Prop :=
  ∃ requirement, draft.Means requirement ∧ requirement.greater = false ∧
    ∃ id ∈ lexicon.uniques.keys, Lexicon.withoutUnderscores id =
      Lexicon.withoutUnderscores (String.ofList (Naming.ofTitle requirement.name.toList))

end RequirementDraft

/-! Filters for gear. -/

structure PoolDraft.Sound (lexicon : Lexicon) (draft : PoolDraft) : Prop where
  nonempty : draft.count ≠ []
  known : ∀ requirement ∈ draft.count, requirement.IsAffix lexicon
  window : ∀ low high, draft.minCount = some low → draft.maxCount = some high → low ≤ high
  noGreaterCount : ∀ count, draft.minGreaterCount = some count → count = 0

structure ItemFilterDraft.Sound (lexicon : Lexicon) (draft : ItemFilterDraft) : Prop where
  greaterCount : draft.minGreaterCount ≤ maxGreaterCount
  affixPools : ∀ pool ∈ draft.affixPools, pool.Sound lexicon
  inherentPools : ∀ pool ∈ draft.inherentPools, pool.Sound lexicon

/-! Sigils. -/

namespace SigilDraft

inductive Means : SigilDraft → SigilEntry → Prop
  | byName (name : String) : Means (.byName name) ⟨name, []⟩
  | byList (name : String) (conditions : List String) :
    Means (.byList (name :: conditions)) ⟨name, conditions⟩
  | inFull (entry : SigilEntry) : Means (.inFull entry) entry

def IsKnown (lexicon : Lexicon) (draft : SigilDraft) : Prop :=
  ∃ entry, draft.Means entry ∧ ∀ name ∈ entry.name :: entry.conditions, name ∈ lexicon.sigils.keys

end SigilDraft

structure SigilFilterDraft.Sound (lexicon : Lexicon) (draft : SigilFilterDraft) : Prop where
  blacklist : ∀ entry ∈ draft.blacklist, entry.IsKnown lexicon
  whitelist : ∀ entry ∈ draft.whitelist, entry.IsKnown lexicon
  disjoint : ∀ black ∈ draft.blacklist, ∀ white ∈ draft.whitelist, ∀ entry,
    black.Means entry → ¬ white.Means entry

/-! Tributes. -/

/-- The lexicon knows a tribute by this name or by this end of a name. -/
def Lexicon.KnowsTribute (lexicon : Lexicon) (name : String) : Prop :=
  "tribute_of_" ++ name ∈ lexicon.tributes.keys ∨ name ∈ lexicon.tributes.keys

inductive TributeDraft.Sound (lexicon : Lexicon) : TributeDraft → Prop
  | rarity {word : String} (rarity : Rarity)
    (spelled : lower (trim word.toList) = rarity.name.toList) : Sound lexicon (.byWord word)
  | tribute {word : String} (known : lexicon.KnowsTribute word) : Sound lexicon (.byWord word)
  | rarities {rarities : List Rarity} (nonempty : rarities ≠ []) :
    Sound lexicon (.byRarities rarities)
  | inFull {name : Option String} {rarities : List Rarity}
    (known : ∀ word, name = some word → word ≠ "" → lexicon.KnowsTribute word) :
    Sound lexicon (.inFull name rarities)

/-! Uniques and whole profiles. -/

structure UniqueDraft.Sound (lexicon : Lexicon) (draft : UniqueDraft) : Prop where
  percent : draft.minPercent ≤ maxAspectPercent
  aspect : ∀ aspect, draft.aspect = some aspect → aspect.IsAspect lexicon
  affixes : ∀ affix ∈ draft.affixes, affix.IsAffix lexicon

structure ProfileDraft.Sound (lexicon : Lexicon) (draft : ProfileDraft) : Prop where
  affixes : ∀ group ∈ draft.affixes, ∀ filter ∈ group, filter.2.Sound lexicon
  aspectUpgrades : ∀ aspect ∈ draft.aspectUpgrades, aspect ∈ lexicon.aspects.keys
  sigils : ∀ filter, draft.sigils = some filter → filter.Sound lexicon
  tributes : ∀ tribute ∈ draft.tributes, tribute.Sound lexicon
  uniques : ∀ unique ∈ draft.uniques, unique.Sound lexicon

end LootSieve
