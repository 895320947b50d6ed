import LootSieve.Profile.Validation
import LootSieve.Proofs.Fallible

/-!
The long form of a draft. A requirement, a sigil or a tribute that is written short stands for one
written in full. A draft whose entries are all written out gives the same profile, or is refused
for the same fault, as the draft itself.
-/

namespace LootSieve
open Fallible

/-! Entries. -/

namespace RequirementDraft

/-- A list that makes no sense stands for nothing else. -/
def longForm (draft : RequirementDraft) : RequirementDraft :=
  match draft.toRequirement with
  | .ok requirement => .inFull requirement
  | .error _ => draft

theorem longForm_eq_inFull {draft : RequirementDraft} {requirement : Requirement}
    (means : draft.toRequirement = .ok requirement) : draft.longForm = .inFull requirement := by
  unfold longForm
  rw [means]

theorem toRequirement_longForm (draft : RequirementDraft) :
    draft.longForm.toRequirement = draft.toRequirement := by
  unfold longForm
  split
  · next requirement means => exact means.symm
  · rfl

theorem toAffix_longForm (lexicon : Lexicon) (draft : RequirementDraft) :
    draft.longForm.toAffix lexicon = draft.toAffix lexicon := by
  unfold toAffix
  rw [toRequirement_longForm]

theorem toAspect_longForm (lexicon : Lexicon) (draft : RequirementDraft) :
    draft.longForm.toAspect lexicon = draft.toAspect lexicon := by
  unfold toAspect
  rw [toRequirement_longForm]

end RequirementDraft

namespace SigilDraft

/-- An empty list stands for nothing else. -/
def longForm (draft : SigilDraft) : SigilDraft :=
  match draft.entry with
  | .ok entry => .inFull entry
  | .error _ => draft

theorem longForm_eq_inFull {draft : SigilDraft} {entry : SigilEntry}
    (means : draft.entry = .ok entry) : draft.longForm = .inFull entry := by
  unfold longForm
  rw [means]

theorem entry_longForm (draft : SigilDraft) : draft.longForm.entry = draft.entry := by
  unfold longForm
  split
  · next entry means => exact means.symm
  · rfl

theorem toEntry_longForm (lexicon : Lexicon) (draft : SigilDraft) :
    draft.longForm.toEntry lexicon = draft.toEntry lexicon := by
  unfold toEntry
  rw [entry_longForm]

end SigilDraft

namespace TributeDraft

/-- The empty word is looked up as a name, while an empty name in full is no name; and no list of
rarities is refused, while no rarities in full admit any. -/
def longForm : TributeDraft → TributeDraft
  | byWord word =>
    match Rarity.ofWord? word.toList with
    | some rarity => .inFull none [rarity]
    | none => if word.isEmpty then .byWord word else .inFull (some word) []
  | byRarities rarities =>
    if rarities.isEmpty then .byRarities rarities else .inFull none rarities
  | inFull name rarities => .inFull name rarities

theorem toTribute_longForm (lexicon : Lexicon) (draft : TributeDraft) :
    draft.longForm.toTribute lexicon = draft.toTribute lexicon := by
  cases draft with
  | byWord word =>
    cases named : Rarity.ofWord? word.toList with
    | some rarity => simp [longForm, toTribute, named]
    | none =>
      by_cases blank : word.isEmpty = true
      · simp only [longForm, named, if_pos blank]
      · simp [longForm, toTribute, named, blank, Option.filter]
  | byRarities rarities =>
    by_cases none : rarities.isEmpty = true
    · simp only [longForm, if_pos none]
    · simp [longForm, toTribute, none]
  | inFull name rarities => rfl

end TributeDraft

/-! Filters. -/

def PoolDraft.longForm (draft : PoolDraft) : PoolDraft :=
  { draft with count := draft.count.map (·.longForm) }

theorem PoolDraft.toPool_longForm (lexicon : Lexicon) (filter : String) (draft : PoolDraft) :
    draft.longForm.toPool lexicon filter = draft.toPool lexicon filter := by
  unfold toPool longForm
  rw [mapM_map_of_same (RequirementDraft.toAffix_longForm lexicon), List.isEmpty_map]

def ItemFilterDraft.longForm (draft : ItemFilterDraft) : ItemFilterDraft :=
  { draft with
    affixPools := draft.affixPools.map (·.longForm)
    inherentPools := draft.inherentPools.map (·.longForm) }

theorem ItemFilterDraft.toItemFilter_longForm (lexicon : Lexicon) (name : String)
    (draft : ItemFilterDraft) :
    draft.longForm.toItemFilter lexicon name = draft.toItemFilter lexicon name := by
  unfold toItemFilter longForm
  rw [mapM_map_of_same (PoolDraft.toPool_longForm lexicon name),
    mapM_map_of_same (PoolDraft.toPool_longForm lexicon name)]

def SigilFilterDraft.longForm (draft : SigilFilterDraft) : SigilFilterDraft :=
  { draft with
    blacklist := draft.blacklist.map (·.longForm)
    whitelist := draft.whitelist.map (·.longForm) }

theorem SigilFilterDraft.toSigilFilter_longForm (lexicon : Lexicon) (draft : SigilFilterDraft) :
    draft.longForm.toSigilFilter lexicon = draft.toSigilFilter lexicon := by
  unfold toSigilFilter longForm
  rw [mapM_map_of_same (SigilDraft.toEntry_longForm lexicon),
    mapM_map_of_same (SigilDraft.toEntry_longForm lexicon)]

def UniqueDraft.longForm (draft : UniqueDraft) : UniqueDraft :=
  { draft with
    aspect := draft.aspect.map (·.longForm)
    affixes := draft.affixes.map (·.longForm) }

theorem UniqueDraft.toUnique_longForm (lexicon : Lexicon) (draft : UniqueDraft) :
    draft.longForm.toUnique lexicon = draft.toUnique lexicon := by
  unfold toUnique longForm
  rw [optionMapM_map_of_same (RequirementDraft.toAspect_longForm lexicon),
    mapM_map_of_same (RequirementDraft.toAffix_longForm lexicon)]

/-! Profiles. -/

/-- A named filter with its entries written out. -/
def ItemFilterDraft.namedLongForm (named : String × ItemFilterDraft) : String × ItemFilterDraft :=
  (named.1, named.2.longForm)

def ProfileDraft.longForm (draft : ProfileDraft) : ProfileDraft where
  affixes := draft.affixes.map (·.map ItemFilterDraft.namedLongForm)
  aspectUpgrades := draft.aspectUpgrades
  sigils := draft.sigils.map (·.longForm)
  tributes := draft.tributes.map (·.longForm)
  uniques := draft.uniques.map (·.longForm)

/-- A draft means what its long form does. -/
theorem ProfileDraft.toProfile_longForm (lexicon : Lexicon) (name : String)
    (draft : ProfileDraft) :
    draft.longForm.toProfile lexicon name = draft.toProfile lexicon name := by
  unfold toProfile longForm
  rw [← List.map_flatten,
    mapM_map_of_same fun named => named.2.toItemFilter_longForm lexicon named.1,
    optionMapM_map_of_same (SigilFilterDraft.toSigilFilter_longForm lexicon),
    mapM_map_of_same (TributeDraft.toTribute_longForm lexicon),
    mapM_map_of_same (UniqueDraft.toUnique_longForm lexicon)]

end LootSieve
