import LootSieve.Profile.Validation
import LootSieve.Proofs.Fallible

/-!
Faults of profile documents. A document can be wrong as such, by being no document, an empty one or
one with a part of the wrong type; or its parts can say what makes no sense or name what is unknown.
No check of a draft finds a fault of the first kind, so these are settled by the text alone.
-/

namespace LootSieve
open Fallible

/-- The document is at fault as such, whatever names exist. -/
def Fault.isOfShape : Fault → Bool
  | .malformed | .empty => true
  | .unknownName _ _ | .invalid _ | .poolGreaterCount _ => false

/-- The step fails on what a document says, if at all. -/
abbrev FailsOnContent {α : Type} (step : Except Fault α) : Prop :=
  FailsOnlyWith (fun fault => fault.isOfShape = false) step

theorem failsOnContent_invalid {α : Type} (flaw : Flaw) :
    FailsOnContent (invalid flaw : Except Fault α) :=
  failsOnlyWith_error rfl

theorem failsOnContent_listName (part? : Option ListPart) : FailsOnContent (listName part?) := by
  unfold listName
  split
  · exact failsOnlyWith_ok _
  · exact failsOnContent_invalid _

theorem failsOnContent_listValue (name : String) (part? : Option ListPart) :
    FailsOnContent (listValue name part?) := by
  unfold listValue
  split
  · exact failsOnlyWith_ok _
  · exact failsOnContent_invalid _
  · exact failsOnlyWith_ok _

theorem failsOnContent_listComparison (name : String) (part? : Option ListPart) :
    FailsOnContent (listComparison name part?) := by
  unfold listComparison
  split
  · split
    · exact failsOnlyWith_ok _
    · exact failsOnContent_invalid _
  · exact failsOnContent_invalid _
  · exact failsOnlyWith_ok _

theorem RequirementDraft.failsOnContent_toRequirement (draft : RequirementDraft) :
    FailsOnContent draft.toRequirement := by
  cases draft with
  | byName name => exact failsOnlyWith_ok _
  | inFull requirement => exact failsOnlyWith_ok _
  | byList parts =>
    change FailsOnContent (requirementOfList parts)
    unfold requirementOfList
    split
    · exact failsOnContent_invalid _
    · refine (failsOnContent_listName _).bind fun name => ?_
      refine (failsOnContent_listValue name _).bind fun _ => ?_
      exact (failsOnContent_listComparison name _).bind fun _ => failsOnlyWith_ok _

section
variable (lexicon : Lexicon)

theorem RequirementDraft.failsOnContent_toAffix (draft : RequirementDraft) :
    FailsOnContent (draft.toAffix lexicon) := by
  refine draft.failsOnContent_toRequirement.bind fun _ => ?_
  split
  · exact failsOnlyWith_ok _
  · exact failsOnlyWith_error rfl

theorem PoolDraft.failsOnContent_toPool (filter : String) (draft : PoolDraft) :
    FailsOnContent (draft.toPool lexicon filter) := by
  unfold toPool
  split
  · exact failsOnlyWith_error rfl
  · split
    · exact failsOnContent_invalid _
    · refine (failsOnlyWith_mapM
        (RequirementDraft.failsOnContent_toAffix lexicon) _).bind fun _ => ?_
      dsimp only
      split
      · exact failsOnContent_invalid _
      · exact failsOnlyWith_ok _

theorem ItemFilterDraft.failsOnContent_toItemFilter (name : String) (draft : ItemFilterDraft) :
    FailsOnContent (draft.toItemFilter lexicon name) := by
  unfold toItemFilter
  split
  · exact failsOnContent_invalid _
  · refine (failsOnlyWith_mapM (PoolDraft.failsOnContent_toPool lexicon name) _).bind fun _ => ?_
    refine (failsOnlyWith_mapM (PoolDraft.failsOnContent_toPool lexicon name) _).bind fun _ => ?_
    exact failsOnlyWith_ok _

theorem failsOnContent_knownAspect (name : String) : FailsOnContent (knownAspect lexicon name) := by
  unfold knownAspect
  split
  · exact failsOnlyWith_ok _
  · exact failsOnlyWith_error rfl

theorem SigilDraft.failsOnContent_entry (draft : SigilDraft) : FailsOnContent draft.entry := by
  unfold entry
  split
  · exact failsOnlyWith_ok _
  · exact failsOnContent_invalid _
  · exact failsOnlyWith_ok _
  · exact failsOnlyWith_ok _

theorem SigilDraft.failsOnContent_toEntry (draft : SigilDraft) :
    FailsOnContent (draft.toEntry lexicon) := by
  refine draft.failsOnContent_entry.bind fun _ => ?_
  split
  · exact failsOnlyWith_error rfl
  · exact failsOnlyWith_ok _

theorem SigilFilterDraft.failsOnContent_toSigilFilter (draft : SigilFilterDraft) :
    FailsOnContent (draft.toSigilFilter lexicon) := by
  unfold toSigilFilter
  refine (failsOnlyWith_mapM (SigilDraft.failsOnContent_toEntry lexicon) _).bind fun _ => ?_
  refine (failsOnlyWith_mapM (SigilDraft.failsOnContent_toEntry lexicon) _).bind fun _ => ?_
  dsimp only
  split
  · exact failsOnlyWith_ok _
  · exact failsOnContent_invalid _

theorem failsOnContent_tributeName (name : String) : FailsOnContent (tributeName lexicon name) := by
  unfold tributeName
  split
  · exact failsOnlyWith_ok _
  · exact failsOnlyWith_error rfl

theorem TributeDraft.failsOnContent_toTribute (draft : TributeDraft) :
    FailsOnContent (draft.toTribute lexicon) := by
  cases draft with
  | byWord word =>
    simp only [toTribute]
    split
    · exact failsOnlyWith_ok _
    · exact (failsOnContent_tributeName lexicon word).bind fun _ => failsOnlyWith_ok _
  | byRarities rarities =>
    simp only [toTribute]
    split
    · exact failsOnContent_invalid _
    · exact failsOnlyWith_ok _
  | inFull name rarities =>
    simp only [toTribute]
    split
    · exact (failsOnContent_tributeName lexicon _).bind fun _ => failsOnlyWith_ok _
    · exact failsOnlyWith_ok _

theorem RequirementDraft.failsOnContent_toAspect (draft : RequirementDraft) :
    FailsOnContent (draft.toAspect lexicon) := by
  refine draft.failsOnContent_toRequirement.bind fun _ => ?_
  split
  · exact failsOnContent_invalid _
  · dsimp only
    split
    · exact failsOnlyWith_ok _
    · exact failsOnlyWith_error rfl

theorem UniqueDraft.failsOnContent_toUnique (draft : UniqueDraft) :
    FailsOnContent (draft.toUnique lexicon) := by
  unfold toUnique
  split
  · exact failsOnContent_invalid _
  · refine (failsOnlyWith_optionMapM
      (RequirementDraft.failsOnContent_toAspect lexicon) _).bind fun _ => ?_
    refine (failsOnlyWith_mapM (RequirementDraft.failsOnContent_toAffix lexicon) _).bind fun _ => ?_
    exact failsOnlyWith_ok _

theorem ProfileDraft.failsOnContent_toProfile (name : String) (draft : ProfileDraft) :
    FailsOnContent (draft.toProfile lexicon name) := by
  unfold toProfile
  refine (failsOnlyWith_mapM (fun _ => ItemFilterDraft.failsOnContent_toItemFilter lexicon _ _)
    _).bind fun _ => ?_
  refine (failsOnlyWith_mapM (failsOnContent_knownAspect lexicon) _).bind fun _ => ?_
  refine (failsOnlyWith_optionMapM
    (SigilFilterDraft.failsOnContent_toSigilFilter lexicon) _).bind fun _ => ?_
  refine (failsOnlyWith_mapM (TributeDraft.failsOnContent_toTribute lexicon) _).bind fun _ => ?_
  refine (failsOnlyWith_mapM (UniqueDraft.failsOnContent_toUnique lexicon) _).bind fun _ => ?_
  exact failsOnlyWith_ok _

end

/-! Documents. -/

namespace Profile
variable {Tree : Type} {parse? : String → Option Tree} {reader : TreeReader Tree}
  {lexicon : Lexicon} {name text : String}

theorem loadBy_eq_ok_iff {profile : Profile} :
    loadBy parse? reader lexicon name text = .ok profile ↔
      (ProfileDraft.read parse? reader text >>= (·.toProfile lexicon name)) = .ok profile :=
  mapError_eq_ok_iff

theorem loadBy_eq_error_iff {fault : Fault} :
    loadBy parse? reader lexicon name text = .error ⟨name, fault⟩ ↔
      (ProfileDraft.read parse? reader text >>= (·.toProfile lexicon name)) = .error fault :=
  mapError_eq_error_iff fun _ _ same => (ProfileError.mk.inj same).2

/-- Whether a document is at fault as such is settled before any name is looked up. -/
theorem loadBy_eq_shapeFault_iff {fault : Fault} (ofShape : fault.isOfShape = true) :
    loadBy parse? reader lexicon name text = .error ⟨name, fault⟩ ↔
      ProfileDraft.read parse? reader text = .error fault := by
  rw [loadBy_eq_error_iff, bind_eq_error_iff]
  refine or_iff_left ?_
  rintro ⟨draft, _, fails⟩
  have ofContent : fault.isOfShape = false :=
    draft.failsOnContent_toProfile lexicon name fault fails
  rw [ofShape] at ofContent
  cases ofContent

end Profile

end LootSieve
