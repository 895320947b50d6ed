import LootSieve.Profile.Validation
import LootSieve.Proofs.Fallible
import LootSieve.Proofs.Lexicon.Lookup
import LootSieve.Proofs.Profile.DraftCounts
import LootSieve.Proofs.Profile.SoundDraft

/-!
A profile document loads exactly if it is sound. Each check of a draft is compared with what a sound
draft looks like, from single requirements up to the whole profile; no check is missing and none
asks for more.
-/

namespace LootSieve
open Text Fallible

variable {lexicon : Lexicon}

theorem not_succeeds_invalid {α : Type} (flaw : Flaw) :
    ¬ Succeeds (invalid flaw : Except Fault α) :=
  not_succeeds_error _

/-- A check in front of further steps. -/
theorem succeeds_refuse_iff {α : Type} {refused : Prop} [Decidable refused]
    {refusal rest : Except Fault α} (fails : ¬ Succeeds refusal) :
    Succeeds (if refused then refusal else rest) ↔ ¬ refused ∧ Succeeds rest := by
  by_cases given : refused
  · rw [if_pos given]
    exact iff_of_false fails fun both => both.1 given
  · rw [if_neg given]
    exact (and_iff_right given).symm

/-! Names. -/

theorem comparisonWord?_eq_some_iff {word : String} {comparison : Comparison} :
    comparisonWord? word = some comparison ↔
      lower (trim word.toList) = comparison.name.toList := by
  unfold comparisonWord?
  dsimp only
  constructor
  · intro found
    have spelled := List.find?_some found
    exact (decide_eq_true_eq.mp spelled).symm
  · intro spelled
    rw [spelled]
    cases comparison <;> decide

theorem ofWord?_isSome_iff {word : List Char} :
    (Rarity.ofWord? word).isSome = true ↔
      ∃ rarity : Rarity, lower (trim word) = rarity.name.toList := by
  unfold Rarity.ofWord?
  simp only [List.find?_isSome, decide_eq_true_eq]
  constructor
  · rintro ⟨rarity, _, spelled⟩
    exact ⟨rarity, spelled.symm⟩
  · rintro ⟨rarity, spelled⟩
    exact ⟨rarity, rarity.mem_all, spelled.symm⟩

theorem resolveTribute?_isSome_iff {name : String} :
    (lexicon.resolveTribute? name).isSome = true ↔ lexicon.KnowsTribute name := by
  unfold Lexicon.resolveTribute? Lexicon.KnowsTribute
  simp only [← Table.contains_iff]
  split
  · next full => exact iff_of_true rfl (.inl full)
  · next notFull =>
    split
    · next known => exact iff_of_true rfl (.inr known)
    · next unknown => exact iff_of_false nofun (not_or.2 ⟨notFull, unknown⟩)

/-! Requirements. -/

theorem listName_eq_ok_iff {part? : Option ListPart} {name : String} :
    listName part? = .ok name ↔ part? = some (.text name) := by
  unfold listName
  split
  · next word =>
    constructor
    · intro read
      cases read
      rfl
    · intro same
      cases same
      rfl
  · next other =>
    constructor
    · exact nofun
    · intro same
      exact absurd same (other name)

theorem listValue_eq_ok_iff {name : String} {part? : Option ListPart} {value : Option Float} :
    listValue name part? = .ok value ↔
      part? = none ∧ value = none ∨
        ∃ number, part? = some (.number number) ∧ value = some number := by
  match part? with
  | none => simp [listValue, eq_comm]
  | some (.number number) => simp [listValue, eq_comm]
  | some (.text word) => simp [listValue, invalid]

theorem listComparison_eq_ok_iff {name : String} {part? : Option ListPart}
    {comparison : Comparison} :
    listComparison name part? = .ok comparison ↔
      part? = none ∧ comparison = .larger ∨
        ∃ word, part? = some (.text word) ∧ comparisonWord? word = some comparison := by
  match part? with
  | none => simp [listComparison, eq_comm]
  | some (.number number) => simp [listComparison, invalid]
  | some (.text word) =>
    unfold listComparison
    cases spelled : comparisonWord? word <;> simp [invalid, spelled]

theorem listMeans_of_requirementOfList {parts : List ListPart} {requirement : Requirement}
    (read : requirementOfList parts = .ok requirement) : ListMeans parts requirement := by
  unfold requirementOfList at read
  split at read
  · cases read
  · next fits =>
    obtain ⟨name, readName, read⟩ := bind_eq_ok_iff.1 read
    obtain ⟨value, readValue, read⟩ := bind_eq_ok_iff.1 read
    obtain ⟨comparison, readComparison, read⟩ := bind_eq_ok_iff.1 read
    cases read
    rw [listName_eq_ok_iff] at readName
    rw [listValue_eq_ok_iff] at readValue
    rw [listComparison_eq_ok_iff] at readComparison
    match parts with
    | [] => cases readName
    | [first] =>
      cases readName
      obtain ⟨_, rfl⟩ | ⟨_, absurd, _⟩ := readValue
      · obtain ⟨_, rfl⟩ | ⟨_, absurd, _⟩ := readComparison
        · exact .name name
        · cases absurd
      · cases absurd
    | [first, second] =>
      cases readName
      obtain ⟨absurd, _⟩ | ⟨number, same, rfl⟩ := readValue
      · cases absurd
      · cases same
        obtain ⟨_, rfl⟩ | ⟨_, absurd, _⟩ := readComparison
        · exact .value name number
        · cases absurd
    | [first, second, third] =>
      cases readName
      obtain ⟨absurd, _⟩ | ⟨number, same, rfl⟩ := readValue
      · cases absurd
      · cases same
        obtain ⟨absurd, _⟩ | ⟨word, same, spelled⟩ := readComparison
        · cases absurd
        · cases same
          exact .comparison name number (comparisonWord?_eq_some_iff.1 spelled)
    | first :: second :: third :: fourth :: rest => simp at fits

theorem requirementOfList_eq_ok_iff {parts : List ListPart} {requirement : Requirement} :
    requirementOfList parts = .ok requirement ↔ ListMeans parts requirement := by
  constructor
  · exact listMeans_of_requirementOfList
  · intro means
    cases means with
    | name | value => rfl
    | @comparison name value word comparison spelled =>
      have read : listComparison name (some (.text word)) = .ok comparison :=
        listComparison_eq_ok_iff.2 (.inr ⟨word, rfl, comparisonWord?_eq_some_iff.2 spelled⟩)
      exact bind_eq_ok_iff.2 ⟨name, rfl, bind_eq_ok_iff.2 ⟨some value, rfl,
        bind_eq_ok_iff.2 ⟨comparison, read, rfl⟩⟩⟩

namespace RequirementDraft

variable {draft : RequirementDraft}

theorem toRequirement_eq_ok_iff {requirement : Requirement} :
    draft.toRequirement = .ok requirement ↔ draft.Means requirement := by
  cases draft with
  | byName name =>
    constructor
    · intro read
      cases read
      exact .byName name
    · intro means
      cases means
      rfl
  | byList parts =>
    rw [toRequirement, requirementOfList_eq_ok_iff]
    constructor
    · exact .byList
    · intro means
      cases means with
      | byList listed => exact listed
  | inFull full =>
    constructor
    · intro read
      cases read
      exact .inFull _
    · intro means
      cases means
      rfl

theorem succeeds_toAffix_iff : Succeeds (draft.toAffix lexicon) ↔ draft.IsAffix lexicon := by
  unfold toAffix IsAffix
  simp only [succeeds_bind_iff, toRequirement_eq_ok_iff, ← Table.contains_iff]
  apply exists_congr
  intro requirement
  apply and_congr_right
  intro means
  split
  · next known => exact iff_of_true (succeeds_ok _) known
  · next unknown => exact iff_of_false (not_succeeds_error _) unknown

theorem succeeds_toAspect_iff : Succeeds (draft.toAspect lexicon) ↔ draft.IsAspect lexicon := by
  unfold toAspect IsAspect
  simp only [succeeds_bind_iff, toRequirement_eq_ok_iff, ← Lexicon.resolveUnique?_isSome_iff]
  apply exists_congr
  intro requirement
  apply and_congr_right
  intro means
  by_cases greater : requirement.greater = true
  · simp only [greater, if_true]
    exact iff_of_false (not_succeeds_invalid _) nofun
  · simp only [greater, Bool.false_eq_true, if_false, true_and]
    split
    · next known => exact iff_of_true (succeeds_ok _) (known ▸ rfl)
    · next unknown => exact iff_of_false (not_succeeds_error _) (unknown ▸ nofun)

end RequirementDraft

/-! Filters for gear. -/

/-- A missing bound never closes the window of counts. -/
theorem window_poolOf_iff {requirements : List Requirement} {minCount maxCount : Option Nat}
    (fits : ∀ low, minCount = some low → low ≤ Pool.unlimited) :
    ¬ (poolOf requirements minCount maxCount).maxCount <
        (poolOf requirements minCount maxCount).minCount ↔
      ∀ low high, minCount = some low → maxCount = some high → low ≤ high := by
  cases minCount with
  | none => cases maxCount <;> simp [poolOf, Pool.ofAll]
  | some low =>
    cases maxCount with
    | none => simp [poolOf, fits low rfl]
    | some high => simp [poolOf]

theorem succeeds_toPool_iff {filter : String} {draft : PoolDraft} (fits : draft.CountFits) :
    Succeeds (draft.toPool lexicon filter) ↔ draft.Sound lexicon := by
  have noGreaterCount : ¬ draft.minGreaterCount.any (0 < ·) = true ↔
      ∀ count, draft.minGreaterCount = some count → count = 0 := by
    cases draft.minGreaterCount <;> simp
  have nonempty : ¬ draft.count.isEmpty = true ↔ draft.count ≠ [] := by
    rw [List.isEmpty_iff]
  have known : Succeeds (draft.count.mapM (·.toAffix lexicon)) ↔
      ∀ requirement ∈ draft.count, requirement.IsAffix lexicon := by
    simp only [succeeds_mapM_iff, RequirementDraft.succeeds_toAffix_iff]
  unfold PoolDraft.toPool
  have window : ∀ requirements : List Requirement,
      let pool := poolOf requirements draft.minCount draft.maxCount
      Succeeds (if pool.maxCount < pool.minCount then
          invalid (.countWindow filter pool.minCount pool.maxCount)
        else pure pool : Except Fault Pool) ↔
      ∀ low high, draft.minCount = some low → draft.maxCount = some high → low ≤ high := by
    intro requirements pool
    rw [succeeds_refuse_iff (not_succeeds_invalid _), window_poolOf_iff fits]
    exact and_iff_left (succeeds_pure pool)
  rw [succeeds_refuse_iff (not_succeeds_error _), succeeds_refuse_iff (not_succeeds_invalid _),
    succeeds_bind_iff_and window, noGreaterCount, nonempty, known]
  constructor
  · rintro ⟨noGreaterCount, nonempty, known, window⟩
    exact ⟨nonempty, known, window, noGreaterCount⟩
  · rintro ⟨nonempty, known, window, noGreaterCount⟩
    exact ⟨noGreaterCount, nonempty, known, window⟩

theorem succeeds_toPools_iff {filter : String} {drafts : List PoolDraft}
    (fits : ∀ draft ∈ drafts, draft.CountFits) :
    Succeeds (drafts.mapM (·.toPool lexicon filter)) ↔ ∀ draft ∈ drafts, draft.Sound lexicon := by
  rw [succeeds_mapM_iff]
  exact forall₂_congr fun draft member => succeeds_toPool_iff (fits draft member)

theorem succeeds_toItemFilter_iff {name : String} {draft : ItemFilterDraft}
    (fits : draft.CountsFit) :
    Succeeds (draft.toItemFilter lexicon name) ↔ draft.Sound lexicon := by
  unfold ItemFilterDraft.toItemFilter
  rw [succeeds_refuse_iff (not_succeeds_invalid _), Nat.not_lt, succeeds_bind_iff_and fun _ =>
      succeeds_bind_iff_left fun _ => succeeds_pure _,
    succeeds_toPools_iff fits.affixPools, succeeds_toPools_iff fits.inherentPools]
  exact ⟨fun ⟨count, affix, inherent⟩ => ⟨count, affix, inherent⟩,
    fun ⟨count, affix, inherent⟩ => ⟨count, affix, inherent⟩⟩

/-! Sigils. -/

namespace SigilDraft

theorem entry_eq_ok_iff {draft : SigilDraft} {entry : SigilEntry} :
    draft.entry = .ok entry ↔ draft.Means entry := by
  constructor
  · intro read
    cases draft with
    | byName name =>
      cases read
      exact .byName name
    | byList names =>
      cases names with
      | nil => cases read
      | cons name conditions =>
        cases read
        exact .byList name conditions
    | inFull full =>
      cases read
      exact .inFull _
  · intro means
    cases means <;> rfl

theorem toEntry_eq_ok_iff {draft : SigilDraft} {entry : SigilEntry} :
    draft.toEntry lexicon = .ok entry ↔
      draft.Means entry ∧ ∀ name ∈ entry.name :: entry.conditions, name ∈ lexicon.sigils.keys := by
  unfold toEntry
  rw [bind_eq_ok_iff]
  simp only [entry_eq_ok_iff]
  constructor
  · rintro ⟨other, means, checked⟩
    split at checked
    · cases checked
    · next allKnown =>
      cases checked
      refine ⟨means, fun name member => ?_⟩
      have known := List.find?_eq_none.1 allKnown name member
      rw [Bool.not_eq_true, Bool.not_eq_false'] at known
      exact Table.contains_iff.1 known
  · rintro ⟨means, known⟩
    have allKnown : (entry.name :: entry.conditions).find? (!lexicon.sigils.contains ·) = none := by
      rw [List.find?_eq_none]
      intro name member
      rw [Table.contains_iff.2 (known name member)]
      exact Bool.false_ne_true
    refine ⟨entry, means, ?_⟩
    rw [allKnown]
    rfl

theorem succeeds_toEntry_iff {draft : SigilDraft} :
    Succeeds (draft.toEntry lexicon) ↔ draft.IsKnown lexicon :=
  exists_congr fun _ => toEntry_eq_ok_iff

theorem mem_entries_iff {drafts : List SigilDraft} {entries : List SigilEntry}
    (read : drafts.mapM (·.toEntry lexicon) = .ok entries) {entry : SigilEntry} :
    entry ∈ entries ↔ ∃ draft ∈ drafts, draft.Means entry := by
  rw [mem_of_mapM_eq_ok read]
  constructor
  · rintro ⟨draft, member, readOne⟩
    exact ⟨draft, member, (toEntry_eq_ok_iff.1 readOne).1⟩
  · rintro ⟨draft, member, means⟩
    obtain ⟨other, readOne⟩ := succeeds_mapM_iff.1 ⟨entries, read⟩ draft member
    have same : other = entry := by
      have otherMeans := entry_eq_ok_iff.2 (toEntry_eq_ok_iff.1 readOne).1
      exact Except.ok.inj (otherMeans.symm.trans (entry_eq_ok_iff.2 means))
    exact ⟨draft, member, same ▸ readOne⟩

end SigilDraft

theorem succeeds_toSigilFilter_iff {draft : SigilFilterDraft} :
    Succeeds (draft.toSigilFilter lexicon) ↔ draft.Sound lexicon := by
  have known : ∀ drafts : List SigilDraft, Succeeds (drafts.mapM (·.toEntry lexicon)) ↔
      ∀ entry ∈ drafts, entry.IsKnown lexicon := by
    intro drafts
    simp only [succeeds_mapM_iff, SigilDraft.succeeds_toEntry_iff]
  have overlapFree : ∀ black white : List SigilEntry,
      (black.filter white.contains).isEmpty = true ↔ ∀ entry ∈ black, entry ∉ white := by
    simp
  unfold SigilFilterDraft.toSigilFilter
  simp only [succeeds_bind_iff]
  constructor
  · rintro ⟨black, readBlack, white, readWhite, rest⟩
    refine ⟨(known _).1 ⟨black, readBlack⟩, (known _).1 ⟨white, readWhite⟩, ?_⟩
    intro left leftMember right rightMember entry leftMeans rightMeans
    split at rest
    · next empty =>
      apply (overlapFree black white).1 empty entry
      · exact (SigilDraft.mem_entries_iff readBlack).2 ⟨left, leftMember, leftMeans⟩
      · exact (SigilDraft.mem_entries_iff readWhite).2 ⟨right, rightMember, rightMeans⟩
    · exact absurd rest (not_succeeds_invalid _)
  · intro sound
    obtain ⟨black, readBlack⟩ := (known _).2 sound.blacklist
    obtain ⟨white, readWhite⟩ := (known _).2 sound.whitelist
    refine ⟨black, readBlack, white, readWhite, ?_⟩
    rw [if_pos]
    · exact succeeds_ok _
    · rw [overlapFree]
      intro entry inBlack inWhite
      obtain ⟨left, leftMember, leftMeans⟩ := (SigilDraft.mem_entries_iff readBlack).1 inBlack
      obtain ⟨right, rightMember, rightMeans⟩ := (SigilDraft.mem_entries_iff readWhite).1 inWhite
      exact sound.disjoint left leftMember right rightMember entry leftMeans rightMeans

/-! Tributes. -/

theorem succeeds_tributeName_iff {name : String} :
    Succeeds (tributeName lexicon name) ↔ lexicon.KnowsTribute name := by
  rw [← resolveTribute?_isSome_iff]
  unfold tributeName
  cases lexicon.resolveTribute? name with
  | none => exact iff_of_false (not_succeeds_error _) nofun
  | some id => exact iff_of_true (succeeds_ok _) rfl

theorem succeeds_toTribute_iff {draft : TributeDraft} :
    Succeeds (draft.toTribute lexicon) ↔ draft.Sound lexicon := by
  cases draft with
  | byWord word =>
    unfold TributeDraft.toTribute
    cases ranked : Rarity.ofWord? word.toList with
    | some rarity =>
      have isSome : (Rarity.ofWord? word.toList).isSome = true := by rw [ranked]; rfl
      obtain ⟨rarity, spelled⟩ := ofWord?_isSome_iff.1 isSome
      dsimp only
      rw [ranked]
      exact iff_of_true (succeeds_ok _) (.rarity rarity spelled)
    | none =>
      dsimp only
      rw [ranked]
      refine (succeeds_bind_iff_left fun _ => succeeds_pure _).trans ?_
      rw [succeeds_tributeName_iff]
      constructor
      · exact .tribute
      · intro sound
        cases sound with
        | rarity rarity spelled =>
          have isSome := ofWord?_isSome_iff.2 ⟨rarity, spelled⟩
          rw [ranked] at isSome
          cases isSome
        | tribute known => exact known
  | byRarities rarities =>
    unfold TributeDraft.toTribute
    rw [succeeds_refuse_iff (not_succeeds_invalid _), List.isEmpty_iff]
    constructor
    · exact fun ⟨nonempty, _⟩ => .rarities nonempty
    · intro sound
      cases sound with
      | rarities nonempty => exact ⟨nonempty, succeeds_ok _⟩
  | inFull name rarities =>
    have accepts : Succeeds ((TributeDraft.inFull name rarities).toTribute lexicon) ↔
        ∀ word, name = some word → word ≠ "" → lexicon.KnowsTribute word := by
      unfold TributeDraft.toTribute
      dsimp only
      split
      · next word given =>
        obtain ⟨rfl, nonempty⟩ := Option.filter_eq_some_iff.1 given
        refine (succeeds_bind_iff_left fun _ => succeeds_pure _).trans ?_
        rw [succeeds_tributeName_iff]
        constructor
        · rintro known _ ⟨⟩ _
          exact known
        · intro known
          exact known word rfl (by simpa using nonempty)
      · next absent =>
        refine iff_of_true (succeeds_ok _) ?_
        rintro word rfl nonempty
        simp [nonempty] at absent
    rw [accepts]
    constructor
    · exact .inFull
    · intro sound
      cases sound with
      | inFull known => exact known

/-! Uniques and whole profiles. -/

theorem succeeds_toUnique_iff {draft : UniqueDraft} :
    Succeeds (draft.toUnique lexicon) ↔ draft.Sound lexicon := by
  unfold UniqueDraft.toUnique
  rw [succeeds_refuse_iff (not_succeeds_invalid _), Nat.not_lt, succeeds_bind_iff_and fun _ =>
      succeeds_bind_iff_left fun _ => succeeds_pure _,
    succeeds_optionMapM_iff, succeeds_mapM_iff]
  simp only [RequirementDraft.succeeds_toAspect_iff, RequirementDraft.succeeds_toAffix_iff]
  exact ⟨fun ⟨percent, aspect, affixes⟩ => ⟨percent, aspect, affixes⟩,
    fun ⟨percent, aspect, affixes⟩ => ⟨percent, aspect, affixes⟩⟩

theorem succeeds_knownAspect_iff {name : String} :
    Succeeds (knownAspect lexicon name) ↔ name ∈ lexicon.aspects.keys := by
  rw [← Table.contains_iff]
  unfold knownAspect
  split
  · next known => exact iff_of_true (succeeds_ok _) known
  · next unknown => exact iff_of_false (not_succeeds_error _) unknown

theorem succeeds_toProfile_iff {name : String} {draft : ProfileDraft} (fits : draft.CountsFit) :
    Succeeds (draft.toProfile lexicon name) ↔ draft.Sound lexicon := by
  have affixes : (∀ filter ∈ draft.affixes.flatten,
      Succeeds (filter.2.toItemFilter lexicon filter.1)) ↔
      ∀ group ∈ draft.affixes, ∀ filter ∈ group, filter.2.Sound lexicon := by
    rw [List.forall_mem_flatten]
    exact forall₂_congr fun group inDraft => forall₂_congr fun filter inGroup =>
      succeeds_toItemFilter_iff (fits group inDraft filter inGroup)
  unfold ProfileDraft.toProfile
  rw [succeeds_bind_iff_and fun _ => succeeds_bind_iff_and fun _ => succeeds_bind_iff_and fun _ =>
      succeeds_bind_iff_and fun _ => succeeds_bind_iff_left fun _ => succeeds_pure _,
    succeeds_mapM_iff, succeeds_mapM_iff, succeeds_optionMapM_iff, succeeds_mapM_iff,
    succeeds_mapM_iff]
  simp only [succeeds_knownAspect_iff, succeeds_toSigilFilter_iff, succeeds_toTribute_iff,
    succeeds_toUnique_iff]
  constructor
  · rintro ⟨filters, aspects, sigils, tributes, uniques⟩
    exact ⟨affixes.1 filters, aspects, sigils, tributes, uniques⟩
  · rintro ⟨filters, aspects, sigils, tributes, uniques⟩
    exact ⟨affixes.2 filters, aspects, sigils, tributes, uniques⟩

/-! Documents. -/

section Documents
variable {Tree : Type} {parse? : String → Option Tree} {reader : TreeReader Tree} {text : String}

theorem TreeReader.draft_eq_ok_iff {tree : Tree} {draft : ProfileDraft} :
    reader.draft tree = .ok draft ↔
      reader.isNull tree = false ∧ reader.draft? tree = some draft := by
  unfold TreeReader.draft
  cases null : reader.isNull tree with
  | true => simp
  | false => cases shaped : reader.draft? tree <;> simp

theorem ProfileDraft.read_eq_ok_iff {draft : ProfileDraft} :
    ProfileDraft.read parse? reader text = .ok draft ↔
      ∃ tree, parse? text = some tree ∧ reader.isNull tree = false ∧
        reader.draft? tree = some draft := by
  unfold ProfileDraft.read
  cases parsed : parse? text with
  | none => simp
  | some tree => simp [TreeReader.draft_eq_ok_iff]

end Documents

namespace Profile

theorem isNull_eq_false_iff {value : Yaml.Value} : value.isNull = false ↔ value ≠ .null := by
  cases value <;> simp [Yaml.Value.isNull]

/-- What stands between a document and its profile is the soundness of its draft alone. -/
theorem succeeds_bind_toProfile_iff {name : String} {source : Except Fault ProfileDraft}
    (fits : ∀ draft, source = .ok draft → draft.CountsFit) :
    Succeeds (source >>= (·.toProfile lexicon name)) ↔
      ∃ draft, source = .ok draft ∧ draft.Sound lexicon := by
  rw [succeeds_bind_iff]
  apply exists_congr
  intro draft
  apply and_congr_right
  intro read
  exact succeeds_toProfile_iff (fits draft read)

theorem succeeds_ofValue_iff {name : String} {value : Yaml.Value} :
    Succeeds (ofValue lexicon name value) ↔
      value ≠ .null ∧ ∃ draft, Draft.profile? value = some draft ∧ draft.Sound lexicon := by
  have fits : ∀ draft, TreeReader.generic.draft value = .ok draft → draft.CountsFit :=
    fun draft read =>
      TreeReader.countsFit_generic value draft (TreeReader.draft_eq_ok_iff.1 read).2
  unfold ofValue
  rw [succeeds_bind_toProfile_iff fits]
  simp only [TreeReader.draft_eq_ok_iff, ← isNull_eq_false_iff, and_assoc, exists_and_left]
  rfl

/-- A document loads exactly if it can be parsed, is not null, has the shape of a profile and is
sound. Neither how it is parsed matters nor the name that it is loaded under. Of a generic value the
shape is the one that its draft is read by. -/
theorem load_succeeds_iff {Tree : Type} (parse? : String → Option Tree) (reader : TreeReader Tree)
    (fits : reader.CountsFit) (lexicon : Lexicon) (name text : String) :
    ((∃ profile, loadBy parse? reader lexicon name text = .ok profile) ↔
      ∃ tree draft, parse? text = some tree ∧ reader.isNull tree = false ∧
        reader.draft? tree = some draft ∧ draft.Sound lexicon) ∧
    ∀ value, (∃ profile, ofValue lexicon name value = .ok profile) ↔
      value ≠ .null ∧ ∃ draft, Draft.profile? value = some draft ∧ draft.Sound lexicon := by
  refine ⟨?_, fun value => succeeds_ofValue_iff⟩
  have readFits : ∀ draft, ProfileDraft.read parse? reader text = .ok draft → draft.CountsFit := by
    intro draft read
    obtain ⟨tree, _, _, shaped⟩ := ProfileDraft.read_eq_ok_iff.1 read
    exact fits tree draft shaped
  change Succeeds _ ↔ _
  unfold loadBy
  rw [succeeds_mapError_iff, succeeds_bind_toProfile_iff readFits]
  constructor
  · rintro ⟨draft, read, sound⟩
    obtain ⟨tree, parsed, notNull, shaped⟩ := ProfileDraft.read_eq_ok_iff.1 read
    exact ⟨tree, draft, parsed, notNull, shaped, sound⟩
  · rintro ⟨tree, draft, parsed, notNull, shaped, sound⟩
    exact ⟨draft, ProfileDraft.read_eq_ok_iff.2 ⟨tree, parsed, notNull, shaped⟩, sound⟩

/-! A document whose one entry has to be known. -/

def upgradesDocument : String := "AspectUpgrades: [of_disobedience]\n"

theorem upgrades_load_if_known :
    (∃ profile, load (Lexicon.empty.addAspects ["of_disobedience"]) "barbarian" upgradesDocument =
      .ok profile) ∧
    ¬ ∃ profile, load .empty "barbarian" upgradesDocument = .ok profile := by
  have shown : (ProfileDraft.read Yaml.Value.read? .generic upgradesDocument).toOption.any
      (fun draft => draft.affixes.isEmpty && draft.aspectUpgrades = ["of_disobedience"] &&
        draft.sigils.isNone && draft.tributes.isEmpty && draft.uniques.isEmpty) = true := by
    decide +kernel
  have loads := fun lexicon => (load_succeeds_iff Yaml.Value.read? .generic
    TreeReader.countsFit_generic lexicon "barbarian" upgradesDocument).1
  cases read : ProfileDraft.read Yaml.Value.read? .generic upgradesDocument with
  | error fault =>
    rw [read] at shown
    cases shown
  | ok draft =>
    rw [read] at shown
    obtain ⟨affixes, aspectUpgrades, sigils, tributes, uniques⟩ := draft
    simp only [Except.toOption, Option.any_some, Bool.and_eq_true, List.isEmpty_iff,
      decide_eq_true_eq, Option.isNone_iff_eq_none] at shown
    obtain ⟨⟨⟨⟨rfl, rfl⟩, rfl⟩, rfl⟩, rfl⟩ := shown
    obtain ⟨value, parsed, notNull, shaped⟩ := ProfileDraft.read_eq_ok_iff.1 read
    constructor
    · refine (loads _).2 ⟨value, _, parsed, notNull, shaped, ?_⟩
      exact ⟨nofun, by decide, nofun, nofun, nofun⟩
    · intro known
      obtain ⟨other, draft, otherParsed, _, otherShaped, sound⟩ := (loads .empty).1 known
      cases parsed.symm.trans otherParsed
      cases shaped.symm.trans otherShaped
      exact absurd (sound.aspectUpgrades "of_disobedience" List.mem_cons_self) (by decide)

end Profile

end LootSieve
