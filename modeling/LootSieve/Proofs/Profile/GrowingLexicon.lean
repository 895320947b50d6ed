import LootSieve.Proofs.Profile.Acceptance
import LootSieve.Proofs.Profile.ContentFaults

/-!
Profiles under a lexicon that grows. Every check of a draft asks whether a lexicon knows some names,
so what passes with one lexicon passes with each that knows more, and all parts come out the same
but the ids that the aspects of uniques and the names of tributes resolve to. Whether a text is a
document of the right shape is settled before any name is looked up.
-/

namespace LootSieve
open Fallible

/-- The ids of each table are among those of the same table in the other lexicon. -/
structure Lexicon.Within (lexicon more : Lexicon) : Prop where
  affixes : lexicon.affixes.keys ⊆ more.affixes.keys
  uniques : lexicon.uniques.keys ⊆ more.uniques.keys
  aspects : lexicon.aspects.keys ⊆ more.aspects.keys
  sigils : lexicon.sigils.keys ⊆ more.sigils.keys
  tributes : lexicon.tributes.keys ⊆ more.tributes.keys

/-! Profiles that differ in resolved ids only. -/

/-- Two ids for one word, each in its lexicon. -/
def SameWord (resolve? resolveMore? : String → Option String) (id other : String) : Prop :=
  ∃ word, resolve? word = some id ∧ resolveMore? word = some other

section SameButIds
variable (lexicon more : Lexicon)

def AspectRequirement.SameButIds (aspect other : AspectRequirement) : Prop :=
  SameWord lexicon.resolveUnique? more.resolveUnique? aspect.name other.name ∧
    other = { aspect with name := other.name }

def TributeFilter.SameButIds (filter other : TributeFilter) : Prop :=
  Option.Rel (SameWord lexicon.resolveTribute? more.resolveTribute?) filter.name other.name ∧
    other = { filter with name := other.name }

def UniqueFilter.SameButIds (filter other : UniqueFilter) : Prop :=
  Option.Rel (AspectRequirement.SameButIds lexicon more) filter.aspect other.aspect ∧
    other = { filter with aspect := other.aspect }

/-- The profiles agree in all but the ids in their tributes and uniques. -/
structure Profile.SameButIds (profile other : Profile) : Prop where
  tributes : List.Forall₂ (TributeFilter.SameButIds lexicon more) profile.tributes other.tributes
  uniques : List.Forall₂ (UniqueFilter.SameButIds lexicon more) profile.uniques other.uniques
  rest : other = { profile with tributes := other.tributes, uniques := other.uniques }

end SameButIds

section Within
variable {lexicon more : Lexicon} (within : lexicon.Within more)

include within

/-! Names. -/

theorem Lexicon.Within.isSome_resolveUnique? {name : String}
    (known : (lexicon.resolveUnique? name).isSome = true) :
    (more.resolveUnique? name).isSome = true := by
  rw [resolveUnique?_isSome_iff] at known ⊢
  obtain ⟨id, member, same⟩ := known
  exact ⟨id, within.uniques member, same⟩

theorem Lexicon.Within.isSome_resolveTribute? {name : String}
    (known : (lexicon.resolveTribute? name).isSome = true) :
    (more.resolveTribute? name).isSome = true := by
  rw [resolveTribute?_isSome_iff] at known ⊢
  exact known.imp (within.tributes ·) (within.tributes ·)

/-! Gear. -/

theorem RequirementDraft.carries_toAffix (draft : RequirementDraft) :
    Carries Eq (draft.toAffix lexicon) (draft.toAffix more) := by
  refine carries_self.bind_eq fun requirement => ?_
  split
  · next known =>
    have knownToo : more.affixes.contains requirement.name = true :=
      Table.contains_iff.2 (within.affixes (Table.contains_iff.1 known))
    rw [if_pos knownToo]
    exact carries_self
  · exact carries_error

theorem PoolDraft.carries_toPool (filter : String) (draft : PoolDraft) :
    Carries Eq (draft.toPool lexicon filter) (draft.toPool more filter) := by
  unfold toPool
  split
  · exact carries_error
  · split
    · exact carries_error
    · refine (carries_mapM_eq (RequirementDraft.carries_toAffix within) draft.count).bind_eq ?_
      intro requirements
      exact carries_self

theorem ItemFilterDraft.carries_toItemFilter (name : String) (draft : ItemFilterDraft) :
    Carries Eq (draft.toItemFilter lexicon name) (draft.toItemFilter more name) := by
  unfold toItemFilter
  split
  · exact carries_error
  · refine (carries_mapM_eq (PoolDraft.carries_toPool within name) draft.affixPools).bind_eq ?_
    intro affixPools
    refine (carries_mapM_eq (PoolDraft.carries_toPool within name) draft.inherentPools).bind_eq ?_
    intro inherentPools
    exact carries_self

/-! Aspects and sigils. -/

theorem carries_knownAspect (name : String) :
    Carries Eq (knownAspect lexicon name) (knownAspect more name) := by
  unfold knownAspect
  split
  · next known =>
    rw [if_pos (Table.contains_iff.2 (within.aspects (Table.contains_iff.1 known)))]
    exact carries_self
  · exact carries_error

theorem SigilDraft.carries_toEntry (draft : SigilDraft) :
    Carries Eq (draft.toEntry lexicon) (draft.toEntry more) := by
  intro entry succeeds
  obtain ⟨means, known⟩ := toEntry_eq_ok_iff.1 succeeds
  have knownToo : ∀ name ∈ entry.name :: entry.conditions, name ∈ more.sigils.keys :=
    fun name member => within.sigils (known name member)
  exact ⟨entry, toEntry_eq_ok_iff.2 ⟨means, knownToo⟩, rfl⟩

theorem SigilFilterDraft.carries_toSigilFilter (draft : SigilFilterDraft) :
    Carries Eq (draft.toSigilFilter lexicon) (draft.toSigilFilter more) := by
  unfold toSigilFilter
  refine (carries_mapM_eq (SigilDraft.carries_toEntry within) draft.blacklist).bind_eq ?_
  intro blacklist
  refine (carries_mapM_eq (SigilDraft.carries_toEntry within) draft.whitelist).bind_eq ?_
  intro whitelist
  -- whether the lists overlap is up to their entries alone
  exact carries_self

/-! Tributes and uniques, where ids are looked up. -/

theorem carries_tributeName (name : String) :
    Carries (SameWord lexicon.resolveTribute? more.resolveTribute?) (tributeName lexicon name)
      (tributeName more name) := by
  unfold tributeName
  split
  · next id found =>
    obtain ⟨other, foundToo⟩ := Option.isSome_iff_exists.1
      (within.isSome_resolveTribute? (Option.isSome_iff_exists.2 ⟨id, found⟩))
    rw [foundToo]
    exact carries_ok ⟨name, found, foundToo⟩
  · exact carries_error

theorem TributeDraft.carries_toTribute (draft : TributeDraft) :
    Carries (TributeFilter.SameButIds lexicon more) (draft.toTribute lexicon)
      (draft.toTribute more) := by
  have named : ∀ name rarities, Carries (TributeFilter.SameButIds lexicon more)
      (do return ⟨some (← tributeName lexicon name), rarities⟩)
      (do return ⟨some (← tributeName more name), rarities⟩) := by
    intro name rarities
    refine (carries_tributeName within name).bind ?_
    intro id other same
    exact carries_ok ⟨.some same, rfl⟩
  have unnamed : ∀ rarities, Carries (TributeFilter.SameButIds lexicon more)
      (.ok ⟨none, rarities⟩ : Except Fault TributeFilter) (.ok ⟨none, rarities⟩) :=
    fun _ => carries_ok ⟨.none, rfl⟩
  cases draft with
  | byWord word =>
    simp only [toTribute]
    split
    · exact unnamed _
    · exact named word []
  | byRarities rarities =>
    simp only [toTribute]
    split
    · exact carries_error
    · exact unnamed _
  | inFull name rarities =>
    simp only [toTribute]
    split
    · next word _ => exact named word rarities
    · exact unnamed _

theorem RequirementDraft.carries_toAspect (draft : RequirementDraft) :
    Carries (AspectRequirement.SameButIds lexicon more) (draft.toAspect lexicon)
      (draft.toAspect more) := by
  refine carries_self.bind_eq fun requirement => ?_
  split
  · exact carries_error
  · dsimp only
    split
    · next id found =>
      obtain ⟨other, foundToo⟩ := Option.isSome_iff_exists.1
        (within.isSome_resolveUnique? (Option.isSome_iff_exists.2 ⟨id, found⟩))
      rw [foundToo]
      exact carries_ok ⟨⟨_, found, foundToo⟩, rfl⟩
    · exact carries_error

theorem UniqueDraft.carries_toUnique (draft : UniqueDraft) :
    Carries (UniqueFilter.SameButIds lexicon more) (draft.toUnique lexicon)
      (draft.toUnique more) := by
  unfold toUnique
  split
  · exact carries_error
  · refine (carries_optionMapM (RequirementDraft.carries_toAspect within) draft.aspect).bind ?_
    intro aspect other same
    refine (carries_mapM_eq (RequirementDraft.carries_toAffix within) draft.affixes).bind_eq ?_
    intro affixes
    exact carries_ok ⟨same, rfl⟩

/-! Profiles. -/

theorem ProfileDraft.carries_toProfile (name : String) (draft : ProfileDraft) :
    Carries (Profile.SameButIds lexicon more) (draft.toProfile lexicon name)
      (draft.toProfile more name) := by
  unfold toProfile
  refine (carries_mapM_eq (fun filter => ItemFilterDraft.carries_toItemFilter within filter.1
    filter.2) draft.affixes.flatten).bind_eq fun affixFilters => ?_
  refine (carries_mapM_eq (carries_knownAspect within) draft.aspectUpgrades).bind_eq ?_
  intro aspectUpgrades
  refine (carries_optionMapM_eq (SigilFilterDraft.carries_toSigilFilter within)
    draft.sigils).bind_eq fun sigils => ?_
  refine (carries_mapM (TributeDraft.carries_toTribute within) draft.tributes).bind ?_
  intro tributes otherTributes sameTributes
  refine (carries_mapM (UniqueDraft.carries_toUnique within) draft.uniques).bind ?_
  intro uniques otherUniques sameUniques
  exact carries_ok ⟨sameTributes, sameUniques, rfl⟩

end Within

namespace Profile

/-- A profile that loads with one lexicon loads with each that knows more, and changes at most in
the ids of its tributes and of the aspects of its uniques. Which documents are malformed or empty
depends on no lexicon. All this holds whichever way documents are parsed. -/
theorem more_names_keep_profiles {Tree : Type} (parse? : String → Option Tree)
    (reader : TreeReader Tree) (lexicon more : Lexicon) (name text : String) :
    (lexicon.Within more → ∀ profile, loadBy parse? reader lexicon name text = .ok profile →
      ∃ other, loadBy parse? reader more name text = .ok other ∧
        profile.SameButIds lexicon more other) ∧
    (loadBy parse? reader lexicon name text = .error ⟨name, .malformed⟩ ↔
      loadBy parse? reader more name text = .error ⟨name, .malformed⟩) ∧
    (loadBy parse? reader lexicon name text = .error ⟨name, .empty⟩ ↔
      loadBy parse? reader more name text = .error ⟨name, .empty⟩) := by
  have sameFault : ∀ {fault : Fault}, fault.isOfShape = true →
      (loadBy parse? reader lexicon name text = .error ⟨name, fault⟩ ↔
        loadBy parse? reader more name text = .error ⟨name, fault⟩) :=
    fun ofShape => (loadBy_eq_shapeFault_iff ofShape).trans (loadBy_eq_shapeFault_iff ofShape).symm
  refine ⟨?_, sameFault rfl, sameFault rfl⟩
  intro within profile loads
  have carries : Carries (SameButIds lexicon more)
      (ProfileDraft.read parse? reader text >>= (·.toProfile lexicon name))
      (ProfileDraft.read parse? reader text >>= (·.toProfile more name)) := by
    refine carries_self.bind_eq fun draft => ?_
    exact draft.carries_toProfile within name
  obtain ⟨other, loadsToo, same⟩ := carries profile (loadBy_eq_ok_iff.1 loads)
  exact ⟨other, loadBy_eq_ok_iff.2 loadsToo, same⟩

def fewNames : Lexicon := (Lexicon.empty.addUniques [("galvanic_azurite", none)]).addTributes
  ["ascendance"]

def moreNames : Lexicon := (fewNames.addUniques [("galvanicazurite", none)]).addTributes
  ["tribute_of_ascendance"]

def azuriteDocument : String := "Tributes: [ascendance]\nUniques:\n  - aspect: galvanicazurite\n"

/-- The ids of all tributes and of the aspects of all uniques. -/
def resolvedIds (profile : Profile) : List String :=
  profile.tributes.filterMap (·.name) ++
    profile.uniques.filterMap fun filter => filter.aspect.map (·.name)

/-- Both ids of a profile change where a lexicon comes to know the very words of the document. -/
theorem azurite_loads_with_more_names : fewNames.Within moreNames ∧ ∃ profile other,
    load fewNames "azurite" azuriteDocument = .ok profile ∧
      load moreNames "azurite" azuriteDocument = .ok other ∧
      profile.SameButIds fewNames moreNames other ∧
      resolvedIds profile = ["ascendance", "galvanic_azurite"] ∧
      resolvedIds other = ["tribute_of_ascendance", "galvanicazurite"] := by
  have within : fewNames.Within moreNames := by
    constructor <;> decide +kernel
  refine ⟨within, ?_⟩
  have few : (load fewNames "azurite" azuriteDocument).map resolvedIds =
      .ok ["ascendance", "galvanic_azurite"] := by decide +kernel
  have many : (load moreNames "azurite" azuriteDocument).map resolvedIds =
      .ok ["tribute_of_ascendance", "galvanicazurite"] := by decide +kernel
  obtain ⟨profile, loads, fewIds⟩ := map_eq_ok_iff.1 few
  obtain ⟨other, loadsToo, same⟩ :=
    (more_names_keep_profiles Yaml.Value.read? .generic fewNames moreNames "azurite"
      azuriteDocument).1 within profile loads
  change load moreNames "azurite" azuriteDocument = .ok other at loadsToo
  rw [loadsToo] at many
  exact ⟨profile, other, loads, loadsToo, same, fewIds, Except.ok.inj many⟩

end Profile

end LootSieve
