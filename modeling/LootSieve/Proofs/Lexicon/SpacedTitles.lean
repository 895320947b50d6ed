import LootSieve.Profile.Validation
import LootSieve.Proofs.Lexicon.Lookup
import LootSieve.Proofs.Text.Lowering
import LootSieve.Proofs.Text.Trimming
import LootSieve.Proofs.Tooltip.GearReading

/-! Lost and added spaces in the titles of uniques. What is compared in the end is the text of a
title without its blanks, so a title finds its unique however it is spaced, in a profile as on a
tooltip, provided that no two ids of the lexicon are told apart by underscores only. -/

namespace LootSieve
open Text

/-! What a title keeps. -/

/-- Two texts that differ in their blanks only, so that one is the other with blanks put in and
taken out. -/
def SameButBlanks (title other : String) : Prop := solid title.toList = solid other.toList

instance (title other : String) : Decidable (SameButBlanks title other) :=
  inferInstanceAs (Decidable (_ = _))

/-- What an id keeps of a title: neither punctuation nor underscores. -/
def isNameLetter (char : Char) : Bool := !Naming.isNamePunctuation char && char ≠ '_'

/-- The id of a title and the underscores of it aside, blanks do not matter. -/
theorem withoutUnderscores_ofTitle {title : List Char} (noSigma : 'Σ' ∉ title) :
    Lexicon.withoutUnderscores (String.ofList (Naming.ofTitle title)) =
      ((solid title).flatMap lowerChar).filter isNameLetter := by
  have trimmed : 'Σ' ∉ trim title := fun member => noSigma (mem_of_mem_trim member)
  unfold Lexicon.withoutUnderscores Naming.ofTitle
  dsimp only
  rw [String.toList_ofList, filter_intercalate (by decide), flatten_words]
  calc (solid ((lower (trim title)).filter (!Naming.isNamePunctuation ·))).filter (· ≠ '_')
      = (solid (lower (trim title))).filter isNameLetter := by
        simp only [solid, List.filter_filter, isNameLetter]
        apply List.filter_congr
        intro char _
        cases isBlank char <;> cases Naming.isNamePunctuation char <;> simp
    _ = ((solid title).flatMap lowerChar).filter isNameLetter := by
        rw [lower_of_no_sigma trimmed, solid, filter_flatMap_lowerChar]
        exact congrArg (fun text => (text.flatMap lowerChar).filter isNameLetter)
          (solid_trim title)

theorem sigma_not_mem_of_sameButBlanks {title other : String} (same : SameButBlanks title other)
    (noSigma : 'Σ' ∉ title.toList) : 'Σ' ∉ other.toList := by
  intro member
  have kept : 'Σ' ∈ solid other.toList := List.mem_filter.2 ⟨member, by decide⟩
  rw [← same] at kept
  exact noSigma (List.mem_filter.1 kept).1

theorem withoutUnderscores_of_sameButBlanks {title other : String}
    (same : SameButBlanks title other) (noSigma : 'Σ' ∉ title.toList) :
    Lexicon.withoutUnderscores (String.ofList (Naming.ofTitle other.toList)) =
      Lexicon.withoutUnderscores (String.ofList (Naming.ofTitle title.toList)) := by
  rw [withoutUnderscores_ofTitle noSigma,
    withoutUnderscores_ofTitle (sigma_not_mem_of_sameButBlanks same noSigma), ← same]

/-! The look-up. -/

namespace Lexicon

variable {lexicon : Lexicon} {name id : String}

/-- No two unique ids are told apart by underscores only. -/
def UniquesApart (lexicon : Lexicon) : Prop :=
  ∀ id ∈ lexicon.uniques.keys, ∀ other ∈ lexicon.uniques.keys,
    withoutUnderscores id = withoutUnderscores other → id = other

instance (lexicon : Lexicon) : Decidable lexicon.UniquesApart :=
  inferInstanceAs (Decidable (∀ id ∈ lexicon.uniques.keys, ∀ other ∈ lexicon.uniques.keys, _))

theorem withoutUnderscores_of_resolveUnique? (found : lexicon.resolveUnique? name = some id) :
    withoutUnderscores id = withoutUnderscores name := by
  unfold resolveUnique? at found
  split at found
  · cases found
    rfl
  · simpa using List.find?_some found

theorem resolveUnique?_of_mem (known : name ∈ lexicon.uniques.keys) :
    lexicon.resolveUnique? name = some name :=
  if_pos (Table.contains_iff.2 known)

theorem resolveUnique?_of_alike (apart : lexicon.UniquesApart) (known : id ∈ lexicon.uniques.keys)
    (alike : withoutUnderscores id = withoutUnderscores name) :
    lexicon.resolveUnique? name = some id := by
  obtain ⟨other, found⟩ :=
    Option.isSome_iff_exists.1 (resolveUnique?_isSome_iff.2 ⟨id, known, alike⟩)
  have sameText : withoutUnderscores other = withoutUnderscores id :=
    (withoutUnderscores_of_resolveUnique? found).trans alike.symm
  rw [found, apart other (mem_of_resolveUnique? found) id known sameText]

end Lexicon

/-! On the tooltip. -/

namespace Tooltip
open Fallible

variable {lexicon : Lexicon} {block : List String} {type : ItemType} {item : Item} {id : String}

theorem type_of_readGear {start : Item} (reads : readGear lexicon block type start = .ok item) :
    item.type = start.type := by
  unfold readGear at reads
  dsimp only at reads
  split at reads
  · cases reads
    rfl
  · exact (trace_of_readRolls reads).1

/-- An item of a gear type was read as gear. -/
theorem exists_isGearBlock_of_read (reads : read lexicon block = .ok item)
    (typed : item.type = some type) (isGear : type.isGear = true) :
    ∃ outline, IsGearBlock block type outline := by
  unfold read at reads
  obtain ⟨⟨rule, outline⟩, classified, reads⟩ := bind_eq_ok_iff.1 reads
  have sameType : item.type = outline.type := by
    dsimp only at reads
    split at reads
    · split at reads
      · cases reads
        rfl
      · split at reads
        · exact (type_of_readGear reads).trans rfl
        · cases reads
          rfl
    · cases reads
      rfl
  exact ⟨outline, isGearBlock_of_classify classified (sameType ▸ typed) isGear⟩

theorem identify_of_resolveUnique? (ranked : item.rarity.isUniqueOrMythic = true)
    (found : lexicon.resolveUnique? item.name = some id) :
    identify lexicon item = .ok ⟨id, id, lexicon.inherentCount? id⟩ := by
  unfold identify
  rw [if_pos ranked, found]

/-- The rolled lines of a unique are read under the name that the lexicon has for it. -/
theorem name_of_readRolls {start : Item} (reads : readRolls lexicon block type start = .ok item)
    (ranked : start.rarity.isUniqueOrMythic = true)
    (found : lexicon.resolveUnique? start.name = some id) :
    item.name = id ∧ ∀ aspect, item.aspect = some aspect → aspect.name = id := by
  have sameRarity := (trace_of_readRolls reads).2.1
  have named := (trace_of_readRolls reads).2.2.2.2
  have name : item.name = id := by
    unfold readRolls at reads
    rw [identify_of_resolveUnique? ranked found, ok_bind] at reads
    obtain ⟨layout, _, reads⟩ := bind_eq_ok_iff.1 reads
    obtain ⟨inherents, _, reads⟩ := bind_eq_ok_iff.1 reads
    obtain ⟨affixes, _, reads⟩ := bind_eq_ok_iff.1 reads
    cases reads
    rfl
  exact ⟨name, fun aspect present =>
    (named.uniqueAspect (sameRarity ▸ ranked) aspect present).trans name⟩

/-- A unique of which the lines are decoded bears the id that its title resolves to. -/
theorem name_of_read {title typeLine : String} {rest : List String}
    (reads : read lexicon (title :: typeLine :: rest) = .ok item)
    (typed : item.type = some type) (isGear : type.isGear = true)
    (ranked : item.rarity.isUniqueOrMythic = true) (unmarked : item.sanctified = false)
    (found : lexicon.resolveUnique? (titleName title) = some id) :
    item.name = id ∧ ∀ aspect, item.aspect = some aspect → aspect.name = id := by
  obtain ⟨outline, gear⟩ := exists_isGearBlock_of_read reads typed isGear
  obtain ⟨_, _, _, split, named⟩ := gear.exists_title
  cases split
  rw [gear.read_eq] at reads
  split at reads
  · next plain =>
    cases reads
    simp only [isPlainGear, unmarked, Bool.false_or, Bool.or_eq_true, decide_eq_true_eq] at plain
    rcases plain with common | magic
    · rw [common] at ranked
      cases ranked
    · rw [magic] at ranked
      cases ranked
  · have sameRarity := (trace_of_readRolls reads).2.1
    exact name_of_readRolls reads (sameRarity ▸ ranked) (named ▸ found)

end Tooltip

/-! Titles in profiles and on tooltips. -/

/-- A title finds a unique wherever it is read: in the lexicon, as the aspect of a filter, and as
the name of an item, whose aspect then bears the same id. -/
structure FindsUnique (lexicon : Lexicon) (title id : String) : Prop where
  lookedUp : lexicon.resolveUnique? (String.ofList (Naming.ofTitle title.toList)) = some id
  inProfile : ∀ (draft : RequirementDraft) requirement, draft.toRequirement = .ok requirement →
    requirement.name = title → requirement.greater = false →
    draft.toAspect lexicon = .ok ⟨id, requirement.value, requirement.comparison⟩
  identified : ∀ item : Item, item.rarity.isUniqueOrMythic = true →
    item.name = Tooltip.titleName title →
    Tooltip.identify lexicon item = .ok ⟨id, id, lexicon.inherentCount? id⟩
  onTooltip : ∀ typeLine rest item type,
    Tooltip.read lexicon (title :: typeLine :: rest) = .ok item →
    item.type = some type → type.isGear = true → item.rarity.isUniqueOrMythic = true →
    item.sanctified = false →
    item.name = id ∧ ∀ aspect, item.aspect = some aspect → aspect.name = id

theorem findsUnique_of_resolveUnique? {lexicon : Lexicon} {title id : String}
    (found : lexicon.resolveUnique? (String.ofList (Naming.ofTitle title.toList)) = some id) :
    FindsUnique lexicon title id := by
  have byTitle : lexicon.resolveUnique? (Tooltip.titleName title) = some id := by
    rw [Tooltip.titleName_eq, found]
  constructor
  case lookedUp => exact found
  case inProfile =>
    intro draft requirement required named plain
    unfold RequirementDraft.toAspect
    rw [required, Fallible.ok_bind, plain]
    dsimp only
    rw [named, found]
    rfl
  case identified =>
    intro item ranked named
    exact Tooltip.identify_of_resolveUnique? ranked (named ▸ byTitle)
  case onTooltip =>
    intro typeLine rest item type reads typed isGear ranked unmarked
    exact Tooltip.name_of_read reads typed isGear ranked unmarked byTitle

theorem findsUnique_of_sameButBlanks {lexicon : Lexicon} (apart : lexicon.UniquesApart)
    {id title other : String} (known : id ∈ lexicon.uniques.keys)
    (noSigma : 'Σ' ∉ title.toList) (named : String.ofList (Naming.ofTitle title.toList) = id)
    (same : SameButBlanks title other) : FindsUnique lexicon other id := by
  apply findsUnique_of_resolveUnique?
  apply Lexicon.resolveUnique?_of_alike apart known
  rw [withoutUnderscores_of_sameButBlanks same noSigma, named]

/-- Spaces lost from the title of a unique or added to it do not matter where the ids stay apart
without underscores. In any lexicon a name is looked up by its text without underscores, and an id
finds itself. -/
theorem spaced_titles_find_unique (lexicon : Lexicon) :
    (lexicon.UniquesApart → ∀ id ∈ lexicon.uniques.keys, ∀ title other : String,
      'Σ' ∉ title.toList → String.ofList (Naming.ofTitle title.toList) = id →
      SameButBlanks title other →
      FindsUnique lexicon title id ∧ FindsUnique lexicon other id) ∧
    ∀ name,
      (lexicon.resolveUnique? name = none ↔ ∀ id ∈ lexicon.uniques.keys,
        Lexicon.withoutUnderscores id ≠ Lexicon.withoutUnderscores name) ∧
      (∀ id, lexicon.resolveUnique? name = some id → id ∈ lexicon.uniques.keys ∧
        Lexicon.withoutUnderscores id = Lexicon.withoutUnderscores name) ∧
      (name ∈ lexicon.uniques.keys → lexicon.resolveUnique? name = some name) := by
  constructor
  case left =>
    intro apart id known title other noSigma named same
    exact ⟨findsUnique_of_sameButBlanks apart known noSigma named rfl,
      findsUnique_of_sameButBlanks apart known noSigma named same⟩
  case right =>
    intro name
    refine ⟨?_, fun id found => ⟨Lexicon.mem_of_resolveUnique? found,
      Lexicon.withoutUnderscores_of_resolveUnique? found⟩, Lexicon.resolveUnique?_of_mem⟩
    rw [← Option.not_isSome_iff_eq_none, Lexicon.resolveUnique?_isSome_iff]
    simp only [not_exists, not_and, ne_eq]

def azuriteLexicon : Lexicon :=
  Lexicon.empty.addUniques [("galvanic_azurite", some 2), ("esus_heirloom", some 1)]

/-- A reader that drops the space still names the ring, and a filter may write it either way. -/
theorem galvanicAzurite_found :
    azuriteLexicon.UniquesApart ∧ "galvanic_azurite" ∈ azuriteLexicon.uniques.keys ∧
      SameButBlanks "GALVANIC AZURITE" " GALVANICAZURI TE" ∧
      FindsUnique azuriteLexicon "GALVANIC AZURITE" "galvanic_azurite" ∧
      FindsUnique azuriteLexicon " GALVANICAZURI TE" "galvanic_azurite" := by
  have apart : azuriteLexicon.UniquesApart := by decide +kernel
  have known : "galvanic_azurite" ∈ azuriteLexicon.uniques.keys := by decide
  have noSigma : 'Σ' ∉ "GALVANIC AZURITE".toList := by decide
  have named : String.ofList (Naming.ofTitle "GALVANIC AZURITE".toList) = "galvanic_azurite" := by
    decide +kernel
  have same : SameButBlanks "GALVANIC AZURITE" " GALVANICAZURI TE" := by decide +kernel
  exact ⟨apart, known, same,
    (spaced_titles_find_unique azuriteLexicon).1 apart _ known _ _ noSigma named same⟩

end LootSieve
