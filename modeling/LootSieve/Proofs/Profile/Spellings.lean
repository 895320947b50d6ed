import LootSieve.Proofs.Profile.LongForm
import LootSieve.Proofs.Yaml.EntryRecords
import LootSieve.Proofs.Yaml.Places

/-!
Spellings of the entries of a profile document. A requirement, a sigil or a tribute may be written
as a word, as a list or as a record of its fields. Each spelling is read to a draft whose long form
is the entry written in full.
-/

namespace LootSieve
open Yaml Yaml.Value Optional

variable {value : Value}

/-! Requirements. -/

/-- The fields of a requirement, of which the later ones may be missing. -/
inductive RequirementFields : List (String × Value) → Requirement → Prop
  | name (name : String) : RequirementFields [("name", .text name)] ⟨name, none, .larger, false⟩
  | value (name : String) {number : Value} {target : Float}
    (isNumber : number.number? = some target) :
    RequirementFields [("name", .text name), ("value", number)]
      ⟨name, some target, .larger, false⟩
  | comparison (name : String) {number : Value} {target : Float}
    (isNumber : number.number? = some target) (comparison : Comparison) :
    RequirementFields
      [("name", .text name), ("value", number), ("comparison", .text comparison.name)]
      ⟨name, some target, comparison, false⟩

/-- A name, a list of values or a record of fields. -/
inductive SpellsRequirement : Value → Requirement → Prop
  | word (name : String) : SpellsRequirement (.text name) ⟨name, none, .larger, false⟩
  | list {fields : List (String × Value)} {requirement : Requirement}
    (stated : RequirementFields fields requirement) :
    SpellsRequirement (.list (fields.map Prod.snd)) requirement
  | record {fields : List (String × Value)} {requirement : Requirement} {value : Value}
    (stated : RequirementFields fields requirement) (isRecord : IsRecord fields value) :
    SpellsRequirement value requirement

section Number
variable {number : Value} {target : Float} (isNumber : number.number? = some target)

include isNumber

theorem listPart?_number : Draft.listPart? number = some (.number target) := by
  unfold Draft.listPart?
  rw [isNumber]

theorem orNull?_number : orNull? number? number = some (some target) := by
  have notNull : number ≠ .null := by
    rintro rfl
    cases isNumber
  rw [orNull?_of_ne_null notNull, isNumber, Option.map_some]

end Number

theorem entryChoice?_comparison (comparison : Comparison) :
    entryChoice? Comparison.all Comparison.name (.text comparison.name) = some comparison := by
  cases comparison <;> rfl

theorem RequirementFields.listed {fields : List (String × Value)} {requirement : Requirement}
    (stated : RequirementFields fields requirement) :
    ∃ parts, (fields.map Prod.snd).mapM Draft.listPart? = some parts ∧
      requirementOfList parts = .ok requirement := by
  have text : ∀ word, Draft.listPart? (.text word) = some (.text word) := fun _ => rfl
  cases stated with
  | name name => exact ⟨[.text name], rfl, rfl⟩
  | @value name number target isNumber =>
    refine ⟨[.text name, .number target], ?_, rfl⟩
    simp [text, listPart?_number isNumber]
  | @comparison name number target isNumber comparison =>
    refine ⟨[.text name, .number target, .text comparison.name], ?_, ?_⟩
    · simp [text, listPart?_number isNumber]
    · cases comparison <;> rfl

theorem RequirementFields.recorded {fields : List (String × Value)} {requirement : Requirement}
    (stated : RequirementFields fields requirement) (isRecord : IsRecord fields value) :
    Draft.fullRequirement? value = some requirement := by
  have known : ∀ field ∈ fields, field.1 ∈ Draft.requirementFields := by
    cases stated <;> simp [Draft.requirementFields]
  have distinct : (fields.map Prod.fst).Nodup := by
    cases stated <;> simp
  have noList : leadingFields? Draft.requirementFields value = none := by
    cases isRecord
    rfl
  obtain ⟨arranged, read, lookups⟩ := isRecord.entryRecord known distinct true
  unfold Draft.fullRequirement?
  rw [noList, read]
  cases stated with
  | name name => simp [field?, fieldOr?, lookups, List.lookup_cons, List.lookup_nil, text?]
  | @value name number target isNumber =>
    simp [field?, fieldOr?, lookups, List.lookup_cons, List.lookup_nil, text?,
      orNull?_number isNumber]
  | @comparison name number target isNumber comparison =>
    simp [field?, fieldOr?, lookups, List.lookup_cons, List.lookup_nil, text?,
      orNull?_number isNumber, entryChoice?_comparison]

theorem SpellsRequirement.reads {requirement : Requirement}
    (spells : SpellsRequirement value requirement) :
    (Draft.requirement? value).map RequirementDraft.longForm = some (.inFull requirement) := by
  suffices found : ∃ draft, Draft.requirement? value = some draft ∧
      draft.toRequirement = .ok requirement by
    obtain ⟨draft, read, means⟩ := found
    rw [read, Option.map_some, RequirementDraft.longForm_eq_inFull means]
  cases spells with
  | word name => exact ⟨.byName name, rfl, rfl⟩
  | list stated =>
    obtain ⟨parts, read, means⟩ := stated.listed
    refine ⟨.byList parts, ?_, means⟩
    simp [Draft.requirement?, text?, listOf?, read]
  | record stated isRecord =>
    refine ⟨.inFull requirement, ?_, rfl⟩
    simp [Draft.requirement?, isRecord.noText, isRecord.noList, stated.recorded isRecord]

/-! Sigils. -/

/-- The fields of a sigil entry, of which the conditions may be missing. -/
inductive SigilFields : List (String × Value) → SigilEntry → Prop
  | name (name : String) : SigilFields [("name", .text name)] ⟨name, []⟩
  | conditions (name : String) (conditions : List String) :
    SigilFields [("name", .text name), ("condition", .list (conditions.map .text))]
      ⟨name, conditions⟩

/-- A name, a list of the name and the conditions, or a record of fields. -/
inductive SpellsSigil : Value → SigilEntry → Prop
  | word (name : String) : SpellsSigil (.text name) ⟨name, []⟩
  | list (name : String) (conditions : List String) :
    SpellsSigil (.list ((name :: conditions).map .text)) ⟨name, conditions⟩
  | record {fields : List (String × Value)} {entry : SigilEntry} {value : Value}
    (stated : SigilFields fields entry) (isRecord : IsRecord fields value) :
    SpellsSigil value entry

theorem listOf?_texts (words : List String) :
    listOf? text? (.list (words.map .text)) = some words := by
  apply mapM_eq_some_iff.2
  rw [List.forall₂_map_left_iff, List.forall₂_same]
  exact fun _ _ => rfl

theorem SigilFields.recorded {fields : List (String × Value)} {entry : SigilEntry}
    (stated : SigilFields fields entry) (isRecord : IsRecord fields value) :
    Draft.fullSigil? value = some entry := by
  have known : ∀ field ∈ fields, field.1 ∈ ["name", "condition"] := by
    cases stated <;> simp
  have distinct : (fields.map Prod.fst).Nodup := by
    cases stated <;> simp
  obtain ⟨arranged, read, lookups⟩ := isRecord.entryRecord known distinct false
  unfold Draft.fullSigil?
  rw [read]
  cases stated with
  | name name => simp [field?, fieldOr?, lookups, List.lookup_cons, List.lookup_nil, text?]
  | conditions name conditions =>
    simp [field?, fieldOr?, lookups, List.lookup_cons, text?, listOf?_texts]

theorem SpellsSigil.reads {entry : SigilEntry} (spells : SpellsSigil value entry) :
    (Draft.sigil? value).map SigilDraft.longForm = some (.inFull entry) := by
  suffices found : ∃ draft, Draft.sigil? value = some draft ∧ draft.entry = .ok entry by
    obtain ⟨draft, read, means⟩ := found
    rw [read, Option.map_some, SigilDraft.longForm_eq_inFull means]
  cases spells with
  | word name => exact ⟨.byName name, rfl, rfl⟩
  | list name conditions =>
    refine ⟨.byList (name :: conditions), ?_, rfl⟩
    unfold Draft.sigil?
    rw [listOf?_texts]
    rfl
  | record stated isRecord =>
    refine ⟨.inFull entry, ?_, rfl⟩
    simp [Draft.sigil?, isRecord.noText, isRecord.noList, stated.recorded isRecord]

/-! Tributes. -/

/-- The one field of a tribute: a rarity, several of them, or a name that is no rarity. -/
inductive TributeField : String → Value → TributeDraft → Prop
  | rarity {word : String} {rarity : Rarity} (named : Rarity.ofName word = .ok rarity) :
    TributeField "rarities" (.text word) (.inFull none [rarity])
  | rarities {words : List String} {rarities : List Rarity}
    (named : List.Forall₂ (fun word rarity => Rarity.ofName word = .ok rarity) words rarities)
    (nonempty : words ≠ []) :
    TributeField "rarities" (.list (words.map .text)) (.inFull none rarities)
  | name {word : String} (nonempty : word ≠ "")
    (noRarity : ∀ rarity, Rarity.ofName word ≠ .ok rarity) :
    TributeField "name" (.text word) (.inFull (some word) [])

/-- The field alone, or a record of it. -/
inductive SpellsTribute : Value → TributeDraft → Prop
  | alone {name : String} {value : Value} {draft : TributeDraft}
    (stated : TributeField name value draft) : SpellsTribute value draft
  | record {name : String} {held value : Value} {draft : TributeDraft}
    (stated : TributeField name held draft) (isRecord : IsRecord [(name, held)] value) :
    SpellsTribute value draft

theorem ofName_eq_ok_iff {word : String} {rarity : Rarity} :
    Rarity.ofName word = .ok rarity ↔ Rarity.ofWord? word.toList = some rarity := by
  unfold Rarity.ofName
  cases Rarity.ofWord? word.toList <;> simp

theorem rarity?_text {word : String} {rarity : Rarity} (named : Rarity.ofName word = .ok rarity) :
    Draft.rarity? (.text word) = some rarity := by
  change (Rarity.ofName word).toOption = _
  rw [named]
  rfl

theorem listOf?_rarities {words : List String} {rarities : List Rarity}
    (named : List.Forall₂ (fun word rarity => Rarity.ofName word = .ok rarity) words rarities) :
    listOf? Draft.rarity? (.list (words.map .text)) = some rarities := by
  apply mapM_eq_some_iff.2
  rw [List.forall₂_map_left_iff]
  exact named.imp fun _ _ => rarity?_text

theorem TributeField.alone {name : String} {draft : TributeDraft}
    (stated : TributeField name value draft) :
    (Draft.tribute? value).map TributeDraft.longForm = some draft := by
  cases stated with
  | @rarity word rarity named =>
    have read : Draft.tribute? (.text word) = some (.byWord word) := rfl
    simp [read, TributeDraft.longForm, ofName_eq_ok_iff.1 named]
  | @rarities words rarities named nonempty =>
    have read : Draft.tribute? (.list (words.map .text)) = some (.byRarities rarities) := by
      unfold Draft.tribute?
      rw [listOf?_rarities named]
      rfl
    have nonemptyToo : rarities.isEmpty = false := by
      cases named with
      | nil => exact absurd rfl nonempty
      | cons => rfl
    simp [read, TributeDraft.longForm, nonemptyToo]
  | @name word nonempty noRarity =>
    have read : Draft.tribute? (.text word) = some (.byWord word) := rfl
    have unnamed : Rarity.ofWord? word.toList = none :=
      Option.eq_none_iff_forall_ne_some.2 fun rarity named =>
        noRarity rarity (ofName_eq_ok_iff.2 named)
    simp [read, TributeDraft.longForm, unnamed, nonempty]

theorem TributeField.recorded {name : String} {held : Value} {draft : TributeDraft}
    (stated : TributeField name held draft) (isRecord : IsRecord [(name, held)] value) :
    Draft.fullTribute? value = some draft := by
  have known : ∀ field ∈ [(name, held)], field.1 ∈ ["name", "rarities"] := by
    cases stated <;> simp
  obtain ⟨arranged, read, lookups⟩ := isRecord.entryRecord known (by simp) false
  unfold Draft.fullTribute?
  rw [read]
  cases stated with
  | @rarity word rarity named =>
    have one : oneOrMany? Draft.rarity? (.text word) = some [rarity] := by
      unfold oneOrMany?
      rw [rarity?_text named]
    simp [fieldOr?, lookups, List.lookup_cons, List.lookup_nil, one]
  | @rarities words rarities named nonempty =>
    have many : oneOrMany? Draft.rarity? (.list (words.map .text)) = some rarities :=
      listOf?_rarities named
    simp [fieldOr?, lookups, List.lookup_cons, List.lookup_nil, many]
  | @name word nonempty noRarity =>
    simp [fieldOr?, lookups, List.lookup_cons, List.lookup_nil, orNull?, text?]

theorem SpellsTribute.reads {draft : TributeDraft} (spells : SpellsTribute value draft) :
    (Draft.tribute? value).map TributeDraft.longForm = some draft := by
  cases spells with
  | alone stated => exact stated.alone
  | record stated isRecord =>
    have read : Draft.tribute? value = some draft := by
      simp [Draft.tribute?, isRecord.noText, isRecord.noList, stated.recorded isRecord]
    rw [read]
    cases stated <;> rfl

end LootSieve
