import LootSieve.Proofs.Optional
import LootSieve.Yaml.Shape

/-!
Values that differ at certain places only. A relation between the values that may stand at a place
is carried to the lists and mappings around it, and a reader that makes related values into related
results is followed to the readers of those lists and mappings.
-/

namespace LootSieve.Yaml.Value
open Optional

variable {related : Value → Value → Prop} {value other : Value}

/-! Places. -/

/-- One value, or two that spell the same. -/
inductive Spelled {μ : Type} (spells : Value → μ → Prop) : Value → Value → Prop
  | same (value : Value) : Spelled spells value value
  | respelled {value other : Value} {meaning : μ} (first : spells value meaning)
    (second : spells other meaning) : Spelled spells value other

/-- One value, or two lists of related items. -/
inductive Items (related : Value → Value → Prop) : Value → Value → Prop
  | same (value : Value) : Items related value value
  | list {items others : List Value} (each : List.Forall₂ related items others) :
    Items related (.list items) (.list others)

/-- Entries of two mappings at one key, with values that its name relates. -/
def SameEntry (relatedAt : String → Value → Value → Prop) (entry other : Value × Value) : Prop :=
  entry.1 = other.1 ∧
    (entry.2 = other.2 ∨ ∃ name, entry.1 = .text name ∧ relatedAt name entry.2 other.2)

/-- One value, or two mappings of related entries. -/
inductive Fields (relatedAt : String → Value → Value → Prop) : Value → Value → Prop
  | same (value : Value) : Fields relatedAt value value
  | mapping {entries others : List (Value × Value)}
    (each : List.Forall₂ (SameEntry relatedAt) entries others) :
    Fields relatedAt (.mapping entries) (.mapping others)

/-- Values that are equal where one of them is null. -/
def SparesNull (related : Value → Value → Prop) : Prop :=
  ∀ value other, related value other → value = other ∨ value ≠ .null ∧ other ≠ .null

theorem sparesNull_fields {relatedAt : String → Value → Value → Prop} :
    SparesNull (Fields relatedAt) := by
  intro value other given
  cases given with
  | same => exact .inl rfl
  | mapping => exact .inr ⟨nofun, nofun⟩

theorem sparesNull_spelled {μ : Type} {spells : Value → μ → Prop}
    (never : ∀ meaning, ¬ spells .null meaning) : SparesNull (Spelled spells) := by
  intro value other given
  cases given with
  | same => exact .inl rfl
  | respelled first second =>
    refine .inr ⟨?_, ?_⟩
    · rintro rfl
      exact never _ first
    · rintro rfl
      exact never _ second

/-! Readers. -/

variable {α β : Type} {alike : α → α → Prop} {read? : Value → Option α} {form : α → β}

/-- Related values are read with like results, or neither of them is read. -/
def ReadsAlike (related : Value → Value → Prop) (alike : α → α → Prop)
    (read? : Value → Option α) : Prop :=
  ∀ value other, related value other → Option.Rel alike (read? value) (read? other)

theorem readsAlike_eq : ReadsAlike Eq Eq read? := by
  rintro value _ rfl
  exact rel_refl Eq.refl _

/-- A reader that makes of each spelling what its meaning says cannot tell spellings apart. -/
theorem readsAlike_spelled {μ : Type} {spells : Value → μ → Prop} {meant : μ → Option β}
    (reads : ∀ value meaning, spells value meaning → (read? value).map form = meant meaning) :
    ReadsAlike (Spelled spells) (SameForm form) read? := by
  intro value other given
  cases given with
  | same => exact rel_refl (sameForm_refl form) _
  | respelled first second =>
    exact rel_of_map_eq ((reads _ _ first).trans (reads _ _ second).symm)

theorem orNull?_of_ne_null (notNull : value ≠ .null) :
    orNull? read? value = (read? value).map some := by
  unfold orNull?
  split
  · exact absurd rfl notNull
  · rfl

namespace ReadsAlike

theorem listOf (reads : ReadsAlike related (SameForm form) read?) :
    ReadsAlike (Items related) (SameForm (List.map form)) (listOf? read?) := by
  intro value other given
  cases given with
  | same => exact rel_refl (sameForm_refl _) _
  | list each => exact rel_imp (rel_mapM each reads) fun _ _ => sameForm_map

theorem listOrNull (reads : ReadsAlike related (SameForm form) read?) :
    ReadsAlike (Items related) (SameForm (List.map form)) (listOrNull? read?) := by
  intro value other given
  cases given with
  | same => exact rel_refl (sameForm_refl _) _
  | list each => exact reads.listOf _ _ (.list each)

theorem orNull (reads : ReadsAlike related (SameForm form) read?)
    (sparesNull : SparesNull related) :
    ReadsAlike related (SameForm (Option.map form)) (orNull? read?) := by
  intro value other given
  rcases sparesNull value other given with rfl | ⟨notNull, notNullToo⟩
  · exact rel_refl (sameForm_refl _) _
  · rw [orNull?_of_ne_null notNull, orNull?_of_ne_null notNullToo]
    exact rel_map (reads value other given) fun _ _ same => congrArg some same

end ReadsAlike

/-! Records. -/

section Records
variable {relatedAt : String → Value → Value → Prop}

/-- Fields of one name, with values that are related as is right for it. -/
def SameField (relatedAt : String → Value → Value → Prop) (field other : String × Value) : Prop :=
  field.1 = other.1 ∧ (field.2 = other.2 ∨ relatedAt field.1 field.2 other.2)

theorem Fields.entriesOrNull (given : Fields relatedAt value other) :
    Option.Rel (List.Forall₂ (SameField relatedAt)) (entriesOrNull? value)
      (entriesOrNull? other) := by
  cases given with
  | same =>
    have refl : ∀ field, SameField relatedAt field field := fun _ => ⟨rfl, .inl rfl⟩
    exact rel_refl (fun fields => List.forall₂_same.2 fun field _ => refl field) _
  | mapping each =>
    refine rel_mapM each ?_
    rintro ⟨key, left⟩ ⟨_, right⟩ ⟨rfl, given⟩
    cases key with
    | text name =>
      refine .some ⟨rfl, ?_⟩
      rcases given with rfl | ⟨_, ⟨⟩, given⟩
      · exact .inl rfl
      · exact .inr given
    | _ => exact .none

theorem record?_eq_filter (names : List String) (value : Value) :
    record? names value =
      (entriesOrNull? value).filter fun fields => (fields.map Prod.fst).all names.contains := by
  unfold record?
  congr 1
  funext fields
  rw [List.all_map]
  rfl

theorem Fields.record (given : Fields relatedAt value other) (names : List String) :
    Option.Rel (List.Forall₂ (SameField relatedAt)) (record? names value)
      (record? names other) := by
  have both := given.entriesOrNull
  rw [record?_eq_filter, record?_eq_filter]
  generalize entriesOrNull? value = left, entriesOrNull? other = right at both ⊢
  cases both with
  | none => exact .none
  | @some fields others each =>
    have sameNames : fields.map Prod.fst = others.map Prod.fst :=
      sameForm_map (each.imp fun _ _ same => same.1)
    simp only [Option.filter_some, sameNames]
    split
    · exact .some each
    · exact .none

variable {fields others : List (String × Value)}

theorem rel_lookup (each : List.Forall₂ (SameField relatedAt) fields others) (name : String) :
    Option.Rel (fun value other => value = other ∨ relatedAt name value other)
      (fields.lookup name) (others.lookup name) := by
  induction each with
  | nil => exact .none
  | @cons field other _ _ head _ ih =>
    obtain ⟨key, value⟩ := field
    obtain ⟨_, otherValue⟩ := other
    obtain ⟨rfl, given⟩ := head
    rw [List.lookup_cons, List.lookup_cons]
    dsimp only
    split
    · next same =>
      rw [beq_iff_eq.1 same]
      exact .some given
    · exact ih

theorem ReadsAlike.field (each : List.Forall₂ (SameField relatedAt) fields others) (name : String)
    (reads : ReadsAlike (relatedAt name) alike read?) (refl : ∀ result, alike result result) :
    Option.Rel alike (field? fields name read?) (field? others name read?) := by
  refine rel_bind (rel_lookup each name) ?_
  rintro value other (rfl | given)
  · exact rel_refl refl _
  · exact reads value other given

theorem ReadsAlike.fieldOr (each : List.Forall₂ (SameField relatedAt) fields others) (name : String)
    (standard : α) (reads : ReadsAlike (relatedAt name) alike read?)
    (refl : ∀ result, alike result result) :
    Option.Rel alike (fieldOr? fields name standard read?)
      (fieldOr? others name standard read?) := by
  have both := rel_lookup each name
  unfold fieldOr?
  generalize fields.lookup name = left, others.lookup name = right at both ⊢
  cases both with
  | none => exact .some (refl standard)
  | @some value other given =>
    rcases given with rfl | given
    · exact rel_refl refl _
    · exact reads value other given

end Records

/-! Single items. -/

/-- An item, or a list of it alone. -/
inductive SpellsOne : Value → String → Prop
  | alone (word : String) : SpellsOne (.text word) word
  | listed (word : String) : SpellsOne (.list [.text word]) word

theorem SpellsOne.oneOrMany {item? : Value → Option α}
    (noList : ∀ items, item? (.list items) = none) {word : String}
    (spelled : SpellsOne value word) :
    oneOrMany? item? value = (item? (.text word)).map fun item => [item] := by
  unfold oneOrMany?
  cases spelled with
  | alone =>
    cases item? (.text word) with
    | none => rfl
    | some item => rfl
  | listed =>
    rw [noList]
    simp only [listOf?, List.mapM_cons, List.mapM_nil]
    cases item? (.text word) with
    | none => rfl
    | some item => rfl

theorem readsAlike_oneOrMany {item? : Value → Option α}
    (noList : ∀ items, item? (.list items) = none) :
    ReadsAlike (Spelled SpellsOne) Eq (oneOrMany? item?) := by
  have means : ∀ value word, SpellsOne value word →
      (oneOrMany? item? value).map id = (item? (.text word)).map fun item => [item] := by
    intro value word spelled
    rw [Option.map_id, id, spelled.oneOrMany noList]
  exact readsAlike_spelled means

end LootSieve.Yaml.Value
