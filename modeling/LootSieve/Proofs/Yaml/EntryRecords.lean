import LootSieve.Proofs.Optional
import LootSieve.Yaml.Shape

/-!
Records inside entries. A mapping of known fields is read to these fields in the order in which they
are written, and so each of them is found whatever that order is.
-/

namespace LootSieve.Yaml.Value
open Optional

variable {fields : List (String × Value)} {value : Value}

/-- A mapping of these fields, in any order. -/
inductive IsRecord (fields : List (String × Value)) : Value → Prop
  | inOrder {arranged : List (String × Value)} (perm : arranged.Perm fields) :
    IsRecord fields (.mapping (arranged.map fun field => (.text field.1, field.2)))

theorem IsRecord.noText (isRecord : IsRecord fields value) :
    text? value = none := by
  cases isRecord
  rfl

theorem IsRecord.noList {α : Type} (isRecord : IsRecord fields value)
    (item? : Value → Option α) : listOf? item? value = none := by
  cases isRecord
  rfl

theorem eraseDups_of_nodup {words : List String} (distinct : words.Nodup) :
    words.eraseDups = words := by
  induction words with
  | nil => rfl
  | cons word words ih =>
    obtain ⟨fresh, distinct⟩ := List.nodup_cons.1 distinct
    have allKept : words.filter (fun other => !other == word) = words := by
      rw [List.filter_eq_self]
      intro other member
      have differ : other ≠ word := fun same => fresh (same ▸ member)
      simp [differ]
    rw [List.eraseDups_cons, allKept, ih distinct]

theorem lookup_eq_some_iff_mem {fields : List (String × Value)}
    (distinct : (fields.map Prod.fst).Nodup) {name : String} {value : Value} :
    fields.lookup name = some value ↔ (name, value) ∈ fields := by
  induction fields with
  | nil => exact iff_of_false nofun nofun
  | cons field fields ih =>
    obtain ⟨key, held⟩ := field
    obtain ⟨fresh, distinct⟩ := List.nodup_cons.1 distinct
    rw [List.lookup_cons, List.mem_cons, Prod.mk.injEq]
    by_cases same : name = key
    · subst same
      have notLater : (name, value) ∉ fields := fun later => fresh (List.mem_map.2 ⟨_, later, rfl⟩)
      simp [notLater, eq_comm]
    · simp [beq_false_of_ne same, same, ih distinct]

theorem fieldNamed?_text {names : List String} {name : String} (known : name ∈ names) :
    fieldNamed? names (.text name) = some (some name) := by
  have found : names.find? (· = name) = some name := by
    cases search : names.find? (· = name) with
    | none => exact absurd (decide_eq_true rfl) (List.find?_eq_none.1 search name known)
    | some other =>
      have same := List.find?_some search
      rw [of_decide_eq_true same]
  rw [fieldNamed?, found]

theorem entryRecord?_mapping (names : List String) (refuseOthers : Bool)
    (entries : List (Value × Value)) :
    entryRecord? names refuseOthers (.mapping entries) = (do
      let named ← entries.mapM fun entry => return (← fieldNamed? names entry.1, entry.2)
      if refuseOthers && named.any (·.1.isNone) then none
      else
        let fields := named.filterMap fun field => field.1.map fun name => (name, field.2)
        if (fields.map Prod.fst).eraseDups.length = fields.length then return fields else none) :=
  rfl

/-- In a record of known fields, each field is found wherever it stands. -/
theorem IsRecord.entryRecord (isRecord : IsRecord fields value)
    {names : List String} (known : ∀ field ∈ fields, field.1 ∈ names)
    (distinct : (fields.map Prod.fst).Nodup) (refuseOthers : Bool) :
    ∃ arranged, entryRecord? names refuseOthers value = some arranged ∧
      ∀ name, arranged.lookup name = fields.lookup name := by
  obtain ⟨perm⟩ := isRecord
  next arranged =>
  have distinctToo : (arranged.map Prod.fst).Nodup := (perm.map Prod.fst).nodup_iff.2 distinct
  refine ⟨arranged, ?_, ?_⟩
  · have named : (arranged.map fun field => (Value.text field.1, field.2)).mapM
        (fun entry => return (← fieldNamed? names entry.1, entry.2)) =
          some (arranged.map fun field => (some field.1, field.2)) := by
      rw [mapM_eq_some_iff, List.forall₂_map_left_iff, List.forall₂_map_right_iff,
        List.forall₂_same]
      intro field member
      have named := fieldNamed?_text (known field (perm.mem_iff.1 member))
      simp [named]
    rw [entryRecord?_mapping, named]
    simp [eraseDups_of_nodup distinctToo]
  · intro name
    ext held
    rw [lookup_eq_some_iff_mem distinctToo, lookup_eq_some_iff_mem distinct, perm.mem_iff]

end LootSieve.Yaml.Value
