import LootSieve.Lexicon.Basic

/-! What a lexicon finds is one of its own ids, except where it has none to offer. -/

namespace LootSieve

theorem Table.contains_iff {β : Type} {table : Table β} {key : String} :
    table.contains key = true ↔ key ∈ table.keys :=
  List.contains_iff_mem

namespace Lexicon

variable {lexicon : Lexicon}

theorem mem_of_firstBest {α : Type} {better : α → α → Bool} {values : List α} {best : α}
    (found : firstBest better values = some best) : best ∈ values := by
  induction values generalizing best with
  | nil => cases found
  | cons head rest ih =>
    unfold firstBest at found
    split at found
    · cases found
      exact List.mem_cons_self
    · next other later =>
      split at found
      · cases found
        exact List.mem_cons_of_mem head (ih later)
      · cases found
        exact List.mem_cons_self

theorem firstBest_eq_none_iff {α : Type} {better : α → α → Bool} {values : List α} :
    firstBest better values = none ↔ values = [] := by
  cases values with
  | nil => exact iff_of_true rfl rfl
  | cons head rest =>
    refine iff_of_false ?_ (List.cons_ne_nil head rest)
    unfold firstBest
    split
    · exact nofun
    · split <;> exact nofun

/-! Affixes. -/

theorem resolveAffix_mem (known : lexicon.affixes.keys ≠ []) (line : String) :
    lexicon.resolveAffix line ∈ lexicon.affixes.keys := by
  unfold resolveAffix
  dsimp only
  split
  · next own => exact Table.contains_iff.1 own
  · cases found : firstBest (closer (Naming.canonical line.toList)) lexicon.affixes.keys with
    | none => exact absurd (firstBest_eq_none_iff.1 found) known
    | some id => exact mem_of_firstBest found

theorem resolveAffix_of_no_affixes (unknown : lexicon.affixes.keys = []) (line : String) :
    lexicon.resolveAffix line = String.ofList (Naming.canonical line.toList) := by
  unfold resolveAffix
  dsimp only
  split
  · rfl
  · rw [unknown]
    rfl

theorem resolveAffix_of_mem {line : String}
    (own : String.ofList (Naming.canonical line.toList) ∈ lexicon.affixes.keys) :
    lexicon.resolveAffix line = String.ofList (Naming.canonical line.toList) :=
  if_pos (Table.contains_iff.2 own)

/-! Uniques and aspects. -/

theorem resolveUnique?_isSome_iff {name : String} :
    (lexicon.resolveUnique? name).isSome = true ↔
      ∃ id ∈ lexicon.uniques.keys, withoutUnderscores id = withoutUnderscores name := by
  unfold resolveUnique?
  split
  · next known => exact iff_of_true rfl ⟨name, Table.contains_iff.1 known, rfl⟩
  · simp only [List.find?_isSome, decide_eq_true_eq]

theorem mem_of_resolveUnique? {name id : String} (found : lexicon.resolveUnique? name = some id) :
    id ∈ lexicon.uniques.keys := by
  unfold resolveUnique? at found
  split at found
  · next known =>
    cases found
    exact Table.contains_iff.1 known
  · exact List.mem_of_find?_eq_some found

theorem mem_of_resolveAspect? {name id : String} (found : lexicon.resolveAspect? name = some id) :
    id ∈ lexicon.aspects.keys ∧ Text.occursIn id.toList name.toList = true := by
  unfold resolveAspect? at found
  have occurs := List.find?_some found
  exact ⟨lexicon.aspectOrder_perm.mem_iff.1 (List.mem_of_find?_eq_some found), occurs⟩

theorem resolveAspect?_eq_none_iff {name : String} : lexicon.resolveAspect? name = none ↔
    ∀ id ∈ lexicon.aspects.keys, ¬ id.toList <:+: name.toList := by
  unfold resolveAspect?
  rw [List.find?_eq_none]
  simp only [lexicon.aspectOrder_perm.mem_iff, Text.occursIn_iff]

end Lexicon

end LootSieve
