/-! Tables with ascending keys. Adding an entry under a key that is present replaces the entry. -/

namespace LootSieve

structure Table (β : Type) where
  entries : List (String × β)
  ascending : (entries.map Prod.fst).Pairwise (· < ·)

namespace Table

variable {β : Type}

def insertEntry (key : String) (value : β) : List (String × β) → List (String × β)
  | [] => [(key, value)]
  | (head, other) :: rest =>
    if key < head then (key, value) :: (head, other) :: rest
    else if key = head then (key, value) :: rest
    else (head, other) :: insertEntry key value rest

theorem mem_keys_insertEntry (key wanted : String) (value : β) (entries : List (String × β)) :
    wanted ∈ (insertEntry key value entries).map Prod.fst ↔
      wanted = key ∨ wanted ∈ entries.map Prod.fst := by
  induction entries with
  | nil => simp [insertEntry]
  | cons entry rest inductive_step =>
    obtain ⟨head, other⟩ := entry
    by_cases before : key < head
    · simp [insertEntry, before]
    · by_cases same : key = head
      · subst same
        simp [insertEntry]
      · rw [insertEntry, if_neg before, if_neg same, List.map_cons, List.mem_cons, inductive_step,
          List.map_cons, List.mem_cons]
        exact or_left_comm

theorem insertEntry_ascending (key : String) (value : β) (entries : List (String × β))
    (ascending : (entries.map Prod.fst).Pairwise (· < ·)) :
    ((insertEntry key value entries).map Prod.fst).Pairwise (· < ·) := by
  induction entries with
  | nil => simp [insertEntry]
  | cons entry rest inductive_step =>
    obtain ⟨head, other⟩ := entry
    obtain ⟨headFirst, restAscending⟩ := List.pairwise_cons.1 ascending
    by_cases before : key < head
    · rw [insertEntry, if_pos before]
      refine List.pairwise_cons.2 ⟨fun wanted member => ?_, ascending⟩
      rcases List.mem_cons.1 member with rfl | later
      · exact before
      · exact String.lt_trans before (headFirst wanted later)
    · by_cases same : key = head
      · subst same
        rw [insertEntry, if_neg before, if_pos rfl]
        exact ascending
      · rw [insertEntry, if_neg before, if_neg same]
        refine List.pairwise_cons.2 ⟨fun wanted member => ?_, inductive_step restAscending⟩
        rcases (mem_keys_insertEntry key wanted value rest).1 member with rfl | later
        · apply Decidable.byContradiction
          intro notAfter
          exact same (String.le_antisymm (String.not_lt.1 notAfter) (String.not_lt.1 before))
        · exact headFirst wanted later

def empty : Table β := ⟨[], List.Pairwise.nil⟩

def insert (table : Table β) (key : String) (value : β) : Table β :=
  ⟨insertEntry key value table.entries, insertEntry_ascending key value _ table.ascending⟩

def insertAll (table : Table β) (entries : List (String × β)) : Table β :=
  entries.foldl (fun table (key, value) => table.insert key value) table

def keys (table : Table β) : List String := table.entries.map Prod.fst

def get? (table : Table β) (key : String) : Option β := table.entries.lookup key

def contains (table : Table β) (key : String) : Bool := table.keys.contains key

@[simp] theorem mem_keys_insert (table : Table β) (key wanted : String) (value : β) :
    wanted ∈ (table.insert key value).keys ↔ wanted = key ∨ wanted ∈ table.keys :=
  mem_keys_insertEntry key wanted value table.entries

end Table

end LootSieve
