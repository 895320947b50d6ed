import LootSieve.Proofs.Lexicon.Lookup
import LootSieve.Proofs.Text.ByteOrder
import LootSieve.Proofs.Text.EditDistance

/-! The affix of a line is the nearest id. No other id is reached from the wording of the line with
fewer edits, and of those that take as few it is the first in the order of bytes. A wording that is
itself an id is found without a search, which would have found it too. -/

namespace LootSieve.Lexicon
open Text

/-- An id at the least number of edits from a wanted text, the first one of several. -/
structure IsNearest (ids : List String) (wanted : List Char) (id : String) (least : Nat) :
    Prop where
  known : id ∈ ids
  reached : IsLeast {count | Edits count wanted id.toList} least
  nearest : ∀ other ∈ ids, ∀ count, Edits count wanted other.toList → least ≤ count
  first : ∀ other ∈ ids, Edits least wanted other.toList → bytes id ≤ bytes other

/-! The search. -/

/-- The first element of least rank: those before it rank higher, those behind it no lower. -/
theorem exists_split_of_firstBest {α : Type} {rank : α → Nat} {values : List α} {best : α}
    (found : firstBest (fun left right => rank left < rank right) values = some best) :
    ∃ front back, values = front ++ best :: back ∧
      (∀ value ∈ front, rank best < rank value) ∧ ∀ value ∈ back, rank best ≤ rank value := by
  induction values generalizing best with
  | nil => cases found
  | cons head rest ih =>
    unfold firstBest at found
    split at found
    · next nothing =>
      cases found
      rw [firstBest_eq_none_iff.1 nothing]
      exact ⟨[], [], rfl, nofun, nofun⟩
    · next other later =>
      obtain ⟨front, back, same, higher, noLower⟩ := ih later
      by_cases lower : rank other < rank head
      · rw [if_pos (decide_eq_true lower)] at found
        cases found
        exact ⟨head :: front, back, congrArg (List.cons head) same,
          List.forall_mem_cons.2 ⟨lower, higher⟩, noLower⟩
      · rw [if_neg (by simpa using lower)] at found
        cases found
        have leastOfRest : ∀ value ∈ rest, rank other ≤ rank value := by
          rw [same, List.forall_mem_append, List.forall_mem_cons]
          exact ⟨fun value member => Nat.le_of_lt (higher value member), Nat.le_refl _, noLower⟩
        exact ⟨[], rest, rfl, nofun, fun value member =>
          Nat.le_trans (Nat.le_of_not_lt lower) (leastOfRest value member)⟩

theorem isNearest_of_firstBest {ids : List String} {wanted : List Char} {id : String}
    (ascending : ids.Pairwise (· < ·)) (found : firstBest (closer wanted) ids = some id) :
    IsNearest ids wanted id (editDistance wanted id.toList) := by
  obtain ⟨front, back, same, further, noNearer⟩ := exists_split_of_firstBest found
  have nearest : ∀ other ∈ ids,
      editDistance wanted id.toList ≤ editDistance wanted other.toList := by
    rw [same, List.forall_mem_append, List.forall_mem_cons]
    exact ⟨fun other member => Nat.le_of_lt (further other member), Nat.le_refl _, noNearer⟩
  refine ⟨mem_of_firstBest found, isLeast_editDistance wanted id.toList, ?_, ?_⟩
  · intro other member count edits
    exact Nat.le_trans (nearest other member) ((isLeast_editDistance wanted other.toList).2 edits)
  · intro other member edits
    have tie := (isLeast_editDistance wanted other.toList).2 edits
    rw [bytes_le_bytes_iff]
    rw [same] at member ascending
    rcases List.mem_append.1 member with before | rest
    · exact absurd tie (Nat.not_le_of_lt (further other before))
    · rcases List.mem_cons.1 rest with rfl | behind
      · exact String.le_refl _
      · have later := (List.pairwise_cons.1 (List.pairwise_append.1 ascending).2.1).1 other behind
        exact String.not_lt.1 fun swapped => String.lt_irrefl id (String.lt_trans later swapped)

/-- An id that is itself the wanted text is the only one at distance zero. -/
theorem firstBest_of_mem {ids : List String} {wanted : List Char}
    (ascending : ids.Pairwise (· < ·)) (own : String.ofList wanted ∈ ids) :
    firstBest (closer wanted) ids = some (String.ofList wanted) := by
  cases found : firstBest (closer wanted) ids with
  | none =>
    rw [firstBest_eq_none_iff.1 found] at own
    cases own
  | some id =>
    have nearest := isNearest_of_firstBest ascending found
    have unedited : Edits 0 wanted (String.ofList wanted).toList := by
      rw [String.toList_ofList]
      exact .none wanted
    have zero := Nat.le_zero.1 (nearest.nearest _ own 0 unedited)
    rw [editDistance_eq_zero_iff.1 zero, String.ofList_toList]

/-! Affixes. -/

theorem resolveAffix_eq_search (lexicon : Lexicon) (line : String) :
    lexicon.resolveAffix line =
      (firstBest (closer (Naming.canonical line.toList)) lexicon.affixes.keys).getD
        (String.ofList (Naming.canonical line.toList)) := by
  unfold resolveAffix
  dsimp only
  split
  · next own =>
    have ascending : lexicon.affixes.keys.Pairwise (· < ·) := lexicon.affixes.ascending
    rw [firstBest_of_mem ascending (Table.contains_iff.1 own)]
    rfl
  · rfl

/-- Affixes resolve to the nearest id; a wording that is an id, to itself, as the search would have
it; and without ids, to the wording. -/
theorem resolveAffix_nearest (lexicon : Lexicon) (line : String) :
    let wanted := Naming.canonical line.toList
    let id := lexicon.resolveAffix line
    (lexicon.affixes.keys ≠ [] →
      IsNearest lexicon.affixes.keys wanted id (editDistance wanted id.toList)) ∧
    id = (firstBest (closer wanted) lexicon.affixes.keys).getD (String.ofList wanted) ∧
    (String.ofList wanted ∈ lexicon.affixes.keys → id = String.ofList wanted) ∧
    (lexicon.affixes.keys = [] → id = String.ofList wanted) := by
  refine ⟨fun known => ?_, resolveAffix_eq_search lexicon line, resolveAffix_of_mem,
    fun unknown => resolveAffix_of_no_affixes unknown line⟩
  rw [resolveAffix_eq_search]
  cases found : firstBest (closer (Naming.canonical line.toList)) lexicon.affixes.keys with
  | none => exact absurd (firstBest_eq_none_iff.1 found) known
  | some id => exact isNearest_of_firstBest lexicon.affixes.ascending found

def rageLexicon : Lexicon := Lexicon.empty.addAffixes ["maximum_rage", "maximum_mage", "armor"]

/-- Of two ids that a misread letter leaves equally far, the first in order is taken. -/
theorem misread_affix_nearest :
    rageLexicon.affixes.keys ≠ [] ∧
      rageLexicon.resolveAffix "+12 Maximum Sage" = "maximum_mage" ∧
      IsNearest rageLexicon.affixes.keys "maximum_sage".toList "maximum_mage" 1 := by
  have known : rageLexicon.affixes.keys ≠ [] := by decide
  have resolved : rageLexicon.resolveAffix "+12 Maximum Sage" = "maximum_mage" := by
    decide +kernel
  have wording : Naming.canonical "+12 Maximum Sage".toList = "maximum_sage".toList := by
    decide +kernel
  have apart : editDistance "maximum_sage".toList "maximum_mage".toList = 1 := by decide +kernel
  have nearest := (resolveAffix_nearest rageLexicon "+12 Maximum Sage").1 known
  rw [resolved, wording, apart] at nearest
  exact ⟨known, resolved, nearest⟩

end LootSieve.Lexicon
