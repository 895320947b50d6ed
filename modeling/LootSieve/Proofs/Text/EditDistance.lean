import LootSieve.Text.Distance
import Mathlib.Order.Bounds.Defs

/-! The row by row computation of the edit distance finds the least number of edits. The edits are
single characters inserted, deleted or replaced anywhere in the text, one after the other, so the
least number ranges over all ways to get from one text to the other. In between stands the
recursion on two texts whose rows the computation fills. -/

namespace LootSieve.Text

/-- A single character inserted, deleted or replaced at some place of a text. -/
inductive Edit : List Char → List Char → Prop where
  | insert (front : List Char) (char : Char) (back : List Char) :
      Edit (front ++ back) (front ++ char :: back)
  | delete (front : List Char) (char : Char) (back : List Char) :
      Edit (front ++ char :: back) (front ++ back)
  | substitute (front : List Char) (char other : Char) (back : List Char) :
      Edit (front ++ char :: back) (front ++ other :: back)

/-- A number of edits in a row that turn one text into another. -/
inductive Edits : Nat → List Char → List Char → Prop where
  | none (text : List Char) : Edits 0 text text
  | next {count : Nat} {source middle target : List Char} (before : Edits count source middle)
      (last : Edit middle target) : Edits (count + 1) source target

/-! Edits within a longer text and from its other end. -/

theorem Edit.cons {source target : List Char} (edit : Edit source target) (char : Char) :
    Edit (char :: source) (char :: target) := by
  cases edit with
  | insert front added back => exact .insert (char :: front) added back
  | delete front lost back => exact .delete (char :: front) lost back
  | substitute front old new back => exact .substitute (char :: front) old new back

theorem Edit.reverse {source target : List Char} (edit : Edit source target) :
    Edit source.reverse target.reverse := by
  cases edit with
  | insert front char back =>
    simpa using Edit.insert back.reverse char front.reverse
  | delete front char back =>
    simpa using Edit.delete back.reverse char front.reverse
  | substitute front char other back =>
    simpa using Edit.substitute back.reverse char other front.reverse

namespace Edits

variable {count : Nat} {source middle target : List Char}

theorem cons (edits : Edits count source target) (char : Char) :
    Edits count (char :: source) (char :: target) := by
  induction edits with
  | none text => exact .none (char :: text)
  | next before last ih => exact ih.next (last.cons char)

theorem reverse (edits : Edits count source target) :
    Edits count source.reverse target.reverse := by
  induction edits with
  | none text => exact .none text.reverse
  | next before last ih => exact ih.next last.reverse

theorem reverse_iff : Edits count source.reverse target.reverse ↔ Edits count source target := by
  refine ⟨fun edits => ?_, reverse⟩
  have twice := edits.reverse
  rwa [List.reverse_reverse, List.reverse_reverse] at twice

theorem zero_iff : Edits 0 source target ↔ source = target := by
  refine ⟨fun edits => ?_, fun same => same ▸ .none source⟩
  cases edits
  rfl

/-- An edit may as well come first. -/
theorem first (edit : Edit source middle) (edits : Edits count middle target) :
    Edits (count + 1) source target := by
  induction edits with
  | none text => exact .next (.none source) edit
  | next before last ih => exact (ih edit).next last

theorem delete_head (edits : Edits count source target) (char : Char) :
    Edits (count + 1) (char :: source) target :=
  first (.delete [] char source) edits

theorem insert_head (edits : Edits count source target) (char : Char) :
    Edits (count + 1) source (char :: target) :=
  edits.next (.insert [] char target)

theorem substitute_head (edits : Edits count source target) (char other : Char) :
    Edits (count + 1) (char :: source) (other :: target) :=
  first (.substitute [] char other source) (edits.cons other)

theorem of_nil (target : List Char) : Edits target.length [] target := by
  induction target with
  | nil => exact .none []
  | cons char target ih => exact ih.insert_head char

theorem to_nil (source : List Char) : Edits source.length source [] := by
  induction source with
  | nil => exact .none []
  | cons char source ih => exact ih.delete_head char

end Edits

/-! The recursion. -/

/-- The cheapest way to bring two texts in line, character by character from the head. -/
def distance : List Char → List Char → Nat
  | [], target => target.length
  | source@(_ :: _), [] => source.length
  | char :: source, other :: target =>
    min (min (distance source (other :: target) + 1) (distance (char :: source) target + 1))
      (distance source target + if char = other then 0 else 1)
termination_by source target => source.length + target.length

theorem distance_nil_left (target : List Char) : distance [] target = target.length := by
  rw [distance]

theorem distance_nil_right (source : List Char) : distance source [] = source.length := by
  cases source with
  | nil => exact distance_nil_left []
  | cons char source => rw [distance]

theorem distance_cons_cons (char other : Char) (source target : List Char) :
    distance (char :: source) (other :: target) =
      min (min (distance source (other :: target) + 1) (distance (char :: source) target + 1))
        (distance source target + if char = other then 0 else 1) := by
  rw [distance]

theorem distance_self (text : List Char) : distance text text = 0 := by
  induction text with
  | nil => exact distance_nil_left []
  | cons char text ih => simp [distance_cons_cons, ih]

/-- The distance is reached by that many edits. -/
theorem edits_distance (source target : List Char) :
    Edits (distance source target) source target := by
  induction source, target using distance.induct with
  | case1 target =>
    rw [distance_nil_left]
    exact .of_nil target
  | case2 char source =>
    rw [distance_nil_right]
    exact .to_nil (char :: source)
  | case3 char source other target deleted inserted replaced =>
    rw [distance_cons_cons]
    rcases Nat.le_total (min (distance source (other :: target) + 1)
      (distance (char :: source) target + 1))
      (distance source target + if char = other then 0 else 1) with skips | meets
    · rw [Nat.min_eq_left skips]
      rcases Nat.le_total (distance source (other :: target))
        (distance (char :: source) target) with less | more
      · rw [Nat.min_eq_left (Nat.succ_le_succ less)]
        exact deleted.delete_head char
      · rw [Nat.min_eq_right (Nat.succ_le_succ more)]
        exact inserted.insert_head other
    · rw [Nat.min_eq_right meets]
      by_cases same : char = other
      · subst same
        rw [if_pos rfl]
        exact replaced.cons char
      · rw [if_neg same]
        exact replaced.substitute_head char other

/-! A single edit of the target changes the distance by one at most. -/

theorem distance_cons_left_le (char : Char) (source target : List Char) :
    distance (char :: source) target ≤ distance source target + 1 := by
  cases target with
  | nil => simp [distance_nil_right]
  | cons other target =>
    rw [distance_cons_cons]
    omega

theorem distance_cons_right_le (source : List Char) (other : Char) (target : List Char) :
    distance source (other :: target) ≤ distance source target + 1 := by
  cases source with
  | nil => simp [distance_nil_left]
  | cons char source =>
    rw [distance_cons_cons]
    omega

theorem distance_le_cons_right (source : List Char) (other : Char) (target : List Char) :
    distance source target ≤ distance source (other :: target) + 1 := by
  induction source with
  | nil =>
    rw [distance_nil_left, distance_nil_left, List.length_cons]
    omega
  | cons char source ih =>
    have deleted := distance_cons_left_le char source target
    rw [distance_cons_cons]
    omega

theorem distance_substitute_le (source : List Char) (char other : Char) (target : List Char) :
    distance source (other :: target) ≤ distance source (char :: target) + 1 := by
  induction source with
  | nil => simp [distance_nil_left]
  | cons first source ih =>
    rw [distance_cons_cons, distance_cons_cons]
    split <;> split <;> omega

/-- What lies before the edit does not matter. -/
theorem distance_append_le {old new : List Char}
    (near : ∀ source, distance source new ≤ distance source old + 1) (front source : List Char) :
    distance source (front ++ new) ≤ distance source (front ++ old) + 1 := by
  induction front generalizing source with
  | nil => exact near source
  | cons char front shorter =>
    rw [List.cons_append, List.cons_append]
    induction source with
    | nil =>
      have lengths := shorter []
      rw [distance_nil_left, distance_nil_left] at lengths ⊢
      exact Nat.succ_le_succ lengths
    | cons first source ih =>
      have inserted := shorter (first :: source)
      have replaced := shorter source
      rw [distance_cons_cons, distance_cons_cons]
      omega

theorem distance_le_of_edit {old new : List Char} (edit : Edit old new) (source : List Char) :
    distance source new ≤ distance source old + 1 := by
  cases edit with
  | insert front char back =>
    apply distance_append_le
    exact fun source => distance_cons_right_le source char back
  | delete front char back =>
    apply distance_append_le
    exact fun source => distance_le_cons_right source char back
  | substitute front char other back =>
    apply distance_append_le
    exact fun source => distance_substitute_le source char other back

theorem distance_le_of_edits {count : Nat} {source target : List Char}
    (edits : Edits count source target) : distance source target ≤ count := by
  induction edits with
  | none text => exact Nat.le_of_eq (distance_self text)
  | @next count source middle target before last ih =>
    calc distance source target
        ≤ distance source middle + 1 := distance_le_of_edit last source
      _ ≤ count + 1 := Nat.succ_le_succ ih

theorem isLeast_distance (source target : List Char) :
    IsLeast {count | Edits count source target} (distance source target) :=
  ⟨edits_distance source target, fun _ edits => distance_le_of_edits edits⟩

/-! The rows. Source and target are read from their heads, so a row holds the distances of their
beginnings, which the recursion sees from the last character backwards. -/

/-- The distances from `source` to `passed` extended by each beginning of `rest` but the empty one;
`source` and `passed` are given backwards. -/
def distancesFrom (source passed : List Char) : List Char → List Nat
  | [] => []
  | char :: rest => distance source (char :: passed) :: distancesFrom source (char :: passed) rest

/-- The whole row of a source, which is given backwards. -/
def distanceRow (source target : List Char) : List Nat :=
  distance source [] :: distancesFrom source [] target

theorem continueRow_distances (char : Char) (source passed rest : List Char) :
    continueRow char (distance (char :: source) passed) rest
        (distance source passed :: distancesFrom source passed rest) =
      distancesFrom (char :: source) passed rest := by
  induction rest generalizing passed with
  | nil => rfl
  | cons other rest ih =>
    have here := distance_cons_cons char other source passed
    simp only [distancesFrom, continueRow, ← here, ih]

theorem nextRow_distanceRow (char : Char) (source target : List Char) :
    nextRow target (distanceRow source target) char = distanceRow (char :: source) target := by
  have first : distance source [] + 1 = distance (char :: source) [] := by
    rw [distance_nil_right, distance_nil_right, List.length_cons]
  unfold nextRow distanceRow
  dsimp only
  rw [first, continueRow_distances]

theorem foldl_nextRow (source done target : List Char) :
    source.foldl (nextRow target) (distanceRow done target) =
      distanceRow (source.reverse ++ done) target := by
  induction source generalizing done with
  | nil => rfl
  | cons char source ih =>
    rw [List.foldl_cons, nextRow_distanceRow, ih, List.reverse_cons, List.append_assoc]
    rfl

theorem distancesFrom_nil (passed rest : List Char) :
    distancesFrom [] passed rest = List.range' (passed.length + 1) rest.length := by
  induction rest generalizing passed with
  | nil => rfl
  | cons char rest ih =>
    rw [distancesFrom, ih, distance_nil_left, List.length_cons, List.length_cons, List.range'_succ]

/-- The row before the first character of the source. -/
theorem range_eq_distanceRow (target : List Char) :
    List.range (target.length + 1) = distanceRow [] target := by
  rw [distanceRow, distancesFrom_nil, distance_nil_left, List.range_eq_range', List.range'_succ]
  rfl

theorem getLastD_distancesFrom (source passed rest : List Char) :
    (distancesFrom source passed rest).getLastD (distance source passed) =
      distance source (rest.reverse ++ passed) := by
  induction rest generalizing passed with
  | nil => rfl
  | cons char rest ih =>
    rw [distancesFrom, List.getLastD_cons, ih, List.reverse_cons, List.append_assoc]
    rfl

theorem editDistance_eq_distance (source target : List Char) :
    editDistance source target = distance source.reverse target.reverse := by
  unfold editDistance
  rw [range_eq_distanceRow, foldl_nextRow, List.append_nil, distanceRow, List.getLastD_cons,
    getLastD_distancesFrom, List.append_nil]

/-- The computed distance is the length of the shortest sequence of edits between the texts. -/
theorem isLeast_editDistance (source target : List Char) :
    IsLeast {count | Edits count source target} (editDistance source target) := by
  have least := isLeast_distance source.reverse target.reverse
  simp only [Edits.reverse_iff] at least
  rwa [editDistance_eq_distance]

theorem editDistance_eq_zero_iff {source target : List Char} :
    editDistance source target = 0 ↔ source = target := by
  have least := isLeast_editDistance source target
  rw [← Edits.zero_iff]
  exact ⟨fun zero => zero ▸ least.1, fun edits => Nat.le_zero.1 (least.2 edits)⟩

end LootSieve.Text
