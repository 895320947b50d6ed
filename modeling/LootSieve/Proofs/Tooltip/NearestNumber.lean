import LootSieve.Proofs.Tooltip.Numerals

/-!
The number nearest to the left of a place. A number that is not complete does not count: one that
follows a digit, or a digit and a point, is the rest of another. At most one number is nearest.
-/

namespace LootSieve.Tooltip
open Text

/-! Complete numbers. -/

/-- The text ends in a digit. -/
def EndsInDigit (text : List Char) : Prop :=
  ∃ front digit, Char.isDigit digit = true ∧ text = front ++ [digit]

/-- The text ends in a digit and a point. -/
def EndsInPoint (text : List Char) : Prop :=
  ∃ front digit, Char.isDigit digit = true ∧ text = front ++ [digit, '.']

/-- The text has no digits. -/
def IsDigitless (text : List Char) : Prop := ∀ char ∈ text, Char.isDigit char = false

/-- The number stands between the two texts and goes on in neither. -/
structure IsComplete (before : List Char) (number : Numeral) (rest : List Char) : Prop where
  noDigit : ¬ EndsInDigit before
  noPoint : ¬ EndsInPoint before
  ends : number.Ends rest

/-- The number is complete, and no other that is stands between it and the tail. -/
structure IsNearest (before : List Char) (number : Numeral) (gap tail : List Char) : Prop
    extends IsComplete before number (gap ++ tail) where
  last : ∀ between other after, gap = between ++ (Numeral.text other ++ after) →
    ¬ IsComplete (before ++ (number.text ++ between)) other (after ++ tail)

section Numbers

variable {text front before gap tail rest : List Char} {number other : Numeral}

theorem not_endsInDigit_nil : ¬ EndsInDigit [] := by
  intro ends
  obtain ⟨front, digit, _, same⟩ := ends
  exact List.append_ne_nil_of_right_ne_nil front (List.cons_ne_nil digit []) same.symm

theorem not_endsInPoint_nil : ¬ EndsInPoint [] := by
  intro ends
  obtain ⟨front, digit, _, same⟩ := ends
  exact List.append_ne_nil_of_right_ne_nil front (List.cons_ne_nil digit ['.']) same.symm

theorem endsInDigit_append {run : List Char} (front : List Char) (nonempty : run ≠ [])
    (digits : ∀ char ∈ run, char.isDigit = true) : EndsInDigit (front ++ run) := by
  refine ⟨front ++ run.dropLast, run.getLast nonempty, digits _ (List.getLast_mem nonempty), ?_⟩
  rw [List.append_assoc, List.dropLast_append_getLast]

theorem EndsInDigit.append (ends : EndsInDigit text) (front : List Char) :
    EndsInDigit (front ++ text) := by
  obtain ⟨middle, digit, isDigit, same⟩ := ends
  exact ⟨front ++ middle, digit, isDigit, by rw [same, List.append_assoc]⟩

theorem EndsInPoint.append (ends : EndsInPoint text) (front : List Char) :
    EndsInPoint (front ++ text) := by
  obtain ⟨middle, digit, isDigit, same⟩ := ends
  exact ⟨front ++ middle, digit, isDigit, by rw [same, List.append_assoc]⟩

namespace Numeral

/-- What is cut off the start of a number is the beginning of a number. -/
theorem endsIn_of_prefix {part : List Char} (split : number.text = part ++ rest)
    (nonempty : part ≠ []) : EndsInDigit part ∨ EndsInPoint part := by
  by_cases integer : number.IsInteger
  · rw [text_of_integer integer] at split
    refine .inl (endsInDigit_append [] nonempty fun char member => number.whole_digits char ?_)
    rw [split]
    exact List.mem_append_left rest member
  · rw [text_of_decimal integer] at split
    rcases List.append_eq_append_iff.1 split with ⟨more, same, behind⟩ | ⟨left, same, behind⟩
    · cases more with
      | nil =>
        rw [same, List.append_nil]
        exact .inl (endsInDigit_append [] number.whole_ne_nil number.whole_digits)
      | cons point more =>
        obtain ⟨isPoint, inFraction⟩ := List.cons.inj behind
        subst isPoint
        by_cases last : more = []
        · obtain ⟨front, digit, isDigit, ended⟩ :=
            endsInDigit_append [] number.whole_ne_nil number.whole_digits
          refine .inr ⟨front, digit, isDigit, ?_⟩
          rw [same, last, ← List.nil_append number.whole, ended, List.append_assoc]
          rfl
        · rw [same, ← List.singleton_append, ← List.append_assoc]
          refine .inl (endsInDigit_append _ last fun char member => number.fraction_digits char ?_)
          rw [inFraction]
          exact List.mem_append_left rest member
    · refine .inl (endsInDigit_append [] nonempty fun char member => number.whole_digits char ?_)
      rw [same]
      exact List.mem_append_left left member

theorem eq_of_ends {otherRest : List Char}
    (same : number.text ++ rest = other.text ++ otherRest) (ends : number.Ends rest)
    (otherEnds : other.Ends otherRest) : number = other := by
  have read := numeral?_of_ends ends
  rw [same, numeral?_of_ends otherEnds] at read
  have digits := congrArg Prod.fst (Option.some.inj read)
  cases number
  cases other
  cases digits
  rfl

end Numeral

/-- No complete number begins behind the nearest. -/
theorem IsNearest.eq_nil_of_complete {between after : List Char}
    (nearest : IsNearest before number gap tail)
    (complete : IsComplete (before ++ between) other (after ++ tail))
    (same : number.text ++ gap = between ++ (other.text ++ after)) : between = [] := by
  by_contra nonempty
  have inside : ∀ rest, number.text = between ++ rest → False := by
    intro rest split
    rcases Numeral.endsIn_of_prefix split nonempty with digit | point
    · exact complete.noDigit (digit.append before)
    · exact complete.noPoint (point.append before)
  rcases List.append_eq_append_iff.1 same with ⟨beyond, placed, inGap⟩ | ⟨left, split, _⟩
  · subst placed
    exact nearest.last beyond other after inGap complete
  · exact inside left split

/-- A tail has one nearest number. -/
theorem IsNearest.unique {otherBefore otherGap : List Char}
    (nearest : IsNearest before number gap tail)
    (otherNearest : IsNearest otherBefore other otherGap tail)
    (same : before ++ (number.text ++ gap) = otherBefore ++ (other.text ++ otherGap)) :
    number = other := by
  have agree : ∀ {left right : List Char}, left ++ gap = right ++ otherGap →
      left ++ (gap ++ tail) = right ++ (otherGap ++ tail) := by
    intro left right joined
    rw [← List.append_assoc, joined, List.append_assoc]
  rcases List.append_eq_append_iff.1 same with ⟨between, placed, joined⟩ | ⟨between, placed, joined⟩
  · subst placed
    have nothing := nearest.eq_nil_of_complete otherNearest.toIsComplete joined
    rw [nothing, List.nil_append] at joined
    exact Numeral.eq_of_ends (agree joined) nearest.ends otherNearest.ends
  · subst placed
    have nothing := otherNearest.eq_nil_of_complete nearest.toIsComplete joined
    rw [nothing, List.nil_append] at joined
    exact Numeral.eq_of_ends (agree joined.symm) nearest.ends otherNearest.ends

theorem Numeral.ends_gap (apart : gap ≠ []) (digitless : IsDigitless gap)
    (opens : ∃ inner, tail = '[' :: inner) : number.Ends (gap ++ tail) := by
  obtain ⟨inner, same⟩ := opens
  obtain ⟨first, more, rfl⟩ := List.exists_cons_of_ne_nil apart
  obtain ⟨firstNoDigit, moreNoDigit⟩ := List.forall_mem_cons.1 digitless
  constructor
  · intro char head
    cases head
    exact firstNoDigit
  · intro _ behind point char head
    obtain ⟨_, joined⟩ := List.cons.inj point
    subst joined same
    cases more with
    | nil =>
      cases head
      rfl
    | cons second more =>
      cases head
      exact moreNoDigit _ List.mem_cons_self

/-- Where no digit stands in between, only a point in front can make the number incomplete. -/
theorem isNearest_iff_of_gap (noDigit : ¬ EndsInDigit before) (apart : gap ≠ [])
    (digitless : IsDigitless gap) (opens : ∃ inner, tail = '[' :: inner) :
    IsNearest before number gap tail ↔ ¬ EndsInPoint before := by
  constructor
  · exact fun nearest => nearest.noPoint
  · intro noPoint
    refine ⟨⟨noDigit, noPoint, Numeral.ends_gap apart digitless opens⟩, ?_⟩
    intro between other after inGap
    obtain ⟨digit, more, isDigit, same⟩ := other.exists_text_eq_cons
    have member : digit ∈ gap := by
      rw [inGap, same]
      simp
    rw [digitless digit member] at isDigit
    cases isDigit

end Numbers

/-! The last run of digits. -/

section LastDigits

variable {before gap otherBefore otherGap run otherRun : List Char}

def lastRun (text : List Char) : List Char :=
  ((text.reverse.dropWhile notDigit).takeWhile Char.isDigit).reverse

theorem lastRun_append (noDigit : ¬ EndsInDigit before) (nonempty : run ≠ [])
    (digits : ∀ char ∈ run, char.isDigit = true) (digitless : IsDigitless gap) :
    lastRun (before ++ (run ++ gap)) = run := by
  have turned : (before ++ (run ++ gap)).reverse =
      gap.reverse ++ (run.reverse ++ before.reverse) := by
    simp
  have skipped : (gap.reverse ++ (run.reverse ++ before.reverse)).dropWhile notDigit =
      run.reverse ++ before.reverse := by
    rw [List.dropWhile_append_of_pos]
    · obtain ⟨last, more, same⟩ := List.exists_cons_of_ne_nil (List.reverse_ne_nil_iff.2 nonempty)
      have isDigit : last.isDigit = true :=
        digits last (List.mem_reverse.1 (same ▸ List.mem_cons_self))
      rw [same, List.cons_append, List.dropWhile_cons_of_neg (by rw [notDigit, isDigit]; decide)]
    · intro char member
      rw [notDigit, digitless char (List.mem_reverse.1 member)]
      rfl
  have stop : before.reverse.takeWhile Char.isDigit = [] := by
    cases turnedBefore : before.reverse with
    | nil => rfl
    | cons last more =>
      refine List.takeWhile_cons_of_neg fun isDigit => noDigit ⟨more.reverse, last, isDigit, ?_⟩
      rw [← List.reverse_reverse before, turnedBefore, List.reverse_cons]
  unfold lastRun
  rw [turned, skipped, List.takeWhile_append_of_pos, stop, List.append_nil, List.reverse_reverse]
  intro char member
  exact digits char (List.mem_reverse.1 member)

/-- Of a number behind which no digit stands, the last digits of the text are read. -/
theorem Numeral.lastRun_append {number : Numeral} (noDigit : ¬ EndsInDigit before)
    (digitless : IsDigitless gap) :
    lastRun (before ++ (number.text ++ gap)) = number.lastDigits := by
  unfold lastDigits
  by_cases integer : number.IsInteger
  · rw [if_pos integer, text_of_integer integer]
    exact Tooltip.lastRun_append noDigit number.whole_ne_nil number.whole_digits digitless
  · have split : before ++ (number.text ++ gap) =
        (before ++ (number.whole ++ ['.'])) ++ (number.fraction ++ gap) := by
      rw [text_of_decimal integer]
      simp
    rw [if_neg integer, split]
    refine Tooltip.lastRun_append ?_ integer number.fraction_digits digitless
    intro ends
    obtain ⟨front, digit, isDigit, same⟩ := ends
    rw [← List.append_assoc] at same
    cases (List.append_inj' same rfl).2
    cases isDigit

end LastDigits

end LootSieve.Tooltip
