import LootSieve.Proofs.Text.Spelling
import LootSieve.Proofs.Tooltip.Numerals

/-! The parts of a line that shows a roll: a value, a wording and brackets. A bracket opens a number
if a digit or a point follows it, and between a value and its bounds there is no such place. -/

namespace LootSieve.Tooltip
open Text

/-- What brackets show: the one number that a roll can be, or the range it comes from. -/
inductive Bounds where
  | only (number : Numeral)
  | range (low high : Numeral)

namespace Bounds

/-- The text after the opening bracket. -/
def inner : Bounds → List Char
  | only number => number.text ++ [']']
  | range low high => low.text ++ (" - ".toList ++ (high.text ++ [']']))

def text (bounds : Bounds) : List Char := '[' :: bounds.inner

end Bounds

/-- Characters between a value and its brackets: no part of a number and no line break. -/
def IsFiller (filler : List Char) : Prop :=
  ∀ char ∈ filler, isNumeralChar char = false ∧ char ≠ '\n'

/-- A bracket opens before a digit or a point. -/
def OpensNumber (text : List Char) : Prop :=
  ∃ figure rest, text = '[' :: figure :: rest ∧ isNumeralChar figure = true

/-! Places where a number is opened. -/

section Places

variable {text rest filler tail : List Char} {bounds : Bounds}

theorem not_opensNumber_of_head (other : ∀ char ∈ text.head?, char ≠ '[') : ¬ OpensNumber text := by
  rintro ⟨figure, rest, rfl, _⟩
  exact other '[' rfl rfl

theorem not_opensNumber_of_mem (closed : '[' ∉ text) : ¬ OpensNumber text := by
  rintro ⟨figure, rest, rfl, _⟩
  exact closed List.mem_cons_self

theorem IsFiller.endsNumeral (isFiller : IsFiller filler) (ends : EndsNumeral rest) :
    EndsNumeral (filler ++ rest) := by
  cases filler with
  | nil => exact ends
  | cons char filler => exact endsNumeral_cons (isFiller char List.mem_cons_self).1 _

theorem IsFiller.suffix (isFiller : IsFiller filler) (within : tail <:+ filler) : IsFiller tail :=
  fun char member => isFiller char (within.subset member)

theorem endsNumeral_dash (rest : List Char) : EndsNumeral (" - ".toList ++ rest) :=
  endsNumeral_cons rfl _

theorem endsNumeral_close (rest : List Char) : EndsNumeral (']' :: rest) :=
  endsNumeral_cons rfl rest

theorem endsNumeral_bounds (bounds : Bounds) : EndsNumeral bounds.text :=
  endsNumeral_cons rfl bounds.inner

theorem IsFiller.not_opensNumber (isFiller : IsFiller filler) (nonempty : filler ≠ [])
    (ends : EndsNumeral rest) : ¬ OpensNumber (filler ++ rest) := by
  cases filler with
  | nil => exact absurd rfl nonempty
  | cons char filler =>
    rintro ⟨figure, left, same, isFigure⟩
    obtain ⟨_, after⟩ := List.cons.inj same
    have notFigure := (isFiller.suffix (List.suffix_cons char filler)).endsNumeral ends figure
      (congrArg List.head? after)
    rw [isFigure] at notFigure
    cases notFigure

theorem bracket_not_mem_text (numeral : Numeral) : '[' ∉ numeral.text :=
  Numeral.not_mem_text rfl

theorem bracket_not_mem_inner (bounds : Bounds) : '[' ∉ bounds.inner := by
  cases bounds with
  | only number => simp [Bounds.inner, bracket_not_mem_text number]
  | range low high => simp [Bounds.inner, bracket_not_mem_text low, bracket_not_mem_text high]

theorem not_opensNumber_numeral {numeral : Numeral} (within : tail <:+ numeral.text)
    (nonempty : tail ≠ []) : ¬ OpensNumber (tail ++ rest) := by
  apply not_opensNumber_of_head
  cases tail with
  | nil => exact absurd rfl nonempty
  | cons char tail =>
    intro head first
    cases first
    rintro rfl
    exact bracket_not_mem_text numeral (within.subset List.mem_cons_self)

/-- After the value the bounds are the one place where a number is opened. -/
theorem eq_bounds_after_value (isFiller : IsFiller filler)
    (within : tail <:+ filler ++ bounds.text) (opens : OpensNumber tail) : tail = bounds.text := by
  rcases suffix_append_iff.1 within with ⟨part, inFiller, nonempty, rfl⟩ | inBounds
  · exact absurd opens
      ((isFiller.suffix inFiller).not_opensNumber nonempty (endsNumeral_bounds bounds))
  rcases List.suffix_cons_iff.1 inBounds with rfl | later
  · rfl
  · exact absurd opens
      (not_opensNumber_of_mem fun member => bracket_not_mem_inner bounds (later.subset member))

theorem eq_bounds_of_opensNumber (value : Numeral) (isFiller : IsFiller filler)
    (within : tail <:+ value.text ++ (filler ++ bounds.text)) (opens : OpensNumber tail) :
    tail = bounds.text := by
  rcases suffix_append_iff.1 within with ⟨part, inValue, nonempty, rfl⟩ | within
  · exact absurd opens (not_opensNumber_numeral inValue nonempty)
  · exact eq_bounds_after_value isFiller within opens

theorem not_opensNumber_unbounded (value : Numeral) (isFiller : IsFiller filler)
    (within : tail <:+ value.text ++ filler) : ¬ OpensNumber tail := by
  rcases suffix_append_iff.1 within with ⟨part, inValue, nonempty, rfl⟩ | inFiller
  · exact not_opensNumber_numeral inValue nonempty
  · by_cases nonempty : tail = []
    · subst nonempty
      exact not_opensNumber_of_mem List.not_mem_nil
    · have opens := (isFiller.suffix inFiller).not_opensNumber nonempty endsNumeral_nil
      rwa [List.append_nil] at opens

end Places

/-! Wordings between value and brackets. -/

/-- Letters and spaces. -/
def IsWording (text : List Char) : Prop := ∀ char ∈ text, isAlphabetic char = true ∨ char = ' '

instance (text : List Char) : Decidable (IsWording text) :=
  List.decidableBAll (fun char => isAlphabetic char = true ∨ char = ' ') text

namespace IsWording

variable {wording tail : List Char} (isWording : IsWording wording)

include isWording

theorem not_mem {char : Char} (noLetter : isAlphabetic char = false) (noSpace : char ≠ ' ') :
    char ∉ wording := by
  intro member
  rcases isWording char member with letter | space
  · rw [noLetter] at letter
    cases letter
  · exact noSpace space

theorem isFiller : IsFiller wording := by
  intro char member
  rcases isWording char member with letter | rfl
  · constructor
    · rw [isNumeralChar, Bool.or_eq_false_iff]
      constructor
      · by_contra digit
        rw [not_alphabetic_of_isDigit (Bool.not_eq_false _ ▸ digit)] at letter
        cases letter
      · rw [decide_eq_false_iff_not]
        rintro rfl
        revert letter
        decide
    · rintro rfl
      revert letter
      decide
  · exact ⟨rfl, by decide⟩

theorem isFiller_box : IsFiller ('[' :: ']' :: wording) := by
  rw [IsFiller, List.forall_mem_cons, List.forall_mem_cons]
  exact ⟨⟨rfl, by decide⟩, ⟨rfl, by decide⟩, isWording.isFiller⟩

end IsWording

/-! The characters of a line. -/

theorem isBlank_of_isNumeralChar {figure : Char} (isFigure : isNumeralChar figure = true) :
    isBlank figure = false := by
  rcases Bool.or_eq_true_iff.1 isFigure with digit | point
  · have checked : ∀ code < 128, (Char.ofNat code).isDigit = true →
        isBlank (Char.ofNat code) = false := by
      decide
    rw [← Char.ofNat_toNat figure] at digit ⊢
    exact checked _ (Char.ofNat_toNat figure ▸ ascii_of_isDigit digit) digit
  · rw [decide_eq_true_eq] at point
    subst point
    decide

def isLineChar (char : Char) : Bool :=
  isNumeralChar char || isAlphabetic char || [' ', '-', '[', ']'].contains char

def IsLineText (text : List Char) : Prop := ∀ char ∈ text, isLineChar char = true

instance (text : List Char) : Decidable (IsLineText text) :=
  List.decidableBAll (fun char => isLineChar char = true) text

section IsLineText

variable {front rest text : List Char}

theorem IsLineText.not_mem (isLineText : IsLineText text) {char : Char}
    (foreign : isLineChar char = false) : char ∉ text := by
  intro member
  rw [isLineText char member] at foreign
  cases foreign

theorem IsLineText.append (inFront : IsLineText front) (inRest : IsLineText rest) :
    IsLineText (front ++ rest) :=
  List.forall_mem_append.2 ⟨inFront, inRest⟩

theorem isLineText_numeral (numeral : Numeral) : IsLineText numeral.text := by
  intro char member
  rw [isLineChar, Numeral.isNumeralChar_of_mem_text member, Bool.true_or, Bool.true_or]

theorem IsWording.isLineText (isWording : IsWording text) : IsLineText text := by
  intro char member
  rcases isWording char member with letter | rfl
  · rw [isLineChar, letter, Bool.or_true, Bool.true_or]
  · rfl

theorem isLineText_bounds (bounds : Bounds) : IsLineText bounds.text := by
  have bracket : IsLineText ['['] := by decide
  have close : IsLineText [']'] := by decide
  have dash : IsLineText " - ".toList := by decide
  cases bounds with
  | only number => exact bracket.append ((isLineText_numeral number).append close)
  | range low high =>
    exact bracket.append ((isLineText_numeral low).append
      (dash.append ((isLineText_numeral high).append close)))

end IsLineText

/-! Lines on which every bracket opens a number. -/

def BracketsOpen (text : List Char) : Prop :=
  ∀ tail, tail <:+ text → tail.head? = some '[' → OpensNumber tail

section BracketsOpen

variable {front rest : List Char}

theorem bracketsOpen_nil : BracketsOpen [] := by
  intro tail within head
  rw [List.suffix_nil.1 within] at head
  cases head

theorem BracketsOpen.append (opens : BracketsOpen rest) (unbracketed : '[' ∉ front) :
    BracketsOpen (front ++ rest) := by
  intro tail within head
  rcases suffix_append_iff.1 within with ⟨part, inFront, nonempty, rfl⟩ | inRest
  · rw [List.head?_append_of_ne_nil _ nonempty] at head
    exact absurd (inFront.subset (List.mem_of_head? head)) unbracketed
  · exact opens tail inRest head

theorem opensNumber_bounds (bounds : Bounds) (rest : List Char) :
    OpensNumber (bounds.text ++ rest) := by
  cases bounds with
  | only number =>
    obtain ⟨digit, more, isDigit, same⟩ := number.exists_text_eq_cons
    refine ⟨digit, more ++ [']'] ++ rest, ?_, isNumeralChar_of_isDigit isDigit⟩
    rw [Bounds.text, Bounds.inner, same]
    rfl
  | range low high =>
    obtain ⟨digit, more, isDigit, same⟩ := low.exists_text_eq_cons
    refine ⟨digit, more ++ (" - ".toList ++ (high.text ++ [']'])) ++ rest, ?_,
      isNumeralChar_of_isDigit isDigit⟩
    rw [Bounds.text, Bounds.inner, same]
    rfl

theorem BracketsOpen.bounds (opens : BracketsOpen rest) (bounds : Bounds) :
    BracketsOpen (bounds.text ++ rest) := by
  intro tail within head
  rcases List.suffix_cons_iff.1 within with rfl | later
  · exact opensNumber_bounds bounds rest
  · exact opens.append (bracket_not_mem_inner bounds) tail later head

theorem bracketsOpen_text (bounds : Bounds) : BracketsOpen bounds.text := by
  have opens := bracketsOpen_nil.bounds bounds
  rwa [List.append_nil] at opens

end BracketsOpen

end LootSieve.Tooltip
