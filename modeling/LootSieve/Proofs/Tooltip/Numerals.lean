import LootSieve.Proofs.Text.Scanning
import LootSieve.Tooltip.Arrangement

/-!
Numerals and their readers. A numeral is read in full wherever neither a digit nor a point follows
it; a reader that knows no points stops at the point, and one that asks for a point refuses numerals
without it.
-/

namespace LootSieve.Tooltip
open Text

/-- Digits and, in a decimal, a point and further digits. -/
structure Numeral where
  whole : List Char
  fraction : List Char
  whole_ne_nil : whole ≠ []
  whole_digits : ∀ char ∈ whole, char.isDigit = true
  fraction_digits : ∀ char ∈ fraction, char.isDigit = true

namespace Numeral

/-- The numeral with these digits before and after the point. -/
def ofDigits (whole fraction : String) (nonempty : whole.toList ≠ [])
    (digits : (whole.toList ++ fraction.toList).all Char.isDigit = true) : Numeral where
  whole := whole.toList
  fraction := fraction.toList
  whole_ne_nil := nonempty
  whole_digits char member := List.all_eq_true.1 digits char (List.mem_append_left _ member)
  fraction_digits char member := List.all_eq_true.1 digits char (List.mem_append_right _ member)

def IsInteger (numeral : Numeral) : Prop := numeral.fraction = []

instance (numeral : Numeral) : Decidable numeral.IsInteger :=
  inferInstanceAs (Decidable (_ = _))

def text (numeral : Numeral) : List Char :=
  if numeral.IsInteger then numeral.whole else numeral.whole ++ '.' :: numeral.fraction

/-- The double that the digits denote. -/
def value (numeral : Numeral) : Float := decimalValue numeral.whole numeral.fraction

/-- The digits after the point, or all digits if there is none. -/
def lastDigits (numeral : Numeral) : List Char :=
  if numeral.IsInteger then numeral.whole else numeral.fraction

end Numeral

/-- The text does not go on with a digit or a point. -/
def EndsNumeral (rest : List Char) : Prop := ∀ char ∈ rest.head?, isNumeralChar char = false

theorem endsNumeral_nil : EndsNumeral [] := nofun

theorem endsNumeral_cons {char : Char} (other : isNumeralChar char = false) (rest : List Char) :
    EndsNumeral (char :: rest) := by
  intro head first
  cases first
  exact other

theorem afterPhrase?_point_eq_none {rest : List Char} (ends : EndsNumeral rest) :
    afterPhrase? ['.'] rest = none := by
  cases rest with
  | nil => rfl
  | cons char rest =>
    refine if_neg ?_
    rintro rfl
    cases ends '.' rfl

theorem isNumeralChar_of_isDigit {char : Char} (digit : char.isDigit = true) :
    isNumeralChar char = true := by
  rw [isNumeralChar, digit, Bool.true_or]

theorem not_isDigit_of_not_isNumeralChar {char : Char} (other : isNumeralChar char = false) :
    char.isDigit = false :=
  (Bool.or_eq_false_iff.1 other).1

/-! Runs of digits. -/

section Digits

variable {number rest text : List Char}

theorem digits?_eq_none (noDigit : ∀ char ∈ text.head?, char.isDigit = false) :
    digits? text = none := by
  cases text with
  | nil => rfl
  | cons char rest =>
    have first : char.isDigit = false := noDigit char rfl
    simp [digits?, List.span_eq_takeWhile_dropWhile, first]

theorem digits?_eq_none_iff :
    digits? text = none ↔ ∀ char ∈ text.head?, char.isDigit = false := by
  refine ⟨fun nothing char head => ?_, digits?_eq_none⟩
  obtain ⟨rest, rfl⟩ := List.head?_eq_some_iff.1 head
  refine Bool.eq_false_iff.2 fun digit => ?_
  simp [digits?, List.span_eq_takeWhile_dropWhile, digit] at nothing

theorem span_digits_append (digits : ∀ char ∈ number, char.isDigit = true)
    (stop : ∀ char ∈ rest.head?, char.isDigit = false) :
    (number ++ rest).span Char.isDigit = (number, rest) := by
  rw [List.span_eq_takeWhile_dropWhile, List.takeWhile_append_of_pos digits,
    List.dropWhile_append_of_pos digits]
  cases rest with
  | nil => simp
  | cons char rest => simp [stop char rfl]

theorem digits?_append (nonempty : number ≠ []) (digits : ∀ char ∈ number, char.isDigit = true)
    (stop : ∀ char ∈ rest.head?, char.isDigit = false) :
    digits? (number ++ rest) = some (number, rest) := by
  unfold digits?
  rw [span_digits_append digits stop]
  cases number with
  | nil => exact absurd rfl nonempty
  | cons => rfl

theorem digits?_eq_some_iff : digits? text = some (number, rest) ↔
    number ++ rest = text ∧ number ≠ [] ∧ (∀ char ∈ number, char.isDigit = true) ∧
      ∀ char ∈ rest.head?, char.isDigit = false := by
  constructor
  · intro cut
    unfold digits? at cut
    split at cut
    · cases cut
    · next other nonempty =>
      have same := Option.some.inj cut
      rw [same] at nonempty
      rw [List.span_eq_takeWhile_dropWhile] at same
      cases same
      refine ⟨List.takeWhile_append_dropWhile, ?_, List.all_eq_true.1 List.all_takeWhile, ?_⟩
      · intro nothing
        exact nonempty _ (by rw [nothing])
      · intro char head
        have stop := List.head?_dropWhile_not Char.isDigit text
        rwa [head] at stop
  · intro parts
    obtain ⟨joined, nonempty, digits, stop⟩ := parts
    rw [← joined]
    exact digits?_append nonempty digits stop

theorem append_of_digits? (cut : digits? text = some (number, rest)) : number ++ rest = text :=
  (digits?_eq_some_iff.1 cut).1

end Digits

/-! Numerals. -/

namespace Numeral

variable {numeral : Numeral} {rest : List Char}

theorem text_of_integer (integer : numeral.IsInteger) : numeral.text = numeral.whole :=
  if_pos integer

theorem text_of_decimal (decimal : ¬ numeral.IsInteger) :
    numeral.text = numeral.whole ++ '.' :: numeral.fraction :=
  if_neg decimal

theorem isNumeralChar_of_mem_text {char : Char} (member : char ∈ numeral.text) :
    isNumeralChar char = true := by
  by_cases integer : numeral.IsInteger
  · rw [text_of_integer integer] at member
    exact isNumeralChar_of_isDigit (numeral.whole_digits char member)
  · rw [text_of_decimal integer, List.mem_append, List.mem_cons] at member
    rcases member with inWhole | rfl | inFraction
    · exact isNumeralChar_of_isDigit (numeral.whole_digits char inWhole)
    · rfl
    · exact isNumeralChar_of_isDigit (numeral.fraction_digits char inFraction)

theorem not_mem_text {char : Char} (other : isNumeralChar char = false) : char ∉ numeral.text := by
  intro member
  rw [isNumeralChar_of_mem_text member] at other
  cases other

theorem span_text_append (ends : EndsNumeral rest) :
    (numeral.text ++ rest).span isNumeralChar = (numeral.text, rest) := by
  rw [List.span_eq_takeWhile_dropWhile,
    List.takeWhile_append_of_pos fun char => isNumeralChar_of_mem_text,
    List.dropWhile_append_of_pos fun char => isNumeralChar_of_mem_text]
  cases rest with
  | nil => simp
  | cons char rest => simp [ends char rfl]

theorem exists_text_eq_cons (numeral : Numeral) :
    ∃ digit rest, digit.isDigit = true ∧ numeral.text = digit :: rest := by
  obtain ⟨digit, more, whole⟩ := List.exists_cons_of_ne_nil numeral.whole_ne_nil
  have first : digit.isDigit = true :=
    numeral.whole_digits digit (whole ▸ List.mem_cons_self)
  by_cases integer : numeral.IsInteger
  · exact ⟨digit, more, first, by rw [text_of_integer integer, whole]⟩
  · exact ⟨digit, more ++ '.' :: numeral.fraction, first, by
      rw [text_of_decimal integer, whole, List.cons_append]⟩

theorem text_ne_nil (numeral : Numeral) : numeral.text ≠ [] := by
  obtain ⟨digit, rest, _, same⟩ := numeral.exists_text_eq_cons
  rw [same]
  exact List.cons_ne_nil digit rest

/-- Wherever a numeral is cut, digits follow, or the point and digits. -/
theorem suffix_text_cases {part : List Char} (inside : part <:+ numeral.text)
    (nonempty : part ≠ []) :
    ∃ digit more, digit.isDigit = true ∧ (part = digit :: more ∨ part = '.' :: digit :: more) := by
  have run : ∀ run rest : List Char, run ≠ [] → (∀ char ∈ run, char.isDigit = true) →
      ∃ digit more, digit.isDigit = true ∧ run ++ rest = digit :: more := by
    intro run rest nonempty digits
    obtain ⟨digit, more, rfl⟩ := List.exists_cons_of_ne_nil nonempty
    exact ⟨digit, more ++ rest, digits digit List.mem_cons_self, rfl⟩
  by_cases integer : numeral.IsInteger
  · rw [text_of_integer integer] at inside
    obtain ⟨digit, more, isDigit, same⟩ := run part [] nonempty fun char member =>
      numeral.whole_digits char (inside.subset member)
    exact ⟨digit, more, isDigit, .inl (List.append_nil part ▸ same)⟩
  rw [text_of_decimal integer] at inside
  rcases suffix_append_iff.1 inside with ⟨front, inWhole, frontNonempty, rfl⟩ | afterWhole
  · obtain ⟨digit, more, isDigit, same⟩ := run front ('.' :: numeral.fraction) frontNonempty
      fun char member => numeral.whole_digits char (inWhole.subset member)
    exact ⟨digit, more, isDigit, .inl same⟩
  rcases List.suffix_cons_iff.1 afterWhole with rfl | inFraction
  · obtain ⟨digit, more, isDigit, same⟩ := run numeral.fraction [] integer numeral.fraction_digits
    exact ⟨digit, more, isDigit, .inr (by rw [← same, List.append_nil])⟩
  · obtain ⟨digit, more, isDigit, same⟩ := run part [] nonempty fun char member =>
      numeral.fraction_digits char (inFraction.subset member)
    exact ⟨digit, more, isDigit, .inl (List.append_nil part ▸ same)⟩

theorem digits?_integer (integer : numeral.IsInteger) (stop : EndsNumeral rest) :
    digits? (numeral.text ++ rest) = some (numeral.whole, rest) := by
  rw [text_of_integer integer]
  exact digits?_append numeral.whole_ne_nil numeral.whole_digits
    fun char head => not_isDigit_of_not_isNumeralChar (stop char head)

theorem digits?_decimal (decimal : ¬ numeral.IsInteger) :
    digits? (numeral.text ++ rest) = some (numeral.whole, '.' :: numeral.fraction ++ rest) := by
  rw [text_of_decimal decimal, List.append_assoc]
  refine digits?_append numeral.whole_ne_nil numeral.whole_digits fun char head => ?_
  cases head
  rfl

theorem digits?_fraction (decimal : ¬ numeral.IsInteger) (stop : EndsNumeral rest) :
    digits? (numeral.fraction ++ rest) = some (numeral.fraction, rest) :=
  digits?_append decimal numeral.fraction_digits
    fun char head => not_isDigit_of_not_isNumeralChar (stop char head)

/-- The number does not go on in the text behind it. -/
structure Ends (numeral : Numeral) (rest : List Char) : Prop where
  noDigit : ∀ char ∈ rest.head?, char.isDigit = false
  noFraction : numeral.IsInteger → ∀ more, rest = '.' :: more →
    ∀ char ∈ more.head?, char.isDigit = false

theorem numeral?_of_ends (ends : numeral.Ends rest) :
    numeral? (numeral.text ++ rest) = some ((numeral.whole, numeral.fraction), rest) := by
  unfold numeral?
  by_cases integer : numeral.IsInteger
  · rw [text_of_integer integer,
      digits?_append numeral.whole_ne_nil numeral.whole_digits ends.noDigit,
      show numeral.fraction = [] from integer]
    dsimp only [Option.bind_eq_bind, Option.bind_some]
    split
    · next more =>
      rw [digits?_eq_none (ends.noFraction integer more rfl)]
      rfl
    · rfl
  · rw [digits?_decimal integer]
    simp only [Option.bind_eq_bind, Option.bind_some, List.cons_append,
      digits?_append integer numeral.fraction_digits ends.noDigit]
    rfl

theorem ends_of_endsNumeral (stop : EndsNumeral rest) : numeral.Ends rest where
  noDigit char head := not_isDigit_of_not_isNumeralChar (stop char head)
  noFraction _ more same := by
    subst same
    cases stop '.' rfl

theorem numeral?_append (stop : EndsNumeral rest) :
    numeral? (numeral.text ++ rest) = some ((numeral.whole, numeral.fraction), rest) :=
  numeral?_of_ends (ends_of_endsNumeral stop)

theorem integer?_append (integer : numeral.IsInteger) (stop : EndsNumeral rest) :
    integer? (numeral.text ++ rest) = some (numeral.value, rest) := by
  rw [integer?, digits?_integer integer stop, value, show numeral.fraction = [] from integer]
  rfl

theorem integer?_decimal (decimal : ¬ numeral.IsInteger) :
    integer? (numeral.text ++ rest) =
      some (decimalValue numeral.whole [], '.' :: numeral.fraction ++ rest) := by
  rw [integer?, digits?_decimal decimal]
  rfl

theorem pointed?_append (decimal : ¬ numeral.IsInteger) (stop : EndsNumeral rest) :
    pointed? (numeral.text ++ rest) = some (numeral.value, rest) := by
  rw [pointed?, digits?_decimal decimal]
  simp only [Option.bind_eq_bind, Option.bind_some, List.cons_append, afterPhrase?, if_pos,
    digits?_fraction decimal stop]
  rfl

theorem pointed?_integer (integer : numeral.IsInteger) (stop : EndsNumeral rest) :
    pointed? (numeral.text ++ rest) = none := by
  rw [pointed?, digits?_integer integer stop]
  simp [afterPhrase?_point_eq_none stop]

theorem readDecimal?_text (numeral : Numeral) : readDecimal? numeral.text = some numeral.value := by
  have noRest : ∀ digits : List Char, (∀ char ∈ digits, char.isDigit = true) →
      digits.span Char.isDigit = (digits, []) := by
    intro digits all
    have cut : (digits ++ []).span Char.isDigit = (digits, []) := span_digits_append all nofun
    rwa [List.append_nil] at cut
  have nonempty := numeral.whole_ne_nil
  unfold readDecimal? takeDecimal? value
  by_cases integer : numeral.IsInteger
  · rw [text_of_integer integer, show numeral.fraction = [] from integer,
      noRest _ numeral.whole_digits]
    simp [nonempty]
  · rw [text_of_decimal integer, span_digits_append numeral.whole_digits fun char head => by
      cases head
      rfl]
    simp only [noRest _ numeral.fraction_digits]
    simp [nonempty]

theorem firstNumber?_append (stop : EndsNumeral rest) (noComma : ',' ∉ rest) :
    firstNumber? (numeral.text ++ rest) = some numeral.value := by
  have kept : (numeral.text ++ rest).filter (· ≠ ',') = numeral.text ++ rest := by
    rw [List.filter_eq_self]
    intro char member
    rw [decide_eq_true_eq]
    rintro rfl
    rcases List.mem_append.1 member with inNumeral | inRest
    · cases isNumeralChar_of_mem_text inNumeral
    · exact noComma inRest
  unfold firstNumber?
  rw [kept, leftmost_of_head (numeral?_append stop)]
  rfl

end Numeral

/-! Texts that hold a number. -/

theorem isSome_numeral? (text : List Char) :
    (numeral? text).isSome = true ↔ ∃ digit rest, digit.isDigit = true ∧ text = digit :: rest := by
  cases text with
  | nil => exact iff_of_false nofun nofun
  | cons char rest =>
    by_cases digit : char.isDigit = true
    · refine iff_of_true ?_ ⟨char, rest, digit, rfl⟩
      obtain ⟨taken, left, cut⟩ : ∃ taken left, digits? (char :: rest) = some (taken, left) := by
        simp [digits?, List.span_eq_takeWhile_dropWhile, digit]
      unfold numeral?
      rw [cut]
      dsimp only [Option.bind_eq_bind, Option.bind_some]
      split
      · split <;> rfl
      · rfl
    · refine iff_of_false ?_ ?_
      · simp [numeral?, digits?, List.span_eq_takeWhile_dropWhile, digit]
      · rintro ⟨_, _, isDigit, same⟩
        cases same
        exact digit isDigit

theorem isSome_firstNumber? (line : List Char) :
    (firstNumber? line).isSome = true ↔ hasDigit line = true := by
  unfold firstNumber? hasDigit
  rw [Option.isSome_map, isSome_leftmost_iff, List.any_eq_true]
  simp only [isSome_numeral?]
  constructor
  · rintro ⟨_, within, digit, rest, isDigit, rfl⟩
    exact ⟨digit, (List.mem_filter.1 (within.subset List.mem_cons_self)).1, isDigit⟩
  · rintro ⟨digit, member, isDigit⟩
    have kept : digit ∈ line.filter (· ≠ ',') := by
      rw [List.mem_filter, decide_eq_true_eq]
      refine ⟨member, ?_⟩
      rintro rfl
      cases isDigit
    obtain ⟨before, after, split⟩ := List.append_of_mem kept
    exact ⟨digit :: after, ⟨before, split.symm⟩, digit, after, isDigit, rfl⟩

end LootSieve.Tooltip
