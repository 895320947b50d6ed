import LootSieve.Proofs.Tooltip.Arrangements
import LootSieve.Proofs.Tooltip.LineCleaning
import LootSieve.Tooltip.Decoding

/-! A line without signs, durations and annotations. Of the value, the wording, the bounds and the
blanks that are left, trimming takes blanks only, and what the line decodes to rests on value and
bounds. -/

namespace LootSieve.Tooltip
open Text

/-- The text of bounds, if there are any. -/
def Bounds.shown : Option Bounds → List Char
  | none => []
  | some bounds => bounds.text

/-- What value and bounds give. A value without bounds is a greater one. -/
def reading? (value : Numeral) : Option Bounds → Option (Arrangement × Roll)
  | none => some (.bare, .bare value.value)
  | some bounds => bounds.reading? value

/-- What they give with an empty bracket between them. -/
def boxedReading? (value : Numeral) : Option Bounds → Option (Arrangement × Roll)
  | none => boxReading? value
  | some bounds => (bounds.reading? value).or (boxReading? value)

/-- What follows the value: a wording that parts it from bounds, and blanks at the end. -/
structure IsStripped (wording : List Char) (bounds : Option Bounds) (pad : List Char) : Prop where
  isWording : IsWording wording
  parted : bounds ≠ none → wording ≠ []
  blank : ∀ char ∈ pad, char = ' '

/-! Cleaning has nothing to take from a wording, from bounds and from blanks. -/

section Wording

variable {wording rest : List Char} (isWording : IsWording wording)

include isWording

theorem IsWording.plain : ∀ char ∈ wording, char.isDigit = false := fun char member =>
  not_isDigit_of_not_isNumeralChar (isWording.isFiller char member).1

theorem IsWording.guarded (guarded : Guarded rest) : Guarded (wording ++ rest) :=
  guarded.append isWording.plain

theorem IsWording.uncounted (uncounted : Uncounted rest) (guarded : Guarded rest) :
    Uncounted (wording ++ rest) :=
  uncounted.plain guarded isWording.plain

theorem IsWording.bracketsOpen (opens : BracketsOpen rest) : BracketsOpen (wording ++ rest) :=
  opens.append (isWording.not_mem rfl (by decide))

end Wording

section Shown

variable {rest : List Char} (bounds : Option Bounds)

theorem isLineText_shown (isLineText : IsLineText rest) :
    IsLineText (Bounds.shown bounds ++ rest) := by
  cases bounds with
  | none => exact isLineText
  | some bounds => exact (isLineText_bounds bounds).append isLineText

theorem guarded_shown (guarded : Guarded rest) : Guarded (Bounds.shown bounds ++ rest) := by
  cases bounds with
  | none => exact guarded
  | some bounds => exact guarded_bracket _

theorem uncounted_shown (uncounted : Uncounted rest) (guarded : Guarded rest) :
    Uncounted (Bounds.shown bounds ++ rest) := by
  cases bounds with
  | none => exact uncounted
  | some bounds => exact uncounted.bounds guarded bounds

theorem bracketsOpen_shown (opens : BracketsOpen rest) :
    BracketsOpen (Bounds.shown bounds ++ rest) := by
  cases bounds with
  | none => exact opens
  | some bounds => exact opens.bounds bounds

end Shown

section Pad

variable {pad : List Char} (blank : ∀ char ∈ pad, char = ' ')

include blank

theorem isWording_pad : IsWording pad := fun char member => .inr (blank char member)

theorem guarded_pad : Guarded pad := by
  have guarded := (isWording_pad blank).guarded guarded_nil
  rwa [List.append_nil] at guarded

theorem uncounted_pad : Uncounted pad := by
  have uncounted := (isWording_pad blank).uncounted uncounted_nil guarded_nil
  rwa [List.append_nil] at uncounted

theorem bracketsOpen_pad : BracketsOpen pad := by
  have opens := (isWording_pad blank).bracketsOpen bracketsOpen_nil
  rwa [List.append_nil] at opens

end Pad

/-! Trimming. -/

theorem trim_value (value : Numeral) (rest : List Char) :
    trim (value.text ++ rest) = trimEnd (value.text ++ rest) := by
  obtain ⟨digit, more, isDigit, same⟩ := value.exists_text_eq_cons
  rw [trim, same, List.cons_append, trimStart_cons_figure (isNumeralChar_of_isDigit isDigit)]

section Trim

variable {value : Numeral} {wording pad : List Char}

theorem trim_bounds (blank : ∀ char ∈ pad, char = ' ') (filler : List Char) (bounds : Bounds) :
    trim (value.text ++ (filler ++ (bounds.text ++ pad))) =
      value.text ++ (filler ++ bounds.text) := by
  have blanks : ∀ char ∈ pad, isBlank char = true := by
    intro char member
    rw [blank char member]
    decide
  obtain ⟨front, closed⟩ : ∃ front, value.text ++ (filler ++ bounds.text) = front ++ [']'] := by
    cases bounds with
    | only number =>
      exact ⟨value.text ++ (filler ++ '[' :: number.text), by simp [Bounds.text, Bounds.inner]⟩
    | range low high =>
      exact ⟨value.text ++ (filler ++ '[' :: (low.text ++ (" - ".toList ++ high.text))),
        by simp [Bounds.text, Bounds.inner]⟩
  rw [trim_value, ← List.append_assoc filler, ← List.append_assoc value.text,
    trimEnd_append_blanks blanks, closed, trimEnd_concat (by decide)]

/-- The value is not trimmed. -/
theorem exists_trim_value (value : Numeral) (rest : List Char) :
    ∃ kept, kept <+: rest ∧ trim (value.text ++ rest) = value.text ++ kept := by
  obtain ⟨front, last, same⟩ := (List.eq_nil_or_concat' value.text).resolve_left value.text_ne_nil
  have isFigure : isNumeralChar last = true :=
    Numeral.isNumeralChar_of_mem_text (same ▸ List.mem_append_right front List.mem_cons_self)
  rw [trim_value, same]
  exact exists_trimEnd_append (isBlank_of_isNumeralChar isFigure) front rest

theorem exists_trim_box (value : Numeral) (isWording : IsWording wording) :
    ∃ kept, IsWording kept ∧
      trim (value.text ++ '[' :: ']' :: wording) = value.text ++ '[' :: ']' :: kept := by
  have solid : isBlank ']' = false := by decide
  obtain ⟨kept, within, trimmed⟩ := exists_trimEnd_append solid (value.text ++ ['[']) wording
  refine ⟨kept, fun char member => isWording char (within.subset member), ?_⟩
  rw [trim_value]
  simpa using trimmed

end Trim

/-! What is decoded. -/

namespace IsStripped

variable {value : Numeral} {wording pad : List Char} {bounds : Option Bounds}
  (stripped : IsStripped wording bounds pad)

include stripped

theorem find?_trim :
    Arrangement.find? (trim (value.text ++ (wording ++ (Bounds.shown bounds ++ pad)))) =
      reading? value bounds := by
  cases bounds with
  | none =>
    have whole : IsWording (wording ++ pad) :=
      List.forall_mem_append.2 ⟨stripped.isWording, isWording_pad stripped.blank⟩
    obtain ⟨kept, within, trimmed⟩ := exists_trim_value value (wording ++ pad)
    have isWording : IsWording kept := fun char member => whole char (within.subset member)
    rw [Bounds.shown, List.nil_append, trimmed, find?_wording isWording, reading?]
  | some bounds =>
    rw [Bounds.shown, trim_bounds stripped.blank,
      find?_wording_bounds stripped.isWording (stripped.parted (Option.some_ne_none bounds)),
      reading?]

theorem find?_trim_box :
    Arrangement.find?
        (trim (value.text ++ ('[' :: ']' :: wording ++ (Bounds.shown bounds ++ pad)))) =
      boxedReading? value bounds := by
  cases bounds with
  | none =>
    have whole : IsWording (wording ++ pad) :=
      List.forall_mem_append.2 ⟨stripped.isWording, isWording_pad stripped.blank⟩
    obtain ⟨kept, isWording, trimmed⟩ := exists_trim_box value whole
    rw [Bounds.shown, List.nil_append, List.cons_append, List.cons_append, trimmed,
      find?_box isWording, boxedReading?]
  | some bounds =>
    rw [Bounds.shown, trim_bounds stripped.blank, find?_box_bounds stripped.isWording,
      boxedReading?]

theorem uncounted_line {filler : List Char} (plain : ∀ char ∈ filler, char.isDigit = false) :
    Uncounted (value.text ++ (filler ++ (Bounds.shown bounds ++ pad))) :=
  have guarded := guarded_pad stripped.blank
  ((uncounted_shown bounds (uncounted_pad stripped.blank) guarded).plain
    (guarded_shown bounds guarded) plain).numeral value

theorem isLineText_line {filler : List Char} (isLineText : IsLineText filler) :
    IsLineText (value.text ++ (filler ++ (Bounds.shown bounds ++ pad))) :=
  (isLineText_numeral value).append (isLineText.append
    (isLineText_shown bounds (isWording_pad stripped.blank).isLineText))

theorem bracketsOpen_rest : BracketsOpen (wording ++ (Bounds.shown bounds ++ pad)) :=
  stripped.isWording.bracketsOpen (bracketsOpen_shown bounds (bracketsOpen_pad stripped.blank))

theorem bracketsOpen_line :
    BracketsOpen (value.text ++ (wording ++ (Bounds.shown bounds ++ pad))) :=
  stripped.bracketsOpen_rest.append (bracket_not_mem_text value)

/-- After signs and markers nothing but blanks is taken. -/
theorem clean_of_dropCosmetics {filler line : List Char}
    (plain : ∀ char ∈ filler, char.isDigit = false) (isLineText : IsLineText filler)
    (dropped : dropCosmetics line = value.text ++ (filler ++ (Bounds.shown bounds ++ pad))) :
    clean line = trim (value.text ++ (filler ++ (Bounds.shown bounds ++ pad))) := by
  have noParenthesis : '(' ∉ value.text ++ (filler ++ (Bounds.shown bounds ++ pad)) :=
    (stripped.isLineText_line isLineText).not_mem (by decide)
  rw [clean, dropped, dropComparison_eq_self noParenthesis,
    dropDuration_eq_self (stripped.uncounted_line plain)]

theorem clean_eq {line : List Char}
    (shown : unsigned line = value.text ++ (wording ++ (Bounds.shown bounds ++ pad))) :
    clean line = trim (value.text ++ (wording ++ (Bounds.shown bounds ++ pad))) := by
  refine stripped.clean_of_dropCosmetics stripped.isWording.plain stripped.isWording.isLineText ?_
  rw [dropCosmetics_eq, shown, erase_marker_eq_self stripped.bracketsOpen_line,
    erase_count_eq_self (stripped.uncounted_line stripped.isWording.plain)]

theorem clean_box {line : List Char}
    (shown : unsigned line =
      value.text ++ ('[' :: ']' :: wording ++ (Bounds.shown bounds ++ pad))) :
    clean line = trim (value.text ++ ('[' :: ']' :: wording ++ (Bounds.shown bounds ++ pad))) := by
  have plain : ∀ char ∈ '[' :: ']' :: wording, char.isDigit = false := fun char member =>
    not_isDigit_of_not_isNumeralChar (stripped.isWording.isFiller_box char member).1
  have isLineText : IsLineText ('[' :: ']' :: wording) := by
    have box : IsLineText ['[', ']'] := by decide
    exact box.append stripped.isWording.isLineText
  have noMarker : ∀ part, part <:+ ['[', ']'] → part ≠ [] →
      ¬ "[x]".toList <+: part ++ (wording ++ (Bounds.shown bounds ++ pad)) := by
    intro part inside nonempty found
    rcases List.suffix_cons_iff.1 inside with rfl | close
    · cases (List.cons_prefix_cons.1 (List.cons_prefix_cons.1 found).2).1
    rcases List.suffix_cons_iff.1 close with rfl | none
    · cases (List.cons_prefix_cons.1 found).1
    · exact nonempty (List.suffix_nil.1 none)
  have unmarked : erase "[x]".toList (['[', ']'] ++ (wording ++ (Bounds.shown bounds ++ pad))) =
      ['[', ']'] ++ (wording ++ (Bounds.shown bounds ++ pad)) := by
    rw [erase_append_of_unmatched noMarker, erase_marker_eq_self stripped.bracketsOpen_rest]
  refine stripped.clean_of_dropCosmetics plain isLineText ?_
  rw [dropCosmetics_eq, shown]
  have kept : erase "[x]".toList
      (value.text ++ ('[' :: ']' :: wording ++ (Bounds.shown bounds ++ pad))) =
      value.text ++ ('[' :: ']' :: wording ++ (Bounds.shown bounds ++ pad)) :=
    (erase_append_of_head_not_mem (bracket_not_mem_text value) _).trans (congrArg _ unmarked)
  rw [kept, erase_count_eq_self (stripped.uncounted_line plain)]

end IsStripped

/-- What becomes of a line whose cleaned text has a digit. -/
def outcome (lexicon : Lexicon) (line : String) (text : List Char) :
    Option (Arrangement × Roll) → Except ReadError Affix
  | some (arrangement, roll) =>
    .ok ⟨lexicon.resolveAffix line, line, roll, if arrangement.isGreater then .greater else .normal⟩
  | none => .error (.unknownFormat line (String.ofList text))

theorem decodeAffix_of_clean {lexicon : Lexicon} {line : String} {value : Numeral}
    {rest : List Char} {found : Option (Arrangement × Roll)}
    (cleaned : clean line.toList = trim (value.text ++ rest))
    (reads : Arrangement.find? (trim (value.text ++ rest)) = found) :
    decodeAffix lexicon line = outcome lexicon line (trim (value.text ++ rest)) found := by
  obtain ⟨kept, _, trimmed⟩ := exists_trim_value value rest
  obtain ⟨digit, more, isDigit, same⟩ := value.exists_text_eq_cons
  have shown : hasDigit (trim (value.text ++ rest)) = true := by
    rw [trimmed, same, List.cons_append, hasDigit, List.any_cons, isDigit, Bool.true_or]
  unfold decodeAffix
  simp only [cleaned, reads, shown, if_true]
  cases found <;> rfl

end LootSieve.Tooltip
