import LootSieve.Text.Blank
import Mathlib.Data.List.DropRight

/-! What trimming and cutting along blanks leave of a text. Both keep all characters that are no
blanks, in their order, and a text that begins and ends with such a character is left as it is. -/

namespace LootSieve.Text

/-! Trimming. -/

theorem trimStart_cons_blank {char : Char} (blank : isBlank char = true) (rest : List Char) :
    trimStart (char :: rest) = trimStart rest :=
  List.dropWhile_cons_of_pos blank

theorem trimStart_cons_solid {char : Char} (solid : isBlank char = false) (rest : List Char) :
    trimStart (char :: rest) = char :: rest :=
  List.dropWhile_cons_of_neg (Bool.eq_false_iff.1 solid)

theorem trimEnd_append (front rest : List Char) : trimEnd (front ++ rest) =
    if trimEnd rest = [] then trimEnd front else front ++ trimEnd rest := by
  have empty : trimEnd rest = [] ↔ (rest.reverse.dropWhile isBlank).isEmpty = true := by
    rw [trimEnd, List.reverse_eq_nil_iff, List.isEmpty_iff]
  rw [trimEnd, List.reverse_append, List.dropWhile_append]
  by_cases blank : trimEnd rest = []
  · rw [if_pos (empty.1 blank), if_pos blank, trimEnd]
  · rw [if_neg (mt empty.2 blank), if_neg blank, List.reverse_append, List.reverse_reverse, trimEnd]

theorem trimEnd_append_blanks {blanks : List Char} (blank : ∀ char ∈ blanks, isBlank char = true)
    (text : List Char) : trimEnd (text ++ blanks) = trimEnd text := by
  have passed : ∀ char ∈ blanks.reverse, isBlank char = true := fun char member =>
    blank char (List.mem_reverse.1 member)
  rw [trimEnd, List.reverse_append, List.dropWhile_append_of_pos passed, trimEnd]

theorem trimEnd_concat {last : Char} (solid : isBlank last = false) (text : List Char) :
    trimEnd (text ++ [last]) = text ++ [last] := by
  rw [trimEnd, List.reverse_concat, List.dropWhile_cons_of_neg (Bool.eq_false_iff.1 solid),
    List.reverse_cons, List.reverse_reverse]

theorem trimEnd_isPrefix (text : List Char) : trimEnd text <+: text := by
  have shorter := List.reverse_prefix.2 (List.dropWhile_suffix (l := text.reverse) isBlank)
  rwa [List.reverse_reverse] at shorter

/-- Trimming goes no further than a last character that is no blank. -/
theorem trimEnd_append_of_solid {last : Char} (solid : isBlank last = false)
    (front rest : List Char) :
    trimEnd (front ++ [last] ++ rest) = front ++ [last] ++ trimEnd rest := by
  rw [trimEnd_append, trimEnd_concat solid]
  split
  · next blank => rw [blank, List.append_nil]
  · rfl

theorem exists_trimEnd_append {last : Char} (solid : isBlank last = false)
    (front text : List Char) :
    ∃ kept, kept <+: text ∧ trimEnd (front ++ [last] ++ text) = front ++ [last] ++ kept :=
  ⟨trimEnd text, trimEnd_isPrefix text, trimEnd_append_of_solid solid front text⟩

theorem trimStart_trim (text : List Char) : trimStart (trim text) = trim text := by
  cases trimmed : trim text with
  | nil => rfl
  | cons char rest =>
    obtain ⟨cut, whole⟩ := trimEnd_isPrefix (trimStart text)
    change trim text ++ cut = trimStart text at whole
    rw [trimmed] at whole
    have first := List.head?_dropWhile_not isBlank text
    rw [show text.dropWhile isBlank = char :: rest ++ cut from whole.symm] at first
    exact trimStart_cons_solid first rest

theorem trim_trim (text : List Char) : trim (trim text) = trim text := by
  rw [trim, trimStart_trim, trim, trimEnd, trimEnd, List.reverse_reverse, List.dropWhile_idempotent]

theorem trim_sublist (text : List Char) : (trim text).Sublist text :=
  (trimEnd_isPrefix _).sublist.trans (List.dropWhile_suffix isBlank).sublist

theorem trimEnd_eq_nil_iff {text : List Char} :
    trimEnd text = [] ↔ ∀ char ∈ text, isBlank char = true := by
  simp only [trimEnd, List.reverse_eq_nil_iff, List.dropWhile_eq_nil_iff, List.mem_reverse]

theorem trim_eq_nil_iff {text : List Char} :
    trim text = [] ↔ ∀ char ∈ text, isBlank char = true := by
  rw [trim, trimEnd_eq_nil_iff]
  constructor
  · intro blank char member
    rw [← List.takeWhile_append_dropWhile (p := isBlank) (l := text)] at member
    rcases List.mem_append.1 member with before | after
    · exact List.mem_takeWhile_imp before
    · exact blank char after
  · intro blank char member
    exact blank char ((List.dropWhile_suffix isBlank).subset member)

theorem head?_trimStart (text : List Char) :
    ∀ char ∈ (trimStart text).head?, isBlank char = false := by
  intro char first
  have stays := List.head?_dropWhile_not isBlank text
  rw [← trimStart, first] at stays
  exact stays

theorem head?_trim (text : List Char) : ∀ char ∈ (trim text).head?, isBlank char = false :=
  trimStart_trim text ▸ head?_trimStart (trim text)

theorem getLast?_trim (text : List Char) :
    ∀ char ∈ (trim text).getLast?, isBlank char = false := by
  intro char last
  have stays := List.head?_dropWhile_not isBlank (trimStart text).reverse
  rw [← List.getLast?_reverse, ← trimEnd, ← trim, last] at stays
  exact stays

theorem exists_trimStart_append {first : Char} (solid : isBlank first = false)
    (front rest : List Char) :
    ∃ kept, trimStart (front ++ first :: rest) = kept ++ first :: rest := by
  induction front with
  | nil => exact ⟨[], trimStart_cons_solid solid rest⟩
  | cons char front ih =>
    cases blank : isBlank char with
    | true =>
      obtain ⟨kept, same⟩ := ih
      exact ⟨kept, (trimStart_cons_blank blank _).trans same⟩
    | false => exact ⟨char :: front, trimStart_cons_solid blank _⟩

theorem isInfix_trim_of_isPrefix {phrase inner : List Char} {last : Char} (nonempty : phrase ≠ [])
    (opens : ∀ char ∈ phrase.head?, isBlank char = false) (within : phrase <+: inner ++ [last])
    (solid : isBlank last = false) (front rest : List Char) :
    phrase <:+: trim (front ++ (inner ++ [last] ++ rest)) := by
  obtain ⟨first, tail, rfl⟩ := List.exists_cons_of_ne_nil nonempty
  obtain ⟨more, whole⟩ := within
  obtain ⟨kept, started⟩ := exists_trimStart_append (opens first rfl) front (tail ++ more ++ rest)
  have trimmed :
      trim (front ++ (inner ++ [last] ++ rest)) = kept ++ inner ++ [last] ++ trimEnd rest :=
    calc trim (front ++ (inner ++ [last] ++ rest))
        = trimEnd (trimStart (front ++ first :: (tail ++ more ++ rest))) := by
          rw [trim, ← whole]
          rfl
      _ = trimEnd (kept ++ inner ++ [last] ++ rest) := by
        rw [started, List.append_assoc kept, ← whole]
        simp only [List.cons_append, List.append_assoc]
      _ = _ := trimEnd_append_of_solid solid _ rest
  rw [trimmed, List.append_assoc kept, ← whole]
  exact ⟨kept, more ++ trimEnd rest, by simp only [List.append_assoc]⟩

/-- A phrase that begins with no blank stays whole, unless it ends with a blank and only blanks
follow. -/
theorem isInfix_trim_iff {phrase text : List Char} (nonempty : phrase ≠ [])
    (opens : ∀ char ∈ phrase.head?, isBlank char = false) :
    phrase <:+: trim text ↔ ∃ front more, text = front ++ (phrase ++ more) ∧
      ((∀ char ∈ phrase.getLast?, isBlank char = false) ∨ trim more ≠ []) := by
  constructor
  · rintro ⟨front, back, whole⟩
    obtain ⟨cut, trimmed⟩ := trimEnd_isPrefix (trimStart text)
    have text_eq : text = text.takeWhile isBlank ++ front ++ (phrase ++ (back ++ cut)) :=
      calc text = text.takeWhile isBlank ++ trimStart text := List.takeWhile_append_dropWhile.symm
        _ = text.takeWhile isBlank ++ (trim text ++ cut) := by rw [← trimmed, trim]
        _ = _ := by rw [← whole]; simp only [List.append_assoc]
    refine ⟨_, _, text_eq, ?_⟩
    have final := getLast?_trim text
    rw [← whole] at final
    by_cases closed : back = []
    · rw [closed, List.append_nil, List.getLast?_append_of_ne_nil front nonempty] at final
      exact .inl final
    · rw [List.getLast?_append_of_ne_nil _ closed] at final
      refine .inr fun blank => ?_
      have last := List.mem_append_left cut (List.getLast_mem closed)
      have solid := final _ (List.getLast?_eq_some_getLast closed)
      rw [trim_eq_nil_iff.1 blank _ last] at solid
      cases solid
  · rintro ⟨front, more, rfl, closes | follows⟩
    · have whole := List.dropLast_append_getLast nonempty
      have solid := closes _ (List.getLast?_eq_some_getLast nonempty)
      have within : phrase <+: phrase.dropLast ++ [phrase.getLast nonempty] :=
        ⟨[], (List.append_nil phrase).trans whole.symm⟩
      have inside := isInfix_trim_of_isPrefix nonempty opens within solid front more
      rwa [whole] at inside
    · obtain ⟨last, member, solid⟩ : ∃ last ∈ more, isBlank last = false := by
        by_contra none
        refine follows (trim_eq_nil_iff.2 fun char member => ?_)
        exact Bool.of_not_eq_false fun solid => none ⟨char, member, solid⟩
      obtain ⟨before, rest, rfl⟩ := List.append_of_mem member
      have within : phrase <+: phrase ++ before ++ [last] := by
        rw [List.append_assoc]
        exact List.prefix_append phrase _
      have inside := isInfix_trim_of_isPrefix nonempty opens within solid front rest
      simpa only [List.append_assoc, List.singleton_append] using inside

/-! What is no blank. -/

/-- The characters of a text that are no blanks. -/
def solid (text : List Char) : List Char := text.filter (!isBlank ·)

theorem solid_trimStart (text : List Char) : solid (trimStart text) = solid text := by
  have dropped : solid (text.takeWhile isBlank) = [] := by
    rw [solid, List.filter_eq_nil_iff]
    intro char member
    rw [List.mem_takeWhile_imp member]
    exact Bool.false_ne_true
  calc solid (trimStart text)
      = solid (text.takeWhile isBlank) ++ solid (trimStart text) := by rw [dropped]; rfl
    _ = solid text := by rw [solid, solid, ← List.filter_append, trimStart,
        List.takeWhile_append_dropWhile, solid]

theorem solid_trimEnd (text : List Char) : solid (trimEnd text) = solid text := by
  have backwards := solid_trimStart text.reverse
  rw [trimEnd, solid, List.filter_reverse]
  change (solid (trimStart text.reverse)).reverse = solid text
  rw [backwards, solid, List.filter_reverse, List.reverse_reverse, solid]

theorem solid_trim (text : List Char) : solid (trim text) = solid text := by
  rw [trim, solid_trimEnd, solid_trimStart]

theorem flatten_splitOnP (cut : Char → Bool) (text : List Char) :
    (text.splitOnP cut).flatten = text.filter (!cut ·) := by
  induction text with
  | nil => rfl
  | cons char rest ih =>
    rw [List.splitOnP_cons_eq_if_modifyHead]
    by_cases here : cut char = true
    · simp [here, ih]
    · cases pieces : rest.splitOnP cut with
      | nil => exact absurd pieces (List.splitOnP_ne_nil cut rest)
      | cons piece later =>
        rw [if_neg here, List.modifyHead_cons, List.flatten_cons, List.cons_append,
          ← List.flatten_cons, ← pieces, ih, List.filter_cons_of_pos (by simpa using here)]

theorem flatten_words (text : List Char) : (words text).flatten = solid text := by
  rw [words, List.flatten_filter_not_isEmpty, flatten_splitOnP, solid]

/-- A separator that is dropped leaves only the pieces. -/
theorem filter_intercalate {keep : Char → Bool} {separator : List Char}
    (dropped : separator.filter keep = []) (pieces : List (List Char)) :
    (separator.intercalate pieces).filter keep = pieces.flatten.filter keep := by
  induction pieces with
  | nil => rfl
  | cons piece pieces ih =>
    cases pieces with
    | nil => simp [List.intercalate]
    | cons next later =>
      rw [List.intercalate_cons_cons, List.filter_append, List.filter_append, dropped,
        List.append_nil, ih, List.flatten_cons (l := piece), List.filter_append]

end LootSieve.Text
