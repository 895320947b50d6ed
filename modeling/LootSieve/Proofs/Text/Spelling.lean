import Mathlib.Data.List.Basic
import LootSieve.Lexicon.Naming

/-! Fixed phrases in any letter case. A text spells a phrase if its ASCII letters, lowered, are
those of the phrase. Such a text is lowered, trimmed and cut into words as the phrase is. -/

namespace LootSieve.Text

/-- The text is the phrase up to the case of ASCII letters. -/
def Spells (phrase : List Char) (text : List Char) : Prop := text.map Char.toLower = phrase

instance (phrase text : List Char) : Decidable (Spells phrase text) :=
  inferInstanceAs (Decidable (_ = _))

def IsAscii (text : List Char) : Prop := ∀ char ∈ text, char.toNat < 128

instance (text : List Char) : Decidable (IsAscii text) :=
  decidable_of_iff (text.all (·.toNat < 128) = true) (by simp [IsAscii])

/-! Single characters. -/

theorem toLower_of_not_ascii {char : Char} (wide : 128 ≤ char.toNat) : char.toLower = char := by
  unfold Char.toLower
  apply dif_neg
  rintro ⟨_, upper⟩
  have bound : char.toNat ≤ 90 := UInt32.le_iff_toNat_le.1 upper
  omega

/-- What holds of a character beside itself and, in ASCII, beside its small letter. -/
theorem toLower_induction (holds : Char → Char → Prop) (same : ∀ char, holds char char)
    (check : ∀ code < 128, holds (Char.ofNat code) (Char.ofNat code).toLower) (char : Char) :
    holds char char.toLower := by
  by_cases ascii : char.toNat < 128
  · have checked := check char.toNat ascii
    rwa [Char.ofNat_toNat] at checked
  · rw [toLower_of_not_ascii (Nat.le_of_not_lt ascii)]
    exact same char

theorem isBlank_toLower (char : Char) : isBlank char.toLower = isBlank char :=
  toLower_induction (fun char low => isBlank low = isBlank char) (fun _ => rfl) (by decide) char

theorem isAlphabetic_toLower (char : Char) : isAlphabetic char.toLower = isAlphabetic char :=
  toLower_induction (fun char low => isAlphabetic low = isAlphabetic char) (fun _ => rfl)
    (by decide) char

theorem toLower_ascii_iff (char : Char) : char.toLower.toNat < 128 ↔ char.toNat < 128 :=
  toLower_induction (fun char low => low.toNat < 128 ↔ char.toNat < 128) (fun _ => Iff.rfl)
    (by decide) char

theorem ascii_of_isDigit {char : Char} (digit : char.isDigit = true) : char.toNat < 128 := by
  have nine : '9'.toNat = 57 := rfl
  have bounds := Char.isDigit_iff_toNat.1 digit
  omega

theorem not_alphabetic_of_isDigit {char : Char} (digit : char.isDigit = true) :
    isAlphabetic char = false := by
  have checked : ∀ code < 128, (Char.ofNat code).isDigit = true →
      isAlphabetic (Char.ofNat code) = false := by
    decide
  rw [← Char.ofNat_toNat char] at digit ⊢
  exact checked _ (Char.ofNat_toNat char ▸ ascii_of_isDigit digit) digit

/-! Lowering. -/

theorem lowerFrom_of_ascii {text : List Char} (ascii : IsAscii text) (before : List Char) :
    lowerFrom before text = text.map Char.toLower := by
  induction text generalizing before with
  | nil => rfl
  | cons char after ih =>
    obtain ⟨small, rest⟩ := List.forall_mem_cons.1 ascii
    have notSigma : char ≠ 'Σ' := by
      rintro rfl
      exact absurd small (by decide)
    unfold lowerFrom
    simp only [if_neg notSigma, lowerChar_of_ascii small, ih rest, List.map_cons,
      List.singleton_append]

theorem lower_of_ascii {text : List Char} (ascii : IsAscii text) :
    lower text = text.map Char.toLower :=
  lowerFrom_of_ascii ascii []

/-! Cutting along blanks. -/

theorem trimStart_map_toLower (text : List Char) :
    trimStart (text.map Char.toLower) = (trimStart text).map Char.toLower := by
  have same : isBlank ∘ Char.toLower = isBlank := funext isBlank_toLower
  unfold trimStart
  rw [List.dropWhile_map, same]

theorem trim_map_toLower (text : List Char) :
    trim (text.map Char.toLower) = (trim text).map Char.toLower := by
  have same : isBlank ∘ Char.toLower = isBlank := funext isBlank_toLower
  unfold trim trimEnd
  rw [trimStart_map_toLower, ← List.map_reverse, List.dropWhile_map, same, List.map_reverse]

theorem mem_of_mem_trim {text : List Char} {char : Char} (member : char ∈ trim text) :
    char ∈ text := by
  have inStart := (List.dropWhile_suffix isBlank).subset (List.mem_reverse.1 member)
  exact (List.dropWhile_suffix isBlank).subset (List.mem_reverse.1 inStart)

theorem splitOnP_map (cut : Char → Bool) (change : Char → Char) (text : List Char)
    (kept : ∀ char, cut (change char) = cut char) :
    (text.map change).splitOnP cut = (text.splitOnP cut).map (List.map change) := by
  induction text with
  | nil => rfl
  | cons char rest ih =>
    rw [List.map_cons, List.splitOnP_cons_eq_if_modifyHead, List.splitOnP_cons_eq_if_modifyHead,
      kept, ih]
    by_cases blank : cut char = true
    · rw [if_pos blank, if_pos blank]
      rfl
    · rw [if_neg blank, if_neg blank]
      cases rest.splitOnP cut <;> rfl

theorem words_map_toLower (text : List Char) :
    words (text.map Char.toLower) = (words text).map (List.map Char.toLower) := by
  have empties : (fun word : List Char => !word.isEmpty) ∘ List.map Char.toLower =
      fun word => !word.isEmpty := by
    funext word
    cases word <;> rfl
  unfold words
  rw [splitOnP_map isBlank Char.toLower text isBlank_toLower, List.filter_map, empties]

theorem mem_of_mem_splitOnP {cut : Char → Bool} {text piece : List Char} {char : Char}
    (isPiece : piece ∈ text.splitOnP cut) (member : char ∈ piece) : char ∈ text := by
  induction text generalizing piece with
  | nil =>
    rw [List.splitOnP_nil, List.mem_singleton] at isPiece
    exact isPiece ▸ member
  | cons first rest ih =>
    rw [List.splitOnP_cons_eq_if_modifyHead] at isPiece
    by_cases blank : cut first = true
    · rw [if_pos blank, List.mem_cons] at isPiece
      rcases isPiece with rfl | later
      · exact absurd member List.not_mem_nil
      · exact List.mem_cons_of_mem _ (ih later member)
    · rw [if_neg blank] at isPiece
      cases split : rest.splitOnP cut with
      | nil => exact absurd split (List.splitOnP_ne_nil cut rest)
      | cons head tail =>
        rw [split] at ih isPiece
        rcases List.mem_cons.1 isPiece with rfl | later
        · rcases List.mem_cons.1 member with rfl | inHead
          · exact List.mem_cons_self
          · exact List.mem_cons_of_mem _ (ih List.mem_cons_self inHead)
        · exact List.mem_cons_of_mem _ (ih (List.mem_cons_of_mem _ later) member)

theorem mem_of_mem_words {text word : List Char} {char : Char} (isWord : word ∈ words text)
    (member : char ∈ word) : char ∈ text :=
  mem_of_mem_splitOnP (List.mem_filter.1 isWord).1 member

theorem words_cons_blank {char : Char} (blank : isBlank char = true) (text : List Char) :
    words (char :: text) = words text := by
  unfold words
  rw [List.splitOnP_cons_eq_if_modifyHead, if_pos blank]
  rfl

theorem words_append_of_blank {blanks : List Char} (blank : ∀ char ∈ blanks, isBlank char = true)
    (text : List Char) : words (blanks ++ text) = words text := by
  induction blanks with
  | nil => rfl
  | cons char rest ih =>
    obtain ⟨first, later⟩ := List.forall_mem_cons.1 blank
    rw [List.cons_append, words_cons_blank first, ih later]

theorem words_append_cons {char : Char} (blank : isBlank char = true) (front back : List Char) :
    words (front ++ char :: back) = words front ++ words back := by
  rw [words, List.splitOnP_append_cons front back blank, List.filter_append, words, words]

/-! Texts that spell a phrase. -/

namespace Spells

variable {phrase text : List Char}

theorem ascii (spells : Spells phrase text) (fixed : IsAscii phrase) : IsAscii text := by
  intro char member
  rw [← toLower_ascii_iff]
  exact fixed _ (spells ▸ List.mem_map_of_mem member)

theorem lower_trim (spells : Spells phrase text) (fixed : IsAscii phrase) :
    lower (trim text) = trim phrase := by
  have ascii : IsAscii (trim text) := fun char member =>
    spells.ascii fixed char (mem_of_mem_trim member)
  rw [lower_of_ascii ascii, ← trim_map_toLower, spells]

theorem lower_eq (spells : Spells phrase text) (fixed : IsAscii phrase) : lower text = phrase := by
  rw [lower_of_ascii (spells.ascii fixed), spells]

end Spells

end LootSieve.Text

namespace LootSieve.Naming
open Text

def isLetterOrBlank (char : Char) : Bool := isAlphabetic char || isBlank char

theorem map_lower_words {text : List Char} (ascii : IsAscii text) :
    (words text).map lower = words (text.map Char.toLower) := by
  rw [words_map_toLower]
  apply List.map_congr_left
  intro word isWord
  exact lower_of_ascii fun char member => ascii char (mem_of_mem_words isWord member)

/-- What stands before the first letter does not count. -/
theorem letterWords_append {number : List Char}
    (noLetter : ∀ char ∈ number, isAlphabetic char = false) (text : List Char) :
    letterWords (number ++ text) = letterWords text := by
  unfold letterWords
  rw [List.filter_append, words_append_of_blank]
  intro char member
  obtain ⟨inNumber, kept⟩ := List.mem_filter.1 member
  rwa [noLetter char inNumber, Bool.false_or] at kept

theorem letterWords_append_cons {char : Char} (blank : isBlank char = true)
    (front back : List Char) :
    letterWords (front ++ char :: back) = letterWords front ++ letterWords back := by
  have kept : (front ++ char :: back).filter isLetterOrBlank =
      front.filter isLetterOrBlank ++ char :: back.filter isLetterOrBlank := by
    rw [List.filter_append, List.filter_cons_of_pos (by rw [isLetterOrBlank, blank, Bool.or_true])]
  change (words ((front ++ char :: back).filter isLetterOrBlank)).map lower = _
  rw [kept, words_append_cons blank, List.map_append]
  rfl

/-- What stands after the last letter does not count. -/
theorem letterWords_append_right {number : List Char}
    (noLetter : ∀ char ∈ number, isAlphabetic char = false) (text : List Char) :
    letterWords (text ++ number) = letterWords text := by
  have blank : ∀ char ∈ number.filter isLetterOrBlank, isBlank char = true := by
    intro char member
    obtain ⟨inNumber, kept⟩ := List.mem_filter.1 member
    rwa [isLetterOrBlank, noLetter char inNumber, Bool.false_or] at kept
  have trailing : words (text.filter isLetterOrBlank ++ number.filter isLetterOrBlank) =
      words (text.filter isLetterOrBlank) := by
    cases same : number.filter isLetterOrBlank with
    | nil => rw [List.append_nil]
    | cons char rest =>
      rw [same, List.forall_mem_cons] at blank
      have nothing : words (rest ++ []) = words [] := words_append_of_blank blank.2 []
      rw [List.append_nil] at nothing
      rw [words_append_cons blank.1, nothing]
      exact List.append_nil _
  change (words ((text ++ number).filter isLetterOrBlank)).map lower = _
  rw [List.filter_append, trailing]
  rfl

theorem letterWords_of_spells {phrase text : List Char} (spells : Spells phrase text)
    (fixed : IsAscii phrase) : letterWords text = words (phrase.filter isLetterOrBlank) := by
  have same : isLetterOrBlank ∘ Char.toLower = isLetterOrBlank := by
    funext char
    simp only [isLetterOrBlank, Function.comp_apply, isAlphabetic_toLower, isBlank_toLower]
  have ascii : IsAscii (text.filter isLetterOrBlank) := fun char member =>
    spells.ascii fixed char (List.mem_filter.1 member).1
  change (words (text.filter isLetterOrBlank)).map lower = _
  rw [map_lower_words ascii, ← spells, List.filter_map, same]

end LootSieve.Naming
