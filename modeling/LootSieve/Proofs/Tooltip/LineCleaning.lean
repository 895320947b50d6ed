import LootSieve.Proofs.Text.Trimming
import LootSieve.Proofs.Tooltip.ShownLine
import LootSieve.Tooltip.Cleaning

/-!
What cleaning leaves of a line. Signs go wherever they stand. A marker, a count of seconds and an
annotation go too, and each leaves the rest of the line as it was, since the rest has no place at
which another one could begin: a bracket opens a number there, and before a first digit stand fewer
or more characters than before that of a count of seconds, or a bracket.
-/

namespace LootSieve.Tooltip
open Text

/-! Signs. -/

def isSign (char : Char) : Bool := char = '%' || char = '+' || char = ','

def unsigned (text : List Char) : List Char := text.filter (!isSign ·)

theorem unsigned_append (front rest : List Char) :
    unsigned (front ++ rest) = unsigned front ++ unsigned rest :=
  List.filter_append front rest

theorem unsigned_eq_self {text : List Char} (plain : ∀ char ∈ text, isSign char = false) :
    unsigned text = text := by
  rw [unsigned, List.filter_eq_self]
  intro char member
  rw [plain char member, Bool.not_false]

theorem dropCosmetics_eq (line : List Char) :
    dropCosmetics line = erase "per 5 Seconds".toList (erase "[x]".toList (unsigned line)) := by
  have signs : erase [','] (erase ['+'] (erase ['%'] line)) = unsigned line := by
    rw [erase_singleton, erase_singleton, erase_singleton, List.filter_filter, List.filter_filter]
    apply List.filter_congr
    intro char _
    simp only [isSign, Bool.not_or, decide_not]
    cases decide (char = '%') <;> cases decide (char = '+') <;> cases decide (char = ',') <;> rfl
  have noPlus : '+' ∉ unsigned line := fun member => by
    cases (List.mem_filter.1 member).2
  have box : erase "[+]".toList (unsigned line) = unsigned line :=
    erase_eq_self_of_not_mem (by decide) noPlus
  change erase _ (erase _ (erase "[+]".toList (erase [','] (erase ['+'] (erase ['%'] line))))) = _
  rw [signs, box]

/-! The stretch before the first digit. -/

def leadIn (text : List Char) : List Char := text.takeWhile notDigit

/-- A count of seconds has four characters before its first digit, none of them a bracket. -/
def MayCount (text : List Char) : Prop :=
  hasDigit text = true ∧ (leadIn text).length = 4 ∧ '[' ∉ leadIn text

instance (text : List Char) : Decidable (MayCount text) :=
  inferInstanceAs (Decidable (_ ∧ _ ∧ _))

/-- A bracket opens before the first digit. -/
def Guarded (text : List Char) : Prop := hasDigit text = true → '[' ∈ leadIn text

/-- A count of seconds begins nowhere in the text. -/
def Uncounted (text : List Char) : Prop := ∀ tail, tail <:+ text → ¬ MayCount tail

section LeadIn

variable {front rest text : List Char}

theorem leadIn_append (plain : ∀ char ∈ front, char.isDigit = false) (rest : List Char) :
    leadIn (front ++ rest) = front ++ leadIn rest := by
  refine List.takeWhile_append_of_pos fun char member => ?_
  rw [notDigit, plain char member, Bool.not_false]

theorem hasDigit_append (plain : ∀ char ∈ front, char.isDigit = false) (rest : List Char) :
    hasDigit (front ++ rest) = hasDigit rest := by
  have none : front.any Char.isDigit = false := by
    rw [List.any_eq_false]
    intro char member
    rw [plain char member]
    exact Bool.false_ne_true
  rw [hasDigit, List.any_append, none, Bool.false_or, hasDigit]

theorem leadIn_digit {digit : Char} (isDigit : digit.isDigit = true) (rest : List Char) :
    leadIn (digit :: rest) = [] := by
  refine List.takeWhile_cons_of_neg ?_
  rw [notDigit, isDigit]
  exact Bool.false_ne_true

theorem guarded_nil : Guarded [] := nofun

theorem guarded_bracket (rest : List Char) : Guarded ('[' :: rest) := by
  intro _
  have lead : leadIn (['['] ++ rest) = ['['] ++ leadIn rest :=
    leadIn_append (forall_mem_of_none (by decide)) rest
  exact lead ▸ List.mem_cons_self

theorem Guarded.append (guarded : Guarded rest) (plain : ∀ char ∈ front, char.isDigit = false) :
    Guarded (front ++ rest) := by
  intro digit
  rw [hasDigit_append plain] at digit
  rw [leadIn_append plain]
  exact List.mem_append_right front (guarded digit)

theorem Guarded.not_mayCount (guarded : Guarded text) : ¬ MayCount text :=
  fun counts => counts.2.2 (guarded counts.1)

theorem uncounted_nil : Uncounted [] := by
  intro tail within
  rw [List.suffix_nil.1 within]
  exact guarded_nil.not_mayCount

theorem Uncounted.append (uncounted : Uncounted rest)
    (inFront : ∀ part, part <:+ front → part ≠ [] → ¬ MayCount (part ++ rest)) :
    Uncounted (front ++ rest) := by
  intro tail within
  rcases suffix_append_iff.1 within with ⟨part, inside, nonempty, rfl⟩ | inRest
  · exact inFront part inside nonempty
  · exact uncounted tail inRest

theorem Uncounted.plain (uncounted : Uncounted rest) (guarded : Guarded rest)
    (plain : ∀ char ∈ front, char.isDigit = false) : Uncounted (front ++ rest) :=
  uncounted.append fun _ inside _ =>
    (guarded.append fun char member => plain char (inside.subset member)).not_mayCount

/-- Before the first digit of a numeral stands its point at most. -/
theorem not_mayCount_numeral {numeral : Numeral} {part : List Char} (inside : part <:+ numeral.text)
    (nonempty : part ≠ []) (rest : List Char) : ¬ MayCount (part ++ rest) := by
  intro counts
  have length := counts.2.1
  obtain ⟨digit, more, isDigit, rfl | rfl⟩ := Numeral.suffix_text_cases inside nonempty
  · rw [List.cons_append, leadIn_digit isDigit] at length
    cases length
  · have lead : leadIn (['.'] ++ (digit :: (more ++ rest))) = ['.'] := by
      rw [leadIn_append (forall_mem_of_none (by decide)), leadIn_digit isDigit]
      rfl
    rw [show '.' :: digit :: more ++ rest = ['.'] ++ (digit :: (more ++ rest)) from rfl,
      lead] at length
    cases length

theorem Uncounted.numeral (uncounted : Uncounted rest) (numeral : Numeral) :
    Uncounted (numeral.text ++ rest) :=
  uncounted.append fun _ inside nonempty => not_mayCount_numeral inside nonempty rest

/-- A stretch before a count of seconds, or before a numeral that is three characters away at most,
has the wrong length. -/
theorem not_mayCount_plain {part : List Char} (plain : ∀ char ∈ part, char.isDigit = false)
    (off : part.length + (leadIn rest).length ≠ 4) : ¬ MayCount (part ++ rest) := by
  intro counts
  have length := counts.2.1
  rw [leadIn_append plain, List.length_append] at length
  exact off length

theorem leadIn_numeral (numeral : Numeral) (rest : List Char) :
    leadIn (numeral.text ++ rest) = [] := by
  obtain ⟨digit, more, isDigit, same⟩ := numeral.exists_text_eq_cons
  rw [same, List.cons_append, leadIn_digit isDigit]

theorem Uncounted.bounds (uncounted : Uncounted rest) (guarded : Guarded rest) (bounds : Bounds) :
    Uncounted (bounds.text ++ rest) := by
  have close : Uncounted ([']'] ++ rest) := uncounted.plain guarded (forall_mem_of_none (by decide))
  have inner : Uncounted (bounds.inner ++ rest) := by
    cases bounds with
    | only number =>
      rw [Bounds.inner, List.append_assoc]
      exact close.numeral number
    | range low high =>
      rw [Bounds.inner, List.append_assoc, List.append_assoc, List.append_assoc]
      refine Uncounted.numeral ((close.numeral high).append fun part inside _ => ?_) low
      have short : part.length ≤ 3 := inside.length_le
      refine not_mayCount_plain (fun char member => ?_) ?_
      · have dash : ∀ char ∈ " - ".toList, char.isDigit = false :=
          forall_mem_of_none (by decide)
        exact dash char (inside.subset member)
      · rw [leadIn_numeral, List.length_nil]
        omega
  intro tail within
  rcases List.suffix_cons_iff.1 within with rfl | later
  · exact (guarded_bracket _).not_mayCount
  · exact inner tail later

theorem uncounted_text (bounds : Bounds) : Uncounted bounds.text := by
  have uncounted := uncounted_nil.bounds guarded_nil bounds
  rwa [List.append_nil] at uncounted

end LeadIn

/-! Counts of seconds. -/

section Counts

variable {phrase text rest : List Char}

theorem mayCount_of_starts (counts : MayCount phrase) (starts : phrase <+: text) :
    MayCount text := by
  obtain ⟨rest, rfl⟩ := starts
  obtain ⟨digit, lead⟩ := counts
  have same : leadIn (phrase ++ rest) = leadIn phrase := by
    obtain ⟨char, member, isDigit⟩ := List.any_eq_true.1 digit
    rw [leadIn, List.takeWhile_append, if_neg fun full => ?_, leadIn]
    have all : (phrase.takeWhile notDigit).all notDigit = true := List.all_takeWhile
    rw [(List.takeWhile_prefix notDigit).eq_of_length full] at all
    have noDigit := List.all_eq_true.1 all char member
    rw [notDigit, isDigit] at noDigit
    cases noDigit
  exact ⟨by rw [hasDigit, List.any_append, ← hasDigit, digit, Bool.true_or], same ▸ lead⟩

theorem mayCount_per : MayCount "per 5 Seconds".toList := by decide

theorem mayCount_for (numeral : Numeral) (rest : List Char) :
    MayCount ("for ".toList ++ (numeral.text ++ rest)) := by
  have plain : ∀ char ∈ "for ".toList, char.isDigit = false := forall_mem_of_none (by decide)
  obtain ⟨digit, more, isDigit, same⟩ := numeral.exists_text_eq_cons
  rw [MayCount, hasDigit_append plain, leadIn_append plain, leadIn_numeral, List.append_nil]
  exact ⟨by rw [same, hasDigit, List.cons_append, List.any_cons, isDigit, Bool.true_or], rfl,
    by decide⟩

/-- A phrase matched in any letter case has as many characters as the phrase. -/
theorem afterWording?_eq_some (after : afterWording? phrase text = some rest) :
    ∃ taken, text = taken ++ rest ∧ taken.length = phrase.length ∧
      ∀ char ∈ taken, ∃ letter ∈ phrase, sameLetter letter char = true := by
  induction phrase generalizing text with
  | nil =>
    cases after
    exact ⟨[], rfl, rfl, nofun⟩
  | cons letter phrase ih =>
    cases text with
    | nil => cases after
    | cons char text =>
      unfold afterWording? at after
      split at after
      · next same =>
        obtain ⟨taken, rfl, length, matched⟩ := ih after
        refine ⟨char :: taken, rfl, congrArg (· + 1) length, List.forall_mem_cons.2 ⟨?_, ?_⟩⟩
        · exact ⟨letter, List.mem_cons_self, same⟩
        · intro char member
          obtain ⟨letter, inPhrase, same⟩ := matched char member
          exact ⟨letter, List.mem_cons_of_mem _ inPhrase, same⟩
      · cases after

theorem plain_of_sameLetter {letter char : Char} (inFor : letter ∈ "for ".toList)
    (same : sameLetter letter char = true) : char.isDigit = false ∧ char ≠ '[' := by
  have lowered : char.toLower ∈ "for ".toList := by
    simp only [sameLetter, Bool.or_eq_true, decide_eq_true_eq, Bool.and_eq_true] at same
    rcases same with rfl | ⟨rfl, _⟩
    · exact inFor
    · exact absurd inFor (by decide)
  revert lowered
  refine toLower_induction (fun char low => low ∈ "for ".toList →
    char.isDigit = false ∧ char ≠ '[') ?_ (by decide) char
  have noDigit : ∀ char ∈ "for ".toList, char.isDigit = false := forall_mem_of_none (by decide)
  have noBracket : '[' ∉ "for ".toList := by decide
  rintro char inFor
  exact ⟨noDigit char inFor, fun bracket => noBracket (bracket ▸ inFor)⟩

theorem mayCount_of_duration? {found : List Char × List Char} (read : duration? text = some found) :
    MayCount text := by
  unfold duration? at read
  obtain ⟨start, after, read⟩ := Option.bind_eq_some_iff.1 read
  obtain ⟨number, numbered, _⟩ := Option.bind_eq_some_iff.1 read
  obtain ⟨taken, rfl, length, matched⟩ := afterWording?_eq_some after
  obtain ⟨digit, more, isDigit, rfl⟩ :=
    (isSome_numeral? start).1 (Option.isSome_of_eq_some numbered)
  have plain : ∀ char ∈ taken, char.isDigit = false ∧ char ≠ '[' := by
    intro char member
    obtain ⟨letter, inFor, same⟩ := matched char member
    exact plain_of_sameLetter inFor same
  have lead : leadIn (taken ++ digit :: more) = taken := by
    rw [leadIn_append fun char member => (plain char member).1, leadIn_digit isDigit,
      List.append_nil]
  rw [MayCount, lead]
  refine ⟨?_, length, fun bracket => (plain '[' bracket).2 rfl⟩
  rw [hasDigit, List.any_append, List.any_cons, isDigit, Bool.true_or, Bool.or_true]

end Counts

/-! Texts that cleaning leaves alone. -/

section Kept

variable {text : List Char}

theorem erase_marker_eq_self (opens : BracketsOpen text) : erase "[x]".toList text = text := by
  refine erase_eq_self fun tail within found => ?_
  obtain ⟨rest, rfl⟩ := found
  obtain ⟨figure, more, same, isFigure⟩ := opens _ within rfl
  cases same
  cases isFigure

theorem erase_count_eq_self (uncounted : Uncounted text) :
    erase "per 5 Seconds".toList text = text :=
  erase_eq_self fun tail within found =>
    uncounted tail within (mayCount_of_starts mayCount_per found)

theorem dropDuration_eq_self (uncounted : Uncounted text) : dropDuration text = text := by
  have nowhere : leftmost duration? text = none := by
    rw [leftmost_eq_none_iff]
    intro tail within
    cases read : duration? tail with
    | none => rfl
    | some found => exact absurd (mayCount_of_duration? read) (uncounted tail within)
  rw [dropDuration, nowhere]

theorem comparisonWidth_eq_zero (other : ∀ char ∈ text.head?, char ≠ '(') :
    comparisonWidth text = 0 := by
  unfold comparisonWidth
  split
  · exact absurd rfl (other '(' rfl)
  · rfl

theorem dropComparison_eq_self (plain : '(' ∉ text) : dropComparison text = text := by
  refine eraseMatches_eq_self fun tail within => comparisonWidth_eq_zero ?_
  rintro char head rfl
  exact plain (within.subset (List.mem_of_head? head))

end Kept

/-! Annotations. -/

theorem comparisonWidth_annotation {inner back : List Char} (oneLine : '\n' ∉ inner ++ back)
    (unclosed : ')' ∉ back) :
    comparisonWidth ('(' :: (inner ++ ')' :: back)) = inner.length + 2 := by
  have line : (inner ++ ')' :: back).takeWhile (· ≠ '\n') = inner ++ ')' :: back := by
    have kept : ∀ char ∈ inner ++ ')' :: back, decide (char ≠ '\n') = true := by
      intro char member
      rw [decide_eq_true_eq]
      rintro rfl
      simp only [List.mem_append, List.mem_cons, not_or] at member oneLine
      rcases member with inInner | paren | inBack
      · exact oneLine.1 inInner
      · cases paren
      · exact oneLine.2 inBack
    have whole : (inner ++ ')' :: back ++ []).takeWhile (· ≠ '\n') = inner ++ ')' :: back ++ [] :=
      List.takeWhile_append_of_pos kept
    rwa [List.append_nil] at whole
  have upToLast : (inner ++ ')' :: back).reverse.dropWhile (· ≠ ')') = ')' :: inner.reverse := by
    have passed : ∀ char ∈ back.reverse, decide (char ≠ ')') = true := by
      intro char member
      rw [decide_eq_true_eq]
      rintro rfl
      exact unclosed (List.mem_reverse.1 member)
    rw [List.reverse_append, List.reverse_cons, List.append_assoc,
      List.dropWhile_append_of_pos passed]
    rfl
  simp only [comparisonWidth, line, upToLast]
  simp

/-- An annotation is taken up to its last parenthesis. -/
theorem dropComparison_annotation {front inner back : List Char} (plain : '(' ∉ front ++ back)
    (oneLine : '\n' ∉ inner ++ back) (unclosed : ')' ∉ back) :
    dropComparison (front ++ '(' :: (inner ++ ')' :: back)) = front ++ back := by
  rw [List.mem_append, not_or] at plain
  have before : ∀ part, part <:+ front → part ≠ [] →
      comparisonWidth (part ++ '(' :: (inner ++ ')' :: back)) = 0 := by
    intro part inside nonempty
    refine comparisonWidth_eq_zero ?_
    rw [List.head?_append_of_ne_nil _ nonempty]
    rintro char head rfl
    exact plain.1 (inside.subset (List.mem_of_head? head))
  have measured : comparisonWidth ('(' :: inner ++ [')'] ++ back) =
      ('(' :: inner ++ [')']).length := by
    have width := comparisonWidth_annotation oneLine unclosed
    simpa using width
  have dropped :=
    eraseMatches_of_width (List.append_ne_nil_of_right_ne_nil _ (List.cons_ne_nil _ _)) measured
  rw [dropComparison, eraseMatches_append_of_zero before,
    show '(' :: (inner ++ ')' :: back) = '(' :: inner ++ [')'] ++ back by simp, dropped]
  exact congrArg (front ++ ·) (dropComparison_eq_self plain.2)

/-! Durations. -/

def durationPhrase (number : Numeral) : List Char :=
  "for ".toList ++ (number.text ++ " Seconds".toList)

theorem duration?_phrase (number : Numeral) (rest : List Char) :
    duration? (durationPhrase number ++ rest) = some (durationPhrase number, number.text) := by
  have start : afterWording? "for ".toList (durationPhrase number ++ rest) =
      some (number.text ++ (" Seconds".toList ++ rest)) := by
    rw [durationPhrase, List.append_assoc, List.append_assoc]
    rfl
  have ends : EndsNumeral (" Seconds".toList ++ rest) := endsNumeral_cons rfl _
  have finish : afterWording? " seconds".toList (" Seconds".toList ++ rest) = some rest := rfl
  simp only [duration?, start, number.numeral?_append ends, finish, Option.bind_eq_bind,
    Option.bind_some]
  simp

/-- A duration goes, and then the bracket that repeats it. -/
theorem dropDuration_phrase {front rest : List Char} {number : Numeral}
    (before : ∀ part, part <:+ front → part ≠ [] →
      ¬ MayCount (part ++ (durationPhrase number ++ rest)))
    (after : Uncounted rest) :
    dropDuration (front ++ (durationPhrase number ++ rest)) =
      erase (Bounds.only number).text (front ++ rest) := by
  have found : leftmost duration? (front ++ (durationPhrase number ++ rest)) =
      some (durationPhrase number, number.text) := by
    rw [leftmost_append_of_none fun part inside nonempty => ?_]
    · exact leftmost_of_head (duration?_phrase number rest)
    · cases read : duration? (part ++ (durationPhrase number ++ rest)) with
      | none => rfl
      | some found => exact absurd (mayCount_of_duration? read) (before part inside nonempty)
  have counts : MayCount (durationPhrase number) := mayCount_for number _
  have nonempty : durationPhrase number ≠ [] := List.append_ne_nil_of_left_ne_nil (by decide) _
  have erased : erase (durationPhrase number) (front ++ (durationPhrase number ++ rest)) =
      front ++ rest := by
    rw [erase_append_of_unmatched fun part inside nonempty found =>
        before part inside nonempty (mayCount_of_starts counts found),
      erase_phrase_append nonempty,
      erase_eq_self fun tail within found => after tail within (mayCount_of_starts counts found)]
  simp only [dropDuration, found, erased]
  rfl

theorem erase_repetition {front pad : List Char} {number : Numeral} (unbracketed : '[' ∉ front)
    (unpadded : '[' ∉ pad) :
    erase (Bounds.only number).text (front ++ (pad ++ (Bounds.only number).text)) =
      front ++ pad := by
  have whole : erase (Bounds.only number).text (Bounds.only number).text = [] := by
    have erased := erase_phrase_append (List.cons_ne_nil '[' (Bounds.only number).inner) []
    rwa [List.append_nil] at erased
  rw [Bounds.text] at whole ⊢
  rw [erase_append_of_head_not_mem unbracketed, erase_append_of_head_not_mem unpadded, whole,
    List.append_nil]

/-- A range is no repetition of a duration. -/
theorem erase_repetition_range {front pad : List Char} {number low high : Numeral}
    (unbracketed : '[' ∉ front) (unpadded : '[' ∉ pad) :
    erase (Bounds.only number).text
        (front ++ ((Bounds.range low high).text ++ (pad ++ (Bounds.only number).text))) =
      front ++ ((Bounds.range low high).text ++ pad) := by
  -- both begin with a bracket and a number, but after it one closes and the other goes on
  have other : ∀ rest, ¬ (Bounds.only number).text <+: (Bounds.range low high).text ++ rest := by
    rintro rest ⟨more, same⟩
    have inner : number.text ++ (']' :: more) =
        low.text ++ (" - ".toList ++ (high.text ++ [']'] ++ rest)) := by
      simpa [Bounds.text, Bounds.inner] using same
    have spans := congrArg (List.span isNumeralChar) inner
    rw [Numeral.span_text_append (endsNumeral_close more),
      Numeral.span_text_append (endsNumeral_dash _)] at spans
    cases (Prod.mk.inj spans).2
  have passed : ∀ part, part <:+ ['['] → part ≠ [] → ¬ (Bounds.only number).text <+:
      part ++ ((Bounds.range low high).inner ++ (pad ++ (Bounds.only number).text)) := by
    intro part inside nonempty
    rcases List.suffix_cons_iff.1 inside with rfl | none
    · exact other _
    · exact absurd (List.suffix_nil.1 none) nonempty
  calc
    _ = front ++ erase (Bounds.only number).text
          ((Bounds.range low high).text ++ (pad ++ (Bounds.only number).text)) :=
      erase_append_of_head_not_mem unbracketed _
    _ = front ++ (['['] ++ erase (Bounds.only number).text
          ((Bounds.range low high).inner ++ (pad ++ (Bounds.only number).text))) :=
      congrArg (front ++ ·) (erase_append_of_unmatched passed)
    _ = front ++ (['['] ++ ((Bounds.range low high).inner ++ pad)) := by
      rw [erase_repetition (bracket_not_mem_inner (.range low high)) unpadded]

end LootSieve.Tooltip
