import LootSieve.Proofs.Lexicon.Lookup
import LootSieve.Proofs.Tooltip.StrippedLine

/-!
What a decoration does to an affix line: a plus or an x in brackets after the value, or a comparison
in parentheses before the bounds or at the end. Cleaning takes an x and a comparison, but signs go
before markers, so of a plus in brackets an empty bracket stays, which is an arrangement of its own.
The name is taken from the line as it stands, so letters of a decoration count.
-/

namespace LootSieve.Tooltip
open Text

/-- A value, its name and its bounds on a line, with signs anywhere among their characters. -/
structure AffixParts (value : Numeral) (bounds : Option Bounds) where
  valueText : List Char
  nameText : List Char
  boundsText : List Char
  name : List Char
  gap : List Char
  isName : IsWording name
  blank : ∀ char ∈ gap, char = ' '
  unsigned_value : unsigned valueText = value.text
  unsigned_name : unsigned nameText = ' ' :: name
  unsigned_bounds : unsigned boundsText = gap ++ Bounds.shown bounds

def AffixParts.text {value : Numeral} {bounds : Option Bounds} (parts : AffixParts value bounds) :
    List Char :=
  parts.valueText ++ (parts.nameText ++ parts.boundsText)

/-- Anything in parentheses, with blanks around it. -/
structure Comparison where
  before : List Char
  inner : List Char
  after : List Char
  blank_before : ∀ char ∈ before, char = ' '
  blank_after : ∀ char ∈ after, char = ' '
  oneLine : '\n' ∉ inner

def Comparison.text (comparison : Comparison) : List Char :=
  comparison.before ++ '(' :: (comparison.inner ++ ')' :: comparison.after)

/-- What is added to a line, and where. -/
inductive Decoration where
  | plus
  | boost
  | beforeBounds (comparison : Comparison)
  | atEnd (comparison : Comparison)

namespace Decoration

/-- The line with the decoration. -/
def on {value : Numeral} {bounds : Option Bounds} (parts : AffixParts value bounds) :
    Decoration → List Char
  | plus => parts.valueText ++ ("[+]".toList ++ (parts.nameText ++ parts.boundsText))
  | boost => parts.valueText ++ ("[x]".toList ++ (parts.nameText ++ parts.boundsText))
  | beforeBounds comparison =>
    parts.valueText ++ (parts.nameText ++ (comparison.text ++ parts.boundsText))
  | atEnd comparison =>
    parts.valueText ++ (parts.nameText ++ (parts.boundsText ++ comparison.text))

/-- A comparison that a blank parts from what stands before it. -/
def IsApart : Decoration → Prop
  | plus | boost => True
  | beforeBounds comparison | atEnd comparison => comparison.before ≠ []

/-- The words of a line once the decoration is on it. -/
def addWords (words : List (List Char)) : Decoration → List (List Char)
  | plus => words
  | boost => ['x'] :: words
  | beforeBounds comparison | atEnd comparison => words ++ Naming.letterWords comparison.inner

end Decoration

/-- An empty bracket after the value changes what is read: an integer is no greater value any more,
and a decimal counts as one before a range that is neither in integers nor in decimals. -/
def IsDisturbed (value : Numeral) : Option Bounds → Prop
  | none => value.IsInteger
  | some (.only _) => False
  | some (.range low high) => ¬ value.IsInteger ∧ (low.IsInteger ↔ ¬ high.IsInteger)

/-- The same roll and kind, or a failure of both. -/
def SameRoll : Except ReadError Affix → Except ReadError Affix → Prop
  | .ok left, .ok right => left.roll = right.roll ∧ left.kind = right.kind
  | .error _, .error _ => True
  | _, _ => False

/-- Equal but for the text of the line: the same name, roll and kind, or a failure of both. -/
def SameReading : Except ReadError Affix → Except ReadError Affix → Prop
  | .ok left, .ok right => left.name = right.name ∧ left.roll = right.roll ∧ left.kind = right.kind
  | .error _, .error _ => True
  | _, _ => False

/-! Words of a line. -/

theorem letterWords_unsigned (text : List Char) :
    Naming.letterWords (unsigned text) = Naming.letterWords text := by
  have kept : (unsigned text).filter Naming.isLetterOrBlank =
      text.filter Naming.isLetterOrBlank := by
    rw [unsigned, List.filter_filter]
    refine List.filter_congr fun char _ => ?_
    by_cases sign : isSign char = true
    · have foreign : Naming.isLetterOrBlank char = false := by
        simp only [isSign, Bool.or_eq_true, decide_eq_true_eq] at sign
        rcases sign with (rfl | rfl) | rfl <;> decide
      rw [foreign, Bool.false_and]
    · rw [Bool.eq_false_iff.2 sign, Bool.not_false, Bool.and_true]
  change (words ((unsigned text).filter Naming.isLetterOrBlank)).map lower = _
  rw [kept]
  rfl

theorem not_alphabetic_of_mem_text {numeral : Numeral} {char : Char}
    (member : char ∈ numeral.text) : isAlphabetic char = false := by
  rcases Bool.or_eq_true_iff.1 (Numeral.isNumeralChar_of_mem_text member) with digit | point
  · exact not_alphabetic_of_isDigit digit
  · rw [decide_eq_true_eq] at point
    subst point
    decide

theorem not_alphabetic_shown (bounds : Option Bounds) :
    ∀ char ∈ Bounds.shown bounds, isAlphabetic char = false := by
  have dash : ∀ char ∈ " - ".toList, isAlphabetic char = false :=
    forall_mem_of_none (by decide)
  have box : ∀ text : List Char, (∀ char ∈ text, isAlphabetic char = false) →
      ∀ char ∈ '[' :: (text ++ [']']), isAlphabetic char = false := by
    intro text noLetter
    rw [List.forall_mem_cons, List.forall_mem_append]
    exact ⟨rfl, noLetter, forall_mem_of_none (by decide)⟩
  cases bounds with
  | none => exact nofun
  | some bounds =>
    cases bounds with
    | only number => exact box number.text fun char => not_alphabetic_of_mem_text
    | range low high =>
      have inner : ∀ char ∈ low.text ++ (" - ".toList ++ high.text), isAlphabetic char = false :=
        List.forall_mem_append.2 ⟨fun char => not_alphabetic_of_mem_text,
          List.forall_mem_append.2 ⟨dash, fun char => not_alphabetic_of_mem_text⟩⟩
      have boxed := box _ inner
      simpa [Bounds.shown, Bounds.text, Bounds.inner] using boxed

theorem not_alphabetic_blanks {blanks : List Char} (blank : ∀ char ∈ blanks, char = ' ') :
    ∀ char ∈ blanks, isAlphabetic char = false := by
  intro char member
  rw [blank char member]
  decide

theorem letterWords_comparison {front back : List Char} (comparison : Comparison)
    (apart : comparison.before ≠ []) (noLetter : ∀ char ∈ back, isAlphabetic char = false) :
    Naming.letterWords
        (front ++ comparison.before ++ '(' :: (unsigned comparison.inner ++ ')' :: back)) =
      Naming.letterWords front ++ Naming.letterWords comparison.inner := by
  obtain ⟨first, more, same⟩ := List.exists_cons_of_ne_nil apart
  have blank := comparison.blank_before
  rw [same, List.forall_mem_cons] at blank
  obtain ⟨rfl, moreBlank⟩ := blank
  have opening : ∀ char ∈ more ++ ['('], isAlphabetic char = false :=
    List.forall_mem_append.2 ⟨not_alphabetic_blanks moreBlank, forall_mem_of_none (by decide)⟩
  have closing : ∀ char ∈ ')' :: back, isAlphabetic char = false :=
    List.forall_mem_cons.2 ⟨by decide, noLetter⟩
  have split : front ++ comparison.before ++ '(' :: (unsigned comparison.inner ++ ')' :: back) =
      front ++ ' ' :: (more ++ ['('] ++ (unsigned comparison.inner ++ ')' :: back)) := by
    simp [same]
  rw [split, Naming.letterWords_append_cons (by decide), Naming.letterWords_append opening,
    Naming.letterWords_append_right closing, letterWords_unsigned]

/-! Without signs. -/

theorem unsigned_blanks {blanks : List Char} (blank : ∀ char ∈ blanks, char = ' ') :
    unsigned blanks = blanks := by
  refine unsigned_eq_self fun char member => ?_
  rw [blank char member]
  decide

theorem Comparison.unsigned_text (comparison : Comparison) :
    unsigned comparison.text =
      comparison.before ++ '(' :: (unsigned comparison.inner ++ ')' :: comparison.after) := by
  have opening : unsigned ['('] = ['('] := by decide
  have closing : unsigned [')'] = [')'] := by decide
  change unsigned
    (comparison.before ++ (['('] ++ (comparison.inner ++ ([')'] ++ comparison.after)))) = _
  rw [unsigned_append, unsigned_append, unsigned_append, unsigned_append, opening, closing,
    unsigned_blanks comparison.blank_before, unsigned_blanks comparison.blank_after]
  rfl

/-! Cleaning of a comparison. -/

/-- Whatever the parentheses hold goes with them. -/
theorem clean_comparison {front inner back whole line : List Char}
    (frontOpens : BracketsOpen front) (backOpens : BracketsOpen back)
    (frontUncounted : Uncounted front) (backUncounted : Uncounted back)
    (joined : front ++ back = whole) (isLineText : IsLineText whole) (uncounted : Uncounted whole)
    (oneLine : '\n' ∉ inner) (shown : unsigned line = front ++ '(' :: (inner ++ ')' :: back)) :
    clean line = trim whole := by
  subst joined
  -- no phrase has a parenthesis in it, so each stretch loses its own matches only
  have unmarked : erase "[x]".toList (front ++ '(' :: (inner ++ ')' :: back)) =
      front ++ '(' :: (erase "[x]".toList inner ++ ')' :: back) := by
    rw [erase_append_cons (by decide), erase_append_cons (by decide),
      erase_marker_eq_self frontOpens, erase_marker_eq_self backOpens]
  have uncountedParts : ∀ inner,
      erase "per 5 Seconds".toList (front ++ '(' :: (inner ++ ')' :: back)) =
        front ++ '(' :: (erase "per 5 Seconds".toList inner ++ ')' :: back) := by
    intro inner
    rw [erase_append_cons (by decide), erase_append_cons (by decide),
      erase_count_eq_self frontUncounted, erase_count_eq_self backUncounted]
  have left : '\n' ∉ erase "per 5 Seconds".toList (erase "[x]".toList inner) ++ back := by
    rw [List.mem_append, not_or]
    constructor
    · intro member
      exact oneLine ((eraseMatches_sublist 0 inner).subset
        ((eraseMatches_sublist 0 _).subset member))
    · intro member
      exact isLineText.not_mem (by decide) (List.mem_append_right front member)
  have unclosed : ')' ∉ back := fun member =>
    isLineText.not_mem (by decide) (List.mem_append_right front member)
  rw [clean, dropCosmetics_eq, shown, unmarked, uncountedParts,
    dropComparison_annotation (isLineText.not_mem (by decide)) left unclosed,
    dropDuration_eq_self uncounted]

/-- What value, decoration and bounds give. -/
def Decoration.reading? (value : Numeral) (bounds : Option Bounds) :
    Decoration → Option (Arrangement × Roll)
  | plus => boxedReading? value bounds
  | boost | beforeBounds _ | atEnd _ => Tooltip.reading? value bounds

section Decorated

variable {value : Numeral} {bounds : Option Bounds} (parts : AffixParts value bounds)

namespace AffixParts

/-- What parts the bounds from the value. -/
def wording : List Char := ' ' :: parts.name ++ parts.gap

theorem isWording_name : IsWording (' ' :: parts.name) :=
  List.forall_mem_cons.2 ⟨.inr rfl, parts.isName⟩

theorem isStripped : IsStripped parts.wording bounds [] where
  isWording := List.forall_mem_append.2 ⟨parts.isWording_name, isWording_pad parts.blank⟩
  parted _ := List.cons_ne_nil _ _
  blank := List.forall_mem_nil _

theorem unsigned_text :
    unsigned parts.text = value.text ++ (parts.wording ++ (Bounds.shown bounds ++ [])) := by
  rw [text, unsigned_append, unsigned_append, parts.unsigned_value, parts.unsigned_name,
    parts.unsigned_bounds, wording, List.append_nil, List.append_assoc]

theorem unsigned_plus :
    unsigned (Decoration.on parts .plus) =
      value.text ++ ('[' :: ']' :: parts.wording ++ (Bounds.shown bounds ++ [])) := by
  have box : unsigned "[+]".toList = ['[', ']'] := by decide
  rw [Decoration.on, unsigned_append, unsigned_append, unsigned_append, parts.unsigned_value,
    parts.unsigned_name, parts.unsigned_bounds, box, wording, List.append_nil]
  simp

theorem unsigned_boost :
    unsigned (Decoration.on parts .boost) =
      value.text ++ ("[x]".toList ++ (parts.wording ++ (Bounds.shown bounds ++ []))) := by
  have marker : unsigned "[x]".toList = "[x]".toList := by decide
  rw [Decoration.on, unsigned_append, unsigned_append, unsigned_append, parts.unsigned_value,
    parts.unsigned_name, parts.unsigned_bounds, marker, wording, List.append_nil,
    List.append_assoc]

theorem unsigned_beforeBounds (comparison : Comparison) :
    unsigned (Decoration.on parts (.beforeBounds comparison)) =
      value.text ++ (' ' :: parts.name ++ (Bounds.shown none ++ comparison.before)) ++
        '(' :: (unsigned comparison.inner ++
          ')' :: (comparison.after ++ parts.gap ++ (Bounds.shown bounds ++ []))) := by
  rw [Decoration.on, unsigned_append, unsigned_append, unsigned_append, parts.unsigned_value,
    parts.unsigned_name, parts.unsigned_bounds, comparison.unsigned_text]
  simp [Bounds.shown]

theorem unsigned_atEnd (comparison : Comparison) :
    unsigned (Decoration.on parts (.atEnd comparison)) =
      value.text ++ (parts.wording ++ (Bounds.shown bounds ++ comparison.before)) ++
        '(' :: (unsigned comparison.inner ++ ')' :: comparison.after) := by
  rw [Decoration.on, unsigned_append, unsigned_append, unsigned_append, parts.unsigned_value,
    parts.unsigned_name, parts.unsigned_bounds, comparison.unsigned_text, wording]
  simp

/-! Cleaning of decorated lines. -/

theorem isStripped_beforeBounds (comparison : Comparison) :
    IsStripped (' ' :: parts.name ++ comparison.before ++ (comparison.after ++ parts.gap))
      bounds [] where
  isWording := List.forall_mem_append.2
    ⟨List.forall_mem_append.2 ⟨parts.isWording_name, isWording_pad comparison.blank_before⟩,
      List.forall_mem_append.2 ⟨isWording_pad comparison.blank_after, isWording_pad parts.blank⟩⟩
  parted _ := List.cons_ne_nil _ _
  blank := List.forall_mem_nil _

theorem isStripped_atEnd (comparison : Comparison) :
    IsStripped parts.wording bounds (comparison.before ++ comparison.after) where
  isWording := parts.isStripped.isWording
  parted := parts.isStripped.parted
  blank := List.forall_mem_append.2 ⟨comparison.blank_before, comparison.blank_after⟩

theorem clean_boost :
    clean (Decoration.on parts .boost) =
      trim (value.text ++ (parts.wording ++ (Bounds.shown bounds ++ []))) := by
  have stripped := parts.isStripped
  refine stripped.clean_of_dropCosmetics stripped.isWording.plain stripped.isWording.isLineText ?_
  rw [dropCosmetics_eq, parts.unsigned_boost]
  have erased : erase "[x]".toList
      (value.text ++ ("[x]".toList ++ (parts.wording ++ (Bounds.shown bounds ++ [])))) =
        value.text ++ (parts.wording ++ (Bounds.shown bounds ++ [])) :=
    calc
      _ = value.text ++ erase "[x]".toList
            ("[x]".toList ++ (parts.wording ++ (Bounds.shown bounds ++ []))) :=
        erase_append_of_head_not_mem (bracket_not_mem_text value) _
      _ = value.text ++ erase "[x]".toList (parts.wording ++ (Bounds.shown bounds ++ [])) := by
        rw [erase_phrase_append (by decide)]
      _ = _ := by
        rw [erase_marker_eq_self stripped.bracketsOpen_rest]
  rw [erased, erase_count_eq_self (stripped.uncounted_line stripped.isWording.plain)]

theorem clean_beforeBounds (comparison : Comparison) :
    clean (Decoration.on parts (.beforeBounds comparison)) =
      trim (value.text ++ (' ' :: parts.name ++ comparison.before ++
        (comparison.after ++ parts.gap) ++ (Bounds.shown bounds ++ []))) := by
  have isBack : IsWording (comparison.after ++ parts.gap) :=
    List.forall_mem_append.2 ⟨isWording_pad comparison.blank_after, isWording_pad parts.blank⟩
  have isFront : IsStripped (' ' :: parts.name) none comparison.before :=
    ⟨parts.isWording_name, fun _ => List.cons_ne_nil _ _, comparison.blank_before⟩
  have whole := parts.isStripped_beforeBounds comparison
  have joined : value.text ++ (' ' :: parts.name ++ (Bounds.shown none ++ comparison.before)) ++
      (comparison.after ++ parts.gap ++ (Bounds.shown bounds ++ [])) =
        value.text ++ (' ' :: parts.name ++ comparison.before ++
          (comparison.after ++ parts.gap) ++ (Bounds.shown bounds ++ [])) := by
    simp [Bounds.shown]
  have opens := isBack.bracketsOpen (bracketsOpen_shown bounds bracketsOpen_nil)
  have backUncounted := isBack.uncounted (uncounted_shown bounds uncounted_nil guarded_nil)
    (guarded_shown bounds guarded_nil)
  exact clean_comparison isFront.bracketsOpen_line opens
    (isFront.uncounted_line isFront.isWording.plain) backUncounted joined
    (whole.isLineText_line whole.isWording.isLineText) (whole.uncounted_line whole.isWording.plain)
    (fun member => comparison.oneLine (List.mem_of_mem_filter member))
    (parts.unsigned_beforeBounds comparison)

theorem clean_atEnd (comparison : Comparison) :
    clean (Decoration.on parts (.atEnd comparison)) =
      trim (value.text ++ (parts.wording ++ (Bounds.shown bounds ++
        (comparison.before ++ comparison.after)))) := by
  have stripped := parts.isStripped
  have isFront : IsStripped parts.wording bounds comparison.before :=
    ⟨stripped.isWording, stripped.parted, comparison.blank_before⟩
  have whole := parts.isStripped_atEnd comparison
  have joined : value.text ++ (parts.wording ++ (Bounds.shown bounds ++ comparison.before)) ++
      comparison.after = value.text ++ (parts.wording ++ (Bounds.shown bounds ++
        (comparison.before ++ comparison.after))) := by
    simp only [List.append_assoc]
  exact clean_comparison isFront.bracketsOpen_line (bracketsOpen_pad comparison.blank_after)
    (isFront.uncounted_line isFront.isWording.plain) (uncounted_pad comparison.blank_after)
    joined (whole.isLineText_line whole.isWording.isLineText)
    (whole.uncounted_line whole.isWording.plain)
    (fun member => comparison.oneLine (List.mem_of_mem_filter member))
    (parts.unsigned_atEnd comparison)

/-- Behind the value a line reads alike with every decoration but a plus. -/
theorem exists_outcome_on (lexicon : Lexicon) (decoration : Decoration) :
    ∃ text, decodeAffix lexicon (String.ofList (decoration.on parts)) =
      outcome lexicon (String.ofList (decoration.on parts)) text
        (decoration.reading? value bounds) := by
  have stripped := parts.isStripped
  have lineText : (String.ofList (decoration.on parts)).toList = decoration.on parts :=
    String.toList_ofList
  cases decoration with
  | plus =>
    refine ⟨_, decodeAffix_of_clean ?_ stripped.find?_trim_box⟩
    rw [lineText, stripped.clean_box parts.unsigned_plus]
  | boost =>
    refine ⟨_, decodeAffix_of_clean ?_ stripped.find?_trim⟩
    rw [lineText, parts.clean_boost]
  | beforeBounds comparison =>
    refine ⟨_, decodeAffix_of_clean ?_ (parts.isStripped_beforeBounds comparison).find?_trim⟩
    rw [lineText, parts.clean_beforeBounds]
  | atEnd comparison =>
    refine ⟨_, decodeAffix_of_clean ?_ (parts.isStripped_atEnd comparison).find?_trim⟩
    rw [lineText, parts.clean_atEnd]

theorem exists_outcome_text (lexicon : Lexicon) :
    ∃ text, decodeAffix lexicon (String.ofList parts.text) =
      outcome lexicon (String.ofList parts.text) text (reading? value bounds) := by
  have stripped := parts.isStripped
  refine ⟨_, decodeAffix_of_clean ?_ stripped.find?_trim⟩
  rw [String.toList_ofList, stripped.clean_eq parts.unsigned_text]

/-! Words of decorated lines. -/

theorem not_alphabetic_rest :
    ∀ char ∈ parts.gap ++ Bounds.shown bounds, isAlphabetic char = false :=
  List.forall_mem_append.2 ⟨not_alphabetic_blanks parts.blank, not_alphabetic_shown bounds⟩

theorem letterWords_line {front : List Char}
    (noLetter : ∀ char ∈ front, isAlphabetic char = false) :
    Naming.letterWords (front ++ (parts.wording ++ (Bounds.shown bounds ++ []))) =
      Naming.letterWords parts.name := by
  have split : front ++ (parts.wording ++ (Bounds.shown bounds ++ [])) =
      front ++ [' '] ++ (parts.name ++ (parts.gap ++ Bounds.shown bounds)) := by
    simp [wording]
  rw [split, Naming.letterWords_append,
    Naming.letterWords_append_right parts.not_alphabetic_rest]
  exact List.forall_mem_append.2 ⟨noLetter, forall_mem_of_none (by decide)⟩

theorem letterWords_on (decoration : Decoration) (apart : decoration.IsApart) :
    Naming.letterWords (decoration.on parts) =
      decoration.addWords (Naming.letterWords parts.text) := by
  have noLetter : ∀ char ∈ value.text, isAlphabetic char = false := fun char =>
    not_alphabetic_of_mem_text
  have plain : Naming.letterWords parts.text = Naming.letterWords parts.name := by
    rw [← letterWords_unsigned, parts.unsigned_text, parts.letterWords_line noLetter]
  rw [← letterWords_unsigned, plain]
  cases decoration with
  | plus =>
    have boxed : ∀ char ∈ value.text ++ ['[', ']'], isAlphabetic char = false :=
      List.forall_mem_append.2 ⟨noLetter, forall_mem_of_none (by decide)⟩
    have words := parts.letterWords_line boxed
    rw [List.append_assoc] at words
    rw [parts.unsigned_plus]
    exact words
  | boost =>
    have marked : Naming.letterWords (value.text ++ "[x]".toList) = [['x']] := by
      rw [Naming.letterWords_append noLetter]
      decide +kernel
    have split : value.text ++ ("[x]".toList ++ (parts.wording ++ (Bounds.shown bounds ++ []))) =
        value.text ++ "[x]".toList ++
          ' ' :: (parts.name ++ (parts.gap ++ Bounds.shown bounds)) := by
      simp [wording]
    rw [parts.unsigned_boost, split, Naming.letterWords_append_cons (by decide), marked,
      Naming.letterWords_append_right parts.not_alphabetic_rest]
    rfl
  | beforeBounds comparison =>
    have named : Naming.letterWords (value.text ++ (' ' :: parts.name)) =
        Naming.letterWords parts.name := by
      have spaced : ∀ char ∈ value.text ++ [' '], isAlphabetic char = false :=
        List.forall_mem_append.2 ⟨noLetter, forall_mem_of_none (by decide)⟩
      rw [← Naming.letterWords_append spaced parts.name, List.append_assoc]
      rfl
    have noLetterAfter : ∀ char ∈ comparison.after ++ parts.gap ++ (Bounds.shown bounds ++ []),
        isAlphabetic char = false := by
      rw [List.append_nil, List.append_assoc]
      exact List.forall_mem_append.2
        ⟨not_alphabetic_blanks comparison.blank_after, parts.not_alphabetic_rest⟩
    rw [parts.unsigned_beforeBounds, Bounds.shown, List.nil_append, ← List.append_assoc,
      letterWords_comparison comparison apart noLetterAfter, named]
    rfl
  | atEnd comparison =>
    have split : value.text ++ (parts.wording ++ (Bounds.shown bounds ++ comparison.before)) =
        value.text ++ (parts.wording ++ (Bounds.shown bounds ++ [])) ++ comparison.before := by
      simp
    rw [parts.unsigned_atEnd, split, letterWords_comparison comparison apart
      (not_alphabetic_blanks comparison.blank_after), parts.letterWords_line noLetter]
    rfl

end AffixParts

end Decorated

/-! Comparison of readings. -/

/-- What a reading tells apart from the name. -/
def kindAndRoll (found : Arrangement × Roll) : Bool × Roll := (found.1.isGreater, found.2)

section Outcomes

variable {lexicon : Lexicon} {left right : String} {leftText rightText : List Char}
  {leftFound rightFound : Option (Arrangement × Roll)}

theorem kind_eq_iff (left right : Arrangement) :
    (if left.isGreater then AffixKind.greater else .normal) =
        (if right.isGreater then AffixKind.greater else .normal) ↔
      left.isGreater = right.isGreater := by
  cases left.isGreater <;> cases right.isGreater <;> simp

theorem sameRoll_outcome :
    SameRoll (outcome lexicon left leftText leftFound)
        (outcome lexicon right rightText rightFound) ↔
      leftFound.map kindAndRoll = rightFound.map kindAndRoll := by
  cases leftFound with
  | none => cases rightFound <;> simp [outcome, SameRoll]
  | some leftFound =>
    obtain ⟨leftArrangement, leftRoll⟩ := leftFound
    cases rightFound with
    | none => simp [outcome, SameRoll]
    | some rightFound =>
      simp only [outcome, SameRoll, Option.map_some, Option.some.injEq, kindAndRoll,
        Prod.mk.injEq, kind_eq_iff]
      exact and_comm

theorem sameReading_outcome :
    SameReading (outcome lexicon left leftText leftFound)
        (outcome lexicon right rightText rightFound) ↔
      SameRoll (outcome lexicon left leftText leftFound)
          (outcome lexicon right rightText rightFound) ∧
        ∀ affix, outcome lexicon left leftText leftFound = .ok affix →
          lexicon.resolveAffix right = affix.name := by
  cases leftFound with
  | none => cases rightFound <;> simp [outcome, SameReading, SameRoll]
  | some leftFound =>
    cases rightFound with
    | none => simp [outcome, SameReading, SameRoll]
    | some rightFound =>
      simp only [outcome, SameReading, SameRoll, Except.ok.injEq, forall_eq']
      rw [and_comm, @eq_comm _ (lexicon.resolveAffix left)]

end Outcomes

theorem kindAndRoll_boxed_iff (value : Numeral) (bounds : Option Bounds) :
    (reading? value bounds).map kindAndRoll = (boxedReading? value bounds).map kindAndRoll ↔
      ¬ IsDisturbed value bounds := by
  cases bounds with
  | none =>
    by_cases integer : value.IsInteger
    · simp [reading?, boxedReading?, boxReading?, IsDisturbed, integer]
    · simp [reading?, boxedReading?, boxReading?, IsDisturbed, integer, kindAndRoll,
        Arrangement.isGreater]
  | some bounds =>
    cases bounds with
    | only number => simp [reading?, boxedReading?, Bounds.reading?, IsDisturbed]
    | range low high =>
      by_cases integer : value.IsInteger
      · by_cases both : low.IsInteger ∧ high.IsInteger
        · simp [reading?, boxedReading?, Bounds.reading?, IsDisturbed, integer, both]
        · simp [reading?, boxedReading?, Bounds.reading?, boxReading?, IsDisturbed, integer, both]
      · by_cases lowWhole : low.IsInteger <;> by_cases highWhole : high.IsInteger <;>
          simp [reading?, boxedReading?, Bounds.reading?, boxReading?, IsDisturbed, integer,
            lowWhole, highWhole]

/-- A decoration changes roll, kind and success only as a plus that leaves an empty bracket where
that matters. The name is resolved anew, from a line whose words are those of the plain one and of
the decoration. -/
theorem decodeAffix_decorated_iff (lexicon : Lexicon) {value : Numeral} {bounds : Option Bounds}
    (parts : AffixParts value bounds) (decoration : Decoration) :
    let plain := decodeAffix lexicon (String.ofList parts.text)
    let decorated := decodeAffix lexicon (String.ofList (decoration.on parts))
    (SameRoll plain decorated ↔ ¬ (decoration = .plus ∧ IsDisturbed value bounds)) ∧
      (SameReading plain decorated ↔ SameRoll plain decorated ∧ ∀ affix, plain = .ok affix →
        lexicon.resolveAffix (String.ofList (decoration.on parts)) = affix.name) ∧
      (decoration.IsApart → Naming.letterWords (decoration.on parts) =
        decoration.addWords (Naming.letterWords parts.text)) := by
  intro plain decorated
  obtain ⟨plainText, plainIs⟩ := parts.exists_outcome_text lexicon
  obtain ⟨decoratedText, decoratedIs⟩ := parts.exists_outcome_on lexicon decoration
  simp only [plain, decorated, plainIs, decoratedIs]
  refine ⟨sameRoll_outcome.trans ?_, sameReading_outcome, parts.letterWords_on decoration⟩
  cases decoration with
  | plus => simpa [Decoration.reading?] using kindAndRoll_boxed_iff value bounds
  | boost | beforeBounds | atEnd => simp [Decoration.reading?]

/-! An integer without bounds. -/

def dexterityLexicon : Lexicon := Lexicon.empty.addAffixes ["dexterity", "movement_speed"]

def dexterity : AffixParts (.ofDigits "16" "" (by decide) (by decide)) none where
  valueText := "+16".toList
  nameText := " Dexterity".toList
  boundsText := []
  name := "Dexterity".toList
  gap := []
  isName := by decide
  blank := List.forall_mem_nil _
  unsigned_value := by decide
  unsigned_name := by decide
  unsigned_bounds := rfl

theorem dexterity_lost_to_plus :
    String.ofList dexterity.text = "+16 Dexterity" ∧
      String.ofList (Decoration.plus.on dexterity) = "+16[+] Dexterity" ∧
      ¬ SameReading (decodeAffix dexterityLexicon "+16 Dexterity")
        (decodeAffix dexterityLexicon "+16[+] Dexterity") := by
  have plain : decodeAffix dexterityLexicon "+16 Dexterity" =
      .ok ⟨"dexterity", "+16 Dexterity", .bare (decimalValue "16".toList []), .greater⟩ := by
    rfl
  have decorated : decodeAffix dexterityLexicon "+16[+] Dexterity" =
      .error (.unknownFormat "+16[+] Dexterity" "16[] Dexterity") := by
    rfl
  rw [plain, decorated]
  exact ⟨rfl, rfl, id⟩

end LootSieve.Tooltip
