import LootSieve.Proofs.Tooltip.ShownLine

/-! Which arrangement is found on a cleaned line. Readers of brackets give nothing where no number
is opened, so the bounds decide whatever the order in which places are tried. Arrangements differ
only in what they take for the value and in the numerals that they admit. -/

namespace LootSieve.Tooltip
open Text

/-! Readers of brackets. -/

section Readers

variable {α : Type}

/-- The reader gives something only where a digit stands. -/
def NeedsDigit (read : List Char → Option α) : Prop :=
  ∀ text, (∀ char ∈ text.head?, char.isDigit = false) → read text = none

/-- The reader gives something only where a number is opened. -/
def ReadsBrackets (read : List Char → Option α) : Prop :=
  ∀ text, ¬ OpensNumber text → read text = none

theorem needsDigit_integer? : NeedsDigit integer? := by
  intro text noDigit
  rw [integer?, digits?_eq_none noDigit]
  rfl

/-- The reader gives something only where digits are followed by a point. -/
def NeedsPoint (read : List Char → Option α) : Prop :=
  ∀ text, (∀ number rest, digits? text = some (number, rest) → afterPhrase? ['.'] rest = none) →
    read text = none

theorem NeedsPoint.needsDigit {read : List Char → Option α} (needs : NeedsPoint read) :
    NeedsDigit read := by
  intro text noDigit
  refine needs text fun number rest cut => ?_
  rw [digits?_eq_none noDigit] at cut
  cases cut

theorem needsPoint_pointed? : NeedsPoint pointed? := by
  intro text noPoint
  unfold pointed?
  cases cut : digits? text with
  | none => rfl
  | some read =>
    obtain ⟨number, rest⟩ := read
    simp [noPoint number rest cut]

theorem needsPoint_pointedRangeAt? : NeedsPoint pointedRangeAt? := by
  intro text noPoint
  unfold pointedRangeAt?
  cases cut : digits? text with
  | none => rfl
  | some read =>
    obtain ⟨number, rest⟩ := read
    simp [noPoint number rest cut]

theorem needsPoint_emptyBoxAt? : NeedsPoint emptyBoxAt? := by
  intro text noPoint
  unfold emptyBoxAt?
  rw [needsPoint_pointed? text noPoint]
  rfl

theorem readsBrackets_range? {bound? : List Char → Option (Float × List Char)}
    (needs : NeedsDigit bound?) : ReadsBrackets (range? bound?) := by
  intro text closed
  cases text with
  | nil => rfl
  | cons char rest =>
    by_cases bracket : '[' = char
    · subst bracket
      have refused : bound? rest = none := by
        refine needs rest fun figure head => ?_
        cases rest with
        | nil => cases head
        | cons first rest =>
          cases head
          by_contra digit
          exact closed ⟨figure, rest, rfl, isNumeralChar_of_isDigit (Bool.not_eq_false _ ▸ digit)⟩
      simp [range?, afterPhrase?, refused]
    · simp [range?, afterPhrase?, bracket]

theorem readsBrackets_boxed? : ReadsBrackets boxed? := by
  intro text closed
  cases text with
  | nil => rfl
  | cons char rest =>
    by_cases bracket : '[' = char
    · subst bracket
      have nothing : rest.takeWhile isNumeralChar = [] := by
        cases rest with
        | nil => rfl
        | cons first rest =>
          by_cases figure : isNumeralChar first = true
          · exact absurd ⟨first, rest, rfl, figure⟩ closed
          · rw [List.takeWhile_cons_of_neg figure]
      simp only [boxed?, afterPhrase?, if_true, Option.bind_eq_bind, Option.bind_some,
        List.span_eq_takeWhile_dropWhile, nothing, List.isEmpty_nil]
      cases afterPhrase? [']'] (rest.dropWhile isNumeralChar) <;> rfl
    · simp [boxed?, afterPhrase?, bracket]

end Readers

/-! What the readers find in the brackets. -/

namespace Bounds

def wholeRange? : Bounds → Option (Float × Float)
  | only _ => none
  | range low high =>
    if low.IsInteger ∧ high.IsInteger then some (low.value, high.value) else none

def pointedRange? : Bounds → Option (Float × Float)
  | only _ => none
  | range low high =>
    if ¬ low.IsInteger ∧ ¬ high.IsInteger then some (low.value, high.value) else none

theorem afterPhrase?_append (phrase rest : List Char) :
    afterPhrase? phrase (phrase ++ rest) = some rest :=
  (afterPhrase?_eq_some_iff phrase (phrase ++ rest) rest).2 rfl

theorem range?_bracket {bound? : List Char → Option (Float × List Char)} (text : List Char) :
    range? bound? ('[' :: text) = (bound? text).bind fun low =>
      (afterPhrase? " - ".toList low.2).bind fun rest => (bound? rest).bind fun high =>
        (afterPhrase? [']'] high.2).bind fun _ => some (low.1, high.1) :=
  rfl

theorem range?_integer (bounds : Bounds) : range? integer? bounds.text = bounds.wholeRange? := by
  cases bounds with
  | only number =>
    rw [text, range?_bracket, inner]
    by_cases integer : number.IsInteger
    · rw [number.integer?_append integer (endsNumeral_close [])]
      rfl
    · rw [number.integer?_decimal integer]
      rfl
  | range low high =>
    rw [text, range?_bracket, inner, wholeRange?]
    by_cases lowWhole : low.IsInteger
    · rw [low.integer?_append lowWhole (endsNumeral_dash _), Option.bind_some, afterPhrase?_append,
        Option.bind_some]
      by_cases highWhole : high.IsInteger
      · rw [high.integer?_append highWhole (endsNumeral_close []), if_pos ⟨lowWhole, highWhole⟩]
        rfl
      · rw [high.integer?_decimal highWhole, if_neg fun both => highWhole both.2]
        rfl
    · rw [low.integer?_decimal lowWhole, if_neg fun both => lowWhole both.1]
      rfl

theorem range?_pointed (bounds : Bounds) : range? pointed? bounds.text = bounds.pointedRange? := by
  cases bounds with
  | only number =>
    rw [text, range?_bracket, inner]
    by_cases integer : number.IsInteger
    · rw [number.pointed?_integer integer (endsNumeral_close [])]
      rfl
    · rw [number.pointed?_append integer (endsNumeral_close [])]
      rfl
  | range low high =>
    rw [text, range?_bracket, inner, pointedRange?]
    by_cases lowWhole : low.IsInteger
    · rw [low.pointed?_integer lowWhole (endsNumeral_dash _), if_neg fun both => both.1 lowWhole]
      rfl
    · rw [low.pointed?_append lowWhole (endsNumeral_dash _), Option.bind_some, afterPhrase?_append,
        Option.bind_some]
      by_cases highWhole : high.IsInteger
      · rw [high.pointed?_integer highWhole (endsNumeral_close []),
          if_neg fun both => both.2 highWhole]
        rfl
      · rw [high.pointed?_append highWhole (endsNumeral_close []), if_pos ⟨lowWhole, highWhole⟩]
        rfl

theorem boxed?_numeral {numeral : Numeral} {rest : List Char} (ends : EndsNumeral rest) :
    boxed? ('[' :: (numeral.text ++ rest)) =
      (afterPhrase? [']'] rest).bind fun _ => some numeral.text := by
  obtain ⟨digit, more, _, same⟩ := numeral.exists_text_eq_cons
  have opened : afterPhrase? ['['] ('[' :: (numeral.text ++ rest)) = some (numeral.text ++ rest) :=
    rfl
  simp only [boxed?, opened, Option.bind_eq_bind, Option.bind_some,
    Numeral.span_text_append ends]
  rw [same]
  rfl

def only? : Bounds → Option Numeral
  | only number => some number
  | range _ _ => none

theorem boxed?_text (bounds : Bounds) : boxed? bounds.text = bounds.only?.map Numeral.text := by
  cases bounds with
  | only number =>
    rw [text, inner, boxed?_numeral (endsNumeral_close [])]
    rfl
  | range low high =>
    rw [text, inner, boxed?_numeral (endsNumeral_dash _)]
    rfl

end Bounds

/-! Arrangements on a line that shows no brackets they can read. -/

section Refusals

variable {text : List Char}

theorem integerRange_eq_none (closed : ∀ tail, tail <:+ text → range? integer? tail = none) :
    leftmost integerRangeAt? text = none := by
  rw [leftmost_eq_none_iff]
  intro tail within
  unfold integerRangeAt?
  cases cut : integer? tail with
  | none => rfl
  | some read =>
    obtain ⟨⟨number, rest⟩, digits, rfl⟩ := Option.map_eq_some_iff.1 cut
    have inText : rest <:+ text := by
      rw [← append_of_digits? digits] at within
      exact (List.suffix_append number rest).trans within
    have refused : rangeAfterGap? integer? rest = none := by
      rw [rangeAfterGap?, List.findSome?_eq_none_iff]
      intro left member
      have inRest := suffix_of_mem_endings (List.mem_reverse.1 member)
      exact closed left (inRest.trans ((List.tail_suffix rest).trans inText))
    simp [refused]

theorem pointedRangeAt?_eq_none
    (closed : ∀ tail, tail <:+ text.tail → range? pointed? tail = none) :
    pointedRangeAt? text = none := by
  unfold pointedRangeAt?
  cases cut : digits? text with
  | none => rfl
  | some read =>
    obtain ⟨number, rest⟩ := read
    cases point : afterPhrase? ['.'] rest with
    | none => simp [point]
    | some afterPoint =>
      have inText : afterPoint <:+ text.tail := by
        rw [← append_of_digits? cut, (afterPhrase?_eq_some_iff ['.'] rest afterPoint).1 point]
        cases number with
        | nil => exact List.suffix_refl afterPoint
        | cons digit number => exact ⟨number ++ ['.'], by simp⟩
      simp only [Option.bind_eq_bind, Option.bind_some, point, List.findSome?_eq_none_iff,
        List.mem_reverse, Prod.forall]
      intro fraction left member
      have inRest := (suffix_of_mem_cuts member).trans (List.tail_suffix afterPoint)
      have refused : (endings (· ≠ '\n') left).findSome? (range? pointed?) = none := by
        rw [List.findSome?_eq_none_iff]
        intro ending isEnding
        have inLeft := (suffix_of_mem_endings isEnding).trans (List.tail_suffix left)
        exact closed ending (inLeft.trans (inRest.trans inText))
      rw [refused]
      rfl

theorem pointedRange_eq_none (closed : ∀ tail, tail <:+ text → range? pointed? tail = none) :
    leftmost pointedRangeAt? text = none := by
  rw [leftmost_eq_none_iff]
  exact fun tail within => pointedRangeAt?_eq_none fun left inTail =>
    closed left (inTail.trans ((List.tail_suffix tail).trans within))

theorem single_eq_none (closed : ∀ tail, tail <:+ text → boxed? tail = none) :
    single? text = none := by
  have nowhere : leftmost singleAt? text = none := by
    rw [leftmost_eq_none_iff]
    intro tail within
    rw [singleAt?, List.findSome?_eq_none_iff]
    rintro ⟨number, rest⟩ member
    have inTail := (suffix_of_mem_cuts (List.mem_reverse.1 member)).trans (List.tail_suffix tail)
    have refused : (endings notDigit rest).reverse.findSome? boxed? = none := by
      rw [List.findSome?_eq_none_iff]
      intro ending isEnding
      have inRest := (suffix_of_mem_endings (List.mem_reverse.1 isEnding)).trans
        (List.tail_suffix rest)
      exact closed ending (inRest.trans (inTail.trans within))
    dsimp only
    rw [refused]
    rfl
  rw [single?, nowhere]
  rfl

end Refusals

/-- What stands before the digits after the point is no whole number before a range. -/
theorem integerRangeAt?_wholePart {value : Numeral} {tail rest : List Char}
    (decimal : ¬ value.IsInteger) (within : tail <:+ value.whole ++ ['.']) (nonempty : tail ≠ []) :
    integerRangeAt? (tail ++ (value.fraction ++ rest)) = none := by
  obtain ⟨digit, more, fraction⟩ := List.exists_cons_of_ne_nil decimal
  have isDigit := value.fraction_digits digit (fraction ▸ List.mem_cons_self)
  have refused : rangeAfterGap? integer? ('.' :: (value.fraction ++ rest)) = none := by
    have closed : ¬ OpensNumber (value.fraction ++ rest) := by
      apply not_opensNumber_of_head
      rw [fraction]
      intro char head
      cases head
      rintro rfl
      cases isDigit
    have one : endings notDigit ('.' :: (value.fraction ++ rest)) = [value.fraction ++ rest] := by
      rw [fraction]
      simp [endings, notDigit, isDigit]
    rw [rangeAfterGap?, one, List.reverse_singleton, List.findSome?_singleton]
    exact readsBrackets_range? needsDigit_integer? _ closed
  rcases suffix_append_iff.1 within with ⟨part, inWhole, partNonempty, rfl⟩ | isPoint
  · have digits : ∀ char ∈ part, char.isDigit = true := fun char member =>
      value.whole_digits char (inWhole.subset member)
    have taken : integer? (part ++ ['.'] ++ (value.fraction ++ rest)) =
        some (decimalValue part [], '.' :: (value.fraction ++ rest)) := by
      rw [List.append_assoc, integer?, digits?_append partNonempty digits fun char head => by
        cases head
        rfl]
      rfl
    simp only [integerRangeAt?, taken, Option.bind_eq_bind, Option.bind_some, refused]
    rfl
  · rcases List.suffix_cons_iff.1 isPoint with rfl | none
    · have refused : integer? (['.'] ++ (value.fraction ++ rest)) = none := by
        refine needsDigit_integer? _ fun char head => ?_
        cases head
        rfl
      rw [integerRangeAt?, refused]
      rfl
    · exact absurd (List.suffix_nil.1 none) nonempty

theorem refused_in_bounds {α : Type} {matchAt : List Char → Option α} {bounds : Bounds}
    (needs : NeedsPoint matchAt) (unbracketed : ∀ tail, '[' ∉ tail → matchAt tail = none) :
    ∀ tail, tail <:+ bounds.text → matchAt tail = none := by
  intro tail within
  rcases List.suffix_cons_iff.1 within with rfl | later
  · refine needs.needsDigit _ fun char head => ?_
    cases head
    rfl
  · exact unbracketed tail fun member => bracket_not_mem_inner bounds (later.subset member)

/-! Arrangements on a line with brackets. -/

section Brackets

variable {value : Numeral} {filler : List Char} {bounds : Bounds} (isFiller : IsFiller filler)

include isFiller

theorem refused_everywhere {α : Type} {read : List Char → Option α} (reads : ReadsBrackets read)
    (refused : read bounds.text = none) :
    ∀ tail, tail <:+ value.text ++ (filler ++ bounds.text) → read tail = none := by
  intro tail within
  by_cases opens : OpensNumber tail
  · rw [eq_bounds_of_opensNumber value isFiller within opens]
    exact refused
  · exact reads tail opens

/-- Whatever order the endings after the value are tried in, the bounds decide. -/
theorem findSome?_endings {α : Type} {read : List Char → Option α} (reads : ReadsBrackets read)
    (parted : filler ≠ []) {allowed : Char → Bool} (all : ∀ char ∈ filler, allowed char = true)
    {places : List (List Char)}
    (same : ∀ place, place ∈ places ↔ place ∈ endings allowed (filler ++ bounds.text)) :
    places.findSome? read = read bounds.text := by
  refine findSome?_eq_of_unique ((same _).2 (mem_endings_append parted all)) fun place member => ?_
  by_cases opens : OpensNumber place
  · have within := suffix_of_mem_endings ((same place).1 member)
    exact .inl (eq_bounds_after_value isFiller (within.trans (List.tail_suffix _)) opens)
  · exact .inr (reads place opens)

theorem rangeAfterGap?_bounds {bound? : List Char → Option (Float × List Char)}
    (needs : NeedsDigit bound?) (parted : filler ≠ []) :
    rangeAfterGap? bound? (filler ++ bounds.text) = range? bound? bounds.text := by
  refine findSome?_endings isFiller (readsBrackets_range? needs) parted ?_ fun _ => List.mem_reverse
  intro char member
  rw [notDigit, not_isDigit_of_not_isNumeralChar (isFiller char member).1, Bool.not_false]

theorem integerRangeAt?_run {run : List Char} (nonempty : run ≠ [])
    (digits : ∀ char ∈ run, char.isDigit = true) (parted : filler ≠ []) :
    integerRangeAt? (run ++ (filler ++ bounds.text)) =
      bounds.wholeRange?.map fun (low, high) => .ranged (decimalValue run []) low high := by
  have ends := isFiller.endsNumeral (endsNumeral_bounds bounds)
  have taken : integer? (run ++ (filler ++ bounds.text)) =
      some (decimalValue run [], filler ++ bounds.text) := by
    rw [integer?, digits?_append nonempty digits
      fun char head => not_isDigit_of_not_isNumeralChar (ends char head)]
    rfl
  have after : rangeAfterGap? integer? (filler ++ bounds.text) = bounds.wholeRange? :=
    (rangeAfterGap?_bounds isFiller needsDigit_integer? parted).trans bounds.range?_integer
  simp only [integerRangeAt?, taken, Option.bind_eq_bind, Option.bind_some, after]
  cases bounds.wholeRange? <;> rfl

theorem integerRange_bounds (parted : filler ≠ []) :
    leftmost integerRangeAt? (value.text ++ (filler ++ bounds.text)) =
      bounds.wholeRange?.map fun (low, high) =>
        .ranged (decimalValue value.lastDigits []) low high := by
  cases shown : bounds.wholeRange? with
  | none =>
    refine integerRange_eq_none (refused_everywhere isFiller
      (readsBrackets_range? needsDigit_integer?) ?_)
    rw [Bounds.range?_integer, shown]
  | some range =>
    by_cases integer : value.IsInteger
    · rw [value.text_of_integer integer, Numeral.lastDigits, if_pos integer]
      refine leftmost_of_head ?_
      rw [integerRangeAt?_run isFiller value.whole_ne_nil value.whole_digits parted, shown]
      rfl
    · -- no range follows the point behind the whole part, so the digits of the fraction come first
      have split : value.text ++ (filler ++ bounds.text) =
          value.whole ++ ['.'] ++ (value.fraction ++ (filler ++ bounds.text)) := by
        rw [value.text_of_decimal integer]
        simp
      rw [split, leftmost_append_of_none fun tail => integerRangeAt?_wholePart integer,
        Numeral.lastDigits, if_neg integer]
      refine leftmost_of_head ?_
      rw [integerRangeAt?_run isFiller integer value.fraction_digits parted, shown]
      rfl

/-- Behind a whole value and a filler a reader that needs a point finds nothing. -/
theorem leftmost_whole_value {α : Type} {matchAt : List Char → Option α} {rest : List Char}
    (needs : NeedsPoint matchAt) (integer : value.IsInteger) (ends : EndsNumeral rest)
    (after : ∀ tail, tail <:+ rest → matchAt tail = none) :
    leftmost matchAt (value.text ++ (filler ++ rest)) = none := by
  rw [leftmost_eq_none_iff]
  intro tail within
  rcases suffix_append_iff.1 within with ⟨part, inValue, nonempty, rfl⟩ | within
  · rw [value.text_of_integer integer] at inValue
    have digits : ∀ char ∈ part, char.isDigit = true := fun char member =>
      value.whole_digits char (inValue.subset member)
    have ends := isFiller.endsNumeral ends
    refine needs _ fun number left cut => ?_
    rw [digits?_append nonempty digits
      fun char head => not_isDigit_of_not_isNumeralChar (ends char head)] at cut
    cases cut
    exact afterPhrase?_point_eq_none ends
  rcases suffix_append_iff.1 within with ⟨part, inFiller, nonempty, rfl⟩ | inRest
  · have ends := (isFiller.suffix inFiller).endsNumeral ends
    exact needs.needsDigit _ fun char head => not_isDigit_of_not_isNumeralChar (ends char head)
  · exact after tail inRest

theorem pointedRange_bounds (parted : filler ≠ []) :
    leftmost pointedRangeAt? (value.text ++ (filler ++ bounds.text)) =
      if value.IsInteger then none
      else bounds.pointedRange?.map fun (low, high) => .ranged value.value low high := by
  have ends := isFiller.endsNumeral (endsNumeral_bounds bounds)
  by_cases integer : value.IsInteger
  · rw [if_pos integer]
    refine leftmost_whole_value isFiller needsPoint_pointedRangeAt? integer
      (endsNumeral_bounds bounds) (refused_in_bounds needsPoint_pointedRangeAt? ?_)
    intro tail unbracketed
    refine pointedRangeAt?_eq_none fun place within =>
      readsBrackets_range? needsPoint_pointed?.needsDigit _
        (not_opensNumber_of_mem fun member => ?_)
    exact unbracketed ((within.trans (List.tail_suffix tail)).subset member)
  · rw [if_neg integer]
    cases shown : bounds.pointedRange? with
    | none =>
      refine pointedRange_eq_none (refused_everywhere isFiller
        (readsBrackets_range? needsPoint_pointed?.needsDigit) ?_)
      rw [Bounds.range?_pointed, shown]
    | some range =>
      have after : (endings (· ≠ '\n') (filler ++ bounds.text)).findSome? (range? pointed?) =
          some range := by
        rw [findSome?_endings isFiller (readsBrackets_range? needsPoint_pointed?.needsDigit)
          parted ?_ fun _ => Iff.rfl, Bounds.range?_pointed, shown]
        exact fun char member => decide_eq_true (isFiller char member).2
      obtain ⟨shorter, longest⟩ := exists_cuts_eq_concat integer value.fraction_digits
        fun char head => not_isDigit_of_not_isNumeralChar (ends char head)
      refine leftmost_of_head ?_
      have point : afterPhrase? ['.'] ('.' :: value.fraction ++ (filler ++ bounds.text)) =
          some (value.fraction ++ (filler ++ bounds.text)) :=
        rfl
      simp only [pointedRangeAt?, value.digits?_decimal integer, Option.bind_eq_bind,
        Option.bind_some, point, longest, List.reverse_append, List.reverse_singleton,
        List.singleton_append, List.findSome?_cons, after]
      rfl

theorem single_bounds (parted : filler ≠ []) :
    single? (value.text ++ (filler ++ bounds.text)) =
      bounds.only?.map fun number => .ranged value.value number.value number.value := by
  have ends := isFiller.endsNumeral (endsNumeral_bounds bounds)
  cases shown : bounds.only? with
  | none =>
    refine single_eq_none (refused_everywhere isFiller readsBrackets_boxed? ?_)
    rw [Bounds.boxed?_text, shown]
    rfl
  | some number =>
    have after : (endings notDigit (filler ++ bounds.text)).reverse.findSome? boxed? =
        some number.text := by
      rw [findSome?_endings isFiller readsBrackets_boxed? parted ?_ fun _ => List.mem_reverse,
        Bounds.boxed?_text, shown]
      · rfl
      · intro char member
        rw [notDigit, not_isDigit_of_not_isNumeralChar (isFiller char member).1, Bool.not_false]
    obtain ⟨shorter, longest⟩ := exists_cuts_eq_concat value.text_ne_nil
      (fun char => Numeral.isNumeralChar_of_mem_text) ends
    have found : leftmost singleAt? (value.text ++ (filler ++ bounds.text)) =
        some (value.text, number.text) := by
      refine leftmost_of_head ?_
      simp only [singleAt?, longest, List.reverse_append, List.reverse_singleton,
        List.singleton_append, List.findSome?_cons, after, Option.map_some]
    simp only [single?, found, Option.bind_eq_bind, Option.bind_some,
      Numeral.readDecimal?_text]
    rfl

end Brackets

/-! Empty brackets. -/

theorem trimStart_cons_figure {figure : Char} (isFigure : isNumeralChar figure = true)
    (rest : List Char) : trimStart (figure :: rest) = figure :: rest :=
  List.dropWhile_cons_of_neg (Bool.eq_false_iff.1 (isBlank_of_isNumeralChar isFigure))

theorem suffix_of_pointed? {text rest : List Char} {value : Float}
    (taken : pointed? text = some (value, rest)) : rest <:+ text := by
  unfold pointed? at taken
  obtain ⟨⟨whole, afterWhole⟩, first, taken⟩ := Option.bind_eq_some_iff.1 taken
  obtain ⟨afterPoint, point, taken⟩ := Option.bind_eq_some_iff.1 taken
  obtain ⟨⟨fraction, left⟩, second, taken⟩ := Option.bind_eq_some_iff.1 taken
  cases taken
  rw [afterPhrase?_eq_some_iff] at point
  rw [← append_of_digits? first, point, ← append_of_digits? second]
  exact ⟨whole ++ (['.'] ++ fraction), by simp⟩

/-- A bracket that opens a number is no empty one. -/
theorem emptyBox_eq_none {text : List Char} (opens : BracketsOpen text) :
    leftmost emptyBoxAt? text = none := by
  rw [leftmost_eq_none_iff]
  intro tail within
  unfold emptyBoxAt?
  cases taken : pointed? tail with
  | none => rfl
  | some read =>
    obtain ⟨value, rest⟩ := read
    cases bracket : afterPhrase? ['['] (trimStart rest) with
    | none => simp [bracket]
    | some inner =>
      have place := (afterPhrase?_eq_some_iff ['['] (trimStart rest) inner).1 bracket
      have inRest : trimStart rest <:+ rest := List.dropWhile_suffix isBlank
      have inText := (inRest.trans (suffix_of_pointed? taken)).trans within
      obtain ⟨figure, left, same, isFigure⟩ := opens _ inText (by rw [place]; rfl)
      rw [place] at same
      obtain ⟨_, rfl⟩ := List.cons.inj same
      have notClosed : ']' ≠ figure := by
        rintro rfl
        cases isFigure
      simp [bracket, trimStart_cons_figure isFigure, afterPhrase?, notClosed]

theorem emptyBoxAt?_unbracketed {text : List Char} (unbracketed : '[' ∉ text) :
    emptyBoxAt? text = none := by
  refine leftmost_eq_none_iff.1 (emptyBox_eq_none fun tail within head => ?_) text
    (List.suffix_refl text)
  exact absurd (within.subset (List.mem_of_head? head)) unbracketed

theorem emptyBox_found {value : Numeral} (decimal : ¬ value.IsInteger) (rest : List Char) :
    leftmost emptyBoxAt? (value.text ++ '[' :: ']' :: rest) = some (.bare value.value) := by
  refine leftmost_of_head ?_
  have ends : EndsNumeral ('[' :: ']' :: rest) := endsNumeral_cons rfl _
  rw [emptyBoxAt?, value.pointed?_append decimal ends]
  rfl

/-! The arrangement that decides. -/

/-- A value before an empty bracket needs its point. -/
def boxReading? (value : Numeral) : Option (Arrangement × Roll) :=
  if value.IsInteger then none else some (.emptyBox, .bare value.value)

/-- What brackets give with the value before them. Before a range in whole numbers only the last
digits of a value count. -/
def Bounds.reading? (value : Numeral) : Bounds → Option (Arrangement × Roll)
  | .only number => some (.single, .ranged value.value number.value number.value)
  | .range low high =>
    if low.IsInteger ∧ high.IsInteger then
      some (.integerRange, .ranged (decimalValue value.lastDigits []) low.value high.value)
    else if ¬ value.IsInteger ∧ ¬ low.IsInteger ∧ ¬ high.IsInteger then
      some (.pointedRange, .ranged value.value low.value high.value)
    else none

theorem bare?_bracketed {text : List Char} (bracket : '[' ∈ text) : bare? text = none := by
  simp [bare?, bracket]

section Decides

variable {value : Numeral} {filler : List Char} {bounds : Bounds}

theorem find?_eq_or (text : List Char) :
    Arrangement.find? text =
      ((leftmost integerRangeAt? text).map (.integerRange, ·)).or
        (((leftmost pointedRangeAt? text).map (.pointedRange, ·)).or
          (((single? text).map (.single, ·)).or
            (((leftmost emptyBoxAt? text).map (.emptyBox, ·)).or
              ((bare? text).map (.bare, ·))))) := by
  have step : ∀ arrangement (rest : List Arrangement)
      (read : Arrangement → Option (Arrangement × Roll)),
      (arrangement :: rest).findSome? read = (read arrangement).or (rest.findSome? read) := by
    intro arrangement rest read
    rw [List.findSome?_cons]
    cases read arrangement <;> rfl
  simp only [Arrangement.find?, Arrangement.all, step, List.findSome?_nil, Option.or_none]
  rfl

/-- Brackets are read alike behind every filler, until an empty bracket is looked for. -/
theorem find?_bounds (isFiller : IsFiller filler) (parted : filler ≠ []) :
    Arrangement.find? (value.text ++ (filler ++ bounds.text)) =
      (bounds.reading? value).or
        ((leftmost emptyBoxAt? (value.text ++ (filler ++ bounds.text))).map (.emptyBox, ·)) := by
  rw [find?_eq_or, integerRange_bounds isFiller parted, pointedRange_bounds isFiller parted,
    single_bounds isFiller parted, bare?_bracketed (by simp [Bounds.text])]
  -- each reader takes bounds of one form, so their order does not matter
  cases bounds with
  | only number => simp [Bounds.wholeRange?, Bounds.pointedRange?, Bounds.only?, Bounds.reading?]
  | range low high =>
    by_cases bothWhole : low.IsInteger ∧ high.IsInteger
    · simp [Bounds.wholeRange?, Bounds.reading?, bothWhole]
    · by_cases valueWhole : value.IsInteger
      · simp [Bounds.wholeRange?, Bounds.only?, Bounds.reading?, bothWhole, valueWhole]
      · by_cases bothPointed : ¬ low.IsInteger ∧ ¬ high.IsInteger
        · simp [Bounds.wholeRange?, Bounds.pointedRange?, Bounds.reading?, valueWhole, bothPointed]
        · simp [Bounds.wholeRange?, Bounds.pointedRange?, Bounds.only?, Bounds.reading?, bothWhole,
            valueWhole, bothPointed]

/-- Without bounds the value is read, unless a bracket on the line forbids it. -/
theorem find?_unbounded (isFiller : IsFiller filler) :
    Arrangement.find? (value.text ++ filler) =
      ((leftmost emptyBoxAt? (value.text ++ filler)).map (.emptyBox, ·)).or
        ((bare? (value.text ++ filler)).map (.bare, ·)) := by
  have closed : ∀ tail, tail <:+ value.text ++ filler → ¬ OpensNumber tail := fun _ =>
    not_opensNumber_unbounded value isFiller
  rw [find?_eq_or, integerRange_eq_none fun tail within =>
      readsBrackets_range? needsDigit_integer? tail (closed tail within),
    pointedRange_eq_none fun tail within =>
      readsBrackets_range? needsPoint_pointed?.needsDigit tail (closed tail within),
    single_eq_none fun tail within => readsBrackets_boxed? tail (closed tail within)]
  simp

end Decides

section Wording

variable {value : Numeral} {wording : List Char} {bounds : Bounds}

/-- Behind a wording the arrangement is that of the bounds. -/
theorem find?_wording_bounds (isWording : IsWording wording) (parted : wording ≠ []) :
    Arrangement.find? (value.text ++ (wording ++ bounds.text)) = bounds.reading? value := by
  have wordingOpens := (bracketsOpen_text bounds).append (isWording.not_mem rfl (by decide))
  have lineOpens := wordingOpens.append (bracket_not_mem_text value)
  rw [find?_bounds isWording.isFiller parted, emptyBox_eq_none lineOpens, Option.map_none,
    Option.or_none]

theorem find?_wording (isWording : IsWording wording) :
    Arrangement.find? (value.text ++ wording) = some (.bare, .bare value.value) := by
  have unbracketed : '[' ∉ value.text ++ wording := by
    rw [List.mem_append, not_or]
    exact ⟨bracket_not_mem_text value, isWording.not_mem rfl (by decide)⟩
  have unclosed : ']' ∉ value.text ++ wording := by
    rw [List.mem_append, not_or]
    exact ⟨Numeral.not_mem_text rfl, isWording.not_mem rfl (by decide)⟩
  have noBox : leftmost emptyBoxAt? (value.text ++ wording) = none :=
    emptyBox_eq_none fun tail within head =>
      absurd (within.subset (List.mem_of_head? head)) unbracketed
  have ends : EndsNumeral wording := by
    have filled := isWording.isFiller.endsNumeral endsNumeral_nil
    rwa [List.append_nil] at filled
  have bare : bare? (value.text ++ wording) = some (.bare value.value) := by
    rw [bare?, value.firstNumber?_append ends (isWording.not_mem rfl (by decide))]
    simp [unbracketed, unclosed]
  rw [find?_unbounded isWording.isFiller, noBox, bare]
  rfl

theorem emptyBox_of_integer {rest : List Char} (isWording : IsWording wording)
    (integer : value.IsInteger) (ends : EndsNumeral rest)
    (after : ∀ tail, tail <:+ rest → emptyBoxAt? tail = none) :
    leftmost emptyBoxAt? (value.text ++ ('[' :: ']' :: wording ++ rest)) = none :=
  leftmost_whole_value isWording.isFiller_box needsPoint_emptyBoxAt? integer ends after

/-- An empty bracket after the value does not stand in the way of bounds, but where they give
nothing it is read itself. -/
theorem find?_box_bounds (isWording : IsWording wording) :
    Arrangement.find? (value.text ++ ('[' :: ']' :: wording ++ bounds.text)) =
      (bounds.reading? value).or (boxReading? value) := by
  rw [find?_bounds isWording.isFiller_box (List.cons_ne_nil _ _), boxReading?]
  by_cases integer : value.IsInteger
  · rw [if_pos integer, emptyBox_of_integer isWording integer (endsNumeral_bounds bounds)
      (refused_in_bounds needsPoint_emptyBoxAt? fun _ => emptyBoxAt?_unbracketed)]
    rfl
  · rw [if_neg integer]
    exact congrArg _ (congrArg _ (emptyBox_found integer _))

theorem find?_box (isWording : IsWording wording) :
    Arrangement.find? (value.text ++ '[' :: ']' :: wording) = boxReading? value := by
  rw [find?_unbounded isWording.isFiller_box, bare?_bracketed (by simp), boxReading?]
  by_cases integer : value.IsInteger
  · have noBox : leftmost emptyBoxAt? (value.text ++ ('[' :: ']' :: wording ++ [])) = none :=
      emptyBox_of_integer isWording integer endsNumeral_nil fun tail within =>
        emptyBoxAt?_unbracketed (List.suffix_nil.1 within ▸ List.not_mem_nil)
    rw [List.append_nil] at noBox
    rw [if_pos integer, noBox]
    rfl
  · rw [if_neg integer, emptyBox_found integer]
    rfl

end Wording

end LootSieve.Tooltip
