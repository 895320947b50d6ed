import LootSieve.Proofs.Tooltip.NearestNumber

/-!
What the readers of a number with a range accept: a number, a gap, and a range. Each reader is sound
and complete for its own kind of number, gap and bounds; all bounds are among those that the lenient
reader takes. What a reader accepts it also accepts with one more digit in front, so the leftmost
place never lies behind a digit.
-/

namespace LootSieve.Tooltip
open Text

/-! Ranges. -/

/-- Wherever no point follows its number, the reader reads what the lenient one does. -/
def IsStrict (bound? : List Char → Option (Float × List Char)) : Prop :=
  ∀ text value rest, bound? text = some (value, rest) → (∀ char ∈ rest.head?, char ≠ '.') →
    loose? text = some (value, rest)

section Ranges

variable {bound? : List Char → Option (Float × List Char)} {tail : List Char} {low high : Float}

theorem range?_eq_some_iff : range? bound? tail = some (low, high) ↔
    ∃ first second rest, tail = '[' :: first ∧ bound? first = some (low, " - ".toList ++ second) ∧
      bound? second = some (high, ']' :: rest) := by
  simp only [range?, Option.bind_eq_bind, Option.bind_eq_some_iff, afterPhrase?_eq_some_iff,
    Option.pure_def, Option.some.injEq, Prod.exists, Prod.mk.injEq]
  constructor
  · intro found
    obtain ⟨first, opens, _, _, lowRead, second, dash, _, _, highRead, _, closes, rfl, rfl⟩ := found
    subst dash closes
    exact ⟨first, second, _, opens, lowRead, highRead⟩
  · intro parts
    obtain ⟨first, second, rest, opens, lowRead, highRead⟩ := parts
    exact ⟨first, opens, low, _, lowRead, second, rfl, high, _, highRead, rest, rfl, rfl, rfl⟩

theorem exists_opening (found : range? bound? tail = some (low, high)) :
    ∃ inner, tail = '[' :: inner := by
  obtain ⟨first, _, _, opens, _⟩ := range?_eq_some_iff.1 found
  exact ⟨first, opens⟩

theorem IsStrict.range?_loose (strict : IsStrict bound?)
    (found : range? bound? tail = some (low, high)) : range? loose? tail = some (low, high) := by
  obtain ⟨first, second, rest, opens, lowRead, highRead⟩ := range?_eq_some_iff.1 found
  refine range?_eq_some_iff.2 ⟨first, second, rest, opens, strict _ _ _ lowRead ?_,
    strict _ _ _ highRead ?_⟩
  · intro char head
    cases head
    decide
  · intro char head
    cases head
    decide

theorem isStrict_integer? : IsStrict integer? := by
  intro text value rest read noPoint
  obtain ⟨⟨whole, left⟩, cut, same⟩ := Option.map_eq_some_iff.1 read
  cases same
  unfold loose? looseReadings
  rw [cut]
  split
  · next nothing => cases nothing
  · next other more same =>
    cases same
    exact absurd rfl (noPoint '.' rfl)
  · next same =>
    cases same
    rfl

theorem isStrict_pointed? : IsStrict pointed? := by
  intro text value rest read _
  simp only [pointed?, Option.bind_eq_bind, Option.bind_eq_some_iff, afterPhrase?_eq_some_iff,
    Option.pure_def, Option.some.injEq, Prod.exists, Prod.mk.injEq] at read
  obtain ⟨whole, _, cut, afterPoint, point, fraction, _, fractionCut, rfl, rfl⟩ := read
  obtain ⟨joined, nonempty, digits, stop⟩ := digits?_eq_some_iff.1 fractionCut
  subst point joined
  unfold loose? looseReadings
  rw [cut]
  simp only [List.singleton_append, span_digits_append digits stop]
  rfl

end Ranges

/-! Readers of a number and its range. -/

/-- The text begins with a number, and a range follows behind a gap. -/
structure Leads (bound? : List Char → Option (Float × List Char)) (text : List Char)
    (number : Numeral) (gap tail : List Char) (low high : Float) : Prop where
  split : number.text ++ (gap ++ tail) = text
  apart : gap ≠ []
  bounds : range? bound? tail = some (low, high)

section Readers

variable {bound? : List Char → Option (Float × List Char)} {text gap tail : List Char}
  {number : Numeral} {low high : Float} {roll : Roll}

theorem exists_gap_of_rangeAfterGap? (found : rangeAfterGap? bound? text = some (low, high)) :
    ∃ gap tail, gap ++ tail = text ∧ gap ≠ [] ∧ IsDigitless gap ∧
      range? bound? tail = some (low, high) := by
  obtain ⟨tail, member, bounds⟩ := List.exists_of_findSome?_eq_some found
  obtain ⟨gap, joined, apart, allowed⟩ := append_of_mem_endings (List.mem_reverse.1 member)
  refine ⟨gap, tail, joined, apart, ?_, bounds⟩
  intro char inGap
  simpa [notDigit] using allowed char inGap

theorem isSome_rangeAfterGap? (apart : gap ≠ []) (digitless : IsDigitless gap)
    (bounds : range? bound? tail = some (low, high)) :
    (rangeAfterGap? bound? (gap ++ tail)).isSome = true := by
  have allowed : ∀ char ∈ gap, notDigit char = true := by
    intro char inGap
    rw [notDigit, digitless char inGap]
    rfl
  unfold rangeAfterGap?
  rw [List.findSome?_isSome_iff]
  exact ⟨tail, List.mem_reverse.2 (mem_endings_append apart allowed), by rw [bounds]; rfl⟩

theorem leads_of_integerRangeAt? (found : integerRangeAt? text = some roll) :
    ∃ number gap tail low high, Leads integer? text number gap tail low high ∧
      number.IsInteger ∧ IsDigitless gap ∧ roll = .ranged number.value low high := by
  unfold integerRangeAt? at found
  obtain ⟨⟨value, rest⟩, read, found⟩ := Option.bind_eq_some_iff.1 found
  obtain ⟨⟨low, high⟩, bounded, found⟩ := Option.bind_eq_some_iff.1 found
  cases found
  obtain ⟨⟨whole, left⟩, cut, same⟩ := Option.map_eq_some_iff.1 read
  cases same
  obtain ⟨joined, nonempty, digits, _⟩ := digits?_eq_some_iff.1 cut
  obtain ⟨gap, tail, rfl, apart, digitless, bounds⟩ := exists_gap_of_rangeAfterGap? bounded
  exact ⟨⟨whole, [], nonempty, digits, nofun⟩, gap, tail, low, high, ⟨joined, apart, bounds⟩, rfl,
    digitless, rfl⟩

theorem isSome_integerRangeAt? (leads : Leads integer? text number gap tail low high)
    (integer : number.IsInteger) (digitless : IsDigitless gap) :
    (integerRangeAt? text).isSome = true := by
  obtain ⟨rfl, apart, bounds⟩ := leads
  have ends : number.Ends (gap ++ tail) := Numeral.ends_gap apart digitless (exists_opening bounds)
  have read : integer? (number.text ++ (gap ++ tail)) =
      some (decimalValue number.whole [], gap ++ tail) := by
    rw [integer?, Numeral.text_of_integer integer,
      digits?_append number.whole_ne_nil number.whole_digits ends.noDigit]
    rfl
  obtain ⟨⟨first, second⟩, ranged⟩ :=
    Option.isSome_iff_exists.1 (isSome_rangeAfterGap? apart digitless bounds)
  simp only [integerRangeAt?, read, Option.bind_eq_bind, Option.bind_some, ranged]
  rfl

theorem leads_of_pointedRangeAt? (found : pointedRangeAt? text = some roll) :
    ∃ number gap tail low high, Leads pointed? text number gap tail low high ∧
      ¬ number.IsInteger ∧ '\n' ∉ gap ∧ roll = .ranged number.value low high := by
  unfold pointedRangeAt? at found
  obtain ⟨⟨whole, rest⟩, cut, found⟩ := Option.bind_eq_some_iff.1 found
  obtain ⟨afterPoint, point, found⟩ := Option.bind_eq_some_iff.1 found
  obtain ⟨⟨fraction, left⟩, inCuts, found⟩ := List.exists_of_findSome?_eq_some found
  obtain ⟨⟨low, high⟩, bounded, found⟩ := Option.bind_eq_some_iff.1 found
  cases found
  obtain ⟨tail, inEndings, bounds⟩ := List.exists_of_findSome?_eq_some bounded
  obtain ⟨joined, nonempty, digits, _⟩ := digits?_eq_some_iff.1 cut
  obtain ⟨fractionJoined, decimal, fractionDigits⟩ := append_of_mem_cuts (List.mem_reverse.1 inCuts)
  obtain ⟨gap, gapJoined, apart, allowed⟩ := append_of_mem_endings inEndings
  let number : Numeral := ⟨whole, fraction, nonempty, digits, fractionDigits⟩
  have isDecimal : ¬ number.IsInteger := decimal
  refine ⟨number, gap, tail, low, high, ⟨?_, apart, bounds⟩, isDecimal, ?_, rfl⟩
  · rw [Numeral.text_of_decimal isDecimal, ← joined, (afterPhrase?_eq_some_iff _ _ _).1 point,
      ← fractionJoined, ← gapJoined, List.append_assoc]
    rfl
  · intro breaks
    simpa using allowed '\n' breaks

theorem isSome_pointedRangeAt? (leads : Leads pointed? text number gap tail low high)
    (decimal : ¬ number.IsInteger) (unbroken : '\n' ∉ gap) :
    (pointedRangeAt? text).isSome = true := by
  obtain ⟨rfl, apart, bounds⟩ := leads
  have allowed : ∀ char ∈ gap, decide (char ≠ '\n') = true := by
    intro char member
    rw [decide_eq_true_eq]
    intro breaks
    exact unbroken (breaks ▸ member)
  have ranged : ((endings (fun char => char ≠ '\n') (gap ++ tail)).findSome?
      (range? pointed?)).isSome = true := by
    rw [List.findSome?_isSome_iff]
    exact ⟨tail, mem_endings_append apart allowed, by rw [bounds]; rfl⟩
  have inCuts : (number.fraction, gap ++ tail) ∈
      (cuts Char.isDigit (number.fraction ++ (gap ++ tail))).reverse :=
    List.mem_reverse.2 (mem_cuts_append decimal number.fraction_digits)
  obtain ⟨⟨first, second⟩, ranged⟩ := Option.isSome_iff_exists.1 ranged
  simp only [pointedRangeAt?, Numeral.digits?_decimal decimal, Option.bind_eq_bind,
    Option.bind_some, List.cons_append, afterPhrase?, if_true]
  rw [List.findSome?_isSome_iff]
  refine ⟨_, inCuts, ?_⟩
  simp only [ranged, Option.bind_some]
  rfl

/-- A point without digits may count as part of the number or of what follows. -/
theorem numeral_of_mem_looseReadings {value : Float} {rest : List Char}
    (member : (value, rest) ∈ looseReadings text) :
    ∃ number point, Numeral.text number ++ (point ++ rest) = text ∧ value = number.value ∧
      IsDigitless point := by
  have noDigit : IsDigitless ['.'] := by
    intro char only
    rw [List.mem_singleton.1 only]
    rfl
  unfold looseReadings at member
  split at member
  · cases member
  · next whole behind cut =>
    obtain ⟨joined, nonempty, digits, _⟩ := digits?_eq_some_iff.1 cut
    split at member
    · rcases List.mem_pair.1 member with same | same
      · cases same
        exact ⟨⟨whole, [], nonempty, digits, nofun⟩, ['.'], joined, rfl, noDigit⟩
      · cases same
        exact ⟨⟨whole, [], nonempty, digits, nofun⟩, [], joined, rfl, nofun⟩
    · next fraction left decimal spanned =>
      cases List.mem_singleton.1 member
      rw [List.span_eq_takeWhile_dropWhile] at spanned
      cases spanned
      let number : Numeral := ⟨whole, behind.takeWhile Char.isDigit, nonempty, digits,
        List.all_eq_true.1 List.all_takeWhile⟩
      have isDecimal : ¬ number.IsInteger := decimal
      refine ⟨number, [], ?_, rfl, nofun⟩
      rw [Numeral.text_of_decimal isDecimal, ← joined, List.append_assoc]
      exact congrArg (whole ++ '.' :: ·) List.takeWhile_append_dropWhile
  · next whole left _ cut =>
    cases List.mem_singleton.1 member
    obtain ⟨joined, nonempty, digits, _⟩ := digits?_eq_some_iff.1 cut
    exact ⟨⟨whole, [], nonempty, digits, nofun⟩, [], joined, rfl, nofun⟩

theorem mem_looseReadings {rest : List Char} (ends : number.Ends rest) :
    (number.value, rest) ∈ looseReadings (number.text ++ rest) := by
  unfold looseReadings
  by_cases integer : number.IsInteger
  · have value : number.value = decimalValue number.whole [] :=
      congrArg (decimalValue number.whole) integer
    rw [Numeral.text_of_integer integer, value,
      digits?_append number.whole_ne_nil number.whole_digits ends.noDigit]
    split
    · next nothing => cases nothing
    · next whole more same =>
      cases same
      have noFraction : ([] ++ more).span Char.isDigit = ([], more) :=
        span_digits_append (List.forall_mem_nil _) (ends.noFraction integer more rfl)
      rw [List.nil_append] at noFraction
      rw [noFraction]
      exact List.mem_cons_of_mem _ List.mem_cons_self
    · next same =>
      cases same
      exact List.mem_cons_self
  · rw [Numeral.digits?_decimal integer]
    simp only [List.cons_append, span_digits_append number.fraction_digits ends.noDigit]
    split
    · next same => exact absurd (congrArg Prod.fst same) integer
    · next same =>
      cases same
      exact List.mem_cons_self

theorem leads_of_looseRangeAt? (found : looseRangeAt? text = some roll) :
    ∃ number gap tail low high, Leads loose? text number gap tail low high ∧
      IsDigitless gap ∧ roll = .ranged number.value low high := by
  unfold looseRangeAt? at found
  obtain ⟨⟨value, rest⟩, member, found⟩ := List.exists_of_findSome?_eq_some found
  obtain ⟨⟨low, high⟩, bounded, found⟩ := Option.bind_eq_some_iff.1 found
  cases found
  obtain ⟨number, point, joined, same, noDigit⟩ := numeral_of_mem_looseReadings member
  obtain ⟨gap, tail, rfl, apart, digitless, bounds⟩ := exists_gap_of_rangeAfterGap? bounded
  subst same
  refine ⟨number, point ++ gap, tail, low, high, ⟨?_, ?_, bounds⟩, ?_, rfl⟩
  · rw [List.append_assoc, joined]
  · exact List.append_ne_nil_of_right_ne_nil point apart
  · intro char inBoth
    rcases List.mem_append.1 inBoth with inPoint | inGap
    · exact noDigit char inPoint
    · exact digitless char inGap

theorem isSome_looseRangeAt? (leads : Leads loose? text number gap tail low high)
    (digitless : IsDigitless gap) : (looseRangeAt? text).isSome = true := by
  obtain ⟨rfl, apart, bounds⟩ := leads
  have ends : number.Ends (gap ++ tail) := Numeral.ends_gap apart digitless (exists_opening bounds)
  obtain ⟨⟨first, second⟩, ranged⟩ :=
    Option.isSome_iff_exists.1 (isSome_rangeAfterGap? apart digitless bounds)
  unfold looseRangeAt?
  rw [List.findSome?_isSome_iff]
  refine ⟨_, mem_looseReadings ends, ?_⟩
  simp only [ranged, Option.bind_eq_bind, Option.bind_some]
  rfl

end Readers

/-! Numbers made longer to the left. -/

namespace Numeral

/-- The number with one more digit in front. -/
def extend (number : Numeral) (digit : Char) (isDigit : digit.isDigit = true) : Numeral where
  whole := digit :: number.whole
  fraction := number.fraction
  whole_ne_nil := List.cons_ne_nil digit number.whole
  whole_digits := List.forall_mem_cons.2 ⟨isDigit, number.whole_digits⟩
  fraction_digits := number.fraction_digits

theorem text_extend (number : Numeral) (digit : Char) (isDigit : digit.isDigit = true) :
    (number.extend digit isDigit).text = digit :: number.text := by
  unfold text
  split
  · next integer => rw [if_pos (show number.IsInteger from integer)]; rfl
  · next decimal => rw [if_neg (show ¬ number.IsInteger from decimal)]; rfl

/-- The digits of the number behind a digit and a point. -/
def behindPoint (number : Numeral) (digit : Char) (isDigit : digit.isDigit = true) : Numeral where
  whole := [digit]
  fraction := number.whole
  whole_ne_nil := List.cons_ne_nil digit []
  whole_digits := List.forall_mem_singleton.2 isDigit
  fraction_digits := number.whole_digits

theorem not_isInteger_behindPoint (number : Numeral) (digit : Char)
    (isDigit : digit.isDigit = true) : ¬ (number.behindPoint digit isDigit).IsInteger :=
  number.whole_ne_nil

theorem text_behindPoint (number : Numeral) (digit : Char) (isDigit : digit.isDigit = true) :
    (number.behindPoint digit isDigit).text = digit :: '.' :: number.whole :=
  text_of_decimal (number.not_isInteger_behindPoint digit isDigit)

end Numeral

section Leftmost

variable {bound? : List Char → Option (Float × List Char)} {text front rest gap tail : List Char}
  {number : Numeral} {low high : Float} {matchAt : List Char → Option Roll}

theorem Leads.extend (leads : Leads bound? text number gap tail low high) {digit : Char}
    (isDigit : digit.isDigit = true) :
    Leads bound? (digit :: text) (number.extend digit isDigit) gap tail low high := by
  refine ⟨?_, leads.apart, leads.bounds⟩
  rw [Numeral.text_extend, List.cons_append, leads.split]

theorem Leads.behindPoint (leads : Leads bound? text number gap tail low high)
    (integer : number.IsInteger) {digit : Char} (isDigit : digit.isDigit = true) :
    Leads bound? (digit :: '.' :: text) (number.behindPoint digit isDigit) gap tail low high := by
  refine ⟨?_, leads.apart, leads.bounds⟩
  rw [Numeral.text_behindPoint, ← leads.split, Numeral.text_of_integer integer]
  rfl

/-- A decimal behind a digit and a point gives way to the one that begins with this digit. -/
theorem Leads.swallow (leads : Leads bound? text number gap tail low high)
    (decimal : ¬ number.IsInteger) {digit : Char} (isDigit : digit.isDigit = true) :
    Leads bound? (digit :: '.' :: text) (number.behindPoint digit isDigit)
      ('.' :: (number.fraction ++ gap)) tail low high := by
  refine ⟨?_, List.cons_ne_nil _ _, leads.bounds⟩
  rw [Numeral.text_behindPoint, ← leads.split, Numeral.text_of_decimal decimal]
  simp

/-- Before a number with a range behind it, another may stand with the same range. -/
theorem Leads.earlier (leads : Leads bound? text number gap tail low high) (other : Numeral)
    (between : List Char) :
    Leads bound? (other.text ++ between ++ text) other (between ++ (number.text ++ gap)) tail
      low high := by
  refine ⟨?_, ?_, leads.bounds⟩
  · rw [← leads.split]
    simp
  · exact List.append_ne_nil_of_right_ne_nil between
      (List.append_ne_nil_of_right_ne_nil number.text leads.apart)

variable (nothingBefore : ∀ tail, tail <:+ front → tail ≠ [] → matchAt (tail ++ rest) = none)

include nothingBefore

theorem not_endsInDigit_of_leftmost
    (longer : ∀ digit, Char.isDigit digit = true → (matchAt (digit :: rest)).isSome = true) :
    ¬ EndsInDigit front := by
  intro ends
  obtain ⟨more, digit, isDigit, same⟩ := ends
  have found := longer digit isDigit
  have nothing := nothingBefore [digit] ⟨more, same.symm⟩ (List.cons_ne_nil _ _)
  rw [List.singleton_append] at nothing
  rw [nothing] at found
  cases found

theorem not_endsInPoint_of_leftmost
    (longer : ∀ digit, Char.isDigit digit = true → (matchAt (digit :: '.' :: rest)).isSome = true) :
    ¬ EndsInPoint front := by
  intro ends
  obtain ⟨more, digit, isDigit, same⟩ := ends
  have found := longer digit isDigit
  have nothing := nothingBefore [digit, '.'] ⟨more, same.symm⟩ (List.cons_ne_nil _ _)
  rw [List.cons_append, List.singleton_append] at nothing
  rw [nothing] at found
  cases found

end Leftmost

end LootSieve.Tooltip
