import LootSieve.Proofs.Tooltip.RangeReaders
import LootSieve.Tooltip.Decoding

/-!
Which number of a line is read with a range. A range belongs to the complete number that stands
nearest to the left of it. A reader that knows no points takes the digits behind a point for a whole
number, and one that lets any text stand before the range takes the first number that has a point.
-/

namespace LootSieve.Tooltip
open Text

/-! Pairings. -/

/-- How a roll stands on a line: a number, a gap, and the range that begins the tail. -/
structure Pairing (text : List Char) (roll : Roll) where
  before : List Char
  number : Numeral
  gap : List Char
  tail : List Char
  low : Float
  high : Float
  split : before ++ (number.text ++ (gap ++ tail)) = text
  bounds : range? loose? tail = some (low, high)
  rolled : roll = .ranged number.value low high

/-- At most one range stands on the line. -/
def HasOneRange (text : List Char) : Prop :=
  ∀ tail other, tail <:+ text → other <:+ text → (range? loose? tail).isSome = true →
    (range? loose? other).isSome = true → tail = other

theorem hasOneRange_of_tails {text place : List Char}
    (places : ∀ tail ∈ text.tails, (range? loose? tail).isSome = true → tail = place) :
    HasOneRange text := by
  intro tail other within otherWithin opens otherOpens
  rw [places tail ((List.mem_tails _ _).2 within) opens,
    places other ((List.mem_tails _ _).2 otherWithin) otherOpens]

namespace Pairing

variable {text : List Char} {roll other : Roll}

/-- The range stands with its own number, the nearest that is complete. -/
def IsOwn (pairing : Pairing text roll) : Prop :=
  IsNearest pairing.before pairing.number pairing.gap pairing.tail

/-- No digit stands between the number and the range, nor directly before the number. -/
structure IsAdjacent (pairing : Pairing text roll) : Prop where
  digitless : IsDigitless pairing.gap
  apart : pairing.gap ≠ []
  noDigit : ¬ EndsInDigit pairing.before

/-- The number is the first on its line of text that has a point. -/
structure IsFirstDecimal (pairing : Pairing text roll) : Prop where
  decimal : ¬ pairing.number.IsInteger
  noDigit : ¬ EndsInDigit pairing.before
  noPoint : ¬ EndsInPoint pairing.before
  unbroken : '\n' ∉ pairing.gap
  first : ∀ front number behind, pairing.before = front ++ (Numeral.text number ++ behind) →
    ¬ number.IsInteger → '\n' ∈ behind

/-- Neither does the number go on in the gap nor does a complete one stand there. -/
structure HasFreeGap (pairing : Pairing text roll) : Prop where
  noDigit : ∀ char ∈ (pairing.gap ++ pairing.tail).head?, char.isDigit = false
  last : ∀ between number after, pairing.gap = between ++ (Numeral.text number ++ after) →
    ¬ IsComplete (pairing.before ++ (pairing.number.text ++ between)) number
      (after ++ pairing.tail)

theorem IsAdjacent.isOwn_iff {pairing : Pairing text roll} (adjacent : pairing.IsAdjacent) :
    pairing.IsOwn ↔ ¬ EndsInPoint pairing.before :=
  isNearest_iff_of_gap adjacent.noDigit adjacent.apart adjacent.digitless
    (exists_opening pairing.bounds)

theorem IsFirstDecimal.isOwn_iff {pairing : Pairing text roll} (first : pairing.IsFirstDecimal) :
    pairing.IsOwn ↔ pairing.HasFreeGap := by
  constructor
  · exact fun own => ⟨own.ends.noDigit, own.last⟩
  · intro free
    exact ⟨⟨first.noDigit, first.noPoint, free.noDigit,
      fun integer => absurd integer first.decimal⟩, free.last⟩

/-- What stands in front of the range. -/
def front (pairing : Pairing text roll) : List Char :=
  pairing.before ++ (pairing.number.text ++ pairing.gap)

theorem front_append_tail (pairing : Pairing text roll) : pairing.front ++ pairing.tail = text :=
  calc pairing.front ++ pairing.tail
    _ = pairing.before ++ (pairing.number.text ++ (pairing.gap ++ pairing.tail)) := by
      simp only [front, List.append_assoc]
    _ = text := pairing.split

theorem tail_suffix (pairing : Pairing text roll) : pairing.tail <:+ text :=
  ⟨pairing.front, pairing.front_append_tail⟩

theorem opens (pairing : Pairing text roll) : (range? loose? pairing.tail).isSome = true := by
  rw [pairing.bounds]
  rfl

section Two

variable (pairing : Pairing text roll) (second : Pairing text other) (single : HasOneRange text)

include pairing second single

theorem tail_eq : pairing.tail = second.tail :=
  single _ _ pairing.tail_suffix second.tail_suffix pairing.opens second.opens

theorem front_eq : pairing.front = second.front := by
  have same : pairing.front ++ pairing.tail = second.front ++ pairing.tail := by
    rw [pairing.front_append_tail, pairing.tail_eq second single, second.front_append_tail]
  exact List.append_cancel_right same

theorem limits_eq : pairing.low = second.low ∧ pairing.high = second.high := by
  have same := pairing.bounds
  rw [pairing.tail_eq second single, second.bounds] at same
  obtain ⟨low, high⟩ := Prod.mk.inj (Option.some.inj same)
  exact ⟨low.symm, high.symm⟩

theorem bounds_eq : roll.low = other.low ∧ roll.high = other.high := by
  obtain ⟨low, high⟩ := pairing.limits_eq second single
  rw [pairing.rolled, second.rolled]
  exact ⟨congrArg some low, congrArg some high⟩

/-- Readers that find the range's own number agree. -/
theorem roll_eq (own : pairing.IsOwn) (secondOwn : second.IsOwn) : roll = other := by
  have number : pairing.number = second.number := by
    unfold IsOwn at own secondOwn
    rw [← pairing.tail_eq second single] at secondOwn
    exact own.unique secondOwn (pairing.front_eq second single)
  obtain ⟨low, high⟩ := pairing.limits_eq second single
  rw [pairing.rolled, second.rolled, number, low, high]

/-- Of a number with a point the digits behind it are also a number. -/
theorem whole_eq (integer : pairing.number.IsInteger) (adjacent : pairing.IsAdjacent)
    (secondAdjacent : second.IsAdjacent) : pairing.number.whole = second.number.lastDigits :=
  calc pairing.number.whole
    _ = pairing.number.lastDigits := (if_pos integer).symm
    _ = lastRun pairing.front := (Numeral.lastRun_append adjacent.noDigit adjacent.digitless).symm
    _ = lastRun second.front := by rw [pairing.front_eq second single]
    _ = second.number.lastDigits :=
      Numeral.lastRun_append secondAdjacent.noDigit secondAdjacent.digitless

end Two

end Pairing

/-- The roll has a range and the value of the number that the range belongs to. -/
def IsOwned (text : List Char) (roll : Roll) : Prop := ∃ pairing : Pairing text roll, pairing.IsOwn

section Decoders

variable {text : List Char} {roll : Roll}

theorem exists_pairing_of_integerRange (found : Arrangement.integerRange.roll? text = some roll) :
    ∃ pairing : Pairing text roll, pairing.number.IsInteger ∧ pairing.IsAdjacent := by
  obtain ⟨front, rest, joined, here, nothingBefore⟩ := exists_of_leftmost found
  obtain ⟨number, gap, tail, low, high, leads, integer, digitless, rolled⟩ :=
    leads_of_integerRangeAt? here
  have noDigit : ¬ EndsInDigit front := not_endsInDigit_of_leftmost nothingBefore
    fun digit isDigit => isSome_integerRangeAt? (leads.extend isDigit) integer digitless
  have bounds := isStrict_integer?.range?_loose leads.bounds
  exact ⟨⟨front, number, gap, tail, low, high, by rw [leads.split, joined], bounds, rolled⟩,
    integer, digitless, leads.apart, noDigit⟩

theorem exists_pairing_of_pointedRange (found : Arrangement.pointedRange.roll? text = some roll) :
    ∃ pairing : Pairing text roll, pairing.IsFirstDecimal := by
  obtain ⟨front, rest, joined, here, nothingBefore⟩ := exists_of_leftmost found
  obtain ⟨number, gap, tail, low, high, leads, decimal, unbroken, rolled⟩ :=
    leads_of_pointedRangeAt? here
  have noDigit : ¬ EndsInDigit front := not_endsInDigit_of_leftmost nothingBefore
    fun digit isDigit => isSome_pointedRangeAt? (leads.extend isDigit) decimal unbroken
  have noPoint : ¬ EndsInPoint front := by
    have fractionUnbroken : '\n' ∉ number.fraction := by
      intro breaks
      cases number.fraction_digits _ breaks
    refine not_endsInPoint_of_leftmost nothingBefore fun digit isDigit =>
      isSome_pointedRangeAt? (leads.swallow decimal isDigit)
        (number.not_isInteger_behindPoint digit isDigit) ?_
    simp only [List.mem_cons, List.mem_append, not_or]
    exact ⟨by decide, fractionUnbroken, unbroken⟩
  have first : ∀ start other between, front = start ++ (Numeral.text other ++ between) →
      ¬ other.IsInteger → '\n' ∈ between := by
    intro start other between split otherDecimal
    by_contra noBreak
    have nothing := nothingBefore (other.text ++ between) ⟨start, split.symm⟩
      (List.append_ne_nil_of_left_ne_nil other.text_ne_nil between)
    have found := isSome_pointedRangeAt? (leads.earlier other between) otherDecimal (by
      simp only [List.mem_append, not_or]
      exact ⟨noBreak, number.not_mem_text rfl, unbroken⟩)
    rw [nothing] at found
    cases found
  have bounds := isStrict_pointed?.range?_loose leads.bounds
  exact ⟨⟨front, number, gap, tail, low, high, by rw [leads.split, joined], bounds, rolled⟩,
    decimal, noDigit, noPoint, unbroken, first⟩

theorem exists_pairing_of_looseRange (found : leftmost looseRangeAt? text = some roll) :
    ∃ pairing : Pairing text roll, pairing.IsAdjacent ∧
      (EndsInPoint pairing.before → ¬ pairing.number.IsInteger) := by
  obtain ⟨front, rest, joined, here, nothingBefore⟩ := exists_of_leftmost found
  obtain ⟨number, gap, tail, low, high, leads, digitless, rolled⟩ := leads_of_looseRangeAt? here
  have noDigit : ¬ EndsInDigit front := not_endsInDigit_of_leftmost nothingBefore
    fun digit isDigit => isSome_looseRangeAt? (leads.extend isDigit) digitless
  refine ⟨⟨front, number, gap, tail, low, high, by rw [leads.split, joined], leads.bounds, rolled⟩,
    ⟨digitless, leads.apart, noDigit⟩, ?_⟩
  intro ends integer
  exact not_endsInPoint_of_leftmost nothingBefore (fun digit isDigit =>
    isSome_looseRangeAt? (leads.behindPoint integer isDigit) digitless) ends

/-- The affix is decoded from the line, on which this arrangement is found first. -/
structure DecodedAs (lexicon : Lexicon) (line : String) (arrangement : Arrangement)
    (affix : Affix) : Prop where
  decoded : decodeAffix lexicon line = .ok affix
  found : Arrangement.find? (clean line.toList) = some (arrangement, affix.roll)

theorem DecodedAs.roll?_eq {lexicon : Lexicon} {line : String} {arrangement : Arrangement}
    {affix : Affix} (decodedAs : DecodedAs lexicon line arrangement affix) :
    arrangement.roll? (clean line.toList) = some affix.roll := by
  obtain ⟨other, _, here⟩ := List.exists_of_findSome?_eq_some decodedAs.found
  obtain ⟨roll, shown, same⟩ := Option.map_eq_some_iff.1 here
  cases same
  exact shown

theorem DecodedAs.nonempty_pairing {lexicon : Lexicon} {line : String} {arrangement : Arrangement}
    {affix : Affix} (decodedAs : DecodedAs lexicon line arrangement affix)
    (bracketed : arrangement = .integerRange ∨ arrangement = .pointedRange) :
    Nonempty (Pairing (clean line.toList) affix.roll) := by
  rcases bracketed with integers | decimals
  · subst integers
    obtain ⟨pairing, _⟩ := exists_pairing_of_integerRange decodedAs.roll?_eq
    exact ⟨pairing⟩
  · subst decimals
    obtain ⟨pairing, _⟩ := exists_pairing_of_pointedRange decodedAs.roll?_eq
    exact ⟨pairing⟩

theorem leftmost_of_decodeAspect {line name : String}
    (ranged : (decodeAspect line name).roll ≠ .none) :
    leftmost looseRangeAt? (clean line.toList) = some (decodeAspect line name).roll := by
  unfold decodeAspect at ranged ⊢
  cases found : leftmost looseRangeAt? (clean line.toList) with
  | none =>
    rw [found] at ranged
    exact absurd rfl ranged
  | some roll => rfl

end Decoders

/-- Which number is read with a range. An integer and the value of an aspect stand next to the
range: they are its own unless a digit and a point stand before them. A decimal is the first on its
line of text: it is the range's own if nothing in the gap continues it and no complete number stands
there. Where a line has one range, both decoders read the same bounds and, if both read the range's
own number, the same value; an integer is the last run of digits of the number that is read for an
aspect. -/
theorem ranges_and_their_numbers (lexicon : Lexicon) (line name : String) :
    (∀ affix, DecodedAs lexicon line .integerRange affix →
      ∃ pairing : Pairing (clean line.toList) affix.roll,
        pairing.number.IsInteger ∧ pairing.IsAdjacent ∧
          (pairing.IsOwn ↔ ¬ EndsInPoint pairing.before)) ∧
    (∀ affix, DecodedAs lexicon line .pointedRange affix →
      ∃ pairing : Pairing (clean line.toList) affix.roll,
        pairing.IsFirstDecimal ∧ (pairing.IsOwn ↔ pairing.HasFreeGap)) ∧
    ((decodeAspect line name).roll ≠ .none →
      ∃ pairing : Pairing (clean line.toList) (decodeAspect line name).roll,
        pairing.IsAdjacent ∧ (EndsInPoint pairing.before → ¬ pairing.number.IsInteger) ∧
          (pairing.IsOwn ↔ ¬ EndsInPoint pairing.before)) ∧
    (HasOneRange (clean line.toList) → (decodeAspect line name).roll ≠ .none →
      ∀ arrangement affix, DecodedAs lexicon line arrangement affix →
        arrangement = .integerRange ∨ arrangement = .pointedRange →
        affix.roll.low = (decodeAspect line name).roll.low ∧
        affix.roll.high = (decodeAspect line name).roll.high ∧
        (IsOwned (clean line.toList) affix.roll →
          IsOwned (clean line.toList) (decodeAspect line name).roll →
          affix.roll = (decodeAspect line name).roll) ∧
        (arrangement = .integerRange →
          ∃ pairing : Pairing (clean line.toList) (decodeAspect line name).roll,
            pairing.IsAdjacent ∧
              affix.roll.value = some (decimalValue pairing.number.lastDigits []))) := by
  have aspectPairing (ranged : (decodeAspect line name).roll ≠ .none) :=
    exists_pairing_of_looseRange (leftmost_of_decodeAspect ranged)
  refine ⟨?_, ?_, ?_, ?_⟩
  · intro affix decodedAs
    obtain ⟨pairing, integer, adjacent⟩ := exists_pairing_of_integerRange decodedAs.roll?_eq
    exact ⟨pairing, integer, adjacent, adjacent.isOwn_iff⟩
  · intro affix decodedAs
    obtain ⟨pairing, first⟩ := exists_pairing_of_pointedRange decodedAs.roll?_eq
    exact ⟨pairing, first, first.isOwn_iff⟩
  · intro ranged
    obtain ⟨pairing, adjacent, chained⟩ := aspectPairing ranged
    exact ⟨pairing, adjacent, chained, adjacent.isOwn_iff⟩
  · intro single ranged arrangement affix decodedAs bracketed
    obtain ⟨second, secondAdjacent, _⟩ := aspectPairing ranged
    obtain ⟨pairing⟩ := decodedAs.nonempty_pairing bracketed
    obtain ⟨low, high⟩ := pairing.bounds_eq second single
    refine ⟨low, high, ?_, ?_⟩
    · intro owned aspectOwned
      obtain ⟨first, own⟩ := owned
      obtain ⟨second, secondOwn⟩ := aspectOwned
      exact first.roll_eq second single own secondOwn
    · intro isInteger
      subst isInteger
      obtain ⟨pairing, integer, adjacent⟩ := exists_pairing_of_integerRange decodedAs.roll?_eq
      have value : pairing.number.value = decimalValue pairing.number.whole [] :=
        congrArg (decimalValue pairing.number.whole) integer
      refine ⟨second, secondAdjacent, ?_⟩
      rw [pairing.rolled, ← pairing.whole_eq second single integer adjacent secondAdjacent, ← value]
      rfl

/-! A line that both decoders read alike. -/

def damageLine : String := "+54.0% Damage [40.0 - 60.0]%"

theorem damageLine_decoded : ∃ affix, DecodedAs .empty damageLine .pointedRange affix ∧
    (∃ pairing : Pairing (clean damageLine.toList) affix.roll,
      pairing.IsFirstDecimal ∧ (pairing.IsOwn ↔ pairing.HasFreeGap)) ∧
    affix.roll.low = (decodeAspect damageLine "damage").roll.low ∧
    affix.roll.high = (decodeAspect damageLine "damage").roll.high := by
  have places : ∀ tail ∈ (clean damageLine.toList).tails,
      (range? loose? tail).isSome = true → tail = "[40.0 - 60.0]".toList := by
    decide
  have ranged : (decodeAspect damageLine "damage").roll ≠ .none := by
    intro nothing
    cases congrArg Roll.value nothing
  let affix : Affix := ⟨"damage", damageLine, .ranged (decimalValue "54".toList "0".toList)
    (decimalValue "40".toList "0".toList) (decimalValue "60".toList "0".toList), .normal⟩
  have decodedAs : DecodedAs .empty damageLine .pointedRange affix := ⟨rfl, rfl⟩
  obtain ⟨_, decimals, _, agree⟩ := ranges_and_their_numbers .empty damageLine "damage"
  obtain ⟨low, high, _⟩ :=
    agree (hasOneRange_of_tails places) ranged .pointedRange affix decodedAs (.inr rfl)
  exact ⟨affix, decodedAs, decimals affix decodedAs, low, high⟩

/-! A decimal value with whole bounds. -/

def resistanceLine : String := "10.5% Resistance [8 - 12]%"

/-- How the line is meant. -/
def resistancePairing :
    Pairing (clean resistanceLine.toList) (decodeAspect resistanceLine "resistance").roll where
  before := []
  number := .ofDigits "10" "5" (by decide) (by decide)
  gap := " Resistance ".toList
  tail := "[8 - 12]".toList
  low := decimalValue "8".toList []
  high := decimalValue "12".toList []
  split := by decide
  bounds := rfl
  rolled := rfl

theorem resistancePairing_isOwn : resistancePairing.IsOwn := by
  have digitless : IsDigitless " Resistance ".toList := forall_mem_of_none (by decide)
  have apart : " Resistance ".toList ≠ [] := by decide
  have adjacent : resistancePairing.IsAdjacent := ⟨digitless, apart, not_endsInDigit_nil⟩
  exact adjacent.isOwn_iff.2 not_endsInPoint_nil

theorem resistance_cut_at_point :
    HasOneRange (clean resistanceLine.toList) ∧
    (decodeAspect resistanceLine "resistance").roll ≠ .none ∧
    ∃ affix, DecodedAs .empty resistanceLine .integerRange affix ∧
      affix.roll.value ≠ (decodeAspect resistanceLine "resistance").roll.value ∧
      ¬ IsOwned (clean resistanceLine.toList) affix.roll := by
  have places : ∀ tail ∈ (clean resistanceLine.toList).tails,
      (range? loose? tail).isSome = true → tail = "[8 - 12]".toList := by
    decide
  have single := hasOneRange_of_tails places
  have aspect : (decodeAspect resistanceLine "resistance").roll.value =
      some (decimalValue "10".toList "5".toList) := by
    rfl
  have valuesDiffer : some (decimalValue "5".toList []) ≠
      (decodeAspect resistanceLine "resistance").roll.value := by
    rw [aspect]
    intro same
    exact absurd (congrArg Float.toModel (Option.some.inj same)) (by decide +kernel)
  let roll : Roll := .ranged (decimalValue "5".toList []) (decimalValue "8".toList [])
    (decimalValue "12".toList [])
  refine ⟨single, ?_, ⟨"resistance", resistanceLine, roll, .normal⟩, ⟨rfl, rfl⟩, valuesDiffer, ?_⟩
  · intro nothing
    cases aspect.symm.trans (congrArg Roll.value nothing)
  · intro owned
    obtain ⟨pairing, isOwn⟩ := owned
    have same := pairing.roll_eq resistancePairing single isOwn resistancePairing_isOwn
    exact valuesDiffer (congrArg Roll.value same)

end LootSieve.Tooltip
