import LootSieve.Proofs.Tooltip.RangeReaders
import LootSieve.Tooltip.Reading

/-! What the line of an aspect says. The aspect keeps the line as its text. For a mythic item the
first number of the line is its value; for others the first number that a range follows, with no
digit in between, is its value and the range gives its bounds. A line says one thing at most, and
what it says is what is read. -/

namespace LootSieve.Tooltip
open Text

/-! The first number of a text. -/

/-- The value of the first number of a text, if there is one. -/
inductive ShowsNumber (text : List Char) : Option Float → Prop
  | found {front rest : List Char} {number : Numeral}
    (split : front ++ (number.text ++ rest) = text) (digitless : IsDigitless front)
    (ends : number.Ends rest) : ShowsNumber text (some number.value)
  | absent (digitless : IsDigitless text) : ShowsNumber text none

section Number

variable {text front rest : List Char}

theorem exists_numeral_of_numeral? {whole fraction : List Char}
    (read : numeral? text = some ((whole, fraction), rest)) :
    ∃ number : Numeral, number.text ++ rest = text ∧ number.Ends rest ∧
      number.value = decimalValue whole fraction := by
  unfold numeral? at read
  obtain ⟨⟨digits, behind⟩, cut, read⟩ := Option.bind_eq_some_iff.1 read
  obtain ⟨joined, nonempty, allDigits, stop⟩ := digits?_eq_some_iff.1 cut
  dsimp only at read
  split at read
  · next afterPoint =>
    split at read
    · next more left fractionCut =>
      cases read
      obtain ⟨fractionJoined, isDecimal, fractionDigits, fractionStop⟩ :=
        digits?_eq_some_iff.1 fractionCut
      let number : Numeral := ⟨whole, fraction, nonempty, allDigits, fractionDigits⟩
      have decimal : ¬ number.IsInteger := isDecimal
      refine ⟨number, ?_, ⟨fractionStop, fun integer => absurd integer decimal⟩, rfl⟩
      rw [Numeral.text_of_decimal decimal, ← joined, ← fractionJoined, List.append_assoc]
      rfl
    · next noFraction =>
      cases read
      refine ⟨⟨whole, [], nonempty, allDigits, nofun⟩, joined, ⟨stop, ?_⟩, rfl⟩
      intro _ more same
      cases same
      exact digits?_eq_none_iff.1 noFraction
  · next behind noPoint =>
    cases read
    refine ⟨⟨whole, [], nonempty, allDigits, nofun⟩, joined, ⟨stop, ?_⟩, rfl⟩
    intro _ more same
    exact absurd same (noPoint more)

theorem numeral?_eq_none_iff :
    numeral? text = none ↔ ∀ char ∈ text.head?, char.isDigit = false := by
  rw [← Option.not_isSome_iff_eq_none, isSome_numeral?]
  constructor
  · intro nowhere char head
    obtain ⟨rest, rfl⟩ := List.head?_eq_some_iff.1 head
    exact Bool.eq_false_iff.2 fun digit => nowhere ⟨char, rest, digit, rfl⟩
  · rintro noDigit ⟨digit, rest, isDigit, rfl⟩
    rw [noDigit digit rfl] at isDigit
    cases isDigit

/-- No number begins in front exactly if no digit stands there. -/
theorem isDigitless_iff (rest : List Char) : IsDigitless front ↔
    ∀ tail, tail <:+ front → tail ≠ [] → numeral? (tail ++ rest) = none := by
  simp only [numeral?_eq_none_iff]
  constructor
  · intro digitless tail within nonempty char head
    rw [List.head?_append_of_ne_nil tail nonempty] at head
    exact digitless char (within.subset (List.mem_of_mem_head? head))
  · intro nowhere char member
    obtain ⟨before, after, rfl⟩ := List.append_of_mem member
    exact nowhere (char :: after) ⟨before, rfl⟩ (List.cons_ne_nil _ _) char rfl

theorem showsNumber_iff {line : List Char} {value? : Option Float} :
    ShowsNumber (line.filter (· ≠ ',')) value? ↔ firstNumber? line = value? := by
  unfold firstNumber?
  constructor
  · rintro (⟨split, digitless, ends⟩ | digitless)
    · rw [← split, leftmost_append_of_none ((isDigitless_iff _).1 digitless),
        leftmost_of_head (Numeral.numeral?_of_ends ends)]
      rfl
    · have nothing := leftmost_append_of_none ((isDigitless_iff []).1 digitless)
      rw [List.append_nil] at nothing
      rw [nothing]
      rfl
  · rintro rfl
    cases search : leftmost numeral? (line.filter (· ≠ ',')) with
    | none =>
      refine .absent ((isDigitless_iff []).2 fun tail within _ => ?_)
      rw [List.append_nil]
      exact leftmost_eq_none_iff.1 search tail within
    | some found =>
      obtain ⟨⟨whole, fraction⟩, left⟩ := found
      obtain ⟨front, rest, joined, read, before⟩ := exists_of_leftmost search
      obtain ⟨number, rfl, ends, value⟩ := exists_numeral_of_numeral? read
      change ShowsNumber _ (some (decimalValue whole fraction))
      exact value ▸ .found joined ((isDigitless_iff _).2 before) ends

end Number

/-! The first number with a range. -/

/-- The text begins with a number, and its range follows behind a gap without digits. -/
def BeginsRanged (text : List Char) (roll : Roll) : Prop :=
  ∃ number gap tail low high, Leads loose? text number gap tail low high ∧ IsDigitless gap ∧
    roll = .ranged number.value low high

/-- The roll of the first number of a text that has its range behind a gap without digits. -/
inductive ShowsRange (text : List Char) : Roll → Prop
  | found {front rest : List Char} {roll : Roll} (split : front ++ rest = text)
    (begins : BeginsRanged rest roll)
    (first : ∀ part, part <:+ front → part ≠ [] → ∀ other, ¬ BeginsRanged (part ++ rest) other) :
    ShowsRange text roll
  | absent (nowhere : ∀ rest, rest <:+ text → ∀ roll, ¬ BeginsRanged rest roll) :
    ShowsRange text .none

section Range

variable {text gap tail otherTail more : List Char} {low high : Float} {roll other : Roll}

theorem exists_opening_digit (bounds : range? loose? tail = some (low, high)) :
    ∃ digit inner, tail = '[' :: digit :: inner ∧ digit.isDigit = true := by
  obtain ⟨first, _, _, rfl, read, _⟩ := range?_eq_some_iff.1 bounds
  cases cut : digits? first with
  | none =>
    unfold loose? looseReadings at read
    rw [cut] at read
    cases read
  | some found =>
    obtain ⟨rfl, nonempty, digits, _⟩ := digits?_eq_some_iff.1 cut
    obtain ⟨digit, more, same⟩ := List.exists_cons_of_ne_nil nonempty
    rw [same] at digits ⊢
    exact ⟨digit, more ++ found.2, rfl, digits digit List.mem_cons_self⟩

/-- A gap without digits cannot go on past the start of a range. -/
theorem eq_nil_of_digitless {otherLow otherHigh : Float} (digitless : IsDigitless (gap ++ more))
    (bounds : range? loose? tail = some (low, high))
    (otherBounds : range? loose? otherTail = some (otherLow, otherHigh))
    (joined : tail = more ++ otherTail) : more = [] := by
  obtain ⟨digit, inner, rfl, isDigit⟩ := exists_opening_digit bounds
  obtain ⟨_, _, rfl, _⟩ := exists_opening_digit otherBounds
  match more with
  | [] => rfl
  | [_] =>
    obtain ⟨_, same⟩ := List.cons.inj joined
    rw [(List.cons.inj same).1] at isDigit
    cases isDigit
  | first :: second :: more =>
    obtain ⟨_, same⟩ := List.cons.inj joined
    have inGap : second ∈ gap ++ first :: second :: more :=
      List.mem_append_right gap (List.mem_cons_of_mem first List.mem_cons_self)
    rw [(List.cons.inj same).1, digitless second inGap] at isDigit
    cases isDigit

theorem BeginsRanged.unique (begins : BeginsRanged text roll)
    (otherBegins : BeginsRanged text other) : roll = other := by
  obtain ⟨number, gap, tail, low, high, leads, digitless, rfl⟩ := begins
  obtain ⟨second, otherGap, otherTail, _, _, otherLeads, otherDigitless, rfl⟩ := otherBegins
  have whole := leads.split.trans otherLeads.split.symm
  have numbers : number = second := Numeral.eq_of_ends whole
    (Numeral.ends_gap leads.apart digitless (exists_opening leads.bounds))
    (Numeral.ends_gap otherLeads.apart otherDigitless (exists_opening otherLeads.bounds))
  subst numbers
  have tails : tail = otherTail := by
    rcases List.append_eq_append_iff.1 (List.append_cancel_left whole) with
      ⟨more, rfl, joined⟩ | ⟨more, rfl, joined⟩
    · rw [joined, eq_nil_of_digitless otherDigitless leads.bounds otherLeads.bounds joined,
        List.nil_append]
    · rw [joined, eq_nil_of_digitless digitless otherLeads.bounds leads.bounds joined,
        List.nil_append]
  have limits := leads.bounds
  rw [tails, otherLeads.bounds] at limits
  cases limits
  rfl

theorem looseRangeAt?_eq_some_iff : looseRangeAt? text = some roll ↔ BeginsRanged text roll := by
  constructor
  · exact leads_of_looseRangeAt?
  · intro begins
    have ⟨number, gap, tail, low, high, leads, digitless, _⟩ := begins
    obtain ⟨other, found⟩ := Option.isSome_iff_exists.1 (isSome_looseRangeAt? leads digitless)
    rw [found, BeginsRanged.unique begins (leads_of_looseRangeAt? found)]

theorem looseRangeAt?_eq_none_iff :
    looseRangeAt? text = none ↔ ∀ roll, ¬ BeginsRanged text roll := by
  simp only [← looseRangeAt?_eq_some_iff, Option.eq_none_iff_forall_ne_some, ne_eq]

theorem showsRange_iff :
    ShowsRange text roll ↔ (leftmost looseRangeAt? text).getD .none = roll := by
  constructor
  · rintro (⟨split, begins, first⟩ | nowhere)
    · have nothing := fun part within nonempty =>
        looseRangeAt?_eq_none_iff.2 (first part within nonempty)
      rw [← split, leftmost_append_of_none nothing,
        leftmost_of_head (looseRangeAt?_eq_some_iff.2 begins)]
      rfl
    · have nothing := fun rest within => looseRangeAt?_eq_none_iff.2 (nowhere rest within)
      rw [leftmost_eq_none_iff.2 nothing]
      rfl
  · rintro rfl
    cases search : leftmost looseRangeAt? text with
    | none =>
      exact .absent fun rest within =>
        looseRangeAt?_eq_none_iff.1 (leftmost_eq_none_iff.1 search rest within)
    | some roll =>
      obtain ⟨front, rest, joined, here, before⟩ := exists_of_leftmost search
      exact .found joined (looseRangeAt?_eq_some_iff.1 here) fun part within nonempty =>
        looseRangeAt?_eq_none_iff.1 (before part within nonempty)

end Range

/-! Aspects. -/

/-- The line tells of an aspect of this name, for an item of this rarity. -/
structure ShowsAspect (rarity : Rarity) (name line : String) (aspect : Aspect) : Prop where
  named : aspect.name = name
  text : aspect.text = line
  fixed : rarity = .mythic → ∃ value?, ShowsNumber (line.toList.filter (· ≠ ',')) value? ∧
    aspect.roll = ⟨value?, none, none⟩
  rolled : rarity ≠ .mythic → ShowsRange (clean line.toList) aspect.roll

theorem showsAspect_aspectOf (rarity : Rarity) (name line : String) :
    ShowsAspect rarity name line (aspectOf rarity line name) := by
  unfold aspectOf
  split
  · next mythic =>
    exact ⟨rfl, rfl, fun _ => ⟨_, showsNumber_iff.2 rfl, rfl⟩, absurd mythic⟩
  · next rolled =>
    refine ⟨rfl, rfl, fun mythic => absurd mythic rolled, fun _ => ?_⟩
    rw [showsRange_iff, decodeAspect]

/-- A line tells of one aspect only. -/
theorem ShowsAspect.unique {rarity : Rarity} {name line : String} {aspect other : Aspect}
    (shows : ShowsAspect rarity name line aspect)
    (otherShows : ShowsAspect rarity name line other) : aspect = other := by
  have rolls : aspect.roll = other.roll := by
    by_cases mythic : rarity = .mythic
    · obtain ⟨value, number, fixed⟩ := shows.fixed mythic
      obtain ⟨otherValue, otherNumber, otherFixed⟩ := otherShows.fixed mythic
      rw [fixed, otherFixed, ← showsNumber_iff.1 number, ← showsNumber_iff.1 otherNumber]
    · rw [← showsRange_iff.1 (shows.rolled mythic), ← showsRange_iff.1 (otherShows.rolled mythic)]
  calc aspect
    _ = ⟨name, line, aspect.roll⟩ := by rw [← shows.named, ← shows.text]
    _ = ⟨name, line, other.roll⟩ := by rw [rolls]
    _ = other := by rw [← otherShows.named, ← otherShows.text]

end LootSieve.Tooltip
