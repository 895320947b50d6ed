import LootSieve.Proofs.Text.Lowering
import LootSieve.Proofs.Text.Scanning
import LootSieve.Proofs.Text.Trimming

/-! Texts made of parts with blanks between them. Unlike a word, a part may itself hold blanks.
Trimming keeps the parts of a text and lowering lowers each of them. Whatever has no blank is found
in such a text only within one of its parts. -/

namespace LootSieve.Text

/-- The text has no blank. -/
def IsSolid (text : List Char) : Prop := ∀ char ∈ text, isBlank char = false

instance (text : List Char) : Decidable (IsSolid text) :=
  decidable_of_iff (text.all (!isBlank ·) = true) (by simp [IsSolid])

theorem IsSolid.not_mem {char : Char} {text : List Char} (solid : IsSolid text)
    (blank : isBlank char = true) : char ∉ text := by
  intro member
  rw [solid char member] at blank
  cases blank

/-- The text is at its end, or a blank comes next. -/
def StartsBlank (text : List Char) : Prop := ∀ char ∈ text.head?, isBlank char = true

/-- The parts of a text in their order, with blanks between them and any blanks around them. -/
inductive Parted : List (List Char) → List Char → Prop
  | nil : Parted [] []
  | blank {char : Char} {parts : List (List Char)} {text : List Char}
    (blank : isBlank char = true) (rest : Parted parts text) : Parted parts (char :: text)
  | part {part : List Char} {parts : List (List Char)} {text : List Char}
    (apart : StartsBlank text) (rest : Parted parts text) : Parted (part :: parts) (part ++ text)

/-- A part that no trimming takes anything from. -/
structure StandsOut (part : List Char) : Prop where
  first : ∃ char more, part = char :: more ∧ isBlank char = false
  last : ∃ front char, part = front ++ [char] ∧ isBlank char = false

theorem standsOut_of_solid {part : List Char} (nonempty : part ≠ [])
    (solid : IsSolid part) : StandsOut part := by
  constructor
  case first =>
    obtain ⟨char, more, rfl⟩ := List.exists_cons_of_ne_nil nonempty
    exact ⟨char, more, rfl, solid char List.mem_cons_self⟩
  case last =>
    rw [← List.dropLast_append_getLast nonempty] at solid ⊢
    exact ⟨_, _, rfl, solid _ (List.mem_append_right _ List.mem_cons_self)⟩

theorem startsBlank_cons {char : Char} (blank : isBlank char = true) (text : List Char) :
    StartsBlank (char :: text) := by
  rintro _ ⟨⟩
  exact blank

theorem StartsBlank.of_isPrefix {front text : List Char} (within : front <+: text)
    (blank : StartsBlank text) : StartsBlank front := by
  obtain ⟨rest, rfl⟩ := within
  cases front with
  | nil => nofun
  | cons char front => exact blank

theorem StartsBlank.head_isBlank {char : Char} {more text : List Char}
    (blank : StartsBlank text) (within : char :: more <+: text) : isBlank char = true :=
  blank.of_isPrefix within char rfl

/-! Lowering, blank by blank and part by part. -/

theorem lowerFrom_cons_blank {char : Char} (blank : isBlank char = true)
    (before text : List Char) :
    lowerFrom before (char :: text) = char :: lowerFrom (char :: before) text := by
  have notSigma : char ≠ 'Σ' := by
    rintro rfl
    exact absurd blank (by decide)
  rw [lowerFrom, if_neg notSigma, lowerChar_of_isBlank blank, List.singleton_append]

theorem StartsBlank.lowerFrom {text : List Char} (blank : StartsBlank text)
    (before : List Char) : StartsBlank (lowerFrom before text) := by
  cases text with
  | nil => nofun
  | cons char text =>
    rw [lowerFrom_cons_blank (blank char rfl)]
    exact startsBlank_cons (blank char rfl) _

/-- What a part becomes in the lower case of a text, up to the small forms of the sigma. -/
def LowersTo (part low : List Char) : Prop := low.map unfinal = (part.flatMap lowerChar).map unfinal

namespace LowersTo

variable {part low phrase : List Char}

theorem occursIn_eq (lowers : LowersTo part low) (plain : 'σ' ∉ phrase) (final : 'ς' ∉ phrase) :
    occursIn phrase low = occursIn phrase (lower part) := by
  rw [← occursIn_map_unfinal plain final low, lowers, ← map_unfinal_lower,
    occursIn_map_unfinal plain final]

theorem eq_of_spells (lowers : LowersTo part low) (ascii : IsAscii phrase)
    (spells : Spells phrase part) : low = phrase := by
  have plain : 'σ' ∉ phrase := fun member => absurd (ascii _ member) (by decide)
  have final : 'ς' ∉ phrase := fun member => absurd (ascii _ member) (by decide)
  have same : low.map unfinal = phrase.map unfinal := by
    rw [lowers, ← map_unfinal_lower, spells.lower_eq ascii]
  rw [← (eq_map_unfinal_iff plain final phrase).2 rfl] at same
  exact ((eq_map_unfinal_iff plain final low).1 same.symm).symm

/-- Lowering brings in no characters but letters. -/
theorem mem_of_mem {mark : Char} (lowers : LowersTo part low) (member : mark ∈ low)
    (noSigma : mark ≠ 'σ' ∧ mark ≠ 'ς') (noLetter : ¬ IsLoweredForm mark.toNat) :
    mark ∈ part := by
  have fixed : unfinal mark = mark := (unfinal_eq_iff noSigma.1 noSigma.2).2 rfl
  have kept : mark ∈ low.map unfinal := List.mem_map.2 ⟨mark, member, fixed⟩
  rw [lowers] at kept
  obtain ⟨small, inLow, same⟩ := List.mem_map.1 kept
  obtain ⟨char, inPart, made⟩ := List.mem_flatMap.1 inLow
  obtain rfl := (unfinal_eq_iff noSigma.1 noSigma.2).1 same
  rcases mem_lowerChar made with rfl | form
  · exact inPart
  · exact absurd form noLetter

theorem exists_append {front back : List Char} (lowers : LowersTo (front ++ back) low) :
    ∃ frontLow backLow, low = frontLow ++ backLow ∧ LowersTo front frontLow ∧
      LowersTo back backLow := by
  unfold LowersTo at lowers
  rw [List.flatMap_append, List.map_append] at lowers
  obtain ⟨frontLow, backLow, rfl, inFront, inBack⟩ := List.map_eq_append_iff.1 lowers
  exact ⟨frontLow, backLow, rfl, inFront, inBack⟩

end LowersTo

namespace Parted

variable {parts : List (List Char)} {text phrase : List Char}

theorem lowered (parted : Parted parts text) (before : List Char) :
    ∃ lows, Parted lows (lowerFrom before text) ∧ List.Forall₂ LowersTo parts lows := by
  induction parted generalizing before with
  | nil => exact ⟨[], .nil, .nil⟩
  | @blank char _ _ blank _ ih =>
    obtain ⟨lows, parted, lowers⟩ := ih (char :: before)
    rw [lowerFrom_cons_blank blank]
    exact ⟨lows, .blank blank parted, lowers⟩
  | @part part _ text apart _ ih =>
    obtain ⟨low, same, lowersPart⟩ := exists_lowerFrom_append before part text
    obtain ⟨lows, parted, lowers⟩ := ih (part.reverse ++ before)
    rw [same]
    exact ⟨low :: lows, .part (apart.lowerFrom _) parted, .cons lowersPart lowers⟩

/-! Trimming. -/

theorem trimStart (parted : Parted parts text) (out : ∀ part ∈ parts, StandsOut part) :
    Parted parts (trimStart text) := by
  induction parted with
  | nil => exact .nil
  | blank blank _ ih =>
    rw [trimStart_cons_blank blank]
    exact ih out
  | part apart rest _ =>
    obtain ⟨char, more, rfl, solid⟩ := (out _ List.mem_cons_self).first
    rw [List.cons_append, trimStart_cons_solid solid]
    exact .part apart rest

theorem trimEnd (parted : Parted parts text) (out : ∀ part ∈ parts, StandsOut part) :
    Parted parts (trimEnd text) := by
  induction parted with
  | nil => exact .nil
  | @blank char _ text blank _ ih =>
    have alone : Text.trimEnd [char] = [] :=
      trimEnd_append_blanks (List.forall_mem_singleton.2 blank) []
    have kept := ih out
    rw [← List.singleton_append, trimEnd_append]
    split
    · next nothing =>
      rw [alone]
      rwa [nothing] at kept
    · exact .blank blank kept
  | @part _ _ text apart _ ih =>
    obtain ⟨here, later⟩ := List.forall_mem_cons.1 out
    obtain ⟨front, char, rfl, solid⟩ := here.last
    rw [trimEnd_append_of_solid solid]
    exact .part (apart.of_isPrefix (trimEnd_isPrefix text)) (ih later)

theorem trim (parted : Parted parts text) (out : ∀ part ∈ parts, StandsOut part) :
    Parted parts (trim text) :=
  (parted.trimStart out).trimEnd out

/-! Searches. -/

theorem not_isSuffix (parted : Parted parts text) (nonempty : phrase ≠ [])
    (solid : IsSolid phrase) (absent : ∀ part ∈ parts, ¬ phrase <:+ part) :
    ¬ phrase <:+ text := by
  induction parted with
  | nil => exact fun found => nonempty (List.suffix_nil.1 found)
  | blank blank _ ih =>
    intro found
    rcases List.suffix_cons_iff.1 found with rfl | later
    · exact solid.not_mem blank List.mem_cons_self
    · exact ih absent later
  | @part part _ text apart _ ih =>
    obtain ⟨here, others⟩ := List.forall_mem_cons.1 absent
    intro found
    rcases suffix_append_iff.1 found with ⟨tail, within, _, rfl⟩ | later
    · cases text with
      | nil => exact here (by rwa [List.append_nil])
      | cons char rest =>
        apply solid.not_mem (apart char rfl)
        exact List.mem_append_right tail List.mem_cons_self
    · exact ih others later

/-- What begins at a part and has no blank ends within it. -/
theorem isPrefix_part {part : List Char} (solid : IsSolid phrase) (apart : StartsBlank text)
    (found : phrase <+: part ++ text) : phrase <+: part := by
  cases text with
  | nil => rwa [List.append_nil] at found
  | cons char text => exact (isPrefix_append_cons_iff (solid.not_mem (apart char rfl))).1 found

theorem not_isPrefix (parted : Parted parts text) (nonempty : phrase ≠ [])
    (solid : IsSolid phrase) (absent : ∀ part ∈ parts, ¬ phrase <+: part) :
    ¬ phrase <+: text := by
  obtain ⟨first, others, rfl⟩ := List.exists_cons_of_ne_nil nonempty
  intro found
  cases parted with
  | nil => cases List.prefix_nil.1 found
  | blank blank _ =>
    obtain ⟨rfl, _⟩ := List.cons_prefix_cons.1 found
    exact solid.not_mem blank List.mem_cons_self
  | part apart _ => exact absent _ List.mem_cons_self (isPrefix_part solid apart found)

theorem infix_append {part : List Char} (apart : StartsBlank text)
    (found : phrase <:+: part ++ text) :
    phrase <:+: part ∨ phrase <:+: text ∨
      ∃ front char more, phrase = front ++ char :: more ∧ front <:+ part ∧ isBlank char = true := by
  rcases List.infix_append_iff.1 found with inPart | inText | ⟨front, back, rfl, ends, starts⟩
  · exact .inl inPart
  · exact .inr (.inl inText)
  · cases back with
    | nil =>
      rw [List.append_nil]
      exact .inl ends.isInfix
    | cons char more =>
      exact .inr (.inr ⟨front, char, more, rfl, ends, apart.head_isBlank starts⟩)

/-- A phrase that does not begin with a blank begins no earlier than what follows the blank. -/
theorem infix_of_cons {char : Char} (blank : isBlank char = true)
    (first : ∀ char ∈ phrase.head?, isBlank char = false) (nonempty : phrase ≠ [])
    (found : phrase <:+: char :: text) : phrase <:+: text := by
  obtain ⟨initial, others, rfl⟩ := List.exists_cons_of_ne_nil nonempty
  rcases List.infix_cons_iff.1 found with here | later
  · obtain ⟨rfl, _⟩ := List.cons_prefix_cons.1 here
    rw [first initial rfl] at blank
    cases blank
  · exact later

theorem infix_iff (parted : Parted parts text) (nonempty : phrase ≠ [])
    (solid : IsSolid phrase) : phrase <:+: text ↔ ∃ part ∈ parts, phrase <:+: part := by
  have first : ∀ char ∈ phrase.head?, isBlank char = false := fun char member =>
    solid char (List.mem_of_mem_head? member)
  induction parted with
  | nil =>
    rw [List.infix_nil]
    exact iff_of_false nonempty nofun
  | blank blank _ ih =>
    refine Iff.trans ⟨infix_of_cons blank first nonempty, fun found => ?_⟩ ih
    exact found.trans (List.suffix_cons _ _).isInfix
  | @part part _ text apart _ ih =>
    rw [List.exists_mem_cons_iff]
    constructor
    · intro found
      rcases infix_append apart found with inPart | inText | ⟨front, char, more, same, _, blank⟩
      · exact .inl inPart
      · exact .inr (ih.1 inText)
      · apply absurd _ (solid.not_mem blank)
        rw [same]
        exact List.mem_append_right front List.mem_cons_self
    · rintro (inPart | inText)
      · exact inPart.trans (List.infix_append' [] part text)
      · exact (ih.2 inText).trans (List.suffix_append part text).isInfix

/-- A word with a blank and another word after it is not found across parts that do not end in the
first of the two. -/
theorem not_infix_of_blank {first second : List Char} {between : Char}
    (parted : Parted parts text) (nonempty : first ≠ [])
    (solid : IsSolid first) (solidToo : IsSolid second)
    (absent : ∀ part ∈ parts, ¬ first ++ between :: second <:+: part)
    (ends : ∀ part ∈ parts, ¬ first <:+ part) : ¬ first ++ between :: second <:+: text := by
  have long : first ++ between :: second ≠ [] := List.append_ne_nil_of_left_ne_nil nonempty _
  have head : ∀ char ∈ (first ++ between :: second).head?, isBlank char = false := by
    intro char member
    rw [List.head?_append_of_ne_nil _ nonempty] at member
    exact solid char (List.mem_of_mem_head? member)
  induction parted with
  | nil => exact fun found => long (List.infix_nil.1 found)
  | blank blank _ ih =>
    exact fun found => ih absent ends (infix_of_cons blank head long found)
  | @part part _ text apart _ ih =>
    obtain ⟨absentHere, absentLater⟩ := List.forall_mem_cons.1 absent
    obtain ⟨endsHere, endsLater⟩ := List.forall_mem_cons.1 ends
    intro found
    rcases infix_append apart found with inPart | inText | ⟨front, char, more, same, within, blank⟩
    · exact absentHere inPart
    · exact ih absentLater endsLater inText
    · -- the only blank of the phrase is the one between the words
      rcases List.append_eq_append_iff.1 same with ⟨cut, rfl, rest⟩ | ⟨cut, rfl, rest⟩
      · cases cut with
        | nil => exact endsHere (by rwa [List.append_nil] at within)
        | cons _ cut =>
          obtain ⟨_, rfl⟩ := List.cons.inj rest
          exact solidToo.not_mem blank (List.mem_append_right cut List.mem_cons_self)
      · cases cut with
        | nil => exact endsHere (by rwa [List.append_nil])
        | cons _ cut =>
          obtain ⟨rfl, _⟩ := List.cons.inj rest
          exact solid.not_mem blank (List.mem_append_right front List.mem_cons_self)

end Parted

end LootSieve.Text
