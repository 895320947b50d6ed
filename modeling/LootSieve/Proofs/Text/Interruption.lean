import LootSieve.Proofs.Text.Scanning

/-!
Erasure of several phrases in one pass. No phrase begins within another one, so a pass takes away
every phrase that stands in a text. A phrase is left only where others stood between its characters
and held them apart.
-/

namespace LootSieve.Text

/-- No phrase begins at any of the characters. -/
def Plain (phrases : List (List Char)) (text : List Char) : Prop :=
  ∀ char ∈ text, ∀ phrase ∈ phrases, phrase.head? ≠ some char

instance (phrases : List (List Char)) (text : List Char) : Decidable (Plain phrases text) :=
  List.decidableBAll (fun char => ∀ phrase ∈ phrases, phrase.head? ≠ some char) text

/-- `width` measures the phrase at the head of a text, of phrases none of which begins within
another. -/
structure Measures (width : List Char → Nat) (phrases : List (List Char)) : Prop where
  nonempty : ∀ phrase ∈ phrases, phrase ≠ []
  plain_tail : ∀ phrase ∈ phrases, Plain phrases phrase.tail
  matched : ∀ phrase ∈ phrases, ∀ rest, width (phrase ++ rest) = phrase.length
  unmatched : ∀ text, (∀ phrase ∈ phrases, ¬ phrase <+: text) → width text = 0

/-- What a text is without the phrases that stand in it. -/
inductive Leaves (phrases : List (List Char)) : List Char → List Char → Prop where
  | nil : Leaves phrases [] []
  | erased {phrase rest kept : List Char} (member : phrase ∈ phrases)
      (later : Leaves phrases rest kept) : Leaves phrases (phrase ++ rest) kept
  | kept {char : Char} {rest kept : List Char}
      (free : ∀ phrase ∈ phrases, ¬ phrase <+: char :: rest) (later : Leaves phrases rest kept) :
      Leaves phrases (char :: rest) (char :: kept)

/-- A text of which the characters are held apart by phrases, any number of them in each gap. -/
inductive Interrupted (phrases : List (List Char)) : List Char → List Char → Prop where
  | last (char : Char) : Interrupted phrases [char] [char]
  | next (char : Char) {gap : List (List Char)} {text stretch : List Char}
      (filled : ∀ phrase ∈ gap, phrase ∈ phrases) (later : Interrupted phrases text stretch) :
      Interrupted phrases (char :: text) (char :: (gap.flatten ++ stretch))

section Leaves
variable {phrases : List (List Char)} {text front kept more : List Char}

/-- What follows is left as it would be without what stands before it. -/
theorem Leaves.exists_rest (leaves : Leaves phrases text (front ++ more)) :
    ∃ before rest, text = before ++ rest ∧ Leaves phrases rest more := by
  generalize whole : front ++ more = result at leaves
  induction leaves generalizing front with
  | nil =>
    obtain ⟨_, rfl⟩ := List.append_eq_nil_iff.1 whole
    exact ⟨[], [], rfl, .nil⟩
  | @erased phrase rest kept member _ ih =>
    obtain ⟨before, rest, rfl, leaves⟩ := ih whole
    exact ⟨phrase ++ before, rest, (List.append_assoc _ _ _).symm, leaves⟩
  | @kept char rest kept free later ih =>
    cases front with
    | nil =>
      rw [List.nil_append] at whole
      exact ⟨[], char :: rest, rfl, whole ▸ .kept free later⟩
    | cons first front =>
      obtain ⟨before, rest, rfl, leaves⟩ := ih (List.cons.inj whole).2
      exact ⟨char :: before, rest, rfl, leaves⟩

/-- What is left in one piece was held apart by phrases at most. -/
theorem Leaves.exists_stretch (leaves : Leaves phrases text (kept ++ more)) (nonempty : kept ≠ []) :
    ∃ (gap : List (List Char)) (stretch rest : List Char),
      text = gap.flatten ++ (stretch ++ rest) ∧ Interrupted phrases kept stretch ∧
      (∀ phrase ∈ gap, phrase ∈ phrases) ∧ Leaves phrases (stretch ++ rest) (kept ++ more) ∧
      Leaves phrases rest more := by
  generalize whole : kept ++ more = result at leaves
  induction leaves generalizing kept with
  | nil => exact absurd (List.append_eq_nil_iff.1 whole).1 nonempty
  | @erased phrase rest result member _ ih =>
    obtain ⟨gap, stretch, rest, rfl, interrupted, filled, facts⟩ := ih nonempty whole
    refine ⟨phrase :: gap, stretch, rest, ?_, interrupted, ?_, facts⟩
    · rw [List.flatten_cons, List.append_assoc]
    · exact List.forall_mem_cons.2 ⟨member, filled⟩
  | @kept char rest result free later ih =>
    cases kept with
    | nil => exact absurd rfl nonempty
    | cons first kept =>
      obtain ⟨rfl, same⟩ := List.cons.inj whole
      by_cases single : kept = []
      · subst single
        change more = result at same
        subst same
        exact ⟨[], [first], rest, rfl, .last first, List.forall_mem_nil _, .kept free later, later⟩
      · obtain ⟨gap, stretch, rest, rfl, interrupted, filled, _, after⟩ := ih single same
        have assembled : first :: (gap.flatten ++ (stretch ++ rest)) =
            first :: (gap.flatten ++ stretch) ++ rest := by
          rw [List.cons_append, List.append_assoc]
        exact ⟨[], _, rest, assembled, .next first filled interrupted, List.forall_mem_nil _,
          assembled ▸ .kept free later, after⟩

end Leaves

namespace Interrupted
variable {phrases : List (List Char)} {text stretch : List Char}

theorem ne_nil (interrupted : Interrupted phrases text stretch) : text ≠ [] := by
  cases interrupted <;> exact List.cons_ne_nil _ _

theorem exists_head (interrupted : Interrupted phrases text stretch) :
    ∃ first rest, stretch = first :: rest ∧ text.head? = some first := by
  cases interrupted with
  | last char => exact ⟨char, [], rfl, rfl⟩
  | next char _ _ => exact ⟨char, _, rfl, rfl⟩

end Interrupted

namespace Measures
variable {width : List Char → Nat} {phrases : List (List Char)} {phrase : List Char}
  (measures : Measures width phrases)
include measures

/-- No phrase begins with another one. -/
theorem eq_of_isPrefix {other : List Char} (member : phrase ∈ phrases) (among : other ∈ phrases)
    (within : phrase <+: other) : phrase = other := by
  obtain ⟨more, rfl⟩ := within
  have length := measures.matched _ among []
  rw [List.append_nil, measures.matched _ member more] at length
  exact (List.prefix_append phrase more).eq_of_length length

theorem not_isPrefix_of_plain {char : Char} {text : List Char}
    (plain : Plain phrases (char :: text)) (rest : List Char) :
    ∀ phrase ∈ phrases, ¬ phrase <+: char :: rest := by
  intro phrase member found
  obtain ⟨first, tail, rfl⟩ := List.exists_cons_of_ne_nil (measures.nonempty phrase member)
  obtain ⟨rfl, _⟩ := List.cons_prefix_cons.1 found
  exact plain first List.mem_cons_self _ member rfl

/-! One pass. -/

theorem erase_phrase (member : phrase ∈ phrases) (rest : List Char) :
    eraseMatches width 0 (phrase ++ rest) = eraseMatches width 0 rest :=
  eraseMatches_of_width (measures.nonempty phrase member) (measures.matched phrase member rest)

theorem erase_flatten {gap : List (List Char)} (filled : ∀ phrase ∈ gap, phrase ∈ phrases)
    (rest : List Char) :
    eraseMatches width 0 (gap.flatten ++ rest) = eraseMatches width 0 rest := by
  induction gap with
  | nil => rfl
  | cons phrase gap ih =>
    obtain ⟨member, later⟩ := List.forall_mem_cons.1 filled
    rw [List.flatten_cons, List.append_assoc, measures.erase_phrase member, ih later]

theorem erase_cons {char : Char} {rest : List Char}
    (free : ∀ phrase ∈ phrases, ¬ phrase <+: char :: rest) :
    eraseMatches width 0 (char :: rest) = char :: eraseMatches width 0 rest := by
  rw [eraseMatches, measures.unmatched _ free]

theorem leaves_erase (text : List Char) : Leaves phrases text (eraseMatches width 0 text) := by
  induction size : text.length using Nat.strong_induction_on generalizing text with
  | _ length ih =>
    by_cases stands : ∃ phrase ∈ phrases, phrase <+: text
    · obtain ⟨phrase, member, rest, rfl⟩ := stands
      have longer := List.length_pos_iff.2 (measures.nonempty phrase member)
      rw [List.length_append] at size
      rw [measures.erase_phrase member]
      exact .erased member (ih rest.length (by omega) rest rfl)
    · have free : ∀ phrase ∈ phrases, ¬ phrase <+: text := fun phrase member found =>
        stands ⟨phrase, member, found⟩
      cases text with
      | nil => exact .nil
      | cons char rest =>
        rw [measures.erase_cons free]
        rw [List.length_cons] at size
        exact .kept free (ih rest.length (by omega) rest rfl)

theorem erase_of_leaves {text kept : List Char} (leaves : Leaves phrases text kept) :
    eraseMatches width 0 text = kept := by
  induction leaves with
  | nil => rfl
  | erased member _ ih => rw [measures.erase_phrase member, ih]
  | kept free _ ih => rw [measures.erase_cons free, ih]

theorem erase_phrase_ne (member : phrase ∈ phrases) (rest : List Char) :
    eraseMatches width 0 (phrase ++ rest) ≠ phrase ++ rest := by
  intro same
  have longer := List.length_pos_iff.2 (measures.nonempty phrase member)
  have within : (eraseMatches width 0 rest).Sublist rest := eraseMatches_sublist 0 rest
  have shorter := within.length_le
  rw [← measures.erase_phrase member, same, List.length_append] at shorter
  omega

/-- A pass changes a text exactly if a phrase stands in it. -/
theorem erase_eq_self_iff {text : List Char} :
    eraseMatches width 0 text = text ↔ ∀ phrase ∈ phrases, ¬ phrase <:+: text := by
  constructor
  · intro same phrase member stands
    obtain ⟨front, back, rfl⟩ := stands
    rw [List.append_assoc] at same
    induction front with
    | nil => exact measures.erase_phrase_ne member back same
    | cons char front ih =>
      by_cases here : ∃ other ∈ phrases, other <+: char :: (front ++ (phrase ++ back))
      · obtain ⟨other, among, rest, split⟩ := here
        rw [List.cons_append, ← split] at same
        exact measures.erase_phrase_ne among rest same
      · have free : ∀ other ∈ phrases, ¬ other <+: char :: (front ++ (phrase ++ back)) :=
          fun other among found => here ⟨other, among, found⟩
        rw [List.cons_append, measures.erase_cons free] at same
        exact ih (List.cons.inj same).2
  · intro none
    apply eraseMatches_eq_self
    intro tail within
    apply measures.unmatched
    intro phrase member found
    exact none phrase member (found.isInfix.trans within.isInfix)

/-! The first character of a phrase parts a text: no phrase reaches across it. -/

theorem isPrefix_front {mark : Char} {front rest : List Char}
    (begins : ∃ other ∈ phrases, other.head? = some mark) (member : phrase ∈ phrases)
    (nonempty : front ≠ []) (found : phrase <+: front ++ mark :: rest) : phrase <+: front := by
  obtain ⟨char, tail, rfl⟩ := List.exists_cons_of_ne_nil (measures.nonempty phrase member)
  obtain ⟨first, front, rfl⟩ := List.exists_cons_of_ne_nil nonempty
  obtain ⟨other, among, head⟩ := begins
  have foreign : mark ∉ tail := fun inside =>
    measures.plain_tail _ member mark inside other among head
  rw [List.cons_append, List.cons_prefix_cons, isPrefix_append_cons_iff foreign] at found
  exact List.cons_prefix_cons.2 found

theorem exists_append_of_leaves {mark : Char} {text kept front rest : List Char}
    (begins : ∃ other ∈ phrases, other.head? = some mark) (leaves : Leaves phrases text kept)
    (whole : text = front ++ mark :: rest) :
    ∃ before, kept = before ++ eraseMatches width 0 (mark :: rest) := by
  induction leaves generalizing front with
  | nil => exact absurd whole.symm (List.append_ne_nil_of_right_ne_nil front (List.cons_ne_nil _ _))
  | @erased phrase back kept member later ih =>
    by_cases empty : front = []
    · rw [empty, List.nil_append] at whole
      exact ⟨[], (measures.erase_of_leaves (whole ▸ .erased member later)).symm⟩
    · have found : phrase <+: front ++ mark :: rest := whole ▸ List.prefix_append phrase back
      obtain ⟨front, rfl⟩ := measures.isPrefix_front begins member empty found
      rw [List.append_assoc] at whole
      exact ih (List.append_cancel_left whole)
  | @kept char back kept free later ih =>
    cases front with
    | nil =>
      rw [List.nil_append] at whole
      exact ⟨[], (measures.erase_of_leaves (whole ▸ .kept free later)).symm⟩
    | cons first front =>
      obtain ⟨before, rfl⟩ := ih (List.cons.inj whole).2
      exact ⟨char :: before, rfl⟩

/-! What a pass makes of an interrupted text. -/

/-- Past the first gap nothing of the text can be found in one piece. -/
theorem isPrefix_of_interrupted {text stretch sought rest : List Char}
    (interrupted : Interrupted phrases text stretch) (apart : stretch ≠ text)
    (plain : Plain phrases sought.tail) (found : sought <+: stretch ++ rest) :
    sought <+: text ∧ sought ≠ text := by
  induction interrupted generalizing sought with
  | last char => exact absurd rfl apart
  | @next char gap text stretch filled later ih =>
    cases sought with
    | nil => exact ⟨List.nil_prefix, (List.cons_ne_nil _ _).symm⟩
    | cons first sought =>
      rw [List.tail_cons] at plain
      rw [List.cons_append, List.append_assoc, List.cons_prefix_cons] at found
      obtain ⟨rfl, found⟩ := found
      cases gap with
      | nil =>
        have plainTail : Plain phrases sought.tail := fun char member =>
          plain char (List.mem_of_mem_tail member)
        have apartLater : stretch ≠ text := fun same => apart (by rw [same]; rfl)
        obtain ⟨within, shorter⟩ := ih apartLater plainTail found
        exact ⟨List.cons_prefix_cons.2 ⟨rfl, within⟩, fun same => shorter (List.cons.inj same).2⟩
      | cons phrase gap =>
        have member := filled phrase List.mem_cons_self
        obtain ⟨mark, tail, rfl⟩ := List.exists_cons_of_ne_nil (measures.nonempty phrase member)
        cases sought with
        | nil =>
          refine ⟨List.cons_prefix_cons.2 ⟨rfl, List.nil_prefix⟩, fun same => ?_⟩
          exact later.ne_nil (List.cons.inj same).2.symm
        | cons second sought =>
          obtain ⟨rfl, _⟩ := List.cons_prefix_cons.1 found
          exact absurd rfl (plain second List.mem_cons_self _ member)

theorem erase_interrupted_plain {text stretch : List Char} (plain : Plain phrases text)
    (interrupted : Interrupted phrases text stretch) (rest : List Char) :
    eraseMatches width 0 (stretch ++ rest) = text ++ eraseMatches width 0 rest := by
  induction interrupted with
  | last char => exact measures.erase_cons (measures.not_isPrefix_of_plain plain rest)
  | next char filled later ih =>
    have plainLater := fun char member => plain char (List.mem_cons_of_mem _ member)
    rw [List.cons_append, measures.erase_cons (measures.not_isPrefix_of_plain plain _),
      List.append_assoc, measures.erase_flatten filled, ih plainLater, List.cons_append]

theorem erase_interrupted {stretch : List Char} (member : phrase ∈ phrases)
    (interrupted : Interrupted phrases phrase stretch) (apart : stretch ≠ phrase)
    (rest : List Char) :
    eraseMatches width 0 (stretch ++ rest) = phrase ++ eraseMatches width 0 rest := by
  have free : ∀ other ∈ phrases, ¬ other <+: stretch ++ rest := by
    intro other among found
    obtain ⟨within, differs⟩ :=
      measures.isPrefix_of_interrupted interrupted apart (measures.plain_tail other among) found
    exact differs (measures.eq_of_isPrefix among member within)
  cases interrupted with
  | last char => exact absurd rfl apart
  | next char filled later =>
    rw [List.cons_append] at free ⊢
    rw [measures.erase_cons free, List.append_assoc, measures.erase_flatten filled,
      measures.erase_interrupted_plain (measures.plain_tail _ member) later]
    rfl

/-- A phrase is left by a pass exactly where it was interrupted. -/
theorem leaves_phrase_iff {text more : List Char} (member : phrase ∈ phrases) :
    (∃ front, eraseMatches width 0 text = front ++ (phrase ++ more)) ↔
      ∃ before stretch rest, text = before ++ (stretch ++ rest) ∧
        Interrupted phrases phrase stretch ∧ stretch ≠ phrase ∧
        eraseMatches width 0 rest = more := by
  constructor
  · rintro ⟨front, left⟩
    have leaves := measures.leaves_erase text
    rw [left] at leaves
    obtain ⟨before, back, rfl, later⟩ := leaves.exists_rest
    obtain ⟨gap, stretch, rest, rfl, interrupted, _, whole, after⟩ :=
      later.exists_stretch (measures.nonempty phrase member)
    refine ⟨before ++ gap.flatten, stretch, rest, (List.append_assoc _ _ _).symm, interrupted, ?_,
      measures.erase_of_leaves after⟩
    rintro rfl
    have erased := measures.erase_of_leaves whole
    rw [measures.erase_phrase member, measures.erase_of_leaves after] at erased
    have length := congrArg List.length erased
    have longer := List.length_pos_iff.2 (measures.nonempty _ member)
    rw [List.length_append] at length
    omega
  · rintro ⟨before, stretch, rest, rfl, interrupted, apart, rfl⟩
    obtain ⟨mark, later, rfl, head⟩ := interrupted.exists_head
    obtain ⟨front, left⟩ :=
      measures.exists_append_of_leaves ⟨phrase, member, head⟩ (measures.leaves_erase _) rfl
    exact ⟨front, left.trans (by rw [← measures.erase_interrupted member interrupted apart]; rfl)⟩

end Measures

end LootSieve.Text
