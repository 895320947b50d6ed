import LootSieve.Text.Search
import Mathlib.Data.List.Infix

/-! Scanning a text from left to right, place by place. A place is a tail of the text; what stands
before the first place that matters is passed over, both by a search and by an erasure. -/

namespace LootSieve.Text

theorem forall_mem_of_none {test : Char → Bool} {text : List Char}
    (none : text.any test = false) : ∀ char ∈ text, test char = false := fun char member =>
  Bool.eq_false_iff.2 (List.any_eq_false.1 none char member)

/-! Tails of a text. -/

theorem suffix_append_iff {front rest tail : List Char} :
    tail <:+ front ++ rest ↔
      (∃ part, part <:+ front ∧ part ≠ [] ∧ tail = part ++ rest) ∨ tail <:+ rest := by
  constructor
  · intro within
    induction front with
    | nil => exact .inr within
    | cons char front ih =>
      rcases List.suffix_cons_iff.1 within with rfl | later
      · exact .inl ⟨char :: front, List.suffix_refl _, List.cons_ne_nil _ _, rfl⟩
      · rcases ih later with ⟨part, inFront, nonempty, same⟩ | inRest
        · exact .inl ⟨part, inFront.trans (List.suffix_cons char front), nonempty, same⟩
        · exact .inr inRest
  · rintro (⟨part, within, _, rfl⟩ | within)
    · exact List.suffix_append_self_iff.2 within
    · exact within.trans (List.suffix_append front rest)

/-! The leftmost place that matches. -/

section Leftmost

variable {α : Type} {matchAt : List Char → Option α} {front rest text : List Char}

theorem leftmost_of_head {found : α} (head : matchAt text = some found) :
    leftmost matchAt text = some found := by
  cases text with
  | nil => exact head
  | cons char rest =>
    unfold leftmost
    rw [head]

theorem leftmost_append_of_none
    (none : ∀ tail, tail <:+ front → tail ≠ [] → matchAt (tail ++ rest) = none) :
    leftmost matchAt (front ++ rest) = leftmost matchAt rest := by
  induction front with
  | nil => rfl
  | cons char front ih =>
    rw [List.cons_append, leftmost, ← List.cons_append,
      none (char :: front) (List.suffix_refl _) (List.cons_ne_nil _ _)]
    exact ih fun tail within => none tail (within.trans (List.suffix_cons char front))

/-- What is found is found at some place, and nothing is at the places before it. -/
theorem exists_of_leftmost {found : α} (search : leftmost matchAt text = some found) :
    ∃ front rest, front ++ rest = text ∧ matchAt rest = some found ∧
      ∀ tail, tail <:+ front → tail ≠ [] → matchAt (tail ++ rest) = none := by
  induction text with
  | nil =>
    refine ⟨[], [], rfl, search, ?_⟩
    intro tail within nonempty
    exact absurd (List.suffix_nil.1 within) nonempty
  | cons char rest ih =>
    unfold leftmost at search
    split at search
    · next here =>
      refine ⟨[], char :: rest, rfl, here.trans search, ?_⟩
      intro tail within nonempty
      exact absurd (List.suffix_nil.1 within) nonempty
    · next nothing =>
      obtain ⟨front, rest, joined, there, before⟩ := ih search
      refine ⟨char :: front, rest, congrArg (List.cons char) joined, there, ?_⟩
      intro tail within nonempty
      rcases List.suffix_cons_iff.1 within with whole | later
      · rw [whole, List.cons_append, joined]
        exact nothing
      · exact before tail later nonempty

theorem leftmost_eq_none_iff :
    leftmost matchAt text = none ↔ ∀ tail, tail <:+ text → matchAt tail = none := by
  induction text with
  | nil => simp [leftmost]
  | cons char rest ih =>
    simp only [List.suffix_cons_iff, forall_eq_or_imp, ← ih, leftmost]
    cases matchAt (char :: rest) <;> simp

theorem isSome_leftmost_iff :
    (leftmost matchAt text).isSome = true ↔
      ∃ tail, tail <:+ text ∧ (matchAt tail).isSome = true := by
  rw [← Option.ne_none_iff_isSome, ne_eq, leftmost_eq_none_iff]
  simp only [Classical.not_forall, exists_prop, ← Option.ne_none_iff_isSome, ne_eq]

end Leftmost

/-- A search that succeeds at one place only, whatever the order. -/
theorem findSome?_eq_of_unique {α β : Type} {read : α → Option β} {values : List α} {place : α}
    (member : place ∈ values) (others : ∀ value ∈ values, value = place ∨ read value = none) :
    values.findSome? read = read place := by
  induction values with
  | nil => cases member
  | cons value rest ih =>
    rw [List.findSome?_cons]
    rcases others value List.mem_cons_self with rfl | refused
    · cases here : read value with
      | some found => rfl
      | none =>
        rw [List.findSome?_eq_none_iff]
        intro other inRest
        rcases others other (List.mem_cons_of_mem value inRest) with rfl | refused
        · exact here
        · exact refused
    · rw [refused]
      rcases List.mem_cons.1 member with rfl | inRest
      · rw [List.findSome?_eq_none_iff.2 fun other inRest => ?_, refused]
        rcases others other (List.mem_cons_of_mem place inRest) with rfl | refusedToo
        · exact refused
        · exact refusedToo
      · exact ih inRest fun other inRest => others other (List.mem_cons_of_mem value inRest)

/-! Erasure of matches. -/

section EraseMatches

variable {width : List Char → Nat} {front rest text taken : List Char}

theorem eraseMatches_append_of_zero
    (unmatched : ∀ tail, tail <:+ front → tail ≠ [] → width (tail ++ rest) = 0) :
    eraseMatches width 0 (front ++ rest) = front ++ eraseMatches width 0 rest := by
  induction front with
  | nil => rfl
  | cons char front ih =>
    have here := unmatched (char :: front) (List.suffix_refl _) (List.cons_ne_nil _ _)
    have later := ih fun tail within => unmatched tail (within.trans (List.suffix_cons char front))
    rw [List.cons_append, eraseMatches, ← List.cons_append, here]
    simp only [later, List.cons_append]

theorem eraseMatches_eq_self (unmatched : ∀ tail, tail <:+ text → width tail = 0) :
    eraseMatches width 0 text = text := by
  have skipped : eraseMatches width 0 (text ++ []) = text ++ eraseMatches width 0 [] :=
    eraseMatches_append_of_zero fun tail within _ => by rw [List.append_nil, unmatched tail within]
  rwa [List.append_nil, eraseMatches, List.append_nil] at skipped

theorem eraseMatches_pending (taken rest : List Char) :
    eraseMatches width taken.length (taken ++ rest) = eraseMatches width 0 rest := by
  induction taken with
  | nil => rfl
  | cons char taken ih => exact ih

theorem eraseMatches_of_width (nonempty : taken ≠ [])
    (measured : width (taken ++ rest) = taken.length) :
    eraseMatches width 0 (taken ++ rest) = eraseMatches width 0 rest := by
  cases taken with
  | nil => exact absurd rfl nonempty
  | cons char taken =>
    rw [List.cons_append, eraseMatches, ← List.cons_append, measured]
    exact eraseMatches_pending taken rest

theorem eraseMatches_sublist (pending : Nat) (text : List Char) :
    (eraseMatches width pending text).Sublist text := by
  induction text generalizing pending with
  | nil => cases pending <;> exact List.Sublist.refl _
  | cons char rest ih =>
    cases pending with
    | succ pending => exact (ih pending).cons char
    | zero =>
      unfold eraseMatches
      split
      · exact (ih 0).cons_cons char
      · next more _ => exact (ih more).cons char

end EraseMatches

/-! Erasure of a phrase. -/

section Erase

variable {phrase front rest text : List Char}

theorem phraseWidth_eq_zero (unmatched : ¬ phrase <+: text) : phraseWidth phrase text = 0 :=
  if_neg fun found => unmatched (List.isPrefixOf_iff_prefix.1 found)

theorem erase_append_of_unmatched
    (unmatched : ∀ tail, tail <:+ front → tail ≠ [] → ¬ phrase <+: tail ++ rest) :
    erase phrase (front ++ rest) = front ++ erase phrase rest :=
  eraseMatches_append_of_zero fun tail within nonempty =>
    phraseWidth_eq_zero (unmatched tail within nonempty)

theorem erase_eq_self (unmatched : ∀ tail, tail <:+ text → ¬ phrase <+: tail) :
    erase phrase text = text :=
  eraseMatches_eq_self fun tail within => phraseWidth_eq_zero (unmatched tail within)

theorem erase_eq_self_of_not_mem {char : Char} (inPhrase : char ∈ phrase) (absent : char ∉ text) :
    erase phrase text = text :=
  erase_eq_self fun _ within found => absent (within.subset (found.subset inPhrase))

theorem erase_append_of_head_not_mem {first : Char} (absent : first ∉ front) (rest : List Char) :
    erase (first :: phrase) (front ++ rest) = front ++ erase (first :: phrase) rest := by
  refine erase_append_of_unmatched fun tail within nonempty found => ?_
  obtain ⟨char, more, rfl⟩ := List.exists_cons_of_ne_nil nonempty
  obtain ⟨rfl, _⟩ := List.cons_prefix_cons.1 found
  exact absent (within.subset List.mem_cons_self)

theorem erase_phrase_append (nonempty : phrase ≠ []) (rest : List Char) :
    erase phrase (phrase ++ rest) = erase phrase rest :=
  eraseMatches_of_width nonempty
    (if_pos (List.isPrefixOf_iff_prefix.2 (List.prefix_append phrase rest)))

theorem erase_singleton (char : Char) (text : List Char) :
    erase [char] text = text.filter (· ≠ char) := by
  induction text with
  | nil => rfl
  | cons first rest ih =>
    by_cases same : first = char
    · subst same
      rw [List.filter_cons_of_neg (by simp), ← ih]
      exact erase_phrase_append (List.cons_ne_nil _ _) rest
    · have unmatched : ¬ [char] <+: first :: rest := by
        rw [List.cons_prefix_cons]
        exact fun both => same both.1.symm
      rw [List.filter_cons_of_pos (by simp [same]), ← ih]
      change erase [char] ([first] ++ rest) = [first] ++ erase [char] rest
      refine erase_append_of_unmatched fun tail within nonempty => ?_
      rcases List.suffix_cons_iff.1 within with rfl | later
      · exact unmatched
      · exact absurd (List.suffix_nil.1 later) nonempty

/-- A phrase goes no further than to an element that it does not have. -/
theorem isPrefix_append_cons_iff {α : Type} {phrase front rest : List α} {mark : α}
    (foreign : mark ∉ phrase) : phrase <+: front ++ mark :: rest ↔ phrase <+: front := by
  refine ⟨fun found => ?_, fun found => found.trans (List.prefix_append front _)⟩
  have whole := List.prefix_append front (mark :: rest)
  rcases List.prefix_or_prefix_of_prefix found whole with within | beyond
  · exact within
  · obtain ⟨more, rfl⟩ := beyond
    cases more with
    | nil => rw [List.append_nil]
    | cons first more =>
      have next := (List.prefix_append_right_inj front).1 found
      obtain ⟨rfl, _⟩ := List.cons_prefix_cons.1 next
      exact absurd (List.mem_append_right front List.mem_cons_self) foreign

/-- A phrase lies on one side of an element that it does not have. -/
theorem isInfix_append_cons_iff {α : Type} {phrase front rest : List α} {mark : α}
    (foreign : mark ∉ phrase) :
    phrase <:+: front ++ mark :: rest ↔ phrase <:+: front ∨ phrase <:+: rest := by
  induction front with
  | nil =>
    have atMark : phrase <+: [] ++ mark :: rest ↔ phrase <+: [] := isPrefix_append_cons_iff foreign
    rw [List.nil_append] at atMark ⊢
    rw [List.infix_cons_iff, atMark, List.prefix_nil, List.infix_nil]
  | cons first front ih =>
    rw [List.cons_append, List.infix_cons_iff, ← List.cons_append,
      isPrefix_append_cons_iff foreign, ih, ← or_assoc, ← List.infix_cons_iff]

/-- A character that the phrase does not have parts the text for good. -/
theorem erase_append_cons {char : Char} (foreign : char ∉ phrase) (front rest : List Char) :
    erase phrase (front ++ char :: rest) = erase phrase front ++ char :: erase phrase rest := by
  have width : ∀ tail, phraseWidth phrase (tail ++ char :: rest) = phraseWidth phrase tail := by
    intro tail
    unfold phraseWidth
    simp only [List.isPrefixOf_iff_prefix, isPrefix_append_cons_iff foreign]
  have bound : ∀ tail, phraseWidth phrase tail ≤ tail.length := by
    intro tail
    unfold phraseWidth
    split
    · next found => exact (List.isPrefixOf_iff_prefix.1 found).length_le
    · exact Nat.zero_le _
  have alone : phraseWidth phrase (char :: rest) = 0 := by
    rw [← List.nil_append (char :: rest), width]
    exact Nat.le_zero.1 (bound [])
  -- a match under way ends within `front`, so `pending` never reaches past the character
  have main : ∀ pending, pending ≤ front.length →
      eraseMatches (phraseWidth phrase) pending (front ++ char :: rest) =
        eraseMatches (phraseWidth phrase) pending front ++ char :: erase phrase rest := by
    induction front with
    | nil =>
      intro pending within
      rw [Nat.le_zero.1 within]
      change erase phrase ([char] ++ rest) = [char] ++ erase phrase rest
      refine eraseMatches_append_of_zero fun tail inner nonempty => ?_
      rcases List.suffix_cons_iff.1 inner with rfl | later
      · exact alone
      · exact absurd (List.suffix_nil.1 later) nonempty
    | cons first front ih =>
      intro pending within
      cases pending with
      | succ pending => exact ih pending (Nat.le_of_succ_le_succ within)
      | zero =>
        rw [List.cons_append, eraseMatches, ← List.cons_append, width, eraseMatches]
        cases measured : phraseWidth phrase (first :: front) with
        | zero => exact congrArg (List.cons first) (ih 0 (Nat.zero_le _))
        | succ more =>
          have most := bound (first :: front)
          rw [measured] at most
          exact ih more (Nat.le_of_succ_le_succ most)
  exact main 0 (Nat.zero_le _)

end Erase

/-! Stretches of allowed characters. -/

section Stretches

variable {allowed : Char → Bool} {front rest text : List Char}

theorem suffix_of_mem_cuts {taken left : List Char} (member : (taken, left) ∈ cuts allowed text) :
    left <:+ text.tail := by
  obtain ⟨joined, nonempty, _⟩ := append_of_mem_cuts member
  cases taken with
  | nil => exact absurd rfl nonempty
  | cons char taken => exact ⟨taken, by rw [← joined]; rfl⟩

theorem suffix_of_mem_endings {left : List Char} (member : left ∈ endings allowed text) :
    left <:+ text.tail := by
  rw [endings_eq_map_cuts] at member
  obtain ⟨⟨taken, _⟩, inCuts, rfl⟩ := List.mem_map.1 member
  exact suffix_of_mem_cuts inCuts

theorem mem_cuts_append (nonempty : front ≠ []) (all : ∀ char ∈ front, allowed char = true) :
    (front, rest) ∈ cuts allowed (front ++ rest) := by
  induction front with
  | nil => exact absurd rfl nonempty
  | cons char front ih =>
    obtain ⟨here, later⟩ := List.forall_mem_cons.1 all
    rw [List.cons_append, cuts, if_pos here]
    by_cases last : front = []
    · subst last
      exact List.mem_cons_self
    · exact List.mem_cons_of_mem _ (List.mem_map.2 ⟨(front, rest), ih last later, rfl⟩)

theorem mem_endings_append (nonempty : front ≠ []) (all : ∀ char ∈ front, allowed char = true) :
    rest ∈ endings allowed (front ++ rest) := by
  rw [endings_eq_map_cuts]
  exact List.mem_map.2 ⟨(front, rest), mem_cuts_append nonempty all, rfl⟩

theorem append_of_mem_endings {left : List Char} (member : left ∈ endings allowed text) :
    ∃ taken, taken ++ left = text ∧ taken ≠ [] ∧ ∀ char ∈ taken, allowed char = true := by
  rw [endings_eq_map_cuts] at member
  obtain ⟨⟨taken, rest⟩, inCuts, same⟩ := List.mem_map.1 member
  subst same
  exact ⟨taken, append_of_mem_cuts inCuts⟩

/-- The longest cut takes all that is allowed. -/
theorem exists_cuts_eq_concat (nonempty : front ≠ [])
    (all : ∀ char ∈ front, allowed char = true)
    (stop : ∀ char ∈ rest.head?, allowed char = false) :
    ∃ shorter, cuts allowed (front ++ rest) = shorter ++ [(front, rest)] := by
  have nothing : cuts allowed rest = [] := by
    cases rest with
    | nil => rfl
    | cons char rest =>
      rw [cuts, stop char rfl]
      rfl
  induction front with
  | nil => exact absurd rfl nonempty
  | cons char front ih =>
    obtain ⟨here, later⟩ := List.forall_mem_cons.1 all
    rw [List.cons_append, cuts, if_pos here]
    by_cases last : front = []
    · subst last
      exact ⟨[], by rw [List.nil_append, nothing]; rfl⟩
    · obtain ⟨shorter, same⟩ := ih last later
      rw [same, List.map_append, ← List.cons_append]
      exact ⟨_, rfl⟩

end Stretches

end LootSieve.Text
