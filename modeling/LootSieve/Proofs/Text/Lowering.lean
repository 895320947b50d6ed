import LootSieve.Proofs.Text.Spelling
import LootSieve.Text.Search

/-! Lowering of arbitrary text. Each character lowers on its own, except for the two small forms of
the sigma; so up to these forms a part of a text lowers alike whatever stands around it. Lowering
makes letters only: blanks and punctuation of the lowered text are those of the text. -/

namespace LootSieve.Text

/-! Single characters. -/

/-- A character that lowering may put in the place of another: no blank, and in ASCII a small
letter. -/
structure IsLoweredForm (code : Nat) : Prop where
  letter : code < 128 → 97 ≤ code ∧ code ≤ 122
  notBlank : blankRuns.any (·.covers code) = false

instance (code : Nat) : Decidable (IsLoweredForm code) :=
  decidable_of_iff ((code < 128 → 97 ≤ code ∧ code ≤ 122) ∧
    blankRuns.any (·.covers code) = false)
    ⟨fun ⟨letter, notBlank⟩ => ⟨letter, notBlank⟩, fun form => ⟨form.letter, form.notBlank⟩⟩

/-- The codes of a run, shifted, are codes of characters between those of blanks, and in ASCII
those of small letters. -/
structure LandsOnLetters (run : CodeRun) (shift : Int) : Prop where
  valid : run.last + shift < 0xD800 ∨ 0xE000 ≤ run.first + shift ∧ run.last + shift < 0x110000
  letters : 128 ≤ run.first + shift ∨ 97 ≤ run.first + shift ∧ run.last + shift ≤ 122
  notBlank : ∀ blank ∈ blankRuns,
    run.last + shift < blank.first ∨ (blank.last : Int) < run.first + shift

instance (run : CodeRun) (shift : Int) : Decidable (LandsOnLetters run shift) :=
  decidable_of_iff (_ ∧ _ ∧ _)
    ⟨fun ⟨valid, letters, notBlank⟩ => ⟨valid, letters, notBlank⟩,
      fun lands => ⟨lands.valid, lands.letters, lands.notBlank⟩⟩

theorem lowerRuns_land : ∀ entry ∈ lowerRuns, LandsOnLetters entry.1 entry.2 := by
  decide +kernel

theorem LandsOnLetters.shifted {run : CodeRun} {shift : Int} (lands : LandsOnLetters run shift)
    {code : Nat} (covered : run.covers code = true) :
    IsLoweredForm (Char.ofNat (code + shift).toNat).toNat := by
  obtain ⟨lower, upper, _⟩ := (run.covers_iff code).1 covered
  obtain ⟨valid, letters, notBlank⟩ := lands
  have isCode : (code + shift).toNat.isValidChar := by
    unfold Nat.isValidChar
    omega
  have same : (Char.ofNat (code + shift).toNat).toNat = (code + shift).toNat := by
    rw [Char.ofNat, dif_pos isCode]
    rfl
  rw [same]
  refine ⟨fun small => by omega, ?_⟩
  rw [List.any_eq_false]
  intro blank member covers
  obtain ⟨after, before, _⟩ := (blank.covers_iff _).1 covers
  have apart := notBlank blank member
  omega

/-- What a character lowers to is itself or a letter. -/
theorem mem_lowerChar {char low : Char} (member : low ∈ lowerChar char) :
    low = char ∨ IsLoweredForm low.toNat := by
  unfold lowerChar at member
  split at member
  · next ascii =>
    have checked : ∀ code < 128, (Char.ofNat code).toLower = Char.ofNat code ∨
        IsLoweredForm (Char.ofNat code).toLower.toNat := by
      decide +kernel
    rw [List.mem_singleton.1 member]
    have here := checked char.toNat ascii
    rwa [Char.ofNat_toNat] at here
  · split at member
    · have dotted : IsLoweredForm 'i'.toNat := by decide +kernel
      have dot : IsLoweredForm '\u0307'.toNat := by decide +kernel
      rcases List.mem_pair.1 member with rfl | rfl
      · exact .inr dotted
      · exact .inr dot
    · split at member
      · next run shift found =>
        have lands := lowerRuns_land _ (List.mem_of_find?_eq_some found)
        have covered := List.find?_some found
        rw [List.mem_singleton.1 member]
        exact .inr (lands.shifted covered)
      · exact .inl (List.mem_singleton.1 member)

theorem isBlank_of_mem_lowerChar {char low : Char} (member : low ∈ lowerChar char)
    (blank : isBlank low = true) : low = char := by
  rcases mem_lowerChar member with same | form
  · exact same
  · have notBlank : isBlank low = false := form.notBlank
    rw [blank] at notBlank
    cases notBlank

theorem lowerChar_of_isBlank {char : Char} (blank : isBlank char = true) :
    lowerChar char = [char] := by
  have checked : ∀ run ∈ blankRuns, ∀ offset ≤ run.last - run.first,
      lowerChar (Char.ofNat (run.first + offset)) = [Char.ofNat (run.first + offset)] := by
    decide +kernel
  obtain ⟨run, member, covered⟩ := List.any_eq_true.1 blank
  obtain ⟨lower, upper, _⟩ := (run.covers_iff char.toNat).1 covered
  have here := checked run member (char.toNat - run.first) (by omega)
  rwa [Nat.add_sub_cancel' lower, Char.ofNat_toNat] at here

theorem filter_lowerChar (char : Char) : (lowerChar char).filter (!isBlank ·) =
    if isBlank char then [] else lowerChar char := by
  split
  · next blank =>
    rw [lowerChar_of_isBlank blank]
    simp [blank]
  · next solid =>
    rw [List.filter_eq_self]
    intro low member
    rw [Bool.not_eq_true']
    apply Bool.eq_false_iff.2
    intro blank
    exact solid (isBlank_of_mem_lowerChar member blank ▸ blank)

/-! Texts without the capital sigma. -/

theorem lowerFrom_of_no_sigma {text : List Char} (noSigma : 'Σ' ∉ text) (before : List Char) :
    lowerFrom before text = text.flatMap lowerChar := by
  induction text generalizing before with
  | nil => rfl
  | cons char after ih =>
    have here : char ≠ 'Σ' := fun same => noSigma (same ▸ List.mem_cons_self)
    have later : 'Σ' ∉ after := fun member => noSigma (List.mem_cons_of_mem char member)
    rw [List.flatMap_cons, ← ih later (char :: before), lowerFrom, if_neg here]

theorem lower_of_no_sigma {text : List Char} (noSigma : 'Σ' ∉ text) :
    lower text = text.flatMap lowerChar :=
  lowerFrom_of_no_sigma noSigma []

/-- Blanks stay where they are and do not come from other characters. -/
theorem filter_flatMap_lowerChar (text : List Char) :
    (text.flatMap lowerChar).filter (!isBlank ·) =
      (text.filter (!isBlank ·)).flatMap lowerChar := by
  induction text with
  | nil => rfl
  | cons char text ih =>
    rw [List.flatMap_cons, List.filter_append, ih, filter_lowerChar]
    by_cases blank : isBlank char = true
    · simp [blank]
    · simp [blank]

/-! Any text, up to the small forms of the sigma. -/

/-- The small sigma in place of its final form. -/
def unfinal (char : Char) : Char := if char = 'ς' then 'σ' else char

theorem map_unfinal_sigma (char : Char) (final : Bool) :
    (if char = 'Σ' then if final then ['ς'] else ['σ'] else lowerChar char).map unfinal =
      (lowerChar char).map unfinal := by
  have sigma : lowerChar 'Σ' = ['σ'] := by decide +kernel
  by_cases capital : char = 'Σ'
  · subst capital
    rw [if_pos rfl, sigma]
    cases final <;> rfl
  · rw [if_neg capital]

/-- The front of a text lowers on its own, but for the forms of the sigma. -/
theorem exists_lowerFrom_append (before front back : List Char) :
    ∃ low, lowerFrom before (front ++ back) = low ++ lowerFrom (front.reverse ++ before) back ∧
      low.map unfinal = (front.flatMap lowerChar).map unfinal := by
  induction front generalizing before with
  | nil => exact ⟨[], rfl, rfl⟩
  | cons char front ih =>
    obtain ⟨low, same, alike⟩ := ih (char :: before)
    rw [List.cons_append, lowerFrom, same, List.reverse_cons, List.append_assoc]
    refine ⟨_, (List.append_assoc _ _ _).symm, ?_⟩
    rw [List.map_append, map_unfinal_sigma, alike, List.flatMap_cons, List.map_append]

theorem map_unfinal_lower (text : List Char) :
    (lower text).map unfinal = (text.flatMap lowerChar).map unfinal := by
  obtain ⟨low, same, alike⟩ := exists_lowerFrom_append [] text []
  rw [List.append_nil, lowerFrom, List.append_nil] at same
  rw [lower, same, alike]

theorem unfinal_eq_iff {char other : Char} (plain : other ≠ 'σ') (final : other ≠ 'ς') :
    unfinal char = other ↔ char = other := by
  unfold unfinal
  split
  · next isFinal =>
    subst isFinal
    exact iff_of_false plain.symm final.symm
  · exact Iff.rfl

theorem eq_map_unfinal_iff {phrase : List Char} (plain : 'σ' ∉ phrase) (final : 'ς' ∉ phrase)
    (text : List Char) : phrase = text.map unfinal ↔ phrase = text := by
  induction text generalizing phrase with
  | nil => exact Iff.rfl
  | cons char text ih =>
    cases phrase with
    | nil => exact iff_of_false nofun nofun
    | cons first phrase =>
      obtain ⟨firstPlain, laterPlain⟩ := List.ne_and_not_mem_of_not_mem_cons plain
      obtain ⟨firstFinal, laterFinal⟩ := List.ne_and_not_mem_of_not_mem_cons final
      rw [List.map_cons, List.cons.injEq, List.cons.injEq, ih laterPlain laterFinal, eq_comm,
        unfinal_eq_iff firstPlain.symm firstFinal.symm, eq_comm]

/-- A phrase without a small sigma occurs in a text in whichever form the sigmas of the text are. -/
theorem occursIn_map_unfinal {phrase : List Char} (plain : 'σ' ∉ phrase) (final : 'ς' ∉ phrase)
    (text : List Char) : occursIn phrase (text.map unfinal) = occursIn phrase text := by
  rw [Bool.eq_iff_iff, occursIn_iff, occursIn_iff, List.infix_map_iff]
  simp only [eq_map_unfinal_iff plain final, exists_eq_right']

end LootSieve.Text
