import LootSieve.Proofs.Lexicon.Lookup
import LootSieve.Proofs.Tooltip.StrippedLine

/-!
Affix lines as the game shows them are decoded to what they show: a value, its name and, unless the
roll is a greater one, the range it comes from. Signs may stand anywhere among them. A name may tell
of a duration, which the end of the line repeats in brackets of its own.
-/

namespace LootSieve.Tooltip
open Text

/-- A space parts bounds from what stands before them. -/
def Bounds.gap : Option Bounds → List Char
  | none => []
  | some _ => [' ']

/-- The line shows a value with these bounds. A duration, if the name has one, is repeated at the
end of a line that has no other number alone in brackets. -/
inductive Shows (value : Numeral) (bounds : Option Bounds) (line : String) : Prop
  | plain {name : List Char} (isName : IsWording name)
    (shown : unsigned line.toList =
      value.text ++ (' ' :: name ++ (Bounds.gap bounds ++ Bounds.shown bounds)))
  | timed {before after pad : List Char} {duration : Numeral} (isBefore : IsWording before)
    (isAfter : IsWording after) (blank : ∀ char ∈ pad, char = ' ')
    (unbracketed : ∀ number, bounds ≠ some (.only number))
    (shown : unsigned line.toList =
      value.text ++ (' ' :: before ++ (durationPhrase duration ++
        (after ++ (Bounds.gap bounds ++ Bounds.shown bounds) ++
          (pad ++ (Bounds.only duration).text)))))

/-- A range is shown with integers or with decimals throughout. -/
def SharesForm (value : Numeral) : Option Bounds → Prop
  | some (.range low high) =>
    (value.IsInteger ∧ low.IsInteger ∧ high.IsInteger) ∨
      (¬ value.IsInteger ∧ ¬ low.IsInteger ∧ ¬ high.IsInteger)
  | _ => True

def shownRoll (value : Numeral) : Option Bounds → Roll
  | none => .bare value.value
  | some (.only number) => .ranged value.value number.value number.value
  | some (.range low high) => .ranged value.value low.value high.value

def shownKind : Option Bounds → AffixKind
  | none => .greater
  | some _ => .normal

theorem reading?_of_sharesForm {value : Numeral} {bounds : Option Bounds}
    (shares : SharesForm value bounds) :
    ∃ arrangement, reading? value bounds = some (arrangement, shownRoll value bounds) ∧
      (if arrangement.isGreater then AffixKind.greater else .normal) = shownKind bounds := by
  cases bounds with
  | none => exact ⟨.bare, rfl, rfl⟩
  | some bounds =>
    cases bounds with
    | only number => exact ⟨.single, rfl, rfl⟩
    | range low high =>
      rcases shares with ⟨valueWhole, lowWhole, highWhole⟩ | pointed
      · refine ⟨.integerRange, ?_, rfl⟩
        have whole : decimalValue value.lastDigits [] = value.value := by
          rw [Numeral.lastDigits, if_pos valueWhole, Numeral.value,
            show value.fraction = [] from valueWhole]
        rw [reading?, Bounds.reading?, if_pos ⟨lowWhole, highWhole⟩, whole, shownRoll]
      · refine ⟨.pointedRange, ?_, rfl⟩
        have notWhole : ¬ (low.IsInteger ∧ high.IsInteger) := fun both => pointed.2.1 both.1
        rw [reading?, Bounds.reading?, if_neg notWhole, if_pos pointed, shownRoll]

/-! Lines with a duration. -/

section Timed

variable {value duration : Numeral} {before rest line : List Char}

theorem not_mayCount_before (isBefore : IsWording before) :
    ∀ part, part <:+ value.text ++ before → part ≠ [] →
      ¬ MayCount (part ++ (durationPhrase duration ++ rest)) := by
  intro part inside nonempty
  -- within the value too few characters stand before the next digit, after it too many
  rcases suffix_append_iff.1 inside with ⟨run, inValue, runNonempty, rfl⟩ | inBefore
  · rw [List.append_assoc]
    exact not_mayCount_numeral inValue runNonempty _
  · refine not_mayCount_plain (fun char member => isBefore.plain char (inBefore.subset member)) ?_
    have lead : leadIn (durationPhrase duration ++ rest) = "for ".toList := by
      rw [durationPhrase, List.append_assoc, leadIn_append (forall_mem_of_none (by decide)),
        List.append_assoc, leadIn_numeral, List.append_nil]
    have long := List.length_pos_of_ne_nil nonempty
    have four : "for ".toList.length = 4 := rfl
    rw [lead, four]
    omega

theorem clean_duration (isBefore : IsWording before) (opens : BracketsOpen rest)
    (uncounted : Uncounted rest) (isLineText : IsLineText rest)
    (shown : unsigned line = value.text ++ (before ++ (durationPhrase duration ++ rest))) :
    clean line =
      trim (erase (Bounds.only duration).text (value.text ++ before ++ rest)) := by
  have phraseText : IsLineText (durationPhrase duration) := by
    have start : IsLineText "for ".toList := by decide
    have finish : IsLineText " Seconds".toList := by decide
    exact start.append ((isLineText_numeral duration).append finish)
  have lineText := (isLineText_numeral value).append
    (isBefore.isLineText.append (phraseText.append isLineText))
  have phraseOpens : BracketsOpen (durationPhrase duration ++ rest) := by
    refine opens.append ?_
    simp [durationPhrase, bracket_not_mem_text duration]
  have lineOpens := (isBefore.bracketsOpen phraseOpens).append (bracket_not_mem_text value)
  have uncountedLine :
      erase "per 5 Seconds".toList (value.text ++ before ++ (durationPhrase duration ++ rest)) =
        value.text ++ before ++ (durationPhrase duration ++ rest) := by
    have foreign : 'p' ∉ durationPhrase duration := by
      have inDuration : 'p' ∉ duration.text := Numeral.not_mem_text rfl
      simp [durationPhrase, inDuration]
    have inPhrase : erase "per 5 Seconds".toList (durationPhrase duration ++ rest) =
        durationPhrase duration ++ erase "per 5 Seconds".toList rest :=
      erase_append_of_head_not_mem foreign rest
    rw [erase_append_of_unmatched fun part inside nonempty found =>
        not_mayCount_before isBefore part inside nonempty (mayCount_of_starts mayCount_per found),
      inPhrase, erase_count_eq_self uncounted]
  rw [clean, dropCosmetics_eq, shown, erase_marker_eq_self lineOpens, ← List.append_assoc,
    uncountedLine, dropComparison_eq_self,
    dropDuration_phrase (not_mayCount_before isBefore) uncounted]
  rw [List.append_assoc]
  exact lineText.not_mem (by decide)

/-- What follows a duration up to its repetition. -/
theorem erase_repetition_after {front pad : List Char} {bounds : Option Bounds}
    (unbracketed : ∀ number, bounds ≠ some (.only number)) (noBracket : '[' ∉ front)
    (blank : ∀ char ∈ pad, char = ' ') :
    erase (Bounds.only duration).text
        (front ++ (Bounds.shown bounds ++ (pad ++ (Bounds.only duration).text))) =
      front ++ (Bounds.shown bounds ++ pad) := by
  have unpadded : '[' ∉ pad := (isWording_pad blank).not_mem rfl (by decide)
  cases bounds with
  | none => exact erase_repetition noBracket unpadded
  | some bounds =>
    cases bounds with
    | only number => exact absurd rfl (unbracketed number)
    | range low high => exact erase_repetition_range noBracket unpadded

/-- The duration and its repetition go, and what stood around them closes up. -/
theorem clean_timed {after pad : List Char} {bounds : Option Bounds} (isBefore : IsWording before)
    (isAfter : IsWording after) (blank : ∀ char ∈ pad, char = ' ')
    (unbracketed : ∀ number, bounds ≠ some (.only number))
    (shown : unsigned line = value.text ++ (before ++ (durationPhrase duration ++
      (after ++ (Bounds.shown bounds ++ (pad ++ (Bounds.only duration).text)))))) :
    clean line = trim (value.text ++ (before ++ after ++ (Bounds.shown bounds ++ pad))) := by
  have isPad := isWording_pad blank
  have repetition : Guarded (Bounds.only duration).text := guarded_bracket _
  have guarded := guarded_shown bounds (isPad.guarded repetition)
  have opens := isAfter.bracketsOpen
    (bracketsOpen_shown bounds (isPad.bracketsOpen (bracketsOpen_text (.only duration))))
  have padUncounted := isPad.uncounted (uncounted_text (.only duration)) repetition
  have uncounted := isAfter.uncounted
    (uncounted_shown bounds padUncounted (isPad.guarded repetition)) guarded
  have isLineText := isAfter.isLineText.append
    (isLineText_shown bounds (isPad.isLineText.append (isLineText_bounds (.only duration))))
  have noBracket : '[' ∉ value.text ++ before ++ after := by
    rw [List.mem_append, List.mem_append, not_or, not_or]
    exact ⟨⟨bracket_not_mem_text value, isBefore.not_mem rfl (by decide)⟩,
      isAfter.not_mem rfl (by decide)⟩
  rw [clean_duration isBefore opens uncounted isLineText shown, ← List.append_assoc,
    erase_repetition_after unbracketed noBracket blank]
  simp only [List.append_assoc]

end Timed

theorem isWording_gap (bounds : Option Bounds) : IsWording (Bounds.gap bounds) := by
  cases bounds with
  | none => exact nofun
  | some bounds => exact fun char member => .inr (List.mem_singleton.1 member)

/-- A line that shows a value is stripped to it, its bounds and some wording. -/
theorem Shows.exists_stripped {value : Numeral} {bounds : Option Bounds} {line : String}
    (shows : Shows value bounds line) :
    ∃ wording pad, IsStripped wording bounds pad ∧
      clean line.toList = trim (value.text ++ (wording ++ (Bounds.shown bounds ++ pad))) := by
  have gap := isWording_gap bounds
  cases shows with
  | @plain name isName shown =>
    have isWording : IsWording (' ' :: name ++ Bounds.gap bounds) :=
      List.forall_mem_append.2 ⟨List.forall_mem_cons.2 ⟨.inr rfl, isName⟩, gap⟩
    have stripped : IsStripped (' ' :: name ++ Bounds.gap bounds) bounds [] :=
      ⟨isWording, fun _ => List.cons_ne_nil _ _, nofun⟩
    refine ⟨_, [], stripped, stripped.clean_eq ?_⟩
    rw [shown, List.append_nil, List.append_assoc]
  | @timed before after pad duration isBefore isAfter blank unbracketed shown =>
    have isStart : IsWording (' ' :: before) := List.forall_mem_cons.2 ⟨.inr rfl, isBefore⟩
    have isEnd : IsWording (after ++ Bounds.gap bounds) := List.forall_mem_append.2 ⟨isAfter, gap⟩
    have isWording : IsWording (' ' :: before ++ (after ++ Bounds.gap bounds)) :=
      List.forall_mem_append.2 ⟨isStart, isEnd⟩
    have stripped : IsStripped (' ' :: before ++ (after ++ Bounds.gap bounds)) bounds pad :=
      ⟨isWording, fun _ => List.cons_ne_nil _ _, blank⟩
    have regrouped : unsigned line.toList = value.text ++ (' ' :: before ++
        (durationPhrase duration ++ (after ++ Bounds.gap bounds ++
          (Bounds.shown bounds ++ (pad ++ (Bounds.only duration).text))))) := by
      rw [shown]
      simp only [List.append_assoc]
    exact ⟨_, pad, stripped, clean_timed isStart isEnd blank unbracketed regrouped⟩

/-- A line is decoded to the value and the bounds that it shows, under its own name where the
lexicon knows that or is empty. -/
theorem decodeAffix_of_shows (lexicon : Lexicon) (value : Numeral) (bounds : Option Bounds)
    (line : String) (shows : Shows value bounds line) (shares : SharesForm value bounds)
    (known : lexicon.affixes.keys = [] ∨
      String.ofList (Naming.canonical line.toList) ∈ lexicon.affixes.keys) :
    decodeAffix lexicon line = .ok {
      name := String.ofList (Naming.canonical line.toList)
      text := line
      roll := shownRoll value bounds
      kind := shownKind bounds } := by
  obtain ⟨wording, pad, stripped, cleaned⟩ := shows.exists_stripped
  obtain ⟨arrangement, reads, kind⟩ := reading?_of_sharesForm shares
  have own : lexicon.resolveAffix line = String.ofList (Naming.canonical line.toList) :=
    known.elim (Lexicon.resolveAffix_of_no_affixes · line) Lexicon.resolveAffix_of_mem
  rw [decodeAffix_of_clean cleaned (stripped.find?_trim.trans reads), outcome, kind, own]

/-! A line with a duration in its name. -/

def swiftness : String :=
  "+10.5% Movement Speed for 7 Seconds After Killing an Elite [9.0 - 11.0]%[7]"

def swiftnessLexicon : Lexicon :=
  Lexicon.empty.addAffixes ["movement_speed", "movement_speed_for_seconds_after_killing_an_elite"]

theorem swiftness_decoded : decodeAffix swiftnessLexicon swiftness = .ok {
    name := "movement_speed_for_seconds_after_killing_an_elite"
    text := swiftness
    roll := .ranged (decimalValue "10".toList "5".toList) (decimalValue "9".toList "0".toList)
      (decimalValue "11".toList "0".toList)
    kind := .normal } := by
  let value := Numeral.ofDigits "10" "5" (by decide) (by decide)
  let low := Numeral.ofDigits "9" "0" (by decide) (by decide)
  let high := Numeral.ofDigits "11" "0" (by decide) (by decide)
  let duration := Numeral.ofDigits "7" "" (by decide) (by decide)
  have name : String.ofList (Naming.canonical swiftness.toList) =
      "movement_speed_for_seconds_after_killing_an_elite" := by
    decide +kernel
  have isBefore : IsWording "Movement Speed ".toList := by decide
  have isAfter : IsWording " After Killing an Elite".toList := by decide
  have shown : unsigned swiftness.toList = value.text ++ (' ' :: "Movement Speed ".toList ++
      (durationPhrase duration ++ (" After Killing an Elite".toList ++
        (Bounds.gap (some (.range low high)) ++ Bounds.shown (some (.range low high))) ++
          ([] ++ (Bounds.only duration).text)))) := by
    decide +kernel
  have shows : Shows value (some (.range low high)) swiftness :=
    .timed isBefore isAfter (List.forall_mem_nil _) (fun _ => nofun) shown
  have known : String.ofList (Naming.canonical swiftness.toList) ∈
      swiftnessLexicon.affixes.keys := by
    rw [name]
    decide +kernel
  have decoded := decodeAffix_of_shows swiftnessLexicon value (some (.range low high)) swiftness
    shows (.inr ⟨by decide, by decide, by decide⟩) (.inr known)
  rw [name] at decoded
  exact decoded

end LootSieve.Tooltip
