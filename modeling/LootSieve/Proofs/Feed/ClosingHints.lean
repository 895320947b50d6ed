import LootSieve.Proofs.Feed.Segmentation
import LootSieve.Proofs.Tooltip.ReadFaults

/-! Hints that look like titles. A hint is known by its words in any letter case, a title by its
capitals or its first words, and the search for the title of a block begins with the hint that
closes it. So a hint in capitals is taken for a title and closes a block of its own, of one line,
which cannot be read. Any other hint closes a block that begins with a title before it. -/

namespace LootSieve.Feed
open Text Tooltip

/-- A line without small letters, or with the first words of a title, that heads no affixes. -/
structure PassesForTitle (line : String) : Prop where
  noHeader : ∀ header ∈ ignoredHeaders, ¬ header.toList <:+: line.toList
  titled : (∃ start ∈ titleStarts, start.toList <+: line.toList) ∨
    ∀ char ∈ line.toList, isLowercase char = false

theorem holdsAny_iff {phrases : List String} {text : List Char} :
    holdsAny phrases text = true ↔ ∃ phrase ∈ phrases, phrase.toList <:+: text := by
  simp only [holdsAny, List.any_eq_true, occursIn_iff]

theorem passesForTitle_iff {line : String} : PassesForTitle line ↔
    holdsAny ignoredHeaders line.toList = false ∧
      (titleStarts.any (·.toList.isPrefixOf line.toList) = true ∨
        line.toList.any isLowercase = false) := by
  rw [← Bool.not_eq_true, holdsAny_iff]
  simp only [List.any_eq_true, List.isPrefixOf_iff_prefix, List.any_eq_false, Bool.not_eq_true,
    not_exists, not_and]
  exact ⟨fun passes => ⟨passes.noHeader, passes.titled⟩, fun both => ⟨both.1, both.2⟩⟩

instance (line : String) : Decidable (PassesForTitle line) :=
  decidable_of_iff' _ passesForTitle_iff

section Hints
variable {line : String}

theorem exists_phrase_of_isHint (hint : isHint line = true) :
    ∃ phrase ∈ hintPhrases, phrase.toList <:+: line.toList.map Char.toLower :=
  holdsAny_iff.1 (Bool.and_eq_true_iff.1 hint).2

/-- The phrases alone have letters enough for a title. -/
theorem three_letters_of_isHint (hint : isHint line = true) :
    3 ≤ line.toList.countP Char.isAlpha := by
  obtain ⟨phrase, member, occurs⟩ := exists_phrase_of_isHint hint
  have letters : ∀ phrase ∈ hintPhrases, 3 ≤ phrase.toList.countP Char.isAlpha := by decide
  have same : Char.isAlpha ∘ Char.toLower = Char.isAlpha := funext fun char =>
    toLower_induction (fun char low => low.isAlpha = char.isAlpha) (fun _ => rfl) (by decide) char
  calc 3 ≤ phrase.toList.countP Char.isAlpha := letters phrase member
    _ ≤ (line.toList.map Char.toLower).countP Char.isAlpha := occurs.sublist.countP_le
    _ = line.toList.countP Char.isAlpha := by rw [List.countP_map, same]

/-- A button has to be written with some letter, and if it is not small it is a capital. -/
theorem capital_of_isHint (hint : isHint line = true)
    (noSmall : line.toList.any isLowercase = false) : line.toList.any isUppercase = true := by
  obtain ⟨phrase, member, occurs⟩ := exists_phrase_of_isHint hint
  have button : ∀ phrase ∈ hintPhrases, 'b' ∈ phrase.toList := by decide
  obtain ⟨char, inLine, low⟩ := List.mem_map.1 (occurs.subset (button phrase member))
  have cased : char.toLower = 'b' → isLowercase char = true ∨ isUppercase char = true :=
    toLower_induction
      (fun char low => low = 'b' → isLowercase char = true ∨ isUppercase char = true)
      (fun char isButton => .inl (isButton ▸ by decide)) (by decide) char
  exact List.any_eq_true.2
    ⟨char, inLine, (cased low).resolve_left (List.any_eq_false.1 noSmall char inLine)⟩

theorem isStart_iff_of_isHint (hint : isHint line = true) :
    isStart line = true ↔ PassesForTitle line := by
  have shouted : isShouted line.toList = true ↔ line.toList.any isLowercase = false := by
    unfold isShouted
    rw [Bool.and_eq_true, Bool.and_eq_true, decide_eq_true_eq, Bool.not_eq_true']
    exact and_iff_right_of_imp fun noSmall =>
      ⟨three_letters_of_isHint hint, capital_of_isHint hint noSmall⟩
  rw [passesForTitle_iff, isStart, Bool.and_eq_true, Bool.or_eq_true, shouted, Bool.not_eq_true']

end Hints

/-! Blocks. -/

/-- A block as a detector closes it: the first line is its only title, the last its only hint. -/
structure IsSegment (block : List String) : Prop where
  start_iff : ∀ place, ShowsAt isStart block place ↔ place = 0
  hint_iff : ∀ place, ShowsAt isHint block place ↔ place + 1 = block.length

theorem Span.IsBlock.isSegment {span : Span} {lines : List String} (block : span.IsBlock lines) :
    IsSegment (span.cut lines) :=
  ⟨block.start_cut_iff, block.hint_cut_iff⟩

/-- The closing hint stands apart from the title, unless it is the title. -/
structure ClosedBy (block front : List String) (hint : String) : Prop where
  block_eq : block = front ++ [hint]
  isHint : isHint hint = true
  alone : PassesForTitle hint → front = []
  titled : ¬ PassesForTitle hint → ShowsAt isStart front 0

theorem IsSegment.exists_closedBy {block : List String} (segment : IsSegment block) :
    ∃ front hint, ClosedBy block front hint := by
  have starts : ShowsAt isStart block 0 := (segment.start_iff 0).2 rfl
  obtain rfl | ⟨front, hint, rfl⟩ := List.eq_nil_or_concat' block
  · cases starts.lt_length
  · have closes : Feed.isHint hint = true :=
      showsAt_concat.1 ((segment.hint_iff front.length).2 (by simp))
    have last : ShowsAt isStart (front ++ [hint]) front.length ↔ isStart hint = true :=
      showsAt_concat
    have alone : PassesForTitle hint ↔ front = [] := by
      rw [← isStart_iff_of_isHint closes, ← last, segment.start_iff, List.length_eq_zero_iff]
    refine ⟨front, hint, rfl, closes, alone.1, fun apart => ?_⟩
    have longer : 0 < front.length := List.length_pos_iff.2 fun empty => apart (alone.2 empty)
    exact (showsAt_append_left longer).1 starts

theorem ClosedBy.length_lt_two_iff {block front : List String} {hint : String}
    (closed : ClosedBy block front hint) : block.length < 2 ↔ PassesForTitle hint := by
  rw [closed.block_eq, List.length_append, List.length_singleton]
  constructor
  · intro short
    by_contra apart
    have longer := (closed.titled apart).lt_length
    omega
  · intro passes
    rw [closed.alone passes]
    exact Nat.one_lt_two

/-! Blocks of one line. -/

namespace Span
variable {lines : List String}

theorem cut_self {line : String} {place : Nat} (found : lines[place]? = some line) :
    cut ⟨place, place⟩ lines = [line] := by
  obtain ⟨inside, rfl⟩ := List.getElem?_eq_some_iff.1 found
  rw [cut, List.drop_take, Nat.add_sub_cancel_left, List.drop_eq_getElem_cons inside,
    List.take_succ_cons, List.take_zero]

theorem isBlock_self_iff {place : Nat} : IsBlock ⟨place, place⟩ lines ↔
    ∃ line, lines[place]? = some line ∧ isHint line = true ∧ PassesForTitle line := by
  have shows : ∀ test, ShowsAt test lines place ↔ ∃ line, lines[place]? = some line ∧
      test line = true := fun test => by rw [ShowsAt, Option.any_eq_true]
  constructor
  · intro block
    obtain ⟨line, found, hint⟩ := (shows isHint).1 block.1.1
    obtain ⟨same, again, starts⟩ := (shows isStart).1 block.2.1.2
    cases found.symm.trans again
    exact ⟨line, found, hint, (isStart_iff_of_isHint hint).1 starts⟩
  · rintro ⟨line, found, hint, passes⟩
    have starts : ShowsAt isStart lines place :=
      (shows isStart).2 ⟨line, found, (isStart_iff_of_isHint hint).2 passes⟩
    refine ⟨⟨(shows isHint).2 ⟨line, found, hint⟩, place, le_rfl, starts, ?_⟩,
      ⟨le_rfl, starts⟩, fun _ earlier => earlier.1⟩
    exact fun _ after before => absurd before (Nat.not_lt.2 after)

end Span

theorem answer_short_iff (fragments : List String) (last : Nat) (block : List String) :
    (Detector.answer fragments last = some block ∧ block.length < 2) ↔
      ∃ line, (fragments.map normalize)[last]? = some line ∧ block = [line] ∧
        isHint line = true ∧ PassesForTitle line := by
  rw [Detector.answer_iff]
  constructor
  · rintro ⟨⟨first, isBlock, rfl⟩, short⟩
    have whole : first = last := by
      have ordered : first ≤ last := isBlock.first_le_last
      rw [Span.length_cut isBlock.last_lt_length] at short
      dsimp only at short
      omega
    subst whole
    obtain ⟨line, found, facts⟩ := Span.isBlock_self_iff.1 isBlock
    exact ⟨line, found, Span.cut_self found, facts⟩
  · rintro ⟨line, found, rfl, facts⟩
    have isBlock := Span.isBlock_self_iff.2 ⟨line, found, facts⟩
    exact ⟨⟨last, isBlock, (Span.cut_self found).symm⟩, Nat.one_lt_two⟩

/-- A block is closed by its last line. It has a title before that line unless the line itself
passes for a title, and only then has it too few lines to be read. The answer to a fragment is such
a block exactly if the fragment is a hint that passes for a title, whatever was gathered before. -/
theorem blocks_closed_apart_from_title (fragments : List String) :
    (∀ block ∈ Detector.new.blocks fragments, ∃ front hint, ClosedBy block front hint ∧
      (block.length < 2 ↔ PassesForTitle hint) ∧
      ∀ lexicon, read lexicon block = .error .emptyBlock ↔ PassesForTitle hint) ∧
    ∀ last block, (Detector.answer fragments last = some block ∧ block.length < 2) ↔
      ∃ line, (fragments.map normalize)[last]? = some line ∧ block = [line] ∧
        isHint line = true ∧ PassesForTitle line := by
  refine ⟨fun block member => ?_, answer_short_iff fragments⟩
  obtain ⟨spans, blocks_eq, lists⟩ := Detector.exists_spans fragments
  rw [blocks_eq] at member
  obtain ⟨span, listed, rfl⟩ := List.mem_map.1 member
  obtain ⟨front, hint, closed⟩ := ((lists.mem_iff span).1 listed).isSegment.exists_closedBy
  have short := closed.length_lt_two_iff
  exact ⟨front, hint, closed, short, fun _ => read_eq_emptyBlock_iff.trans short⟩

/-! A hint closes the block of a helm, and the same in capitals then one of its own. -/

def twiceClosed : List String :=
  ["HARLEQUIN CREST", "Unique Helm", "Right Mouse Button", "RIGHT MOUSE BUTTON"]

theorem twiceClosed_apart_and_alone :
    ["HARLEQUIN CREST", "Unique Helm", "Right Mouse Button"] ∈ Detector.new.blocks twiceClosed ∧
    (∃ front hint,
      ClosedBy ["HARLEQUIN CREST", "Unique Helm", "Right Mouse Button"] front hint ∧
        ¬ PassesForTitle hint) ∧
    Detector.answer twiceClosed 3 = some ["RIGHT MOUSE BUTTON"] := by
  obtain ⟨closed, short⟩ := blocks_closed_apart_from_title twiceClosed
  have listed : ["HARLEQUIN CREST", "Unique Helm", "Right Mouse Button"] ∈
      Detector.new.blocks twiceClosed := by decide
  obtain ⟨front, hint, apart, length, _⟩ := closed _ listed
  refine ⟨listed, ⟨front, hint, apart, fun passes => absurd (length.2 passes) (by decide)⟩, ?_⟩
  exact ((short 3 _).2 ⟨"RIGHT MOUSE BUTTON", by decide, rfl, by decide, by decide⟩).1

/-- The helm before a hint in capitals is lost. -/
theorem helm_lost_to_capital_hint :
    Detector.new.blocks ["HARLEQUIN CREST", "Unique Helm", "RIGHT MOUSE BUTTON"] =
        [["RIGHT MOUSE BUTTON"]] ∧
      ∀ lexicon, read lexicon ["RIGHT MOUSE BUTTON"] = .error .emptyBlock :=
  ⟨by decide, fun _ => rfl⟩

end LootSieve.Feed
