import LootSieve.Feed.Detector
import Mathlib.Data.List.Induction
import Mathlib.Order.Bounds.Basic

/-!
Segmentation of a feed by its lines alone. A hint closes a block if a title stands before it with
no other hint between, and the block then begins with the nearest title. A detector reads one
fragment at a time and forgets what lies before a block, and yet it finds exactly these blocks: what
it holds back is the run of lines since the last hint, with nothing before that run but lines that
are no titles.
-/

namespace LootSieve.Feed

/-- The line at a place passes a test. -/
def ShowsAt (test : String → Bool) (lines : List String) (place : Nat) : Prop :=
  lines[place]?.any test = true

section ShowsAt
variable {test : String → Bool} {lines front back : List String} {place count : Nat}

theorem ShowsAt.lt_length (shows : ShowsAt test lines place) : place < lines.length := by
  by_contra outside
  rw [ShowsAt, List.getElem?_eq_none (by omega)] at shows
  cases shows

theorem ShowsAt.exists_mem (shows : ShowsAt test lines place) :
    ∃ line ∈ lines, test line = true := by
  have bound := shows.lt_length
  rw [ShowsAt, List.getElem?_eq_getElem bound] at shows
  exact ⟨lines[place], List.getElem_mem bound, shows⟩

theorem showsAt_append_left (inside : place < front.length) :
    ShowsAt test (front ++ back) place ↔ ShowsAt test front place := by
  rw [ShowsAt, ShowsAt, List.getElem?_append_left inside]

theorem showsAt_append_add :
    ShowsAt test (front ++ back) (front.length + place) ↔ ShowsAt test back place := by
  rw [ShowsAt, ShowsAt, List.getElem?_append_right (Nat.le_add_right _ _), Nat.add_sub_cancel_left]

theorem showsAt_concat {line : String} :
    ShowsAt test (front ++ [line]) front.length ↔ test line = true := by
  simp [ShowsAt]

theorem showsAt_take :
    ShowsAt test (lines.take count) place ↔ place < count ∧ ShowsAt test lines place := by
  by_cases inside : place < count
  · simp only [ShowsAt, List.getElem?_take_of_lt inside, inside, true_and]
  · simp only [ShowsAt, List.getElem?_take_eq_none (Nat.le_of_not_lt inside), inside, false_and,
      Option.any_none, Bool.false_eq_true]

theorem showsAt_drop :
    ShowsAt test (lines.drop count) place ↔ ShowsAt test lines (count + place) := by
  rw [ShowsAt, ShowsAt, List.getElem?_drop]

end ShowsAt

theorem lastStart?_eq_none_iff (lines : List String) :
    lastStart? lines = none ↔ ∀ line ∈ lines, isStart line = false := by
  induction lines with
  | nil => simp [lastStart?]
  | cons line rest ih =>
    cases found : lastStart? rest with
    | none =>
      rw [found, eq_self_iff_true, true_iff] at ih
      cases starts : isStart line
      · simpa [lastStart?, found, starts] using ih
      · simp [lastStart?, found, starts]
    | some place =>
      rw [found] at ih
      have later : ¬∀ line ∈ rest, isStart line = false := fun none => by cases ih.2 none
      simp only [lastStart?, found, reduceCtorEq, List.forall_mem_cons, false_iff, not_and]
      exact fun _ => later

theorem lastStart?_append (front back : List String) :
    lastStart? (front ++ back) =
      ((lastStart? back).map (front.length + ·)).or (lastStart? front) := by
  induction front with
  | nil => cases found : lastStart? back <;> simp [found, lastStart?]
  | cons line front ih =>
    cases found : lastStart? back with
    | none =>
      simp only [found, Option.map_none, Option.none_or] at ih
      simp only [List.cons_append, lastStart?, ih, Option.map_none, Option.none_or]
    | some place =>
      simp only [found, Option.map_some, Option.some_or] at ih
      simp only [List.cons_append, lastStart?, ih, Option.map_some, Option.some_or,
        List.length_cons, Nat.add_right_comm]

theorem isGreatest_lastStart? {lines : List String} {place : Nat}
    (found : lastStart? lines = some place) :
    IsGreatest {place | ShowsAt isStart lines place} place := by
  induction lines generalizing place with
  | nil => cases found
  | cons line rest ih =>
    cases later : lastStart? rest with
    | some before =>
      simp only [lastStart?, later, Option.some.injEq] at found
      subst found
      obtain ⟨shows, greatest⟩ := ih later
      refine ⟨shows, fun other otherShows => ?_⟩
      cases other with
      | zero => exact Nat.zero_le _
      | succ other => exact Nat.succ_le_succ (greatest otherShows)
    | none =>
      by_cases starts : isStart line = true
      · simp only [lastStart?, later, starts, if_true, Option.some.injEq] at found
        subst found
        refine ⟨starts, fun other otherShows => ?_⟩
        cases other with
        | zero => exact le_rfl
        | succ other =>
          have shows : ShowsAt isStart rest other := otherShows
          obtain ⟨line, member, passes⟩ := shows.exists_mem
          have fails := (lastStart?_eq_none_iff rest).1 later line member
          rw [passes] at fails
          cases fails
      · simp [lastStart?, later, starts] at found

theorem lastStart?_eq_some_iff {lines : List String} {place : Nat} :
    lastStart? lines = some place ↔ IsGreatest {place | ShowsAt isStart lines place} place := by
  refine ⟨isGreatest_lastStart?, fun greatest => ?_⟩
  cases found : lastStart? lines with
  | none =>
    obtain ⟨line, member, starts⟩ := ShowsAt.exists_mem greatest.1
    rw [(lastStart?_eq_none_iff lines).1 found line member] at starts
    cases starts
  | some other => rw [(isGreatest_lastStart? found).unique greatest]

/-- A hint closes a block at a place if a title stands before it and no other hint between. -/
def Closes (lines : List String) (last : Nat) : Prop :=
  ShowsAt isHint lines last ∧ ∃ first ≤ last, ShowsAt isStart lines first ∧
    ∀ place, first ≤ place → place < last → ¬ShowsAt isHint lines place

/-- A stretch of lines by the places of its first and its last. -/
structure Span where
  first : Nat
  last : Nat

namespace Span

def cut (span : Span) (lines : List String) : List String :=
  (lines.take (span.last + 1)).drop span.first

/-- The stretch ends where a block is closed and begins at the last title before that. -/
def IsBlock (span : Span) (lines : List String) : Prop :=
  Closes lines span.last ∧
    IsGreatest {place | place ≤ span.last ∧ ShowsAt isStart lines place} span.first

theorem showsAt_cut {test : String → Bool} {lines : List String} (span : Span) (place : Nat) :
    ShowsAt test (span.cut lines) place ↔
      span.first + place ≤ span.last ∧ ShowsAt test lines (span.first + place) := by
  rw [cut, showsAt_drop, showsAt_take, Nat.lt_succ_iff]

theorem length_cut {span : Span} {lines : List String} (inside : span.last < lines.length) :
    (span.cut lines).length = span.last + 1 - span.first := by
  rw [cut, List.length_drop, List.length_take, Nat.min_eq_left inside]

namespace IsBlock
variable {span : Span} {lines : List String}

theorem first_le_last (block : span.IsBlock lines) : span.first ≤ span.last := block.2.1.1

theorem last_lt_length (block : span.IsBlock lines) : span.last < lines.length :=
  block.1.1.lt_length

/-- No hint stands in a block before its last line. -/
theorem not_hint (block : span.IsBlock lines) {place : Nat} (after : span.first ≤ place)
    (before : place < span.last) : ¬ShowsAt isHint lines place := by
  obtain ⟨⟨_, first, firstBefore, shows, quiet⟩, _, greatest⟩ := block
  exact quiet place (Nat.le_trans (greatest ⟨firstBefore, shows⟩) after) before

theorem start_cut_iff (block : span.IsBlock lines) (place : Nat) :
    ShowsAt isStart (span.cut lines) place ↔ place = 0 := by
  rw [showsAt_cut]
  constructor
  · intro shows
    have bound : span.first + place ≤ span.first := block.2.2 shows
    omega
  · rintro rfl
    exact ⟨block.first_le_last, block.2.1.2⟩

theorem hint_cut_iff (block : span.IsBlock lines) (place : Nat) :
    ShowsAt isHint (span.cut lines) place ↔ place + 1 = (span.cut lines).length := by
  have order := block.first_le_last
  rw [showsAt_cut, length_cut block.last_lt_length]
  constructor
  · rintro ⟨inside, shows⟩
    by_contra apart
    exact block.not_hint (Nat.le_add_right _ _) (by omega) shows
  · intro last
    have place_eq : span.first + place = span.last := by omega
    rw [place_eq]
    exact ⟨le_rfl, block.1.1⟩

/-- Blocks cannot overlap: the hint that ends the earlier one would stand within the later. -/
theorem last_lt_first {other : Span} (block : span.IsBlock lines) (later : other.IsBlock lines)
    (order : span.last < other.last) : span.last < other.first := by
  by_contra overlap
  exact later.not_hint (Nat.le_of_not_lt overlap) order block.1.1

end IsBlock

/-- What is closed reaches back to the last title, since there is one. -/
theorem exists_isBlock_iff {lines : List String} {last : Nat} :
    (∃ first, IsBlock ⟨first, last⟩ lines) ↔ Closes lines last := by
  refine ⟨fun ⟨_, block⟩ => block.1, fun closes => ?_⟩
  have sets : {place | ShowsAt isStart (lines.take (last + 1)) place} =
      {place | place ≤ last ∧ ShowsAt isStart lines place} :=
    Set.ext fun place => by rw [Set.mem_ofPred, showsAt_take, Nat.lt_succ_iff, Set.mem_ofPred]
  obtain ⟨_, first, before, starts, _⟩ := id closes
  have shows : ShowsAt isStart (lines.take (last + 1)) first :=
    showsAt_take.2 ⟨Nat.lt_succ_of_le before, starts⟩
  cases found : lastStart? (lines.take (last + 1)) with
  | none =>
    obtain ⟨line, member, passes⟩ := shows.exists_mem
    rw [(lastStart?_eq_none_iff _).1 found line member] at passes
    cases passes
  | some greatest => exact ⟨greatest, closes, sets ▸ isGreatest_lastStart? found⟩

/-- Whether a stretch is a block does not depend on lines after it. -/
theorem isBlock_append_iff {span : Span} {front : List String} (back : List String)
    (inside : span.last < front.length) : span.IsBlock (front ++ back) ↔ span.IsBlock front := by
  have same : ∀ (test : String → Bool) (place : Nat), place ≤ span.last →
      (ShowsAt test (front ++ back) place ↔ ShowsAt test front place) :=
    fun test place before => showsAt_append_left (Nat.lt_of_le_of_lt before inside)
  have closes : Closes (front ++ back) span.last ↔ Closes front span.last := by
    refine and_congr (same isHint span.last le_rfl) (exists_congr fun first =>
      and_congr_right fun before => and_congr (same isStart first before) ?_)
    refine forall_congr' fun place => forall_congr' fun _ => forall_congr' fun earlier => ?_
    exact not_congr (same isHint place (Nat.le_of_lt earlier))
  have starts : {place | place ≤ span.last ∧ ShowsAt isStart (front ++ back) place} =
      {place | place ≤ span.last ∧ ShowsAt isStart front place} :=
    Set.ext fun place => and_congr_right (same isStart place)
  rw [IsBlock, IsBlock, closes, starts]

theorem cut_append {span : Span} {front : List String} (back : List String)
    (inside : span.last < front.length) : span.cut (front ++ back) = span.cut front := by
  rw [cut, cut, List.take_append_of_le_length inside]

/-- A new line leaves the blocks before it and may close one more. -/
theorem isBlock_concat_iff {span : Span} {lines : List String} (line : String) :
    span.IsBlock (lines ++ [line]) ↔
      span.IsBlock lines ∨ span.last = lines.length ∧ span.IsBlock (lines ++ [line]) := by
  constructor
  · intro block
    have bound := block.last_lt_length
    rw [List.length_append, List.length_singleton] at bound
    by_cases inside : span.last < lines.length
    · exact .inl ((isBlock_append_iff [line] inside).1 block)
    · exact .inr ⟨by omega, block⟩
  · rintro (block | ⟨_, block⟩)
    · exact (isBlock_append_iff [line] block.last_lt_length).2 block
    · exact block

/-- All blocks of some lines in order, none of them overlapping. -/
structure Lists (spans : List Span) (lines : List String) : Prop where
  mem_iff : ∀ span, span ∈ spans ↔ span.IsBlock lines
  ordered : spans.Pairwise fun earlier later => earlier.last < later.first

theorem lists_nil : Lists [] [] where
  mem_iff _ := iff_of_false List.not_mem_nil fun block => Nat.not_lt_zero _ block.last_lt_length
  ordered := .nil

namespace Lists
variable {spans : List Span} {lines : List String} {line : String}

theorem map_cut_concat (lists : Lists spans lines) (line : String) :
    spans.map (·.cut (lines ++ [line])) = spans.map (·.cut lines) :=
  List.map_congr_left fun span member =>
    cut_append [line] ((lists.mem_iff span).1 member).last_lt_length

theorem skip (lists : Lists spans lines)
    (quiet : ∀ first, ¬IsBlock ⟨first, lines.length⟩ (lines ++ [line])) :
    Lists spans (lines ++ [line]) where
  mem_iff span := by
    rw [lists.mem_iff, isBlock_concat_iff, or_iff_left]
    rintro ⟨last_eq, block⟩
    exact quiet span.first (last_eq ▸ block)
  ordered := lists.ordered

theorem close (lists : Lists spans lines) {first : Nat}
    (block : IsBlock ⟨first, lines.length⟩ (lines ++ [line])) :
    Lists (spans ++ [⟨first, lines.length⟩]) (lines ++ [line]) where
  mem_iff span := by
    rw [List.mem_append, List.mem_singleton, lists.mem_iff, isBlock_concat_iff]
    refine or_congr_right ⟨?_, ?_⟩
    · rintro rfl
      exact ⟨rfl, block⟩
    · rintro ⟨last_eq, other⟩
      have first_eq : span.first = first := (last_eq ▸ other.2).unique block.2
      rw [← first_eq, ← last_eq]
  ordered := by
    refine List.pairwise_append.2 ⟨lists.ordered, List.pairwise_singleton _ _, ?_⟩
    intro earlier member later isLast
    obtain rfl := List.mem_singleton.1 isLast
    have old := (lists.mem_iff earlier).1 member
    exact ((isBlock_append_iff [line] old.last_lt_length).2 old).last_lt_first block
      old.last_lt_length

end Lists

/-- The last title of a stretch that ends the lines is the last of all lines. -/
theorem isGreatest_start_append {past window : List String} {last place : Nat}
    (size : past.length + window.length = last + 1) :
    IsGreatest {place | place ≤ last ∧ ShowsAt isStart (past ++ window) place}
        (past.length + place) ↔
      IsGreatest {place | ShowsAt isStart window place} place := by
  constructor
  · rintro ⟨⟨_, shows⟩, greatest⟩
    refine ⟨showsAt_append_add.1 shows, fun other otherShows => ?_⟩
    have bound := ShowsAt.lt_length otherShows
    have before : past.length + other ≤ past.length + place :=
      greatest ⟨by omega, showsAt_append_add.2 otherShows⟩
    omega
  · rintro ⟨shows, greatest⟩
    have bound := ShowsAt.lt_length shows
    refine ⟨⟨by omega, showsAt_append_add.2 shows⟩, ?_⟩
    rintro other ⟨_, otherShows⟩
    by_cases early : other < past.length
    · omega
    · obtain ⟨inner, rfl⟩ := Nat.exists_eq_add_of_le (Nat.le_of_not_lt early)
      have before : inner ≤ place := greatest (showsAt_append_add.1 otherShows)
      omega

end Span

namespace Detector

/-- The detector after a sequence of fragments. -/
def after (detector : Detector) (fragments : List String) : Detector :=
  fragments.foldl (fun detector fragment => (detector.take fragment).2) detector

/-- What a new detector answers to the fragment at a place when it is given all of them in order. -/
def answer (fragments : List String) (place : Nat) : Option (List String) :=
  fragments[place]?.bind fun fragment => ((new.after (fragments.take place)).take fragment).1

theorem after_cons (detector : Detector) (fragment : String) (rest : List String) :
    detector.after (fragment :: rest) = (detector.take fragment).2.after rest := by
  rw [after, List.foldl_cons, ← after]

theorem after_concat (detector : Detector) (fragments : List String) (fragment : String) :
    detector.after (fragments ++ [fragment]) = ((detector.after fragments).take fragment).2 := by
  simp only [after, List.foldl_append, List.foldl_cons, List.foldl_nil]

theorem blocks_cons (detector : Detector) (fragment : String) (rest : List String) :
    detector.blocks (fragment :: rest) =
      (detector.take fragment).1.toList ++ (detector.take fragment).2.blocks rest := by
  simp only [blocks]

theorem blocks_append (detector : Detector) (front back : List String) :
    detector.blocks (front ++ back) =
      detector.blocks front ++ (detector.after front).blocks back := by
  induction front generalizing detector with
  | nil => rfl
  | cons fragment front ih =>
    rw [List.cons_append, blocks_cons, blocks_cons, ih, List.append_assoc, after_cons]

theorem blocks_concat (detector : Detector) (fragments : List String) (fragment : String) :
    detector.blocks (fragments ++ [fragment]) =
      detector.blocks fragments ++ ((detector.after fragments).take fragment).1.toList := by
  rw [blocks_append, blocks_cons, blocks, List.append_nil]

/-- What is held back of the lines seen: those since the last hint, which ended `past`, and before
them some lines that are no titles. -/
structure Holds (held lines past noise recent : List String) : Prop where
  held_eq : held = noise ++ recent
  lines_eq : lines = past ++ recent
  past_ends : past = [] ∨ ∃ before hint, past = before ++ [hint] ∧ isHint hint = true
  no_start : ∀ line ∈ noise, isStart line = false
  no_hint : ∀ line ∈ recent, isHint line = false

namespace Holds
variable {detector : Detector} {held lines past noise recent : List String}

/-- Only titles since the last hint count for the answer. -/
theorem answer_eq (holds : Holds detector.pending lines past noise recent) (fragment : String) :
    (detector.take fragment).1 =
      if isHint (normalize fragment) then
        (lastStart? (recent ++ [normalize fragment])).map (recent ++ [normalize fragment]).drop
      else none := by
  have noNoise : lastStart? noise = none := (lastStart?_eq_none_iff noise).2 holds.no_start
  by_cases hint : isHint (normalize fragment) = true
  · simp only [take, hint, if_true, holds.held_eq, List.append_assoc, lastStart?_append noise,
      noNoise, Option.or_none]
    cases lastStart? (recent ++ [normalize fragment]) with
    | none => rfl
    | some place =>
      simp only [Option.map_some, Option.some.injEq]
      exact List.drop_length_add_append place
  · simp only [take, hint, Bool.false_eq_true, if_false]

theorem next (holds : Holds detector.pending lines past noise recent) (fragment : String) :
    ∃ past noise recent, Holds (detector.take fragment).2.pending (lines ++ [normalize fragment])
      past noise recent := by
  have noNoise : lastStart? noise = none := (lastStart?_eq_none_iff noise).2 holds.no_start
  by_cases hint : isHint (normalize fragment) = true
  · have ends : lines ++ [normalize fragment] = [] ∨ ∃ before hint,
        lines ++ [normalize fragment] = before ++ [hint] ∧ isHint hint = true :=
      .inr ⟨lines, normalize fragment, rfl, hint⟩
    cases found : lastStart? (detector.pending ++ [normalize fragment]) with
    | some place =>
      have state : (detector.take fragment).2.pending = [] := by
        simp only [take, hint, if_true, found, new]
      exact ⟨lines ++ [normalize fragment], [], [], state, (List.append_nil _).symm, ends,
        by simp, by simp⟩
    | none =>
      have state : (detector.take fragment).2.pending =
          detector.pending ++ [normalize fragment] := by
        simp only [take, hint, if_true, found]
      exact ⟨lines ++ [normalize fragment], detector.pending ++ [normalize fragment], [],
        by rw [state, List.append_nil], (List.append_nil _).symm, ends,
        (lastStart?_eq_none_iff _).1 found, by simp⟩
  · have state : (detector.take fragment).2.pending = detector.pending ++ [normalize fragment] := by
      simp only [take, hint, Bool.false_eq_true, if_false]
    refine ⟨past, noise, recent ++ [normalize fragment], ?_, ?_, holds.past_ends,
      holds.no_start, ?_⟩
    · rw [state, holds.held_eq, List.append_assoc]
    · rw [holds.lines_eq, List.append_assoc]
    · intro line member
      rcases List.mem_append.1 member with old | new
      · exact holds.no_hint line old
      · rw [List.mem_singleton.1 new]
        exact Bool.eq_false_of_not_eq_true hint

theorem length_eq (holds : Holds held lines past noise recent) :
    lines.length = past.length + recent.length := by
  rw [holds.lines_eq, List.length_append]

/-- A block that ends with the next line begins after the last hint. -/
theorem past_length_le (holds : Holds held lines past noise recent) {line : String} {first : Nat}
    (block : Span.IsBlock ⟨first, lines.length⟩ (lines ++ [line])) : past.length ≤ first := by
  by_contra early
  rcases holds.past_ends with empty | ⟨before, hint, ends, closes⟩
  · rw [empty] at early
    exact early (Nat.zero_le _)
  · have size : past.length = before.length + 1 := by rw [ends, List.length_append]; rfl
    have longer := holds.length_eq
    have shows : ShowsAt isHint (lines ++ [line]) before.length := by
      rw [holds.lines_eq, List.append_assoc, showsAt_append_left (by omega), ends]
      exact showsAt_concat.2 closes
    exact block.not_hint (by change first ≤ before.length; omega)
      (by change before.length < lines.length; omega) shows

theorem isBlock_iff (holds : Holds held lines past noise recent) (line : String) (first : Nat) :
    Span.IsBlock ⟨first, lines.length⟩ (lines ++ [line]) ↔
      isHint line = true ∧
        ∃ place, first = past.length + place ∧ lastStart? (recent ++ [line]) = some place := by
  have size : past.length + (recent ++ [line]).length = lines.length + 1 := by
    rw [holds.length_eq, List.length_append, Nat.add_assoc]
    rfl
  have whole : lines ++ [line] = past ++ (recent ++ [line]) := by
    rw [holds.lines_eq, List.append_assoc]
  constructor
  · intro block
    obtain ⟨place, first_eq⟩ := Nat.exists_eq_add_of_le (holds.past_length_le block)
    refine ⟨showsAt_concat.1 block.1.1, place, first_eq, lastStart?_eq_some_iff.2 ?_⟩
    have greatest := block.2
    rw [whole, first_eq] at greatest
    exact (Span.isGreatest_start_append size).1 greatest
  · rintro ⟨hint, place, rfl, found⟩
    have greatest := (Span.isGreatest_start_append size).2 (isGreatest_lastStart? found)
    rw [← whole] at greatest
    refine ⟨⟨showsAt_concat.2 hint, past.length + place, greatest.1.1, greatest.1.2, ?_⟩, greatest⟩
    intro other after before shows
    obtain ⟨inner, rfl⟩ := Nat.exists_eq_add_of_le (Nat.le_trans (Nat.le_add_right _ place) after)
    have length_eq := holds.length_eq
    have inside : inner < recent.length := by
      change past.length + inner < lines.length at before
      omega
    rw [whole, showsAt_append_add, showsAt_append_left inside] at shows
    obtain ⟨other, member, closes⟩ := shows.exists_mem
    rw [holds.no_hint other member] at closes
    cases closes

theorem cut_eq (holds : Holds held lines past noise recent) (line : String) (place : Nat) :
    Span.cut ⟨past.length + place, lines.length⟩ (lines ++ [line]) =
      (recent ++ [line]).drop place := by
  have whole : lines ++ [line] = past ++ (recent ++ [line]) := by
    rw [holds.lines_eq, List.append_assoc]
  rw [Span.cut, List.take_of_length_le (by simp), whole]
  exact List.drop_length_add_append place

/-- The next answer is the block that ends with the next line. -/
theorem answer_eq_some_iff (holds : Holds detector.pending lines past noise recent)
    (fragment : String) (block : List String) :
    (detector.take fragment).1 = some block ↔
      ∃ first, Span.IsBlock ⟨first, lines.length⟩ (lines ++ [normalize fragment]) ∧
        block = Span.cut ⟨first, lines.length⟩ (lines ++ [normalize fragment]) := by
  rw [holds.answer_eq]
  constructor
  · intro answers
    obtain ⟨hint, mapped⟩ := Option.ite_none_right_eq_some.1 answers
    obtain ⟨place, found, rfl⟩ := Option.map_eq_some_iff.1 mapped
    exact ⟨past.length + place, (holds.isBlock_iff _ _).2 ⟨hint, place, rfl, found⟩,
      (holds.cut_eq _ place).symm⟩
  · rintro ⟨first, isBlock, rfl⟩
    obtain ⟨hint, place, rfl, found⟩ := (holds.isBlock_iff _ _).1 isBlock
    rw [if_pos hint, found, Option.map_some, holds.cut_eq]

end Holds

theorem holds_after (fragments : List String) :
    ∃ past noise recent, Holds (new.after fragments).pending (fragments.map normalize)
      past noise recent := by
  induction fragments using List.reverseRecOn with
  | nil => exact ⟨[], [], [], rfl, rfl, .inl rfl, by simp, by simp⟩
  | append_singleton fragments fragment ih =>
    obtain ⟨past, noise, recent, holds⟩ := ih
    rw [after_concat, List.map_append]
    exact holds.next fragment

/-- An answer is the block that ends with the line answered to, whatever comes after it. -/
theorem answer_iff (fragments : List String) (last : Nat) (block : List String) :
    answer fragments last = some block ↔
      ∃ first, Span.IsBlock ⟨first, last⟩ (fragments.map normalize) ∧
        block = Span.cut ⟨first, last⟩ (fragments.map normalize) := by
  by_cases inside : last < fragments.length
  · obtain ⟨past, noise, recent, holds⟩ := holds_after (fragments.take last)
    have size : ((fragments.take last).map normalize).length = last := by
      rw [List.length_map, List.length_take, Nat.min_eq_left (Nat.le_of_lt inside)]
    have whole : fragments.map normalize = ((fragments.take last).map normalize ++
        [normalize fragments[last]]) ++ (fragments.drop (last + 1)).map normalize := by
      rw [← List.map_singleton, ← List.map_append, ← List.map_append,
        List.take_append_getElem inside, List.take_append_drop]
    have bound : ∀ first, (Span.mk first last).last < ((fragments.take last).map normalize ++
        [normalize fragments[last]]).length := fun _ => by
      rw [List.length_append, size]
      exact Nat.lt_succ_self last
    rw [answer, List.getElem?_eq_getElem inside, Option.bind_some, holds.answer_eq_some_iff, size,
      whole]
    simp only [Span.isBlock_append_iff _ (bound _), Span.cut_append _ (bound _)]
  · rw [answer, List.getElem?_eq_none (Nat.le_of_not_lt inside), Option.bind_none]
    refine iff_of_false (fun absurd => by cases absurd) ?_
    rintro ⟨first, isBlock, _⟩
    have bound := isBlock.last_lt_length
    rw [List.length_map] at bound
    exact inside bound

theorem isSome_answer_iff (fragments : List String) (last : Nat) :
    (answer fragments last).isSome = true ↔ Closes (fragments.map normalize) last := by
  rw [Option.isSome_iff_exists, ← Span.exists_isBlock_iff]
  constructor
  · rintro ⟨block, answered⟩
    obtain ⟨first, isBlock, _⟩ := (answer_iff fragments last block).1 answered
    exact ⟨first, isBlock⟩
  · rintro ⟨first, isBlock⟩
    exact ⟨_, (answer_iff fragments last _).2 ⟨first, isBlock, rfl⟩⟩

/-- The blocks of a whole feed in order, each with its place. -/
theorem exists_spans (fragments : List String) :
    ∃ spans : List Span,
      new.blocks fragments = spans.map (·.cut (fragments.map normalize)) ∧
        Span.Lists spans (fragments.map normalize) := by
  induction fragments using List.reverseRecOn with
  | nil => exact ⟨[], rfl, Span.lists_nil⟩
  | append_singleton fragments fragment ih =>
    obtain ⟨spans, blocks_eq, lists⟩ := ih
    obtain ⟨past, noise, recent, holds⟩ := holds_after fragments
    rw [blocks_concat, blocks_eq, List.map_append, List.map_singleton]
    cases answered : ((new.after fragments).take fragment).1 with
    | none =>
      refine ⟨spans, ?_, lists.skip fun first block => ?_⟩
      · rw [lists.map_cut_concat, Option.toList_none, List.append_nil]
      · rw [(holds.answer_eq_some_iff fragment _).2 ⟨first, block, rfl⟩] at answered
        cases answered
    | some block =>
      obtain ⟨first, isBlock, rfl⟩ := (holds.answer_eq_some_iff fragment _).1 answered
      refine ⟨spans ++ [⟨first, (fragments.map normalize).length⟩], ?_, lists.close isBlock⟩
      rw [List.map_append, lists.map_cut_concat]
      rfl

end Detector

/-- Segmentation without a detector. A fragment is answered with a block exactly if its line closes
one, and the block then reaches from the last title to that line; it holds no other title and no
other hint. The blocks of a whole feed are these stretches in order, and they do not overlap. -/
theorem blocks_are_segments (fragments : List String) :
    (∀ last, (Detector.answer fragments last).isSome = true ↔
      Closes (fragments.map normalize) last) ∧
    (∀ last block, Detector.answer fragments last = some block ↔
      ∃ first, Span.IsBlock ⟨first, last⟩ (fragments.map normalize) ∧
        block = Span.cut ⟨first, last⟩ (fragments.map normalize)) ∧
    ∃ spans : List Span,
      Detector.new.blocks fragments = spans.map (·.cut (fragments.map normalize)) ∧
      (∀ span, span ∈ spans ↔ span.IsBlock (fragments.map normalize)) ∧
      (spans.Pairwise fun earlier later => earlier.last < later.first) ∧
      ∀ block ∈ Detector.new.blocks fragments, ∀ place,
        (ShowsAt isStart block place ↔ place = 0) ∧
          (ShowsAt isHint block place ↔ place + 1 = block.length) := by
  refine ⟨Detector.isSome_answer_iff fragments, Detector.answer_iff fragments, ?_⟩
  obtain ⟨spans, blocks_eq, lists⟩ := Detector.exists_spans fragments
  refine ⟨spans, blocks_eq, lists.mem_iff, lists.ordered, fun block member place => ?_⟩
  rw [blocks_eq] at member
  obtain ⟨span, listed, rfl⟩ := List.mem_map.1 member
  have isBlock := (lists.mem_iff span).1 listed
  exact ⟨isBlock.start_cut_iff place, isBlock.hint_cut_iff place⟩

/-- A hint before any title is noise and stays out of the block that follows. -/
theorem segment_after_noise :
    ["ROYAL RUBY", "Right mouse button"] ∈ Detector.new.blocks
        ["press the mouse button", "ROYAL RUBY", "Right mouse button"] ∧
      ∀ place, (ShowsAt isStart ["ROYAL RUBY", "Right mouse button"] place ↔ place = 0) ∧
        (ShowsAt isHint ["ROYAL RUBY", "Right mouse button"] place ↔ place + 1 = 2) := by
  have listed : ["ROYAL RUBY", "Right mouse button"] ∈ Detector.new.blocks
      ["press the mouse button", "ROYAL RUBY", "Right mouse button"] := by decide
  obtain ⟨_, _, _, _, _, _, shape⟩ :=
    blocks_are_segments ["press the mouse button", "ROYAL RUBY", "Right mouse button"]
  exact ⟨listed, shape _ listed⟩

end LootSieve.Feed
