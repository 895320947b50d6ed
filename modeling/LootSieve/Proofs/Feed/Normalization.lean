import LootSieve.Proofs.Feed.ClosingHints
import LootSieve.Proofs.Text.Interruption
import LootSieve.Proofs.Text.Trimming

/-!
Lines of a feed that are normalized again. Normalization takes every artifact out of a fragment, but
in one pass. Where artifacts stood between the characters of another one, that one comes together
only then and stays in the line. So a line is normalized for good, and a block that is fed to a
detector once more comes back as it was, exactly if no artifact was broken up like this.
-/

namespace LootSieve.Feed
open Text

def artifactTexts : List (List Char) := artifacts.map String.toList

def HoldsArtifact (line : String) : Prop := ∃ artifact ∈ artifactTexts, artifact <:+: line.toList

/-- Other artifacts stand between the characters of an artifact, so it cannot be erased with them.
If it ends with a blank, something must follow or that blank is trimmed. -/
structure BreaksUp (fragment : String) (front artifact stretch back : List Char) : Prop where
  known : artifact ∈ artifactTexts
  whole : fragment.toList = front ++ (stretch ++ back)
  interrupted : Interrupted artifactTexts artifact stretch
  apart : stretch ≠ artifact
  stays : (∀ char ∈ artifact.getLast?, isBlank char = false) ∨ normalize (String.ofList back) ≠ ""

def HoldsBrokenArtifact (fragment : String) : Prop :=
  ∃ front artifact stretch back, BreaksUp fragment front artifact stretch back

theorem artifactWidth_of_isPrefix {artifact text : List Char} (known : artifact ∈ artifactTexts)
    (found : artifact <+: text) : artifactWidth text = artifact.length := by
  have distinct : ∀ one ∈ artifactTexts, ∀ other ∈ artifactTexts, one <+: other → one = other := by
    decide
  unfold artifactWidth
  split
  · next first search =>
    have member : first.toList ∈ artifactTexts :=
      List.mem_map_of_mem (List.mem_of_find?_eq_some search)
    have matched := List.find?_some search
    have within := List.isPrefixOf_iff_prefix.1 matched
    have same : artifact = first.toList := by
      rcases List.prefix_or_prefix_of_prefix found within with shorter | longer
      · exact distinct _ known _ member shorter
      · exact (distinct _ member _ known longer).symm
    rw [same, String.length_toList]
  · next search =>
    obtain ⟨first, member, rfl⟩ := List.mem_map.1 known
    exact absurd (List.isPrefixOf_iff_prefix.2 found) (List.find?_eq_none.1 search first member)

theorem artifactWidth_eq_zero {text : List Char}
    (none : ∀ artifact ∈ artifactTexts, ¬ artifact <+: text) : artifactWidth text = 0 := by
  unfold artifactWidth
  split
  · next first search =>
    have matched := List.find?_some search
    have member : first.toList ∈ artifactTexts :=
      List.mem_map_of_mem (List.mem_of_find?_eq_some search)
    exact absurd (List.isPrefixOf_iff_prefix.1 matched) (none _ member)
  · rfl

theorem measures_artifactWidth : Measures artifactWidth artifactTexts where
  nonempty := by decide
  plain_tail := by decide
  matched _ known rest := artifactWidth_of_isPrefix known (List.prefix_append _ rest)
  unmatched _ none := artifactWidth_eq_zero none

theorem toList_normalize (fragment : String) :
    (normalize fragment).toList = trim (eraseMatches artifactWidth 0 fragment.toList) :=
  String.toList_ofList

theorem normalize_ofList_eq_empty_iff {text : List Char} :
    normalize (String.ofList text) = "" ↔ trim (eraseMatches artifactWidth 0 text) = [] := by
  rw [← String.toList_inj, toList_normalize, String.toList_ofList]
  rfl

theorem head?_artifact {artifact : List Char} (known : artifact ∈ artifactTexts) :
    ∀ char ∈ artifact.head?, isBlank char = false := by
  have opens : ∀ artifact ∈ artifactTexts, trimStart artifact = artifact := by decide
  exact opens artifact known ▸ head?_trimStart artifact

theorem isInfix_normalize_iff {artifact : List Char} (known : artifact ∈ artifactTexts)
    (fragment : String) : artifact <:+: (normalize fragment).toList ↔
      ∃ front stretch back, BreaksUp fragment front artifact stretch back := by
  have nonempty := measures_artifactWidth.nonempty artifact known
  rw [toList_normalize, isInfix_trim_iff nonempty (head?_artifact known)]
  constructor
  · rintro ⟨front, more, left, stays⟩
    obtain ⟨before, stretch, back, whole, interrupted, apart, rest⟩ :=
      (measures_artifactWidth.leaves_phrase_iff known).1 ⟨front, left⟩
    rw [← rest] at stays
    exact ⟨before, stretch, back, known, whole, interrupted, apart,
      stays.imp_right (mt normalize_ofList_eq_empty_iff.1)⟩
  · rintro ⟨before, stretch, back, _, whole, interrupted, apart, stays⟩
    obtain ⟨front, left⟩ := (measures_artifactWidth.leaves_phrase_iff known).2
      ⟨before, stretch, back, whole, interrupted, apart, rfl⟩
    exact ⟨front, _, left, stays.imp_right (mt normalize_ofList_eq_empty_iff.2)⟩

theorem holdsArtifact_normalize_iff (fragment : String) :
    HoldsArtifact (normalize fragment) ↔ HoldsBrokenArtifact fragment := by
  constructor
  · rintro ⟨artifact, known, inside⟩
    obtain ⟨front, stretch, back, breaks⟩ := (isInfix_normalize_iff known fragment).1 inside
    exact ⟨front, artifact, stretch, back, breaks⟩
  · rintro ⟨front, artifact, stretch, back, breaks⟩
    have inside := (isInfix_normalize_iff breaks.known fragment).2 ⟨front, stretch, back, breaks⟩
    exact ⟨artifact, breaks.known, inside⟩

/-- Normalization changes a normalized line exactly if it finds an artifact there. -/
theorem normalize_normalize_iff (fragment : String) :
    normalize (normalize fragment) = normalize fragment ↔ ¬ HoldsArtifact (normalize fragment) := by
  have none : ¬ HoldsArtifact (normalize fragment) ↔
      ∀ artifact ∈ artifactTexts, ¬ artifact <:+: (normalize fragment).toList := by
    simp only [HoldsArtifact, not_exists, not_and]
  rw [none, ← measures_artifactWidth.erase_eq_self_iff, ← String.toList_inj, toList_normalize]
  have trimmed : trim (normalize fragment).toList = (normalize fragment).toList := by
    rw [toList_normalize, trim_trim]
  constructor
  · intro same
    have within : (eraseMatches artifactWidth 0 (normalize fragment).toList).Sublist _ :=
      eraseMatches_sublist 0 _
    refine within.eq_of_length_le ?_
    calc (normalize fragment).toList.length
        = (trim (eraseMatches artifactWidth 0 (normalize fragment).toList)).length := by rw [same]
      _ ≤ _ := (trim_sublist _).length_le
  · intro same
    rw [same, trimmed]

theorem normalize_normalize_iff_not_broken (fragment : String) :
    normalize (normalize fragment) = normalize fragment ↔ ¬ HoldsBrokenArtifact fragment :=
  (normalize_normalize_iff fragment).trans (not_congr (holdsArtifact_normalize_iff fragment))

/-! Blocks that are fed to a detector once more. -/

namespace Span

theorem cut_map (change : String → String) (span : Span) (lines : List String) :
    span.cut (lines.map change) = (span.cut lines).map change := by
  simp only [cut, List.map_drop, List.map_take]

theorem cut_isInfix (span : Span) (lines : List String) : span.cut lines <:+: lines :=
  (List.drop_suffix span.first _).isInfix.trans (List.take_prefix _ lines).isInfix

/-- A block that is the only one is listed once, for listed blocks do not overlap. -/
theorem Lists.eq_singleton {spans : List Span} {lines : List String} {only : Span}
    (lists : Lists spans lines) (unique : ∀ span : Span, span.IsBlock lines ↔ span = only) :
    spans = [only] := by
  have block : only.IsBlock lines := (unique only).2 rfl
  have listed : only ∈ spans := (lists.mem_iff only).2 block
  have repeated : spans = List.replicate spans.length only :=
    List.eq_replicate_of_mem fun span member => (unique span).1 ((lists.mem_iff span).1 member)
  have apart := lists.ordered
  rw [repeated, List.pairwise_replicate] at apart
  have few : spans.length ≤ 1 := apart.resolve_right (Nat.not_lt.2 block.first_le_last)
  have some : 0 < spans.length := List.length_pos_of_mem listed
  rw [repeated, Nat.le_antisymm few some]
  rfl

end Span

namespace IsSegment
variable {block : List String} (segment : IsSegment block)
include segment

theorem isBlock_iff (span : Span) : span.IsBlock block ↔ span = ⟨0, block.length - 1⟩ := by
  have starts : ShowsAt isStart block 0 := (segment.start_iff 0).2 rfl
  have long : 0 < block.length := starts.lt_length
  constructor
  · intro isBlock
    have first := (segment.start_iff _).1 isBlock.2.1.2
    have last := (segment.hint_iff _).1 isBlock.1.1
    rw [← first, ← last, Nat.add_sub_cancel]
  · rintro rfl
    have closes : ShowsAt isHint block (block.length - 1) :=
      (segment.hint_iff _).2 (Nat.sub_add_cancel long)
    refine ⟨⟨closes, 0, Nat.zero_le _, starts, ?_⟩, ⟨Nat.zero_le _, starts⟩, ?_⟩
    · intro place _ before shows
      have last := (segment.hint_iff place).1 shows
      dsimp only at before
      omega
    · rintro place ⟨_, shows⟩
      exact ((segment.start_iff place).1 shows).le

theorem blocks_eq (same : block.map normalize = block) : Detector.new.blocks block = [block] := by
  have long : 0 < block.length := ((segment.start_iff 0).2 rfl).lt_length
  obtain ⟨spans, blocks_eq, lists⟩ := Detector.exists_spans block
  rw [same] at blocks_eq lists
  rw [blocks_eq, lists.eq_singleton segment.isBlock_iff, List.map_singleton, Span.cut,
    Nat.sub_add_cancel long, List.take_length, List.drop_zero]

/-- A detector gives a block back exactly if its lines are normalized already. -/
theorem blocks_eq_iff : Detector.new.blocks block = [block] ↔ block.map normalize = block := by
  refine ⟨fun again => ?_, segment.blocks_eq⟩
  obtain ⟨spans, blocks_eq, _⟩ := Detector.exists_spans block
  have listed : block ∈ spans.map (·.cut (block.map normalize)) := by
    rw [← blocks_eq, again]
    exact List.mem_singleton_self block
  obtain ⟨span, _, cut_eq⟩ := List.mem_map.1 listed
  have within := span.cut_isInfix (block.map normalize)
  rw [cut_eq] at within
  exact (within.eq_of_length (List.length_map ..).symm).symm

end IsSegment

/-- A block is made of a run of fragments. It is the same when it is normalized again, or fed to a
new detector, unless one of them has an artifact broken up. -/
theorem exists_piece_of_mem_blocks {fragments block : List String}
    (member : block ∈ Detector.new.blocks fragments) :
    ∃ piece, piece <:+: fragments ∧ block = piece.map normalize ∧
      (block.map normalize = block ↔ ∀ fragment ∈ piece, ¬ HoldsBrokenArtifact fragment) ∧
      (Detector.new.blocks block = [block] ↔
        ∀ fragment ∈ piece, ¬ HoldsBrokenArtifact fragment) := by
  obtain ⟨spans, blocks_eq, lists⟩ := Detector.exists_spans fragments
  rw [blocks_eq] at member
  obtain ⟨span, listed, rfl⟩ := List.mem_map.1 member
  have segment := ((lists.mem_iff span).1 listed).isSegment
  have same : (span.cut (fragments.map normalize)).map normalize =
      span.cut (fragments.map normalize) ↔
        ∀ fragment ∈ span.cut fragments, ¬ HoldsBrokenArtifact fragment := by
    rw [Span.cut_map, List.map_map, List.map_inj_left]
    exact forall₂_congr fun fragment _ => normalize_normalize_iff_not_broken fragment
  exact ⟨span.cut fragments, span.cut_isInfix fragments, span.cut_map normalize fragments, same,
    segment.blocks_eq_iff.trans same⟩

/-- A normalized line is the fragment without the artifacts that stand in it and without blanks at
its ends. It is free of artifacts, and is the same when it is normalized again, exactly if no
artifact was broken up by others in the fragment. So a block that is fed to a new detector comes
back with the same lines exactly if that holds of its fragments. -/
theorem normalized_for_good_iff (fragment : String) (fragments : List String) :
    ((∃ kept, Leaves artifactTexts fragment.toList kept ∧
        (normalize fragment).toList = trim kept) ∧
      (∀ char ∈ (normalize fragment).toList.head?, isBlank char = false) ∧
      (∀ char ∈ (normalize fragment).toList.getLast?, isBlank char = false) ∧
      (HoldsArtifact (normalize fragment) ↔ HoldsBrokenArtifact fragment) ∧
      (normalize (normalize fragment) = normalize fragment ↔ ¬ HoldsBrokenArtifact fragment)) ∧
    ∀ block ∈ Detector.new.blocks fragments,
      ∃ piece, piece <:+: fragments ∧ block = piece.map normalize ∧
        (block.map normalize = block ↔ ∀ fragment ∈ piece, ¬ HoldsBrokenArtifact fragment) ∧
        (Detector.new.blocks block = [block] ↔
          ∀ fragment ∈ piece, ¬ HoldsBrokenArtifact fragment) := by
  refine ⟨⟨?_, ?_, ?_, ?_, ?_⟩, fun block => exists_piece_of_mem_blocks⟩
  · exact ⟨_, measures_artifactWidth.leaves_erase fragment.toList, toList_normalize fragment⟩
  · rw [toList_normalize]
    exact head?_trim _
  · rw [toList_normalize]
    exact getLast?_trim _
  · exact holdsArtifact_normalize_iff fragment
  · exact normalize_normalize_iff_not_broken fragment

/-! A marker of the feed, and the same with quotes within. -/

def markedCrest : List String :=
  ["[FAVORITED ITEM]. HARLEQUIN CREST", "Unique Helm", "Right mouse button"]

theorem markedCrest_comes_back :
    ["HARLEQUIN CREST", "Unique Helm", "Right mouse button"] ∈ Detector.new.blocks markedCrest ∧
      Detector.new.blocks ["HARLEQUIN CREST", "Unique Helm", "Right mouse button"] =
        [["HARLEQUIN CREST", "Unique Helm", "Right mouse button"]] := by
  have listed : ["HARLEQUIN CREST", "Unique Helm", "Right mouse button"] ∈
      Detector.new.blocks markedCrest := by decide
  have clean : ∀ fragment ∈ markedCrest, normalize (normalize fragment) = normalize fragment := by
    decide
  obtain ⟨_, blocks⟩ := normalized_for_good_iff "" markedCrest
  obtain ⟨piece, within, _, _, again⟩ := blocks _ listed
  refine ⟨listed, again.2 fun fragment member => ?_⟩
  obtain ⟨⟨_, _, _, _, forGood⟩, _⟩ := normalized_for_good_iff fragment markedCrest
  exact forGood.1 (clean fragment (within.subset member))

/-- The quotes are erased and the marker that they broke up stays, for the next pass. -/
theorem marker_freed_by_quotes :
    HoldsArtifact (normalize "[&quot;FAVORITED ITEM&quot;]. HARLEQUIN CREST") ∧
    normalize (normalize "[&quot;FAVORITED ITEM&quot;]. HARLEQUIN CREST") ≠
      normalize "[&quot;FAVORITED ITEM&quot;]. HARLEQUIN CREST" ∧
    Detector.new.blocks
        ["[&quot;FAVORITED ITEM&quot;]. HARLEQUIN CREST", "Unique Helm", "Right mouse button"] =
      [["[FAVORITED ITEM]. HARLEQUIN CREST", "Unique Helm", "Right mouse button"]] ∧
    Detector.new.blocks ["[FAVORITED ITEM]. HARLEQUIN CREST", "Unique Helm", "Right mouse button"] =
      [["HARLEQUIN CREST", "Unique Helm", "Right mouse button"]] := by
  refine ⟨⟨"[FAVORITED ITEM]. ".toList, by decide, [], "HARLEQUIN CREST".toList, by decide⟩,
    by decide, by decide, by decide⟩

end LootSieve.Feed
