import LootSieve.Lexicon.Folder
import LootSieve.Proofs.Text.ByteOrder
import LootSieve.Proofs.Tooltip.ReadFaults

/-!
Positions of 64 bits. The rolled lines of a block are placed by sums of a position in the block and
the number of inherent lines, which for a unique is whatever its entry in the lexicon says. All that
is cut out of the block is held within it first, so that a cut never fails; but a sum may not fit,
and of such a block no item comes. This happens to uniques and mythics with counts near the limit
and to nothing else.
-/

namespace LootSieve.Tooltip
open Text Fallible

variable {lexicon : Lexicon} {block : List String} {type : ItemType} {rarity : Rarity}
  {own : Option Nat}

/-! Cuts. -/

/-- The lines between two positions, if these come in order and lie within the block. -/
def slice? (block : List String) (first past : Nat) : Option (List String) :=
  if first ≤ past ∧ past ≤ block.length then some ((block.take past).drop first) else none

/-- The lines between two positions after both were held within the block. -/
def heldSlice? (block : List String) (first past : Nat) : Option (List String) :=
  slice? block (min first block.length) (min past block.length)

theorem heldSlice?_add (block : List String) (first count : Nat) :
    heldSlice? block first (first + count) = some ((block.drop first).take count) := by
  have ordered : min first block.length ≤ min (first + count) block.length ∧
      min (first + count) block.length ≤ block.length := by omega
  unfold heldSlice? slice?
  rw [if_pos ordered, List.drop_take]
  by_cases inside : first ≤ block.length
  · rw [Nat.min_eq_left inside]
    by_cases within : first + count ≤ block.length
    · rw [Nat.min_eq_left within, Nat.add_sub_cancel_left]
    · rw [Nat.min_eq_right (by omega), List.take_of_length_le (by rw [List.length_drop]),
        List.take_of_length_le (by rw [List.length_drop]; omega)]
  · rw [List.drop_eq_nil_of_le (by omega), List.drop_eq_nil_of_le (by omega), List.take_nil,
      List.take_nil]

theorem heldSlice?_eq_none_iff {first past : Nat} :
    heldSlice? block first past = none ↔ past < first ∧ past < block.length := by
  unfold heldSlice? slice?
  rw [ite_eq_right_iff]
  simp only [reduceCtorEq, imp_false]
  omega

/-! Sums. -/

namespace Layout

/-- The positions that are summed up on the way: where the rolled lines start, where the inherents
end, the line behind a fourth affix, and where the affixes end. -/
def sums (layout : Layout) : List Nat :=
  [layout.start, layout.start + layout.inherentCount,
    layout.start + layout.inherentCount + fullAffixCount,
    layout.start + layout.inherentCount + layout.affixCount]

/-- All positions of the layout are numbers of 64 bits, and all of its cuts stay in the block. -/
structure IsSound (layout : Layout) (block : List String) : Prop where
  sums : ∀ sum ∈ layout.sums, sum < positionLimit
  inherents : heldSlice? block layout.start (layout.start + layout.inherentCount) =
    some (layout.inherentLines block)
  affixes : heldSlice? block (layout.start + layout.inherentCount)
      (layout.start + layout.inherentCount + layout.affixCount) = some (layout.affixLines block)
  aspect : ∀ place, layout.aspectLine = some place → place < block.length

end Layout

theorem locate_eq_overflow_iff : Layout.locate block type rarity own = .error .positionOverflow ↔
    ∃ start, start? block type = some start ∧
      Layout.positionLimit ≤ start + inherentCount type rarity own + Layout.fullAffixCount := by
  unfold Layout.locate
  cases started : start? block type with
  | none => exact iff_of_false nofun nofun
  | some start =>
    simp only [Option.some.injEq, exists_eq_left']
    split
    · next beyond => exact iff_of_true rfl beyond
    · next fits => exact iff_of_false nofun fits

theorem fits_of_locate {layout : Layout}
    (located : Layout.locate block type rarity own = .ok layout) :
    layout.start + layout.inherentCount + Layout.fullAffixCount < Layout.positionLimit := by
  obtain ⟨started, inherents, _⟩ := locate_eq_ok located
  by_contra beyond
  rw [inherents] at beyond
  have overflows : Layout.locate block type rarity own = .error .positionOverflow :=
    locate_eq_overflow_iff.2 ⟨layout.start, started, Nat.le_of_not_lt beyond⟩
  rw [located] at overflows
  cases overflows

theorem isSound_of_locate {layout : Layout}
    (located : Layout.locate block type rarity own = .ok layout) : layout.IsSound block := by
  obtain ⟨_, _, affixes, aspect⟩ := locate_eq_ok located
  have fits := fits_of_locate located
  have few : layout.affixCount ≤ Layout.fullAffixCount := by
    obtain ⟨three, _⟩ | ⟨four, _⟩ :=
      affixCountAt_cases block rarity (layout.start + layout.inherentCount)
    · rw [affixes, three]
      decide
    · rw [affixes, four]
      decide
  refine ⟨?_, heldSlice?_add block _ _, heldSlice?_add block _ _, ?_⟩
  · simp only [Layout.sums, List.forall_mem_cons, List.not_mem_nil, false_imp_iff, implies_true,
      and_true]
    omega
  · intro place isPlace
    dsimp only at aspect
    rw [aspect] at isPlace
    obtain ⟨inside, same⟩ := Option.ite_none_right_eq_some.1 isPlace
    cases same
    exact of_decide_eq_true (Bool.and_eq_true_iff.1 inside).2

/-! Whole blocks. -/

theorem start?_eq_some_iff (isGear : type.isGear = true) {start : Nat} :
    start? block type = some start ↔ Placed type block start := by
  constructor
  · intro started
    obtain ⟨other, placed⟩ | unplaced := placed_or_unplaced type block
    · cases started.symm.trans (placed.start?_eq isGear)
      exact placed
    · cases started.symm.trans (unplaced.start?_eq isGear)
  · exact Placed.start?_eq isGear

/-- The block shows a unique or mythic whose number of inherent lines in the lexicon leads beyond
64 bits from the place where its rolled lines start. -/
structure OutgrowsPositions (lexicon : Lexicon) (block : List String) (type : ItemType)
    (outline : Item) (start count : Nat) : Prop where
  rolled : IsRolled block type outline
  ranked : outline.rarity.isUniqueOrMythic = true
  counted : ∃ id, lexicon.resolveUnique? outline.name = some id ∧
    lexicon.inherentCount? id = some count
  placed : Placed type block start
  beyond : Layout.positionLimit ≤ start + count + Layout.fullAffixCount

theorem readRolls_eq_overflow_iff {item : Item} (isGear : type.isGear = true) :
    readRolls lexicon block type item = .error .positionOverflow ↔
      ∃ identity start, identify lexicon item = .ok identity ∧ Placed type block start ∧
        Layout.positionLimit ≤
          start + inherentCount type item.rarity identity.ownInherentCount +
            Layout.fullAffixCount := by
  rw [readRolls_eq_bind, bind_eq_error_iff, identify_eq_error_iff]
  constructor
  · rintro (unknown | ⟨identity, identified, fails⟩)
    · cases unknown
    · rw [bind_eq_error_iff, locate_eq_overflow_iff] at fails
      obtain ⟨start, started, beyond⟩ | ⟨layout, _, fails⟩ := fails
      · exact ⟨identity, start, identified, (start?_eq_some_iff isGear).1 started, beyond⟩
      · obtain ⟨_, _, _, _, _, _, absurd⟩ := Window.decode_eq_error_iff.1 fails
        cases absurd
  · rintro ⟨identity, start, identified, placed, beyond⟩
    refine .inr ⟨identity, identified, ?_⟩
    rw [bind_eq_error_iff, locate_eq_overflow_iff]
    exact .inl ⟨start, (start?_eq_some_iff isGear).2 placed, beyond⟩

/-- No other failure is taken for this one. -/
theorem read_eq_overflow_iff : read lexicon block = .error .positionOverflow ↔
    ∃ type outline, IsRolled block type outline ∧
      readRolls lexicon block type (flagged block outline) = .error .positionOverflow := by
  rw [read_eq_error_iff]
  exact or_iff_right fun short => nomatch short.2

theorem inherentCount_of_own (ranked : rarity.isUniqueOrMythic = true) (count : Nat) :
    inherentCount type rarity (some count) = count :=
  if_pos ranked

/-- The usual numbers of inherent lines fit into any block that is not itself near the limit. -/
theorem read_eq_overflow_iff_outgrows (room : block.length + 9 < Layout.positionLimit) :
    read lexicon block = .error .positionOverflow ↔
      ∃ type outline start count, OutgrowsPositions lexicon block type outline start count := by
  have four : Layout.fullAffixCount = 4 := rfl
  rw [read_eq_overflow_iff]
  refine exists_congr fun type => exists_congr fun outline => ?_
  constructor
  · rintro ⟨rolled, overflows⟩
    obtain ⟨identity, start, identified, placed, beyond⟩ :=
      (readRolls_eq_overflow_iff rolled.isGear).1 overflows
    have start_le := placed.le_length
    change Layout.positionLimit ≤
      start + inherentCount type outline.rarity identity.ownInherentCount + 4 at beyond
    have named : Identified lexicon outline identity := identified_of_identify identified
    obtain few | own := inherentCount_cases type outline.rarity identity.ownInherentCount
    · omega
    · cases named with
      | unique ranked known => exact ⟨start, _, rolled, ranked, ⟨_, known, own⟩, placed, beyond⟩
      | legendary => cases own
      | nameless => cases own
  · rintro ⟨start, count, rolled, ranked, ⟨id, known, counted⟩, placed, beyond⟩
    refine ⟨rolled, (readRolls_eq_overflow_iff rolled.isGear).2
      ⟨_, start, identify_of_identified (Identified.unique ranked known), placed, ?_⟩⟩
    change Layout.positionLimit ≤
      start + inherentCount type outline.rarity (lexicon.inherentCount? id) + _
    rw [counted, inherentCount_of_own ranked]
    exact beyond

/-- Where the rolled lines of a block are placed at all, every position fits in 64 bits and every
cut stays in the block. A block cannot be placed for its positions exactly if the sum of its start,
its inherents and four affixes does not fit. Unless the block itself is near the limit, this takes a
unique with too great a count in the lexicon, and then nothing is read. -/
theorem positions_fit_or_overflow (lexicon : Lexicon) (block : List String) :
    (∀ type rarity own layout, Layout.locate block type rarity own = .ok layout →
      layout.IsSound block) ∧
    (∀ type rarity own, Layout.locate block type rarity own = .error .positionOverflow ↔
      ∃ start, start? block type = some start ∧
        Layout.positionLimit ≤ start + inherentCount type rarity own + Layout.fullAffixCount) ∧
    (block.length + 9 < Layout.positionLimit →
      (read lexicon block = .error .positionOverflow ↔
        ∃ type outline start count,
          OutgrowsPositions lexicon block type outline start count)) :=
  ⟨fun _ _ _ _ => isSound_of_locate, fun _ _ _ => locate_eq_overflow_iff,
    read_eq_overflow_iff_outgrows⟩

/-! A ring whose rolled lines would start behind its power line, the last that it shows. -/

def starlessSkies : List String :=
  ["RING OF STARLESS SKIES", "Unique Ring", "800 Item Power"]

theorem starlessSkies_room : starlessSkies.length + 9 < Layout.positionLimit := by decide

theorem starlessSkies_outgrows (count : Nat)
    (known : lexicon.resolveUnique? "ring_of_starless_skies" = some "ring_of_starless_skies")
    (counted : lexicon.inherentCount? "ring_of_starless_skies" = some count)
    (beyond : Layout.positionLimit ≤ 3 + count + Layout.fullAffixCount) :
    ∃ type outline start count,
      OutgrowsPositions lexicon starlessSkies type outline start count := by
  have classified : classify starlessSkies = .ok (.gear,
      { Item.plain .unique (some .ring) with name := "ring_of_starless_skies" }) := by rfl
  have placed : Placed .ring starlessSkies 3 := (start?_eq_some_iff rfl).1 (by decide)
  have unmarked : ∀ line ∈ starlessSkies, isSanctifiedMark line = false := by decide
  exact ⟨.ring, _, 3, count, ⟨⟨classified, rfl, rfl⟩, unmarked, nofun, nofun⟩, rfl,
    ⟨_, known, counted⟩, placed, beyond⟩

/-- Two inherents fit. With seven less than the limit of positions, the sum with four affixes is
the first that does not. -/
theorem starlessSkies_sound_or_unread :
    (∃ layout, Layout.locate starlessSkies .ring .unique (some 2) = .ok layout ∧
      layout.IsSound starlessSkies) ∧
    starlessSkies.length + 9 < Layout.positionLimit ∧
    read (Lexicon.empty.addUniques [("ring_of_starless_skies", some 18446744073709551609)])
      starlessSkies = .error .positionOverflow := by
  obtain ⟨sound, _, overflow⟩ := positions_fit_or_overflow
    (Lexicon.empty.addUniques [("ring_of_starless_skies", some 18446744073709551609)])
    starlessSkies
  have located : Layout.locate starlessSkies .ring .unique (some 2) = .ok ⟨3, 2, 4, none⟩ := by
    rfl
  refine ⟨⟨_, located, sound _ _ _ _ located⟩, starlessSkies_room, ?_⟩
  rw [overflow starlessSkies_room]
  exact starlessSkies_outgrows 18446744073709551609 (by decide) (by decide) (by decide)

/-- The file of uniques gives the ring the greatest count but one that it may give. -/
def countlessFolder : Lexicon.Folder where
  path := "enUS"
  files := [("affixes.json", bytes "\x7b\x7d"), ("uniques.json", bytes
    "\x7b\"ring_of_starless_skies\": \x7b\"num_inherents\": 18446744073709551614\x7d\x7d")]

theorem countlessFolder_loads : ∃ lexicon, countlessFolder.load = .ok lexicon ∧
    lexicon.resolveUnique? "ring_of_starless_skies" = some "ring_of_starless_skies" ∧
    lexicon.inherentCount? "ring_of_starless_skies" = some 18446744073709551614 := by
  have found : (countlessFolder.load.toOption.map fun lexicon =>
      (lexicon.resolveUnique? "ring_of_starless_skies",
        lexicon.inherentCount? "ring_of_starless_skies")) =
      some (some "ring_of_starless_skies", some 18446744073709551614) := by
    decide +kernel
  cases loaded : countlessFolder.load with
  | error =>
    rw [loaded] at found
    cases found
  | ok lexicon =>
    rw [loaded] at found
    have pair := Option.some.inj found
    exact ⟨lexicon, rfl, congrArg Prod.fst pair, congrArg Prod.snd pair⟩

/-- The folder is accepted, and then the ring is not read. A sum that wrapped around would not help:
the cut for the inherents would end before it begins. -/
theorem starlessSkies_overflows :
    ∃ lexicon, countlessFolder.load = .ok lexicon ∧
      start? starlessSkies .ring = some 3 ∧
      inherentCount .ring .unique (lexicon.inherentCount? "ring_of_starless_skies") =
        18446744073709551614 ∧
      Layout.positionLimit ≤ 3 + 18446744073709551614 ∧
      heldSlice? starlessSkies 3 ((3 + 18446744073709551614) % Layout.positionLimit) = none ∧
      read lexicon starlessSkies = .error .positionOverflow := by
  obtain ⟨lexicon, loads, known, counted⟩ := countlessFolder_loads
  refine ⟨lexicon, loads, by decide, ?_, by decide, heldSlice?_eq_none_iff.2 (by decide), ?_⟩
  · rw [counted]
    rfl
  · exact (read_eq_overflow_iff_outgrows starlessSkies_room).2
      (starlessSkies_outgrows _ known counted (by decide))

end LootSieve.Tooltip
