import LootSieve.Proofs.Tooltip.Provenance

/-!
How the block of a piece of gear is read. Its first two lines give an outline of the item; lines
anywhere in the block add flags and the power. All that is rolled comes from one window of
consecutive lines, which the landmark places, or else the power line. A block with positions to
spare is never too long for its window.
-/

namespace LootSieve.Tooltip
open Text Fallible

variable {lexicon : Lexicon} {block : List String} {type : ItemType} {outline : Item}

/-! The heading. -/

/-- The heading of the block is that of gear of a known type. `outline` is what it tells of the
item. -/
structure IsGearBlock (block : List String) (type : ItemType) (outline : Item) : Prop where
  classified : classify block = .ok (.gear, outline)
  typed : outline.type = some type
  isGear : type.isGear = true

/-- No rule but the last makes gear. -/
theorem isGearBlock_of_classify {rule : Rule} (classified : classify block = .ok (rule, outline))
    (typed : outline.type = some type) (isGear : type.isGear = true) :
    IsGearBlock block type outline := by
  have isRule : rule = .gear := by
    obtain ⟨title, typeLine, rest, _, _, rfl⟩ := classify_eq_ok classified
    cases rule with
    | gear => rfl
    | _ =>
      cases typed
      cases isGear
  exact ⟨isRule ▸ classified, typed, isGear⟩

/-- The outline with what lines anywhere in the block add to it. -/
def flagged (block : List String) (outline : Item) : Item :=
  withFlags block
    { outline with inShop := anyMentions block shopMarkers, power := power? block }

namespace IsGearBlock

variable (gear : IsGearBlock block type outline)

include gear

theorem exists_title : ∃ title typeLine rest, block = title :: typeLine :: rest ∧
    outline.name = titleName title := by
  obtain ⟨title, typeLine, rest, split, _, same⟩ := classify_eq_ok gear.classified
  have titled : (Rule.build ⟨trim title.toList, trim typeLine.toList⟩ .gear).name =
      titleName title := rfl
  have named := congrArg Item.name same
  dsimp only at named
  rw [titled, ite_self] at named
  exact ⟨title, typeLine, rest, split, named⟩

theorem read_eq : read lexicon block =
    if isPlainGear (flagged block outline) then .ok (flagged block outline)
    else readRolls lexicon block type (flagged block outline) := by
  have unfolded : read lexicon block = readGear lexicon block type
      { outline with inShop := anyMentions block shopMarkers, power := power? block } := by
    unfold read
    rw [gear.classified, ok_bind]
    dsimp only
    rw [gear.typed]
    dsimp only
    rw [isSigil_of_isGear type gear.isGear, gear.isGear]
    rfl
  rw [unfolded]
  rfl

end IsGearBlock

theorem power?_eq (block : List String) :
    power? block = (block.find? (mentions itemPower)).bind fun line =>
      (firstNumber? line.toList).map (·.toModel.toInt32.toInt) := by
  simp only [List.find?_eq_bind_findIdx?_getElem?, Option.bind_assoc, Option.map_eq_bind]
  rfl

/-! The place of the window. -/

/-- The line is the landmark of the type. -/
def IsLandmark (type : ItemType) (line : String) : Prop :=
  Naming.wording line.toList = (landmarkLabel type).toList

instance (type : ItemType) (line : String) : Decidable (IsLandmark type line) :=
  inferInstanceAs (Decidable (_ = _))

/-- The line may stand between the power line and the first rolled line. -/
def isContinuation (line : String) : Bool := continuations.any (mentions · line)

/-- Where the rolled lines of a block begin: some lines behind its first landmark or, if it has
none, behind its first power line and the continuations of that. -/
inductive Placed (type : ItemType) : List String → Nat → Prop
  | byLandmark {before rest : List String} {landmark : String} (is : IsLandmark type landmark)
    (first : ∀ line ∈ before, ¬ IsLandmark type line) :
    Placed type (before ++ landmark :: rest) (before.length + 1 + detailCount type)
  | byPower {before rest : List String} {power : String} (is : mentions itemPower power = true)
    (first : ∀ line ∈ before, mentions itemPower line = false)
    (unmarked : ∀ line ∈ before ++ power :: rest, ¬ IsLandmark type line) :
    Placed type (before ++ power :: rest)
      (before.length + 1 + (rest.takeWhile isContinuation).length)

/-- Nothing tells where the rolled lines begin. -/
structure Unplaced (type : ItemType) (block : List String) : Prop where
  noLandmark : ∀ line ∈ block, ¬ IsLandmark type line
  noPower : ∀ line ∈ block, mentions itemPower line = false

theorem findIdx?_first {test : String → Bool} {before : List String} {line : String}
    (is : test line = true) (first : ∀ other ∈ before, test other = false) (rest : List String) :
    (before ++ line :: rest).findIdx? test = some before.length := by
  rw [List.findIdx?_append, List.findIdx?_eq_none_iff.2 first, List.findIdx?_cons, is]
  simp

theorem pastContinuations_eq (lines : List String) (place : Nat) :
    pastContinuations lines place = place + (lines.takeWhile isContinuation).length := by
  induction lines generalizing place with
  | nil => rfl
  | cons line rest ih =>
    unfold pastContinuations
    change (if isContinuation line = true then _ else _) = _
    split
    · next continues =>
      rw [ih, List.takeWhile_cons_of_pos continues, List.length_cons]
      omega
    · next stops => rw [List.takeWhile_cons_of_neg stops, List.length_nil, Nat.add_zero]

section Placed

variable {start : Nat}

theorem startAfterLandmark?_eq (isGear : type.isGear = true) (block : List String) :
    startAfterLandmark? block type =
      (block.findIdx? fun line => IsLandmark type line).map (· + (detailCount type + 1)) := by
  unfold startAfterLandmark?
  rw [landmark?_of_isGear type isGear, Option.bind_eq_bind, Option.bind_some]
  exact Option.map_eq_bind.symm

theorem start?_of_unmarked (isGear : type.isGear = true)
    (unmarked : ∀ line ∈ block, ¬ IsLandmark type line) :
    start? block type = startAfterPower? block := by
  have nowhere : block.findIdx? (fun line => decide (IsLandmark type line)) = none := by
    rw [List.findIdx?_eq_none_iff]
    exact fun line member => decide_eq_false (unmarked line member)
  unfold start?
  rw [startAfterLandmark?_eq isGear, nowhere]
  rfl

theorem Placed.start?_eq (isGear : type.isGear = true) (placed : Placed type block start) :
    start? block type = some start := by
  cases placed with
  | @byLandmark before rest landmark is first =>
    have found : (before ++ landmark :: rest).findIdx? (fun line => IsLandmark type line) =
        some before.length :=
      findIdx?_first (decide_eq_true is) (fun line member => decide_eq_false (first line member))
        rest
    have place : before.length + (detailCount type + 1) =
        before.length + 1 + detailCount type := by omega
    unfold start?
    rw [startAfterLandmark?_eq isGear, found, Option.map_some, Option.some_or, place]
  | @byPower before rest power is first unmarked =>
    have behind : (before ++ power :: rest).drop (before.length + 1) = rest := by simp
    rw [start?_of_unmarked isGear unmarked]
    unfold startAfterPower? findMention?
    rw [findIdx?_first is first rest]
    change some (pastContinuations _ _) = _
    rw [behind, pastContinuations_eq]

theorem Unplaced.start?_eq (isGear : type.isGear = true) (unplaced : Unplaced type block) :
    start? block type = none := by
  rw [start?_of_unmarked isGear unplaced.noLandmark]
  unfold startAfterPower? findMention?
  rw [List.findIdx?_eq_none_iff.2 unplaced.noPower]
  rfl

theorem placed_or_unplaced (type : ItemType) (block : List String) :
    (∃ start, Placed type block start) ∨ Unplaced type block := by
  cases found : block.find? fun line => IsLandmark type line with
  | some landmark =>
    obtain ⟨is, before, rest, rfl, first⟩ := List.find?_eq_some_iff_append.1 found
    refine .inl ⟨_, .byLandmark (of_decide_eq_true is) fun line member => ?_⟩
    simpa using first line member
  | none =>
    have unmarked : ∀ line ∈ block, ¬ IsLandmark type line := by
      simpa using List.find?_eq_none.1 found
    cases found : block.find? (mentions itemPower) with
    | some power =>
      obtain ⟨is, before, rest, rfl, first⟩ := List.find?_eq_some_iff_append.1 found
      refine .inl ⟨_, .byPower is (fun line member => ?_) unmarked⟩
      simpa using first line member
    | none => exact .inr ⟨unmarked, by simpa using List.find?_eq_none.1 found⟩

theorem Placed.le_length (placed : Placed type block start) : start ≤ block.length + 2 := by
  cases placed with
  | @byLandmark before rest landmark =>
    have few : detailCount type ≤ 2 := by
      unfold detailCount
      split <;> omega
    rw [List.length_append, List.length_cons]
    omega
  | @byPower before rest power =>
    have inRest := (List.takeWhile_sublist isContinuation (l := rest)).length_le
    rw [List.length_append, List.length_cons]
    omega

end Placed

/-! The window. -/

/-- The lines of a block that are decoded. -/
structure Window where
  inherents : List String
  affixes : List String
  aspect : Option String

namespace Window

/-- The window at the head of a list of lines. -/
def cut (rarity : Rarity) (inherents : Nat) (lines : List String) : Window :=
  let affixes := Layout.affixCountAt lines rarity inherents
  { inherents := lines.take inherents
    affixes := (lines.drop inherents).take affixes
    aspect := if rarity.hasAspect then lines[inherents + affixes]? else none }

/-- The lines that may be refused; an aspect never is. -/
def rolls (window : Window) : List String := window.inherents ++ window.affixes

/-- The item with all that the window holds. -/
def fill (window : Window) (item : Item) (identity : Identity) (inherents affixes : List Affix) :
    Item :=
  { item with
    name := identity.name
    inherents := inherents.map fun affix => { affix with kind := .inherent }
    affixes := affixes
    aspect := window.aspect.map fun line => aspectOf item.rarity line identity.aspectName }

def decode (lexicon : Lexicon) (item : Item) (identity : Identity) (window : Window) :
    Except ReadError Item := do
  let inherents ← window.inherents.mapM (decodeAffix lexicon)
  let affixes ← window.affixes.mapM (decodeAffix lexicon)
  return window.fill item identity inherents affixes

end Window

def Layout.window (layout : Layout) (block : List String) : Window :=
  ⟨layout.inherentLines block, layout.affixLines block, layout.aspectLine.bind (block[·]?)⟩

theorem affixCountAt_drop (block : List String) (rarity : Rarity) (start inherents : Nat) :
    Layout.affixCountAt (block.drop start) rarity inherents =
      Layout.affixCountAt block rarity (start + inherents) := by
  have place : start + (inherents + Layout.fullAffixCount - 1) =
      start + inherents + Layout.fullAffixCount - 1 := by
    unfold Layout.fullAffixCount
    omega
  unfold Layout.affixCountAt
  rw [List.getElem?_drop, place]

/-- The window depends on the lines from its start on. -/
theorem exists_layout_of_start {start : Nat} {rarity : Rarity} {own : Option Nat}
    (started : start? block type = some start)
    (fits : start + inherentCount type rarity own + 4 < Layout.positionLimit) :
    ∃ layout, Layout.locate block type rarity own = .ok layout ∧
      layout.window block =
        Window.cut rarity (inherentCount type rarity own) (block.drop start) := by
  have inside : ¬ Layout.positionLimit ≤
      start + inherentCount type rarity own + Layout.fullAffixCount :=
    Nat.not_le_of_lt fits
  unfold Layout.locate
  rw [started]
  dsimp only
  rw [if_neg inside]
  refine ⟨_, rfl, ?_⟩
  simp only [Layout.window, Layout.inherentLines, Layout.affixLines, Window.cut, aspectLine_bind,
    affixCountAt_drop, List.drop_drop, List.getElem?_drop, Nat.add_assoc]

theorem readRolls_eq_bind (lexicon : Lexicon) (block : List String) (type : ItemType)
    (item : Item) :
    readRolls lexicon block type item = identify lexicon item >>= fun identity =>
      Layout.locate block type item.rarity identity.ownInherentCount >>= fun layout =>
        (layout.window block).decode lexicon item identity :=
  rfl

/-! Positions. -/

/-- Whatever item of the lexicon the block shows, each line of its window has a position of 64
bits. -/
structure Addresses (lexicon : Lexicon) (block : List String) : Prop where
  usual : block.length + 9 < Layout.positionLimit
  own : ∀ id count, lexicon.inherentCount? id = some count →
    block.length + count + 6 < Layout.positionLimit

theorem inherentCount_cases (type : ItemType) (rarity : Rarity) (own : Option Nat) :
    inherentCount type rarity own ≤ 3 ∨ own = some (inherentCount type rarity own) := by
  have usual : (if type.isWeapon || type == .boots then 1
      else if type == .shield then 3 else 0) ≤ 3 := by
    split
    · omega
    · split <;> omega
  unfold inherentCount
  dsimp only
  split
  · cases own with
    | none => exact .inl usual
    | some count => exact .inr rfl
  · exact .inl usual

theorem Addresses.fits {start : Nat} {item : Item} {identity : Identity}
    (addresses : Addresses lexicon block) (placed : Placed type block start)
    (identified : Identified lexicon item identity) (rarity : Rarity) :
    start + inherentCount type rarity identity.ownInherentCount + 4 < Layout.positionLimit := by
  have start_le := placed.le_length
  have usual := addresses.usual
  obtain few | own := inherentCount_cases type rarity identity.ownInherentCount
  · omega
  · cases identified with
    | unique =>
      have most := addresses.own _ _ own
      dsimp only at most ⊢
      omega
    | legendary => cases own
    | nameless => cases own

end LootSieve.Tooltip
