import LootSieve.Proofs.Tooltip.GearReading

/-!
Lines of a gear tooltip that do not matter. What stands behind the window is only looked through for
the wordings that set a flag. What stands before it moves the window as a whole, as long as the same
lines place it; so do further continuations of the power line. Two blocks that set the same flags,
show the same power and have the same window are read alike.
-/

namespace LootSieve.Tooltip
open Text Fallible

/-- The line sets no flag. -/
structure IsQuiet (line : String) : Prop where
  shop : shopMarkers.any (mentions · line) = false
  codex : codexMarkers.any (mentions · line) = false
  cosmetic : cosmeticMarkers.any (mentions · line) = false
  unmarked : isSanctifiedMark line = false

/-- The line sets no flag and places no window. -/
structure IsIdle (type : ItemType) (line : String) : Prop extends IsQuiet line where
  noPower : mentions itemPower line = false
  noLandmark : ¬ IsLandmark type line

/-! Lines put in. -/

/-- The second list is the first with fillers put in anywhere. -/
inductive Interspersed (filler : String → Prop) : List String → List String → Prop
  | nil : Interspersed filler [] []
  | keep {line : String} {plain padded : List String} (rest : Interspersed filler plain padded) :
    Interspersed filler (line :: plain) (line :: padded)
  | insert {line : String} {plain padded : List String} (is : filler line)
    (rest : Interspersed filler plain padded) : Interspersed filler plain (line :: padded)

namespace Interspersed

variable {filler : String → Prop} {plain padded : List String}

theorem refl (lines : List String) : Interspersed filler lines lines := by
  induction lines with
  | nil => exact .nil
  | cons line lines ih => exact .keep ih

theorem inserted {fillers : List String} (are : ∀ line ∈ fillers, filler line)
    (interspersed : Interspersed filler plain padded) :
    Interspersed filler plain (fillers ++ padded) := by
  induction fillers with
  | nil => exact interspersed
  | cons line fillers ih =>
    obtain ⟨is, are⟩ := List.forall_mem_cons.1 are
    exact .insert is (ih are)

theorem prepend (front : List String) (interspersed : Interspersed filler plain padded) :
    Interspersed filler (front ++ plain) (front ++ padded) := by
  induction front with
  | nil => exact interspersed
  | cons line front ih => exact .keep ih

theorem append (interspersed : Interspersed filler plain padded) (rest : List String) :
    Interspersed filler (plain ++ rest) (padded ++ rest) := by
  induction interspersed with
  | nil => exact refl rest
  | keep _ ih => exact .keep ih
  | insert is _ ih => exact .insert is ih

theorem mono {other : String → Prop} (weaker : ∀ line, filler line → other line)
    (interspersed : Interspersed filler plain padded) : Interspersed other plain padded := by
  induction interspersed with
  | nil => exact .nil
  | keep _ ih => exact .keep ih
  | insert is _ ih => exact .insert (weaker _ is) ih

theorem length_le (interspersed : Interspersed filler plain padded) :
    plain.length ≤ padded.length := by
  induction interspersed with
  | nil => exact Nat.le_refl 0
  | keep _ ih => exact Nat.succ_le_succ ih
  | insert _ _ ih => exact Nat.le_succ_of_le ih

/-- What holds of the lines and of the fillers holds of all. -/
theorem forall_mem {holds : String → Prop} (interspersed : Interspersed filler plain padded)
    (lines : ∀ line ∈ plain, holds line) (fillers : ∀ line, filler line → holds line) :
    ∀ line ∈ padded, holds line := by
  induction interspersed with
  | nil => exact lines
  | keep _ ih =>
    obtain ⟨here, later⟩ := List.forall_mem_cons.1 lines
    exact List.forall_mem_cons.2 ⟨here, ih later⟩
  | insert is _ ih => exact List.forall_mem_cons.2 ⟨fillers _ is, ih lines⟩

variable {test : String → Bool}

theorem any_eq (interspersed : Interspersed filler plain padded)
    (passes : ∀ line, filler line → test line = false) : padded.any test = plain.any test := by
  induction interspersed with
  | nil => rfl
  | keep _ ih => rw [List.any_cons, List.any_cons, ih]
  | insert is _ ih => rw [List.any_cons, passes _ is, Bool.false_or, ih]

theorem find?_eq (interspersed : Interspersed filler plain padded)
    (passes : ∀ line, filler line → test line = false) : padded.find? test = plain.find? test := by
  induction interspersed with
  | nil => rfl
  | keep _ ih => rw [List.find?_cons, List.find?_cons, ih]
  | insert is _ ih => rw [List.find?_cons, passes _ is, ih]

end Interspersed

/-! Blocks that are read alike. -/

variable {lexicon : Lexicon} {block : List String} {type : ItemType} {outline : Item}

theorem flagged_of_interspersed {plain padded : List String}
    (interspersed : Interspersed IsQuiet plain padded)
    (powered : padded.find? (mentions itemPower) = plain.find? (mentions itemPower)) :
    flagged padded outline = flagged plain outline := by
  have shop : anyMentions padded shopMarkers = anyMentions plain shopMarkers :=
    interspersed.any_eq fun _ quiet => quiet.shop
  have codex : anyMentions padded codexMarkers = anyMentions plain codexMarkers :=
    interspersed.any_eq fun _ quiet => quiet.codex
  have cosmetic : anyMentions padded cosmeticMarkers = anyMentions plain cosmeticMarkers :=
    interspersed.any_eq fun _ quiet => quiet.cosmetic
  have marked : padded.any isSanctifiedMark = plain.any isSanctifiedMark :=
    interspersed.any_eq fun _ quiet => quiet.unmarked
  have power : power? padded = power? plain := by
    rw [power?_eq, power?_eq, powered]
  unfold flagged withFlags
  rw [shop, codex, cosmetic, marked, power]

/-- The window of the block, if it has one that is addressable. -/
def window? (block : List String) (type : ItemType) (rarity : Rarity) (own : Option Nat) :
    Except ReadError Window :=
  (Layout.locate block type rarity own).map (·.window block)

theorem window?_of_start {start : Nat} {rarity : Rarity} {own : Option Nat}
    (started : start? block type = some start) :
    window? block type rarity own =
      if Layout.positionLimit ≤ start + inherentCount type rarity own + 4 then
        .error .positionOverflow
      else .ok (Window.cut rarity (inherentCount type rarity own) (block.drop start)) := by
  unfold window?
  split
  · next overflows =>
    unfold Layout.locate
    rw [started]
    dsimp only
    rw [if_pos (show Layout.positionLimit ≤ _ + Layout.fullAffixCount from overflows)]
    rfl
  · next fits =>
    obtain ⟨layout, located, same⟩ := exists_layout_of_start started (Nat.lt_of_not_le fits)
    rw [located]
    exact congrArg Except.ok same

/-- The number of inherent lines of the item, which the lexicon may give. -/
def inherentSpan (lexicon : Lexicon) (type : ItemType) (outline : Item) : Nat :=
  inherentCount type outline.rarity
    ((identify lexicon outline).toOption.bind (·.ownInherentCount))

theorem readRolls_eq_window? (item : Item) :
    readRolls lexicon block type item = identify lexicon item >>= fun identity =>
      window? block type item.rarity identity.ownInherentCount >>=
        Window.decode lexicon item identity := by
  rw [readRolls_eq_bind]
  congr 1
  funext identity
  unfold window?
  cases Layout.locate block type item.rarity identity.ownInherentCount with
  | error fault => rfl
  | ok layout => rfl

theorem IsGearBlock.read_congr {other : List String} (gear : IsGearBlock block type outline)
    (headed : classify other = classify block)
    (flags : flagged other outline = flagged block outline)
    (windows : ∀ own, inherentCount type outline.rarity own = inherentSpan lexicon type outline →
      window? other type outline.rarity own = window? block type outline.rarity own) :
    read lexicon other = read lexicon block := by
  have otherGear : IsGearBlock other type outline :=
    ⟨headed.trans gear.classified, gear.typed, gear.isGear⟩
  have rolls : readRolls lexicon other type (flagged block outline) =
      readRolls lexicon block type (flagged block outline) := by
    have same : identify lexicon (flagged block outline) = identify lexicon outline := rfl
    rw [readRolls_eq_window?, readRolls_eq_window?, same]
    cases identified : identify lexicon outline with
    | error fault => rfl
    | ok identity =>
      have window := windows identity.ownInherentCount (by rw [inherentSpan, identified]; rfl)
      exact congrArg (· >>= Window.decode lexicon (flagged block outline) identity) window
  rw [otherGear.read_eq, gear.read_eq, flags, rolls]

/-! What stands behind the window. -/

theorem Window.cut_append {inherents : Nat} {front : List String} (rarity : Rarity)
    (long : inherents + 4 < front.length) (rest : List String) :
    Window.cut rarity inherents (front ++ rest) = Window.cut rarity inherents front := by
  have counted : Layout.affixCountAt (front ++ rest) rarity inherents =
      Layout.affixCountAt front rarity inherents := by
    have inFront : inherents + Layout.fullAffixCount - 1 < front.length := by
      unfold Layout.fullAffixCount
      omega
    unfold Layout.affixCountAt
    rw [List.getElem?_append_left inFront]
  have few := affixCountAt_cases front rarity inherents
  unfold Window.cut
  dsimp only
  rw [counted, List.take_append_of_le_length (by omega), List.drop_append_of_le_length (by omega),
    List.take_append_of_le_length (by rw [List.length_drop]; omega),
    List.getElem?_append_left (by omega)]

theorem classify_append {front : List String} (titled : 2 ≤ front.length) (rest : List String) :
    classify (front ++ rest) = classify front := by
  match front, titled with
  | _ :: _ :: _, _ => rfl

theorem interspersed_of_isQuiet {lines : List String} (quiet : ∀ line ∈ lines, IsQuiet line)
    (front : List String) : Interspersed IsQuiet front (front ++ lines) := by
  have after : Interspersed IsQuiet [] (lines ++ []) := Interspersed.inserted quiet .nil
  simpa using after.prepend front

theorem Placed.append {front : List String} {start : Nat} (placed : Placed type front start)
    (marked : ∃ line ∈ front, IsLandmark type line) (rest : List String) :
    Placed type (front ++ rest) start := by
  cases placed with
  | byLandmark is first =>
    rw [List.append_assoc, List.cons_append]
    exact .byLandmark is first
  | byPower _ _ unmarked =>
    obtain ⟨line, member, is⟩ := marked
    exact absurd is (unmarked line member)

theorem placed_of_marked {front : List String} (marked : ∃ line ∈ front, IsLandmark type line) :
    ∃ start, Placed type front start := by
  obtain placed | unplaced := placed_or_unplaced type front
  · exact placed
  · obtain ⟨line, member, is⟩ := marked
    exact absurd is (unplaced.noLandmark line member)

theorem window?_append {front : List String} {start : Nat} {rarity : Rarity} {own : Option Nat}
    (isGear : type.isGear = true) (placed : Placed type front start)
    (marked : ∃ line ∈ front, IsLandmark type line)
    (inFront : start + inherentCount type rarity own + 4 < front.length) (rest : List String) :
    window? (front ++ rest) type rarity own = window? front type rarity own := by
  rw [window?_of_start (placed.start?_eq isGear),
    window?_of_start ((placed.append marked rest).start?_eq isGear),
    List.drop_append_of_le_length (by omega), Window.cut_append]
  rw [List.length_drop]
  omega

/-- The tooltip may end in any lines that set no flag. -/
theorem IsGearBlock.read_append {front lines : List String} {start : Nat}
    (gear : IsGearBlock front type outline) (placed : Placed type front start)
    (powered : ∃ line ∈ front, mentions itemPower line = true)
    (marked : ∃ line ∈ front, IsLandmark type line)
    (inFront : start + inherentSpan lexicon type outline + 4 < front.length)
    (quiet : ∀ line ∈ lines, IsQuiet line) :
    read lexicon (front ++ lines) = read lexicon front := by
  apply gear.read_congr
  · exact classify_append (by omega) lines
  · apply flagged_of_interspersed (interspersed_of_isQuiet quiet front)
    rw [List.find?_append, Option.or_of_isSome (List.find?_isSome.2 powered)]
  · intro own spans
    rw [← spans] at inFront
    exact window?_append gear.isGear placed marked inFront lines

/-! What moves the window. -/

theorem Addresses.of_le {other : List String} (addresses : Addresses lexicon block)
    (shorter : other.length ≤ block.length) : Addresses lexicon other :=
  ⟨by have := addresses.usual; omega, fun id count own => by
    have := addresses.own id count own
    omega⟩

theorem Addresses.span_fits {start : Nat} (addresses : Addresses lexicon block)
    (placed : Placed type block start) (outline : Item) :
    start + inherentSpan lexicon type outline + 4 < Layout.positionLimit := by
  unfold inherentSpan
  cases identified : identify lexicon outline with
  | ok identity => exact addresses.fits placed (identified_of_identify identified) outline.rarity
  | error fault =>
    have start_le := placed.le_length
    have usual := addresses.usual
    obtain few | own := inherentCount_cases type outline.rarity none
    · dsimp only [Except.toOption, Option.bind_none]
      omega
    · cases own

theorem drop_behind (front : List String) (line : String) (rest : List String) (count : Nat) :
    (front ++ line :: rest).drop (front.length + 1 + count) = rest.drop count := by
  rw [Nat.add_assoc, List.drop_length_add_append, Nat.add_comm, List.drop_succ_cons]

theorem drop_takeWhile (test : String → Bool) (lines : List String) :
    lines.drop (lines.takeWhile test).length = lines.dropWhile test :=
  calc lines.drop (lines.takeWhile test).length
    _ = (lines.takeWhile test ++ lines.dropWhile test).drop (lines.takeWhile test).length := by
      rw [List.takeWhile_append_dropWhile]
    _ = lines.dropWhile test := List.drop_left

/-- A block with more lines in front of its window is read alike. -/
theorem IsGearBlock.read_of_moved {padded : List String} {start moved : Nat}
    (gear : IsGearBlock block type outline) (headed : classify padded = classify block)
    (interspersed : Interspersed (IsIdle type) block padded) (addresses : Addresses lexicon padded)
    (placed : Placed type block start) (stillPlaced : Placed type padded moved)
    (same : padded.drop moved = block.drop start) : read lexicon padded = read lexicon block := by
  have quiet : Interspersed IsQuiet block padded :=
    interspersed.mono fun _ idle => idle.toIsQuiet
  have shorter := addresses.of_le interspersed.length_le
  apply gear.read_congr headed
  · exact flagged_of_interspersed quiet (interspersed.find?_eq fun _ idle => idle.noPower)
  · intro own spans
    have fits := shorter.span_fits placed outline
    have stillFits := addresses.span_fits stillPlaced outline
    rw [← spans] at fits stillFits
    rw [window?_of_start (placed.start?_eq gear.isGear),
      window?_of_start (stillPlaced.start?_eq gear.isGear), same,
      if_neg (Nat.not_le_of_lt fits), if_neg (Nat.not_le_of_lt stillFits)]

theorem IsGearBlock.read_of_padded {title typeLine landmark : String}
    {between padded rest : List String}
    (gear : IsGearBlock (title :: typeLine :: (between ++ landmark :: rest)) type outline)
    (is : IsLandmark type landmark)
    (first : ∀ line ∈ title :: typeLine :: between, ¬ IsLandmark type line)
    (interspersed : Interspersed (IsIdle type) between padded)
    (addresses : Addresses lexicon (title :: typeLine :: (padded ++ landmark :: rest))) :
    read lexicon (title :: typeLine :: (padded ++ landmark :: rest)) =
      read lexicon (title :: typeLine :: (between ++ landmark :: rest)) := by
  have wider : Interspersed (IsIdle type) (title :: typeLine :: between)
      (title :: typeLine :: padded) := interspersed.prepend [title, typeLine]
  have stillFirst := wider.forall_mem first fun _ idle => idle.noLandmark
  refine gear.read_of_moved rfl (wider.append (landmark :: rest)) addresses
    (.byLandmark is first) (.byLandmark is stillFirst) ?_
  exact (drop_behind (title :: typeLine :: padded) landmark rest _).trans
    (drop_behind (title :: typeLine :: between) landmark rest _).symm

theorem IsGearBlock.read_of_continued {title power : String} {before inserted rest : List String}
    (gear : IsGearBlock (title :: (before ++ power :: rest)) type outline)
    (is : mentions itemPower power = true)
    (first : ∀ line ∈ title :: before, mentions itemPower line = false)
    (unmarked : ∀ line ∈ title :: (before ++ power :: rest), ¬ IsLandmark type line)
    (idle : ∀ line ∈ inserted, IsIdle type line)
    (continues : ∀ line ∈ inserted, isContinuation line = true)
    (addresses : Addresses lexicon (title :: (before ++ power :: (inserted ++ rest)))) :
    read lexicon (title :: (before ++ power :: (inserted ++ rest))) =
      read lexicon (title :: (before ++ power :: rest)) := by
  have interspersed : Interspersed (IsIdle type) (title :: (before ++ power :: rest))
      (title :: (before ++ power :: (inserted ++ rest))) :=
    .keep (.prepend before (.keep (.inserted idle (.refl rest))))
  have stillUnmarked := interspersed.forall_mem unmarked fun _ idle => idle.noLandmark
  refine gear.read_of_moved ?_ interspersed addresses (.byPower is first unmarked)
    (.byPower is first stillUnmarked) ?_
  · match before with
    | [] | typeLine :: before => rfl
  · have behind (lines : List String) :=
      (drop_behind (title :: before) power lines _).trans (drop_takeWhile isContinuation lines)
    have past : (inserted ++ rest).dropWhile isContinuation = rest.dropWhile isContinuation :=
      List.dropWhile_append_of_pos continues
    exact (behind (inserted ++ rest)).trans (past.trans (behind rest).symm)

/-! Gear. -/

/-- Lines of a gear tooltip that set no flag change nothing behind the window and the line after it,
nor, if they place no window either, in front of the landmark that does. Without a landmark they may
continue the first power line. -/
theorem irrelevant_lines_change_nothing (lexicon : Lexicon) (block : List String)
    (type : ItemType) (outline : Item) (gear : IsGearBlock block type outline) :
    (∀ front after left right start, block = front ++ after →
      (∃ line ∈ front, mentions itemPower line = true) → (∃ line ∈ front, IsLandmark type line) →
      start? block type = some start →
      start + inherentSpan lexicon type outline + 4 < front.length →
      (∀ line ∈ left, IsQuiet line) → (∀ line ∈ right, IsQuiet line) →
      read lexicon (front ++ left) = read lexicon (front ++ right)) ∧
    (∀ title typeLine between padded landmark rest,
      block = title :: typeLine :: (between ++ landmark :: rest) → IsLandmark type landmark →
      (∀ line ∈ title :: typeLine :: between, ¬ IsLandmark type line) →
      Interspersed (IsIdle type) between padded →
      Addresses lexicon (title :: typeLine :: (padded ++ landmark :: rest)) →
      read lexicon (title :: typeLine :: (padded ++ landmark :: rest)) = read lexicon block) ∧
    (∀ title before power inserted rest, block = title :: (before ++ power :: rest) →
      (∀ line ∈ block, ¬ IsLandmark type line) → mentions itemPower power = true →
      (∀ line ∈ title :: before, mentions itemPower line = false) →
      (∀ line ∈ inserted, IsIdle type line ∧ isContinuation line = true) →
      Addresses lexicon (title :: (before ++ power :: (inserted ++ rest))) →
      read lexicon (title :: (before ++ power :: (inserted ++ rest))) = read lexicon block) := by
  refine ⟨?_, ?_, ?_⟩
  · intro front after left right start split powered marked started inFront quietLeft quietRight
    subst split
    obtain ⟨place, placed⟩ := placed_of_marked marked
    cases started.symm.trans ((placed.append marked after).start?_eq gear.isGear)
    have frontGear : IsGearBlock front type outline :=
      ⟨(classify_append (by omega) after).symm.trans gear.classified, gear.typed, gear.isGear⟩
    rw [frontGear.read_append placed powered marked inFront quietLeft,
      frontGear.read_append placed powered marked inFront quietRight]
  · intro title typeLine between padded landmark rest split is first interspersed addresses
    subst split
    exact gear.read_of_padded is first interspersed addresses
  · intro title before power inserted rest split unmarked is first idle addresses
    subst split
    exact gear.read_of_continued is first unmarked (fun line member => (idle line member).1)
      (fun line member => (idle line member).2) addresses

/-! A helm with lines that do not matter, and a ring, whose landmark is missing. -/

def wornHelm : List String :=
  ["WORN HELM", "Rare Helm", "400 Item Power", "120 Armor", "+5 Strength [3 - 8]",
    "+16 Dexterity [10 - 20]", "+3 Willpower [1 - 4]", "+2 Intelligence [1 - 5]",
    "Requires Level 30"]

def wornRing : List String :=
  ["WORN RING", "Rare Ring", "400 Item Power", "+5 Strength [3 - 8]"]

theorem worn_gear_read_alike :
    read .empty (wornHelm ++ ["Sell Value: 10 Gold"]) = read .empty (wornHelm ++ []) ∧
    read .empty (["WORN HELM", "Rare Helm", "Account Bound"] ++ wornHelm.drop 2) =
      read .empty wornHelm ∧
    read .empty (wornRing.take 3 ++ "Masterwork: 4/12" :: wornRing.drop 3) =
      read .empty wornRing := by
  have helm : IsGearBlock wornHelm .helm
      (Rule.build ⟨"WORN HELM".toList, "Rare Helm".toList⟩ .gear) := ⟨rfl, rfl, rfl⟩
  have ring : IsGearBlock wornRing .ring
      (Rule.build ⟨"WORN RING".toList, "Rare Ring".toList⟩ .gear) := ⟨rfl, rfl, rfl⟩
  have bound : IsIdle .helm "Account Bound" := ⟨⟨rfl, rfl, rfl, rfl⟩, rfl, by decide⟩
  have masterwork : IsIdle .ring "Masterwork: 4/12" := ⟨⟨rfl, rfl, rfl, rfl⟩, rfl, by decide⟩
  obtain ⟨behind, before, _⟩ := irrelevant_lines_change_nothing .empty wornHelm .helm _ helm
  obtain ⟨_, _, continued⟩ := irrelevant_lines_change_nothing .empty wornRing .ring _ ring
  refine ⟨?_, ?_, ?_⟩
  · refine behind wornHelm [] ["Sell Value: 10 Gold"] [] 4 rfl ⟨"400 Item Power", by decide, rfl⟩
      ⟨"120 Armor", by decide, by decide⟩ rfl (by decide) ?_ nofun
    intro line member
    cases List.mem_singleton.1 member
    exact ⟨rfl, rfl, rfl, rfl⟩
  · exact before "WORN HELM" "Rare Helm" ["400 Item Power"] ["Account Bound", "400 Item Power"]
      "120 Armor" (wornHelm.drop 4) rfl (by decide) (by decide) (.insert bound (.refl _))
      ⟨by decide, nofun⟩
  · refine continued "WORN RING" ["Rare Ring"] "400 Item Power" ["Masterwork: 4/12"]
      ["+5 Strength [3 - 8]"] rfl (by decide) rfl (by decide) ?_ ⟨by decide, nofun⟩
    intro line member
    cases List.mem_singleton.1 member
    exact ⟨masterwork, rfl⟩

end LootSieve.Tooltip
