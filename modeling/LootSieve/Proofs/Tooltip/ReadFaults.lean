import LootSieve.Proofs.Tooltip.GearReading
import LootSieve.Proofs.Tooltip.LineCleaning

/-!
When a block cannot be read. Only a block without a type line fails as a whole; apart from that only
gear from rare upwards fails, first for its name, then for the place of its rolled lines, then for
the first of these lines that shows numbers and a bracket in no known arrangement. What other lines
say never matters.
-/

namespace LootSieve.Tooltip
open Text Fallible

/-! Single lines. -/

/-- The cleaned line has digits and a square bracket, but no arrangement with brackets fits them. -/
structure IsUndecodable (line : String) : Prop where
  digit : hasDigit (clean line.toList) = true
  bracket : '[' ∈ clean line.toList ∨ ']' ∈ clean line.toList
  refused : ∀ arrangement : Arrangement, arrangement ≠ .bare →
    arrangement.roll? (clean line.toList) = none

namespace Arrangement

theorem mem_all (arrangement : Arrangement) : arrangement ∈ all := by
  cases arrangement <;> decide

theorem find?_eq_none_iff {text : List Char} :
    find? text = none ↔ ∀ arrangement : Arrangement, arrangement.roll? text = none := by
  unfold find?
  rw [List.findSome?_eq_none_iff]
  simp only [Option.map_eq_none_iff]
  exact ⟨fun none arrangement => none arrangement (mem_all arrangement),
    fun none arrangement _ => none arrangement⟩

/-- A text without brackets shows its first number whenever it has one. -/
theorem bare?_eq_none_iff {text : List Char} (digit : hasDigit text = true) :
    bare? text = none ↔ '[' ∈ text ∨ ']' ∈ text := by
  have number : (firstNumber? text).isSome = true := (isSome_firstNumber? text).2 digit
  unfold bare?
  split
  · next bracket =>
    simp only [Bool.or_eq_true, List.contains_iff_mem] at bracket
    exact iff_of_true rfl bracket
  · next noBracket =>
    simp only [Bool.or_eq_true, List.contains_iff_mem] at noBracket
    refine iff_of_false ?_ noBracket
    rw [Option.map_eq_none_iff, ← Option.not_isSome_iff_eq_none, not_not]
    exact number

end Arrangement

section Lines

variable {lexicon : Lexicon} {line : String} {fault : ReadError}

theorem isUndecodable_iff : IsUndecodable line ↔
    Arrangement.find? (clean line.toList) = none ∧ hasDigit (clean line.toList) = true := by
  rw [Arrangement.find?_eq_none_iff]
  constructor
  · rintro ⟨digit, bracket, refused⟩
    refine ⟨fun arrangement => ?_, digit⟩
    by_cases isBare : arrangement = .bare
    · rw [isBare]
      exact (Arrangement.bare?_eq_none_iff digit).2 bracket
    · exact refused arrangement isBare
  · rintro ⟨refused, digit⟩
    exact ⟨digit, (Arrangement.bare?_eq_none_iff digit).1 (refused .bare),
      fun arrangement _ => refused arrangement⟩

theorem decodeAffix_eq_error_iff : decodeAffix lexicon line = .error fault ↔
    IsUndecodable line ∧ fault = .unknownFormat line (String.ofList (clean line.toList)) := by
  rw [isUndecodable_iff]
  unfold decodeAffix
  dsimp only
  split
  · next arrangement roll found =>
    exact iff_of_false nofun fun both => by cases found.symm.trans both.1.1
  · next nothing =>
    split
    · next digit =>
      rw [Except.error.injEq, and_iff_right ⟨nothing, digit⟩, eq_comm]
    · next noDigit => exact iff_of_false nofun fun both => noDigit both.1.2

theorem succeeds_decodeAffix_iff :
    Succeeds (decodeAffix lexicon line) ↔ ¬ IsUndecodable line := by
  constructor
  · rintro ⟨affix, decoded⟩ undecodable
    have fails : decodeAffix lexicon line = .error _ :=
      decodeAffix_eq_error_iff.2 ⟨undecodable, rfl⟩
    rw [decoded] at fails
    cases fails
  · intro decodable
    cases decoded : decodeAffix lexicon line with
    | ok affix => exact succeeds_ok affix
    | error fault => exact absurd (decodeAffix_eq_error_iff.1 decoded).1 decodable

end Lines

/-! Names. -/

section Names

variable {lexicon : Lexicon} {item : Item} {fault : ReadError}

theorem identify_of_identified {identity : Identity}
    (identified : Identified lexicon item identity) : identify lexicon item = .ok identity := by
  unfold identify
  cases identified with
  | unique ranked known => rw [if_pos ranked, known]
  | legendary ranked known =>
    rw [if_neg (by rw [ranked]; exact Bool.false_ne_true), if_pos ranked, known]
  | nameless ranked =>
    obtain ⟨notUnique, notLegendary⟩ := Rarity.nameless_of_hasAspect ranked
    rw [if_neg notUnique, if_neg notLegendary]

/-- The lexicon does not know the name of the item. -/
inductive Unknown (lexicon : Lexicon) (item : Item) : ReadError → Prop
  | unique (ranked : item.rarity.isUniqueOrMythic = true)
    (unknown : lexicon.resolveUnique? item.name = none) :
    Unknown lexicon item (.unknownUnique item.name)
  | aspect (ranked : item.rarity = .legendary)
    (unknown : ∀ id ∈ lexicon.aspects.keys, ¬ id.toList <:+: item.name.toList) :
    Unknown lexicon item (.unknownAspect item.name)

theorem identify_eq_error_iff : identify lexicon item = .error fault ↔
    Unknown lexicon item fault := by
  constructor
  · intro fails
    unfold identify at fails
    split at fails
    · next ranked =>
      split at fails
      · cases fails
      · next unknown =>
        cases fails
        exact .unique ranked unknown
    · split at fails
      · next ranked =>
        split at fails
        · cases fails
        · next unknown =>
          cases fails
          exact .aspect ranked (Lexicon.resolveAspect?_eq_none_iff.1 unknown)
      · cases fails
  · intro unknown
    unfold identify
    cases unknown with
    | unique ranked unknown => rw [if_pos ranked, unknown]
    | aspect ranked unknown =>
      rw [if_neg (by rw [ranked]; exact Bool.false_ne_true), if_pos ranked,
        Lexicon.resolveAspect?_eq_none_iff.2 unknown]

end Names

/-! Windows. -/

theorem Window.decode_eq_error_iff {lexicon : Lexicon} {item : Item} {identity : Identity}
    {window : Window} {fault : ReadError} :
    window.decode lexicon item identity = .error fault ↔
      ∃ before line after, window.rolls = before ++ line :: after ∧
        (∀ other ∈ before, ¬ IsUndecodable other) ∧ IsUndecodable line ∧
        fault = .unknownFormat line (String.ofList (clean line.toList)) := by
  have joined : window.decode lexicon item identity = .error fault ↔
      window.rolls.mapM (decodeAffix lexicon) = .error fault := by
    unfold Window.decode Window.rolls
    rw [List.mapM_append]
    simp only [bind_eq_error_iff]
    simp [pure, Except.pure]
  rw [joined, mapM_eq_error_iff]
  simp only [succeeds_decodeAffix_iff, decodeAffix_eq_error_iff]

/-! Whole blocks. -/

/-- The block is of gear whose lines are decoded: from rare upwards, and not sanctified. -/
structure IsRolled (block : List String) (type : ItemType) (outline : Item) : Prop
    extends IsGearBlock block type outline where
  unmarked : ∀ line ∈ block, isSanctifiedMark line = false
  notCommon : outline.rarity ≠ .common
  notMagic : outline.rarity ≠ .magic

/-- Why a block cannot be read. A cause counts only where none before it does. -/
inductive Fails (lexicon : Lexicon) (block : List String) : ReadError → Prop
  | tooShort (short : block.length < 2) : Fails lexicon block .emptyBlock
  | unknown {type : ItemType} {outline : Item} {fault : ReadError}
    (rolled : IsRolled block type outline) (unknown : Unknown lexicon outline fault) :
    Fails lexicon block fault
  | unplaced {type : ItemType} {outline : Item} {identity : Identity}
    (rolled : IsRolled block type outline) (named : Identified lexicon outline identity)
    (unplaced : Unplaced type block) : Fails lexicon block (.missingLandmark type)
  | undecodable {type : ItemType} {outline : Item} {identity : Identity} {layout : Layout}
    {before after : List String} {line : String} (rolled : IsRolled block type outline)
    (named : Identified lexicon outline identity)
    (located : Layout.locate block type outline.rarity identity.ownInherentCount = .ok layout)
    (split : layout.inherentLines block ++ layout.affixLines block = before ++ line :: after)
    (first : ∀ other ∈ before, ¬ IsUndecodable other) (undecodable : IsUndecodable line) :
    Fails lexicon block (.unknownFormat line (String.ofList (clean line.toList)))

section Blocks

variable {lexicon : Lexicon} {block : List String} {type : ItemType} {outline : Item}
  {identity : Identity} {fault : ReadError}

theorem locate_eq_error_iff (addresses : Addresses lexicon block) (isGear : type.isGear = true)
    (named : Identified lexicon outline identity) (rarity : Rarity) :
    Layout.locate block type rarity identity.ownInherentCount = .error fault ↔
      Unplaced type block ∧ fault = .missingLandmark type := by
  obtain ⟨start, placed⟩ | unplaced := placed_or_unplaced type block
  · have started := placed.start?_eq isGear
    obtain ⟨layout, located, _⟩ :=
      exists_layout_of_start started (addresses.fits placed named rarity)
    rw [located]
    refine iff_of_false nofun fun both => ?_
    cases started.symm.trans (both.1.start?_eq isGear)
  · unfold Layout.locate
    rw [unplaced.start?_eq isGear, Except.error.injEq, and_iff_right unplaced, eq_comm]

/-- The flags of an item have no part in what can go wrong. -/
theorem readRolls_flagged_eq_error_iff (addresses : Addresses lexicon block)
    (isGear : type.isGear = true) :
    readRolls lexicon block type (flagged block outline) = .error fault ↔
      Unknown lexicon outline fault ∨ ∃ identity, Identified lexicon outline identity ∧
        (Unplaced type block ∧ fault = .missingLandmark type ∨
          ∃ layout, Layout.locate block type outline.rarity identity.ownInherentCount =
              .ok layout ∧
            ∃ before line after, (layout.window block).rolls = before ++ line :: after ∧
              (∀ other ∈ before, ¬ IsUndecodable other) ∧ IsUndecodable line ∧
              fault = .unknownFormat line (String.ofList (clean line.toList))) := by
  have named : identify lexicon (flagged block outline) = identify lexicon outline := rfl
  have ranked : (flagged block outline).rarity = outline.rarity := rfl
  rw [readRolls_eq_bind, named, ranked, bind_eq_error_iff, identify_eq_error_iff]
  refine or_congr Iff.rfl (exists_congr fun identity => ?_)
  have known : identify lexicon outline = .ok identity ↔ Identified lexicon outline identity :=
    ⟨identified_of_identify, identify_of_identified⟩
  rw [known, bind_eq_error_iff]
  refine and_congr_right fun named => ?_
  rw [locate_eq_error_iff addresses isGear named]
  simp only [Window.decode_eq_error_iff]

theorem IsGearBlock.read_eq_error_iff (gear : IsGearBlock block type outline) :
    read lexicon block = .error fault ↔
      IsRolled block type outline ∧
        readRolls lexicon block type (flagged block outline) = .error fault := by
  have plain : isPlainGear (flagged block outline) = false ↔ IsRolled block type outline := by
    have marked : (flagged block outline).sanctified = block.any isSanctifiedMark := rfl
    have ranked : (flagged block outline).rarity = outline.rarity := rfl
    unfold isPlainGear
    rw [marked, ranked]
    simp only [Bool.or_eq_false_iff, decide_eq_false_iff_not, List.any_eq_false,
      Bool.not_eq_true]
    constructor
    · intro ranks
      obtain ⟨⟨unmarked, notCommon⟩, notMagic⟩ := ranks
      exact ⟨gear, unmarked, notCommon, notMagic⟩
    · intro rolled
      exact ⟨⟨rolled.unmarked, rolled.notCommon⟩, rolled.notMagic⟩
  rw [gear.read_eq, ← plain]
  cases isPlainGear (flagged block outline) with
  | true => exact iff_of_false nofun fun both => nomatch both.1
  | false => exact (and_iff_right rfl).symm

theorem succeeds_read_of_no_gear {rule : Rule} (classified : classify block = .ok (rule, outline))
    (noGear : ∀ type, outline.type = some type → type.isGear = false) :
    Succeeds (read lexicon block) := by
  unfold read
  rw [classified, ok_bind]
  dsimp only
  cases typed : outline.type with
  | none => exact succeeds_pure _
  | some type =>
    dsimp only
    split
    · exact succeeds_pure _
    · rw [if_neg (by rw [noGear type typed]; exact Bool.false_ne_true)]
      exact succeeds_pure _

theorem tooShort_of_classify (fails : classify block = .error fault) :
    block.length < 2 ∧ fault = .emptyBlock := by
  match block with
  | [] | [_] =>
    cases fails
    exact ⟨by simp, rfl⟩
  | _ :: _ :: _ => cases fails

/-- Reading fails for want of a type line, or because the rolled lines of gear cannot be read. -/
theorem read_eq_error_iff : read lexicon block = .error fault ↔
    block.length < 2 ∧ fault = .emptyBlock ∨
      ∃ type outline, IsRolled block type outline ∧
        readRolls lexicon block type (flagged block outline) = .error fault := by
  constructor
  · intro fails
    cases classified : classify block with
    | error first =>
      unfold read at fails
      rw [classified] at fails
      cases fails
      exact .inl (tooShort_of_classify classified)
    | ok found =>
      obtain ⟨rule, outline⟩ := found
      by_cases isGear : ∃ type, outline.type = some type ∧ type.isGear = true
      · obtain ⟨type, typed, isGear⟩ := isGear
        have gear := isGearBlock_of_classify classified typed isGear
        exact .inr ⟨type, outline, gear.read_eq_error_iff.1 fails⟩
      · have noGear : ∀ type, outline.type = some type → type.isGear = false :=
          fun type typed => Bool.eq_false_iff.2 fun gear => isGear ⟨type, typed, gear⟩
        have reads : Succeeds (read lexicon block) := succeeds_read_of_no_gear classified noGear
        obtain ⟨item, reads⟩ := reads
        rw [reads] at fails
        cases fails
  · rintro (⟨short, rfl⟩ | ⟨type, outline, rolled, fails⟩)
    · match block, short with
      | [], _ => rfl
      | [_], _ => rfl
    · exact rolled.read_eq_error_iff.2 ⟨rolled, fails⟩

theorem fault_of_locate {rarity : Rarity} {own : Option Nat}
    (fails : Layout.locate block type rarity own = .error fault) :
    fault = .missingLandmark type ∨ fault = .positionOverflow := by
  unfold Layout.locate at fails
  split at fails
  · cases fails
    exact .inl rfl
  · dsimp only at fails
    split at fails <;> cases fails
    exact .inr rfl

theorem readRolls_ne_emptyBlock {item : Item} :
    readRolls lexicon block type item ≠ .error .emptyBlock := by
  intro fails
  rw [readRolls_eq_bind, bind_eq_error_iff, identify_eq_error_iff] at fails
  obtain unknown | ⟨identity, _, fails⟩ := fails
  · cases unknown
  · obtain unplaced | ⟨layout, _, fails⟩ := bind_eq_error_iff.1 fails
    · obtain absurd | absurd := fault_of_locate unplaced <;> cases absurd
    · obtain ⟨_, _, _, _, _, _, absurd⟩ := Window.decode_eq_error_iff.1 fails
      cases absurd

theorem read_eq_emptyBlock_iff : read lexicon block = .error .emptyBlock ↔ block.length < 2 := by
  rw [read_eq_error_iff, and_iff_left rfl]
  exact or_iff_left fun ⟨_, _, _, fails⟩ => readRolls_ne_emptyBlock fails

theorem Fails.of_read (addresses : Addresses lexicon block)
    (fails : read lexicon block = .error fault) : Fails lexicon block fault := by
  obtain ⟨short, rfl⟩ | ⟨type, outline, rolled, fails⟩ := read_eq_error_iff.1 fails
  · exact .tooShort short
  · rw [readRolls_flagged_eq_error_iff addresses rolled.isGear] at fails
    obtain unknown | ⟨identity, named, unplaced | undecodable⟩ := fails
    · exact .unknown rolled unknown
    · obtain ⟨unplaced, rfl⟩ := unplaced
      exact .unplaced rolled named unplaced
    · obtain ⟨layout, located, _, _, _, split, first, undecodable, rfl⟩ := undecodable
      exact .undecodable rolled named located split first undecodable

theorem IsRolled.read_eq_error (rolled : IsRolled block type outline)
    (fails : readRolls lexicon block type (flagged block outline) = .error fault) :
    read lexicon block = .error fault :=
  rolled.read_eq_error_iff.2 ⟨rolled, fails⟩

theorem Fails.read_eq (addresses : Addresses lexicon block) (fails : Fails lexicon block fault) :
    read lexicon block = .error fault := by
  cases fails with
  | tooShort short => exact read_eq_error_iff.2 (.inl ⟨short, rfl⟩)
  | unknown rolled unknown =>
    apply rolled.read_eq_error
    exact (readRolls_flagged_eq_error_iff addresses rolled.isGear).2 (.inl unknown)
  | unplaced rolled named unplaced =>
    apply rolled.read_eq_error
    rw [readRolls_flagged_eq_error_iff addresses rolled.isGear]
    exact .inr ⟨_, named, .inl ⟨unplaced, rfl⟩⟩
  | undecodable rolled named located split first undecodable =>
    apply rolled.read_eq_error
    rw [readRolls_flagged_eq_error_iff addresses rolled.isGear]
    exact .inr ⟨_, named, .inr ⟨_, located, _, _, _, split, first, undecodable, rfl⟩⟩

end Blocks

/-! Lines without brackets. -/

/-- Cleaning only takes away. -/
theorem mem_of_mem_clean {line : List Char} {char : Char} (member : char ∈ clean line) :
    char ∈ line := by
  have cosmetics : (dropCosmetics line).Sublist line := by
    rw [dropCosmetics_eq]
    exact (eraseMatches_sublist 0 _).trans ((eraseMatches_sublist 0 _).trans List.filter_sublist)
  have duration : ∀ text, (dropDuration text).Sublist text := by
    intro text
    unfold dropDuration
    split
    · exact List.Sublist.refl text
    · exact (eraseMatches_sublist 0 _).trans (eraseMatches_sublist 0 text)
  have comparison : (dropComparison (dropCosmetics line)).Sublist (dropCosmetics line) :=
    eraseMatches_sublist 0 _
  exact ((duration _).trans (comparison.trans cosmetics)).subset (mem_of_mem_trim member)

/-- Reading fails for the first cause that applies, and for no other. A line without brackets is
none, whatever numbers it shows. The name that is looked up is that of the title. -/
theorem read_fails_iff (lexicon : Lexicon) (block : List String)
    (addresses : Addresses lexicon block) :
    (∀ fault, read lexicon block = .error fault ↔ Fails lexicon block fault) ∧
    (∀ line : String, '[' ∉ line.toList → ']' ∉ line.toList →
      ∃ affix, decodeAffix lexicon line = .ok affix) ∧
    (∀ type outline, IsGearBlock block type outline → ∃ title typeLine rest,
      block = title :: typeLine :: rest ∧ outline.name = titleName title) := by
  refine ⟨fun fault => ⟨Fails.of_read addresses, Fails.read_eq addresses⟩, ?_,
    fun _ _ => IsGearBlock.exists_title⟩
  intro line noOpen noClose
  apply succeeds_decodeAffix_iff.2
  rintro ⟨_, opened | closed, _⟩
  · exact noOpen (mem_of_mem_clean opened)
  · exact noClose (mem_of_mem_clean closed)

/-! A ring of which one line cannot be decoded. -/

def brokenRing : List String :=
  ["WORN RING", "Rare Ring", "400 Item Power", "+5 Strength [3 - 8]", "+16[ Dexterity",
    "Requires Level 30"]

theorem brokenRing_fails :
    Fails .empty brokenRing (.unknownFormat "+16[ Dexterity" "16[ Dexterity") := by
  have addresses : Addresses .empty brokenRing := ⟨by decide, nofun⟩
  have fails : read .empty brokenRing =
      .error (.unknownFormat "+16[ Dexterity" "16[ Dexterity") := by
    rfl
  exact ((read_fails_iff .empty brokenRing addresses).1 _).1 fails

end LootSieve.Tooltip
