import LootSieve.Proofs.Fallible
import LootSieve.Proofs.Lexicon.Lookup
import LootSieve.Proofs.Tooltip.AspectLine
import LootSieve.Proofs.Tooltip.GearLayout

/-!
Every part of an item that was read comes from a place of its own in the block. The inherents, the
affixes and the aspect of gear are decoded from consecutive lines, of which a block that ends early
has only the first. Sigils have no such parts but affixes, and all other items have none.
-/

namespace LootSieve

namespace Item

/-- No line of the item was decoded. -/
structure HasNoRolls (item : Item) : Prop where
  affixes : item.affixes = []
  inherents : item.inherents = []
  aspect : item.aspect = none

/-- Items that are read without their lines. -/
inductive IsPlain (item : Item) : Prop
  | untyped (typed : item.type = none)
  | noGear {type : ItemType} (typed : item.type = some type) (noSigil : type.isSigil = false)
    (noGear : type.isGear = false)
  | sanctified {type : ItemType} (typed : item.type = some type) (isGear : type.isGear = true)
    (marked : item.sanctified = true)
  | ordinary {type : ItemType} (typed : item.type = some type) (isGear : type.isGear = true)
    (ranked : item.rarity = .common ∨ item.rarity = .magic)

/-- Gear whose lines are decoded. -/
structure IsRolledGear (item : Item) (type : ItemType) : Prop where
  typed : item.type = some type
  isGear : type.isGear = true
  unmarked : item.sanctified = false
  notCommon : item.rarity ≠ .common
  notMagic : item.rarity ≠ .magic

theorem IsRolledGear.not_isPlain {item : Item} {type : ItemType} (rolled : item.IsRolledGear type) :
    ¬ item.IsPlain := by
  obtain ⟨typed, isGear, unmarked, notCommon, notMagic⟩ := rolled
  intro plain
  cases plain with
  | untyped none =>
    rw [typed] at none
    cases none
  | noGear other _ noGear =>
    cases typed.symm.trans other
    rw [isGear] at noGear
    cases noGear
  | sanctified _ _ marked =>
    rw [unmarked] at marked
    cases marked
  | ordinary _ _ ranked => exact ranked.elim notCommon notMagic

end Item

/-- The name of an affix is an id of the lexicon, if that has any, or else what the line says. -/
structure Lexicon.Names (lexicon : Lexicon) (affix : Affix) : Prop where
  known : lexicon.affixes.keys ≠ [] → affix.name ∈ lexicon.affixes.keys
  unknown : lexicon.affixes.keys = [] →
    affix.name = String.ofList (Naming.canonical affix.text.toList)

namespace Tooltip
open Text Fallible

variable {lexicon : Lexicon} {block : List String}

/-! Single lines. -/

theorem decodeAffix_eq_ok {line : String} {affix : Affix}
    (decoded : decodeAffix lexicon line = .ok affix) :
    affix.name = lexicon.resolveAffix line ∧ affix.text = line ∧
      (affix.kind = .normal ∨ affix.kind = .greater) := by
  unfold decodeAffix at decoded
  dsimp only at decoded
  split at decoded
  · next arrangement roll found =>
    cases decoded
    refine ⟨rfl, rfl, ?_⟩
    cases arrangement.isGreater with
    | false => exact .inl rfl
    | true => exact .inr rfl
  · split at decoded
    · cases decoded
    · cases decoded
      exact ⟨rfl, rfl, .inl rfl⟩

namespace Decode

variable {lines : List String} {affixes : List Affix} (decode : Decode lexicon lines affixes)

include decode

theorem exists_line {affix : Affix} (member : affix ∈ affixes) :
    ∃ line ∈ lines, decodeAffix lexicon line = .ok affix :=
  (mem_of_mapM_eq_ok (mapM_eq_ok_iff.2 decode)).1 member

theorem kinds : ∀ affix ∈ affixes, affix.kind = .normal ∨ affix.kind = .greater := by
  intro affix member
  obtain ⟨line, _, decoded⟩ := decode.exists_line member
  exact (decodeAffix_eq_ok decoded).2.2

theorem names : ∀ affix ∈ affixes, lexicon.Names affix := by
  intro affix member
  obtain ⟨line, _, decoded⟩ := decode.exists_line member
  obtain ⟨name, text, _⟩ := decodeAffix_eq_ok decoded
  rw [← text] at name
  constructor
  · intro known
    rw [name]
    exact Lexicon.resolveAffix_mem known affix.text
  · intro unknown
    rw [name]
    exact Lexicon.resolveAffix_of_no_affixes unknown affix.text

end Decode

/-! The layout. -/

/-- In place of a fourth affix, the block tells that there are three. -/
def TellsOfThree (block : List String) (rarity : Rarity) (firstAffix : Nat) : Prop :=
  ∃ line, block[firstAffix + 3]? = some line ∧ MarksThreeAffixes rarity line

theorem affixCountAt_cases (block : List String) (rarity : Rarity) (firstAffix : Nat) :
    Layout.affixCountAt block rarity firstAffix = 3 ∧ TellsOfThree block rarity firstAffix ∨
      Layout.affixCountAt block rarity firstAffix = 4 ∧
        ¬ TellsOfThree block rarity firstAffix := by
  unfold Layout.affixCountAt
  split
  · next line fourth =>
    simp only [beginsWithMarker_iff]
    by_cases marks : MarksThreeAffixes rarity line
    · rw [if_pos marks]
      exact .inl ⟨rfl, line, fourth, marks⟩
    · rw [if_neg marks]
      refine .inr ⟨rfl, ?_⟩
      rintro ⟨other, same, otherMarks⟩
      cases fourth.symm.trans same
      exact marks otherMarks
  · next absent =>
    refine .inr ⟨rfl, ?_⟩
    rintro ⟨line, fourth, _⟩
    cases absent.symm.trans fourth

theorem locate_eq_ok {type : ItemType} {rarity : Rarity} {own : Option Nat} {layout : Layout}
    (located : Layout.locate block type rarity own = .ok layout) :
    start? block type = some layout.start ∧
      layout.inherentCount = inherentCount type rarity own ∧
      layout.affixCount =
        Layout.affixCountAt block rarity (layout.start + layout.inherentCount) ∧
      layout.aspectLine =
        let line := layout.start + layout.inherentCount + layout.affixCount
        if rarity.hasAspect && line < block.length then some line else none := by
  unfold Layout.locate at located
  split at located
  · cases located
  · next start started =>
    dsimp only at located
    split at located
    · cases located
    · cases located
      exact ⟨started, rfl, rfl, rfl⟩

/-! Names. -/

/-- Only uniques and mythics may have a number of inherent lines for themselves. -/
theorem inherentCount_congr (type : ItemType) {rarity : Rarity} {own other : Option Nat}
    (same : rarity.isUniqueOrMythic = true → own = other) :
    inherentCount type rarity own = inherentCount type rarity other := by
  unfold inherentCount
  cases ranked : rarity.isUniqueOrMythic with
  | false => rfl
  | true => rw [same ranked]

/-- The tiers below those whose items the lexicon names. -/
theorem Rarity.nameless_of_hasAspect {rarity : Rarity} (noAspect : rarity.hasAspect = false) :
    rarity.isUniqueOrMythic ≠ true ∧ rarity ≠ .legendary := by
  revert rarity
  decide

/-- What the lexicon knows the item by. -/
inductive Identified (lexicon : Lexicon) (item : Item) : Identity → Prop
  | unique {id : String} (ranked : item.rarity.isUniqueOrMythic = true)
    (known : lexicon.resolveUnique? item.name = some id) :
    Identified lexicon item ⟨id, id, lexicon.inherentCount? id⟩
  | legendary {id : String} (ranked : item.rarity = .legendary)
    (known : lexicon.resolveAspect? item.name = some id) :
    Identified lexicon item ⟨item.name, id, none⟩
  | nameless (ranked : item.rarity.hasAspect = false) :
    Identified lexicon item ⟨item.name, "", none⟩

theorem identified_of_identify {item : Item} {identity : Identity}
    (identified : identify lexicon item = .ok identity) : Identified lexicon item identity := by
  unfold identify at identified
  split at identified
  · next ranked =>
    split at identified
    · next id known =>
      cases identified
      exact .unique ranked known
    · cases identified
  · next notUnique =>
    split at identified
    · next ranked =>
      split at identified
      · next id known =>
        cases identified
        exact .legendary ranked known
      · cases identified
    · next notLegendary =>
      cases identified
      apply Identified.nameless
      cases ranked : item.rarity with
      | common | magic | rare => rfl
      | legendary => exact absurd ranked notLegendary
      | unique | mythic =>
        rw [ranked] at notUnique
        exact absurd rfl notUnique

/-! Gear. -/

/-- The item is decoded from lines that follow each other: inherents from `start` on, then affixes,
then an aspect. What the block no longer has is missing from the end. -/
structure Trace (lexicon : Lexicon) (block : List String) (type : ItemType) (item : Item)
    (start inherentSpan affixSpan : Nat) : Prop where
  started : start? block type = some start
  inherentCount :
    inherentSpan = inherentCount type item.rarity (lexicon.inherentCount? item.name)
  affixCount : affixSpan = 3 ∧ TellsOfThree block item.rarity (start + inherentSpan) ∨
    affixSpan = 4 ∧ ¬ TellsOfThree block item.rarity (start + inherentSpan)
  inherents : ∃ rolls, Decode lexicon ((block.drop start).take inherentSpan) rolls ∧
    item.inherents = rolls.map fun roll => { roll with kind := .inherent }
  affixes : Decode lexicon ((block.drop (start + inherentSpan)).take affixSpan) item.affixes
  kinds : ∀ affix ∈ item.affixes, affix.kind = .normal ∨ affix.kind = .greater
  aspect : ∀ aspect, item.aspect = some aspect →
    ∃ line, block[start + inherentSpan + affixSpan]? = some line ∧
      ShowsAspect item.rarity aspect.name line aspect
  hasAspect : item.aspect ≠ none ↔
    item.rarity.hasAspect = true ∧ start + inherentSpan + affixSpan < block.length

/-- The names of the item and of its aspect come from the lexicon. -/
structure WellNamed (lexicon : Lexicon) (item : Item) : Prop where
  unique : item.rarity.isUniqueOrMythic = true → item.name ∈ lexicon.uniques.keys
  uniqueAspect : item.rarity.isUniqueOrMythic = true →
    ∀ aspect, item.aspect = some aspect → aspect.name = item.name
  legendary : item.rarity = .legendary → ∃ id ∈ lexicon.aspects.keys,
    occursIn id.toList item.name.toList = true ∧
      ∀ aspect, item.aspect = some aspect → aspect.name = id

namespace Trace

variable {type : ItemType} {item : Item} {start inherentSpan affixSpan : Nat}
  (trace : Trace lexicon block type item start inherentSpan affixSpan)

include trace

theorem names : ∀ affix ∈ item.inherents ++ item.affixes, lexicon.Names affix := by
  obtain ⟨rolls, decode, inherents⟩ := trace.inherents
  intro affix member
  rw [inherents] at member
  rcases List.mem_append.1 member with inherent | rolled
  · obtain ⟨roll, inRolls, rfl⟩ := List.mem_map.1 inherent
    obtain ⟨known, unknown⟩ := decode.names roll inRolls
    exact ⟨known, unknown⟩
  · exact trace.affixes.names affix rolled

/-- The line of the aspect comes last, so where it is present all others are. -/
theorem complete (present : item.aspect ≠ none) :
    item.inherents.length = inherentSpan ∧ item.affixes.length = affixSpan := by
  have reaches := (trace.hasAspect.1 present).2
  obtain ⟨rolls, decode, inherents⟩ := trace.inherents
  have inherentLines := decode.length_eq
  have affixLines := trace.affixes.length_eq
  rw [List.length_take, List.length_drop] at inherentLines affixLines
  rw [inherents, List.length_map]
  omega

end Trace

theorem aspectOf_name (rarity : Rarity) (line name : String) :
    (aspectOf rarity line name).name = name := by
  unfold aspectOf
  split <;> rfl

/-- The line at a place that was checked against the end of the block. -/
theorem aspectLine_bind (given : Bool) (place : Nat) :
    (if given && place < block.length then some place else none).bind (block[·]?) =
      if given then block[place]? else none := by
  cases given with
  | false => rfl
  | true =>
    by_cases inside : place < block.length
    · simp [inside]
    · simp [inside]

theorem Identified.wellNamed {item : Item} {identity : Identity}
    (identified : Identified lexicon item identity) (inherents affixes : List Affix)
    (line? : Option String) :
    WellNamed lexicon { item with
      name := identity.name
      inherents := inherents
      affixes := affixes
      aspect := line?.map fun line => aspectOf item.rarity line identity.aspectName } := by
  have aspectName : ∀ aspect, (line?.map fun line =>
      aspectOf item.rarity line identity.aspectName) = some aspect →
      aspect.name = identity.aspectName := by
    intro aspect present
    obtain ⟨line, _, rfl⟩ := Option.map_eq_some_iff.1 present
    exact aspectOf_name item.rarity line identity.aspectName
  cases identified with
  | unique ranked known =>
    refine ⟨fun _ => Lexicon.mem_of_resolveUnique? known, fun _ => aspectName, ?_⟩
    intro legendary
    rw [legendary] at ranked
    cases ranked
  | legendary ranked known =>
    have notUnique : item.rarity.isUniqueOrMythic ≠ true := by
      rw [ranked]
      exact Bool.false_ne_true
    refine ⟨fun unique => absurd unique notUnique, fun unique => absurd unique notUnique, ?_⟩
    intro _
    obtain ⟨member, occurs⟩ := Lexicon.mem_of_resolveAspect? known
    exact ⟨_, member, occurs, aspectName⟩
  | nameless ranked =>
    obtain ⟨notUnique, notLegendary⟩ := Rarity.nameless_of_hasAspect ranked
    exact ⟨fun unique => absurd unique notUnique, fun unique => absurd unique notUnique,
      fun legendary => absurd legendary notLegendary⟩

theorem Identified.inherentCount_eq {item : Item} {identity : Identity} (type : ItemType)
    (identified : Identified lexicon item identity) :
    inherentCount type item.rarity identity.ownInherentCount =
      inherentCount type item.rarity (lexicon.inherentCount? identity.name) := by
  apply inherentCount_congr
  intro unique
  cases identified with
  | unique => rfl
  | legendary ranked =>
    rw [ranked] at unique
    cases unique
  | nameless ranked =>
    cases rarity : item.rarity <;> rw [rarity] at unique ranked <;> cases unique <;> cases ranked

theorem trace_of_readRolls {type : ItemType} {start item : Item}
    (read : readRolls lexicon block type start = .ok item) :
    item.type = start.type ∧ item.rarity = start.rarity ∧ item.sanctified = start.sanctified ∧
      (∃ place inherentSpan affixSpan,
        Trace lexicon block type item place inherentSpan affixSpan) ∧
      WellNamed lexicon item := by
  unfold readRolls at read
  obtain ⟨identity, identified, read⟩ := bind_eq_ok_iff.1 read
  obtain ⟨layout, located, read⟩ := bind_eq_ok_iff.1 read
  obtain ⟨inherents, decodeInherents, read⟩ := bind_eq_ok_iff.1 read
  obtain ⟨affixes, decodeAffixes, read⟩ := bind_eq_ok_iff.1 read
  cases read
  have known := identified_of_identify identified
  obtain ⟨started, inherentCount, affixCount, aspectLine⟩ := locate_eq_ok located
  have decode : Decode lexicon (layout.affixLines block) affixes := mapM_eq_ok_iff.1 decodeAffixes
  refine ⟨rfl, rfl, rfl, ⟨layout.start, layout.inherentCount, layout.affixCount, ?_⟩,
    known.wellNamed _ _ _⟩
  rw [aspectLine, aspectLine_bind]
  constructor
  case started => exact started
  case inherentCount => exact inherentCount.trans (known.inherentCount_eq type)
  case affixCount =>
    rw [affixCount]
    exact affixCountAt_cases block start.rarity (layout.start + layout.inherentCount)
  case inherents => exact ⟨inherents, mapM_eq_ok_iff.1 decodeInherents, rfl⟩
  case affixes => exact decode
  case kinds => exact decode.kinds
  case aspect =>
    intro aspect present
    obtain ⟨line, found, rfl⟩ := Option.map_eq_some_iff.1 present
    refine ⟨line, (Option.ite_none_right_eq_some.1 found).2, ?_⟩
    rw [aspectOf_name]
    exact showsAspect_aspectOf start.rarity identity.aspectName line
  case hasAspect =>
    simp

/-! Whole blocks. -/

theorem hasNoRolls_of_classify {rule : Rule} {item : Item}
    (classified : classify block = .ok (rule, item)) : item.HasNoRolls := by
  obtain ⟨title, typeLine, rest, _, _, rfl⟩ := classify_eq_ok classified
  cases rule <;> exact ⟨rfl, rfl, rfl⟩

/-- The ways in which a block becomes an item. -/
inductive Reading (lexicon : Lexicon) (block : List String) (item : Item) : Prop
  | plain (plain : item.IsPlain) (noRolls : item.HasNoRolls)
  | sigil {type : ItemType} (typed : item.type = some type) (isSigil : type.isSigil = true)
    (inherents : item.inherents = []) (aspect : item.aspect = none)
  | rolled {type : ItemType} {start inherentSpan affixSpan : Nat} (gear : item.IsRolledGear type)
    (trace : Trace lexicon block type item start inherentSpan affixSpan)
    (named : WellNamed lexicon item)

theorem reading_of_readGear {type : ItemType} {outline item : Item}
    (typed : outline.type = some type) (isGear : type.isGear = true) (bare : outline.HasNoRolls)
    (read : readGear lexicon block type outline = .ok item) : Reading lexicon block item := by
  unfold readGear at read
  dsimp only at read
  split at read
  · next isPlain =>
    cases read
    apply Reading.plain
    · simp only [isPlainGear, Bool.or_eq_true, decide_eq_true_eq] at isPlain
      obtain (marked | common) | magic := isPlain
      · exact .sanctified typed isGear marked
      · exact .ordinary typed isGear (.inl common)
      · exact .ordinary typed isGear (.inr magic)
    · exact ⟨bare.affixes, bare.inherents, bare.aspect⟩
  · next notPlain =>
    obtain ⟨sameType, sameRarity, sameMark, ⟨start, inherentSpan, affixSpan, trace⟩, named⟩ :=
      trace_of_readRolls read
    simp only [isPlainGear, Bool.or_eq_true, decide_eq_true_eq, not_or,
      Bool.not_eq_true] at notPlain
    obtain ⟨⟨unmarked, notCommon⟩, notMagic⟩ := notPlain
    refine .rolled ⟨sameType.trans typed, isGear, sameMark.trans unmarked, ?_, ?_⟩ trace named
    · rw [sameRarity]
      exact notCommon
    · rw [sameRarity]
      exact notMagic

theorem reading_of_read {item : Item} (succeeds : read lexicon block = .ok item) :
    Reading lexicon block item := by
  unfold read at succeeds
  obtain ⟨⟨rule, heading⟩, classified, succeeds⟩ := bind_eq_ok_iff.1 succeeds
  obtain ⟨affixes, inherents, aspect⟩ := hasNoRolls_of_classify classified
  dsimp only at succeeds
  split at succeeds
  · next type typed =>
    split at succeeds
    · next isSigil =>
      cases succeeds
      exact .sigil typed isSigil inherents aspect
    · next noSigil =>
      split at succeeds
      · next isGear =>
        refine reading_of_readGear ?_ isGear ?_ succeeds
        · exact typed
        · exact ⟨affixes, inherents, aspect⟩
      · next noGear =>
        cases succeeds
        exact .plain (.noGear typed (Bool.eq_false_iff.2 noSigil) (Bool.eq_false_iff.2 noGear))
          ⟨affixes, inherents, aspect⟩
  · next untyped =>
    cases succeeds
    exact .plain (.untyped untyped) ⟨affixes, inherents, aspect⟩

theorem sigil_is_no_gear {item : Item} {type other : ItemType} (typed : item.type = some type)
    (isSigil : type.isSigil = true) (gearTyped : item.type = some other) :
    ¬ other.isGear = true := by
  intro isGear
  cases typed.symm.trans gearTyped
  rw [isSigil_of_isGear _ isGear] at isSigil
  cases isSigil

namespace Reading

variable {item : Item} (reading : Reading lexicon block item)

include reading

theorem hasNoRolls (plain : item.IsPlain) : item.HasNoRolls := by
  cases reading with
  | plain _ noRolls => exact noRolls
  | sigil typed isSigil =>
    exfalso
    cases plain with
    | untyped none =>
      rw [typed] at none
      cases none
    | noGear other noSigil =>
      cases typed.symm.trans other
      rw [isSigil] at noSigil
      cases noSigil
    | sanctified other isGear | ordinary other isGear =>
      exact sigil_is_no_gear typed isSigil other isGear
  | rolled gear => exact absurd plain gear.not_isPlain

theorem trace {type : ItemType} (gear : item.IsRolledGear type) :
    (∃ start inherentSpan affixSpan,
      Trace lexicon block type item start inherentSpan affixSpan) ∧ WellNamed lexicon item := by
  cases reading with
  | plain plain => exact absurd plain gear.not_isPlain
  | sigil typed isSigil => exact absurd gear.isGear (sigil_is_no_gear typed isSigil gear.typed)
  | rolled other trace named =>
    cases other.typed.symm.trans gear.typed
    exact ⟨⟨_, _, _, trace⟩, named⟩

theorem hasAspect {aspect : Aspect} (present : item.aspect = some aspect) :
    (∃ type, item.IsRolledGear type) ∧
      (item.rarity = .legendary ∨ item.rarity = .unique ∨ item.rarity = .mythic) := by
  cases reading with
  | plain _ noRolls =>
    rw [noRolls.aspect] at present
    cases present
  | sigil _ _ _ absent =>
    rw [absent] at present
    cases present
  | @rolled type _ _ _ gear trace =>
    have given : item.aspect ≠ none := by
      rw [present]
      exact Option.some_ne_none aspect
    have tiers : ∀ rarity : Rarity, rarity.hasAspect = true →
        rarity = .legendary ∨ rarity = .unique ∨ rarity = .mythic := by
      decide
    exact ⟨⟨type, gear⟩, tiers item.rarity (trace.hasAspect.1 given).1⟩

theorem names {type : ItemType} (typed : item.type = some type) (isGear : type.isGear = true) :
    ∀ affix ∈ item.inherents ++ item.affixes, lexicon.Names affix := by
  cases reading with
  | plain _ noRolls =>
    rw [noRolls.inherents, noRolls.affixes]
    exact List.forall_mem_nil _
  | sigil other isSigil => exact absurd isGear (sigil_is_no_gear other isSigil typed)
  | rolled _ trace => exact trace.names

end Reading

/-- Every item that was read is traceable to the lines of its block, and what its parts are called
to the lexicon. Items that are no gear, and gear that is sanctified, common or magic, have no parts.
All other gear has its inherents, affixes and aspect from consecutive lines; it has an aspect only
if it is legendary, unique or mythic and no line before that of the aspect is missing. -/
theorem read_traceable (lexicon : Lexicon) (block : List String) (item : Item)
    (succeeds : read lexicon block = .ok item) :
    (item.IsPlain → item.HasNoRolls) ∧
    (∀ type, item.IsRolledGear type → ∃ start inherentSpan affixSpan,
      Trace lexicon block type item start inherentSpan affixSpan ∧
        (item.aspect ≠ none →
          item.inherents.length = inherentSpan ∧ item.affixes.length = affixSpan)) ∧
    (∀ aspect, item.aspect = some aspect → (∃ type, item.IsRolledGear type) ∧
      (item.rarity = .legendary ∨ item.rarity = .unique ∨ item.rarity = .mythic)) ∧
    (∀ type, item.type = some type → type.isGear = true →
      ∀ affix ∈ item.inherents ++ item.affixes, lexicon.Names affix) ∧
    (∀ type, item.IsRolledGear type → WellNamed lexicon item) := by
  have reading := reading_of_read succeeds
  refine ⟨reading.hasNoRolls, ?_, fun _ => reading.hasAspect, fun _ => reading.names,
    fun _ gear => (reading.trace gear).2⟩
  intro type gear
  obtain ⟨⟨start, inherentSpan, affixSpan, trace⟩, _⟩ := reading.trace gear
  exact ⟨start, inherentSpan, affixSpan, trace, trace.complete⟩

/-! A mythic helm with an inherent line for itself. -/

def crestLexicon : Lexicon :=
  (Lexicon.empty.addUniques [("harlequin_crest", some 1)]).addAffixes
    ["damage_reduction", "maximum_life"]

def harlequinCrest : List String :=
  ["HARLEQUIN CREST", "Mythic Helm", "800 Item Power", "200 Armor",
    "20.0% Damage Reduction [20.0]%", "+1,200 Maximum Life",
    "10.0% Damage Reduction [8.0 - 12.0]%", "+900 Life [700 - 1,000]",
    "+350 Maximum Life [300 - 400]", "Gain 25.0% Damage Reduction.", "Requires Level 35"]

/-- The aspect of the crest, which has the first number of its line for its value. -/
def crestAspect : Aspect where
  name := "harlequin_crest"
  text := "Gain 25.0% Damage Reduction."
  roll := .bare (decimalValue "25".toList "0".toList)

theorem harlequinCrest_traceable : ∃ item, read crestLexicon harlequinCrest = .ok item ∧
    item.IsRolledGear .helm ∧ item.aspect = some crestAspect ∧
    Trace crestLexicon harlequinCrest .helm item 4 1 4 ∧
    (∀ affix ∈ item.inherents ++ item.affixes,
      affix.name ∈ ["damage_reduction", "maximum_life"]) ∧
    item.name ∈ crestLexicon.uniques.keys := by
  have shown : (read crestLexicon harlequinCrest).toOption.any (fun item =>
      item.type = some .helm ∧ item.rarity = .mythic ∧ item.sanctified = false ∧
        item.inherents.length = 1 ∧ item.affixes.length = 4 ∧
        item.aspectName? = some "harlequin_crest") = true := by
    decide +kernel
  cases succeeds : read crestLexicon harlequinCrest with
  | error fault =>
    rw [succeeds] at shown
    cases shown
  | ok item =>
    rw [succeeds] at shown
    obtain ⟨typed, ranked, unmarked, inherents, affixes, aspectNamed⟩ := of_decide_eq_true shown
    have gear : item.IsRolledGear .helm := by
      refine ⟨typed, rfl, unmarked, ?_, ?_⟩ <;> rw [ranked] <;> decide
    obtain ⟨aspect, present, named⟩ := Option.map_eq_some_iff.1 aspectNamed
    obtain ⟨_, traced, _, names, wellNamed⟩ :=
      read_traceable crestLexicon harlequinCrest item succeeds
    obtain ⟨start, inherentSpan, affixSpan, trace, complete⟩ := traced .helm gear
    obtain ⟨inherentLines, affixLines⟩ := complete (present ▸ Option.some_ne_none aspect)
    have started : start? harlequinCrest .helm = some 4 := by decide +kernel
    cases started.symm.trans trace.started
    rw [← inherentLines, ← affixLines, inherents, affixes] at trace
    obtain ⟨line, found, shows⟩ := trace.aspect aspect present
    cases found
    rw [ranked, named] at shows
    have same : aspect = crestAspect := shows.unique (showsAspect_aspectOf .mythic _ _)
    refine ⟨item, rfl, gear, present.trans (congrArg some same), trace, ?_, ?_⟩
    · intro affix member
      exact (names .helm typed rfl affix member).known (List.cons_ne_nil _ _)
    · exact (wellNamed .helm gear).unique (by rw [ranked]; rfl)

end Tooltip

end LootSieve
