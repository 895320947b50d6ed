import LootSieve.Engine

/-!
What comes of blocks one after another. Each block gives an outcome or is passed over, so the
outcomes and the blocks that could not be read are as many as the blocks.
-/

namespace LootSieve.Engine

/-- The lines of the block have positions. Reading any other block has no result at all, not even a
failure that passes the block over. -/
def Addressable (engine : Engine) (block : List String) : Prop :=
  engine.read block ≠ .error .positionOverflow

variable {engine : Engine} {block : List String} {blocks : List (List String)}

theorem addressable_of_read_eq_ok {item : Item} (readable : engine.read block = .ok item) :
    engine.Addressable block := by
  rw [Addressable, readable]
  exact nofun

instance instDecidableAddressable (engine : Engine) (block : List String) :
    Decidable (engine.Addressable block) :=
  match reading : engine.read block with
  | .ok item => .isTrue (addressable_of_read_eq_ok reading)
  | .error fault => decidable_of_iff (fault ≠ .positionOverflow) <| by
    rw [Addressable, reading, ne_eq, ne_eq, Except.error.injEq]

theorem process_of_read_eq_ok {item : Item} (readable : engine.read block = .ok item) :
    engine.process block = some ⟨item, engine.judge item⟩ := by
  rw [process, readable]

theorem process_of_read_eq_error {fault : Tooltip.ReadError}
    (unreadable : engine.read block = .error fault) : engine.process block = none := by
  rw [process, unreadable]

theorem process_eq_map (engine : Engine) (block : List String) :
    engine.process block =
      (engine.read block).toOption.map fun item => ⟨item, engine.judge item⟩ := by
  cases reading : engine.read block with
  | ok item => exact process_of_read_eq_ok reading
  | error fault => exact process_of_read_eq_error reading

theorem outcomes_concat (engine : Engine) (blocks : List (List String)) (block : List String) :
    engine.outcomes (blocks ++ [block]) =
      engine.outcomes blocks ++ (engine.process block).toList := by
  rw [outcomes, List.filterMap_append, ← outcomes]
  apply congrArg (engine.outcomes blocks ++ ·)
  cases processed : engine.process block with
  | none => exact List.filterMap_cons_none processed
  | some outcome => exact List.filterMap_cons_some processed

/-- Every block that can be read is decided about, in the order of the blocks. -/
theorem outcomes_eq_map (engine : Engine) (blocks : List (List String)) :
    engine.outcomes blocks =
      (blocks.filterMap fun block => (engine.read block).toOption).map fun item =>
        ⟨item, engine.judge item⟩ := by
  rw [List.map_filterMap]
  apply congrArg (List.filterMap · blocks)
  funext block
  exact engine.process_eq_map block

theorem tally_concat (engine : Engine) (blocks : List (List String)) (block : List String) :
    engine.tally (blocks ++ [block]) = {
      blocks := (engine.tally blocks).blocks + 1
      failed := (engine.tally blocks).failed + if (engine.process block).isNone then 1 else 0
      kept := (engine.tally blocks).kept +
        (engine.process block).toList.countP (·.verdict.keep) } := by
  simp only [tally, outcomes_concat, List.length_append, List.countP_append, List.length_singleton,
    List.countP_singleton]

theorem length_eq_failed_add_outcomes (engine : Engine) (blocks : List (List String)) :
    blocks.length = (engine.tally blocks).failed + (engine.outcomes blocks).length := by
  have answered : (fun block => decide ¬(engine.process block).isNone = true) =
      fun block => (engine.process block).isSome := by
    funext block
    cases engine.process block <;> rfl
  calc blocks.length
    _ = blocks.countP (fun block => (engine.process block).isNone) +
        blocks.countP (fun block => decide ¬(engine.process block).isNone = true) :=
      List.length_eq_countP_add_countP _
    _ = (engine.tally blocks).failed + (engine.outcomes blocks).length := by
      rw [answered, outcomes, List.length_filterMap_eq_countP]
      rfl

/-- Knows no names and has no profiles. -/
def plain : Engine := ⟨Lexicon.empty, .standard, []⟩

end LootSieve.Engine
