import LootSieve.Profile.Draft
import LootSieve.Proofs.Optional

/-!
The counts of a draft that was read are numbers of 64 bits, so none of them exceeds the count that
stands for no limit. What a reader yields is followed from single values through lists and fields
to a whole draft.
-/

namespace LootSieve
open Yaml Yaml.Value

/-! What a reader yields. -/

/-- Whatever the reader makes of a value has the property. -/
def Yields {α : Type} (read? : Value → Option α) (holds : α → Prop) : Prop :=
  ∀ value result, read? value = some result → holds result

theorem forall_of_mapM_eq_some {α β : Type} {step : α → Option β} {holds : β → Prop}
    {values : List α} {results : List β}
    (each : ∀ value result, step value = some result → holds result)
    (read : values.mapM step = some results) : ∀ result ∈ results, holds result := by
  rw [Optional.mapM_eq_some_iff] at read
  induction read with
  | nil => exact List.forall_mem_nil holds
  | cons head _ ih => exact List.forall_mem_cons.2 ⟨each _ _ head, ih⟩

namespace Yields

variable {α : Type} {read? : Value → Option α} {holds : α → Prop} (yields : Yields read? holds)

include yields

theorem listOf : Yields (listOf? read?) fun results => ∀ result ∈ results, holds result := by
  intro value results read
  cases value with
  | list items => exact forall_of_mapM_eq_some yields read
  | _ => cases read

theorem listOrNull :
    Yields (listOrNull? read?) fun results => ∀ result ∈ results, holds result := by
  intro value results read
  unfold listOrNull? at read
  split at read
  · cases read
    exact List.forall_mem_nil holds
  · exact yields.listOf _ _ read

theorem orNull : Yields (orNull? read?) fun result? => ∀ result, result? = some result →
    holds result := by
  rintro value _ read result rfl
  unfold orNull? at read
  split at read
  · cases read
  · obtain ⟨other, inner, same⟩ := Option.map_eq_some_iff.1 read
    cases same
    exact yields _ _ inner

/-- A field that is absent has its standard value. -/
theorem fieldOr {fields : List (String × Value)} {name : String} {standard result : α}
    (absent : holds standard) (read : fieldOr? fields name standard read? = some result) :
    holds result := by
  unfold fieldOr? at read
  split at read
  · exact yields _ _ read
  · cases read
    exact absent

theorem listField {fields : List (String × Value)} {name : String} {results : List α}
    (read : fieldOr? fields name [] (listOrNull? read?) = some results) :
    ∀ result ∈ results, holds result :=
  yields.listOrNull.fieldOr (List.forall_mem_nil holds) read

theorem optionalField {fields : List (String × Value)} {name : String} {result? : Option α}
    (read : fieldOr? fields name none (orNull? read?) = some result?) :
    ∀ result, result? = some result → holds result := by
  refine yields.orNull.fieldOr ?_ read
  exact nofun

end Yields

/-! Drafts. -/

theorem yields_count : Yields Draft.count? (· ≤ Pool.unlimited) := by
  intro value result read
  unfold Draft.count? naturalBelow? at read
  obtain ⟨integer, inRange, rfl⟩ := Option.map_eq_some_iff.1 read
  cases value with
  | integer number =>
    simp only [integerIn?, Option.ite_none_right_eq_some, Option.some.injEq] at inRange
    obtain ⟨bounds, rfl⟩ := inRange
    unfold Pool.unlimited
    omega
  | _ => cases inRange

/-- The lower count is at most the one that stands for no limit. -/
def PoolDraft.CountFits (draft : PoolDraft) : Prop :=
  ∀ low, draft.minCount = some low → low ≤ Pool.unlimited

structure ItemFilterDraft.CountsFit (draft : ItemFilterDraft) : Prop where
  affixPools : ∀ pool ∈ draft.affixPools, pool.CountFits
  inherentPools : ∀ pool ∈ draft.inherentPools, pool.CountFits

def ProfileDraft.CountsFit (draft : ProfileDraft) : Prop :=
  ∀ group ∈ draft.affixes, ∀ filter ∈ group, filter.2.CountsFit

theorem yields_pool : Yields Draft.pool? PoolDraft.CountFits := by
  intro value draft read
  simp only [Draft.pool?, Option.bind_eq_bind, Option.bind_eq_some_iff, Option.pure_def,
    Option.some.injEq] at read
  obtain ⟨fields, -, count, -, minCount, readMin, maxCount, -, greaterCount, -, rfl⟩ := read
  exact yields_count.optionalField readMin

theorem yields_itemFilter : Yields Draft.itemFilter? ItemFilterDraft.CountsFit := by
  intro value draft read
  simp only [Draft.itemFilter?, Option.bind_eq_bind, Option.bind_eq_some_iff, Option.pure_def,
    Option.some.injEq] at read
  obtain ⟨fields, -, affixPools, readAffix, inherentPools, readInherent, types, -, greater, -,
    power, -, rfl⟩ := read
  exact ⟨yields_pool.listField readAffix, yields_pool.listField readInherent⟩

theorem yields_itemFilters :
    Yields Draft.itemFilters? fun filters => ∀ filter ∈ filters, filter.2.CountsFit := by
  intro value filters read
  simp only [Draft.itemFilters?, Option.bind_eq_bind, Option.bind_eq_some_iff, Option.pure_def,
    Option.some.injEq] at read
  obtain ⟨entries, -, named, readEach, rfl⟩ := read
  have each : ∀ (entry : String × Value) (filter : String × ItemFilterDraft),
      ((Draft.itemFilter? entry.2).bind fun draft => some (entry.1, draft)) = some filter →
        filter.2.CountsFit := by
    intro entry filter readOne
    obtain ⟨draft, readDraft, same⟩ := Option.bind_eq_some_iff.1 readOne
    cases same
    exact yields_itemFilter _ _ readDraft
  intro filter member
  exact forall_of_mapM_eq_some each readEach filter (List.mem_mergeSort.1 member)

theorem yields_profile : Yields Draft.profile? ProfileDraft.CountsFit := by
  intro value draft read
  simp only [Draft.profile?, Option.bind_eq_bind, Option.bind_eq_some_iff, Option.pure_def,
    Option.some.injEq] at read
  obtain ⟨fields, -, affixes, readAffixes, aspects, -, sigils, -, tributes, -, uniques, -, rfl⟩ :=
    read
  exact yields_itemFilters.listField readAffixes

/-- The counts of every draft that the reader makes of a tree are numbers of 64 bits. -/
def TreeReader.CountsFit {Tree : Type} (reader : TreeReader Tree) : Prop :=
  ∀ tree draft, reader.draft? tree = some draft → draft.CountsFit

theorem TreeReader.countsFit_generic : generic.CountsFit := yields_profile

end LootSieve
