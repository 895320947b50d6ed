import LootSieve.Proofs.Lexicon.Lookup
import LootSieve.Proofs.Text.ByteOrder

/-! The aspect that an item name contains. Each addition of aspects makes the search order anew, so
however a lexicon was put together the order holds every aspect id once, longest first, and the
first one found in a name is the longest one in it. -/

namespace LootSieve

/-! Tables. -/

theorem Table.mem_keys_insertAll {β : Type} (table : Table β) (entries : List (String × β))
    (key : String) : key ∈ (table.insertAll entries).keys ↔
      key ∈ table.keys ∨ key ∈ entries.map Prod.fst := by
  induction entries generalizing table with
  | nil => simp [insertAll]
  | cons entry rest ih =>
    obtain ⟨first, value⟩ := entry
    change key ∈ ((table.insert first value).insertAll rest).keys ↔ _
    rw [ih, mem_keys_insert, List.map_cons, List.mem_cons, ← or_assoc, or_comm (a := key = first)]

namespace Lexicon

theorem mem_keys_withIds (table : Table Unit) (ids : List String) (id : String) :
    id ∈ (withIds table ids).keys ↔ id ∈ table.keys ∨ id ∈ ids := by
  have names : (ids.map fun id => (id, ())).map Prod.fst = ids := by
    rw [List.map_map]
    exact List.map_id ids
  rw [withIds, Table.mem_keys_insertAll, names]

/-! Lexicons put together step by step. -/

/-- A batch of entries for one of the tables. -/
inductive Addition where
  | affixes (ids : List String)
  | uniques (entries : List (String × Option Nat))
  | aspects (ids : List String)
  | sigils (ids : List String)
  | tributes (ids : List String)

def add (lexicon : Lexicon) : Addition → Lexicon
  | .affixes ids => lexicon.addAffixes ids
  | .uniques entries => lexicon.addUniques entries
  | .aspects ids => lexicon.addAspects ids
  | .sigils ids => lexicon.addSigils ids
  | .tributes ids => lexicon.addTributes ids

/-- The lexicon after a series of additions to the empty one. -/
def ofAdditions (additions : List Addition) : Lexicon := additions.foldl add empty

def Addition.aspectIds : Addition → List String
  | aspects ids => ids
  | _ => []

/-- The aspect ids of a series of additions, as often as they come. -/
def aspectIds (additions : List Addition) : List String := additions.flatMap Addition.aspectIds

theorem mem_aspects_add (lexicon : Lexicon) (addition : Addition) (id : String) :
    id ∈ (lexicon.add addition).aspects.keys ↔
      id ∈ lexicon.aspects.keys ∨ id ∈ addition.aspectIds := by
  cases addition with
  | aspects ids => exact mem_keys_withIds lexicon.aspects ids id
  | affixes | uniques | sigils | tributes => exact (or_iff_left List.not_mem_nil).symm

theorem mem_aspects_foldl (lexicon : Lexicon) (additions : List Addition) (id : String) :
    id ∈ (additions.foldl add lexicon).aspects.keys ↔
      id ∈ lexicon.aspects.keys ∨ id ∈ aspectIds additions := by
  induction additions generalizing lexicon with
  | nil => exact (or_iff_left List.not_mem_nil).symm
  | cons addition rest ih =>
    have split : aspectIds (addition :: rest) = addition.aspectIds ++ aspectIds rest :=
      List.flatMap_cons
    rw [List.foldl_cons, ih, mem_aspects_add, split, List.mem_append, or_assoc]

theorem mem_aspects_ofAdditions (additions : List Addition) (id : String) :
    id ∈ (ofAdditions additions).aspects.keys ↔ id ∈ aspectIds additions := by
  rw [ofAdditions, mem_aspects_foldl]
  exact or_iff_right List.not_mem_nil

/-! The search. -/

/-- The longest of the ids that occur in a name, the first one of several. -/
structure IsLongest (ids : List String) (name id : String) : Prop where
  known : id ∈ ids
  occurs : id.toList <:+: name.toList
  longest : ∀ other ∈ ids, other.toList <:+: name.toList →
    (Text.bytes other).length ≤ (Text.bytes id).length
  first : ∀ other ∈ ids, other.toList <:+: name.toList →
    (Text.bytes other).length = (Text.bytes id).length → Text.bytes id ≤ Text.bytes other

theorem IsLongest.unique {ids : List String} {name id other : String}
    (one : IsLongest ids name id) (two : IsLongest ids name other) : id = other := by
  have sameLength := Nat.le_antisymm (two.longest id one.known one.occurs)
    (one.longest other two.known two.occurs)
  apply String.le_antisymm
  · exact Text.bytes_le_bytes_iff.1 (one.first other two.known two.occurs sameLength.symm)
  · exact Text.bytes_le_bytes_iff.1 (two.first id one.known one.occurs sameLength)

theorem IsLongest.congr {ids others : List String} {name id : String}
    (same : ∀ id, id ∈ ids ↔ id ∈ others) (longest : IsLongest ids name id) :
    IsLongest others name id where
  known := (same id).1 longest.known
  occurs := longest.occurs
  longest := fun other member => longest.longest other ((same other).2 member)
  first := fun other member => longest.first other ((same other).2 member)

variable {lexicon : Lexicon} {name id : String}

/-- What comes later in the search order is shorter or, at the same length, later in order. -/
theorem isLongest_of_resolveAspect? (found : lexicon.resolveAspect? name = some id) :
    IsLongest lexicon.aspects.keys name id := by
  obtain ⟨known, occurs⟩ := mem_of_resolveAspect? found
  unfold resolveAspect? at found
  obtain ⟨_, front, back, split, passed⟩ := List.find?_eq_some_iff_append.1 found
  have sorted := lexicon.aspectOrder_sorted
  rw [split, List.pairwise_append, List.pairwise_cons] at sorted
  have later : ∀ other ∈ lexicon.aspects.keys, other.toList <:+: name.toList →
      soughtBefore id other = true := by
    intro other member otherOccurs
    rw [← lexicon.aspectOrder_perm.mem_iff, split, List.mem_append, List.mem_cons] at member
    rcases member with before | rfl | behind
    · have refused := passed other before
      rw [(Text.occursIn_iff _ _).2 otherOccurs] at refused
      cases refused
    · exact (soughtBefore_iff other other).2 (.inr ⟨rfl, String.le_refl other⟩)
    · exact sorted.2.1.1 other behind
  constructor
  case known => exact known
  case occurs => exact (Text.occursIn_iff _ _).1 occurs
  case longest =>
    intro other member otherOccurs
    rw [Text.length_bytes, Text.length_bytes]
    rcases (soughtBefore_iff id other).1 (later other member otherOccurs) with shorter | ⟨same, _⟩
    · exact Nat.le_of_lt shorter
    · exact Nat.le_of_eq same.symm
  case first =>
    intro other member otherOccurs sameLength
    rw [Text.length_bytes, Text.length_bytes] at sameLength
    rw [Text.bytes_le_bytes_iff]
    rcases (soughtBefore_iff id other).1 (later other member otherOccurs) with shorter | ⟨_, le⟩
    · omega
    · exact le

theorem resolveAspect?_eq_some_iff : lexicon.resolveAspect? name = some id ↔
    IsLongest lexicon.aspects.keys name id := by
  constructor
  case mp => exact isLongest_of_resolveAspect?
  case mpr =>
    intro longest
    cases found : lexicon.resolveAspect? name with
    | none => exact absurd longest.occurs (resolveAspect?_eq_none_iff.1 found id longest.known)
    | some other => rw [(isLongest_of_resolveAspect? found).unique longest]

/-- In a lexicon put together in whatever steps, the aspect of a name is the longest id added that
occurs in the name. The same ids added in other steps give the same aspect. -/
theorem longest_aspect_resolves (additions : List Addition) (name : String) :
    ((ofAdditions additions).resolveAspect? name = none ↔
      ∀ id ∈ aspectIds additions, ¬ id.toList <:+: name.toList) ∧
    (∀ id, (ofAdditions additions).resolveAspect? name = some id ↔
      IsLongest (aspectIds additions) name id) ∧
    ∀ others, (∀ id, id ∈ aspectIds additions ↔ id ∈ aspectIds others) →
      (ofAdditions others).resolveAspect? name = (ofAdditions additions).resolveAspect? name := by
  have known := mem_aspects_ofAdditions additions
  refine ⟨?_, ?_, ?_⟩
  case refine_1 =>
    rw [resolveAspect?_eq_none_iff]
    simp only [known]
  case refine_2 =>
    intro id
    rw [resolveAspect?_eq_some_iff]
    exact ⟨.congr known, .congr fun id => (known id).symm⟩
  case refine_3 =>
    intro others same
    have knownToo : ∀ id, id ∈ (ofAdditions additions).aspects.keys ↔
        id ∈ (ofAdditions others).aspects.keys := by
      intro id
      rw [known, mem_aspects_ofAdditions, same]
    ext id
    rw [resolveAspect?_eq_some_iff, resolveAspect?_eq_some_iff]
    exact ⟨.congr fun id => (knownToo id).symm, .congr knownToo⟩

/-- Ids that come in batches, some of them twice, find the same aspect as all at once. -/
theorem unyielding_hits_resolves :
    let batches : List Addition :=
      [.aspects ["hits"], .affixes ["armor"], .aspects ["unyielding_hits", "hits"]]
    let once : List Addition := [.aspects ["unyielding_hits", "hits"]]
    let name := "ascendant_quarterstaff_of_unyielding_hits"
    (∀ id, id ∈ aspectIds batches ↔ id ∈ aspectIds once) ∧
      (ofAdditions batches).resolveAspect? name = some "unyielding_hits" ∧
      (ofAdditions once).resolveAspect? name = some "unyielding_hits" := by
  intro batches once name
  have same : ∀ id, id ∈ aspectIds batches ↔ id ∈ aspectIds once := by
    intro id
    change id ∈ ["hits", "unyielding_hits", "hits"] ↔ id ∈ ["unyielding_hits", "hits"]
    simp only [List.mem_cons, List.not_mem_nil, or_false]
    tauto
  have noLonger : ∀ other ∈ aspectIds batches,
      (Text.bytes other).length ≤ (Text.bytes "unyielding_hits").length := by
    decide +kernel
  have noEarlier : ∀ other ∈ aspectIds batches,
      (Text.bytes other).length = (Text.bytes "unyielding_hits").length →
      Text.bytes "unyielding_hits" ≤ Text.bytes other := by
    decide +kernel
  have longest : IsLongest (aspectIds batches) name "unyielding_hits" := by
    constructor
    case known => decide
    case occurs => exact (Text.occursIn_iff _ _).1 (by decide +kernel)
    case longest => exact fun other member _ => noLonger other member
    case first => exact fun other member _ => noEarlier other member
  have inBatches := ((longest_aspect_resolves batches name).2.1 "unyielding_hits").2 longest
  have alike := (longest_aspect_resolves batches name).2.2 once same
  exact ⟨same, inBatches, alike.trans inBatches⟩

end Lexicon

end LootSieve
