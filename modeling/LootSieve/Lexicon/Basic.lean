import LootSieve.Lexicon.Naming
import LootSieve.Lexicon.Table
import LootSieve.Text.Distance
import LootSieve.Text.Search

/-! The ids that game text and profiles are resolved against. Affix lines resolve to the nearest id,
unique names to an equal one up to lost spaces, and legendary names by the aspect they contain. -/

namespace LootSieve

/-- Longer ids are looked for first, those of one length in their order. -/
def soughtBefore (left right : String) : Bool :=
  right.utf8ByteSize < left.utf8ByteSize ||
    (left.utf8ByteSize = right.utf8ByteSize && left ≤ right)

theorem soughtBefore_iff (left right : String) : soughtBefore left right = true ↔
    right.utf8ByteSize < left.utf8ByteSize ∨
      left.utf8ByteSize = right.utf8ByteSize ∧ left ≤ right := by
  simp [soughtBefore]

theorem soughtBefore_trans (first second third : String)
    (one : soughtBefore first second = true) (two : soughtBefore second third = true) :
    soughtBefore first third = true := by
  rw [soughtBefore_iff] at one two ⊢
  rcases one with longer | ⟨sameSize, le⟩
  · exact .inl (by omega)
  · rcases two with longer | ⟨sameSizeToo, leToo⟩
    · exact .inl (by omega)
    · exact .inr ⟨by omega, String.le_trans le leToo⟩

theorem soughtBefore_total (left right : String) :
    (soughtBefore left right || soughtBefore right left) = true := by
  rw [Bool.or_eq_true, soughtBefore_iff, soughtBefore_iff]
  rcases Nat.lt_trichotomy left.utf8ByteSize right.utf8ByteSize with less | same | more
  · exact .inr (.inl less)
  · rcases String.le_total left right with le | ge
    · exact .inl (.inr ⟨same, le⟩)
    · exact .inr (.inr ⟨same.symm, ge⟩)
  · exact .inl (.inl more)

structure Lexicon where
  affixes : Table Unit
  /-- The number of inherent lines of a unique, where it differs from that of its type. -/
  uniques : Table (Option Nat)
  aspects : Table Unit
  /-- The aspect ids once more, longest first, so that a search meets the most specific name before
  any shorter one contained in it. -/
  aspectOrder : List String
  sigils : Table Unit
  tributes : Table Unit
  aspectOrder_perm : aspectOrder.Perm aspects.keys
  aspectOrder_sorted : aspectOrder.Pairwise fun left right => soughtBefore left right = true

namespace Lexicon

def empty : Lexicon where
  affixes := .empty
  uniques := .empty
  aspects := .empty
  aspectOrder := []
  sigils := .empty
  tributes := .empty
  aspectOrder_perm := .nil
  aspectOrder_sorted := .nil

def withIds (table : Table Unit) (ids : List String) : Table Unit :=
  table.insertAll (ids.map fun id => (id, ()))

def addAffixes (lexicon : Lexicon) (ids : List String) : Lexicon :=
  { lexicon with affixes := withIds lexicon.affixes ids }

def addUniques (lexicon : Lexicon) (entries : List (String × Option Nat)) : Lexicon :=
  { lexicon with uniques := lexicon.uniques.insertAll entries }

/-- The search order is made anew of all ids, those of earlier batches included. -/
def addAspects (lexicon : Lexicon) (ids : List String) : Lexicon :=
  let aspects := withIds lexicon.aspects ids
  { lexicon with
    aspects := aspects
    aspectOrder := aspects.keys.mergeSort soughtBefore
    aspectOrder_perm := List.mergeSort_perm aspects.keys soughtBefore
    aspectOrder_sorted :=
      List.pairwise_mergeSort soughtBefore_trans soughtBefore_total aspects.keys }

def addSigils (lexicon : Lexicon) (ids : List String) : Lexicon :=
  { lexicon with sigils := withIds lexicon.sigils ids }

def addTributes (lexicon : Lexicon) (ids : List String) : Lexicon :=
  { lexicon with tributes := withIds lexicon.tributes ids }

/-- The first element that no later one is better than. -/
def firstBest {α : Type} (better : α → α → Bool) : List α → Option α
  | [] => none
  | head :: rest =>
    match firstBest better rest with
    | none => some head
    | some other => if better other head then some other else some head

def closer (wanted : List Char) (left right : String) : Bool :=
  Text.editDistance wanted left.toList < Text.editDistance wanted right.toList

/-- The affix id nearest to a line; without any affix ids, the line's own canonical form. -/
def resolveAffix (lexicon : Lexicon) (line : String) : String :=
  let wanted := Naming.canonical line.toList
  let id := String.ofList wanted
  if lexicon.affixes.contains id then id
  else (firstBest (closer wanted) lexicon.affixes.keys).getD id

def withoutUnderscores (id : String) : List Char := id.toList.filter (· ≠ '_')

/-- The unique with this name, or the first whose name is equal without the underscores. -/
def resolveUnique? (lexicon : Lexicon) (name : String) : Option String :=
  if lexicon.uniques.contains name then some name
  else lexicon.uniques.keys.find? (withoutUnderscores · = withoutUnderscores name)

def inherentCount? (lexicon : Lexicon) (unique : String) : Option Nat :=
  (lexicon.uniques.get? unique).join

/-- The first id in the search order that occurs in an item name. -/
def resolveAspect? (lexicon : Lexicon) (itemName : String) : Option String :=
  lexicon.aspectOrder.find? fun id => Text.occursIn id.toList itemName.toList

/-- The tribute with this name, which may leave out its first words. -/
def resolveTribute? (lexicon : Lexicon) (name : String) : Option String :=
  let full := "tribute_of_" ++ name
  if lexicon.tributes.contains full then some full
  else if lexicon.tributes.contains name then some name
  else none

end Lexicon

end LootSieve
