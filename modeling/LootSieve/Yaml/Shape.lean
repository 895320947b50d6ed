import LootSieve.Yaml.Value

/-! Reading values by shape. A member of an ordinary record is strict about its type, except that
null stands for an empty list or record. An entry that may be written in several forms is read by
trying one form after another; within it null is no list or record, a record may also be a list of
its leading fields, and a field may be named by its position. -/

namespace LootSieve.Yaml.Value

def text? : Value → Option String
  | .text word => some word
  | _ => none

def bool? : Value → Option Bool
  | .bool value => some value
  | _ => none

/-- An integer with `low ≤ value < high`. -/
def integerIn? (low high : Int) : Value → Option Int
  | .integer value => if low ≤ value ∧ value < high then some value else none
  | _ => none

def naturalBelow? (bound : Nat) (value : Value) : Option Nat :=
  (value.integerIn? 0 bound).map Int.toNat

def number? : Value → Option Float
  | .integer value => some (Float.ofInt value)
  | .float value => some value
  | _ => none

def orNull? {α : Type} (read? : Value → Option α) : Value → Option (Option α)
  | .null => some none
  | value => (read? value).map some

def listOf? {α : Type} (item? : Value → Option α) : Value → Option (List α)
  | .list items => items.mapM item?
  | _ => none

def listOrNull? {α : Type} (item? : Value → Option α) : Value → Option (List α)
  | .null => some []
  | value => listOf? item? value

def oneOrMany? {α : Type} (item? : Value → Option α) (value : Value) : Option (List α) :=
  match item? value with
  | some item => some [item]
  | none => listOf? item? value

/-- The entries of a mapping with text keys. -/
def entriesOrNull? : Value → Option (List (String × Value))
  | .null => some []
  | .mapping entries => entries.mapM fun (key, value) => return (← text? key, value)
  | _ => none

/-- A record by the names of its fields, in which other names are refused. -/
def record? (names : List String) (value : Value) : Option (List (String × Value)) :=
  (entriesOrNull? value).filter fun entries => entries.all fun (key, _) => names.contains key

/-- The field that a key of an entry names; `none` inside for a name that no field has. -/
def fieldNamed? (names : List String) : Value → Option (Option String)
  | .text word => some (names.find? (· = word))
  | .integer value => if 0 ≤ value then some names[value.toNat]? else none
  | _ => none

/-- A record inside an entry. Names that no field has are refused or passed over. -/
def entryRecord? (names : List String) (refuseOthers : Bool) : Value →
    Option (List (String × Value))
  | .mapping entries => do
    let named ← entries.mapM fun (key, value) => return (← fieldNamed? names key, value)
    if refuseOthers && named.any (·.1.isNone) then none
    else
      let fields := named.filterMap fun (name, value) => name.map fun name => (name, value)
      if (fields.map Prod.fst).eraseDups.length = fields.length then return fields else none
  | _ => none

/-- A record inside an entry, written as a list of its leading fields. -/
def leadingFields? (names : List String) : Value → Option (List (String × Value))
  | .list values => if values.length ≤ names.length then some (names.zip values) else none
  | _ => none

/-- A choice inside an entry: its name, or a mapping from it to null. -/
def entryChoice? {α : Type} (choices : List α) (nameOf : α → String) : Value → Option α
  | .text word => choices.find? (nameOf · = word)
  | .mapping [(key, .null)] => do
    let name ← (← fieldNamed? (choices.map nameOf) key)
    choices.find? (nameOf · = name)
  | _ => none

def choice? {α : Type} (choices : List α) (nameOf : α → String) : Value → Option α
  | .text word => choices.find? (nameOf · = word)
  | _ => none

/-- Reads a field of a record, or takes `standard` where it is absent. -/
def fieldOr? {α : Type} (fields : List (String × Value)) (name : String) (standard : α)
    (read? : Value → Option α) : Option α :=
  match fields.lookup name with
  | some value => read? value
  | none => some standard

def field? {α : Type} (fields : List (String × Value)) (name : String)
    (read? : Value → Option α) : Option α :=
  (fields.lookup name).bind read?

end LootSieve.Yaml.Value
