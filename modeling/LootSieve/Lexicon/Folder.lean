import LootSieve.Json
import LootSieve.Lexicon.Basic
import LootSieve.Text.Utf8

/-! Loading a lexicon from the data files of a language folder. The affix file must be there, the
others may be missing; the first file that is unreadable or malformed decides the failure. Display
texts are checked for their shape and then dropped, since only ids are ever looked up. -/

namespace LootSieve.Lexicon

/-- The files of a folder by name, with their bytes. -/
structure Folder where
  path : String
  files : List (String × List UInt8)

inductive LoadError where
  | missingAffixes (folder : String)
  | malformed (file : String)
  | unreadable (file : String)
  deriving DecidableEq

def LoadError.message : LoadError → String
  | missingAffixes folder => "affixes.json is missing in " ++ folder
  | malformed file => "invalid JSON in " ++ file
  | unreadable file => "failed to read " ++ file

/-- The named text fields of an object, of which nothing but the names is of use. -/
def idsOf? : Json → Option (List String)
  | .object fields => fields.mapM fun (name, value) =>
    match name, value with
    | some name, .string (some _) => some name
    | _, _ => none
  | _ => none

/-- The values of a record with these fields, in order: an object, whose other fields are passed
over, or a list of the leading ones. A known field may not come twice. -/
def recordOf? (names : List String) : Json → Option (List (Option Json))
  | .object fields => do
    let fields ← fields.mapM fun (name, value) => name.map fun name => (name, value)
    names.mapM fun name =>
      match fields.filter fun field => field.1 = name with
      | [] => some none
      | [field] => some (some field.2)
      | _ => none
  | .list values =>
    if values.length ≤ names.length then
      some (values.map some ++ List.replicate (names.length - values.length) none)
    else none
  | _ => none

def natural? (literal : List Char) : Option Nat :=
  (Text.readNat? 10 literal).filter (· < Text.bitLimit 64)

/-- The inherent count of a unique's entry, whose description must be text. -/
def uniqueOf? (value : Json) : Option (Option Nat) := do
  let record ← recordOf? ["desc", "num_inherents"] value
  match record with
  | [description, count] =>
    match description with
    | none | some (.string (some _)) => pure ()
    | _ => none
    match count with
    | none | some .null => return none
    | some (.number literal) => return some (← natural? literal)
    | _ => none
  | _ => none

def uniquesOf? : Json → Option (List (String × Option Nat))
  | .object fields => fields.mapM fun (name, value) => do
    return (← name, ← uniqueOf? value)
  | _ => none

def sigilsOf? (value : Json) : Option (List String) := do
  let groups ← recordOf? ["dungeons", "minor", "major", "positive"] value
  let ids ← groups.mapM fun group =>
    match group with
    | some group => idsOf? group
    | none => some []
  return ids.flatten

namespace Folder

def pathOf (folder : Folder) (file : String) : String := folder.path ++ "/" ++ file

/-- Reads a file if the folder has it. -/
def read? {α : Type} (folder : Folder) (file : String) (decode? : Json → Option α) :
    Except LoadError (Option α) :=
  match folder.files.lookup file with
  | none => .ok none
  | some bytes =>
    match Text.Utf8.decode? bytes with
    | none => .error (.unreadable (folder.pathOf file))
    | some text =>
      match (Json.read? (String.ofList text)).bind decode? with
      | none => .error (.malformed (folder.pathOf file))
      | some value => .ok (some value)

def load (folder : Folder) : Except LoadError Lexicon := do
  let some affixes ← folder.read? "affixes.json" idsOf?
    | .error (.missingAffixes folder.path)
  let uniques ← folder.read? "uniques.json" uniquesOf?
  let aspects ← folder.read? "aspects.json" idsOf?
  let sigils ← folder.read? "sigils.json" sigilsOf?
  let tributes ← folder.read? "tributes.json" idsOf?
  return Lexicon.empty
    |>.addAffixes affixes
    |>.addUniques (uniques.getD [])
    |>.addAspects (aspects.getD [])
    |>.addSigils (sigils.getD [])
    |>.addTributes (tributes.getD [])

end Folder

end LootSieve.Lexicon
