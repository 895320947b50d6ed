import LootSieve.Feed.Delivery
import LootSieve.Policy
import LootSieve.Yaml.Value

/-! Settings documents. A document is a mapping whose unknown keys are passed over and whose missing
keys take standard values; an empty document is an empty mapping. Scalars are read by the type of
the field: a name may be quoted, a truth value or number may not. -/

namespace LootSieve.Settings
open Yaml

def entries? : Node → Option (List (Node × Node))
  | .mapping entries => some entries
  | .scalar true [] => some []
  | _ => none

def keyText? : Node → Option (List Char)
  | .scalar _ text => some text
  | _ => none

/-- The entries under known keys; a known key may not come twice. -/
def fields? (names : List String) (node : Node) : Option (List (String × Node)) := do
  let entries ← (← entries? node).mapM fun (key, value) => do
    return (String.ofList (← keyText? key), value)
  let known := entries.filter fun (key, _) => names.contains key
  if names.all fun name => known.countP (fun entry => entry.1 = name) ≤ 1 then return known
  else none

def fieldOr? {α : Type} (fields : List (String × Node)) (name : String) (standard : α)
    (read? : Node → Option α) : Option α :=
  match fields.lookup name with
  | some node => read? node
  | none => some standard

def choice? {α : Type} (choices : List α) (nameOf : α → String) : Node → Option α
  | .scalar _ text => choices.find? (nameOf · = String.ofList text)
  | _ => none

def bool? : Node → Option Bool
  | .scalar true text => Plain.bool? (String.ofList text)
  | _ => none

def count? : Node → Option Nat
  | .scalar true text => (Plain.natural? text).filter (· < Text.bitLimit 64)
  | _ => none

def policy? (text : String) : Option Policy := do
  let fields ← fields? ["handle_uniques", "keep_aspects", "handle_cosmetics", "junk_rares",
    "ignore_escalation_sigils"] (← Node.read? text)
  let standard := Policy.standard
  return {
    uniques := ← fieldOr? fields "handle_uniques" standard.uniques
      (choice? UniquePolicy.all UniquePolicy.name)
    aspects := ← fieldOr? fields "keep_aspects" standard.aspects
      (choice? AspectPolicy.values AspectPolicy.name)
    cosmetics := ← fieldOr? fields "handle_cosmetics" standard.cosmetics
      (choice? CosmeticPolicy.all CosmeticPolicy.name)
    junkRares := ← fieldOr? fields "junk_rares" standard.junkRares bool?
    ignoreEscalationSigils :=
      ← fieldOr? fields "ignore_escalation_sigils" standard.ignoreEscalationSigils bool? }

def feed? (text : String) : Option Feed.Config := do
  let fields ← fields? ["queue_capacity", "max_consecutive_read_errors"] (← Node.read? text)
  let standard := Feed.Config.standard
  return {
    queueCapacity := ← fieldOr? fields "queue_capacity" standard.queueCapacity count?
    maxReadErrors :=
      ← fieldOr? fields "max_consecutive_read_errors" standard.maxReadErrors count? }

end LootSieve.Settings
