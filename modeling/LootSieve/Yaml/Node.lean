import LootSieve.Yaml.Token

/-! The tree of a document. An absent part, such as the value of a key without one, is an empty
plain scalar, and so is an empty document. -/

namespace LootSieve.Yaml

inductive Node where
  | scalar (plain : Bool) (text : List Char)
  | sequence (items : List Node)
  | mapping (entries : List (Node × Node))

namespace Node

def empty : Node := .scalar true []

/-- Where a node may stand: in a block, or as the content of a block mapping, whose sequences need
no deeper indentation, or in a flow collection. -/
inductive Place where
  | block
  | mapped
  | flow

def isItemEnd : Token → Bool
  | .entry | .blockEnd => true
  | _ => false

def isMappedEnd : Token → Bool
  | .key | .value | .blockEnd => true
  | _ => false

def isFlowItemEnd : Token → Bool
  | .comma | .flowSequenceEnd => true
  | _ => false

def isFlowEntryEnd : Token → Bool
  | .comma | .flowMappingEnd => true
  | _ => false

def isValue : Token → Bool
  | .value => true
  | _ => false

/-- Between two members of a flow collection stands a comma. -/
def afterComma? (first : Bool) (tokens : List Token) : Option (List Token) :=
  if first then some tokens
  else
    match tokens with
    | .comma :: rest => some rest
    | _ => none

mutual

def node? : Nat → Place → List Token → Option (Node × List Token)
  | 0, _, _ => none
  | fuel + 1, place, tokens =>
    match place, tokens with
    | _, .scalar plain text :: rest => some (.scalar plain text, rest)
    | _, .flowSequence :: rest =>
      (flowItems? fuel true rest).map fun (items, rest) => (.sequence items, rest)
    | _, .flowMapping :: rest =>
      (flowEntries? fuel true rest).map fun (entries, rest) => (.mapping entries, rest)
    | .mapped, .entry :: _ =>
      (flushItems? fuel tokens).map fun (items, rest) => (.sequence items, rest)
    | .block, .blockSequence :: rest | .mapped, .blockSequence :: rest =>
      (blockItems? fuel rest).map fun (items, rest) => (.sequence items, rest)
    | .block, .blockMapping :: rest | .mapped, .blockMapping :: rest =>
      (blockEntries? fuel rest).map fun (entries, rest) => (.mapping entries, rest)
    | _, _ => none

/-- A node that is absent where the next token already ends its place. -/
def optional? : Nat → Place → (Token → Bool) → List Token → Option (Node × List Token)
  | 0, _, _, _ => none
  | fuel + 1, place, ends, tokens =>
    if tokens.head?.any ends then some (empty, tokens) else node? fuel place tokens

def blockItems? : Nat → List Token → Option (List Node × List Token)
  | 0, _ => none
  | fuel + 1, tokens =>
    match tokens with
    | .entry :: rest => do
      let (item, rest) ← optional? fuel .block isItemEnd rest
      let (items, rest) ← blockItems? fuel rest
      return (item :: items, rest)
    | .blockEnd :: rest => some ([], rest)
    | _ => none

/-- Items of a sequence that is flush with the key before it. -/
def flushItems? : Nat → List Token → Option (List Node × List Token)
  | 0, _ => none
  | fuel + 1, tokens =>
    match tokens with
    | .entry :: rest => do
      let (item, rest) ←
        optional? fuel .block (fun token => isItemEnd token || isMappedEnd token) rest
      let (items, rest) ← flushItems? fuel rest
      return (item :: items, rest)
    | _ => some ([], tokens)

def blockEntries? : Nat → List Token → Option (List (Node × Node) × List Token)
  | 0, _ => none
  | fuel + 1, tokens =>
    match tokens with
    | .key :: rest => do
      let (key, rest) ← optional? fuel .mapped isMappedEnd rest
      let (value, rest) ← value? fuel .mapped isMappedEnd rest
      let (entries, rest) ← blockEntries? fuel rest
      return ((key, value) :: entries, rest)
    | .blockEnd :: rest => some ([], rest)
    | _ => none

def value? : Nat → Place → (Token → Bool) → List Token → Option (Node × List Token)
  | 0, _, _, _ => none
  | fuel + 1, place, ends, tokens =>
    match tokens with
    | .value :: rest => optional? fuel place ends rest
    | _ => some (empty, tokens)

def flowItems? : Nat → Bool → List Token → Option (List Node × List Token)
  | 0, _, _ => none
  | fuel + 1, first, tokens =>
    match tokens with
    | .flowSequenceEnd :: rest => some ([], rest)
    | _ => do
      let rest ← afterComma? first tokens
      match rest with
      | .flowSequenceEnd :: rest => return ([], rest)
      | .key :: rest =>
        let (key, rest) ← pairKey? fuel rest
        let (value, rest) ← value? fuel .flow isFlowItemEnd rest
        let (items, rest) ← flowItems? fuel false rest
        return (.mapping [(key, value)] :: items, rest)
      | rest =>
        let (item, rest) ← node? fuel .flow rest
        let (items, rest) ← flowItems? fuel false rest
        return (item :: items, rest)

/-- The key of a single pair among the items of a flow sequence. After a question mark without a
key the next token is passed over. -/
def pairKey? : Nat → List Token → Option (Node × List Token)
  | 0, _ => none
  | fuel + 1, tokens =>
    if tokens.head?.any (fun token => isValue token || isFlowItemEnd token) then
      some (empty, tokens.tail)
    else node? fuel .flow tokens

def flowEntries? : Nat → Bool → List Token → Option (List (Node × Node) × List Token)
  | 0, _, _ => none
  | fuel + 1, first, tokens =>
    match tokens with
    | .flowMappingEnd :: rest => some ([], rest)
    | _ => do
      let rest ← afterComma? first tokens
      match rest with
      | .flowMappingEnd :: rest => return ([], rest)
      | .key :: rest =>
        let (key, rest) ←
          optional? fuel .flow (fun token => isValue token || isFlowEntryEnd token) rest
        let (value, rest) ← value? fuel .flow isFlowEntryEnd rest
        let (entries, rest) ← flowEntries? fuel false rest
        return ((key, value) :: entries, rest)
      | rest =>
        let (key, rest) ← node? fuel .flow rest
        let (entries, rest) ← flowEntries? fuel false rest
        return ((key, empty) :: entries, rest)

end

def content? (tokens : List Token) : Option (Node × List Token) :=
  node? (4 * tokens.length + 4) .block tokens

def isDocumentMark : Token → Bool
  | .documentStart | .documentEnd => true
  | _ => false

/-- The one document that the tokens hold. -/
def ofTokens? (tokens : List Token) : Option Node := do
  let (node, rest) ← match tokens with
    | [] => some (empty, [])
    | .documentStart :: rest =>
      if rest.isEmpty || rest.head?.any isDocumentMark then some (empty, rest) else content? rest
    | tokens => content? tokens
  let onlyEnds := rest.all fun token => match token with
    | .documentEnd => true
    | _ => false
  if onlyEnds then return node else none

def read? (text : String) : Option Node := do
  ofTokens? (← tokens? text.toList)

end Node

end LootSieve.Yaml
