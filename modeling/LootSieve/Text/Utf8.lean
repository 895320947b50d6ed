/-! Decoding of bytes as UTF-8, one byte at a time. A sequence that is cut short or cannot start a
character decodes to one broken piece; the byte that reveals this begins anew. -/

namespace LootSieve.Text.Utf8

/-- The bounds of the bytes that must follow a lead byte, or nothing where none leads. -/
def tailBounds (lead : Nat) : Option (List (Nat × Nat)) :=
  if lead < 0x80 then some []
  else if lead < 0xC2 then none
  else if lead < 0xE0 then some [(0x80, 0xBF)]
  else if lead = 0xE0 then some [(0xA0, 0xBF), (0x80, 0xBF)]
  else if lead = 0xED then some [(0x80, 0x9F), (0x80, 0xBF)]
  else if lead < 0xF0 then some [(0x80, 0xBF), (0x80, 0xBF)]
  else if lead = 0xF0 then some [(0x90, 0xBF), (0x80, 0xBF), (0x80, 0xBF)]
  else if lead < 0xF4 then some [(0x80, 0xBF), (0x80, 0xBF), (0x80, 0xBF)]
  else if lead = 0xF4 then some [(0x80, 0x8F), (0x80, 0xBF), (0x80, 0xBF)]
  else none

/-- The bits of a lead byte that belong to the code. -/
def leadBits (lead : Nat) : Nat :=
  if lead < 0x80 then lead
  else if lead < 0xE0 then lead - 0xC0
  else if lead < 0xF0 then lead - 0xE0
  else lead - 0xF0

/-- Between two bytes: no character is open, or the code read so far with the bounds of what is
still to come. -/
inductive State where
  | ready
  | open (code : Nat) (next : Nat × Nat) (later : List (Nat × Nat))

def begin (byte : Nat) : List (Option Char) × State :=
  match tailBounds byte with
  | none => ([none], .ready)
  | some [] => ([some (Char.ofNat byte)], .ready)
  | some (next :: later) => ([], .open (leadBits byte) next later)

/-- The pieces that a byte completes, and the state after it. -/
def step (state : State) (byte : Nat) : List (Option Char) × State :=
  match state with
  | .ready => begin byte
  | .open code (low, high) later =>
    if low ≤ byte ∧ byte ≤ high then
      let code := code * 0x40 + (byte - 0x80)
      match later with
      | [] => ([some (Char.ofNat code)], .ready)
      | next :: later => ([], .open code next later)
    else
      let (pieces, state) := begin byte
      (none :: pieces, state)

def piecesFrom : State → List UInt8 → List (Option Char)
  | .ready, [] => []
  | .open _ _ _, [] => [none]
  | state, byte :: rest => (step state byte.toNat).1 ++ piecesFrom (step state byte.toNat).2 rest

def pieces (bytes : List UInt8) : List (Option Char) := piecesFrom .ready bytes

/-- Decodes bytes that are well formed throughout. -/
def decode? (bytes : List UInt8) : Option (List Char) := (pieces bytes).mapM id

/-- Decodes any bytes; a replacement character stands for each broken piece. -/
def decodeLossy (bytes : List UInt8) : List Char := (pieces bytes).map (·.getD '\uFFFD')

end LootSieve.Text.Utf8
