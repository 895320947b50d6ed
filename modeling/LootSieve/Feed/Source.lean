import LootSieve.Text.Search
import LootSieve.Text.Utf8

/-! What a source yields on each attempt to read it, and which fragments a session accepts. NUL
characters are dropped. A session ends when the source closes, disconnects or crashes, or after too
many failures in a row. -/

namespace LootSieve.Feed

inductive Reading where
  | fragment (text : String)
  | failure
  | closed
  | crash
  deriving DecidableEq

def disconnected : String := "DISCONNECTED"

def withoutNul (text : String) : String := String.ofList (text.toList.filter (· ≠ '\x00'))

structure Session where
  accepted : List String
  crashed : Bool

namespace Session

def finished : Session := ⟨[], false⟩

def accept (text : String) (session : Session) : Session :=
  { session with accepted := text :: session.accepted }

/-- The session over a script of readings after `failures` failed ones in a row. It gives up when
their number reaches `limit`. -/
def after (limit : Nat) : Nat → List Reading → Session
  | _, [] => finished
  | _, .closed :: _ => finished
  | _, .crash :: _ => ⟨[], true⟩
  | failures, .failure :: rest =>
    if limit ≤ failures + 1 then finished else after limit (failures + 1) rest
  | _, .fragment raw :: rest =>
    let text := withoutNul raw
    if text.isEmpty then after limit 0 rest
    else if Text.occursIn disconnected.toList text.toList then finished
    else (after limit 0 rest).accept text

/-- A session tolerates at least one failure. -/
def ofScript (maxErrors : Nat) (script : List Reading) : Session := after (max maxErrors 1) 0 script

end Session

def isLineEnd (char : Char) : Bool := char = '\r' || char = '\n'

def dropLineEnd (line : List Char) : List Char := (line.reverse.dropWhile isLineEnd).reverse

def newline : UInt8 := 0x0A

/-- The bytes of the first line with the newline that ends it, and the bytes after it. -/
def firstLine (bytes : List UInt8) : List UInt8 × List UInt8 :=
  let rest := bytes.dropWhile (· ≠ newline)
  (bytes.takeWhile (· ≠ newline) ++ rest.take 1, rest.drop 1)

theorem firstLine_append (bytes : List UInt8) :
    (firstLine bytes).1 ++ (firstLine bytes).2 = bytes := by
  simp only [firstLine, List.append_assoc, List.take_append_drop, List.takeWhile_append_dropWhile]

/-- A line as a fragment. It is decoded on its own, and what ends it is dropped. -/
def fragmentOfLine (line : List UInt8) : String :=
  String.ofList (dropLineEnd (Text.Utf8.decodeLossy line))

/-- One reading of a byte stream: a fragment and the bytes left, or nothing at the end. -/
def nextFragment? (bytes : List UInt8) : Option (String × List UInt8) :=
  match firstLine bytes with
  | ([], _) => none
  | (line, rest) => some (fragmentOfLine line, rest)

theorem length_lt_of_nextFragment? {bytes rest : List UInt8} {fragment : String}
    (reads : nextFragment? bytes = some (fragment, rest)) : rest.length < bytes.length := by
  have whole := firstLine_append bytes
  unfold nextFragment? at reads
  split at reads
  · cases reads
  · next line rest nonempty split =>
    cases reads
    have longer := List.length_pos_iff.2 nonempty
    rw [split] at whole
    rw [← whole, List.length_append]
    exact Nat.lt_add_of_pos_left longer

/-- The fragments of a byte stream until it ends. -/
def fragmentsOfBytes (bytes : List UInt8) : List String :=
  match _reads : nextFragment? bytes with
  | none => []
  | some (fragment, rest) => fragment :: fragmentsOfBytes rest
termination_by bytes.length
decreasing_by exact length_lt_of_nextFragment? _reads

end LootSieve.Feed
