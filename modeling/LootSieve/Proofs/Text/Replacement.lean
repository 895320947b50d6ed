import LootSieve.Proofs.Text.ByteOrder
import LootSieve.Text.Utf8
import Mathlib.Data.List.Forall2

/-!
Replacement of what is no UTF-8. Bytes are read as encodings of characters. Where none stands, a
replacement character takes the place of the longest stretch that begins some encoding, or of a
single byte where nothing begins. This rule mentions encodings only; a decoder with a table of lead
bytes and the bounds of the bytes after them reads just what the rule says. No encoding but that of
the newline holds a newline, so a newline is always read, and reads what stands before and behind it
apart.
-/

namespace LootSieve.Text.Utf8

/-! The rule. -/

def Begins (front : List UInt8) : Prop := ∃ char, front <+: String.utf8EncodeChar char

/-- The longest front of the bytes that begins an encoding, or a single byte if none does. No
character is encoded there. -/
structure IsMaximalSubpart (part rest : List UInt8) : Prop where
  unconvertible : ∀ char, ¬ String.utf8EncodeChar char <+: part ++ rest
  nonempty : part ≠ []
  begins : Begins part ∨ part.length = 1
  longest : ∀ front, front <+: part ++ rest → Begins front → front.length ≤ part.length

/-- The text that bytes stand for, each maximal subpart replaced. -/
inductive Replaces : List UInt8 → List Char → Prop
  | nil : Replaces [] []
  | char {rest : List UInt8} {text : List Char} (char : Char) (later : Replaces rest text) :
    Replaces (String.utf8EncodeChar char ++ rest) (char :: text)
  | broken {part rest : List UInt8} {text : List Char} (maximal : IsMaximalSubpart part rest)
    (later : Replaces rest text) : Replaces (part ++ rest) ('\uFFFD' :: text)

/-! The table of lead bytes. -/

def Within (bound : Nat × Nat) (byte : UInt8) : Prop :=
  bound.1 ≤ byte.toNat ∧ byte.toNat ≤ bound.2

instance (bound : Nat × Nat) (byte : UInt8) : Decidable (Within bound byte) :=
  inferInstanceAs (Decidable (_ ∧ _))

/-- The bytes lie within the bounds, one by one. -/
abbrev Follows (bounds : List (Nat × Nat)) (tail : List UInt8) : Prop :=
  List.Forall₂ Within bounds tail

/-- The code after one more byte. -/
def extend (code : Nat) (byte : UInt8) : Nat := code * 0x40 + (byte.toNat - 0x80)

theorem toNat_ofNat {code : Nat} (small : code < 256) : (UInt8.ofNat code).toNat = code := by
  rw [UInt8.toNat_ofNat', Nat.mod_eq_of_lt small]

theorem ofNat_eq (byte : UInt8) {code : Nat} (same : code = byte.toNat) :
    UInt8.ofNat code = byte := by
  rw [same, UInt8.ofNat_toNat]

theorem within_ofNat {bound : Nat × Nat} {code : Nat} (small : code < 256)
    (within : bound.1 ≤ code ∧ code ≤ bound.2) : Within bound (UInt8.ofNat code) := by
  rw [Within, toNat_ofNat small]
  exact within

/-- Bounds of bytes that cannot lead. -/
structure IsTail (bound : Nat × Nat) : Prop where
  low : 0x80 ≤ bound.1
  ordered : bound.1 ≤ bound.2
  high : bound.2 ≤ 0xBF

theorem isTail_usual : IsTail (0x80, 0xBF) := ⟨by decide, by decide, by decide⟩

/-- The rows of the table by the number of bytes. The second byte of the first lead of a kind is
bounded so that no shorter encoding would do; further bounds leave out the surrogates and what lies
beyond the last character. -/
inductive Row (lead : Nat) : List (Nat × Nat) → Prop
  | one (ascii : lead < 0x80) : Row lead []
  | two (leads : 0xC2 ≤ lead ∧ lead < 0xE0) : Row lead [(0x80, 0xBF)]
  | three {bound : Nat × Nat} (leads : 0xE0 ≤ lead ∧ lead < 0xF0) (tail : IsTail bound)
    (least : lead = 0xE0 → 0xA0 ≤ bound.1) (noSurrogate : lead = 0xED → bound.2 ≤ 0x9F) :
    Row lead [bound, (0x80, 0xBF)]
  | four {bound : Nat × Nat} (leads : 0xF0 ≤ lead ∧ lead ≤ 0xF4) (tail : IsTail bound)
    (least : lead = 0xF0 → 0x90 ≤ bound.1) (greatest : lead = 0xF4 → bound.2 ≤ 0x8F) :
    Row lead [bound, (0x80, 0xBF), (0x80, 0xBF)]

section Rows
variable {lead : Nat} {bounds : List (Nat × Nat)}

theorem row_of_tailBounds (led : tailBounds lead = some bounds) : Row lead bounds := by
  unfold tailBounds at led
  split at led
  · next ascii =>
    cases led
    exact .one ascii
  split at led
  · cases led
  split at led
  · cases led
    exact .two (by omega)
  split at led
  · cases led
    exact .three (by omega) ⟨by decide, by decide, by decide⟩ (by omega) (by omega)
  split at led
  · cases led
    exact .three (by omega) ⟨by decide, by decide, by decide⟩ (by omega) (by omega)
  split at led
  · cases led
    exact .three (by omega) isTail_usual (by omega) (by omega)
  split at led
  · cases led
    exact .four (by omega) ⟨by decide, by decide, by decide⟩ (by omega) (by omega)
  split at led
  · cases led
    exact .four (by omega) isTail_usual (by omega) (by omega)
  split at led
  · cases led
    exact .four (by omega) ⟨by decide, by decide, by decide⟩ (by omega) (by omega)
  · cases led

theorem Row.isTail (row : Row lead bounds) : ∀ bound ∈ bounds, IsTail bound := by
  cases row with
  | one => exact nofun
  | two => exact List.forall_mem_singleton.2 isTail_usual
  | three _ tail => exact List.forall_mem_cons.2 ⟨tail, List.forall_mem_singleton.2 isTail_usual⟩
  | four _ tail =>
    exact List.forall_mem_cons.2
      ⟨tail, List.forall_mem_cons.2 ⟨isTail_usual, List.forall_mem_singleton.2 isTail_usual⟩⟩

theorem follows_lowest (isTail : ∀ bound ∈ bounds, IsTail bound) :
    Follows bounds (bounds.map fun bound => UInt8.ofNat bound.1) := by
  refine List.forall₂_map_right_iff.2 (List.forall₂_same.2 fun bound member => ?_)
  obtain ⟨_, ordered, high⟩ := isTail bound member
  exact within_ofNat (by omega) ⟨Nat.le_refl _, ordered⟩

theorem tailBounds_two (leads : 0xC2 ≤ lead ∧ lead < 0xE0) :
    tailBounds lead = some [(0x80, 0xBF)] := by
  rw [tailBounds, if_neg (by omega), if_neg (by omega), if_pos leads.2]

theorem tailBounds_three {second : Nat} (leads : 0xE0 ≤ lead ∧ lead < 0xF0)
    (tail : 0x80 ≤ second ∧ second ≤ 0xBF) (least : lead = 0xE0 → 0xA0 ≤ second)
    (noSurrogate : lead = 0xED → second ≤ 0x9F) :
    ∃ bound, tailBounds lead = some [bound, (0x80, 0xBF)] ∧
      bound.1 ≤ second ∧ second ≤ bound.2 := by
  unfold tailBounds
  rw [if_neg (by omega), if_neg (by omega), if_neg (by omega)]
  split
  · next first => exact ⟨_, rfl, least first, tail.2⟩
  split
  · next surrogates => exact ⟨_, rfl, tail.1, noSurrogate surrogates⟩
  · rw [if_pos leads.2]
    exact ⟨_, rfl, tail⟩

theorem tailBounds_four {second : Nat} (leads : 0xF0 ≤ lead ∧ lead ≤ 0xF4)
    (tail : 0x80 ≤ second ∧ second ≤ 0xBF) (least : lead = 0xF0 → 0x90 ≤ second)
    (greatest : lead = 0xF4 → second ≤ 0x8F) :
    ∃ bound, tailBounds lead = some [bound, (0x80, 0xBF), (0x80, 0xBF)] ∧
      bound.1 ≤ second ∧ second ≤ bound.2 := by
  unfold tailBounds
  rw [if_neg (by omega), if_neg (by omega), if_neg (by omega), if_neg (by omega),
    if_neg (by omega), if_neg (by omega)]
  split
  · next first => exact ⟨_, rfl, least first, tail.2⟩
  split
  · exact ⟨_, rfl, tail⟩
  · rw [if_pos (by omega)]
    exact ⟨_, rfl, tail.1, greatest (by omega)⟩

end Rows

/-- An encoding is a lead byte of the table with bytes within its bounds. -/
theorem exists_bounds (char : Char) :
    ∃ lead tail bounds, String.utf8EncodeChar char = lead :: tail ∧
      tailBounds lead.toNat = some bounds ∧ Follows bounds tail := by
  have valid : char.val.toNat < 0xD800 ∨ 0xDFFF < char.val.toNat ∧ char.val.toNat < 0x110000 :=
    char.valid
  unfold String.utf8EncodeChar
  dsimp only
  generalize char.val.toNat = code at valid
  split
  · refine ⟨_, _, [], rfl, ?_, .nil⟩
    rw [toNat_ofNat (by omega), tailBounds, if_pos (by omega)]
  split
  · refine ⟨_, _, [(0x80, 0xBF)], rfl, ?_, .cons (within_ofNat (by omega) (by omega)) .nil⟩
    rw [toNat_ofNat (by omega), tailBounds_two (by omega)]
  split
  · obtain ⟨bound, led, within⟩ := tailBounds_three
      (show 0xE0 ≤ code / 4096 % 16 + 224 ∧ _ by omega)
      (show 0x80 ≤ code / 64 % 64 + 128 ∧ _ by omega) (by omega) (by omega)
    refine ⟨_, _, _, rfl, by rw [toNat_ofNat (by omega), led], ?_⟩
    exact .cons (within_ofNat (by omega) within) (.cons (within_ofNat (by omega) (by omega)) .nil)
  · obtain ⟨bound, led, within⟩ := tailBounds_four
      (show 0xF0 ≤ code / 262144 % 8 + 240 ∧ _ by omega)
      (show 0x80 ≤ code / 4096 % 64 + 128 ∧ _ by omega) (by omega) (by omega)
    refine ⟨_, _, _, rfl, by rw [toNat_ofNat (by omega), led], ?_⟩
    exact .cons (within_ofNat (by omega) within) (.cons (within_ofNat (by omega) (by omega))
      (.cons (within_ofNat (by omega) (by omega)) .nil))

theorem val_ofNat {code : Nat} (valid : code < 0xD800 ∨ 0xDFFF < code ∧ code < 0x110000) :
    (Char.ofNat code).val.toNat = code := by
  have isCode : code.isValidChar := valid
  rw [Char.ofNat, dif_pos isCode]
  rfl

/-- Every lead byte of the table with bytes within its bounds is the encoding of what they spell. -/
theorem utf8EncodeChar_of_follows {lead : UInt8} {tail : List UInt8} {bounds : List (Nat × Nat)}
    (led : tailBounds lead.toNat = some bounds) (follows : Follows bounds tail) :
    String.utf8EncodeChar (Char.ofNat (tail.foldl extend (leadBits lead.toNat))) =
      lead :: tail := by
  cases row_of_tailBounds led with
  | one ascii =>
    cases follows
    rw [List.foldl_nil, leadBits, if_pos ascii]
    unfold String.utf8EncodeChar
    dsimp only
    rw [val_ofNat (by omega), if_pos (by omega), ofNat_eq lead rfl]
  | two leads =>
    cases follows with | @cons _ second _ _ within rest =>
    cases rest
    obtain ⟨low, high⟩ := within
    rw [List.foldl_cons, List.foldl_nil, leadBits, if_neg (by omega), if_pos leads.2]
    unfold extend String.utf8EncodeChar
    dsimp only at low high ⊢
    rw [val_ofNat (by omega), if_neg (by omega), if_pos (by omega), ofNat_eq lead (by omega),
      ofNat_eq second (by omega)]
  | three leads isTail least noSurrogate =>
    cases follows with | @cons _ second _ _ within rest =>
    cases rest with | @cons _ third _ _ withinThird rest =>
    cases rest
    obtain ⟨low, high⟩ := within
    obtain ⟨lowThird, highThird⟩ := withinThird
    obtain ⟨lowTail, _, highTail⟩ := isTail
    rw [List.foldl_cons, List.foldl_cons, List.foldl_nil, leadBits, if_neg (by omega),
      if_neg (by omega), if_pos leads.2]
    unfold extend String.utf8EncodeChar
    dsimp only at lowThird highThird ⊢
    rw [val_ofNat (by omega), if_neg (by omega), if_neg (by omega), if_pos (by omega),
      ofNat_eq lead (by omega), ofNat_eq second (by omega), ofNat_eq third (by omega)]
  | four leads isTail least greatest =>
    cases follows with | @cons _ second _ _ within rest =>
    cases rest with | @cons _ third _ _ withinThird rest =>
    cases rest with | @cons _ fourth _ _ withinFourth rest =>
    cases rest
    obtain ⟨low, high⟩ := within
    obtain ⟨lowThird, highThird⟩ := withinThird
    obtain ⟨lowFourth, highFourth⟩ := withinFourth
    obtain ⟨lowTail, _, highTail⟩ := isTail
    rw [List.foldl_cons, List.foldl_cons, List.foldl_cons, List.foldl_nil, leadBits,
      if_neg (by omega), if_neg (by omega), if_neg (by omega)]
    unfold extend String.utf8EncodeChar
    dsimp only at lowThird highThird lowFourth highFourth ⊢
    rw [val_ofNat (by omega), if_neg (by omega), if_neg (by omega), if_neg (by omega),
      ofNat_eq lead (by omega), ofNat_eq second (by omega), ofNat_eq third (by omega),
      ofNat_eq fourth (by omega)]

/-- What begins an encoding is a lead byte of the table and the first of the bytes after it. -/
theorem bounds_of_begins {lead : UInt8} {front : List UInt8} {char : Char}
    (begins : lead :: front <+: String.utf8EncodeChar char) :
    ∃ bounds tail, tailBounds lead.toNat = some bounds ∧ Follows bounds tail ∧ front <+: tail := by
  obtain ⟨first, tail, bounds, encoded, led, follows⟩ := exists_bounds char
  rw [encoded] at begins
  obtain ⟨rfl, beginsTail⟩ := List.cons_prefix_cons.1 begins
  exact ⟨bounds, tail, led, follows, beginsTail⟩

theorem utf8EncodeChar_ascii {byte : UInt8} (ascii : byte.toNat < 0x80) :
    String.utf8EncodeChar (Char.ofNat byte.toNat) = [byte] := by
  have led : tailBounds byte.toNat = some [] := if_pos ascii
  have encoded := utf8EncodeChar_of_follows led .nil
  rwa [List.foldl_nil, leadBits, if_pos ascii] at encoded

/-! Bytes that stop following the bounds. -/

/-- The bytes follow the bounds up to one that is missed by the next byte or finds none. -/
inductive Halts : List (Nat × Nat) → List UInt8 → List UInt8 → Prop
  | ended {bound : Nat × Nat} {bounds : List (Nat × Nat)} : Halts (bound :: bounds) [] []
  | missed {bound : Nat × Nat} {bounds : List (Nat × Nat)} {byte : UInt8} {rest : List UInt8}
    (misses : ¬ Within bound byte) : Halts (bound :: bounds) [] (byte :: rest)
  | met {bound : Nat × Nat} {bounds : List (Nat × Nat)} {byte : UInt8} {taken rest : List UInt8}
    (within : Within bound byte) (later : Halts bounds taken rest) :
    Halts (bound :: bounds) (byte :: taken) rest

namespace Halts
variable {bounds : List (Nat × Nat)} {taken rest tail front : List UInt8}

theorem length_lt (halts : Halts bounds taken rest) : taken.length < bounds.length := by
  induction halts with
  | ended => exact Nat.succ_pos _
  | missed => exact Nat.succ_pos _
  | met _ _ ih => exact Nat.succ_lt_succ ih

/-- No bytes within the bounds agree with these for longer. -/
theorem length_le (halts : Halts bounds taken rest) (follows : Follows bounds tail)
    (begins : front <+: tail) (stands : front <+: taken ++ rest) :
    front.length ≤ taken.length := by
  induction halts generalizing tail front with
  | ended => exact stands.length_le
  | missed misses =>
    cases front with
    | nil => exact Nat.zero_le _
    | cons byte front =>
      cases follows with | cons within =>
      obtain ⟨same, _⟩ := List.cons_prefix_cons.1 begins
      obtain ⟨again, _⟩ := List.cons_prefix_cons.1 stands
      exact absurd (again ▸ same ▸ within) misses
  | met _ _ ih =>
    cases front with
    | nil => exact Nat.zero_le _
    | cons byte front =>
      cases follows with | cons _ follows =>
      exact Nat.succ_le_succ
        (ih follows (List.cons_prefix_cons.1 begins).2 (List.cons_prefix_cons.1 stands).2)

/-- The bytes taken can be continued within the bounds. -/
theorem exists_follows (halts : Halts bounds taken rest) (isTail : ∀ bound ∈ bounds, IsTail bound) :
    ∃ tail, Follows bounds tail ∧ taken <+: tail := by
  induction halts with
  | ended => exact ⟨_, follows_lowest isTail, List.nil_prefix⟩
  | missed => exact ⟨_, follows_lowest isTail, List.nil_prefix⟩
  | @met _ _ byte _ _ within _ ih =>
    obtain ⟨tail, follows, begins⟩ := ih (List.forall_mem_cons.1 isTail).2
    exact ⟨byte :: tail, .cons within follows, List.cons_prefix_cons.2 ⟨rfl, begins⟩⟩

theorem isMaximalSubpart {lead : UInt8} (led : tailBounds lead.toNat = some bounds)
    (halts : Halts bounds taken rest) : IsMaximalSubpart (lead :: taken) rest := by
  have longest : ∀ front, front <+: lead :: taken ++ rest → Begins front →
      front.length ≤ (lead :: taken).length := by
    rintro front stands ⟨char, begins⟩
    cases front with
    | nil => exact Nat.zero_le _
    | cons byte front =>
      obtain ⟨rfl, standsTail⟩ := List.cons_prefix_cons.1 stands
      obtain ⟨_, _, again, follows, beginsTail⟩ := bounds_of_begins begins
      cases led.symm.trans again
      exact Nat.succ_le_succ (halts.length_le follows beginsTail standsTail)
  refine ⟨fun char stands => ?_, List.cons_ne_nil _ _, .inl ?_, longest⟩
  · obtain ⟨first, tail, _, encoded, again, follows⟩ := exists_bounds char
    have short := longest _ stands ⟨char, List.prefix_rfl⟩
    rw [encoded] at short stands
    obtain ⟨rfl, _⟩ := List.cons_prefix_cons.1 stands
    cases led.symm.trans again
    have bounded := halts.length_lt
    rw [follows.length_eq] at bounded
    exact absurd (Nat.le_of_succ_le_succ short) (Nat.not_le.2 bounded)
  · obtain ⟨tail, follows, begins⟩ := halts.exists_follows (row_of_tailBounds led).isTail
    exact ⟨_, utf8EncodeChar_of_follows led follows ▸ List.cons_prefix_cons.2 ⟨rfl, begins⟩⟩

end Halts

/-- A byte that leads no encoding stands alone. -/
theorem isMaximalSubpart_singleton {byte : UInt8} (leadsNone : tailBounds byte.toNat = none)
    (rest : List UInt8) : IsMaximalSubpart [byte] rest := by
  have noEncoding : ∀ char front, ¬ byte :: front <+: String.utf8EncodeChar char := by
    intro char front begins
    obtain ⟨_, _, led, _⟩ := bounds_of_begins begins
    cases leadsNone.symm.trans led
  refine ⟨fun char stands => ?_, List.cons_ne_nil _ _, .inr rfl, ?_⟩
  · obtain ⟨first, tail, _, encoded, _⟩ := exists_bounds char
    rw [encoded] at stands
    obtain ⟨rfl, _⟩ := List.cons_prefix_cons.1 stands
    exact noEncoding char tail (encoded ▸ List.prefix_rfl)
  · rintro front stands ⟨char, begins⟩
    cases front with
    | nil => exact Nat.zero_le _
    | cons first front =>
      obtain ⟨rfl, _⟩ := List.cons_prefix_cons.1 stands
      exact absurd begins (noEncoding char front)

/-! The decoder. -/

section Steps
variable {code : Nat} {next : Nat × Nat} {byte : UInt8}

theorem step_on (within : Within next byte) (second : Nat × Nat) (later : List (Nat × Nat)) :
    step (.open code next (second :: later)) byte.toNat =
      ([], .open (extend code byte) second later) := by
  unfold step
  exact if_pos within

theorem step_last (within : Within next byte) :
    step (.open code next []) byte.toNat =
      ([some (Char.ofNat (extend code byte))], .ready) := by
  unfold step
  exact if_pos within

theorem step_missed (misses : ¬ Within next byte) (later : List (Nat × Nat)) :
    step (.open code next later) byte.toNat =
      (none :: (step .ready byte.toNat).1, (step .ready byte.toNat).2) := by
  unfold step
  exact if_neg misses

theorem piecesFrom_cons (state : State) (byte : UInt8) (rest : List UInt8) :
    piecesFrom state (byte :: rest) =
      (step state byte.toNat).1 ++ piecesFrom (step state byte.toNat).2 rest := by
  cases state <;> rfl

end Steps

/-- From an open character on, the decoder completes it or breaks it off where its bounds are no
longer followed. -/
theorem piecesFrom_open (code : Nat) (next : Nat × Nat) (later : List (Nat × Nat))
    (bytes : List UInt8) :
    (∃ tail rest, bytes = tail ++ rest ∧ Follows (next :: later) tail ∧
      piecesFrom (.open code next later) bytes =
        some (Char.ofNat (tail.foldl extend code)) :: pieces rest) ∨
    ∃ taken rest, bytes = taken ++ rest ∧ Halts (next :: later) taken rest ∧
      piecesFrom (.open code next later) bytes = none :: pieces rest := by
  induction bytes generalizing code next later with
  | nil => exact .inr ⟨[], [], rfl, .ended, rfl⟩
  | cons byte bytes ih =>
    rw [piecesFrom_cons]
    by_cases within : Within next byte
    · cases later with
      | nil =>
        refine .inl ⟨[byte], bytes, rfl, .cons within .nil, ?_⟩
        rw [step_last within, List.foldl_cons, List.foldl_nil, List.singleton_append, pieces]
      | cons second later =>
        rw [step_on within, List.nil_append]
        obtain ⟨tail, rest, rfl, follows, whole⟩ | ⟨taken, rest, rfl, halts, broken⟩ :=
          ih (extend code byte) second later
        · refine .inl ⟨byte :: tail, rest, rfl, .cons within follows, ?_⟩
          rw [whole, List.foldl_cons]
        · exact .inr ⟨byte :: taken, rest, rfl, .met within halts, broken⟩
    · rw [step_missed within]
      refine .inr ⟨[], byte :: bytes, rfl, .missed within, ?_⟩
      rw [pieces, piecesFrom_cons, List.cons_append]

/-- The decoder reads an encoding, or else passes over a maximal subpart. -/
theorem pieces_cons (byte : UInt8) (bytes : List UInt8) :
    ∃ front rest, byte :: bytes = front ++ rest ∧ front ≠ [] ∧
      ((∃ char, front = String.utf8EncodeChar char ∧
        pieces (byte :: bytes) = some char :: pieces rest) ∨
      IsMaximalSubpart front rest ∧ pieces (byte :: bytes) = none :: pieces rest) := by
  have start : pieces (byte :: bytes) =
      (begin byte.toNat).1 ++ piecesFrom (begin byte.toNat).2 bytes := rfl
  cases led : tailBounds byte.toNat with
  | none =>
    refine ⟨[byte], bytes, rfl, List.cons_ne_nil _ _, .inr ⟨isMaximalSubpart_singleton led _, ?_⟩⟩
    rw [start, begin, led]
    rfl
  | some bounds =>
    cases bounds with
    | nil =>
      cases row_of_tailBounds led with | one ascii =>
      refine ⟨[byte], bytes, rfl, List.cons_ne_nil _ _,
        .inl ⟨_, (utf8EncodeChar_ascii ascii).symm, ?_⟩⟩
      rw [start, begin, led]
      rfl
    | cons next later =>
      have opens : pieces (byte :: bytes) =
          piecesFrom (.open (leadBits byte.toNat) next later) bytes := by
        rw [start, begin, led]
        rfl
      rw [opens]
      obtain ⟨tail, rest, rfl, follows, whole⟩ | ⟨taken, rest, rfl, halts, broken⟩ :=
        piecesFrom_open (leadBits byte.toNat) next later bytes
      · exact ⟨byte :: tail, rest, rfl, List.cons_ne_nil _ _,
          .inl ⟨_, (utf8EncodeChar_of_follows led follows).symm, whole⟩⟩
      · exact ⟨byte :: taken, rest, rfl, List.cons_ne_nil _ _,
          .inr ⟨halts.isMaximalSubpart led, broken⟩⟩

theorem replaces_decodeLossy (bytes : List UInt8) : Replaces bytes (decodeLossy bytes) := by
  induction size : bytes.length using Nat.strongRecOn generalizing bytes with
  | ind count ih =>
    cases bytes with
    | nil => exact .nil
    | cons byte bytes =>
      obtain ⟨front, rest, whole, nonempty, reads⟩ := pieces_cons byte bytes
      have shorter : rest.length < count := by
        have longer := List.length_pos_iff.2 nonempty
        rw [← size, whole, List.length_append]
        omega
      have later := ih _ shorter rest rfl
      unfold decodeLossy at later ⊢
      rw [whole] at reads ⊢
      obtain ⟨char, rfl, reads⟩ | ⟨maximal, reads⟩ := reads
      · rw [reads]
        exact .char char later
      · rw [reads]
        exact .broken maximal later

/-! One text only. -/

theorem IsMaximalSubpart.length_le {part rest other more : List UInt8}
    (left : IsMaximalSubpart part rest) (right : IsMaximalSubpart other more)
    (same : part ++ rest = other ++ more) : part.length ≤ other.length := by
  obtain begins | single := left.begins
  · exact right.longest part (same ▸ List.prefix_append part rest) begins
  · rw [single]
    exact List.length_pos_iff.2 right.nonempty

theorem Replaces.unique {bytes : List UInt8} {text other : List Char} (left : Replaces bytes text)
    (right : Replaces bytes other) : text = other := by
  -- both read the same front: one encoding begins no other, and no subpart begins with any
  induction left generalizing other with
  | nil =>
    generalize none : ([] : List UInt8) = bytes at right
    cases right with
    | nil => rfl
    | char => exact absurd (List.append_eq_nil_iff.1 none.symm).1 String.utf8EncodeChar_ne_nil
    | broken maximal => exact absurd (List.append_eq_nil_iff.1 none.symm).1 maximal.nonempty
  | @char rest _ char _ ih =>
    generalize same : String.utf8EncodeChar char ++ rest = bytes at right
    cases right with
    | nil => exact absurd (List.append_eq_nil_iff.1 same).1 String.utf8EncodeChar_ne_nil
    | char other later =>
      obtain ⟨rfl, rfl⟩ := utf8EncodeChar_append_inj same
      rw [ih later]
    | broken maximal => exact absurd ⟨rest, same⟩ (maximal.unconvertible char)
  | @broken part rest _ maximal _ ih =>
    generalize same : part ++ rest = bytes at right
    cases right with
    | nil => exact absurd (List.append_eq_nil_iff.1 same).1 maximal.nonempty
    | @char more _ other => exact absurd ⟨more, same.symm⟩ (maximal.unconvertible other)
    | broken maximal' later =>
      obtain ⟨rfl, rfl⟩ := List.append_inj same
        (Nat.le_antisymm (maximal.length_le maximal' same) (maximal'.length_le maximal same.symm))
      rw [ih later]

theorem replaces_iff {bytes : List UInt8} {text : List Char} :
    Replaces bytes text ↔ decodeLossy bytes = text :=
  ⟨(replaces_decodeLossy bytes).unique, fun same => same ▸ replaces_decodeLossy bytes⟩

theorem decodeLossy_encoded (text : List Char) :
    decodeLossy (text.flatMap String.utf8EncodeChar) = text := by
  apply replaces_iff.1
  induction text with
  | nil => exact .nil
  | cons char text ih => exact .char char ih

/-! ASCII bytes. -/

section Ascii
variable {byte : UInt8}

theorem Follows.high {bounds : List (Nat × Nat)} {tail : List UInt8} (follows : Follows bounds tail)
    (isTail : ∀ bound ∈ bounds, IsTail bound) : ∀ byte ∈ tail, 0x80 ≤ byte.toNat := by
  induction follows with
  | nil => exact nofun
  | cons within _ ih =>
    obtain ⟨first, later⟩ := List.forall_mem_cons.1 isTail
    exact List.forall_mem_cons.2 ⟨Nat.le_trans first.low within.1, ih later⟩

/-- An ASCII byte belongs to no encoding but its own. -/
theorem utf8EncodeChar_of_mem (ascii : byte.toNat < 0x80) {char : Char}
    (member : byte ∈ String.utf8EncodeChar char) : String.utf8EncodeChar char = [byte] := by
  obtain ⟨lead, tail, bounds, encoded, led, follows⟩ := exists_bounds char
  have row := row_of_tailBounds led
  rw [encoded] at member ⊢
  obtain rfl | inTail := List.mem_cons.1 member
  · cases row with
    | one =>
      cases follows
      rfl
    | two leads | three leads | four leads => omega
  · exact absurd (follows.high row.isTail byte inTail) (Nat.not_le.2 ascii)

/-- What begins an encoding ends before an ASCII byte. -/
theorem Begins.prefix_of_ascii (ascii : byte.toNat < 0x80) {front whole back : List UInt8}
    (begins : Begins front) (stands : front <+: whole ++ byte :: back) (nonempty : whole ≠ []) :
    front <+: whole := by
  by_cases inside : front.length ≤ whole.length
  · exact List.prefix_of_prefix_length_le stands (List.prefix_append whole _) inside
  -- a longer front would hold the byte with others before it
  · have reaches : whole ++ [byte] <+: front := by
      refine List.prefix_of_prefix_length_le ?_ stands ?_
      · exact ⟨back, List.append_assoc _ _ _⟩
      · rw [List.length_append, List.length_singleton]
        omega
    obtain ⟨char, begins⟩ := begins
    have member : byte ∈ String.utf8EncodeChar char :=
      begins.subset (reaches.subset (List.mem_append_right _ (List.mem_singleton_self byte)))
    have short := begins.length_le
    rw [utf8EncodeChar_of_mem ascii member, List.length_singleton] at short
    have longer := List.length_pos_iff.2 nonempty
    omega

theorem IsMaximalSubpart.append_ascii (ascii : byte.toNat < 0x80) {part rest : List UInt8}
    (maximal : IsMaximalSubpart part rest) (back : List UInt8) :
    IsMaximalSubpart part (rest ++ byte :: back) := by
  have nonempty : part ++ rest ≠ [] := fun none =>
    maximal.nonempty (List.append_eq_nil_iff.1 none).1
  have before : ∀ front, front <+: part ++ (rest ++ byte :: back) → Begins front →
      front <+: part ++ rest := fun front stands begins =>
    begins.prefix_of_ascii ascii (List.append_assoc part rest _ ▸ stands) nonempty
  exact ⟨fun char stands => maximal.unconvertible char (before _ stands ⟨char, List.prefix_rfl⟩),
    maximal.nonempty, maximal.begins,
    fun front stands begins => maximal.longest front (before front stands begins) begins⟩

namespace Replaces
variable {bytes back : List UInt8} {text later : List Char}

theorem append_ascii (ascii : byte.toNat < 0x80) (replaced : Replaces bytes text)
    (replacedBack : Replaces back later) :
    Replaces (bytes ++ byte :: back) (text ++ Char.ofNat byte.toNat :: later) := by
  induction replaced with
  | nil =>
    have whole := Replaces.char (Char.ofNat byte.toNat) replacedBack
    rwa [utf8EncodeChar_ascii ascii] at whole
  | char char _ ih =>
    rw [List.append_assoc]
    exact .char char ih
  | broken maximal _ ih =>
    rw [List.append_assoc]
    exact .broken (maximal.append_ascii ascii back) ih

theorem mem_of_mem_text (ascii : byte.toNat < 0x80) (replaced : Replaces bytes text)
    (member : Char.ofNat byte.toNat ∈ text) : byte ∈ bytes := by
  induction replaced with
  | nil => exact absurd member List.not_mem_nil
  | char char _ ih =>
    obtain rfl | inText := List.mem_cons.1 member
    · rw [utf8EncodeChar_ascii ascii]
      exact List.mem_cons_self
    · exact List.mem_append_right _ (ih inText)
  | broken _ _ ih =>
    obtain same | inText := List.mem_cons.1 member
    · have code := val_ofNat (show byte.toNat < 0xD800 ∨ _ from .inl (by omega))
      rw [same] at code
      exact absurd (code ▸ ascii) (by decide)
    · exact List.mem_append_right _ (ih inText)

end Replaces

/-- An ASCII byte is read as its character, and what stands on its two sides is read apart. -/
theorem decodeLossy_append_ascii (ascii : byte.toNat < 0x80) (front back : List UInt8) :
    decodeLossy (front ++ byte :: back) =
      decodeLossy front ++ Char.ofNat byte.toNat :: decodeLossy back :=
  replaces_iff.1 ((replaces_decodeLossy front).append_ascii ascii (replaces_decodeLossy back))

end Ascii

end LootSieve.Text.Utf8
