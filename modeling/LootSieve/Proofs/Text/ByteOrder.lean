import Mathlib.Data.List.Basic
import Mathlib.Order.Basic

/-! Texts in the order of their bytes. Texts are compared by the codes of their characters; this is
the order of their encoded bytes, since no encoding is the beginning of another one and the lead
byte of a longer encoding is greater. -/

namespace LootSieve.Text

/-- The bytes of a text as it is stored, in UTF-8. -/
def bytes (text : String) : List UInt8 := text.toList.flatMap String.utf8EncodeChar

theorem length_bytes (text : String) : (bytes text).length = text.utf8ByteSize := by
  have stored : text.toByteArray = (bytes text).toByteArray := String.utf8Encode_toList.symm
  rw [String.utf8ByteSize, stored, List.size_toByteArray]

/-! Single characters. -/

theorem ofNat_lt_ofNat {low high : Nat} (lt : low < high) (small : high < 256) :
    UInt8.ofNat low < UInt8.ofNat high := by
  rw [UInt8.lt_iff_toNat_lt, UInt8.toNat_ofNat', UInt8.toNat_ofNat']
  omega

theorem ofNat_cons_lt {low high : Nat} {left right : List UInt8} (lt : low < high)
    (small : high < 256) : UInt8.ofNat low :: left < UInt8.ofNat high :: right :=
  List.cons_lt_cons_iff.2 (.inl (ofNat_lt_ofNat lt small))

/-- Bytes that may be equal leave the decision to those that follow. -/
theorem ofNat_cons_lt_of_le {low high : Nat} {left right : List UInt8} (le : low ≤ high)
    (small : high < 256) (tie : low = high → left < right) :
    UInt8.ofNat low :: left < UInt8.ofNat high :: right := by
  rcases Nat.lt_or_eq_of_le le with lt | same
  · exact ofNat_cons_lt lt small
  · exact List.cons_lt_cons_iff.2 (.inr ⟨congrArg UInt8.ofNat same, tie same⟩)

/-- The encodings of two characters decide, whatever follows them. -/
theorem utf8EncodeChar_append_lt {left right : Char} (lt : left < right)
    (after other : List UInt8) :
    String.utf8EncodeChar left ++ after < String.utf8EncodeChar right ++ other := by
  have codes : left.val.toNat < right.val.toNat := lt
  have bound : right.val.toNat < 0x110000 := by
    rcases right.valid with low | ⟨_, high⟩
    · exact Nat.lt_trans low (by decide)
    · exact high
  unfold String.utf8EncodeChar
  dsimp only
  -- by the length of the left encoding; where the right one is longer its lead byte decides
  split
  · split
    · exact ofNat_cons_lt (by omega) (by omega)
    · split
      · exact ofNat_cons_lt (by omega) (by omega)
      · split <;> exact ofNat_cons_lt (by omega) (by omega)
  · rw [if_neg (show ¬ right.val.toNat ≤ 0x7f by omega)]
    split
    · split
      · apply ofNat_cons_lt_of_le (by omega) (by omega)
        intro lead
        exact ofNat_cons_lt (by omega) (by omega)
      · split <;> exact ofNat_cons_lt (by omega) (by omega)
    · rw [if_neg (show ¬ right.val.toNat ≤ 0x7ff by omega)]
      split
      · split
        · apply ofNat_cons_lt_of_le (by omega) (by omega)
          intro lead
          apply ofNat_cons_lt_of_le (by omega) (by omega)
          intro second
          exact ofNat_cons_lt (by omega) (by omega)
        · exact ofNat_cons_lt (by omega) (by omega)
      · rw [if_neg (show ¬ right.val.toNat ≤ 0xffff by omega)]
        apply ofNat_cons_lt_of_le (by omega) (by omega)
        intro lead
        apply ofNat_cons_lt_of_le (by omega) (by omega)
        intro second
        apply ofNat_cons_lt_of_le (by omega) (by omega)
        intro third
        exact ofNat_cons_lt (by omega) (by omega)

/-- What starts with an encoding starts with no other. -/
theorem utf8EncodeChar_append_inj {left right : Char} {after other : List UInt8}
    (same : String.utf8EncodeChar left ++ after = String.utf8EncodeChar right ++ other) :
    left = right ∧ after = other := by
  have apart : ∀ {low high : Char} {after other : List UInt8},
      String.utf8EncodeChar low ++ after = String.utf8EncodeChar high ++ other → ¬ low < high := by
    intro low high after other same before
    have lt := utf8EncodeChar_append_lt before after other
    rw [same] at lt
    exact List.lt_irrefl _ lt
  obtain rfl : left = right := Char.le_antisymm (Char.not_lt.1 (apart same.symm))
    (Char.not_lt.1 (apart same))
  exact ⟨rfl, List.append_cancel_left same⟩

/-! Whole texts. -/

theorem encoded_lt_of_lt {left right : List Char} (lt : left < right) :
    left.flatMap String.utf8EncodeChar < right.flatMap String.utf8EncodeChar := by
  induction lt with
  | @nil char right =>
    obtain ⟨first, more, encoded⟩ :=
      List.exists_cons_of_ne_nil (String.utf8EncodeChar_ne_nil (c := char))
    rw [List.flatMap_cons, encoded]
    exact List.nil_lt_cons first _
  | @cons char left right later ih => exact List.append_left_lt ih
  | @rel char left other right before => exact utf8EncodeChar_append_lt before _ _

theorem bytes_lt_bytes_iff {left right : String} : bytes left < bytes right ↔ left < right := by
  refine ⟨fun lt => ?_, encoded_lt_of_lt⟩
  by_contra notBefore
  by_cases after : right < left
  · exact List.lt_asymm (encoded_lt_of_lt after) lt
  · have same := String.le_antisymm (String.not_lt.1 after) (String.not_lt.1 notBefore)
    exact List.lt_irrefl _ (same ▸ lt)

theorem bytes_le_bytes_iff {left right : String} : bytes left ≤ bytes right ↔ left ≤ right := by
  rw [← List.not_lt, ← String.not_lt, bytes_lt_bytes_iff]

end LootSieve.Text
