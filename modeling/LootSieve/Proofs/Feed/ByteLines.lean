import LootSieve.Feed.Source
import LootSieve.Proofs.Text.Replacement
import Mathlib.Data.List.DropRight

/-!
A byte stream read line by line. A source takes bytes up to the next newline, decodes them and drops
what ends the line. This gives the lines of the stream, and the same as if the stream were decoded
as a whole first: a newline belongs to no other character, so broken bytes stay in their line. What
was written as lines is read back as these lines.
-/

namespace LootSieve.Feed
open Text

/-! Lines. -/

section Lines
variable {α : Type} [DecidableEq α] {mark : α} {text front : List α}

/-- The pieces between marks; a last piece counts only if it is not empty. -/
def linesAt (mark : α) (text : List α) : List (List α) :=
  let pieces := text.splitOn mark
  if pieces.getLast? = some [] then pieces.dropLast else pieces

theorem linesAt_nil (mark : α) : linesAt mark [] = [] := by
  unfold linesAt
  rw [List.splitOn_nil]
  exact if_pos rfl

theorem linesAt_of_not_mem (unmarked : mark ∉ text) (nonempty : text ≠ []) :
    linesAt mark text = [text] := by
  unfold linesAt
  rw [List.splitOn_eq_singleton unmarked]
  exact if_neg fun last => nonempty (Option.some.inj last)

theorem linesAt_append_cons (unmarked : mark ∉ front) (back : List α) :
    linesAt mark (front ++ mark :: back) = front :: linesAt mark back := by
  unfold linesAt
  rw [List.splitOn_append_cons_self_of_not_mem unmarked]
  obtain ⟨first, rest, pieces⟩ := List.exists_cons_of_ne_nil (List.splitOn_ne_nil mark back)
  dsimp only
  rw [pieces, List.getLast?_cons_cons, List.dropLast_cons_cons]
  split <;> rfl

/-- A text is cut at its first mark, if it has one. -/
theorem lines_induction {motive : List α → Prop} (mark : α)
    (unmarked : ∀ text, mark ∉ text → motive text)
    (marked : ∀ front back, mark ∉ front → motive back → motive (front ++ mark :: back))
    (text : List α) : motive text := by
  induction size : text.length using Nat.strongRecOn generalizing text with
  | ind count ih =>
    by_cases member : mark ∈ text
    · obtain ⟨front, back, rfl, fresh⟩ := List.eq_append_cons_of_mem member
      refine marked front back fresh (ih back.length ?_ back rfl)
      rw [← size, List.length_append, List.length_cons]
      omega
    · exact unmarked text member

end Lines

/-! Ends of lines. -/

theorem dropLineEnd_concat {char : Char} (isEnd : isLineEnd char = true) (text : List Char) :
    dropLineEnd (text ++ [char]) = dropLineEnd text :=
  List.rdropWhile_concat_pos isLineEnd text char isEnd

theorem dropLineEnd_of_last {text : List Char}
    (solid : ∀ nonempty : text ≠ [], isLineEnd (text.getLast nonempty) = false) :
    dropLineEnd text = text :=
  List.rdropWhile_eq_self_iff.2 fun nonempty => Bool.not_eq_true _ ▸ solid nonempty

theorem newline_ascii : newline.toNat < 0x80 := by decide

theorem decodeLossy_newline (front back : List UInt8) :
    Utf8.decodeLossy (front ++ newline :: back) =
      Utf8.decodeLossy front ++ '\n' :: Utf8.decodeLossy back :=
  Utf8.decodeLossy_append_ascii newline_ascii front back

theorem not_mem_decodeLossy {bytes : List UInt8} (unmarked : newline ∉ bytes) :
    '\n' ∉ Utf8.decodeLossy bytes := fun member =>
  unmarked ((Utf8.replaces_decodeLossy bytes).mem_of_mem_text newline_ascii member)

/-! Readings. -/

section Readings
variable {line bytes : List UInt8}

theorem fragmentOfLine_concat {byte : UInt8} (ascii : byte.toNat < 0x80)
    (isEnd : isLineEnd (Char.ofNat byte.toNat) = true) (line : List UInt8) :
    fragmentOfLine (line ++ [byte]) = fragmentOfLine line := by
  unfold fragmentOfLine
  rw [Utf8.decodeLossy_append_ascii ascii]
  exact congrArg String.ofList (dropLineEnd_concat isEnd _)

theorem firstLine_append_cons (unmarked : newline ∉ line) (back : List UInt8) :
    firstLine (line ++ newline :: back) = (line ++ [newline], back) := by
  have inLine : ∀ byte ∈ line, decide (byte ≠ newline) = true := fun byte member =>
    decide_eq_true fun same => unmarked (same ▸ member)
  unfold firstLine
  rw [List.takeWhile_append_of_pos inLine, List.dropWhile_append_of_pos inLine,
    List.takeWhile_cons_of_neg (by simp), List.dropWhile_cons_of_neg (by simp), List.append_nil]
  rfl

theorem firstLine_of_not_mem (unmarked : newline ∉ bytes) : firstLine bytes = (bytes, []) := by
  have inLine : ∀ byte ∈ bytes, decide (byte ≠ newline) = true := fun byte member =>
    decide_eq_true fun same => unmarked (same ▸ member)
  unfold firstLine
  rw [List.takeWhile_eq_self_iff.2 inLine, List.dropWhile_eq_nil_iff.2 inLine]
  exact congrArg (·, []) (List.append_nil bytes)

theorem nextFragment?_of_firstLine {rest : List UInt8} (nonempty : line ≠ [])
    (split : firstLine bytes = (line, rest)) :
    nextFragment? bytes = some (fragmentOfLine line, rest) := by
  unfold nextFragment?
  rw [split]
  cases line with
  | nil => exact absurd rfl nonempty
  | cons => rfl

theorem fragmentsOfBytes_of_firstLine {rest : List UInt8} (nonempty : line ≠ [])
    (split : firstLine bytes = (line, rest)) :
    fragmentsOfBytes bytes = fragmentOfLine line :: fragmentsOfBytes rest := by
  rw [fragmentsOfBytes, nextFragment?_of_firstLine nonempty split]

theorem fragmentsOfBytes_nil : fragmentsOfBytes [] = [] := by
  rw [fragmentsOfBytes]
  rfl

theorem fragmentsOfBytes_append_cons (unmarked : newline ∉ line) (back : List UInt8) :
    fragmentsOfBytes (line ++ newline :: back) = fragmentOfLine line :: fragmentsOfBytes back := by
  rw [fragmentsOfBytes_of_firstLine (List.append_ne_nil_of_right_ne_nil _ (List.cons_ne_nil _ _))
    (firstLine_append_cons unmarked back), fragmentOfLine_concat newline_ascii rfl]

theorem fragmentsOfBytes_of_not_mem (unmarked : newline ∉ bytes) (nonempty : bytes ≠ []) :
    fragmentsOfBytes bytes = [fragmentOfLine bytes] := by
  rw [fragmentsOfBytes_of_firstLine nonempty (firstLine_of_not_mem unmarked), fragmentsOfBytes_nil]

end Readings

/-- The lines of a stream, each decoded on its own, are those of the stream decoded as a whole. -/
theorem linesAt_decodeLossy (bytes : List UInt8) :
    linesAt '\n' (Utf8.decodeLossy bytes) = (linesAt newline bytes).map Utf8.decodeLossy := by
  induction bytes using lines_induction newline with
  | unmarked bytes unmarked =>
    cases bytes with
    | nil => rfl
    | cons byte rest =>
      have nonempty : Utf8.decodeLossy (byte :: rest) ≠ [] := by
        obtain ⟨_, _, _, _, ⟨_, _, reads⟩ | ⟨_, reads⟩⟩ := Utf8.pieces_cons byte rest <;>
          · rw [Utf8.decodeLossy, reads]
            exact List.cons_ne_nil _ _
      rw [linesAt_of_not_mem unmarked (List.cons_ne_nil _ _),
        linesAt_of_not_mem (not_mem_decodeLossy unmarked) nonempty, List.map_singleton]
  | marked front back unmarked ih =>
    rw [decodeLossy_newline, linesAt_append_cons (not_mem_decodeLossy unmarked),
      linesAt_append_cons unmarked, ih, List.map_cons]

theorem fragmentsOfBytes_eq_map (bytes : List UInt8) :
    fragmentsOfBytes bytes = (linesAt newline bytes).map fragmentOfLine := by
  induction bytes using lines_induction newline with
  | unmarked bytes unmarked =>
    by_cases nonempty : bytes = []
    · rw [nonempty, fragmentsOfBytes_nil, linesAt_nil, List.map_nil]
    · rw [fragmentsOfBytes_of_not_mem unmarked nonempty, linesAt_of_not_mem unmarked nonempty,
        List.map_singleton]
  | marked front back unmarked ih =>
    rw [fragmentsOfBytes_append_cons unmarked, linesAt_append_cons unmarked, ih, List.map_cons]

/-- What stands before a newline and what stands behind it are read apart. -/
theorem fragmentsOfBytes_append (front back : List UInt8) :
    fragmentsOfBytes (front ++ newline :: back) =
      fragmentsOfBytes (front ++ [newline]) ++ fragmentsOfBytes back := by
  induction front using lines_induction newline with
  | unmarked front unmarked =>
    rw [fragmentsOfBytes_append_cons unmarked, fragmentsOfBytes_append_cons unmarked,
      fragmentsOfBytes_nil, List.singleton_append]
  | marked first front unmarked ih =>
    rw [List.append_assoc, List.cons_append, fragmentsOfBytes_append_cons unmarked, ih,
      List.append_assoc, List.cons_append, fragmentsOfBytes_append_cons unmarked, List.cons_append]

/-! Written lines. -/

def carriageReturn : UInt8 := 0x0D

inductive LineEnd where
  | newline
  | returnAndNewline

def LineEnd.bytes : LineEnd → List UInt8
  | newline => [Feed.newline]
  | returnAndNewline => [carriageReturn, Feed.newline]

/-- A text with one of the two ends of a line. The text holds no newline, and its last character is
no carriage return. -/
structure WrittenLine where
  text : String
  lineEnd : LineEnd
  noNewline : '\n' ∉ text.toList
  noReturn : text.toList.getLast? ≠ some '\r'

namespace WrittenLine

def bytes (line : WrittenLine) : List UInt8 := Text.bytes line.text ++ line.lineEnd.bytes

theorem dropLineEnd_text (line : WrittenLine) :
    dropLineEnd line.text.toList = line.text.toList := by
  refine dropLineEnd_of_last fun nonempty => ?_
  have last := List.getLast?_eq_some_getLast nonempty
  have noNewline : line.text.toList.getLast nonempty ≠ '\n' := fun same =>
    line.noNewline (same ▸ List.getLast_mem nonempty)
  have noReturn : line.text.toList.getLast nonempty ≠ '\r' := fun same =>
    line.noReturn (last.trans (congrArg some same))
  rw [isLineEnd, decide_eq_false noReturn, decide_eq_false noNewline, Bool.false_or]

theorem newline_not_mem (line : WrittenLine) : newline ∉ Text.bytes line.text := by
  intro member
  obtain ⟨front, back, split⟩ := List.append_of_mem member
  have text : Utf8.decodeLossy (Text.bytes line.text) = line.text.toList :=
    Utf8.decodeLossy_encoded line.text.toList
  rw [split, decodeLossy_newline] at text
  exact line.noNewline (text ▸ List.mem_append_right _ List.mem_cons_self)

theorem fragmentOfLine_text (line : WrittenLine) :
    fragmentOfLine (Text.bytes line.text) = line.text := by
  rw [fragmentOfLine, Text.bytes, Utf8.decodeLossy_encoded, line.dropLineEnd_text,
    String.ofList_toList]

theorem fragmentsOfBytes_bytes (line : WrittenLine) (back : List UInt8) :
    fragmentsOfBytes (line.bytes ++ back) = line.text :: fragmentsOfBytes back := by
  rw [bytes]
  cases line.lineEnd with
  | newline =>
    rw [LineEnd.bytes, List.append_assoc, List.singleton_append,
      fragmentsOfBytes_append_cons line.newline_not_mem, line.fragmentOfLine_text]
  | returnAndNewline =>
    have unmarked : newline ∉ Text.bytes line.text ++ [carriageReturn] := by
      intro member
      obtain inText | isReturn := List.mem_append.1 member
      · exact line.newline_not_mem inText
      · exact absurd isReturn (by decide)
    have whole : Text.bytes line.text ++ LineEnd.returnAndNewline.bytes ++ back =
        Text.bytes line.text ++ [carriageReturn] ++ newline :: back := by
      rw [LineEnd.bytes, List.append_assoc, List.append_assoc]
      rfl
    rw [whole, fragmentsOfBytes_append_cons unmarked, fragmentOfLine_concat (by decide) (by decide),
      line.fragmentOfLine_text]

end WrittenLine

theorem fragmentsOfBytes_written (lines : List WrittenLine) :
    fragmentsOfBytes (lines.flatMap (·.bytes)) = lines.map (·.text) := by
  induction lines with
  | nil => exact fragmentsOfBytes_nil
  | cons line lines ih =>
    rw [List.flatMap_cons, line.fragmentsOfBytes_bytes, ih, List.map_cons]

/-- A byte stream is read as its lines, whether each is decoded on its own or all at once, with
every maximal subpart replaced. What stands before a newline does not show in what is read behind
it, nor the reverse. Lines that were written are read back, whichever way each of them ends. -/
theorem lines_read_apart :
    (∀ bytes, fragmentsOfBytes bytes = (linesAt newline bytes).map fragmentOfLine ∧
      fragmentsOfBytes bytes = (linesAt '\n' (Utf8.decodeLossy bytes)).map
        (fun line => String.ofList (dropLineEnd line)) ∧
      ∀ text, Utf8.Replaces bytes text ↔ Utf8.decodeLossy bytes = text) ∧
    (∀ front back, fragmentsOfBytes (front ++ newline :: back) =
      fragmentsOfBytes (front ++ [newline]) ++ fragmentsOfBytes back) ∧
    ∀ lines : List WrittenLine,
      fragmentsOfBytes (lines.flatMap (·.bytes)) = lines.map (·.text) := by
  refine ⟨fun bytes => ⟨fragmentsOfBytes_eq_map bytes, ?_, fun _ => Utf8.replaces_iff⟩,
    fragmentsOfBytes_append, fragmentsOfBytes_written⟩
  rw [fragmentsOfBytes_eq_map, linesAt_decodeLossy, List.map_map]
  rfl

/-- Three bytes of a character that needs four, cut short by a newline, are one broken piece; so is
each of two bytes that begin nothing. -/
theorem garbled_lines_read :
    fragmentsOfBytes [0x52, 0xF0, 0x9F, 0x92, newline, 0xFF, 0xFE, 0x59] =
        ["R\uFFFD", "\uFFFD\uFFFDY"] ∧
      fragmentsOfBytes (Text.bytes "RÖD" ++ [carriageReturn, newline]) = ["RÖD"] := by
  obtain ⟨whole, _, written⟩ := lines_read_apart
  refine ⟨((whole _).2.1).trans (by decide), ?_⟩
  have read := written [⟨"RÖD", .returnAndNewline, by decide, by decide⟩]
  rwa [List.flatMap_singleton] at read

end LootSieve.Feed
