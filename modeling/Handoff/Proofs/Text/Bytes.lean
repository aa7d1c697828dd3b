import Handoff.Proofs.Text.Lines
import Handoff.Text.Encoding

/-! # Lines of bytes

No character but the newline has the byte of a newline in it. So the bytes of a text are split at
that byte where the text is split at newlines, and the bytes of some characters are read back as
these characters.
-/

namespace Handoff.Text

variable {text : List Char} {c : Char}

def newlineByte : UInt8 := 10

theorem newlineByte_mem_iff : newlineByte ∈ String.utf8EncodeChar c ↔ c = '\n' := by
  constructor
  · intro h
    -- every byte of a longer character is at least 128
    have code : c.val.toNat = 10 := by
      revert h
      fun_cases String.utf8EncodeChar c <;>
        simp only [newlineByte, List.mem_cons, List.not_mem_nil, or_false, ← UInt8.toNat_inj,
          UInt8.toNat_ofNat', UInt8.reduceToNat] <;> omega
    exact Char.toNat_inj.mp code
  · rintro rfl
    decide

theorem bytesOf_append (x y : List Char) : bytesOf (x ++ y) = bytesOf x ++ bytesOf y :=
  List.flatMap_append

theorem newlineByte_mem_bytesOf_iff : newlineByte ∈ bytesOf text ↔ '\n' ∈ text := by
  simp only [bytesOf, List.mem_flatMap, newlineByte_mem_iff, exists_eq_right]

theorem splitOn_bytesOf (text : List Char) :
    (bytesOf text).splitOn newlineByte = (lines text).map bytesOf := by
  have joined (parts : List (List Char)) :
      bytesOf (joinWith ['\n'] parts) = [newlineByte].intercalate (parts.map bytesOf) := by
    induction parts with
    | nil => rfl
    | cons part parts ih =>
      cases parts with
      | nil => simp [joinWith]
      | cons next parts =>
        rw [joinWith, List.intercalate_cons_cons, bytesOf_append, bytesOf_append, ← joinWith, ih,
          List.map_cons, List.map_cons, List.map_cons, List.intercalate_cons_cons]
        rfl
  have free : ∀ line ∈ (lines text).map bytesOf, newlineByte ∉ line := by
    intro encoded hm
    obtain ⟨line, listed, rfl⟩ := List.mem_map.mp hm
    rw [newlineByte_mem_bytesOf_iff]
    exact not_mem_of_mem_pieces listed
  calc (bytesOf text).splitOn newlineByte
      = ([newlineByte].intercalate ((lines text).map bytesOf)).splitOn newlineByte := by
        rw [← joined, lines, joinWith_pieces]
    _ = (lines text).map bytesOf :=
      List.splitOn_intercalate newlineByte free
        (mt List.map_eq_nil_iff.mp (pieces_ne_nil '\n' text))

theorem utf8Decode?_bytesOf (text : List Char) :
    (bytesOf text).toByteArray.utf8Decode? = some text.toArray :=
  List.utf8Decode?_utf8Encode

end Handoff.Text
