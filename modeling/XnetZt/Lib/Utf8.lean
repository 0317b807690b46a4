import XnetZt.Lib.Java
import XnetZt.Lib.Text

/-!
# UTF-8 with replacement of malformed input

`new String(bytes)` decodes character by character and puts `U+FFFD` where the bytes are not
the encoding of one. Decoders differ in how many bytes such a character stands for, so that
number is a parameter; there is at least one. On an encoded text all of them give the text.
-/

namespace XnetZt

namespace Utf8

def encodeChar (c : Char) : Bytes := (String.utf8EncodeChar c).map UInt8.toBitVec

def encode (text : Text) : Bytes := text.flatMap encodeChar

/-- The character whose encoding the bytes start with. -/
def decodeChar? (bytes : Bytes) : Option Char :=
  (bytes.map UInt8.ofBitVec).toByteArray.utf8DecodeChar? 0

theorem length_encodeChar_pos (c : Char) : 0 < (encodeChar c).length := by
  rw [encodeChar, List.length_map, String.length_utf8EncodeChar]
  exact c.utf8Size_pos

theorem decodeChar?_append (c : Char) (rest : Bytes) :
    decodeChar? (encodeChar c ++ rest) = some c := by
  have hbytes : (encodeChar c).map UInt8.ofBitVec = String.utf8EncodeChar c := by
    rw [encodeChar, List.map_map]
    exact List.map_id _
  rw [decodeChar?, List.map_append, hbytes, List.toByteArray_append]
  exact ByteArray.utf8DecodeChar?_utf8EncodeChar_append

/-- The bytes without the first character, or without the bytes its replacement stands for:
the first one and `malformed` more. -/
def rest (malformed : Bytes → ℕ) (bytes : Bytes) : Bytes :=
  match decodeChar? bytes with
  | some c => bytes.drop (encodeChar c).length
  | none => bytes.drop (malformed bytes + 1)

theorem length_rest_lt (malformed : Bytes → ℕ) {bytes : Bytes} (h : bytes ≠ []) :
    (rest malformed bytes).length < bytes.length := by
  have hpos := List.length_pos_iff.mpr h
  unfold rest
  split
  · rename_i c _
    have := length_encodeChar_pos c
    rw [List.length_drop]
    omega
  · rw [List.length_drop]
    omega

def decode (malformed : Bytes → ℕ) (bytes : Bytes) : Text :=
  if _h : bytes = [] then []
  else (decodeChar? bytes).getD '�' :: decode malformed (rest malformed bytes)
termination_by bytes.length
decreasing_by exact length_rest_lt malformed _h

variable {malformed : Bytes → ℕ}

theorem decode_eq_nil {bytes : Bytes} : decode malformed bytes = [] ↔ bytes = [] := by
  rw [decode]
  split_ifs with h <;> simp [h]

/-- No decoder changes a text. -/
theorem decode_encode (text : Text) : decode malformed (encode text) = text := by
  induction text with
  | nil =>
    rw [decode]
    rfl
  | cons c text ih =>
    have hsplit : encode (c :: text) = encodeChar c ++ encode text := List.flatMap_cons
    have hne : encodeChar c ++ encode text ≠ [] := by
      have := length_encodeChar_pos c
      exact List.append_ne_nil_of_left_ne_nil (List.length_pos_iff.mp this) _
    have hrest : rest malformed (encodeChar c ++ encode text) = encode text := by
      simp [rest, decodeChar?_append]
    rw [hsplit, decode, dif_neg hne, hrest, ih, decodeChar?_append]
    rfl

/-- The byte of a character of one byte is in the encoding of a text with that character. -/
theorem mem_encode {text : Text} {c : Char} {b : Byte} (hc : encodeChar c = [b]) (h : c ∈ text) :
    b ∈ encode text := by
  refine List.mem_flatMap.mpr ⟨c, h, ?_⟩
  rw [hc]
  exact List.mem_singleton_self b

end Utf8

end XnetZt
