import Interlock.Proofs.Text.Lines
import Interlock.Shell.Script

/-!
# Encoded lines

A text in UTF-8 can be cut at the line feeds before it is decoded, as the byte of a line feed stands
for nothing else and is part of no other character. So the lines of the bytes are the encoded lines
of the text, and each of them can be decoded.

* `feed_notMem_utf8EncodeChar`: the byte of a line feed is part of no other character.
* `Script.encode`: a text in UTF-8. `Script.decode?_encodeChars`: it is read back.
* `Script.rawLines_encode`: the lines of the bytes are those of the text.
-/

namespace Interlock

/-! ## Characters -/

/-- Every byte of another character is either the character itself or has its highest bit set. -/
theorem feed_notMem_utf8EncodeChar {c : Char} (hc : c ≠ '\n') :
    (0x0a : UInt8) ∉ String.utf8EncodeChar c := by
  have hval : c.val.toNat ≠ 10 := by
    intro h
    exact hc (Char.ext (UInt32.toNat_inj.1 h))
  rw [String.utf8EncodeChar]
  generalize c.val.toNat = v at hval
  intro h
  split_ifs at h
  all_goals
    simp only [List.mem_cons, List.not_mem_nil, or_false, ← UInt8.toNat_inj, UInt8.toNat_ofNat',
      UInt8.reduceToNat] at h
    omega

namespace Script

/-! ## Texts -/

/-- Some characters in UTF-8. -/
def encodeChars (s : List Char) : List UInt8 := s.flatMap String.utf8EncodeChar

/-- A text in UTF-8. -/
def encode (text : String) : List UInt8 := text.toUTF8.data.toList

theorem encode_eq (text : String) : encode text = encodeChars text.toList := by
  rw [encode, encodeChars, String.toUTF8_eq_toByteArray, ← String.utf8Encode_toList]
  exact congrArg Array.toList List.data_toByteArray

theorem decode?_encodeChars (s : List Char) : decode? (encodeChars s) = some (String.ofList s) := by
  have hbytes : (⟨(encodeChars s).toArray⟩ : ByteArray) = s.utf8Encode :=
    ByteArray.ext List.data_toByteArray.symm
  rw [decode?, hbytes, String.fromUTF8?, dif_pos ByteArray.isValidUTF8_utf8Encode]
  rfl

theorem rawLines_encode (text : String) : rawLines (encode text) =
    (Text.chunks (· == '\n') text.toList).map fun l => some (String.ofList l) := by
  have hchunks : Text.chunks (· == 0x0a) (encodeChars text.toList) =
      (Text.chunks (· == '\n') text.toList).map encodeChars := by
    refine Text.chunks_flatMap (fun c hc => ?_) (fun c hc => ⟨String.utf8EncodeChar_ne_nil, ?_⟩) _
    · obtain rfl : c = '\n' := by simpa using hc
      exact ⟨0x0a, rfl, rfl⟩
    · rintro b hb h
      obtain rfl : b = 0x0a := by simpa using h
      exact feed_notMem_utf8EncodeChar (by simpa using hc) hb
  rw [rawLines, encode_eq, hchunks, List.map_map]
  exact List.map_congr_left fun l _ => decode?_encodeChars l

end Script

end Interlock
