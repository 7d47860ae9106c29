import Culprit.Text.Lines
import Culprit.Text.Utf8
import Mathlib.Data.List.Basic

/-!
# Texts that are written and read again

The UTF-8 form of a character is read as that character, whatever follows it, so a text that is
written as bytes is read back. A text without carriage returns keeps its line ends.
-/

namespace Culprit

namespace Utf8

theorem toNat_byte {value : Nat} (h : value < 256) : (byte value).toNat = value :=
  UInt8.toNat_ofNat_of_lt h

/-- One more byte of a character gives six more bits. -/
theorem readFollowing_byte {bits taken low high left six : Nat} (hlow : low ≤ 0x80 + six)
    (hhigh : 0x80 + six ≤ high) (hsix : six < 64) (rest : Bytes) :
    readFollowing bits taken low high (left + 1) (byte (0x80 + six) :: rest) =
      readFollowing (bits * 64 + six) (taken + 1) 0x80 0xBF left rest := by
  have hvalue : (byte (0x80 + six)).toNat = 0x80 + six := toNat_byte (by omega)
  rw [readFollowing, hvalue, if_pos ⟨hlow, hhigh⟩, Nat.add_sub_cancel_left]

theorem readPiece_byte {value following bits low high : Nat} (hfirst : 0x80 ≤ value)
    (hbyte : value < 256) (hlead : lead? value = some ⟨following, bits, low, high⟩)
    (rest : Bytes) :
    readPiece (byte value) rest = readFollowing bits 1 low high following rest := by
  rw [readPiece, toNat_byte hbyte, if_neg (by omega), hlead]

/-- The first byte of a character of three bytes, with a range that the second byte lies in. -/
theorem exists_lead_three (code : Nat) (hlow : 0x800 ≤ code) (hhigh : code < 0x10000)
    (hvalid : code < 0xD800 ∨ 0xDFFF < code) :
    ∃ low high, lead? (0xE0 + code / 4096) = some ⟨2, code / 4096, low, high⟩ ∧
      low ≤ 0x80 + code / 64 % 64 ∧ 0x80 + code / 64 % 64 ≤ high := by
  unfold lead?
  rw [if_neg (by omega)]
  by_cases hzero : code / 4096 = 0
  · exact ⟨0xA0, 0xBF, by simp [hzero], by omega, by omega⟩
  · rw [if_neg (by omega)]
    by_cases hsurrogate : code / 4096 = 0xD
    · exact ⟨0x80, 0x9F, by simp [hsurrogate], by omega, by omega⟩
    · rw [if_neg (by omega), if_pos (by omega), Nat.add_sub_cancel_left]
      exact ⟨0x80, 0xBF, rfl, by omega, by omega⟩

theorem exists_lead_four (code : Nat) (hlow : 0x10000 ≤ code) (hhigh : code < 0x110000) :
    ∃ low high, lead? (0xF0 + code / 262144) = some ⟨3, code / 262144, low, high⟩ ∧
      low ≤ 0x80 + code / 4096 % 64 ∧ 0x80 + code / 4096 % 64 ≤ high := by
  unfold lead?
  rw [if_neg (by omega), if_neg (by omega), if_neg (by omega), if_neg (by omega)]
  by_cases hzero : code / 262144 = 0
  · exact ⟨0x90, 0xBF, by simp [hzero], by omega, by omega⟩
  · rw [if_neg (by omega)]
    by_cases hlast : code / 262144 = 4
    · exact ⟨0x80, 0x8F, by simp [hlast], by omega, by omega⟩
    · rw [if_neg (by omega), if_pos (by omega), Nat.add_sub_cancel_left]
      exact ⟨0x80, 0xBF, rfl, by omega, by omega⟩

/-- What is read of the form of a character is that character. -/
theorem exists_readPiece_encodeChar (c : Char) :
    ∃ first more, encodeChar c = first :: more ∧
      ∀ rest, readPiece first (more ++ rest) = .char c (more.length + 1) := by
  have hvalid : c.toNat < 0xD800 ∨ 0xDFFF < c.toNat ∧ c.toNat < 0x110000 := c.valid
  have hchar : Char.ofNat c.toNat = c := Char.ofNat_toNat c
  unfold encodeChar
  generalize c.toNat = code at hvalid hchar
  by_cases hone : code < 0x80
  · refine ⟨_, _, if_pos hone, fun rest => ?_⟩
    rw [readPiece, toNat_byte (by omega), if_pos hone, hchar]
    rfl
  · by_cases htwo : code < 0x800
    · refine ⟨_, _, by rw [if_neg hone, if_pos htwo], fun rest => ?_⟩
      have hlead : lead? (0xC0 + code / 64) = some ⟨1, code / 64, 0x80, 0xBF⟩ := by
        rw [lead?, if_pos (by omega), Nat.add_sub_cancel_left]
      have hbits : code / 64 * 64 + code % 64 = code := by omega
      rw [readPiece_byte (by omega) (by omega) hlead, List.cons_append,
        readFollowing_byte (by omega) (by omega) (by omega), readFollowing, hbits, hchar]
      rfl
    · by_cases hthree : code < 0x10000
      · refine ⟨_, _, by rw [if_neg hone, if_neg htwo, if_pos hthree], fun rest => ?_⟩
        obtain ⟨low, high, hlead, hlow, hhigh⟩ :=
          exists_lead_three code (by omega) hthree (by omega)
        have hbits : (code / 4096 * 64 + code / 64 % 64) * 64 + code % 64 = code := by omega
        rw [readPiece_byte (by omega) (by omega) hlead, List.cons_append,
          readFollowing_byte hlow hhigh (by omega), List.cons_append,
          readFollowing_byte (by omega) (by omega) (by omega), readFollowing, hbits, hchar]
        rfl
      · refine ⟨_, _, by rw [if_neg hone, if_neg htwo, if_neg hthree], fun rest => ?_⟩
        obtain ⟨low, high, hlead, hlow, hhigh⟩ := exists_lead_four code (by omega) (by omega)
        have hbits : ((code / 262144 * 64 + code / 4096 % 64) * 64 + code / 64 % 64) * 64
            + code % 64 = code := by omega
        rw [readPiece_byte (by omega) (by omega) hlead, List.cons_append,
          readFollowing_byte hlow hhigh (by omega), List.cons_append,
          readFollowing_byte (by omega) (by omega) (by omega), List.cons_append,
          readFollowing_byte (by omega) (by omega) (by omega), readFollowing, hbits, hchar]
        rfl

theorem decodeFrom_encode (offset : Nat) (text : Text) :
    decodeFrom offset (encode text) = .ok text := by
  induction text generalizing offset with
  | nil =>
    rw [encode, List.flatMap_nil, decodeFrom]
  | cons c rest ih =>
    obtain ⟨first, more, hform, hread⟩ := exists_readPiece_encodeChar c
    have hencode : encode (c :: rest) = first :: (more ++ encode rest) := by
      rw [encode, List.flatMap_cons, hform, List.cons_append]
      rfl
    rw [hencode, decodeFrom, hread]
    simp only [Piece.length, Nat.add_sub_cancel, List.drop_left, ih]
    rfl

/-- **A text that is written as bytes is read back.** -/
@[simp] theorem decode_encode (text : Text) : decode (encode text) = .ok text :=
  decodeFrom_encode 0 text

end Utf8

end Culprit
