import Culprit.Host.Json.Document
import Culprit.Proofs.Text.Utf8
import Mathlib.Data.List.Basic

/-!
# Strings that are written and read again

A text is written as a string with a backslash in front of quotes and backslashes, and with control
characters as four digits. What is written so is read back, whatever follows it, so every text can
stand in a document.
-/

namespace Culprit.Json

/-! ### Writing -/

def hexDigit (value : Nat) : Char :=
  if value < 10 then Char.ofNat ('0'.toNat + value) else Char.ofNat ('a'.toNat + value - 10)

/-- A character as it is written in a string. -/
def escape (c : Char) : Text :=
  if c = '"' ∨ c = '\\' then ['\\', c]
  else if c.toNat < 0x20 then
    ['\\', 'u', '0', '0', hexDigit (c.toNat / 16), hexDigit (c.toNat % 16)]
  else [c]

def quote (text : Text) : Text := '"' :: (text.flatMap escape ++ ['"'])

theorem quote_append (text rest : Text) :
    quote text ++ rest = '"' :: (text.flatMap escape ++ '"' :: rest) := by
  simp [quote]

theorem length_le_flatMap_escape (text : Text) : text.length ≤ (text.flatMap escape).length := by
  induction text with
  | nil => simp
  | cons c rest ih =>
    have hone : 1 ≤ (escape c).length := by
      unfold escape
      split
      · simp
      · split <;> simp
    rw [List.flatMap_cons, List.length_append, List.length_cons]
    omega

/-! ### Reading -/

theorem hexDigit?_hexDigit {value : Nat} (h : value < 16) :
    hexDigit? (hexDigit value) = some value := by
  have hall : ∀ value < 16, hexDigit? (hexDigit value) = some value := by decide
  exact hall value h

/-- A control character is read from its four digits. -/
theorem readUnicodeEscape_hexDigit {code : Nat} (h : code < 0x20) (offset : Nat) {rest : Text}
    (hrest : rest ≠ []) :
    readUnicodeEscape
        ⟨offset, '0' :: '0' :: hexDigit (code / 16) :: hexDigit (code % 16) :: rest⟩ =
      .ok (code, ⟨offset + 4, rest⟩) := by
  have hpositive : 0 < rest.length := List.length_pos_iff.mpr hrest
  have hunit : hexUnit? ['0', '0', hexDigit (code / 16), hexDigit (code % 16)] = some code := by
    have hzero : hexDigit? '0' = some 0 := by decide
    have hhigh : hexDigit? (hexDigit (code / 16)) = some (code / 16) :=
      hexDigit?_hexDigit (by omega)
    have hlow : hexDigit? (hexDigit (code % 16)) = some (code % 16) :=
      hexDigit?_hexDigit (by omega)
    have hcode : code / 16 * 16 + code % 16 = code := by omega
    simp [hexUnit?, hzero, hhigh, hlow, hcode]
  have hsingle : isHighSurrogate code = false := by
    simp only [isHighSurrogate, Bool.and_eq_false_iff, decide_eq_false_iff_not]
    omega
  have hlength :
      ¬('0' :: '0' :: hexDigit (code / 16) :: hexDigit (code % 16) :: rest).length < 5 := by
    simp only [List.length_cons]
    omega
  rw [readUnicodeEscape, if_neg hlength]
  simp only [List.take_succ_cons, List.take_zero, hunit, hsingle]
  rfl

theorem readStringCodes_escape (opened fuel offset : Nat) (codes : List Nat) (c : Char)
    {rest : Text} (hrest : rest ≠ []) :
    readStringCodes opened (fuel + 1) codes ⟨offset, escape c ++ rest⟩ =
      readStringCodes opened fuel (c.toNat :: codes) ⟨offset + (escape c).length, rest⟩ := by
  by_cases hmark : c = '"' ∨ c = '\\'
  · have hescape : escape c = ['\\', c] := if_pos hmark
    rw [hescape]
    rcases hmark with rfl | rfl <;> rfl
  · by_cases hcontrol : c.toNat < 0x20
    · have hescape : escape c =
          ['\\', 'u', '0', '0', hexDigit (c.toNat / 16), hexDigit (c.toNat % 16)] := by
        rw [escape, if_neg hmark, if_pos hcontrol]
      have hread := readUnicodeEscape_hexDigit hcontrol (offset + 2) hrest
      rw [hescape]
      change (readUnicodeEscape ⟨offset + 2, '0' :: '0' :: _ :: _ :: rest⟩ >>= fun found =>
        readStringCodes opened fuel (found.1 :: codes) found.2) = _
      rw [hread]
      rfl
    · have hescape : escape c = [c] := by
        rw [escape, if_neg hmark, if_neg hcontrol]
      rw [not_or] at hmark
      rw [hescape, List.singleton_append, readStringCodes]
      simp [hmark.1, hmark.2, hcontrol, Cursor.advance]

/-- By induction on the text: one step of the reader takes one character of it. -/
theorem readStringCodes_flatMap_escape (opened fuel offset : Nat) (codes : List Nat) {text : Text}
    (hfuel : text.length < fuel) (rest : Text) :
    readStringCodes opened fuel codes ⟨offset, text.flatMap escape ++ '"' :: rest⟩ =
      .ok (codes.reverse ++ text.map Char.toNat,
        ⟨offset + (text.flatMap escape).length + 1, rest⟩) := by
  induction text generalizing fuel offset codes with
  | nil =>
    cases fuel with
    | zero => cases hfuel
    | succ fuel => simp [readStringCodes, Cursor.advance]
  | cons c text ih =>
    cases fuel with
    | zero => cases hfuel
    | succ fuel =>
      have hshorter : text.length < fuel := Nat.lt_of_succ_lt_succ hfuel
      rw [List.flatMap_cons, List.append_assoc, readStringCodes_escape _ _ _ _ _ (by simp),
        ih fuel _ _ hshorter]
      simp [Nat.add_assoc]

theorem textOfCodes?_map_toNat (text : Text) : textOfCodes? (text.map Char.toNat) = some text := by
  have hvalid : ∀ c : Char, (0xD800 ≤ c.toNat && c.toNat < 0xE000) = false := by
    intro c
    have hrange := c.valid
    simp only [Bool.and_eq_false_iff, decide_eq_false_iff_not]
    simp only [UInt32.isValidChar, Nat.isValidChar] at hrange
    change c.val.toNat < 0xD800 ∨ 0xDFFF < c.val.toNat ∧ c.val.toNat < 0x110000 at hrange
    change ¬0xD800 ≤ c.val.toNat ∨ ¬c.val.toNat < 0xE000
    omega
  rw [textOfCodes?, if_neg (by simp [hvalid]), List.map_map]
  simp [Function.comp_def]

/-- **A text that is written as a string is read back.** -/
theorem readString_quote (offset : Nat) (text rest : Text) :
    readString ⟨offset, quote text ++ rest⟩ =
      .ok (some text, ⟨offset + (quote text).length, rest⟩) := by
  have hfuel : text.length < (quote text ++ rest).length := by
    have hlength := length_le_flatMap_escape text
    simp only [quote_append, List.length_cons, List.length_append]
    omega
  have hcodes : readStringCodes offset (quote text ++ rest).length []
      ⟨offset + 1, text.flatMap escape ++ '"' :: rest⟩ = _ :=
    readStringCodes_flatMap_escape offset _ (offset + 1) [] hfuel rest
  have hstart : (Cursor.mk offset (quote text ++ rest)).advance 1 =
      ⟨offset + 1, text.flatMap escape ++ '"' :: rest⟩ := by
    rw [quote_append]
    rfl
  rw [readString, hstart, hcodes]
  change Except.ok (textOfCodes? ([].reverse ++ text.map Char.toNat), Cursor.mk _ rest) = _
  rw [List.reverse_nil, List.nil_append, textOfCodes?_map_toNat]
  have hend : offset + 1 + (text.flatMap escape).length + 1 = offset + (quote text).length := by
    simp only [quote, List.length_cons, List.length_append, List.length_nil]
    omega
  rw [hend]

/-! ### Documents -/

theorem readValue_quote (room fuel offset : Nat) (text rest : Text) :
    readValue room (fuel + 1) ⟨offset, quote text ++ rest⟩ =
      .ok (.string text, ⟨offset + (quote text).length, rest⟩) := by
  have hread := readString_quote offset text rest
  rw [quote_append] at hread ⊢
  cases room <;>
  · simp only [readValue, hread]
    rfl

/-- A place at which nothing is to be skipped. -/
theorem Cursor.skipBlank_cons {c : Char} (hshown : c ∉ [' ', '\t', '\n', '\r']) (offset : Nat)
    (rest : Text) : skipBlank ⟨offset, c :: rest⟩ = ⟨offset, c :: rest⟩ := by
  simp only [List.mem_cons, List.not_mem_nil, or_false, not_or] at hshown
  simp [skipBlank, advance, hshown]

theorem Cursor.skipBlank_quote (offset : Nat) (text rest : Text) :
    skipBlank ⟨offset, quote text ++ rest⟩ = ⟨offset, quote text ++ rest⟩ := by
  rw [quote_append, skipBlank_cons (by decide)]

theorem readFields_quote (room fuel offset : Nat) (name text rest : Text) :
    readFields room (fuel + 2) ⟨offset, quote name ++ ':' :: (quote text ++ '}' :: rest)⟩ =
      .ok ([(name, .string text)],
        ⟨offset + (quote name).length + 1 + (quote text).length + 1, rest⟩) := by
  have hname := readString_quote offset name (':' :: (quote text ++ '}' :: rest))
  have hcolon := Cursor.skipBlank_cons (c := ':') (by decide) (offset + (quote name).length)
    (quote text ++ '}' :: rest)
  have hbehind : (Cursor.mk (offset + (quote name).length)
      (':' :: (quote text ++ '}' :: rest))).advance 1 =
        ⟨offset + (quote name).length + 1, quote text ++ '}' :: rest⟩ := rfl
  have hstart := Cursor.skipBlank_quote (offset + (quote name).length + 1) text ('}' :: rest)
  have hvalue := readValue_quote room fuel (offset + (quote name).length + 1) text ('}' :: rest)
  have hbrace := Cursor.skipBlank_cons (c := '}') (by decide)
    (offset + (quote name).length + 1 + (quote text).length) rest
  rw [quote_append] at hname ⊢
  simp only [readFields, hname, bind, Except.bind, hcolon, hbehind, hstart, hvalue, hbrace]
  rfl

/-- An object with one text in it, as it is written. -/
def writeField (name text : Text) : Text := '{' :: (quote name ++ ':' :: (quote text ++ ['}']))

theorem readWithin_writeField (room : Nat) (name text : Text) :
    readWithin (room + 1) (writeField name text) = .ok (.object [(name, .string text)]) := by
  have hstart : Cursor.skipBlank ⟨0, writeField name text⟩ = ⟨0, writeField name text⟩ :=
    Cursor.skipBlank_cons (by decide) 0 _
  have hinside : (Cursor.mk 0 (writeField name text)).advance 1 =
      ⟨1, quote name ++ ':' :: (quote text ++ ['}'])⟩ := rfl
  have hfirst := Cursor.skipBlank_quote 1 name (':' :: (quote text ++ ['}']))
  obtain ⟨fuel, hfuel⟩ : ∃ fuel, 2 * (writeField name text).length + 2 = fuel + 3 := by
    refine ⟨2 * (writeField name text).tail.length + 1, ?_⟩
    rw [writeField, List.length_cons, List.tail_cons]
    omega
  have hfields := readFields_quote room fuel 1 name text []
  have hobject : readValue (room + 1) (fuel + 3) ⟨0, writeField name text⟩ =
      .ok (.object [(name, .string text)],
        ⟨1 + (quote name).length + 1 + (quote text).length + 1, []⟩) := by
    simp only [writeField] at hinside ⊢
    simp only [readValue, hinside, hfirst, hfields]
    rw [quote_append]
    rfl
  rw [readWithin, hstart, hfuel, hobject]
  rfl

/-- The bytes begin with characters of ASCII other than zero, if with anything. -/
def StartsPlain (bytes : Bytes) : Prop := ∀ byte ∈ bytes.take 2, byte ≠ 0 ∧ byte < 0x80

/-- Bytes that start plainly have no mark in front. -/
theorem ofMark?_of_startsPlain {bytes : Bytes} (h : StartsPlain bytes) :
    Encoding.ofMark? bytes = none := by
  rcases bytes with _ | ⟨first, rest⟩
  · rfl
  · obtain ⟨hzero, hplain⟩ := h first (by simp)
    unfold Encoding.ofMark?
    split <;> simp_all

/-- Nor are they wide units. -/
theorem ofStart_of_startsPlain {bytes : Bytes} (h : StartsPlain bytes) :
    Encoding.ofStart bytes = .bytes := by
  rcases bytes with _ | ⟨first, _ | ⟨second, _ | ⟨third, _ | ⟨fourth, rest⟩⟩⟩⟩ <;>
    simp_all [StartsPlain, Encoding.ofStart]

theorem decode_encode {text : Text} (h : StartsPlain (Utf8.encode text)) :
    Encoding.decode (Utf8.encode text) = .ok text := by
  rw [Encoding.decode, ofMark?_of_startsPlain h, ofStart_of_startsPlain h]
  simp only [Option.getD_none, List.drop_zero, Encoding.decodeBytes, Utf8.decode_encode]
  rfl

theorem decode_encode_writeField (name text : Text) :
    Encoding.decode (Utf8.encode (writeField name text)) = .ok (writeField name text) := by
  have hstart : (Utf8.encode (writeField name text)).take 2 = [0x7B, 0x22] := by
    rw [writeField, quote_append]
    rfl
  exact decode_encode (by simp [StartsPlain, hstart])

/-- **An object with one text in it is read back** from its bytes, whatever the text. -/
theorem readDocument_encode_writeField (room : Nat) (name text : Text) :
    readDocument (room + 1) (Utf8.encode (writeField name text)) =
      .ok (.object [(name, .string text)]) := by
  rw [readDocument, decode_encode_writeField]
  simp only [readWithin_writeField]
  rfl

end Culprit.Json
