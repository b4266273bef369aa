import Mathlib.Data.List.Basic

/-!
# UTF-8 text

Byte strings, the encoding of a text, and the decoder that replaces every malformed
subsequence by U+FFFD. Decoding is the left inverse of encoding, so a byte string survives
decoding and re-encoding exactly when it is well formed.
-/

set_option autoImplicit false

namespace TaskForceRadio

/-- A string as its bytes. -/
abbrev Bytes := List UInt8

/-- A text as its Unicode scalar values. -/
abbrev Text := List Char

/-- The UTF-8 bytes of a text. -/
def encodeUtf8 (text : Text) : Bytes := text.flatMap String.utf8EncodeChar

/-- The bytes of a literal. -/
def ascii (literal : String) : Bytes := encodeUtf8 literal.toList

/-- A byte string that is the encoding of some text. -/
def ValidUtf8 (bytes : Bytes) : Prop := ∃ text, encodeUtf8 text = bytes

/-- The character a byte string starts with, when it starts with a well-formed sequence. -/
def leadingChar (bytes : Bytes) : Option Char := bytes.toByteArray.utf8DecodeChar? 0

/-- U+FFFD, the replacement character. -/
def replacementChar : Char := Char.ofNat 0xFFFD

private def inRange (low high b : UInt8) : Bool := low ≤ b && b ≤ high

/-- How many bytes of a malformed start are replaced together: the longest beginning of a
well-formed sequence that they form, and at least one. -/
def malformedLength : Bytes → Nat
  | lead :: second :: rest =>
      let secondFits :=
        (lead == 0xE0 && inRange 0xA0 0xBF second) || (lead == 0xED && inRange 0x80 0x9F second) ||
        ((inRange 0xE1 0xEC lead || inRange 0xEE 0xEF lead) && inRange 0x80 0xBF second)
      let secondFitsFour :=
        (lead == 0xF0 && inRange 0x90 0xBF second) || (lead == 0xF4 && inRange 0x80 0x8F second) ||
        (inRange 0xF1 0xF3 lead && inRange 0x80 0xBF second)
      if secondFits then 2
      else if secondFitsFour then
        match rest with
        | third :: _ => if inRange 0x80 0xBF third then 3 else 2
        | [] => 2
      else 1
  | _ => 1

/-- Decode with at most `fuel` characters. Every round consumes a byte, so the length of the
input is enough fuel. -/
def decodeRounds : Nat → Bytes → Text
  | 0, _ => []
  | _, [] => []
  | fuel + 1, bytes =>
      match leadingChar bytes with
      | some c => c :: decodeRounds fuel (bytes.drop c.utf8Size)
      | none => replacementChar :: decodeRounds fuel (bytes.drop (malformedLength bytes))

/-- Decode a byte string, replacing malformed subsequences. -/
def decodeUtf8 (bytes : Bytes) : Text := decodeRounds bytes.length bytes

@[simp] theorem encodeUtf8_nil : encodeUtf8 [] = [] := rfl

@[simp] theorem encodeUtf8_cons (c : Char) (text : Text) :
    encodeUtf8 (c :: text) = String.utf8EncodeChar c ++ encodeUtf8 text := rfl

theorem leadingChar_encode (c : Char) (rest : Bytes) :
    leadingChar (String.utf8EncodeChar c ++ rest) = some c := by
  rw [leadingChar, List.toByteArray_append]
  exact ByteArray.utf8DecodeChar?_utf8EncodeChar_append

theorem encodeUtf8_eq_nil {text : Text} : encodeUtf8 text = [] ↔ text = [] := by
  cases text <;> simp

theorem decodeRounds_encode (text : Text) (fuel : Nat) (hfuel : text.length ≤ fuel) :
    decodeRounds fuel (encodeUtf8 text) = text := by
  induction text generalizing fuel with
  | nil => cases fuel <;> rfl
  | cons c text ih =>
    obtain ⟨n, rfl⟩ : ∃ n, fuel = n + 1 := ⟨fuel - 1, by simp at hfuel; omega⟩
    have hn : text.length ≤ n := by simpa using hfuel
    have hlead : leadingChar (encodeUtf8 (c :: text)) = some c := leadingChar_encode c _
    have hdrop : (encodeUtf8 (c :: text)).drop c.utf8Size = encodeUtf8 text := by
      rw [encodeUtf8_cons, ← String.length_utf8EncodeChar, List.drop_left]
    cases hb : encodeUtf8 (c :: text) with
    | nil => simp [encodeUtf8_eq_nil] at hb
    | cons b bs =>
      rw [decodeRounds, ← hb]
      · simp only [hlead, hdrop, ih n hn]
      · simp

theorem length_le_encodeUtf8 (text : Text) : text.length ≤ (encodeUtf8 text).length := by
  induction text with
  | nil => simp
  | cons c text ih =>
    have hpos := Char.utf8Size_pos c
    simp only [encodeUtf8_cons, List.length_append, List.length_cons,
      String.length_utf8EncodeChar]
    omega

/-- Decoding is lossless on well-formed input. -/
@[simp] theorem decodeUtf8_encodeUtf8 (text : Text) : decodeUtf8 (encodeUtf8 text) = text :=
  decodeRounds_encode text _ (length_le_encodeUtf8 text)

theorem encodeUtf8_injective {left right : Text} (h : encodeUtf8 left = encodeUtf8 right) :
    left = right := by
  rw [← decodeUtf8_encodeUtf8 left, h, decodeUtf8_encodeUtf8]

/-- A byte string survives decoding and re-encoding exactly when it is well formed. -/
theorem encodeUtf8_decodeUtf8 {bytes : Bytes} :
    encodeUtf8 (decodeUtf8 bytes) = bytes ↔ ValidUtf8 bytes := by
  constructor
  · intro h
    exact ⟨_, h⟩
  · rintro ⟨text, rfl⟩
    rw [decodeUtf8_encodeUtf8]

/-- Malformed bytes become replacement characters: two stray bytes, then a cut-off sequence. -/
example : decodeUtf8 [0x41, 0xFF, 0x80, 0xE2, 0x82, 0x42] =
    ['A', replacementChar, replacementChar, replacementChar, 'B'] := by decide

end TaskForceRadio
