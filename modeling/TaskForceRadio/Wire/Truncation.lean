import Mathlib.Data.List.GetD
import Mathlib.Data.List.Induction
import TaskForceRadio.Wire.ClientCodec

/-!
# Truncation at a code point

What `truncateUtf8` leaves of a string. A round of its loop steps back over the continuation bytes
and drops the last character. The result is a beginning within the limit for any bytes, and the
longest one of whole characters for a well-formed string.
-/

set_option autoImplicit false

namespace TaskForceRadio

/-- The longest beginning of a text whose encoding fits. -/
structure LongestPrefix (maxUtf8Bytes : Nat) (text kept : Text) : Prop where
  isPrefix : kept <+: text
  fits : (encodeUtf8 kept).length ≤ maxUtf8Bytes
  longest : ∀ other, other <+: text → (encodeUtf8 other).length ≤ maxUtf8Bytes → other <+: kept

private theorem longestPrefix_of_fits {maxUtf8Bytes : Nat} {text : Text}
    (h : (encodeUtf8 text).length ≤ maxUtf8Bytes) : LongestPrefix maxUtf8Bytes text text :=
  ⟨List.prefix_rfl, h, fun _ hother _ => hother⟩

private theorem encodeUtf8_append (left right : Text) :
    encodeUtf8 (left ++ right) = encodeUtf8 left ++ encodeUtf8 right :=
  List.flatMap_append

namespace Voice

private theorem forall_byte {P : UInt8 → Prop} (h : ∀ x : Fin 256, P (UInt8.ofNat x.val))
    (b : UInt8) :
    P b := by
  have hb := h ⟨b.toNat, b.toNat_lt⟩
  simpa using hb

private theorem isContinuation_tail (b : UInt8) : isContinuation (b &&& 0x3f ||| 0x80) = true := by
  revert b
  apply forall_byte
  decide +kernel

private theorem isContinuation_lead (b : UInt8) :
    isContinuation (b &&& 0x1f ||| 0xc0) = false ∧ isContinuation (b &&& 0x0f ||| 0xe0) = false ∧
      isContinuation (b &&& 0x07 ||| 0xf0) = false := by
  revert b
  apply forall_byte
  decide +kernel

private theorem isContinuation_single (b : UInt8) (h : b ≤ 0x7f) : isContinuation b = false := by
  revert b
  apply forall_byte
  decide +kernel

private theorem encodeChar_shape (c : Char) :
    ∃ lead tail, String.utf8EncodeChar c = lead :: tail ∧ isContinuation lead = false ∧
      ∀ b ∈ tail, isContinuation b = true := by
  rw [String.utf8EncodeChar_eq_utf8EncodeCharFast]
  simp only [String.utf8EncodeCharFast]
  split
  · rename_i hone
    refine ⟨_, [], rfl, isContinuation_single _ ?_, by simp⟩
    rw [UInt32.le_iff_toNat_le] at hone
    rw [UInt8.le_iff_toNat_le, UInt32.toNat_toUInt8]
    exact (Nat.mod_le _ _).trans hone
  · split
    · exact ⟨_, _, rfl, (isContinuation_lead _).1, by simp [isContinuation_tail]⟩
    · split
      · exact ⟨_, _, rfl, (isContinuation_lead _).2.1, by simp [isContinuation_tail]⟩
      · exact ⟨_, _, rfl, (isContinuation_lead _).2.2, by simp [isContinuation_tail]⟩

private theorem sequenceStart_eq {front tail : Bytes} {lead : UInt8}
    (hlead : isContinuation lead = false)
    (htail : ∀ b ∈ tail, isContinuation b = true) (k : Nat) (hk : k ≤ tail.length) :
    sequenceStart (front ++ lead :: tail) (front.length + k) = front.length := by
  induction k with
  | zero =>
    have hat : (front ++ lead :: tail).getD front.length 0 = lead := by simp
    cases hfront : front.length with
    | zero => rfl
    | succ n =>
      rw [hfront] at hat
      rw [Nat.add_zero, sequenceStart, hat, hlead]
      simp
  | succ k ih =>
    have hat : (front ++ lead :: tail).getD (front.length + k + 1) 0 = tail[k] := by
      rw [Nat.add_assoc, List.getD_append_right _ _ _ _ (Nat.le_add_right _ _),
        Nat.add_sub_cancel_left, List.getD_cons_succ, List.getD_eq_getElem]
    have hcontinues : isContinuation tail[k] = true := htail _ (List.getElem_mem _)
    rw [← Nat.add_assoc, sequenceStart, hat, hcontinues]
    exact ih (by omega)

private theorem take_sequenceStart (text : Text) (c : Char) :
    let value := encodeUtf8 (text ++ [c])
    value.take (sequenceStart value (value.length - 1)) = encodeUtf8 text := by
  intro value
  obtain ⟨lead, tail, hchar, hlead, htail⟩ := encodeChar_shape c
  have hvalue : value = encodeUtf8 text ++ lead :: tail := by
    simp [value, encodeUtf8_append, hchar]
  have hlast : value.length - 1 = (encodeUtf8 text).length + tail.length := by
    rw [hvalue]
    simp
  rw [hlast, hvalue, sequenceStart_eq hlead htail tail.length (Nat.le_refl _)]
  simp

private theorem truncateRounds_encode (maxUtf8Bytes : Nat) (text : Text) (fuel : Nat)
    (hfuel : (encodeUtf8 text).length ≤ fuel) :
    ∃ kept, truncateRounds maxUtf8Bytes fuel (encodeUtf8 text) = encodeUtf8 kept ∧
      LongestPrefix maxUtf8Bytes text kept := by
  induction text using List.reverseRecOn generalizing fuel with
  | nil =>
    refine ⟨[], ?_, longestPrefix_of_fits (by simp)⟩
    cases fuel <;> simp [truncateRounds]
  | append_singleton text c ih =>
    have hpos : 0 < (String.utf8EncodeChar c).length := by
      rw [String.length_utf8EncodeChar]
      exact c.utf8Size_pos
    have hlength : (encodeUtf8 (text ++ [c])).length =
        (encodeUtf8 text).length + (String.utf8EncodeChar c).length := by
      simp [encodeUtf8_append]
    by_cases hfits : (encodeUtf8 (text ++ [c])).length ≤ maxUtf8Bytes
    · refine ⟨text ++ [c], ?_, longestPrefix_of_fits hfits⟩
      cases fuel with
      | zero => rfl
      | succ fuel => rw [truncateRounds, if_neg (by omega)]
    · obtain ⟨rounds, rfl⟩ : ∃ rounds, fuel = rounds + 1 := ⟨fuel - 1, by omega⟩
      obtain ⟨kept, heq, hkept⟩ := ih rounds (by omega)
      refine ⟨kept, ?_, hkept.isPrefix.trans (List.prefix_append _ _), hkept.fits, ?_⟩
      · rw [truncateRounds, if_pos (by omega), take_sequenceStart, heq]
      · intro other hother hroom
        -- the whole text does not fit, so a prefix that does is a prefix of the rest
        rcases List.prefix_concat_iff.mp hother with hwhole | hrest
        · rw [hwhole] at hroom
          exact absurd hroom hfits
        · exact hkept.longest other hrest hroom

/-- A well-formed string is cut to its longest beginning of whole characters. -/
theorem truncateUtf8_encode (text : Text) (maxUtf8Bytes : Nat) :
    ∃ kept, truncateUtf8 (encodeUtf8 text) maxUtf8Bytes = encodeUtf8 kept ∧
      LongestPrefix maxUtf8Bytes text kept :=
  truncateRounds_encode maxUtf8Bytes text _ (Nat.le_refl _)

private theorem truncateUtf8_validUtf8 {value : Bytes} (h : ValidUtf8 value) (maxUtf8Bytes : Nat) :
    ValidUtf8 (truncateUtf8 value maxUtf8Bytes) := by
  obtain ⟨text, rfl⟩ := h
  obtain ⟨kept, heq, _⟩ := truncateUtf8_encode text maxUtf8Bytes
  exact ⟨kept, heq.symm⟩

/-- Truncation and a change of encoding leave exactly the short well-formed strings alone. -/
theorem encode_decode_truncateUtf8 {value : Bytes} {maxUtf8Bytes : Nat} :
    encodeUtf8 (decodeUtf8 (truncateUtf8 value maxUtf8Bytes)) = value ↔
      value.length ≤ maxUtf8Bytes ∧ ValidUtf8 value := by
  constructor
  · intro h
    have hvalid : ValidUtf8 value := ⟨_, h⟩
    obtain ⟨text, rfl⟩ := hvalid
    obtain ⟨kept, heq, hkept⟩ := truncateUtf8_encode text maxUtf8Bytes
    rw [heq, decodeUtf8_encodeUtf8] at h
    refine ⟨?_, text, rfl⟩
    rw [← h]
    exact hkept.fits
  · rintro ⟨hlength, hvalid⟩
    rw [truncateUtf8_of_length_le hlength]
    exact encodeUtf8_decodeUtf8.mpr hvalid

/-- The loop of `truncateUtf8`. -/
def truncateLoop (maxUtf8Bytes : Nat) (result : Bytes) : Bytes :=
  if _h : maxUtf8Bytes < result.length then
    truncateLoop maxUtf8Bytes (result.take (sequenceStart result (result.length - 1)))
  else result
termination_by result.length
decreasing_by
  have hcut := sequenceStart_le result (result.length - 1)
  rw [List.length_take]
  omega

private theorem truncateRounds_eq_truncateLoop (maxUtf8Bytes fuel : Nat) (result : Bytes)
    (hfuel : result.length ≤ fuel) :
    truncateRounds maxUtf8Bytes fuel result = truncateLoop maxUtf8Bytes result := by
  induction fuel generalizing result with
  | zero => rw [truncateRounds, truncateLoop, dif_neg (by omega)]
  | succ fuel ih =>
    rw [truncateRounds, truncateLoop]
    split
    · apply ih
      have hcut := sequenceStart_le result (result.length - 1)
      rw [List.length_take]
      omega
    · rfl

private theorem truncateUtf8_eq_truncateLoop (value : Bytes) (maxUtf8Bytes : Nat) :
    truncateUtf8 value maxUtf8Bytes = truncateLoop maxUtf8Bytes value :=
  truncateRounds_eq_truncateLoop _ _ _ (Nat.le_refl _)

private theorem truncateRounds_prefix (maxUtf8Bytes fuel : Nat) (result : Bytes) :
    truncateRounds maxUtf8Bytes fuel result <+: result := by
  induction fuel generalizing result with
  | zero => exact List.prefix_rfl
  | succ fuel ih =>
    rw [truncateRounds]
    split
    · exact (ih _).trans (List.take_prefix _ _)
    · exact List.prefix_rfl

private theorem truncateLoop_truncateRounds {low high : Nat} (h : low ≤ high) (fuel : Nat)
    (result : Bytes) :
    truncateLoop low (truncateRounds high fuel result) = truncateLoop low result := by
  induction fuel generalizing result with
  | zero => rfl
  | succ fuel ih =>
    rw [truncateRounds]
    split
    · rename_i hlong
      rw [ih]
      conv_rhs => rw [truncateLoop, dif_pos (by omega)]
    · rfl

private theorem truncateUtf8_truncateUtf8 {low high : Nat} (h : low ≤ high) (value : Bytes) :
    truncateUtf8 (truncateUtf8 value high) low = truncateUtf8 value low := by
  rw [truncateUtf8_eq_truncateLoop, truncateUtf8_eq_truncateLoop value low]
  exact truncateLoop_truncateRounds h _ value

/-- A beginning of a string that holds whole code points. -/
def EndsOnCodePoint (value kept : Bytes) : Prop :=
  ∃ front rest, value = encodeUtf8 (front ++ rest) ∧ kept = encodeUtf8 front

private theorem endsOnCodePoint_encode {text : Text} {kept : Bytes} :
    EndsOnCodePoint (encodeUtf8 text) kept ↔ ∃ front, front <+: text ∧ kept = encodeUtf8 front := by
  constructor
  · rintro ⟨front, rest, htext, hkept⟩
    have htext := encodeUtf8_injective htext
    exact ⟨front, ⟨rest, htext.symm⟩, hkept⟩
  · rintro ⟨front, ⟨rest, rfl⟩, hkept⟩
    exact ⟨front, rest, rfl, hkept⟩

private theorem encodeUtf8_prefix {front text : Text} (h : front <+: text) :
    encodeUtf8 front <+: encodeUtf8 text := by
  obtain ⟨rest, rfl⟩ := h
  rw [encodeUtf8_append]
  exact List.prefix_append _ _

private theorem truncateUtf8_longest {value : Bytes} (h : ValidUtf8 value) (maxUtf8Bytes : Nat) :
    EndsOnCodePoint value (truncateUtf8 value maxUtf8Bytes) ∧
      ∀ other, EndsOnCodePoint value other → other.length ≤ maxUtf8Bytes →
        other <+: truncateUtf8 value maxUtf8Bytes := by
  obtain ⟨text, rfl⟩ := h
  obtain ⟨kept, heq, hkept⟩ := truncateUtf8_encode text maxUtf8Bytes
  rw [heq]
  refine ⟨endsOnCodePoint_encode.mpr ⟨kept, hkept.isPrefix, rfl⟩, ?_⟩
  intro other hother hfits
  obtain ⟨front, hfront, rfl⟩ := endsOnCodePoint_encode.mp hother
  exact encodeUtf8_prefix (hkept.longest front hfront hfits)

/-- What every sender and both ends of a key comparison rely on. -/
theorem truncation_laws (value : Bytes) (maxUtf8Bytes : Nat) :
    truncateUtf8 value maxUtf8Bytes = truncateLoop maxUtf8Bytes value ∧
    truncateUtf8 value maxUtf8Bytes <+: value ∧
    (truncateUtf8 value maxUtf8Bytes).length ≤ maxUtf8Bytes ∧
    (ValidUtf8 value →
      ValidUtf8 (truncateUtf8 value maxUtf8Bytes) ∧
      EndsOnCodePoint value (truncateUtf8 value maxUtf8Bytes) ∧
      ∀ other, EndsOnCodePoint value other → other.length ≤ maxUtf8Bytes →
        other <+: truncateUtf8 value maxUtf8Bytes) ∧
    truncateUtf8 (truncateUtf8 value maxUtf8Bytes) maxUtf8Bytes =
      truncateUtf8 value maxUtf8Bytes ∧
    ∀ low ≤ maxUtf8Bytes, truncateUtf8 value low <+: truncateUtf8 value maxUtf8Bytes := by
  refine ⟨truncateUtf8_eq_truncateLoop _ _, truncateRounds_prefix _ _ _,
    truncateUtf8_length _ _, ?_, truncateUtf8_truncateUtf8 (Nat.le_refl _) value, ?_⟩
  · intro hvalid
    exact ⟨truncateUtf8_validUtf8 hvalid _, truncateUtf8_longest hvalid _⟩
  · intro low hlow
    rw [← truncateUtf8_truncateUtf8 hlow]
    exact truncateRounds_prefix _ _ _

/-- Two characters of two and three bytes: five bytes leave room for the first only. -/
example : truncateUtf8 (ascii "é€") 4 = ascii "é" := by decide

end Voice

end TaskForceRadio
