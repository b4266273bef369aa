import TaskForceRadio.Wire.Protocol

/-!
# The client codec

`Voice/Protocol.cpp`: truncation at a code-point boundary, the bounded packet writer and the
packet reader of the extension. A writer that runs out of room and a reader that runs out of
bytes throw.
-/

set_option autoImplicit false

namespace TaskForceRadio.Voice

inductive CodecError where
  | lengthError
  | runtimeError
  deriving DecidableEq, Repr

/-- A UTF-8 continuation byte. -/
def isContinuation (b : UInt8) : Bool := (b &&& 0xC0) == 0x80

/-- The backwards scan from `cut` to the start of the last sequence. -/
def sequenceStart (value : Bytes) : Nat → Nat
  | 0 => 0
  | cut + 1 =>
      if isContinuation (value.getD (cut + 1) 0) then sequenceStart value cut else cut + 1

/-- The truncation loop. Every round erases a byte, so the length is enough fuel. -/
def truncateRounds (maxUtf8Bytes : Nat) : Nat → Bytes → Bytes
  | 0, result => result
  | fuel + 1, result =>
      if maxUtf8Bytes < result.length then
        truncateRounds maxUtf8Bytes fuel (result.take (sequenceStart result (result.length - 1)))
      else result

def truncateUtf8 (value : Bytes) (maxUtf8Bytes : Nat) : Bytes :=
  truncateRounds maxUtf8Bytes value.length value

theorem sequenceStart_le (value : Bytes) (cut : Nat) : sequenceStart value cut ≤ cut := by
  induction cut with
  | zero => exact Nat.le_refl 0
  | succ cut ih =>
    rw [sequenceStart]
    split
    · omega
    · exact Nat.le_refl _

private theorem truncateRounds_length (maxUtf8Bytes fuel : Nat) (result : Bytes)
    (hfuel : result.length ≤ fuel) :
    (truncateRounds maxUtf8Bytes fuel result).length ≤ maxUtf8Bytes := by
  induction fuel generalizing result with
  | zero =>
    have hnil : result = [] := List.length_eq_zero_iff.mp (by omega)
    simp [hnil, truncateRounds]
  | succ fuel ih =>
    rw [truncateRounds]
    split
    · apply ih
      have hcut := sequenceStart_le result (result.length - 1)
      rw [List.length_take]
      omega
    · omega

/-- The loop ends within the limit. -/
theorem truncateUtf8_length (value : Bytes) (maxUtf8Bytes : Nat) :
    (truncateUtf8 value maxUtf8Bytes).length ≤ maxUtf8Bytes :=
  truncateRounds_length _ _ _ (Nat.le_refl _)

/-- A value within the limit is left alone. -/
theorem truncateUtf8_of_length_le {value : Bytes} {maxUtf8Bytes : Nat}
    (h : value.length ≤ maxUtf8Bytes) : truncateUtf8 value maxUtf8Bytes = value := by
  simp only [truncateUtf8]
  cases value.length with
  | zero => rfl
  | succ n => rw [truncateRounds, if_neg (by omega)]

/-- The caller's buffer and the bytes written to it. -/
structure PacketWriter where
  capacity : Nat
  written : Bytes := []
  deriving DecidableEq, Repr

namespace PacketWriter

/-- `ensure`, then append. -/
def put (w : PacketWriter) (bytes : Bytes) : Except CodecError PacketWriter :=
  if w.capacity < w.written.length + bytes.length then .error .lengthError
  else .ok { w with written := w.written ++ bytes }

def writeByte (w : PacketWriter) (value : UInt8) : Except CodecError PacketWriter :=
  w.put [value]

def writeUInt16 (w : PacketWriter) (value : UInt16) : Except CodecError PacketWriter :=
  w.put (littleEndian16 value)

def writeUInt32 (w : PacketWriter) (value : UInt32) : Except CodecError PacketWriter :=
  w.put (littleEndian32 value)

def writeString8 (w : PacketWriter) (value : Bytes) : Except CodecError PacketWriter :=
  if 255 < value.length then .error .lengthError else w.put (string8 value)

def writeBytes (w : PacketWriter) (data : Bytes) : Except CodecError PacketWriter :=
  w.put data

theorem put_ok {w : PacketWriter} {bytes : Bytes}
    (h : w.written.length + bytes.length ≤ w.capacity) :
    w.put bytes = .ok { w with written := w.written ++ bytes } := if_neg (by omega)

theorem writeString8_ok {w : PacketWriter} {value : Bytes} (hv : value.length ≤ 255)
    (h : w.written.length + (value.length + 1) ≤ w.capacity) :
    w.writeString8 value = .ok { w with written := w.written ++ string8 value } := by
  rw [writeString8, if_neg (by omega)]
  exact put_ok (by simpa using h)

end PacketWriter

namespace PacketReader

/-- A reader is the list of bytes that it has not read yet. -/
def readByte : Bytes → Except CodecError (UInt8 × Bytes)
  | b :: rest => .ok (b, rest)
  | [] => .error .runtimeError

def readUInt16 : Bytes → Except CodecError (UInt16 × Bytes)
  | a :: b :: rest => .ok (word16 a b, rest)
  | _ => .error .runtimeError

def readUInt32 : Bytes → Except CodecError (UInt32 × Bytes)
  | a :: b :: c :: d :: rest => .ok (word32 a b c d, rest)
  | _ => .error .runtimeError

def readString8 (maxLength : Nat) (bytes : Bytes) : Except CodecError (Bytes × Bytes) :=
  match readByte bytes with
  | .error e => .error e
  | .ok (len, rest) =>
      if maxLength < len.toNat then .error .runtimeError
      else if rest.length < len.toNat then .error .runtimeError
      else .ok (rest.take len.toNat, rest.drop len.toNat)

@[simp] theorem readByte_cons (b : UInt8) (rest : Bytes) :
    readByte (b :: rest) = .ok (b, rest) := rfl

@[simp] theorem readUInt16_bytes (v : UInt16) (rest : Bytes) :
    readUInt16 (littleEndian16 v ++ rest) = .ok (v, rest) :=
  congrArg (fun word => Except.ok (word, rest)) (word16_bytes v)

@[simp] theorem readUInt32_bytes (v : UInt32) (rest : Bytes) :
    readUInt32 (littleEndian32 v ++ rest) = .ok (v, rest) :=
  congrArg (fun word => Except.ok (word, rest)) (word32_bytes v)

theorem readString8_string8 {value : Bytes} {maxLength : Nat} (rest : Bytes)
    (hv : value.length ≤ maxLength) (hbyte : value.length ≤ 255) :
    readString8 maxLength (string8 value ++ rest) = .ok (value, rest) := by
  have hlen : (UInt8.ofNat value.length).toNat = value.length := by
    simp only [UInt8.toNat_ofNat']
    omega
  simp only [string8, List.cons_append, readString8, readByte_cons, hlen]
  rw [if_neg (by omega), if_neg (by simp), List.take_left, List.drop_left]

/-- A string longer than the limit is refused. -/
theorem readString8_too_long {value : Bytes} {maxLength : Nat} (rest : Bytes)
    (hv : maxLength < value.length) (hbyte : value.length ≤ 255) :
    readString8 maxLength (string8 value ++ rest) = .error .runtimeError := by
  have hlen : (UInt8.ofNat value.length).toNat = value.length := by
    simp only [UInt8.toNat_ofNat']
    omega
  simp only [string8, List.cons_append, readString8, readByte_cons, hlen]
  rw [if_pos hv]

end PacketReader

end TaskForceRadio.Voice
