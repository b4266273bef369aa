import TaskForceRadio.Wire.Protocol

/-!
# The relay codec

`PacketWriter` and `PacketReader` of the relay. Its strings are texts: they are decoded when a
packet is read and encoded again when one is written, straight into the bounded buffer.
-/

set_option autoImplicit false

namespace TaskForceRadio.VoiceServer

inductive DotNetException where
  | indexOutOfRange
  | argumentOutOfRange
  | argument
  | invalidData
  deriving DecidableEq, Repr

/-- The stack buffer of a packet and the bytes written to it. -/
structure PacketWriter where
  capacity : Nat
  written : Bytes := []
  deriving DecidableEq, Repr

namespace PacketWriter

def put (w : PacketWriter) (fault : DotNetException) (bytes : Bytes) :
    Except DotNetException PacketWriter :=
  if w.capacity < w.written.length + bytes.length then .error fault
  else .ok { w with written := w.written ++ bytes }

def writeByte (w : PacketWriter) (value : UInt8) : Except DotNetException PacketWriter :=
  w.put .indexOutOfRange [value]

def writeUInt16 (w : PacketWriter) (value : UInt16) : Except DotNetException PacketWriter :=
  w.put .argumentOutOfRange (littleEndian16 value)

def writeUInt32 (w : PacketWriter) (value : UInt32) : Except DotNetException PacketWriter :=
  w.put .argumentOutOfRange (littleEndian32 value)

/-- The slice behind the length byte must exist, and the encoder must fit the value into it. -/
def writeString8 (w : PacketWriter) (value : Text) : Except DotNetException PacketWriter :=
  if w.capacity < w.written.length + 1 then .error .argumentOutOfRange
  else w.put .argument (string8 (encodeUtf8 value))

def writeBytes (w : PacketWriter) (bytes : Bytes) : Except DotNetException PacketWriter :=
  w.put .argument bytes

theorem put_ok {w : PacketWriter} {fault : DotNetException} {bytes : Bytes}
    (h : w.written.length + bytes.length ≤ w.capacity) :
    w.put fault bytes = .ok { w with written := w.written ++ bytes } := if_neg (by omega)

theorem writeString8_ok {w : PacketWriter} {value : Text}
    (h : w.written.length + ((encodeUtf8 value).length + 1) ≤ w.capacity) :
    w.writeString8 value =
      .ok { w with written := w.written ++ string8 (encodeUtf8 value) } := by
  rw [writeString8, if_neg (by omega)]
  exact put_ok (by simpa using h)

theorem writeString8_overflow {w : PacketWriter} {value : Text}
    (h : w.capacity < w.written.length + ((encodeUtf8 value).length + 1)) :
    ∃ e, w.writeString8 value = .error e := by
  rw [writeString8]
  split
  · exact ⟨_, rfl⟩
  · exact ⟨_, if_pos (by simpa using h)⟩

end PacketWriter

namespace PacketReader

def readByte : Bytes → Except DotNetException (UInt8 × Bytes)
  | b :: rest => .ok (b, rest)
  | [] => .error .indexOutOfRange

def readUInt16 : Bytes → Except DotNetException (UInt16 × Bytes)
  | a :: b :: rest => .ok (word16 a b, rest)
  | _ => .error .argumentOutOfRange

def readUInt32 : Bytes → Except DotNetException (UInt32 × Bytes)
  | a :: b :: c :: d :: rest => .ok (word32 a b c d, rest)
  | _ => .error .argumentOutOfRange

def readBytesFixed (count : Nat) (bytes : Bytes) : Except DotNetException (Bytes × Bytes) :=
  if bytes.length < count then .error .invalidData
  else .ok (bytes.take count, bytes.drop count)

def readString8 (maxLength : Nat) (bytes : Bytes) : Except DotNetException (Text × Bytes) :=
  match readByte bytes with
  | .error e => .error e
  | .ok (byteCount, rest) =>
      if maxLength < byteCount.toNat ∨ rest.length < byteCount.toNat then .error .invalidData
      else .ok (decodeUtf8 (rest.take byteCount.toNat), rest.drop byteCount.toNat)

@[simp] theorem readByte_cons (b : UInt8) (rest : Bytes) :
    readByte (b :: rest) = .ok (b, rest) := rfl

@[simp] theorem readUInt16_bytes (v : UInt16) (rest : Bytes) :
    readUInt16 (littleEndian16 v ++ rest) = .ok (v, rest) :=
  congrArg (fun word => Except.ok (word, rest)) (word16_bytes v)

theorem readString8_string8 {value : Bytes} {maxLength : Nat} (rest : Bytes)
    (hv : value.length ≤ maxLength) (hbyte : value.length ≤ 255) :
    readString8 maxLength (string8 value ++ rest) = .ok (decodeUtf8 value, rest) := by
  have hlen : (UInt8.ofNat value.length).toNat = value.length := by
    simp only [UInt8.toNat_ofNat']
    omega
  simp only [string8, List.cons_append, readString8, readByte_cons, hlen]
  rw [if_neg (by simp; omega), List.take_left, List.drop_left]

end PacketReader

end TaskForceRadio.VoiceServer
