import Mathlib.Algebra.Order.Ring.Int
import TaskForceRadio.Foundation.Utf8

/-!
# Wire protocol constants

The numbers that `Protocol.h` and `Protocol.cs` keep in step by hand, and the little-endian
words both sides put on the wire.
-/

set_option autoImplicit false

namespace TaskForceRadio

def versionMajor : UInt8 := 1

def maxNameLength : Nat := 32
def maxUidLength : Nat := 40
def maxOpusFrameLength : Nat := 500
def maxFreqLength : Nat := 16
def maxSubtypeLength : Nat := 16
def maxVersionLength : Nat := 16

inductive PacketType where
  | connectRequest
  | connectAccept
  | connectReject
  | disconnect
  | ping
  | pong
  | voiceUp
  | voiceDown
  | clientJoined
  | clientLeft
  | rosterRequest
  | radioTxUpdate
  | radioTxBroadcast
  deriving DecidableEq, Repr

/-- The first byte of a packet of this type. -/
def PacketType.code : PacketType → UInt8
  | .connectRequest => 1
  | .connectAccept => 2
  | .connectReject => 3
  | .disconnect => 4
  | .ping => 5
  | .pong => 6
  | .voiceUp => 7
  | .voiceDown => 8
  | .clientJoined => 9
  | .clientLeft => 10
  | .rosterRequest => 11
  | .radioTxUpdate => 12
  | .radioTxBroadcast => 13

/-- The cast from a byte to the enumeration; bytes without a name match no case of a switch. -/
def PacketType.ofCode (b : UInt8) : Option PacketType :=
  [PacketType.connectRequest, .connectAccept, .connectReject, .disconnect, .ping, .pong,
    .voiceUp, .voiceDown, .clientJoined, .clientLeft, .rosterRequest, .radioTxUpdate,
    .radioTxBroadcast].find? (fun t => t.code == b)

@[simp] theorem PacketType.ofCode_code (t : PacketType) : PacketType.ofCode t.code = some t := by
  cases t <;> decide

inductive ConnectRejectReason where
  | badPassword
  | serverFull
  | versionMismatch
  | badRequest
  deriving DecidableEq, Repr

def ConnectRejectReason.code : ConnectRejectReason → UInt8
  | .badPassword => 1
  | .serverFull => 2
  | .versionMismatch => 3
  | .badRequest => 4

/-- Bit 0 of the voice flags. -/
def voiceFlagsLastFrame : UInt8 := 1

def littleEndian16 (v : UInt16) : Bytes :=
  [(v &&& 0xFF).toUInt8, ((v >>> 8) &&& 0xFF).toUInt8]

def littleEndian32 (v : UInt32) : Bytes :=
  [(v &&& 0xFF).toUInt8, ((v >>> 8) &&& 0xFF).toUInt8, ((v >>> 16) &&& 0xFF).toUInt8,
    ((v >>> 24) &&& 0xFF).toUInt8]

def word16 (a b : UInt8) : UInt16 := a.toUInt16 ||| (b.toUInt16 <<< 8)

def word32 (a b c d : UInt8) : UInt32 :=
  a.toUInt32 ||| (b.toUInt32 <<< 8) ||| (c.toUInt32 <<< 16) ||| (d.toUInt32 <<< 24)

private theorem mask16_getElem : ∀ j (hj : j < 16), (255#16)[j] = decide (j < 8) := by decide

private theorem mask32_getElem : ∀ j (hj : j < 32), (255#32)[j] = decide (j < 8) := by decide

theorem word16_bytes (v : UInt16) :
    word16 (v &&& 0xFF).toUInt8 ((v >>> 8) &&& 0xFF).toUInt8 = v := by
  apply UInt16.toBitVec_inj.mp
  simp only [word16, UInt16.toBitVec_or, UInt8.toBitVec_toUInt16, UInt16.toBitVec_shiftLeft,
    UInt16.toBitVec_toUInt8, UInt16.toBitVec_and, UInt16.toBitVec_shiftRight]
  generalize v.toBitVec = x
  ext i hi
  by_cases h : i < 8
  · simp [mask16_getElem, h, BitVec.getLsbD_eq_getElem hi]
  · have hlow : i - 8 < 8 := by omega
    have hsum : 8 + (i - 8) = i := by omega
    simp [mask16_getElem, h, hlow, hsum, BitVec.getLsbD_eq_getElem hi]

theorem word32_bytes (v : UInt32) :
    word32 (v &&& 0xFF).toUInt8 ((v >>> 8) &&& 0xFF).toUInt8 ((v >>> 16) &&& 0xFF).toUInt8
      ((v >>> 24) &&& 0xFF).toUInt8 = v := by
  apply UInt32.toBitVec_inj.mp
  simp only [word32, UInt32.toBitVec_or, UInt8.toBitVec_toUInt32, UInt32.toBitVec_shiftLeft,
    UInt32.toBitVec_toUInt8, UInt32.toBitVec_and, UInt32.toBitVec_shiftRight]
  generalize v.toBitVec = x
  ext i hi
  -- the byte that carries bit `i`
  have hrange : i < 8 ∨ ¬ i < 8 ∧ i < 16 ∨ ¬ i < 16 ∧ i < 24 ∨ ¬ i < 24 := by omega
  rcases hrange with h | ⟨h, h'⟩ | ⟨h, h'⟩ | h
  · have h16 : i < 16 := by omega
    have h24 : i < 24 := by omega
    simp [mask32_getElem, h, h16, h24, BitVec.getLsbD_eq_getElem hi]
  · have h24 : i < 24 := by omega
    have hlow : i - 8 < 8 := by omega
    have hsum : 8 + (i - 8) = i := by omega
    simp [mask32_getElem, h, h', h24, hlow, hsum, BitVec.getLsbD_eq_getElem hi]
  · have h8 : ¬ i < 8 := by omega
    have hlow : i - 16 < 8 := by omega
    have hmid : ¬ i - 8 < 8 := by omega
    have hsum : 16 + (i - 16) = i := by omega
    simp [mask32_getElem, h, h', h8, hlow, hmid, hsum, BitVec.getLsbD_eq_getElem hi]
  · have h8 : ¬ i < 8 := by omega
    have h16 : ¬ i < 16 := by omega
    have hlow : i - 24 < 8 := by omega
    have hmid : ¬ i - 8 < 8 := by omega
    have hmid' : ¬ i - 16 < 8 := by omega
    have hsum : 24 + (i - 24) = i := by omega
    simp [mask32_getElem, h, h8, h16, hlow, hmid, hmid', hsum, BitVec.getLsbD_eq_getElem hi]

@[simp] theorem littleEndian16_length (v : UInt16) : (littleEndian16 v).length = 2 := rfl

@[simp] theorem littleEndian32_length (v : UInt32) : (littleEndian32 v).length = 4 := rfl

/-- A string with its length byte. -/
def string8 (value : Bytes) : Bytes := UInt8.ofNat value.length :: value

@[simp] theorem string8_length (value : Bytes) : (string8 value).length = value.length + 1 := rfl

end TaskForceRadio
