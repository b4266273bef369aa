import TaskForceRadio.Client.VoiceNetworkClient
import TaskForceRadio.Relay.Server

/-!
# Relaying a transmission

`HandleRadioTxUpdate` decodes the strings of a RadioTxUpdate and encodes them again into the
buffer of the RadioTxBroadcast. A string that is not well formed can grow on the way, so the
limits are met again at the buffer and at the receiving client.
-/

set_option autoImplicit false

namespace TaskForceRadio.VoiceServer

/-- A string after the relay has decoded and encoded it. -/
def recoded (value : Bytes) : Bytes := encodeUtf8 (decodeUtf8 value)

/-- A `RadioTxUpdate` without its first byte. -/
def radioTxUpdateBody (active : UInt8) (freq : Bytes) (range : UInt16) (sub : Bytes) : Bytes :=
  active :: (string8 freq ++ (littleEndian16 range ++ string8 sub))

/-- A `RadioTxBroadcast` packet, unbounded. -/
def radioTxBroadcastBytes (sessionId : UInt32) (active : UInt8) (freq : Bytes) (range : UInt16)
    (sub : Bytes) : Bytes :=
  PacketType.radioTxBroadcast.code ::
    (littleEndian32 sessionId ++ radioTxUpdateBody active freq range sub)

namespace RelayServer

theorem readRadioTxUpdate_body (active : UInt8) {freq : Bytes} (range : UInt16) {sub : Bytes}
    (hfreq : freq.length ≤ maxFreqLength) (hsub : sub.length ≤ maxSubtypeLength) :
    readRadioTxUpdate (radioTxUpdateBody active freq range sub) =
      .ok (active, decodeUtf8 freq, range, decodeUtf8 sub) := by
  have hbyte : freq.length ≤ 255 := hfreq.trans (by decide)
  have hbyte' : sub.length ≤ 255 := hsub.trans (by decide)
  have hlast := PacketReader.readString8_string8 [] hsub hbyte'
  rw [List.append_nil] at hlast
  simp only [readRadioTxUpdate, radioTxUpdateBody, PacketReader.readByte_cons, bind, Except.bind]
  rw [PacketReader.readString8_string8 _ hfreq hbyte]
  dsimp only
  rw [PacketReader.readUInt16_bytes]
  dsimp only
  rw [hlast]
  rfl

section Writing
variable {sender : ClientSession} {active : UInt8} {freq : Text} {range : UInt16} {sub : Text}

theorem radioTxBroadcastPacket_eq
    (h : (encodeUtf8 freq).length + (encodeUtf8 sub).length ≤ maxFreqLength + maxSubtypeLength) :
    radioTxBroadcastPacket sender active freq range sub =
      .ok (radioTxBroadcastBytes sender.sessionId active (encodeUtf8 freq) range
        (encodeUtf8 sub)) := by
  simp only [maxFreqLength, maxSubtypeLength] at h
  simp only [radioTxBroadcastPacket, PacketWriter.writeByte, PacketWriter.writeUInt16,
    PacketWriter.writeUInt32, maxFreqLength, maxSubtypeLength, bind, Except.bind]
  rw [PacketWriter.put_ok (by simp)]
  dsimp only
  rw [PacketWriter.put_ok (by simp)]
  dsimp only
  rw [PacketWriter.put_ok (by simp)]
  dsimp only
  rw [PacketWriter.writeString8_ok (by simp; omega)]
  dsimp only
  rw [PacketWriter.put_ok (by simp; omega)]
  dsimp only
  rw [PacketWriter.writeString8_ok (by simp; omega)]
  simp [pure, Except.pure, radioTxBroadcastBytes, radioTxUpdateBody]

/-- The buffer bounds the two strings together. -/
theorem radioTxBroadcastPacket_overflow
    (h : maxFreqLength + maxSubtypeLength < (encodeUtf8 freq).length + (encodeUtf8 sub).length) :
    ∃ e, radioTxBroadcastPacket sender active freq range sub = .error e := by
  simp only [maxFreqLength, maxSubtypeLength] at h
  simp only [radioTxBroadcastPacket, PacketWriter.writeByte, PacketWriter.writeUInt16,
    PacketWriter.writeUInt32, maxFreqLength, maxSubtypeLength, bind, Except.bind]
  rw [PacketWriter.put_ok (by simp)]
  dsimp only
  rw [PacketWriter.put_ok (by simp)]
  dsimp only
  rw [PacketWriter.put_ok (by simp)]
  dsimp only
  -- either the frequency alone is too long, or the range behind it, or the subtype
  by_cases hfreq : (encodeUtf8 freq).length ≤ 35
  · rw [PacketWriter.writeString8_ok (by simp; omega)]
    dsimp only
    by_cases hrange : (encodeUtf8 freq).length ≤ 33
    · rw [PacketWriter.put_ok (by simp; omega)]
      dsimp only
      obtain ⟨e, he⟩ := @PacketWriter.writeString8_overflow
        { capacity := 1 + 4 + 1 + 1 + 16 + 2 + 1 + 16
          written := [] ++ [PacketType.radioTxBroadcast.code] ++
            littleEndian32 sender.sessionId ++ [active] ++ string8 (encodeUtf8 freq) ++
            littleEndian16 range } sub (by simp; omega)
      rw [he]
      exact ⟨e, rfl⟩
    · have hput : ∀ w : PacketWriter, w.capacity < w.written.length + 2 →
          w.put .argumentOutOfRange (littleEndian16 range) = .error .argumentOutOfRange := by
        intro w hw
        exact if_pos hw
      rw [hput _ (by simp; omega)]
      exact ⟨_, rfl⟩
  · obtain ⟨e, he⟩ := @PacketWriter.writeString8_overflow
      { capacity := 1 + 4 + 1 + 1 + 16 + 2 + 1 + 16
        written := [] ++ [PacketType.radioTxBroadcast.code] ++
          littleEndian32 sender.sessionId ++ [active] } freq (by simp; omega)
    rw [he]
    exact ⟨e, rfl⟩

end Writing

/-- Nothing is thrown in the loop of a relayed packet. -/
theorem relayToOthers_sent (server : RelayServer) (order : SessionOrder) (sender : ClientSession)
    (packet : Bytes) (d : Datagram) :
    d ∈ (server.relayToOthers order sender packet).sent ↔
      ∃ target ∈ server.tables.sessionsById.values, target.sessionId ≠ sender.sessionId ∧
        d = ⟨target.endPoint, packet⟩ := by
  simp only [relayToOthers]
  rw [Sends.each_of_none]
  · dsimp only
    rw [List.mem_flatMap]
    constructor
    · intro h
      obtain ⟨target, htarget, hd⟩ := h
      split at hd
      · cases hd
      · rename_i hne
        exact ⟨target, (order.mem_arrange _ _).mp htarget, hne, List.mem_singleton.mp hd⟩
    · intro h
      obtain ⟨target, htarget, hne, rfl⟩ := h
      refine ⟨target, (order.mem_arrange _ _).mpr htarget, ?_⟩
      rw [if_neg hne]
      exact List.mem_singleton_self _
  · intro target _
    split <;> rfl

/-- What the relay sends for a RadioTxUpdate within the limits: its strings recoded, to every
other session, unless the recoded strings no longer fit the buffer. -/
theorem mem_relayed {server : RelayServer} {remote : IPEndPoint} {sender : ClientSession}
    (hsender : server.tables.sessionsByEndPoint.lookup remote = some sender) (now : Int)
    (order : SessionOrder) (active : UInt8) {freq : Bytes} (range : UInt16) {sub : Bytes}
    (hfreq : freq.length ≤ maxFreqLength) (hsub : sub.length ≤ maxSubtypeLength) (d : Datagram) :
    d ∈ (server.handlePacket now order (PacketType.radioTxUpdate.code ::
        radioTxUpdateBody active freq range sub) remote).sent ↔
      (recoded freq).length + (recoded sub).length ≤ maxFreqLength + maxSubtypeLength ∧
        ∃ target ∈ server.tables.sessionsById.values, target.sessionId ≠ sender.sessionId ∧
          d = ⟨target.endPoint, radioTxBroadcastBytes sender.sessionId active (recoded freq) range
            (recoded sub)⟩ := by
  simp only [handlePacket, PacketType.ofCode_code, handleRadioTxUpdate, hsender,
    readRadioTxUpdate_body active range hfreq hsub]
  by_cases hfits : (recoded freq).length + (recoded sub).length ≤ maxFreqLength + maxSubtypeLength
  · rw [radioTxBroadcastPacket_eq hfits]
    have hrelay := relayToOthers_sent (server.touch sender now) order sender
      (radioTxBroadcastBytes sender.sessionId active (recoded freq) range (recoded sub)) d
    exact hrelay.trans (and_iff_right hfits).symm
  · obtain ⟨e, he⟩ := @radioTxBroadcastPacket_overflow sender active (decodeUtf8 freq) range
      (decodeUtf8 sub) (Nat.lt_of_not_le hfits)
    rw [he]
    simp [hfits]

end RelayServer

/-- The client takes a broadcast exactly within its own limits. -/
theorem handlePacket_radioTxBroadcastBytes (sessionId : UInt32) (active : UInt8) {freq : Bytes}
    (range : UInt16) {sub : Bytes} (hfreq : freq.length ≤ 255) (hsub : sub.length ≤ 255) :
    Voice.handlePacket (radioTxBroadcastBytes sessionId active freq range sub) =
      if freq.length ≤ maxFreqLength ∧ sub.length ≤ maxSubtypeLength then
        .ok (some (.radioTx sessionId (active != 0) freq range sub))
      else .error .runtimeError := by
  have hread : ∀ rest : Bytes, Voice.PacketReader.readUInt32 (littleEndian32 sessionId ++ rest) =
      .ok (sessionId, rest) := fun rest => Voice.PacketReader.readUInt32_bytes _ _
  simp only [radioTxBroadcastBytes, radioTxUpdateBody, Voice.handlePacket, PacketType.ofCode_code,
    hread, Voice.PacketReader.readByte_cons, bind, Except.bind]
  by_cases hfreqMax : freq.length ≤ maxFreqLength
  · rw [Voice.PacketReader.readString8_string8 _ hfreqMax hfreq]
    dsimp only
    rw [Voice.PacketReader.readUInt16_bytes]
    dsimp only
    by_cases hsubMax : sub.length ≤ maxSubtypeLength
    · have hlast := Voice.PacketReader.readString8_string8 [] hsubMax hsub
      rw [List.append_nil] at hlast
      rw [hlast, if_pos ⟨hfreqMax, hsubMax⟩]
      rfl
    · have hlast := Voice.PacketReader.readString8_too_long [] (Nat.lt_of_not_le hsubMax) hsub
      rw [List.append_nil] at hlast
      rw [hlast, if_neg (fun h => hsubMax h.2)]
  · rw [Voice.PacketReader.readString8_too_long _ (Nat.lt_of_not_le hfreqMax) hfreq,
      if_neg (fun h => hfreqMax h.1)]

end TaskForceRadio.VoiceServer
