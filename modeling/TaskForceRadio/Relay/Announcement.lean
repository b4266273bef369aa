import TaskForceRadio.Client.VoiceNetworkClient
import TaskForceRadio.Relay.Tables

/-!
# Announcing a session

`SendClientJoined` encodes the decoded uid and name of a session into a fixed buffer, and the
client checks both lengths again. A name that was defaulted from the uid meets a limit that was
never checked for it.
-/

set_option autoImplicit false

namespace TaskForceRadio.VoiceServer

/-- A `ClientJoined` packet, unbounded. -/
def clientJoinedBytes (sessionId : UInt32) (uid name : Bytes) : Bytes :=
  PacketType.clientJoined.code :: (littleEndian32 sessionId ++ (string8 uid ++ string8 name))

namespace RelayServer

theorem clientJoinedPacket_eq {subject : ClientSession}
    (h : (encodeUtf8 subject.uid).length + (encodeUtf8 subject.name).length ≤
      maxUidLength + maxNameLength) :
    clientJoinedPacket subject = .ok (clientJoinedBytes subject.sessionId
      (encodeUtf8 subject.uid) (encodeUtf8 subject.name)) := by
  simp only [maxUidLength, maxNameLength] at h
  simp only [clientJoinedPacket, PacketWriter.writeByte, PacketWriter.writeUInt32, maxUidLength,
    maxNameLength, bind, Except.bind]
  rw [PacketWriter.put_ok (by simp)]
  dsimp only
  rw [PacketWriter.put_ok (by simp)]
  dsimp only
  rw [PacketWriter.writeString8_ok (by simp; omega)]
  dsimp only
  rw [PacketWriter.writeString8_ok (by simp; omega)]
  simp [pure, Except.pure, clientJoinedBytes]

/-- The buffer bounds the two strings together. -/
theorem clientJoinedPacket_ok {subject : ClientSession} {packet : Bytes}
    (h : clientJoinedPacket subject = .ok packet) :
    (encodeUtf8 subject.uid).length + (encodeUtf8 subject.name).length ≤
      maxUidLength + maxNameLength := by
  simp only [maxUidLength, maxNameLength]
  by_contra hlong
  simp only [clientJoinedPacket, PacketWriter.writeByte, PacketWriter.writeUInt32, maxUidLength,
    maxNameLength, bind, Except.bind] at h
  rw [PacketWriter.put_ok (by simp)] at h
  dsimp only at h
  rw [PacketWriter.put_ok (by simp)] at h
  dsimp only at h
  by_cases huid : (encodeUtf8 subject.uid).length ≤ 73
  · rw [PacketWriter.writeString8_ok (by simp; omega)] at h
    dsimp only at h
    obtain ⟨e, he⟩ := @PacketWriter.writeString8_overflow
      { capacity := 1 + 4 + 1 + 40 + 1 + 32, written := [] ++ [PacketType.clientJoined.code] ++
          littleEndian32 subject.sessionId ++ string8 (encodeUtf8 subject.uid) }
      subject.name (by simp; omega)
    rw [he] at h
    cases h
  · obtain ⟨e, he⟩ := @PacketWriter.writeString8_overflow
      { capacity := 1 + 4 + 1 + 40 + 1 + 32, written := [] ++ [PacketType.clientJoined.code] ++
          littleEndian32 subject.sessionId }
      subject.uid (by simp; omega)
    rw [he] at h
    cases h

end RelayServer

/-- The client takes an announcement exactly within its own limits. -/
theorem handlePacket_clientJoinedBytes (sessionId : UInt32) {uid name : Bytes}
    (huid : uid.length ≤ 255) (hname : name.length ≤ 255) :
    Voice.handlePacket (clientJoinedBytes sessionId uid name) =
      if uid.length ≤ maxUidLength ∧ name.length ≤ maxNameLength then
        .ok (some (.remoteJoined sessionId uid name))
      else .error .runtimeError := by
  have hread : Voice.PacketReader.readUInt32 (littleEndian32 sessionId ++
      (string8 uid ++ string8 name)) = .ok (sessionId, string8 uid ++ string8 name) :=
    Voice.PacketReader.readUInt32_bytes _ _
  simp only [clientJoinedBytes, Voice.handlePacket, PacketType.ofCode_code, hread, bind,
    Except.bind]
  by_cases huidMax : uid.length ≤ maxUidLength
  · rw [Voice.PacketReader.readString8_string8 (string8 name) huidMax huid]
    dsimp only
    by_cases hnameMax : name.length ≤ maxNameLength
    · have hlast := Voice.PacketReader.readString8_string8 [] hnameMax hname
      rw [List.append_nil] at hlast
      rw [hlast, if_pos ⟨huidMax, hnameMax⟩]
      rfl
    · have hlast := Voice.PacketReader.readString8_too_long [] (Nat.lt_of_not_le hnameMax) hname
      rw [List.append_nil] at hlast
      rw [hlast, if_neg (fun h => hnameMax h.2)]
  · rw [Voice.PacketReader.readString8_too_long _ (Nat.lt_of_not_le huidMax) huid,
      if_neg (fun h => huidMax h.1)]

/-- The session can be announced: writing the packet does not throw, and the client reads back
the session's id, uid and name. -/
def Announced (subject : ClientSession) : Prop :=
  ∃ packet, RelayServer.clientJoinedPacket subject = .ok packet ∧
    Voice.handlePacket packet = .ok (some (.remoteJoined subject.sessionId
      (encodeUtf8 subject.uid) (encodeUtf8 subject.name)))

theorem announced_iff_lengths (subject : ClientSession) :
    Announced subject ↔ (encodeUtf8 subject.uid).length ≤ maxUidLength ∧
      (encodeUtf8 subject.name).length ≤ maxNameLength := by
  constructor
  · intro h
    obtain ⟨packet, hpacket, hread⟩ := h
    have hsum := RelayServer.clientJoinedPacket_ok hpacket
    rw [RelayServer.clientJoinedPacket_eq hsum] at hpacket
    simp only [maxUidLength, maxNameLength] at hsum
    rw [← Except.ok.inj hpacket, handlePacket_clientJoinedBytes _ (by omega) (by omega)] at hread
    split at hread
    · rename_i hlengths
      exact hlengths
    · cases hread
  · intro h
    have huid : (encodeUtf8 subject.uid).length ≤ 255 := h.1.trans (by decide)
    have hname : (encodeUtf8 subject.name).length ≤ 255 := h.2.trans (by decide)
    refine ⟨_, RelayServer.clientJoinedPacket_eq (Nat.add_le_add h.1 h.2), ?_⟩
    rw [handlePacket_clientJoinedBytes _ huid hname, if_pos h]

private theorem handlePacket_session {server : RelayServer} {data : Bytes} {uid name : Text}
    (h : server.admitted data = some (uid, name))
    (hfull : (server.dropStale uid).isFull = false)
    (now : Int) (order : SessionOrder) (remote : IPEndPoint) :
    (server.handlePacket now order data remote).server.tables.sessionsById.lookup
      server.nextSessionId = some ((server.dropStale uid).newSession remote uid name) := by
  rw [RelayServer.handlePacket_admitted h, RelayServer.admitClient_server, hfull]
  have hput := (SessionTables.lookups_put_self (server.dropStale uid).tables
    ((server.dropStale uid).newSession remote uid name)).2.1
  rw [← server.dropStale_nextSessionId uid]
  exact hput

/-- The session of an accepted request can be announced exactly when the re-encoded uid fits its
own limit and the name, or the uid in its place, fits the limit of names. -/
theorem session_announced_iff {server : RelayServer} {data : Bytes} {uid name : Text}
    (h : server.admitted data = some (uid, name))
    (hfull : (server.dropStale uid).isFull = false)
    (now : Int) (order : SessionOrder) (remote : IPEndPoint) :
    ∃ session, (server.handlePacket now order data remote).server.tables.sessionsById.lookup
        server.nextSessionId = some session ∧
      (Announced session ↔ (encodeUtf8 uid).length ≤ maxUidLength ∧
        (encodeUtf8 (if name = [] then uid else name)).length ≤ maxNameLength) :=
  ⟨_, handlePacket_session h hfull now order remote, announced_iff_lengths _⟩

/-- A request with a short name is accepted and its session announced. -/
theorem session_announced_bravo :
    ∃ session, ((Relay.start {} emptyPasswordHash ['1']).server.handlePacket 0 .stored
        (connectRequest emptyPasswordHash "76561198000000000" "Bravo")
          ⟨1, 5000⟩).server.tables.sessionsById.lookup 1 = some session ∧
      (Announced session ↔ (encodeUtf8 "76561198000000000".toList).length ≤ maxUidLength ∧
        (encodeUtf8 (if "Bravo".toList = [] then "76561198000000000".toList
          else "Bravo".toList)).length ≤ maxNameLength) :=
  @session_announced_iff (Relay.start {} emptyPasswordHash ['1']).server
    (connectRequest emptyPasswordHash "76561198000000000" "Bravo") "76561198000000000".toList
    "Bravo".toList (by decide +kernel) (by decide) 0 .stored ⟨1, 5000⟩

/-- A uid of 40 bytes without a name is accepted, and its announcement throws. -/
theorem unnamed_session_not_announced :
    ∃ session, ((Relay.start {} emptyPasswordHash ['1']).server.handlePacket 0 .stored
        (connectRequest emptyPasswordHash "0123456789012345678901234567890123456789" "")
          ⟨1, 5000⟩).server.tables.sessionsById.lookup 1 = some session ∧
      ¬ Announced session := by
  refine ⟨⟨0, 1, ⟨1, 5000⟩, "0123456789012345678901234567890123456789".toList,
    "0123456789012345678901234567890123456789".toList⟩, by decide +kernel, ?_⟩
  rw [announced_iff_lengths]
  decide

end TaskForceRadio.VoiceServer
