import TaskForceRadio.Relay.Broadcast
import TaskForceRadio.Wire.Truncation

/-!
# One wire format, two implementations

What the client writes, the relay reads, decodes, encodes again and passes on, and what the
receiving client makes of it.
-/

set_option autoImplicit false

namespace TaskForceRadio

open VoiceServer

namespace Voice

/-- A `VoiceUp` without its first byte. -/
def voiceUpBody (sequence : UInt16) (flags : UInt8) (opus : Bytes) : Bytes :=
  littleEndian16 sequence ++ flags :: opus

def voiceFlags (isLast : Bool) : UInt8 := if isLast then voiceFlagsLastFrame else 0

theorem voiceFlags_lastFrame (isLast : Bool) :
    ((voiceFlags isLast &&& voiceFlagsLastFrame) != 0) = isLast := by
  cases isLast <;> decide

theorem voiceUpPacket_eq (sequence : UInt16) (isLast : Bool) {opus : Bytes}
    (h : opus.length ≤ maxOpusFrameLength) :
    voiceUpPacket sequence isLast opus =
      .ok (PacketType.voiceUp.code :: voiceUpBody sequence (voiceFlags isLast) opus) := by
  simp only [maxOpusFrameLength] at h
  simp only [voiceUpPacket, PacketWriter.writeByte, PacketWriter.writeUInt16,
    PacketWriter.writeBytes, maxOpusFrameLength, bind, Except.bind]
  rw [PacketWriter.put_ok (by simp)]
  dsimp only
  rw [PacketWriter.put_ok (by simp)]
  dsimp only
  rw [PacketWriter.put_ok (by simp)]
  dsimp only
  rw [PacketWriter.put_ok (by simp; omega)]
  simp [pure, Except.pure, voiceUpBody, voiceFlags]

/-- A call of one of the functions that write a packet. -/
inductive SenderCall where
  | tryHandshake (passwordHash : PasswordHash)
  | sendRadioTx (active : Bool) (freq : Bytes) (range : UInt16) (sub : Bytes)
  | sendVoiceFrame (opus : Bytes) (isLast : Bool)
  | ping (now : Time)

/-- What writing the packet comes to, if the call gets that far. -/
def SenderCall.writes (c : VoiceNetworkClient) : SenderCall → Option (Except CodecError Bytes)
  | .tryHandshake passwordHash => some (connectRequestPacket passwordHash c.identity)
  | .sendRadioTx active freq range sub => some (radioTxUpdatePacket active freq range sub)
  | .sendVoiceFrame opus isLast =>
      if opus = [] ∨ maxOpusFrameLength < opus.length ∨ c.connected = false then none
      else some (voiceUpPacket c.voiceSequence isLast opus)
  | .ping now => some (pingPacket now)

/-- What goes out is what was written. -/
def SenderCall.sent (c : VoiceNetworkClient) (call : SenderCall) : List (Nat × Bytes) :=
  match call.writes c with
  | some (.ok packet) => c.sendRaw packet
  | _ => []

theorem sendVoiceFrame_sent (c : VoiceNetworkClient) (opus : Bytes) (isLast : Bool) :
    (c.sendVoiceFrame opus isLast).2 = (SenderCall.sendVoiceFrame opus isLast).sent c := by
  simp only [VoiceNetworkClient.sendVoiceFrame, SenderCall.sent, SenderCall.writes]
  split
  · rfl
  · cases voiceUpPacket c.voiceSequence isLast opus <;> rfl

theorem sendRadioTx_sent (c : VoiceNetworkClient) (active : Bool) (freq : Bytes) (range : UInt16)
    (sub : Bytes) :
    c.sendRadioTx active freq range sub =
      (SenderCall.sendRadioTx active freq range sub).sent c := by
  simp only [VoiceNetworkClient.sendRadioTx, SenderCall.sent, SenderCall.writes]
  cases radioTxUpdatePacket active freq range sub <;> rfl

private theorem SenderCall.writes_ok (c : VoiceNetworkClient) (call : SenderCall) (e : CodecError) :
    call.writes c ≠ some (.error e) := by
  intro h
  cases call with
  | tryHandshake passwordHash =>
    have hok := connectRequestPacket_eq passwordHash c.identity
    rw [writes, hok] at h
    cases h
  | sendRadioTx active freq range sub =>
    have hok := radioTxUpdatePacket_eq active freq range sub
    rw [writes, hok] at h
    cases h
  | sendVoiceFrame opus isLast =>
    simp only [writes] at h
    split at h
    · cases h
    · rename_i hguard
      have hshort : opus.length ≤ maxOpusFrameLength := by
        apply Nat.le_of_not_lt
        intro hlong
        exact hguard (Or.inr (Or.inl hlong))
      rw [voiceUpPacket_eq _ _ hshort] at h
      cases h
  | ping now =>
    have hok : pingPacket now = .ok (PacketType.ping.code ::
        littleEndian32 (UInt32.ofInt (now / milliseconds 1))) := rfl
    rw [writes, hok] at h
    cases h

private theorem receive_callbacks {packet : Bytes} {callback : Callback}
    (h : handlePacket packet = .ok (some callback)) (o : LoopOutcome) (receivedAt : Time) :
    (o.receive receivedAt packet).callbacks = o.callbacks ++ [callback] := by
  simp only [LoopOutcome.receive, h]

end Voice

namespace VoiceServer

/-- A `VoiceDown` packet, unbounded. -/
def voiceDownBytes (sessionId : UInt32) (sequence : UInt16) (flags : UInt8) (opus : Bytes) :
    Bytes :=
  PacketType.voiceDown.code :: (littleEndian32 sessionId ++ Voice.voiceUpBody sequence flags opus)

namespace RelayServer

/-- Whom the relay loops send to, in their order. -/
def receivers (server : RelayServer) (order : SessionOrder) (sender : ClientSession) :
    List ClientSession :=
  (server.sessions order).filter (fun target => target.sessionId ≠ sender.sessionId)

private theorem relayToOthers_eq (server : RelayServer) (order : SessionOrder)
    (sender : ClientSession)
    (packet : Bytes) :
    server.relayToOthers order sender packet =
      { sent :=
          (server.receivers order sender).map (fun target => ⟨target.endPoint, packet⟩) } := by
  rw [relayToOthers, Sends.each_of_none]
  · congr 1
    simp only [receivers]
    induction server.sessions order with
    | nil => rfl
    | cons target rest ih =>
      by_cases hself : target.sessionId = sender.sessionId
      · simp [hself, ih]
      · simp [hself, ih]
  · intro target _
    split <;> rfl

private theorem sends_relayToOthers {server s : RelayServer} (hs : s.tables = server.tables)
    (order : SessionOrder) (sender : ClientSession) (packet : Bytes) :
    (s.sends (s.relayToOthers order sender packet)).sent =
        (server.receivers order sender).map (fun target => ⟨target.endPoint, packet⟩) ∧
      (s.sends (s.relayToOthers order sender packet)).thrown = none := by
  have hreceivers : s.receivers order sender = server.receivers order sender := by
    rw [receivers, sessions, hs]
    rfl
  rw [relayToOthers_eq, hreceivers]
  exact ⟨rfl, rfl⟩

theorem voiceDownPacket_eq (sender : ClientSession) (sequence : UInt16) (flags : UInt8)
    {opus : Bytes} (h : opus.length ≤ maxOpusFrameLength) :
    voiceDownPacket sender sequence flags opus =
      .ok (voiceDownBytes sender.sessionId sequence flags opus) := by
  simp only [maxOpusFrameLength] at h
  simp only [voiceDownPacket, PacketWriter.writeByte, PacketWriter.writeUInt16,
    PacketWriter.writeUInt32, PacketWriter.writeBytes, maxOpusFrameLength, bind, Except.bind]
  rw [PacketWriter.put_ok (by simp)]
  dsimp only
  rw [PacketWriter.put_ok (by simp)]
  dsimp only
  rw [PacketWriter.put_ok (by simp)]
  dsimp only
  rw [PacketWriter.put_ok (by simp)]
  dsimp only
  rw [PacketWriter.put_ok (by simp; omega)]
  simp [pure, Except.pure, voiceDownBytes, Voice.voiceUpBody]

theorem readVoiceUp_body (sequence : UInt16) (flags : UInt8) (opus : Bytes) :
    readVoiceUp (Voice.voiceUpBody sequence flags opus) = .ok (sequence, flags, opus) := by
  simp only [readVoiceUp, Voice.voiceUpBody, PacketReader.readUInt16_bytes, bind, Except.bind]
  rfl

/-- The relay turns this datagram of the sender into one packet for each receiver, and the packet
fires this callback once at whoever receives it. -/
structure Relays (server : RelayServer) (now : Int) (order : SessionOrder) (data : Bytes)
    (remote : IPEndPoint) (sender : ClientSession) (packet : Bytes)
    (callback : Voice.Callback) : Prop where
  sent : (server.handlePacket now order data remote).sent =
    (server.receivers order sender).map (fun target => ⟨target.endPoint, packet⟩)
  unthrown : (server.handlePacket now order data remote).thrown = none
  fires : ∀ (o : Voice.LoopOutcome) (receivedAt : Voice.Time),
    (o.receive receivedAt packet).callbacks = o.callbacks ++ [callback]

section Registered
variable {server : RelayServer} {remote : IPEndPoint} {sender : ClientSession}
  (hsender : server.tables.sessionsByEndPoint.lookup remote = some sender)
include hsender

private theorem relays_voiceUp (now : Int) (order : SessionOrder) (sequence : UInt16)
    (flags : UInt8)
    {opus : Bytes} (h : opus.length ≤ maxOpusFrameLength) :
    server.Relays now order (PacketType.voiceUp.code :: Voice.voiceUpBody sequence flags opus)
      remote sender (voiceDownBytes sender.sessionId sequence flags opus)
      (.voiceFrame sender.sessionId sequence ((flags &&& voiceFlagsLastFrame) != 0) opus) := by
  have hhandled : server.handlePacket now order
      (PacketType.voiceUp.code :: Voice.voiceUpBody sequence flags opus) remote =
      server.handleVoiceUp now order (Voice.voiceUpBody sequence flags opus) remote := rfl
  have hshort : ¬ maxOpusFrameLength < opus.length := Nat.not_lt.mpr h
  have hfired : Voice.handlePacket (voiceDownBytes sender.sessionId sequence flags opus) =
      .ok (some (.voiceFrame sender.sessionId sequence ((flags &&& voiceFlagsLastFrame) != 0)
        opus)) := by
    simp only [voiceDownBytes, Voice.voiceUpBody, Voice.handlePacket, PacketType.ofCode_code,
      Voice.PacketReader.readUInt32_bytes, Voice.PacketReader.readUInt16_bytes,
      Voice.PacketReader.readByte_cons, bind, Except.bind, pure, Except.pure]
  constructor
  · rw [hhandled]
    simp only [handleVoiceUp, hsender, readVoiceUp_body, if_neg hshort, voiceDownPacket_eq _ _ _ h]
    exact (sends_relayToOthers rfl order sender _).1
  · rw [hhandled]
    simp only [handleVoiceUp, hsender, readVoiceUp_body, if_neg hshort, voiceDownPacket_eq _ _ _ h]
    exact (sends_relayToOthers rfl order sender _).2
  · exact Voice.receive_callbacks hfired

private theorem relays_radioTxUpdate (now : Int) (order : SessionOrder) (active : UInt8)
    {freq : Text}
    (range : UInt16) {sub : Text} (hfreq : (encodeUtf8 freq).length ≤ maxFreqLength)
    (hsub : (encodeUtf8 sub).length ≤ maxSubtypeLength) :
    server.Relays now order (PacketType.radioTxUpdate.code ::
        radioTxUpdateBody active (encodeUtf8 freq) range (encodeUtf8 sub)) remote sender
      (radioTxBroadcastBytes sender.sessionId active (encodeUtf8 freq) range (encodeUtf8 sub))
      (.radioTx sender.sessionId (active != 0) (encodeUtf8 freq) range (encodeUtf8 sub)) := by
  have hhandled : server.handlePacket now order (PacketType.radioTxUpdate.code ::
      radioTxUpdateBody active (encodeUtf8 freq) range (encodeUtf8 sub)) remote =
      server.handleRadioTxUpdate now order
        (radioTxUpdateBody active (encodeUtf8 freq) range (encodeUtf8 sub)) remote := rfl
  have hread := readRadioTxUpdate_body active range hfreq hsub
  rw [decodeUtf8_encodeUtf8, decodeUtf8_encodeUtf8] at hread
  have hpacket := @radioTxBroadcastPacket_eq sender active freq range sub
    (Nat.add_le_add hfreq hsub)
  have hfired := handlePacket_radioTxBroadcastBytes sender.sessionId active range
    (hfreq.trans (by decide)) (hsub.trans (by decide))
  rw [if_pos ⟨hfreq, hsub⟩] at hfired
  constructor
  · rw [hhandled]
    simp only [handleRadioTxUpdate, hsender, hread, hpacket]
    exact (sends_relayToOthers rfl order sender _).1
  · rw [hhandled]
    simp only [handleRadioTxUpdate, hsender, hread, hpacket]
    exact (sends_relayToOthers rfl order sender _).2
  · exact Voice.receive_callbacks hfired

end Registered

private theorem readIdentity_string8 {uid name : Bytes} (huid : uid.length ≤ maxUidLength)
    (hname : name.length ≤ maxNameLength) :
    readIdentity (string8 uid ++ string8 name) = .ok (decodeUtf8 uid, decodeUtf8 name) := by
  have hlast := PacketReader.readString8_string8 [] hname (hname.trans (by decide))
  rw [List.append_nil] at hlast
  simp only [readIdentity, bind, Except.bind]
  rw [PacketReader.readString8_string8 _ huid (huid.trans (by decide))]
  dsimp only
  rw [hlast]
  rfl

/-- A `ConnectRequest` of this version without its first byte. -/
def connectRequestBody (passwordHash uid name : Bytes) : Bytes :=
  versionMajor :: (passwordHash ++ (string8 uid ++ string8 name))

theorem connectVerdict_body (server : RelayServer) {passwordHash uid name : Bytes}
    (hhash : passwordHash.length = 32) (huid : uid.length ≤ maxUidLength)
    (hname : name.length ≤ maxNameLength) :
    server.connectVerdict (connectRequestBody passwordHash uid name) =
      .ok (if decodeUtf8 uid = [] then .reject .badRequest
        else if passwordHash ≠ server.expectedPasswordHash then .reject .badPassword
        else .proceed (decodeUtf8 uid) (decodeUtf8 name)) := by
  have htake : (passwordHash ++ (string8 uid ++ string8 name)).take 32 = passwordHash := by
    rw [← hhash, List.take_left]
  have hdrop : (passwordHash ++ (string8 uid ++ string8 name)).drop 32 =
      string8 uid ++ string8 name := by
    rw [← hhash, List.drop_left]
  have hlong : ¬ (passwordHash ++ (string8 uid ++ string8 name)).length < 32 := by
    rw [List.length_append]
    omega
  simp only [connectVerdict, connectRequestBody, PacketReader.readByte_cons, ne_eq,
    not_true_eq_false, if_false, if_neg hlong, htake, hdrop, readIdentity_string8 huid hname]
  split
  · rfl
  · split <;> rfl

/-- What `HandleConnectRequest` reads of a packet, and that it goes by nothing else. -/
structure ReadsConnectRequest (packet passwordHash : Bytes) (uid name : Text) : Prop where
  fields : ∃ reader rest, packet = PacketType.connectRequest.code :: versionMajor :: reader ∧
    PacketReader.readBytesFixed 32 reader = .ok (passwordHash, rest) ∧
    readIdentity rest = .ok (uid, name)
  handled : ∀ (server : RelayServer) (now : Int) (order : SessionOrder) (remote : IPEndPoint),
    server.handlePacket now order packet remote =
      if uid = [] then server.sends (sendReject remote .badRequest)
      else if passwordHash ≠ server.expectedPasswordHash then
        server.sends (sendReject remote .badPassword)
      else server.admitClient now order remote uid name

private theorem readsConnectRequest {passwordHash uid name : Bytes}
    (hhash : passwordHash.length = 32)
    (huid : uid.length ≤ maxUidLength) (hname : name.length ≤ maxNameLength) :
    ReadsConnectRequest (PacketType.connectRequest.code :: connectRequestBody passwordHash uid name)
      passwordHash (decodeUtf8 uid) (decodeUtf8 name) := by
  constructor
  · refine ⟨_, string8 uid ++ string8 name, rfl, ?_, readIdentity_string8 huid hname⟩
    rw [PacketReader.readBytesFixed, if_neg (by rw [List.length_append]; omega), ← hhash,
      List.take_left, List.drop_left]
  · intro server now order remote
    have hverdict := server.connectVerdict_body hhash huid hname
    simp only [handlePacket, PacketType.ofCode_code, handleConnectRequest, hverdict]
    by_cases hempty : decodeUtf8 uid = []
    · rw [if_pos hempty, if_pos hempty]
    · rw [if_neg hempty, if_neg hempty]
      by_cases hpassword : passwordHash = server.expectedPasswordHash
      · rw [if_neg (not_not.mpr hpassword), if_neg (not_not.mpr hpassword)]
      · rw [if_pos hpassword, if_pos hpassword]

end RelayServer

end VoiceServer

namespace Codec

/-- The packets of the client are within their buffers, and what the relay and the receiving client
read of them is what was written, up to the truncation of long strings. -/
theorem codec_agreement :
    (∀ (c : Voice.VoiceNetworkClient) (call : Voice.SenderCall) (e : Voice.CodecError),
      call.writes c ≠ some (.error e)) ∧
    (∀ (passwordHash : Voice.PasswordHash) (uid name : Text), ∃ uid' name' packet,
      LongestPrefix maxUidLength uid uid' ∧ LongestPrefix maxNameLength name name' ∧
      Voice.connectRequestPacket passwordHash
        { uid := encodeUtf8 uid, name := encodeUtf8 name } = .ok packet ∧
      RelayServer.ReadsConnectRequest packet passwordHash.1 uid' name') ∧
    ∀ (server : RelayServer) (remote : IPEndPoint) (sender : ClientSession) (now : Int)
      (order : SessionOrder), server.tables.sessionsByEndPoint.lookup remote = some sender →
      (∀ (sequence : UInt16) (isLast : Bool) (opus : Bytes), opus ≠ [] →
        opus.length ≤ maxOpusFrameLength → ∃ up down,
        Voice.voiceUpPacket sequence isLast opus = .ok up ∧
        server.Relays now order up remote sender down
          (.voiceFrame sender.sessionId sequence isLast opus)) ∧
      ∀ (active : Bool) (freq : Text) (range : UInt16) (sub : Text),
        ∃ freq' sub' update broadcast,
        LongestPrefix maxFreqLength freq freq' ∧ LongestPrefix maxSubtypeLength sub sub' ∧
        Voice.radioTxUpdatePacket active (encodeUtf8 freq) range (encodeUtf8 sub) = .ok update ∧
        server.Relays now order update remote sender broadcast
          (.radioTx sender.sessionId active (encodeUtf8 freq') range (encodeUtf8 sub')) := by
  refine ⟨Voice.SenderCall.writes_ok, ?_, ?_⟩
  · intro passwordHash uid name
    obtain ⟨uid', huid, huidLongest⟩ := Voice.truncateUtf8_encode uid maxUidLength
    obtain ⟨name', hname, hnameLongest⟩ := Voice.truncateUtf8_encode name maxNameLength
    have hreads := RelayServer.readsConnectRequest passwordHash.2 huidLongest.fits
      hnameLongest.fits
    have hpacket := Voice.connectRequestPacket_eq passwordHash
      { uid := encodeUtf8 uid, name := encodeUtf8 name }
    rw [decodeUtf8_encodeUtf8, decodeUtf8_encodeUtf8] at hreads
    rw [huid, hname] at hpacket
    exact ⟨uid', name', _, huidLongest, hnameLongest, hpacket, hreads⟩
  · intro server remote sender now order hsender
    constructor
    · intro sequence isLast opus _ hshort
      have hrelays := RelayServer.relays_voiceUp hsender now order sequence
        (Voice.voiceFlags isLast) hshort
      rw [Voice.voiceFlags_lastFrame] at hrelays
      exact ⟨_, _, Voice.voiceUpPacket_eq sequence isLast hshort, hrelays⟩
    · intro active freq range sub
      obtain ⟨freq', hfreq, hfreqLongest⟩ := Voice.truncateUtf8_encode freq maxFreqLength
      obtain ⟨sub', hsub, hsubLongest⟩ := Voice.truncateUtf8_encode sub maxSubtypeLength
      have hactive : ((if active then (1 : UInt8) else 0) != 0) = active := by
        cases active <;> decide
      have hrelays := RelayServer.relays_radioTxUpdate hsender now order (if active then 1 else 0)
        range hfreqLongest.fits hsubLongest.fits
      have hpacket := Voice.radioTxUpdatePacket_eq active (encodeUtf8 freq) range (encodeUtf8 sub)
      rw [hactive] at hrelays
      rw [hfreq, hsub] at hpacket
      exact ⟨freq', sub', _, _, hfreqLongest, hsubLongest, hpacket, hrelays⟩

/-- A sender and one receiver. -/
def twoSessions : RelayServer where
  expectedPasswordHash := []
  serverVersion := []
  tables := (({} : SessionTables).put ⟨0, 1, ⟨1, 5000⟩, ['A'], ['A']⟩).put
    ⟨1, 2, ⟨2, 5000⟩, ['B'], ['B']⟩

theorem last_frame_arrives :
    ∃ up down, Voice.voiceUpPacket 65535 true [1, 2, 3] = .ok up ∧
      twoSessions.Relays 0 .stored up ⟨1, 5000⟩ ⟨0, 1, ⟨1, 5000⟩, ['A'], ['A']⟩ down
        (.voiceFrame 1 65535 true [1, 2, 3]) :=
  (codec_agreement.2.2 twoSessions ⟨1, 5000⟩ _ 0 .stored (by decide)).1 65535 true [1, 2, 3]
    (by decide) (by decide)

end Codec

end TaskForceRadio
