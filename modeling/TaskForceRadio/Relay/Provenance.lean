import TaskForceRadio.Relay.Answer
import TaskForceRadio.System.Codec
import TaskForceRadio.System.Reconnect
import TaskForceRadio.System.Roster

/-!
# Where a packet of the relay comes from

Every packet the relay sends is about a session: the one it announces, or the one whose endpoint
the frame or the transmission came from.
-/

set_option autoImplicit false

namespace TaskForceRadio.VoiceServer

open Voice (Callback)

/-- What a callback tells of a session, when the datagram that made the relay send it came from
`remote`: that the session left, to whom it belongs, or what came from its endpoint. -/
inductive Told (server : RelayServer) (data : Bytes) (remote : IPEndPoint) : Callback → Prop where
  | left (sessionId : UInt32) : Told server data remote (.remoteLeft sessionId)
  | joined (subject : ClientSession)
      (hsubject : server.tables.Holds subject ∨ server.accepted data remote = some subject) :
      Told server data remote
        (.remoteJoined subject.sessionId (encodeUtf8 subject.uid) (encodeUtf8 subject.name))
  | voice (sender : ClientSession) (reader : Bytes) (sequence : UInt16) (flags : UInt8)
      (opus : Bytes) (hsender : server.tables.sessionsByEndPoint.lookup remote = some sender)
      (hdata : data = PacketType.voiceUp.code :: reader)
      (hread : RelayServer.readVoiceUp reader = .ok (sequence, flags, opus)) :
      Told server data remote
        (.voiceFrame sender.sessionId sequence ((flags &&& voiceFlagsLastFrame) != 0) opus)
  | radioTx (sender : ClientSession) (reader : Bytes) (active : UInt8) (freq : Text)
      (range : UInt16) (sub : Text)
      (hsender : server.tables.sessionsByEndPoint.lookup remote = some sender)
      (hdata : data = PacketType.radioTxUpdate.code :: reader)
      (hread : RelayServer.readRadioTxUpdate reader = .ok (active, freq, range, sub)) :
      Told server data remote
        (.radioTx sender.sessionId (active != 0) (encodeUtf8 freq) range (encodeUtf8 sub))

/-- Whatever a client makes of the packet has been told. -/
def Conveys (server : RelayServer) (data : Bytes) (remote : IPEndPoint) (payload : Bytes) : Prop :=
  ∀ callback, Voice.handlePacket payload = .ok (some callback) → Told server data remote callback

/-- The client takes nothing from the packets that answer a request or a ping, and from the others
about nobody present only that somebody left. -/
theorem remoteLeft_of_kind {payload : Bytes} {callback : Callback} {t : PacketType}
    (h : payload.head? = some t.code)
    (hquiet : t ∈ [PacketType.connectAccept, .connectReject, .pong, .clientLeft])
    (hfired : Voice.handlePacket payload = .ok (some callback)) :
    ∃ sessionId, callback = .remoteLeft sessionId := by
  cases payload with
  | nil => cases h
  | cons packetType reader =>
    have hcode : packetType = t.code := Option.some.inj h
    rw [hcode] at hfired
    simp only [List.mem_cons, List.not_mem_nil, or_false] at hquiet
    rcases hquiet with rfl | rfl | rfl | rfl
    · simp only [Voice.handlePacket, PacketType.ofCode_code] at hfired
      cases hfired
    · simp only [Voice.handlePacket, PacketType.ofCode_code] at hfired
      cases hfired
    · simp only [Voice.handlePacket, PacketType.ofCode_code] at hfired
      cases hfired
    · simp only [Voice.handlePacket, PacketType.ofCode_code, bind, Except.bind] at hfired
      split at hfired
      · cases hfired
      · cases hfired
        exact ⟨_, rfl⟩

namespace Conveys
variable {server : RelayServer} {data : Bytes} {remote : IPEndPoint} {payload : Bytes}

private theorem of_kind {t : PacketType} (h : payload.head? = some t.code)
    (hquiet : t ∈ [PacketType.connectAccept, .connectReject, .pong, .clientLeft]) :
    Conveys server data remote payload := by
  intro callback hfired
  obtain ⟨k, rfl⟩ := remoteLeft_of_kind h hquiet hfired
  exact Told.left k

theorem joined {subject : ClientSession}
    (hsubject : server.tables.Holds subject ∨ server.accepted data remote = some subject)
    (hpacket : RelayServer.clientJoinedPacket subject = .ok payload) :
    Conveys server data remote payload := by
  intro callback hfired
  rw [RosterWorld.handlePacket_clientJoined hpacket] at hfired
  split at hfired
  · cases hfired
    exact Told.joined subject hsubject
  · cases hfired

theorem voice {sender : ClientSession} {reader : Bytes} {sequence : UInt16} {flags : UInt8}
    {opus : Bytes} (hsender : server.tables.sessionsByEndPoint.lookup remote = some sender)
    (hdata : data = PacketType.voiceUp.code :: reader)
    (hread : RelayServer.readVoiceUp reader = .ok (sequence, flags, opus))
    (hpacket : payload = voiceDownBytes sender.sessionId sequence flags opus) :
    Conveys server data remote payload := by
  intro callback hfired
  rw [hpacket] at hfired
  simp only [voiceDownBytes, Voice.voiceUpBody, Voice.handlePacket, PacketType.ofCode_code,
    Voice.PacketReader.readUInt32_bytes, Voice.PacketReader.readUInt16_bytes,
    Voice.PacketReader.readByte_cons, bind, Except.bind, pure, Except.pure] at hfired
  cases hfired
  exact Told.voice sender reader sequence flags opus hsender hdata hread

theorem radioTx {sender : ClientSession} {reader : Bytes} {active : UInt8} {freq : Text}
    {range : UInt16} {sub : Text}
    (hsender : server.tables.sessionsByEndPoint.lookup remote = some sender)
    (hdata : data = PacketType.radioTxUpdate.code :: reader)
    (hread : RelayServer.readRadioTxUpdate reader = .ok (active, freq, range, sub))
    (hpacket : RelayServer.radioTxBroadcastPacket sender active freq range sub = .ok payload) :
    Conveys server data remote payload := by
  intro callback hfired
  have hsum : (encodeUtf8 freq).length + (encodeUtf8 sub).length ≤
      maxFreqLength + maxSubtypeLength := by
    by_contra hlong
    obtain ⟨e, he⟩ := @RelayServer.radioTxBroadcastPacket_overflow sender active freq range sub
      (Nat.lt_of_not_le hlong)
    rw [he] at hpacket
    cases hpacket
  rw [RelayServer.radioTxBroadcastPacket_eq hsum] at hpacket
  simp only [maxFreqLength, maxSubtypeLength] at hsum
  rw [← Except.ok.inj hpacket, handlePacket_radioTxBroadcastBytes _ _ _ (by omega) (by omega)]
    at hfired
  split at hfired
  · cases hfired
    exact Told.radioTx sender reader active freq range sub hsender hdata hread
  · cases hfired

end Conveys

namespace RelayServer

theorem code_of_ofCode {packetType : UInt8} {t : PacketType}
    (h : PacketType.ofCode packetType = some t) : packetType = t.code := by
  have hcode : t.code = packetType := by simpa using List.find?_some h
  exact hcode.symm

private theorem holds_of_mem_values {server : RelayServer} (hw : server.WellKept)
    {s : ClientSession}
    (h : s ∈ server.tables.sessionsById.values) : server.tables.Holds s :=
  Or.inr (Or.inl ((hw.keyed.mem_values s).mp h))

theorem holds_of_lookup {server : RelayServer} (hw : server.WellKept) {remote : IPEndPoint}
    {s : ClientSession} (h : server.tables.sessionsByEndPoint.lookup remote = some s) :
    server.tables.Holds s := by
  apply Or.inl
  rw [hw.keyed.endPoint remote s h]
  exact h

private theorem holds_of_holds_dropStale {server : RelayServer} (hw : server.WellKept) {uid : Text}
    {s : ClientSession} (h : (server.dropStale uid).tables.Holds s) : server.tables.Holds s := by
  rcases dropStale_tables hw.keyed uid with ⟨htables, _⟩ | ⟨stale, _, htables⟩
  · rw [htables] at h
    exact h
  · rw [htables] at h
    exact holds_of_holds_removeKeys h

/-- A datagram adds at most the session it creates to the tables. -/
theorem holds_handlePacket {server : RelayServer} (hw : server.WellKept) {now : Int}
    {order : SessionOrder} {data : Bytes} {remote : IPEndPoint} {s : ClientSession}
    (h : (server.handlePacket now order data remote).server.tables.Holds s) :
    server.tables.Holds s ∨ server.accepted data remote = some s := by
  rcases server.handlePacket_server_cases now order data remote with
    ⟨uid, name, hadmitted, hserver⟩ | ⟨_, session, hlookup, hserver⟩ | ⟨_, seen, sequence, hserver⟩
  · rw [hserver, admitClient_server] at h
    cases hfull : (server.dropStale uid).isFull with
    | true =>
      rw [hfull] at h
      exact Or.inl (holds_of_holds_dropStale hw h)
    | false =>
      rw [hfull] at h
      by_cases hs : s = (server.dropStale uid).newSession remote uid name
      · apply Or.inr
        simp only [accepted, hadmitted, hfull, hs]
        rfl
      · obtain ⟨hE, hI, hU⟩ := SessionTables.lookups_put (server.dropStale uid).tables _ s hs
        have hold : (server.dropStale uid).tables.Holds s := by
          rcases h with h | h | h
          · exact Or.inl (hE.mp h).2
          · exact Or.inr (Or.inl (hI.mp h).2)
          · exact Or.inr (Or.inr (hU.mp h).2)
        exact Or.inl (holds_of_holds_dropStale hw hold)
  · rw [hserver, ← hw.keyed.endPoint remote session hlookup] at h
    exact Or.inl (holds_of_holds_removeKeys (x := session) h)
  · rw [hserver] at h
    exact Or.inl h

theorem wellKept_handlePacket {server : RelayServer} (hw : server.WellKept) (now : Int)
    (order : SessionOrder) (data : Bytes) (remote : IPEndPoint) :
    (server.handlePacket now order data remote).server.WellKept :=
  Relay.wellKept_step { server } (.datagram now order data remote) hw

theorem nextSessionId_handlePacket (server : RelayServer) (now : Int) (order : SessionOrder)
    (data : Bytes) (remote : IPEndPoint) :
    (server.handlePacket now order data remote).server.nextSessionId =
      match server.accepted data remote with
      | none => server.nextSessionId
      | some _ => server.nextSessionId + 1 := by
  rcases server.handlePacket_server_cases now order data remote with
    ⟨uid, name, hadmitted, hserver⟩ | ⟨hadmitted, session, _, hserver⟩ |
      ⟨hadmitted, seen, sequence, hserver⟩
  · rw [hserver, admitClient_server]
    simp only [accepted, hadmitted]
    cases (server.dropStale uid).isFull with
    | true => exact server.dropStale_nextSessionId uid
    | false =>
      show (server.dropStale uid).nextSessionId + 1 = server.nextSessionId + 1
      rw [server.dropStale_nextSessionId uid]
  · rw [hserver]
    simp only [accepted, hadmitted]
  · rw [hserver]
    simp only [accepted, hadmitted]

private theorem mem_sendRoster {server : RelayServer} {order : SessionOrder} {remote : IPEndPoint}
    {session : ClientSession} {d : Datagram}
    (h : d ∈ (server.sendRoster order remote session).sent) :
    ∃ subject ∈ server.tables.sessionsById.values, clientJoinedPacket subject = .ok d.payload := by
  obtain ⟨existing, hexisting, hd⟩ := Sends.mem_each_sent h
  split at hd
  · cases hd
  · exact ⟨existing, (order.mem_arrange _ _).mp hexisting, (mem_sendClientJoined.mp hd).2⟩

private theorem mem_broadcastClientJoined {server : RelayServer} {order : SessionOrder}
    {subject : ClientSession} {except : Option UInt32} {d : Datagram}
    (h : d ∈ (server.broadcastClientJoined order subject except).sent) :
    clientJoinedPacket subject = .ok d.payload := by
  obtain ⟨target, _, hd⟩ := Sends.mem_each_sent h
  split at hd
  · cases hd
  · split at hd
    · cases hd
    · exact (mem_sendClientJoined.mp hd).2

private theorem mem_relayToOthers {server : RelayServer} {order : SessionOrder}
    {sender : ClientSession}
    {packet : Bytes} {d : Datagram} (h : d ∈ (server.relayToOthers order sender packet).sent) :
    d.payload = packet := by
  obtain ⟨target, _, _, hd⟩ := (server.relayToOthers_sent order sender packet d).mp h
  rw [hd]

private theorem admitClient_conveys {server : RelayServer} (hw : server.WellKept) {now : Int}
    {order : SessionOrder} {data : Bytes} {remote : IPEndPoint} {uid name : Text}
    (hadmitted : server.admitted data = some (uid, name)) {d : Datagram}
    (h : d ∈ (server.admitClient now order remote uid name).sent) :
    Conveys server data remote d.payload := by
  have hleft : ∀ d ∈ (server.announceStale order uid).sent,
      Conveys server data remote d.payload := by
    intro d hd
    exact Conveys.of_kind (announceStale_kind hd) (by decide)
  -- whoever is in the tables after the request was there before or is new
  have hstored : ∀ s,
      s ∈ (server.handlePacket now order data remote).server.tables.sessionsById.values →
      server.tables.Holds s ∨ server.accepted data remote = some s := by
    intro s hs
    exact holds_handlePacket hw
      (holds_of_mem_values (wellKept_handlePacket hw now order data remote) hs)
  rw [handlePacket_admitted hadmitted, admitClient_server] at hstored
  simp only [admitClient, announceStale_thrown, Option.isSome_none, Bool.false_eq_true,
    if_false] at h
  cases hfull : (server.dropStale uid).isFull with
  | true =>
    rw [hfull, if_pos rfl] at h
    rcases Sends.mem_andThen_sent h with h | h
    · exact hleft d h
    · rw [sendReject_eq] at h
      rw [List.mem_singleton.mp h]
      exact Conveys.of_kind rfl (t := .connectReject) (by decide)
  | false =>
    rw [hfull] at h hstored
    rcases Sends.mem_andThen_sent h with h | h
    · exact hleft d h
    · rcases Sends.mem_andThen_sent h with h | h
      · obtain ⟨fields, haccept⟩ := sendAccept_eq ((server.dropStale uid).register now
          ((server.dropStale uid).newSession remote uid name))
          ((server.dropStale uid).newSession remote uid name)
        rw [haccept] at h
        rw [List.mem_singleton.mp h]
        exact Conveys.of_kind rfl (t := .connectAccept) (by decide)
      · rcases Sends.mem_andThen_sent h with h | h
        · obtain ⟨subject, hsubject, hpacket⟩ := mem_sendRoster h
          exact Conveys.joined (hstored subject hsubject) hpacket
        · refine Conveys.joined (Or.inr ?_) (mem_broadcastClientJoined h)
          simp only [accepted, hadmitted, hfull]
          rfl

/-- Whatever a datagram makes the relay send is about the session it comes from, about one that is
registered, or about nobody. -/
theorem handlePacket_conveys {server : RelayServer} (hw : server.WellKept) {now : Int}
    {order : SessionOrder} {data : Bytes} {remote : IPEndPoint} {d : Datagram}
    (h : d ∈ (server.handlePacket now order data remote).sent) :
    Conveys server data remote d.payload := by
  cases hadmitted : server.admitted data with
  | some identity =>
    obtain ⟨uid, name⟩ := identity
    rw [handlePacket_admitted hadmitted] at h
    exact admitClient_conveys hw hadmitted h
  | none =>
    cases data with
    | nil => cases h
    | cons packetType reader =>
      simp only [handlePacket] at h
      split at h
      case h_1 htype =>
        simp only [admitted, htype, if_true] at hadmitted
        simp only [handleConnectRequest] at h
        split at h
        · cases h
        · rename_i reason _
          rw [sends, sendReject_eq] at h
          rw [List.mem_singleton.mp h]
          exact Conveys.of_kind rfl (t := .connectReject) (by decide)
        · rename_i hverdict
          simp [hverdict] at hadmitted
      case h_2 =>
        simp only [handleRosterRequest] at h
        split at h
        · cases h
        · obtain ⟨subject, hsubject, hpacket⟩ := mem_sendRoster h
          exact Conveys.joined (Or.inl (holds_of_mem_values hw hsubject)) hpacket
      case h_3 =>
        simp only [handlePing] at h
        split at h
        · cases h
        · split at h
          · cases h
          · rw [List.mem_singleton.mp h]
            exact Conveys.of_kind rfl (t := .pong) (by decide)
      case h_4 htype =>
        simp only [handleVoiceUp] at h
        split at h
        · cases h
        · rename_i sender hsender
          split at h
          · cases h
          · rename_i sequence flags opus hread
            split at h
            · cases h
            · rename_i hshort
              rw [voiceDownPacket_eq sender sequence flags (Nat.le_of_not_lt hshort)] at h
              exact Conveys.voice hsender (by rw [code_of_ofCode htype]) hread
                (mem_relayToOthers h)
      case h_5 htype =>
        simp only [handleRadioTxUpdate] at h
        split at h
        · cases h
        · rename_i sender hsender
          split at h
          · cases h
          · cases h
          · rename_i active freq range sub hread
            split at h
            · cases h
            · rename_i packet hpacket
              apply Conveys.radioTx hsender (by rw [code_of_ofCode htype]) hread
              rw [mem_relayToOthers h]
              exact hpacket
      case h_6 =>
        simp only [handleDisconnect] at h
        split at h
        · cases h
        · exact Conveys.of_kind (broadcastClientLeft_kind h) (by decide)
      case h_7 => cases h

end RelayServer

end TaskForceRadio.VoiceServer
