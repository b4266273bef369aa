import TaskForceRadio.Client.VoiceNetworkClient
import TaskForceRadio.Relay.Sweep

/-!
# One client against the relay

A client with its connection loop, the datagrams it has sent, and the relay. A datagram on the
wire can reach the relay at any time, any number of times or never. The relay knows a returning
client by its uid alone, and the client never says goodbye.
-/

set_option autoImplicit false

namespace TaskForceRadio

open VoiceServer Voice

/-- `mine` are the sessions the relay created for requests of this client, newest first. -/
structure ClientWorld where
  client : VoiceNetworkClient := {}
  wire : List (IPEndPoint × Bytes) := []
  server : RelayServer
  mine : List ClientSession := []

inductive WorldEvent where
  | setServer (host : Bytes) (port : UInt16) (password : Bytes)
  | setIdentity (uid name : Bytes)
  | iterate (io : LoopIo)
  | sendVoiceFrame (opus : Bytes) (isLast : Bool)
  | sendRadioTx (active : Bool) (freq : Bytes) (range : UInt16) (sub : Bytes)
  | deliver (index : Nat) (now : Int) (order : SessionOrder)
  | others (now : Int) (order : SessionOrder) (data : Bytes) (remote : IPEndPoint)

namespace ClientWorld

section Steps
variable (portOf : Nat → IPEndPoint)

/-- Put what the client sends on the wire; `portOf` is the endpoint the relay sees for a
socket. -/
def transmit (w : ClientWorld) (client : VoiceNetworkClient) (sent : List (Nat × Bytes)) :
    ClientWorld :=
  { w with client, wire := w.wire ++ sent.map (fun p => (portOf p.1, p.2)) }

def step (w : ClientWorld) : WorldEvent → ClientWorld
  | .setServer host port password => { w with client := w.client.setServer host port password }
  | .setIdentity uid name => { w with client := w.client.setIdentity uid name }
  | .iterate io =>
      let o := w.client.iterate io
      w.transmit portOf o.client o.sent
  | .sendVoiceFrame opus isLast =>
      let (client, sent) := w.client.sendVoiceFrame opus isLast
      w.transmit portOf client sent
  | .sendRadioTx active freq range sub =>
      w.transmit portOf w.client (w.client.sendRadioTx active freq range sub)
  | .deliver index now order =>
      match w.wire[index]? with
      | none => w
      | some (remote, data) =>
          { w with
            server := (w.server.handlePacket now order data remote).server
            mine := (w.server.accepted data remote).toList ++ w.mine }
  | .others now order data remote =>
      { w with server := (w.server.handlePacket now order data remote).server }

end Steps

def start (options : ServerOptions) (expectedPasswordHash : Bytes) (serverVersion : Text) :
    ClientWorld where
  server := { options, expectedPasswordHash, serverVersion }

/-- No session of the client but the newest is left, so nobody hears of two. -/
structure OneLiveSession (w : ClientWorld) : Prop where
  retired : ∀ newest earlier, w.mine = newest :: earlier →
    ∀ s ∈ earlier, s ∉ w.server.tables.sessionsById.values
  single : ∀ s ∈ w.mine, ∀ s' ∈ w.mine, s ∈ w.server.tables.sessionsById.values →
    s' ∈ w.server.tables.sessionsById.values → s = s'

/-- A request of the client is accepted under the uid of every session it still has. -/
def ReturnsUnderItsUid (w : ClientWorld) : WorldEvent → Prop
  | .deliver index _ _ =>
      match w.wire[index]? with
      | none => True
      | some (remote, data) =>
          match w.server.accepted data remote with
          | none => True
          | some session =>
              ∀ s ∈ w.mine, s ∈ w.server.tables.sessionsById.values → s.uid = session.uid
  | _ => True

instance (w : ClientWorld) (e : WorldEvent) : Decidable (w.ReturnsUnderItsUid e) := by
  unfold ReturnsUnderItsUid
  split
  · split
    · infer_instance
    · split <;> infer_instance
  · infer_instance

/-- What a run of the world keeps. -/
structure Sound (w : ClientWorld) : Prop where
  linked : RelayThreads.Linked { server := w.server }
  spent : ∀ s ∈ w.mine, s.obj < w.server.nextObj
  retired : ∀ newest earlier, w.mine = newest :: earlier →
    ∀ s ∈ earlier, s ∉ w.server.tables.sessionsById.values

private theorem Sound.oneLiveSession {w : ClientWorld} (h : w.Sound) : w.OneLiveSession := by
  refine ⟨h.retired, ?_⟩
  intro s hs s' hs' hlive hlive'
  cases hmine : w.mine with
  | nil =>
    rw [hmine] at hs
    cases hs
  | cons newest earlier =>
    have hnewest : ∀ x ∈ w.mine, x ∈ w.server.tables.sessionsById.values → x = newest := by
      intro x hx hxLive
      rw [hmine] at hx
      rcases List.mem_cons.mp hx with heq | hearlier
      · exact heq
      · exact absurd hxLive (h.retired newest earlier hmine x hearlier)
    rw [hnewest s hs hlive, hnewest s' hs' hlive']

theorem accepted_eq {server : RelayServer} {data : Bytes} {remote : IPEndPoint}
    {session : ClientSession} (h : server.accepted data remote = some session) :
    ∃ name, server.admitted data = some (session.uid, name) ∧
      (server.dropStale session.uid).isFull = false ∧
      session = (server.dropStale session.uid).newSession remote session.uid name := by
  simp only [RelayServer.accepted] at h
  split at h
  · cases h
  · rename_i uid name hadmitted
    split at h
    · cases h
    · rename_i hfull
      rw [← Option.some.inj h]
      exact ⟨name, hadmitted, Bool.eq_false_of_not_eq_true hfull, rfl⟩

theorem accepted_obj {server : RelayServer} {data : Bytes} {remote : IPEndPoint}
    {session : ClientSession} (h : server.accepted data remote = some session) :
    session.obj = server.nextObj := by
  obtain ⟨name, _, _, heq⟩ := accepted_eq h
  rw [heq]
  exact server.dropStale_nextObj session.uid

theorem nextObj_handlePacket (server : RelayServer) (now : Int) (order : SessionOrder)
    (data : Bytes) (remote : IPEndPoint) :
    (server.handlePacket now order data remote).server.nextObj =
      server.nextObj + (server.accepted data remote).toList.length := by
  rcases server.handlePacket_server_cases now order data remote with
    ⟨uid, name, hadmitted, hserver⟩ | ⟨hadmitted, session, _, hserver⟩ |
      ⟨hadmitted, seen, sequence, hserver⟩
  · rw [hserver, RelayServer.admitClient_server]
    simp only [RelayServer.accepted, hadmitted]
    cases (server.dropStale uid).isFull with
    | true => exact server.dropStale_nextObj uid
    | false =>
      show (server.dropStale uid).nextObj + 1 = server.nextObj + 1
      rw [server.dropStale_nextObj uid]
  · rw [hserver]
    simp only [RelayServer.accepted, hadmitted]
    rfl
  · rw [hserver]
    simp only [RelayServer.accepted, hadmitted]
    rfl

private theorem not_mem_of_same_uid {server : RelayServer}
    (hlinked : RelayThreads.Linked { server })
    {data : Bytes} {remote : IPEndPoint} {session s : ClientSession}
    (haccepted : server.accepted data remote = some session)
    (huid : s ∈ server.tables.sessionsById.values → s.uid = session.uid)
    (hobj : s.obj < server.nextObj) (now : Int) (order : SessionOrder) :
    s ∉ (server.handlePacket now order data remote).server.tables.sessionsById.values := by
  obtain ⟨name, hadmitted, hfull, heq⟩ := accepted_eq haccepted
  have hne : s ≠ session := by
    intro h
    rw [h, accepted_obj haccepted] at hobj
    exact Nat.lt_irrefl _ hobj
  -- the stale session of the uid is `s` itself, if `s` is stored at all
  have hdropped : s ∉ (server.dropStale session.uid).tables.sessionsById.values := by
    intro hdrop
    have hlive := RelayServer.mem_values_of_dropStale hdrop
    have hlookup := (hlinked.keyed.mem_values s).mp hlive
    have hbyUid : server.tables.sessionsByUid.lookup session.uid = some s := by
      rcases hlinked.byId s hlookup with h | h
      · rw [← huid hlive]
        exact h
      · cases h
    simp only [RelayServer.dropStale, hbyUid] at hdrop
    rw [((hlinked.keyed.removeUid _).removeEndPoint _ |>.removeId _).mem_values,
      SessionTables.lookup_removeId, if_pos rfl] at hdrop
    cases hdrop
  intro hlive
  rw [RelayServer.handlePacket_admitted hadmitted, RelayServer.admitClient_server, hfull,
    ← heq] at hlive
  obtain ⟨k, hk⟩ := (Dictionary.mem_values _ _).mp hlive
  have hput : ((server.dropStale session.uid).tables.putId session).sessionsById.lookup k =
    some s := hk
  rw [SessionTables.lookup_putId] at hput
  split at hput
  · exact hne (Option.some.inj hput).symm
  · exact hdropped ((Dictionary.mem_values _ _).mpr ⟨k, hput⟩)

private theorem sound_others {w : ClientWorld} (h : w.Sound) (now : Int) (order : SessionOrder)
    (data : Bytes) (remote : IPEndPoint) :
    Sound { w with server := (w.server.handlePacket now order data remote).server } where
  linked := RelayThreads.linked_handlePacket h.linked now order data remote
  spent := by
    intro s hs
    have hspent := h.spent s hs
    rw [nextObj_handlePacket]
    omega
  retired := by
    intro newest earlier hmine s hs hlive
    rcases RelayServer.mem_values_handlePacket hlive with hold | hnew
    · exact h.retired newest earlier hmine s hs hold
    · have hmem : s ∈ w.mine := by
        have hcons : w.mine = newest :: earlier := hmine
        rw [hcons]
        exact List.mem_cons_of_mem _ hs
      have hspent := h.spent s hmem
      rw [accepted_obj hnew] at hspent
      exact Nat.lt_irrefl _ hspent

theorem sound_step (portOf : Nat → IPEndPoint) (w : ClientWorld) (e : WorldEvent) (h : w.Sound)
    (hreturns : w.ReturnsUnderItsUid e) :
    (w.step portOf e).Sound := by
  cases e with
  | setServer host port password => exact ⟨h.linked, h.spent, h.retired⟩
  | setIdentity uid name => exact ⟨h.linked, h.spent, h.retired⟩
  | iterate io => exact ⟨h.linked, h.spent, h.retired⟩
  | sendVoiceFrame opus isLast => exact ⟨h.linked, h.spent, h.retired⟩
  | sendRadioTx active freq range sub => exact ⟨h.linked, h.spent, h.retired⟩
  | others now order data remote => exact sound_others h now order data remote
  | deliver index now order =>
    simp only [ReturnsUnderItsUid] at hreturns
    simp only [step]
    cases hwire : w.wire[index]? with
    | none => exact h
    | some packet =>
      obtain ⟨remote, data⟩ := packet
      rw [hwire] at hreturns
      dsimp only at hreturns ⊢
      cases haccepted : w.server.accepted data remote with
      | none => exact sound_others h now order data remote
      | some session =>
        rw [haccepted] at hreturns
        dsimp only at hreturns
        have hnext := nextObj_handlePacket w.server now order data remote
        rw [haccepted] at hnext
        refine ⟨RelayThreads.linked_handlePacket h.linked now order data remote, ?_, ?_⟩
        · intro s hs
          show s.obj < (w.server.handlePacket now order data remote).server.nextObj
          rw [hnext]
          rcases List.mem_cons.mp hs with heq | hold
          · rw [heq, accepted_obj haccepted]
            exact Nat.lt_succ_self _
          · exact Nat.lt_succ_of_lt (h.spent s hold)
        · intro newest earlier hmine s hs
          have htail : w.mine = earlier := (List.cons.inj hmine).2
          have hold : s ∈ w.mine := by
            rw [htail]
            exact hs
          exact not_mem_of_same_uid h.linked haccepted (hreturns s hold) (h.spent s hold) now order

theorem sound_start (options : ServerOptions) (hash : Bytes) (version : Text) :
    (start options hash version).Sound where
  linked := RelayThreads.linked_start options hash version
  spent := by
    intro s hs
    cases hs
  retired := by
    intro newest earlier hmine
    cases hmine

/-- In every run in which the client is accepted only under the uid of the sessions it still
has, at most its newest session is alive in every state. -/
theorem oneLiveSession_of_returnsUnderItsUid (portOf : Nat → IPEndPoint)
    (options : ServerOptions) (hash : Bytes) (version : Text) (history : List WorldEvent)
    (hreturns : Guarded (step portOf) ReturnsUnderItsUid (start options hash version) history) :
    Throughout (step portOf) OneLiveSession (start options hash version) history := by
  have hsound := throughout_of_guarded (sound_start options hash version) (sound_step portOf)
    hreturns
  exact hsound.imp fun w h => h.oneLiveSession

/-- A handshake over a socket that the relay answers with a session id. -/
def handshakeIo (socket : Nat) (sessionId : UInt32) (at_ : Time) : LoopIo where
  passwordHash := some ⟨emptyPasswordHash, length_emptyPasswordHash⟩
  attempts := [.sent socket [PacketType.connectAccept.code :: (littleEndian32 sessionId ++
    littleEndian16 300 ++ [0] ++ string8 (ascii "1"))]]
  connectedAt := at_
  now := at_

/-- The client connects under its nickname and again when its uid becomes known. -/
def resolveUid : List WorldEvent :=
  [.deliver 1 10 .stored,
    .iterate (handshakeIo 1 2 (seconds 1)),
    .setIdentity (ascii "76561198000000000") (ascii "Ann"),
    .deliver 0 0 .stored,
    .iterate (handshakeIo 0 1 0),
    .setIdentity (ascii "Ann") (ascii "Ann"),
    .setServer (ascii "relay") 9987 []]

/-- Its session under the nickname is still alive. -/
theorem nickname_session_survives :
    ¬ Throughout (step fun socket => ⟨1, UInt16.ofNat (5000 + socket)⟩) OneLiveSession
      (start {} emptyPasswordHash ['1']) resolveUid := by
  intro h
  have hone := h.last.single ⟨0, 1, ⟨1, 5000⟩, "Ann".toList, "Ann".toList⟩ (by decide)
    ⟨1, 2, ⟨1, 5001⟩, "76561198000000000".toList, "Ann".toList⟩ (by decide) (by decide)
    (by decide)
  exact absurd hone (by decide)

/-- The same client, connecting again under its nickname after the server fell silent. -/
theorem same_uid_one_session :
    Throughout (step fun socket => ⟨1, UInt16.ofNat (5000 + socket)⟩) OneLiveSession
      (start {} emptyPasswordHash ['1'])
      [.deliver 3 300000000 .stored,
        .iterate (handshakeIo 1 2 (seconds 30)),
        .iterate { now := seconds 20 },
        .deliver 0 0 .stored,
        .iterate (handshakeIo 0 1 0),
        .setIdentity (ascii "Ann") (ascii "Ann"),
        .setServer (ascii "relay") 9987 []] :=
  oneLiveSession_of_returnsUnderItsUid _ {} emptyPasswordHash ['1'] _ (by decide)

end ClientWorld

end TaskForceRadio
