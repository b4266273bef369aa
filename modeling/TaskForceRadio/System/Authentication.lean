import TaskForceRadio.Relay.Sweep
import TaskForceRadio.System.Roster

/-!
# Unauthenticated traffic

Whoever has not sent a ConnectRequest with the right version and password gets nothing but
rejects, and changes nothing.
-/

set_option autoImplicit false

namespace TaskForceRadio.VoiceServer

/-- A ConnectRequest with the expected version and password hash, whatever follows them. -/
def carriesCredentials (expectedPasswordHash data : Bytes) : Bool :=
  match data with
  | packetType :: version :: rest =>
      packetType == PacketType.connectRequest.code && version == versionMajor &&
        decide (32 ≤ rest.length) && rest.take 32 == expectedPasswordHash
  | _ => false

/-- The packet is a ConnectReject. -/
def isReject (payload : Bytes) : Bool := payload.head? == some PacketType.connectReject.code

namespace RelayServer

private theorem ofCode_connectRequest {packetType : UInt8}
    (h : PacketType.ofCode packetType = some .connectRequest) :
    packetType = PacketType.connectRequest.code := by
  have hcode : PacketType.connectRequest.code = packetType := by
    simpa using List.find?_some h
  exact hcode.symm

private theorem connectVerdict_proceed {server : RelayServer} {reader : Bytes} {uid name : Text}
    (h : server.connectVerdict reader = .ok (.proceed uid name)) :
    uid ≠ [] ∧ ∃ rest, reader = versionMajor :: rest ∧ 32 ≤ rest.length ∧
      rest.take 32 = server.expectedPasswordHash := by
  simp only [connectVerdict] at h
  cases reader with
  | nil => cases h
  | cons version rest =>
    simp only [PacketReader.readByte] at h
    split at h
    · cases h
    · rename_i hversion
      split at h
      · cases h
      · rename_i hlength
        split at h
        · cases h
        · cases h
        · split at h
          · cases h
          · rename_i huid
            split at h
            · cases h
            · rename_i hhash
              cases h
              have hversion' : version = versionMajor := by simpa using hversion
              exact ⟨huid, rest, by rw [hversion'], Nat.not_lt.mp hlength, not_not.mp hhash⟩

private theorem carriesCredentials_of_admitted {server : RelayServer} {data : Bytes}
    {uid name : Text}
    (h : server.admitted data = some (uid, name)) :
    carriesCredentials server.expectedPasswordHash data = true ∧ uid ≠ [] := by
  cases data with
  | nil => cases h
  | cons packetType reader =>
    simp only [admitted] at h
    split at h
    · rename_i htype
      split at h
      · rename_i u n hverdict
        cases h
        obtain ⟨huid, rest, rfl, hlength, hhash⟩ := connectVerdict_proceed hverdict
        refine ⟨?_, huid⟩
        simp [carriesCredentials, ofCode_connectRequest htype, hlength, hhash]
      · cases h
    · cases h

private theorem sendReject_isReject {remote : IPEndPoint} {reason : ConnectRejectReason}
    {d : Datagram}
    (h : d ∈ (sendReject remote reason).sent) :
    isReject d.payload = true ∧ d.target = remote := by
  cases reason <;> (rw [List.mem_singleton.mp h]; exact ⟨rfl, rfl⟩)

private theorem mem_one_sent {target : IPEndPoint} {packet : Except DotNetException Bytes}
    {d : Datagram}
    (h : d ∈ (Sends.one target packet).sent) : d.target = target := by
  cases packet with
  | error e => cases h
  | ok payload => rw [List.mem_singleton.mp h]

private theorem mem_loop_sent {server : RelayServer} {order : SessionOrder}
    {send : ClientSession → Sends} {d : Datagram}
    (hsend : ∀ session, ∀ d ∈ (send session).sent, d.target = session.endPoint)
    (h : d ∈ (Sends.each send (server.sessions order)).sent) :
    ∃ session ∈ server.tables.sessionsById.values, d.target = session.endPoint := by
  obtain ⟨session, hsession, hd⟩ := Sends.mem_each_sent h
  exact ⟨session, (order.mem_arrange _ _).mp hsession, hsend session d hd⟩

private theorem broadcastClientLeft_target {server : RelayServer} {order : SessionOrder}
    {sessionId : UInt32} {except : Option UInt32} {d : Datagram}
    (h : d ∈ (server.broadcastClientLeft order sessionId except).sent) :
    ∃ session ∈ server.tables.sessionsById.values, d.target = session.endPoint := by
  rw [broadcastClientLeft, clientLeftPacket_eq] at h
  refine mem_loop_sent (fun session d hd => ?_) h
  split at hd
  · cases hd
  · rw [List.mem_singleton.mp hd]

private theorem relayToOthers_target {server : RelayServer} {order : SessionOrder}
    {sender : ClientSession}
    {packet : Bytes} {d : Datagram} (h : d ∈ (server.relayToOthers order sender packet).sent) :
    ∃ session ∈ server.tables.sessionsById.values, d.target = session.endPoint := by
  refine mem_loop_sent (fun session d hd => ?_) h
  split at hd
  · cases hd
  · rw [List.mem_singleton.mp hd]

private theorem broadcastClientJoined_target {server : RelayServer} {order : SessionOrder}
    {subject : ClientSession} {except : Option UInt32} {d : Datagram}
    (h : d ∈ (server.broadcastClientJoined order subject except).sent) :
    ∃ session ∈ server.tables.sessionsById.values, d.target = session.endPoint := by
  refine mem_loop_sent (fun session d hd => ?_) h
  split at hd
  · cases hd
  · split at hd
    · cases hd
    · exact mem_one_sent hd

private theorem sendRoster_target {server : RelayServer} {order : SessionOrder}
    {remote : IPEndPoint}
    {session : ClientSession} {d : Datagram}
    (h : d ∈ (server.sendRoster order remote session).sent) : d.target = remote := by
  obtain ⟨existing, -, hd⟩ := Sends.mem_each_sent h
  split at hd
  · cases hd
  · exact mem_one_sent hd

/-- The endpoints a datagram can be answered or passed on to: live sessions, and the sender if it
has a session or is getting one. -/
def Addressed (server : RelayServer) (data : Bytes) (remote target : IPEndPoint) : Prop :=
  (∃ session ∈ server.tables.sessionsById.values, target = session.endPoint) ∨
    target = remote ∧ ((server.tables.sessionsByEndPoint.lookup remote).isSome ∨
      (server.admitted data).isSome)

private theorem admitClient_target {server : RelayServer} {now : Int} {order : SessionOrder}
    {remote : IPEndPoint} {uid name : Text} {d : Datagram}
    (h : d ∈ (server.admitClient now order remote uid name).sent) :
    isReject d.payload = true ∨
      (∃ session ∈ server.tables.sessionsById.values, d.target = session.endPoint) ∨
        d.target = remote := by
  have hleft : ∀ d ∈ (server.announceStale order uid).sent,
      ∃ session ∈ server.tables.sessionsById.values, d.target = session.endPoint := by
    intro d hd
    simp only [announceStale] at hd
    split at hd
    · cases hd
    · obtain ⟨session, hsession, htarget⟩ := broadcastClientLeft_target hd
      exact ⟨session, mem_values_of_dropStale hsession, htarget⟩
  simp only [admitClient, announceStale_thrown, Option.isSome_none, Bool.false_eq_true,
    if_false] at h
  split at h
  · rcases Sends.mem_andThen_sent h with h | h
    · exact Or.inr (Or.inl (hleft d h))
    · exact Or.inl (sendReject_isReject h).1
  · rcases Sends.mem_andThen_sent h with h | h
    · exact Or.inr (Or.inl (hleft d h))
    · apply Or.inr
      rcases Sends.mem_andThen_sent h with h | h
      · exact Or.inr (mem_one_sent h)
      · rcases Sends.mem_andThen_sent h with h | h
        · exact Or.inr (sendRoster_target h)
        · obtain ⟨session, hsession, htarget⟩ := broadcastClientJoined_target h
          obtain ⟨k, hk⟩ := (Dictionary.mem_values _ _).mp hsession
          have hput : ((server.dropStale uid).tables.putId
              ((server.dropStale uid).newSession remote uid name)).sessionsById.lookup k =
              some session := hk
          rw [SessionTables.lookup_putId] at hput
          split at hput
          · right
            rw [htarget, ← Option.some.inj hput]
            rfl
          · left
            have hvalues := (Dictionary.mem_values _ _).mpr ⟨k, hput⟩
            exact ⟨session, mem_values_of_dropStale hvalues, htarget⟩

private theorem handlePacket_target {server : RelayServer} {now : Int} {order : SessionOrder}
    {data : Bytes} {remote : IPEndPoint} {d : Datagram}
    (h : d ∈ (server.handlePacket now order data remote).sent) :
    isReject d.payload = true ∨ server.Addressed data remote d.target := by
  cases hadmitted : server.admitted data with
  | some identity =>
    obtain ⟨uid, name⟩ := identity
    rw [handlePacket_admitted hadmitted] at h
    rcases admitClient_target h with h | h | h
    · exact Or.inl h
    · exact Or.inr (Or.inl h)
    · exact Or.inr (Or.inr ⟨h, Or.inr (by rw [hadmitted]; rfl)⟩)
  | none =>
    cases data with
    | nil => cases h
    | cons packetType reader =>
      simp only [handlePacket] at h
      split at h
      case h_1 htype =>
        simp only [admitted, htype, if_true] at hadmitted
        simp only [handleConnectRequest] at h
        split at h
        · cases h
        · exact Or.inl (sendReject_isReject h).1
        · rename_i hverdict
          simp [hverdict] at hadmitted
      case h_2 =>
        simp only [handleRosterRequest] at h
        split at h
        · cases h
        · rename_i requester hlookup
          exact Or.inr (Or.inr ⟨sendRoster_target h, Or.inl (by rw [hlookup]; rfl)⟩)
      case h_3 =>
        simp only [handlePing] at h
        split at h
        · cases h
        · split at h
          · cases h
          · rename_i session hlookup
            exact Or.inr (Or.inr ⟨mem_one_sent h, Or.inl (by rw [hlookup]; rfl)⟩)
      case h_4 =>
        obtain ⟨-, -, target, htarget, -, hd⟩ := handleVoiceUp_sent h
        exact Or.inr (Or.inl ⟨target, htarget, hd⟩)
      case h_5 =>
        simp only [handleRadioTxUpdate] at h
        split at h
        · cases h
        · split at h
          · cases h
          · cases h
          · split at h
            · cases h
            · exact Or.inr (Or.inl (relayToOthers_target h))
      case h_6 =>
        simp only [handleDisconnect] at h
        split at h
        · cases h
        · obtain ⟨session, hsession, htarget⟩ := broadcastClientLeft_target h
          exact Or.inr (Or.inl ⟨session, mem_values_of_removeId hsession, htarget⟩)
      case h_7 => cases h

private theorem handlePacket_inert {server : RelayServer} {data : Bytes} {remote : IPEndPoint}
    (hunknown : server.tables.sessionsByEndPoint.lookup remote = none)
    (hadmitted : server.admitted data = none) (now : Int) (order : SessionOrder) :
    (server.handlePacket now order data remote).server = server ∧
      ((server.handlePacket now order data remote).sent = [] ∨
        ∃ d, (server.handlePacket now order data remote).sent = [d] ∧ d.target = remote ∧
          isReject d.payload = true) := by
  cases data with
  | nil => exact ⟨rfl, Or.inl rfl⟩
  | cons packetType reader =>
    simp only [handlePacket]
    split
    case h_1 htype =>
      simp only [admitted, htype, if_true] at hadmitted
      simp only [handleConnectRequest]
      split
      · exact ⟨rfl, Or.inl rfl⟩
      · rename_i reason hverdict
        refine ⟨rfl, Or.inr ?_⟩
        cases reason <;> exact ⟨_, rfl, rfl, rfl⟩
      · rename_i hverdict
        simp [hverdict] at hadmitted
    case h_2 =>
      rw [handleRosterRequest, hunknown]
      exact ⟨rfl, Or.inl rfl⟩
    case h_3 =>
      rw [handlePing, hunknown]
      split <;> exact ⟨rfl, Or.inl rfl⟩
    case h_4 =>
      rw [handleVoiceUp, hunknown]
      exact ⟨rfl, Or.inl rfl⟩
    case h_5 =>
      rw [handleRadioTxUpdate, hunknown]
      exact ⟨rfl, Or.inl rfl⟩
    case h_6 =>
      rw [handleDisconnect, hunknown]
      exact ⟨rfl, Or.inl rfl⟩
    case h_7 => exact ⟨rfl, Or.inl rfl⟩

end RelayServer

/-- The endpoint has sent a ConnectRequest with the right version and password. -/
def HeardCredentials (expectedPasswordHash : Bytes) (received : List (Bytes × IPEndPoint))
    (endPoint : IPEndPoint) : Prop :=
  ∃ data, (data, endPoint) ∈ received ∧ carriesCredentials expectedPasswordHash data = true

theorem HeardCredentials.later {hash : Bytes} {received : List (Bytes × IPEndPoint)}
    {endPoint : IPEndPoint} (h : HeardCredentials hash received endPoint)
    (more : List (Bytes × IPEndPoint)) : HeardCredentials hash (more ++ received) endPoint := by
  obtain ⟨data, hmem, hdata⟩ := h
  exact ⟨data, List.mem_append_right _ hmem, hdata⟩

/-- What a step takes from the socket. -/
def RelayEvent.received : RelayEvent → List (Bytes × IPEndPoint)
  | .datagram _ _ data remote => [(data, remote)]
  | .sweepStart _ _ => []
  | .sweepNext _ => []

namespace SessionTables

/-- Every stored session comes from an endpoint of `known`. -/
structure From (known : IPEndPoint → Prop) (t : SessionTables) : Prop where
  byEndPoint : ∀ e s, t.sessionsByEndPoint.lookup e = some s → known s.endPoint
  byId : ∀ k s, t.sessionsById.lookup k = some s → known s.endPoint
  byUid : ∀ u s, t.sessionsByUid.lookup u = some s → known s.endPoint

namespace From
variable {known known' : IPEndPoint → Prop} {t : SessionTables}

theorem mono (h : t.From known) (hknown : ∀ e, known e → known' e) : t.From known' where
  byEndPoint := fun e s hs => hknown _ (h.byEndPoint e s hs)
  byId := fun k s hs => hknown _ (h.byId k s hs)
  byUid := fun u s hs => hknown _ (h.byUid u s hs)

theorem mem_values (h : t.From known) {s : ClientSession} (hs : s ∈ t.sessionsById.values) :
    known s.endPoint := by
  obtain ⟨k, hk⟩ := (Dictionary.mem_values _ _).mp hs
  exact h.byId k s hk

theorem removeEndPoint (h : t.From known) (e : IPEndPoint) : (t.removeEndPoint e).From known :=
  { h with byEndPoint := fun e' s hs => h.byEndPoint e' s (Dictionary.lookup_of_lookup_erase hs).2 }

theorem removeId (h : t.From known) (k : UInt32) : (t.removeId k).From known :=
  { h with byId := fun k' s hs => h.byId k' s (Dictionary.lookup_of_lookup_erase hs).2 }

theorem removeUid (h : t.From known) (u : Text) : (t.removeUid u).From known :=
  { h with byUid := fun u' s hs => h.byUid u' s (Dictionary.lookup_of_lookup_erase hs).2 }

theorem putEndPoint (h : t.From known) {x : ClientSession} (hx : known x.endPoint) :
    (t.putEndPoint x).From known :=
  { h with
    byEndPoint := by
      intro e s hs
      rcases Dictionary.lookup_of_lookup_insert hs with rfl | hold
      · exact hx
      · exact h.byEndPoint e s hold }

theorem putId (h : t.From known) {x : ClientSession} (hx : known x.endPoint) :
    (t.putId x).From known :=
  { h with
    byId := by
      intro k s hs
      rcases Dictionary.lookup_of_lookup_insert hs with rfl | hold
      · exact hx
      · exact h.byId k s hold }

theorem putUid (h : t.From known) {x : ClientSession} (hx : known x.endPoint) :
    (t.putUid x).From known :=
  { h with
    byUid := by
      intro u s hs
      rcases Dictionary.lookup_of_lookup_insert hs with rfl | hold
      · exact hx
      · exact h.byUid u s hold }

theorem removeKeys (h : t.From known) (x : ClientSession) : (t.removeKeys x).From known :=
  ((h.removeEndPoint _).removeId _).removeUid _

theorem put (h : t.From known) {x : ClientSession} (hx : known x.endPoint) :
    (t.put x).From known :=
  ((h.putEndPoint hx).putId hx).putUid hx

end From

end SessionTables

namespace RelayServer

private theorem dropStale_from {server : RelayServer} {known : IPEndPoint → Prop}
    (h : server.tables.From known) (uid : Text) : (server.dropStale uid).tables.From known := by
  simp only [dropStale]
  split
  · exact h
  · exact ((h.removeUid _).removeEndPoint _).removeId _

private theorem handlePacket_expectedPasswordHash (server : RelayServer) (now : Int)
    (order : SessionOrder)
    (data : Bytes) (remote : IPEndPoint) :
    (server.handlePacket now order data remote).server.expectedPasswordHash =
      server.expectedPasswordHash := by
  rcases server.handlePacket_server_cases now order data remote with
    ⟨uid, name, -, hserver⟩ | ⟨-, session, -, hserver⟩ | ⟨-, seen, sequence, hserver⟩
  · rw [hserver, admitClient_server]
    split
    · exact dropStale_expectedPasswordHash server uid
    · exact dropStale_expectedPasswordHash server uid
  · rw [hserver]
  · rw [hserver]

private theorem handlePacket_from {server : RelayServer} {known : IPEndPoint → Prop}
    (h : server.tables.From known) (now : Int) (order : SessionOrder) {data : Bytes}
    {remote : IPEndPoint}
    (hremote : (server.admitted data).isSome → known remote) :
    (server.handlePacket now order data remote).server.tables.From known := by
  rcases server.handlePacket_server_cases now order data remote with
    ⟨uid, name, hadmitted, hserver⟩ | ⟨-, session, -, hserver⟩ | ⟨-, seen, sequence, hserver⟩
  · have hknown := hremote (by rw [hadmitted]; rfl)
    rw [hserver, admitClient_server]
    split
    · exact dropStale_from h uid
    · exact (dropStale_from h uid).put hknown
  · rw [hserver]
    exact ((h.removeEndPoint _).removeId _).removeUid _
  · rw [hserver]
    exact h

end RelayServer

namespace Relay

/-- Every session the relay knows of has authenticated itself. -/
structure Vouched (hash : Bytes) (received : List (Bytes × IPEndPoint)) (relay : Relay) :
    Prop where
  expected : relay.server.expectedPasswordHash = hash
  keyed : relay.server.tables.Keyed
  tables : relay.server.tables.From (HeardCredentials hash received)
  pending : ∀ s ∈ relay.pending, HeardCredentials hash received s.endPoint

/-- The sender of an admitted datagram has credentials. -/
theorem Vouched.sender {hash : Bytes} {received : List (Bytes × IPEndPoint)} {relay : Relay}
    (h : relay.Vouched hash received) {data : Bytes} {remote : IPEndPoint}
    (hadmitted : (relay.server.admitted data).isSome) :
    HeardCredentials hash ([(data, remote)] ++ received) remote := by
  obtain ⟨⟨uid, name⟩, hidentity⟩ := Option.isSome_iff_exists.mp hadmitted
  have hdata := (RelayServer.carriesCredentials_of_admitted hidentity).1
  rw [h.expected] at hdata
  exact ⟨data, List.mem_cons_self, hdata⟩

private theorem vouched_step {hash : Bytes} {received : List (Bytes × IPEndPoint)} {relay : Relay}
    (h : relay.Vouched hash received) (hw : relay.server.WellKept) (e : RelayEvent) :
    (relay.step e).Vouched hash (e.received ++ received) := by
  have hlater := h.tables.mono (fun _ he => he.later e.received)
  have hkeyed := (wellKept_step relay e hw).keyed
  have hpending : ∀ s ∈ relay.pending,
      HeardCredentials hash (e.received ++ received) s.endPoint :=
    fun s hs => (h.pending s hs).later e.received
  cases e with
  | datagram now order data remote =>
    refine ⟨?_, hkeyed, ?_, hpending⟩
    · exact (RelayServer.handlePacket_expectedPasswordHash _ _ _ _ _).trans h.expected
    · exact RelayServer.handlePacket_from hlater now order h.sender
  | sweepStart now order =>
    simp only [step] at hkeyed ⊢
    split
    · refine ⟨h.expected, hw.keyed, hlater, fun s hs => ?_⟩
      exact hlater.mem_values ((order.mem_arrange _ _).mp hs)
    · exact ⟨h.expected, hw.keyed, hlater, hpending⟩
  | sweepNext order =>
    cases hrest : relay.pending with
    | nil =>
      simp only [step, hrest] at hkeyed ⊢
      exact ⟨h.expected, hkeyed, hlater, hpending⟩
    | cons session rest =>
      have hsession := fun s hs => hpending s (by rw [hrest]; exact List.mem_cons_of_mem _ hs)
      simp only [step, hrest, RelayServer.sweepSession] at hkeyed ⊢
      split
      · exact ⟨h.expected, hw.keyed.removeKeys session, hlater.removeKeys session, hsession⟩
      · exact ⟨h.expected, hw.keyed, hlater, hsession⟩

private theorem vouched_runHistory (options : ServerOptions) (hash : Bytes) (version : Text)
    (history : List RelayEvent) :
    (runHistory step (start options hash version) history).Vouched hash
      (history.flatMap RelayEvent.received) ∧
      (runHistory step (start options hash version) history).server.WellKept := by
  induction history with
  | nil =>
    refine ⟨⟨rfl, SessionTables.keyed_empty, ⟨?_, ?_, ?_⟩, ?_⟩, wellKept_start options hash version⟩
    · intro e s hs
      cases hs
    · intro k s hs
      cases hs
    · intro u s hs
      cases hs
    · intro s hs
      cases hs
  | cons e earlier ih => exact ⟨vouched_step ih.1 ih.2 e, wellKept_step _ e ih.2⟩

/-- What a step sends to an endpoint is a reject, or the endpoint has authenticated itself. -/
theorem Vouched.sent {hash : Bytes} {received : List (Bytes × IPEndPoint)} {relay : Relay}
    (h : relay.Vouched hash received) {e : RelayEvent} {d : Datagram} (hd : d ∈ relay.sent e)
    (hreject : isReject d.payload = false) :
    HeardCredentials hash (e.received ++ received) d.target := by
  cases e with
  | datagram now order data remote =>
    rcases RelayServer.handlePacket_target hd with hr | ⟨s, hs, htarget⟩ | ⟨htarget, hsome | hsome⟩
    · rw [hreject] at hr
      cases hr
    · rw [htarget]
      exact (h.tables.mem_values hs).later _
    · obtain ⟨s, hs⟩ := Option.isSome_iff_exists.mp hsome
      rw [htarget, ← h.keyed.endPoint remote s hs]
      exact (h.tables.byEndPoint remote s hs).later _
    · rw [htarget]
      exact h.sender hsome
  | sweepStart now order => cases hd
  | sweepNext order =>
    simp only [Relay.sent] at hd
    split at hd
    · cases hd
    · simp only [RelayServer.sweepSession] at hd
      split at hd
      · obtain ⟨s, hs, htarget⟩ := RelayServer.broadcastClientLeft_target hd
        rw [htarget]
        exact (h.tables.mem_values (RelayServer.mem_values_of_removeId hs)).later _
      · cases hd

/-- In every run, what the relay sends is a reject or goes to an endpoint that has authenticated
itself, and a datagram from an endpoint without a session changes nothing and draws at most one
reject, unless it is a request that is admitted. -/
theorem unauthenticated_inert (options : ServerOptions) (hash : Bytes) (version : Text)
    (history : List RelayEvent) :
    let relay := runHistory step (start options hash version) history
    (∀ e, ∀ d ∈ relay.sent e, isReject d.payload = false →
      HeardCredentials hash ((e :: history).flatMap RelayEvent.received) d.target) ∧
    (∀ now order data remote, relay.server.tables.sessionsByEndPoint.lookup remote = none →
      relay.server.admitted data = none →
        (relay.server.handlePacket now order data remote).server = relay.server ∧
          ((relay.server.handlePacket now order data remote).sent = [] ∨
            ∃ d, (relay.server.handlePacket now order data remote).sent = [d] ∧
              d.target = remote ∧ isReject d.payload = true)) := by
  intro relay
  have h := (vouched_runHistory options hash version history).1
  exact ⟨fun e d hd hreject => h.sent hd hreject,
    fun now order data remote hunknown hadmitted =>
      RelayServer.handlePacket_inert hunknown hadmitted now order⟩

/-- One client is connected, a second one joins, and a stranger sends voice. -/
theorem stranger_is_ignored :
    let relay := runHistory step (start {} emptyPasswordHash ['1'])
      [.datagram 0 .stored (connectRequest emptyPasswordHash "A" "") ⟨1, 5000⟩]
    let joining := RelayEvent.datagram 1 .stored (connectRequest emptyPasswordHash "B" "") ⟨1, 5001⟩
    (∀ d ∈ relay.sent joining, isReject d.payload = false →
      HeardCredentials emptyPasswordHash
        [(connectRequest emptyPasswordHash "B" "", ⟨1, 5001⟩),
          (connectRequest emptyPasswordHash "A" "", ⟨1, 5000⟩)] d.target) ∧
    (relay.server.handlePacket 2 .stored [PacketType.voiceUp.code, 0, 0, 0, 1] ⟨2, 9⟩).server =
      relay.server := by
  intro relay joining
  have h := unauthenticated_inert {} emptyPasswordHash ['1']
    [.datagram 0 .stored (connectRequest emptyPasswordHash "A" "") ⟨1, 5000⟩]
  exact ⟨h.1 joining, (h.2 2 .stored _ ⟨2, 9⟩ (by decide) (by decide)).1⟩

end Relay

/-- The endpoints that the receive thread can write to on behalf of its handler. -/
def ReceiveState.endPoints : ReceiveState → List IPEndPoint
  | .idle => []
  | .seen session => [session.endPoint]
  | .dropEndPoint stale request => [stale.endPoint, request.remote]
  | .dropId stale request => [stale.endPoint, request.remote]
  | .count request => [request.remote]
  | .putEndPoint session => [session.endPoint]
  | .putId session => [session.endPoint]
  | .putUid session => [session.endPoint]
  | .disconnectId session => [session.endPoint]
  | .disconnectUid session => [session.endPoint]

namespace RelayThreads

/-- What the receive thread takes from the socket, when its last handler has returned. -/
def received (t : RelayThreads) : ThreadEvent → List (Bytes × IPEndPoint)
  | .datagram data remote =>
      match t.receive with
      | .idle => [(data, remote)]
      | _ => []
  | _ => []

/-- Everything received in a run, newest first. -/
def receivedIn (start : RelayThreads) : List ThreadEvent → List (Bytes × IPEndPoint)
  | [] => []
  | e :: earlier => (runHistory step start earlier).received e ++ receivedIn start earlier

/-- Every session a thread can get hold of comes from an endpoint of `known`. -/
structure Vouched (hash : Bytes) (known : IPEndPoint → Prop) (t : RelayThreads) : Prop where
  expected : t.server.expectedPasswordHash = hash
  tables : t.server.tables.From known
  receive : ∀ e ∈ t.receive.endPoints, known e
  sweep : ∀ s ∈ t.sweep.sessions, known s.endPoint

namespace Vouched
variable {hash : Bytes} {known known' : IPEndPoint → Prop} {t : RelayThreads}

theorem mono (h : t.Vouched hash known) (hknown : ∀ e, known e → known' e) :
    t.Vouched hash known' where
  expected := h.expected
  tables := h.tables.mono hknown
  receive := fun e he => hknown e (h.receive e he)
  sweep := fun s hs => hknown _ (h.sweep s hs)

theorem withTables (h : t.Vouched hash known) {tables : SessionTables} {receive : ReceiveState}
    (htables : tables.From known) (hreceive : ∀ e ∈ receive.endPoints, known e) :
    (t.withTables tables receive).Vouched hash known :=
  ⟨h.expected, htables, hreceive, h.sweep⟩

private theorem onReceive (h : t.Vouched hash known) {receive : ReceiveState}
    (hreceive : ∀ e ∈ receive.endPoints, known e) :
    ({ t with receive } : RelayThreads).Vouched hash known :=
  ⟨h.expected, h.tables, hreceive, h.sweep⟩

theorem noteSeen (h : t.Vouched hash known) (remote : IPEndPoint) :
    (t.noteSeen remote).Vouched hash known := by
  simp only [RelayThreads.noteSeen]
  split
  · exact h
  · rename_i session hlookup
    refine h.onReceive (fun e he => ?_)
    rw [List.mem_singleton.mp he]
    exact h.tables.byEndPoint remote session hlookup

theorem beginHandler (h : t.Vouched hash known) {data : Bytes} {remote : IPEndPoint}
    (hremote : carriesCredentials hash data = true → known remote) :
    (t.beginHandler data remote).Vouched hash known := by
  cases data with
  | nil => exact h
  | cons packetType reader =>
    simp only [RelayThreads.beginHandler]
    split
    case h_1 htype =>
      split
      · rename_i uid name hverdict
        have hadmitted : t.server.admitted (packetType :: reader) = some (uid, name) := by
          simp only [RelayServer.admitted, htype, hverdict, if_true]
        have hknown := hremote (by
          rw [← h.expected]
          exact (RelayServer.carriesCredentials_of_admitted hadmitted).1)
        split
        · refine h.onReceive (fun e he => ?_)
          rw [List.mem_singleton.mp he]
          exact hknown
        · rename_i stale hstale
          refine h.withTables (h.tables.removeUid uid) (fun e he => ?_)
          rcases List.mem_pair.mp he with rfl | rfl
          · exact h.tables.byUid uid stale hstale
          · exact hknown
      · exact h
    case h_2 =>
      split
      · exact h
      · exact h.noteSeen remote
    case h_3 => exact h.noteSeen remote
    case h_4 => exact h.noteSeen remote
    case h_5 =>
      split
      · exact h
      · rename_i session hlookup
        refine h.withTables (h.tables.removeEndPoint remote) (fun e he => ?_)
        rw [List.mem_singleton.mp he]
        exact h.tables.byEndPoint remote session hlookup
    case h_6 => exact h

theorem receiveStep (h : t.Vouched hash known) (now : Int) :
    (t.receiveStep now).Vouched hash known := by
  have hidle : ∀ e ∈ ReceiveState.idle.endPoints, known e := fun e he => nomatch he
  have hreceive := h.receive
  cases hstate : t.receive with
  | idle =>
    simp only [RelayThreads.receiveStep, hstate]
    exact h
  | seen session =>
    simp only [RelayThreads.receiveStep, hstate]
    exact ⟨h.expected, h.tables, hidle, h.sweep⟩
  | dropEndPoint stale request =>
    rw [hstate] at hreceive
    simp only [RelayThreads.receiveStep, hstate]
    exact h.withTables (h.tables.removeEndPoint _) hreceive
  | dropId stale request =>
    simp only [RelayThreads.receiveStep, hstate]
    rw [hstate] at hreceive
    exact h.withTables (h.tables.removeId _) (fun e he => hreceive e (List.mem_cons_of_mem _ he))
  | count request =>
    rw [hstate] at hreceive
    simp only [RelayThreads.receiveStep, hstate]
    split
    · exact h.onReceive hidle
    · exact ⟨h.expected, h.tables, hreceive, h.sweep⟩
  | putEndPoint session =>
    rw [hstate] at hreceive
    simp only [RelayThreads.receiveStep, hstate]
    exact h.withTables (h.tables.putEndPoint (hreceive _ List.mem_cons_self)) hreceive
  | putId session =>
    rw [hstate] at hreceive
    simp only [RelayThreads.receiveStep, hstate]
    exact h.withTables (h.tables.putId (hreceive _ List.mem_cons_self)) hreceive
  | putUid session =>
    rw [hstate] at hreceive
    simp only [RelayThreads.receiveStep, hstate]
    exact h.withTables (h.tables.putUid (hreceive _ List.mem_cons_self)) hidle
  | disconnectId session =>
    rw [hstate] at hreceive
    simp only [RelayThreads.receiveStep, hstate]
    exact h.withTables (h.tables.removeId _) hreceive
  | disconnectUid session =>
    simp only [RelayThreads.receiveStep, hstate]
    exact h.withTables (h.tables.removeUid _) hidle

theorem sweepStart (h : t.Vouched hash known) (now : Int) (order : SessionOrder) :
    (t.sweepStart now order).Vouched hash known := by
  simp only [RelayThreads.sweepStart]
  split
  · refine ⟨h.expected, h.tables, h.receive, fun s hs => ?_⟩
    exact h.tables.mem_values ((order.mem_arrange _ _).mp hs)
  · exact h

theorem sweepStep (h : t.Vouched hash known) : t.sweepStep.Vouched hash known := by
  have hsweep := h.sweep
  cases hstate : t.sweep with
  | idle =>
    simp only [RelayThreads.sweepStep, hstate]
    exact h
  | visiting cutoff rest =>
    rw [hstate] at hsweep
    cases rest with
    | nil =>
      simp only [RelayThreads.sweepStep, hstate]
      exact ⟨h.expected, h.tables, h.receive, fun s hs => absurd hs List.not_mem_nil⟩
    | cons session rest =>
      simp only [RelayThreads.sweepStep, hstate]
      split
      · exact ⟨h.expected, h.tables, h.receive, hsweep⟩
      · exact ⟨h.expected, h.tables, h.receive,
          fun s hs => hsweep s (List.mem_cons_of_mem _ hs)⟩
  | removeEndPoint cutoff session rest =>
    rw [hstate] at hsweep
    simp only [RelayThreads.sweepStep, hstate]
    exact ⟨h.expected, h.tables.removeEndPoint _, h.receive, hsweep⟩
  | removeId cutoff session rest =>
    rw [hstate] at hsweep
    simp only [RelayThreads.sweepStep, hstate]
    exact ⟨h.expected, h.tables.removeId _, h.receive, hsweep⟩
  | removeUid cutoff session rest =>
    rw [hstate] at hsweep
    simp only [RelayThreads.sweepStep, hstate]
    exact ⟨h.expected, h.tables.removeUid _, h.receive,
      fun s hs => hsweep s (List.mem_cons_of_mem _ hs)⟩

theorem step {received : List (Bytes × IPEndPoint)}
    (h : t.Vouched hash (HeardCredentials hash received)) (e : ThreadEvent) :
    (t.step e).Vouched hash (HeardCredentials hash (t.received e ++ received)) := by
  have hlater := h.mono (fun _ he => he.later (t.received e))
  cases e with
  | datagram data remote =>
    cases hidle : t.receive with
    | idle =>
      simp only [RelayThreads.step, RelayThreads.received, hidle] at hlater ⊢
      exact hlater.beginHandler (fun hdata => ⟨data, List.mem_cons_self, hdata⟩)
    | _ =>
      simp only [RelayThreads.step, hidle]
      exact hlater
  | receiveStep now => exact hlater.receiveStep now
  | sweepStart now order => exact hlater.sweepStart now order
  | sweepStep => exact hlater.sweepStep

end Vouched

/-- However the single dictionary operations of the two threads interleave, no thread gets hold of
a session that has not authenticated itself. -/
theorem vouched_interleaved (options : ServerOptions) (hash : Bytes) (version : Text)
    (history : List ThreadEvent) :
    (runHistory step (start options hash version) history).Vouched hash
      (HeardCredentials hash (receivedIn (start options hash version) history)) := by
  induction history with
  | nil =>
    refine ⟨rfl, ⟨?_, ?_, ?_⟩, ?_, ?_⟩
    · intro e s hs
      cases hs
    · intro k s hs
      cases hs
    · intro u s hs
      cases hs
    · intro e he
      cases he
    · intro s hs
      cases hs
  | cons e earlier ih => exact ih.step e

end RelayThreads

end TaskForceRadio.VoiceServer
