import TaskForceRadio.Client.Phases
import TaskForceRadio.Relay.Provenance

/-!
# Who is heard

Any number of clients, one relay, and a network that loses, repeats and reorders datagrams.
Whatever has been sent stays on the wire: it can arrive at any time, any number of times or never.
Hosts that run no client send the relay whatever they like. What a listener hears under a session
id comes from the one endpoint that introduced itself under that id.
-/

set_option autoImplicit false

namespace TaskForceRadio

open VoiceServer Voice

section World
variable (Client : Type)

/-- The endpoints the relay sees: each socket of a client has one, and it belongs to that client
alone. The others belong to hosts that run no client. -/
structure Addresses where
  of : Client → Nat → IPEndPoint
  owner : IPEndPoint → Option Client
  owner_of : ∀ client socket, owner (of client socket) = some client

/-- A call that put something on the wire, and the client it was made on. -/
structure Call where
  caller : Client
  client : VoiceNetworkClient
  call : SenderCall

/-- `calls` and `sessions` are kept for the record: the calls that sent something, and the
sessions the relay has created. `up` and `down` are everything sent to and by the relay. -/
structure VoiceWorld where
  relay : Relay
  clients : Client → VoiceNetworkClient := fun _ => {}
  calls : List (Call Client) := []
  up : List (Bytes × IPEndPoint) := []
  sessions : List ClientSession := []
  down : List Datagram := []
  heard : Client → List Callback := fun _ => []

inductive VoiceEvent where
  | setServer (i : Client) (host : Bytes) (port : UInt16) (password : Bytes)
  | setIdentity (i : Client) (uid name : Bytes)
  | sendVoiceFrame (i : Client) (opus : Bytes) (isLast : Bool)
  | sendRadioTx (i : Client) (active : Bool) (freq : Bytes) (range : UInt16) (sub : Bytes)
  | enter (i : Client) (io : LoopIo)
  | receive (i : Client) (index : Nat) (at_ : Time)
  | leave (i : Client) (io : LoopIo)
  | stranger (data : Bytes) (remote : IPEndPoint)
  | relay (index : Nat) (now : Int) (order : SessionOrder)
  | sweepStart (now : Int) (order : SessionOrder)
  | sweepNext (order : SessionOrder)

end World

namespace VoiceWorld

variable {Client : Type} [DecidableEq Client]

section Steps
variable (addresses : Addresses Client)

/-- What a client has become, what it fired and what it sent. -/
def update (w : VoiceWorld Client) (i : Client) (o : LoopOutcome) (call : Option SenderCall) :
    VoiceWorld Client :=
  { w with
    clients := Function.update w.clients i o.client
    calls :=
      match call, o.sent with
      | some call, _ :: _ => { caller := i, client := w.clients i, call } :: w.calls
      | _, _ => w.calls
    up := o.sent.map (fun p => (p.2, addresses.of i p.1)) ++ w.up
    heard := Function.update w.heard i (w.heard i ++ o.callbacks) }

/-- A step of the relay, and what it puts on the wire. -/
def stepRelay (w : VoiceWorld Client) (e : RelayEvent) : VoiceWorld Client :=
  { w with relay := w.relay.step e, down := w.relay.sent e ++ w.down }

def step (w : VoiceWorld Client) : VoiceEvent Client → VoiceWorld Client
  | .setServer i host port password =>
      { w with clients := Function.update w.clients i ((w.clients i).setServer host port password) }
  | .setIdentity i uid name =>
      { w with clients := Function.update w.clients i ((w.clients i).setIdentity uid name) }
  | .sendVoiceFrame i opus isLast =>
      let spoken := (w.clients i).sendVoiceFrame opus isLast
      w.update addresses i { client := spoken.1, sent := spoken.2 }
        (some (.sendVoiceFrame opus isLast))
  | .sendRadioTx i active freq range sub =>
      let sent := (w.clients i).sendRadioTx active freq range sub
      w.update addresses i { client := w.clients i, sent }
        (some (.sendRadioTx active freq range sub))
  | .enter i io =>
      w.update addresses i ((w.clients i).enter io) (io.passwordHash.map .tryHandshake)
  | .receive i index at_ =>
      match w.down[index]?, (w.clients i).socket with
      | some d, some socket =>
          if d.target = addresses.of i socket then
            w.update addresses i (LoopOutcome.receive { client := w.clients i } at_ d.payload) none
          else w
      | _, _ => w
  | .leave i io =>
      w.update addresses i (LoopOutcome.leave { client := w.clients i } io) (some (.ping io.now))
  | .stranger data remote =>
      match addresses.owner remote with
      | some _ => w
      | none => { w with up := (data, remote) :: w.up }
  | .relay index now order =>
      match w.up[index]? with
      | none => w
      | some (data, remote) =>
          let sessions := (w.relay.server.accepted data remote).toList ++ w.sessions
          { w.stepRelay (.datagram now order data remote) with sessions }
  | .sweepStart now order => w.stepRelay (.sweepStart now order)
  | .sweepNext order => w.stepRelay (.sweepNext order)

end Steps

def start (options : ServerOptions) (expectedPasswordHash : Bytes) (serverVersion : Text) :
    VoiceWorld Client where
  relay := Relay.start options expectedPasswordHash serverVersion

end VoiceWorld

section Origins
variable (up : List (Bytes × IPEndPoint)) (endPoint : IPEndPoint)

/-- A ConnectRequest under the uid that only the password can turn down. -/
def Introduced (uid : Bytes) : Prop :=
  ∃ data, (data, endPoint) ∈ up ∧ ∃ server u name,
    RelayServer.admitted server data = some (u, name) ∧ encodeUtf8 u = uid

/-- A frame with this number. -/
def Said (sequence : UInt16) (isLast : Bool) (opus : Bytes) : Prop :=
  ∃ reader flags, (PacketType.voiceUp.code :: reader, endPoint) ∈ up ∧
    RelayServer.readVoiceUp reader = .ok (sequence, flags, opus) ∧
      ((flags &&& voiceFlagsLastFrame) != 0) = isLast

/-- The start or the end of a radio transmission. -/
def Transmitted (active : Bool) (freq : Bytes) (range : UInt16) (sub : Bytes) : Prop :=
  ∃ reader flag f s, (PacketType.radioTxUpdate.code :: reader, endPoint) ∈ up ∧
    RelayServer.readRadioTxUpdate reader = .ok (flag, f, range, s) ∧ (flag != 0) = active ∧
      encodeUtf8 f = freq ∧ encodeUtf8 s = sub

/-- What the callback reports has come from the endpoint. -/
def CameFrom : Callback → Prop
  | .remoteJoined _ uid _ => Introduced up endPoint uid
  | .voiceFrame _ sequence isLast opus => Said up endPoint sequence isLast opus
  | .radioTx _ active freq range sub => Transmitted up endPoint active freq range sub
  | .remoteLeft _ => True
  | .connectionStateChanged _ => True

/-- The callback is about one of the sessions and has come from its endpoint. -/
def About (sessions : List ClientSession) (callback : Callback) : Prop :=
  ∀ sessionId, callback.subject = some sessionId →
    ∃ s ∈ sessions, s.sessionId = sessionId ∧ CameFrom up s.endPoint callback

variable {up} {endPoint} {up' : List (Bytes × IPEndPoint)} {sessions sessions' : List ClientSession}
  {callback : Callback}

theorem Introduced.mono (hup : ∀ p ∈ up, p ∈ up') {uid : Bytes} (h : Introduced up endPoint uid) :
    Introduced up' endPoint uid := by
  obtain ⟨data, hdata, hrest⟩ := h
  exact ⟨data, hup _ hdata, hrest⟩

theorem CameFrom.mono (hup : ∀ p ∈ up, p ∈ up') (h : CameFrom up endPoint callback) :
    CameFrom up' endPoint callback := by
  cases callback with
  | remoteJoined sessionId uid name => exact Introduced.mono hup h
  | voiceFrame sessionId sequence isLast opus =>
    obtain ⟨reader, flags, hdata, hrest⟩ := h
    exact ⟨reader, flags, hup _ hdata, hrest⟩
  | radioTx sessionId active freq range sub =>
    obtain ⟨reader, flag, f, s, hdata, hrest⟩ := h
    exact ⟨reader, flag, f, s, hup _ hdata, hrest⟩
  | remoteLeft sessionId => trivial
  | connectionStateChanged connected => trivial

theorem About.mono (hup : ∀ p ∈ up, p ∈ up') (hsessions : ∀ s ∈ sessions, s ∈ sessions')
    (h : About up sessions callback) : About up' sessions' callback := by
  intro sessionId hsubject
  obtain ⟨s, hs, hid, hcame⟩ := h sessionId hsubject
  exact ⟨s, hsessions s hs, hid, hcame.mono hup⟩

private theorem about_of_subject (h : callback.subject = none) : About up sessions callback := by
  intro sessionId hsubject
  rw [h] at hsubject
  cases hsubject

end Origins

private theorem VoiceServer.RelayServer.introduced_of_accepted {server : RelayServer} {data : Bytes}
    {remote : IPEndPoint} {s : ClientSession} {up : List (Bytes × IPEndPoint)}
    (h : server.accepted data remote = some s) (hup : (data, remote) ∈ up) :
    Introduced up s.endPoint (encodeUtf8 s.uid) := by
  obtain ⟨name, hadmitted, _, heq⟩ := ClientWorld.accepted_eq h
  have hend : s.endPoint = remote := by
    rw [heq]
    rfl
  rw [hend]
  exact ⟨data, hup, server, s.uid, name, hadmitted, rfl⟩

private theorem about_of_told {server : RelayServer} (hw : server.WellKept) {data : Bytes}
    {remote : IPEndPoint} {up : List (Bytes × IPEndPoint)} {sessions : List ClientSession}
    {callback : Callback} (hup : (data, remote) ∈ up)
    (hstored : ∀ s, server.tables.Holds s → s ∈ sessions)
    (hnew : ∀ s, server.accepted data remote = some s → s ∈ sessions)
    (hintroduced : ∀ s ∈ sessions, Introduced up s.endPoint (encodeUtf8 s.uid))
    (h : Told server data remote callback) : About up sessions callback := by
  intro sessionId hsubject
  cases h with
  | left k => cases hsubject
  | joined subject hholds =>
    have hmem : subject ∈ sessions := hholds.elim (hstored subject) (hnew subject)
    exact ⟨subject, hmem, Option.some.inj hsubject, hintroduced subject hmem⟩
  | voice sender reader sequence flags opus hsender hdata hread =>
    have hmem := hstored sender (RelayServer.holds_of_lookup hw hsender)
    refine ⟨sender, hmem, Option.some.inj hsubject, reader, flags, ?_, hread, rfl⟩
    rw [hw.keyed.endPoint remote sender hsender, ← hdata]
    exact hup
  | radioTx sender reader active freq range sub hsender hdata hread =>
    have hmem := hstored sender (RelayServer.holds_of_lookup hw hsender)
    refine ⟨sender, hmem, Option.some.inj hsubject, reader, active, freq, sub, ?_, hread, rfl, rfl,
      rfl⟩
    rw [hw.keyed.endPoint remote sender hsender, ← hdata]
    exact hup

namespace VoiceWorld

variable {Client : Type}

/-- What every step of the world keeps. -/
structure Sound (addresses : Addresses Client) (w : VoiceWorld Client) : Prop where
  wellKept : w.relay.server.WellKept
  stored : ∀ s, w.relay.server.tables.Holds s → s ∈ w.sessions
  nextId : w.relay.server.nextSessionId = UInt32.ofNat (w.relay.server.nextObj + 1)
  numbered : ∀ s ∈ w.sessions, s.obj < w.relay.server.nextObj ∧
    s.sessionId = UInt32.ofNat (s.obj + 1)
  distinct : ∀ s ∈ w.sessions, ∀ s' ∈ w.sessions, s.obj = s'.obj → s = s'
  introduced : ∀ s ∈ w.sessions, Introduced w.up s.endPoint (encodeUtf8 s.uid)
  told : ∀ d ∈ w.down, ∀ callback, Voice.handlePacket d.payload = .ok (some callback) →
    About w.up w.sessions callback
  heard : ∀ i, ∀ callback ∈ w.heard i, About w.up w.sessions callback
  sent : ∀ p ∈ w.up, ∀ i, addresses.owner p.2 = some i → p.1 = rosterRequestPacket ∨
    ∃ call ∈ w.calls, call.caller = i ∧ call.call.writes call.client = some (.ok p.1)

variable {addresses : Addresses Client} {w : VoiceWorld Client}

/-- A step of the relay that creates no session. -/
theorem Sound.sweep (h : w.Sound addresses) {e : RelayEvent}
    (htables : ∀ s, (w.relay.step e).server.tables.Holds s → w.relay.server.tables.Holds s)
    (hobj : (w.relay.step e).server.nextObj = w.relay.server.nextObj)
    (hid : (w.relay.step e).server.nextSessionId = w.relay.server.nextSessionId)
    (hsent : ∀ d ∈ w.relay.sent e, ∀ callback,
      Voice.handlePacket d.payload = .ok (some callback) → callback.subject = none) :
    (w.stepRelay e).Sound addresses := by
  refine ⟨Relay.wellKept_step w.relay e h.wellKept, fun s hs => h.stored s (htables s hs), ?_, ?_,
    h.distinct, h.introduced, ?_, h.heard, h.sent⟩
  · show (w.relay.step e).server.nextSessionId = UInt32.ofNat ((w.relay.step e).server.nextObj + 1)
    rw [hid, hobj]
    exact h.nextId
  · intro s hs
    show s.obj < (w.relay.step e).server.nextObj ∧ _
    rw [hobj]
    exact h.numbered s hs
  · intro d hd callback hfired
    rcases List.mem_append.mp hd with hd | hd
    · exact about_of_subject (hsent d hd callback hfired)
    · exact h.told d hd callback hfired

theorem Sound.datagram (h : w.Sound addresses) (now : Int) (order : SessionOrder) {data : Bytes}
    {remote : IPEndPoint} (hup : (data, remote) ∈ w.up) :
    Sound addresses { w.stepRelay (.datagram now order data remote) with
      sessions := (w.relay.server.accepted data remote).toList ++ w.sessions } := by
  have hw := h.wellKept
  have hold : ∀ s ∈ w.sessions,
      s ∈ (w.relay.server.accepted data remote).toList ++ w.sessions :=
    fun s hs => List.mem_append_right _ hs
  have hnew : ∀ s, w.relay.server.accepted data remote = some s →
      s ∈ (w.relay.server.accepted data remote).toList ++ w.sessions := by
    intro s hs
    rw [hs]
    exact List.mem_cons_self
  have hobj := ClientWorld.nextObj_handlePacket w.relay.server now order data remote
  have hid := w.relay.server.nextSessionId_handlePacket now order data remote
  have hintroduced : ∀ s ∈ (w.relay.server.accepted data remote).toList ++ w.sessions,
      Introduced w.up s.endPoint (encodeUtf8 s.uid) := by
    intro s hs
    rcases List.mem_append.mp hs with hs | hs
    · exact RelayServer.introduced_of_accepted (Option.mem_toList.mp hs) hup
    · exact h.introduced s hs
  -- a new session takes the number and the id that come next
  have hfresh : ∀ s, w.relay.server.accepted data remote = some s →
      s.obj = w.relay.server.nextObj ∧ s.sessionId = UInt32.ofNat (s.obj + 1) := by
    intro s hs
    have hobj' := ClientWorld.accepted_obj hs
    obtain ⟨name, _, _, heq⟩ := ClientWorld.accepted_eq hs
    refine ⟨hobj', ?_⟩
    rw [hobj', ← h.nextId, heq]
    exact w.relay.server.dropStale_nextSessionId s.uid
  refine ⟨RelayServer.wellKept_handlePacket hw now order data remote, ?_, ?_, ?_, ?_,
    hintroduced, ?_, ?_, h.sent⟩
  · intro s hs
    rcases RelayServer.holds_handlePacket hw hs with hs | hs
    · exact hold s (h.stored s hs)
    · exact hnew s hs
  · show (w.relay.server.handlePacket now order data remote).server.nextSessionId = UInt32.ofNat
      ((w.relay.server.handlePacket now order data remote).server.nextObj + 1)
    rw [hid, hobj]
    cases w.relay.server.accepted data remote with
    | none => exact h.nextId
    | some s =>
      show w.relay.server.nextSessionId + 1 = UInt32.ofNat (w.relay.server.nextObj + 1 + 1)
      rw [h.nextId, UInt32.ofNat_add (w.relay.server.nextObj + 1) 1]
      rfl
  · intro s hs
    show s.obj < (w.relay.server.handlePacket now order data remote).server.nextObj ∧ _
    rw [hobj]
    rcases List.mem_append.mp hs with hs | hs
    · have hs := Option.mem_toList.mp hs
      refine ⟨?_, (hfresh s hs).2⟩
      rw [(hfresh s hs).1, hs]
      exact Nat.lt_succ_self _
    · exact ⟨Nat.lt_add_right _ (h.numbered s hs).1, (h.numbered s hs).2⟩
  · intro s hs s' hs' heq
    rcases List.mem_append.mp hs with hs | hs
    · have hs := Option.mem_toList.mp hs
      rcases List.mem_append.mp hs' with hs' | hs'
      · exact Option.some.inj (hs.symm.trans (Option.mem_toList.mp hs'))
      · have hlt := (h.numbered s' hs').1
        rw [← heq, (hfresh s hs).1] at hlt
        exact absurd hlt (Nat.lt_irrefl _)
    · rcases List.mem_append.mp hs' with hs' | hs'
      · have hlt := (h.numbered s hs).1
        rw [heq, (hfresh s' (Option.mem_toList.mp hs')).1] at hlt
        exact absurd hlt (Nat.lt_irrefl _)
      · exact h.distinct s hs s' hs' heq
  · intro d hd callback hfired
    rcases List.mem_append.mp hd with hd | hd
    · have htold := RelayServer.handlePacket_conveys hw hd callback hfired
      exact about_of_told hw hup (fun s hs => hold s (h.stored s hs)) hnew hintroduced htold
    · exact (h.told d hd callback hfired).mono (fun p hp => hp) hold
  · intro i callback hc
    exact (h.heard i callback hc).mono (fun p hp => hp) hold

theorem Sound.sweepNext (h : w.Sound addresses) (order : SessionOrder) :
    (w.stepRelay (.sweepNext order)).Sound addresses := by
  cases hpending : w.relay.pending with
  | nil =>
    apply h.sweep
    · intro s hs
      simpa only [Relay.step, hpending] using hs
    · simp only [Relay.step, hpending]
    · simp only [Relay.step, hpending]
    · intro d hd
      simp only [Relay.sent, hpending] at hd
      cases hd
  | cons session rest =>
    apply h.sweep
    · intro s hs
      simp only [Relay.step, hpending, RelayServer.sweepSession] at hs
      split at hs
      · exact RelayServer.holds_of_holds_removeKeys (x := session) hs
      · exact hs
    · simp only [Relay.step, hpending, RelayServer.sweepSession]
      split <;> rfl
    · simp only [Relay.step, hpending, RelayServer.sweepSession]
      split <;> rfl
    · intro d hd callback hfired
      simp only [Relay.sent, hpending, RelayServer.sweepSession] at hd
      split at hd
      · obtain ⟨k, rfl⟩ := remoteLeft_of_kind (RelayServer.broadcastClientLeft_kind hd) (by decide)
          hfired
        rfl
      · cases hd

section Clients
variable [DecidableEq Client]

theorem Sound.update (h : w.Sound addresses) (i : Client) {o : LoopOutcome}
    {call : Option SenderCall}
    (hcallbacks : ∀ callback ∈ o.callbacks, About w.up w.sessions callback)
    (hsent : ∀ p ∈ o.sent, p.2 = rosterRequestPacket ∨
      ∃ c, call = some c ∧ c.writes (w.clients i) = some (.ok p.2)) :
    (w.update addresses i o call).Sound addresses := by
  have hup : ∀ p ∈ w.up, p ∈ (w.update addresses i o call).up :=
    fun p hp => List.mem_append_right _ hp
  refine ⟨h.wellKept, h.stored, h.nextId, h.numbered, h.distinct, ?_, ?_, ?_, ?_⟩
  · intro s hs
    exact (h.introduced s hs).mono hup
  · intro d hd callback hfired
    exact (h.told d hd callback hfired).mono hup (fun s hs => hs)
  · intro j callback hc
    have hold : About w.up w.sessions callback := by
      by_cases hj : j = i
      · subst hj
        simp only [VoiceWorld.update, Function.update_self, List.mem_append] at hc
        exact hc.elim (h.heard j callback) (hcallbacks callback)
      · simp only [VoiceWorld.update, Function.update_of_ne hj] at hc
        exact h.heard j callback hc
    exact hold.mono hup (fun s hs => hs)
  · intro p hp j howner
    rcases List.mem_append.mp hp with hp | hp
    · obtain ⟨q, hq, rfl⟩ := List.mem_map.mp hp
      have hij : i = j := Option.some.inj ((addresses.owner_of i q.1).symm.trans howner)
      rcases hsent q hq with hroster | ⟨c, hcall, hwrites⟩
      · exact Or.inl hroster
      · refine Or.inr ⟨{ caller := i, client := w.clients i, call := c }, ?_, hij, hwrites⟩
        simp only [VoiceWorld.update, hcall]
        cases hsome : o.sent with
        | nil =>
          rw [hsome] at hq
          cases hq
        | cons first rest => exact List.mem_cons_self
    · rcases h.sent p hp j howner with hroster | ⟨c, hc, hrest⟩
      · exact Or.inl hroster
      · refine Or.inr ⟨c, ?_, hrest⟩
        simp only [VoiceWorld.update]
        split
        · exact List.mem_cons_of_mem _ hc
        · exact hc

theorem mem_call_sent {c : VoiceNetworkClient} {call : SenderCall} {p : Nat × Bytes}
    (h : p ∈ call.sent c) : call.writes c = some (.ok p.2) := by
  simp only [SenderCall.sent] at h
  split at h
  · rename_i packet hpacket
    rw [hpacket, (mem_sendRaw h).1]
  · cases h

theorem sound_step (w : VoiceWorld Client) (e : VoiceEvent Client) (h : w.Sound addresses) :
    (w.step addresses e).Sound addresses := by
  have hquiet : ∀ callback ∈ ([] : List Callback), About w.up w.sessions callback := by
    intro callback hc
    cases hc
  cases e with
  | setServer i host port password =>
    exact ⟨h.wellKept, h.stored, h.nextId, h.numbered, h.distinct, h.introduced, h.told, h.heard,
      h.sent⟩
  | setIdentity i uid name =>
    exact ⟨h.wellKept, h.stored, h.nextId, h.numbered, h.distinct, h.introduced, h.told, h.heard,
      h.sent⟩
  | sendVoiceFrame i opus isLast =>
    apply h.update i hquiet
    intro p hp
    have hp : p ∈ ((w.clients i).sendVoiceFrame opus isLast).2 := hp
    rw [sendVoiceFrame_sent] at hp
    exact Or.inr ⟨_, rfl, mem_call_sent hp⟩
  | sendRadioTx i active freq range sub =>
    apply h.update i hquiet
    intro p hp
    have hp : p ∈ (w.clients i).sendRadioTx active freq range sub := hp
    rw [sendRadioTx_sent] at hp
    exact Or.inr ⟨_, rfl, mem_call_sent hp⟩
  | enter i io =>
    apply h.update i
    · intro callback hc
      exact about_of_subject (mem_enter_callbacks hc)
    · intro p hp
      obtain ⟨hash, hhash, hrequest⟩ := mem_enter_sent hp
      refine Or.inr ⟨.tryHandshake hash, by rw [hhash]; rfl, ?_⟩
      rw [SenderCall.writes, hrequest]
  | receive i index at_ =>
    simp only [step]
    split
    · rename_i d socket hd _
      split
      · apply h.update i
        · intro callback hc
          simp only [LoopOutcome.receive, List.nil_append] at hc
          split at hc
          · rename_i fired hfired
            rw [List.mem_singleton.mp hc]
            exact h.told d (List.mem_of_getElem? hd) fired hfired
          · cases hc
        · intro p hp
          cases hp
      · exact h
    · exact h
  | leave i io =>
    apply h.update i
    · intro callback hc
      exact about_of_subject (mem_leave_callbacks rfl hc)
    · intro p hp
      rcases mem_leave_sent rfl hp with hroster | hping
      · exact Or.inl hroster
      · refine Or.inr ⟨.ping io.now, rfl, ?_⟩
        rw [SenderCall.writes, hping]
  | stranger data remote =>
    simp only [step]
    cases howner : addresses.owner remote with
    | some i => exact h
    | none =>
      have hup : ∀ p ∈ w.up, p ∈ (data, remote) :: w.up := fun p hp => List.mem_cons_of_mem _ hp
      refine ⟨h.wellKept, h.stored, h.nextId, h.numbered, h.distinct, ?_, ?_, ?_, ?_⟩
      · intro s hs
        exact (h.introduced s hs).mono hup
      · intro d hd callback hfired
        exact (h.told d hd callback hfired).mono hup (fun s hs => hs)
      · intro i callback hc
        exact (h.heard i callback hc).mono hup (fun s hs => hs)
      · intro p hp i hi
        rcases List.mem_cons.mp hp with rfl | hp
        · rw [howner] at hi
          cases hi
        · exact h.sent p hp i hi
  | relay index now order =>
    simp only [step]
    split
    · exact h
    · rename_i data remote hup
      exact h.datagram now order (List.mem_of_getElem? hup)
  | sweepStart now order =>
    apply h.sweep
    · intro s hs
      simp only [Relay.step] at hs
      split at hs <;> exact hs
    · simp only [Relay.step]
      split <;> rfl
    · simp only [Relay.step]
      split <;> rfl
    · intro d hd
      cases hd
  | sweepNext order => exact h.sweepNext order

end Clients

theorem sound_start (options : ServerOptions) (hash : Bytes) (version : Text) :
    (start options hash version).Sound addresses where
  wellKept := Relay.wellKept_start options hash version
  stored := by
    intro s h
    rcases h with h | h | h <;> cases h
  nextId := rfl
  numbered := by
    intro s h
    cases h
  distinct := by
    intro s h
    cases h
  introduced := by
    intro s h
    cases h
  told := by
    intro d h
    cases h
  heard := by
    intro i callback h
    cases h
  sent := by
    intro p h
    cases h

/-- Session ids are handed out in order, so the first 2^32 of them differ. -/
theorem Sound.eq_of_sessionId (h : w.Sound addresses)
    (hwrap : w.relay.server.nextObj ≤ 2 ^ 32) {s s' : ClientSession} (hs : s ∈ w.sessions)
    (hs' : s' ∈ w.sessions) (hid : s.sessionId = s'.sessionId) : s = s' := by
  obtain ⟨hlt, heq⟩ := h.numbered s hs
  obtain ⟨hlt', heq'⟩ := h.numbered s' hs'
  apply h.distinct s hs s' hs'
  have hnat := congrArg UInt32.toNat (heq.symm.trans (hid.trans heq'))
  simp only [UInt32.toNat_ofNat'] at hnat
  omega

/-- The client was handed this frame to send under this number. -/
def Spoke (w : VoiceWorld Client) (i : Client) (sequence : UInt16) (isLast : Bool)
    (opus : Bytes) : Prop :=
  ∃ call ∈ w.calls, call.caller = i ∧ call.call = .sendVoiceFrame opus isLast ∧
    call.client.voiceSequence = sequence

/-- The client asked to connect under an identity that the relay reads as this uid. -/
def Presented (w : VoiceWorld Client) (i : Client) (uid : Bytes) : Prop :=
  ∃ call ∈ w.calls, call.caller = i ∧ ∃ hash, call.call = .tryHandshake hash ∧
    recoded (truncateUtf8 call.client.identity.uid maxUidLength) = uid

/-- The client announced a transmission that the relay reads as this one. -/
def Reported (w : VoiceWorld Client) (i : Client) (active : Bool) (freq : Bytes) (range : UInt16)
    (sub : Bytes) : Prop :=
  ∃ call ∈ w.calls, call.caller = i ∧ ∃ f s, call.call = .sendRadioTx active f range s ∧
    recoded (truncateUtf8 f maxFreqLength) = freq ∧ recoded (truncateUtf8 s maxSubtypeLength) = sub

/-- The client did what the callback reports. -/
def Backed (w : VoiceWorld Client) (i : Client) : Callback → Prop
  | .remoteJoined _ uid _ => w.Presented i uid
  | .voiceFrame _ sequence isLast opus => w.Spoke i sequence isLast opus
  | .radioTx _ active freq range sub => w.Reported i active freq range sub
  | .remoteLeft _ => True
  | .connectionStateChanged _ => True

end VoiceWorld

namespace Voice.SenderCall

def packetType : SenderCall → PacketType
  | .tryHandshake _ => .connectRequest
  | .sendRadioTx .. => .radioTxUpdate
  | .sendVoiceFrame .. => .voiceUp
  | .ping _ => .ping

variable {c : VoiceNetworkClient} {opus freq sub : Bytes} {isLast active : Bool} {range : UInt16}
  {packet : Bytes} {hash : PasswordHash}

theorem writes_sendVoiceFrame
    (h : (SenderCall.sendVoiceFrame opus isLast).writes c = some (.ok packet)) :
    packet = PacketType.voiceUp.code :: voiceUpBody c.voiceSequence (voiceFlags isLast) opus := by
  simp only [writes] at h
  split at h
  · cases h
  · rename_i hguard
    have hshort : opus.length ≤ maxOpusFrameLength := by
      apply Nat.le_of_not_lt
      intro hlong
      exact hguard (Or.inr (Or.inl hlong))
    rw [voiceUpPacket_eq _ _ hshort] at h
    exact (Except.ok.inj (Option.some.inj h)).symm

theorem writes_sendRadioTx
    (h : (SenderCall.sendRadioTx active freq range sub).writes c = some (.ok packet)) :
    packet = PacketType.radioTxUpdate.code :: radioTxUpdateBody (if active then 1 else 0)
      (truncateUtf8 freq maxFreqLength) range (truncateUtf8 sub maxSubtypeLength) := by
  have hpacket := radioTxUpdatePacket_eq active freq range sub
  rw [writes, hpacket] at h
  exact (Except.ok.inj (Option.some.inj h)).symm

private theorem writes_tryHandshake
    (h : (SenderCall.tryHandshake hash).writes c = some (.ok packet)) :
    packet = PacketType.connectRequest.code :: RelayServer.connectRequestBody hash.1
      (truncateUtf8 c.identity.uid maxUidLength) (truncateUtf8 c.identity.name maxNameLength) := by
  have hpacket := connectRequestPacket_eq hash c.identity
  rw [writes, hpacket] at h
  exact (Except.ok.inj (Option.some.inj h)).symm

private theorem writes_packetType {call : SenderCall} (h : call.writes c = some (.ok packet)) :
    ∃ reader, packet = call.packetType.code :: reader := by
  cases call with
  | tryHandshake hash => exact ⟨_, writes_tryHandshake h⟩
  | sendRadioTx active freq range sub => exact ⟨_, writes_sendRadioTx h⟩
  | sendVoiceFrame opus isLast => exact ⟨_, writes_sendVoiceFrame h⟩
  | ping now =>
    have hok : pingPacket now = .ok (PacketType.ping.code ::
        littleEndian32 (UInt32.ofInt (now / milliseconds 1))) := rfl
    rw [writes, hok] at h
    exact ⟨_, (Except.ok.inj (Option.some.inj h)).symm⟩

end Voice.SenderCall

private theorem VoiceServer.RelayServer.admitted_request {server : RelayServer}
    {hash : PasswordHash}
    {uid name : Bytes} (huid : uid.length ≤ maxUidLength) (hname : name.length ≤ maxNameLength)
    {u n : Text}
    (h : server.admitted (PacketType.connectRequest.code ::
      RelayServer.connectRequestBody hash.1 uid name) = some (u, n)) :
    u = decodeUtf8 uid := by
  have hverdict := server.connectVerdict_body hash.2 huid hname
  simp only [admitted, PacketType.ofCode_code, if_true, hverdict] at h
  split at h
  · rename_i u' n' heq
    split at heq
    · cases heq
    · split at heq
      · cases heq
      · cases heq
        cases h
        rfl
  · cases h

namespace VoiceWorld

variable {Client : Type} {addresses : Addresses Client} {w : VoiceWorld Client}

private theorem Sound.call_of_up (h : w.Sound addresses) {endPoint : IPEndPoint} {i : Client}
    (howner : addresses.owner endPoint = some i) {t : PacketType} {reader : Bytes}
    (hup : (t.code :: reader, endPoint) ∈ w.up) (hroster : t ≠ .rosterRequest) :
    ∃ call ∈ w.calls, call.caller = i ∧
      call.call.writes call.client = some (.ok (t.code :: reader)) ∧ call.call.packetType = t := by
  rcases h.sent _ hup i howner with heq | ⟨call, hcall, hcaller, hwrites⟩
  · have hcode : t.code = PacketType.rosterRequest.code := (List.cons.inj heq).1
    have htype := congrArg PacketType.ofCode hcode
    simp only [PacketType.ofCode_code] at htype
    exact absurd (Option.some.inj htype) hroster
  · obtain ⟨rest, heq⟩ := SenderCall.writes_packetType hwrites
    have htype := congrArg PacketType.ofCode (List.cons.inj heq).1
    simp only [PacketType.ofCode_code] at htype
    exact ⟨call, hcall, hcaller, hwrites, (Option.some.inj htype).symm⟩

private theorem Sound.spoke (h : w.Sound addresses) {endPoint : IPEndPoint} {i : Client}
    (howner : addresses.owner endPoint = some i) {sequence : UInt16} {isLast : Bool} {opus : Bytes}
    (hsaid : Said w.up endPoint sequence isLast opus) : w.Spoke i sequence isLast opus := by
  obtain ⟨reader, flags, hup, hread, hlast⟩ := hsaid
  obtain ⟨⟨caller, c, call⟩, hcall, hcaller, hwrites, htype⟩ :=
    h.call_of_up howner hup (by decide)
  cases call with
  | sendVoiceFrame opus' isLast' =>
    have hbody := (List.cons.inj (SenderCall.writes_sendVoiceFrame hwrites)).2
    rw [hbody, RelayServer.readVoiceUp_body] at hread
    cases hread
    rw [voiceFlags_lastFrame] at hlast
    rw [← hlast]
    exact ⟨_, hcall, hcaller, rfl, rfl⟩
  | tryHandshake hash => cases htype
  | sendRadioTx active freq range sub => cases htype
  | ping now => cases htype

theorem Sound.reported (h : w.Sound addresses) {endPoint : IPEndPoint} {i : Client}
    (howner : addresses.owner endPoint = some i) {active : Bool} {freq : Bytes} {range : UInt16}
    {sub : Bytes} (htransmitted : Transmitted w.up endPoint active freq range sub) :
    w.Reported i active freq range sub := by
  obtain ⟨reader, flag, f, s, hup, hread, hactive, hf, hs⟩ := htransmitted
  obtain ⟨⟨caller, c, call⟩, hcall, hcaller, hwrites, htype⟩ :=
    h.call_of_up howner hup (by decide)
  cases call with
  | sendRadioTx active' freq' range' sub' =>
    have hbody := (List.cons.inj (SenderCall.writes_sendRadioTx hwrites)).2
    rw [hbody, RelayServer.readRadioTxUpdate_body _ _ (truncateUtf8_length freq' maxFreqLength)
      (truncateUtf8_length sub' maxSubtypeLength)] at hread
    cases hread
    have hflag : ((if active' then (1 : UInt8) else 0) != 0) = active' := by
      cases active' <;> decide
    rw [hflag] at hactive
    rw [← hactive]
    exact ⟨_, hcall, hcaller, freq', sub', rfl, hf, hs⟩
  | sendVoiceFrame opus isLast => cases htype
  | tryHandshake hash => cases htype
  | ping now => cases htype

private theorem Sound.presented (h : w.Sound addresses) {endPoint : IPEndPoint} {i : Client}
    (howner : addresses.owner endPoint = some i) {uid : Bytes}
    (hintroduced : Introduced w.up endPoint uid) : w.Presented i uid := by
  obtain ⟨data, hup, server, u, name, hadmitted, huid⟩ := hintroduced
  cases data with
  | nil => cases hadmitted
  | cons packetType reader =>
    have hcode : packetType = PacketType.connectRequest.code := by
      simp only [RelayServer.admitted] at hadmitted
      split at hadmitted
      · rename_i htype
        exact RelayServer.code_of_ofCode htype
      · cases hadmitted
    rw [hcode] at hup hadmitted
    obtain ⟨⟨caller, c, call⟩, hcall, hcaller, hwrites, htype⟩ :=
      h.call_of_up howner hup (by decide)
    cases call with
    | tryHandshake hash =>
      rw [SenderCall.writes_tryHandshake hwrites] at hadmitted
      have hread := RelayServer.admitted_request (truncateUtf8_length _ _)
        (truncateUtf8_length _ _) hadmitted
      refine ⟨_, hcall, hcaller, hash, rfl, ?_⟩
      rw [← huid, hread]
      rfl
    | sendRadioTx active freq range sub => cases htype
    | sendVoiceFrame opus isLast => cases htype
    | ping now => cases htype

theorem Sound.backed (h : w.Sound addresses) {endPoint : IPEndPoint} {i : Client}
    (howner : addresses.owner endPoint = some i) {callback : Callback}
    (hcame : CameFrom w.up endPoint callback) : w.Backed i callback := by
  cases callback with
  | remoteJoined sessionId uid name => exact h.presented howner hcame
  | voiceFrame sessionId sequence isLast opus => exact h.spoke howner hcame
  | radioTx sessionId active freq range sub => exact h.reported howner hcame
  | remoteLeft sessionId => trivial
  | connectionStateChanged connected => trivial

end VoiceWorld

end TaskForceRadio
