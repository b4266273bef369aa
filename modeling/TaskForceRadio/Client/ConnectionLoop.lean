import TaskForceRadio.Foundation.Execution
import TaskForceRadio.Client.VoiceNetworkClient

/-!
# Reconfiguration and watchdog of the connection loop

Iterations of `threadMain` interleaved with edits of the configuration. An iteration that
starts connected gives up the old connection when the configuration changed, and ends without
the connection when the server has been silent too long, unless it finds no server configured:
then it does neither.
-/

set_option autoImplicit false

namespace TaskForceRadio.Voice

inductive LoopEvent where
  | setServer (host : Bytes) (port : UInt16) (password : Bytes)
  | setIdentity (uid name : Bytes)
  | stop
  | iterate (io : LoopIo)

/-- The client and the time of the last datagram it read. -/
structure LoopRun where
  client : VoiceNetworkClient := {}
  lastRead : Time := 0

namespace LoopRun

def step (r : LoopRun) : LoopEvent → LoopRun
  | .setServer host port password => { r with client := r.client.setServer host port password }
  | .setIdentity uid name => { r with client := r.client.setIdentity uid name }
  | .stop => { r with client := { r.client with running := false } }
  | .iterate io =>
      let o := r.client.iterate io
      { client := o.client, lastRead := o.reads.getLast?.getD r.lastRead }

/-- What an iteration of the running loop owes: a changed configuration ends the old connection,
and nobody stays connected to a server that has been silent for longer than the timeout. -/
structure KeepsContract (r : LoopRun) (io : LoopIo) : Prop where
  reconfigured : r.client.connected = true → r.client.configChanged = true →
    ((r.client.iterate io).client.connected = false ∧
      Callback.connectionStateChanged false ∈ (r.client.iterate io).callbacks) ∨
    ((r.client.iterate io).client.connected = true ∧
      (r.client.iterate io).client.activeConfig = r.client.config ∧
      (r.client.iterate io).client.activeUid = r.client.identity.uid)
  watched : (r.client.iterate io).client.running = true →
    (r.client.iterate io).client.connected = true →
    io.now ≤ (r.step (.iterate io)).lastRead + kServerTimeout

def IterationsKeepContract (r : LoopRun) : LoopEvent → Prop
  | .iterate io => r.client.running = true → r.KeepsContract io
  | _ => True

/-- An iteration that starts connected starts with a host and a port. -/
def ConfiguredWhileConnected (r : LoopRun) : LoopEvent → Prop
  | .iterate _ => r.client.running = true → r.client.connected = true →
      r.client.config.host ≠ [] ∧ r.client.config.port ≠ 0
  | _ => True

end LoopRun

namespace VoiceNetworkClient

private theorem configured_iff (c : VoiceNetworkClient) :
    c.configured = true ↔ c.config.host ≠ [] ∧ c.config.port ≠ 0 := by
  simp [configured]

/-- The parts of the client that a receive pump and the housekeeping leave alone. -/
structure SameConnection (c c' : VoiceNetworkClient) : Prop where
  running : c'.running = c.running
  config : c'.config = c.config
  identity : c'.identity = c.identity
  activeConfig : c'.activeConfig = c.activeConfig
  activeUid : c'.activeUid = c.activeUid

theorem SameConnection.refl (c : VoiceNetworkClient) : c.SameConnection c :=
  ⟨rfl, rfl, rfl, rfl, rfl⟩

theorem SameConnection.trans {a b c : VoiceNetworkClient} (h : a.SameConnection b)
    (h' : b.SameConnection c) :
    a.SameConnection c :=
  ⟨h'.running.trans h.running, h'.config.trans h.config, h'.identity.trans h.identity,
    h'.activeConfig.trans h.activeConfig, h'.activeUid.trans h.activeUid⟩

private theorem handshakeLoop_same (request : Bytes) (attempts : List HandshakeAttempt)
    (c : VoiceNetworkClient) :
    c.SameConnection (handshakeLoop request attempts c).client ∧
      (handshakeLoop request attempts c).client.connected = c.connected := by
  have hopen : ∀ socket, c.SameConnection { c with socket := socket } :=
    fun _ => ⟨rfl, rfl, rfl, rfl, rfl⟩
  induction attempts generalizing c with
  | nil => exact ⟨SameConnection.refl c, rfl⟩
  | cons attempt rest ih =>
    have hlater : ∀ socket, c.SameConnection
        (handshakeLoop request rest { c with socket := socket }).client ∧
        (handshakeLoop request rest { c with socket := socket }).client.connected =
          c.connected := by
      intro socket
      have h := ih { c with socket := socket } (fun _ => ⟨rfl, rfl, rfl, rfl, rfl⟩)
      exact ⟨(hopen socket).trans h.1, h.2⟩
    cases attempt with
    | noSocket => exact hlater none
    | sendFailed socket => exact hlater (some socket)
    | sent socket replies =>
      rw [handshakeLoop]
      split
      · exact ⟨⟨rfl, rfl, rfl, rfl, rfl⟩, rfl⟩
      · exact ⟨⟨rfl, rfl, rfl, rfl, rfl⟩, rfl⟩
      · exact hlater (some socket)

theorem tryHandshake_same (c : VoiceNetworkClient) (io : LoopIo) :
    c.SameConnection (c.tryHandshake io).client ∧
      (c.tryHandshake io).client.connected = c.connected := by
  simp only [tryHandshake]
  split
  · exact ⟨SameConnection.refl c, rfl⟩
  · split
    · exact ⟨SameConnection.refl c, rfl⟩
    · exact handshakeLoop_same _ _ _

end VoiceNetworkClient

namespace LoopOutcome

/-- `m_lastRecvTime` is the time of the last read, or of one before the iteration. -/
def Tracks (o : LoopOutcome) (before : Time) : Prop :=
  o.client.lastRecvTime = o.reads.getLast?.getD before

private theorem connect_accepted {o : LoopOutcome} {io : LoopIo}
    (h : (o.client.tryHandshake io).accepted = true) :
    (o.connect io).client.connected = true ∧
      (o.connect io).client.activeConfig = o.client.config ∧
      (o.connect io).client.activeUid = o.client.identity.uid ∧
      (o.connect io).client.running = o.client.running ∧
      (o.connect io).client.config = o.client.config ∧
      (o.connect io).client.identity = o.client.identity ∧
      (o.connect io).client.lastRecvTime = io.connectedAt ∧
      (o.connect io).callbacks = o.callbacks ++ [.connectionStateChanged true] ∧
      (o.connect io).reads = o.reads ++ [io.connectedAt] := by
  have hsame := (o.client.tryHandshake_same io).1
  rw [connect, if_pos h]
  exact ⟨rfl, hsame.config, congrArg Identity.uid hsame.identity, hsame.running, hsame.config,
    hsame.identity, rfl, rfl, rfl⟩

private theorem connect_refused {o : LoopOutcome} {io : LoopIo}
    (h : (o.client.tryHandshake io).accepted = false) :
    (o.connect io).client.connected = o.client.connected ∧
      o.client.SameConnection (o.connect io).client ∧
      (o.connect io).callbacks = o.callbacks := by
  obtain ⟨hsame, hconnected⟩ := o.client.tryHandshake_same io
  rw [connect, if_neg (by rw [h]; exact Bool.false_ne_true)]
  exact ⟨hconnected, ⟨hsame.running, hsame.config, hsame.identity, hsame.activeConfig,
    hsame.activeUid⟩, rfl⟩

/-- What the pump and the ping keep. -/
structure Continues (o o' : LoopOutcome) : Prop where
  same : o.client.SameConnection o'.client
  connected : o'.client.connected = o.client.connected
  callbacks : ∀ callback ∈ o.callbacks, callback ∈ o'.callbacks
  tracks : ∀ before, o.Tracks before → o'.Tracks before

theorem Continues.refl (o : LoopOutcome) : o.Continues o :=
  ⟨VoiceNetworkClient.SameConnection.refl _, rfl, fun _ h => h, fun _ h => h⟩

theorem Continues.trans {a b c : LoopOutcome} (h : a.Continues b) (h' : b.Continues c) :
    a.Continues c :=
  ⟨h.same.trans h'.same, h'.connected.trans h.connected,
    fun callback hc => h'.callbacks callback (h.callbacks callback hc),
    fun before ht => h'.tracks before (h.tracks before ht)⟩

private theorem continues_receive (o : LoopOutcome) (at_ : Time) (data : Bytes) :
    o.Continues (o.receive at_ data) where
  same := ⟨rfl, rfl, rfl, rfl, rfl⟩
  connected := rfl
  callbacks := fun _ h => List.mem_append_left _ h
  tracks := by
    intro before _
    simp [Tracks, receive]

private theorem continues_pumpReceive (o : LoopOutcome) (io : LoopIo) :
    o.Continues (o.pumpReceive io) := by
  simp only [pumpReceive]
  generalize io.received.take kMaxPacketsPerPump = received
  induction received generalizing o with
  | nil => exact Continues.refl o
  | cons r rest ih =>
    rw [List.foldl_cons]
    exact (continues_receive o r.1 r.2).trans (ih _)

private theorem continues_sendRaw (o : LoopOutcome) (packet : Bytes) : o.Continues
    (o.sendRaw packet) :=
  ⟨VoiceNetworkClient.SameConnection.refl _, rfl, fun _ h => h, fun _ h => h⟩

private theorem continues_pingIfDue (o : LoopOutcome) (now : Time) : o.Continues
    (o.pingIfDue now) := by
  simp only [pingIfDue]
  split
  · obtain ⟨packet, hpacket⟩ : ∃ packet, pingPacket now = .ok packet := ⟨_, rfl⟩
    rw [hpacket]
    have hsent := (continues_sendRaw o packet).trans (continues_sendRaw _ rosterRequestPacket)
    exact ⟨⟨hsent.same.running, hsent.same.config, hsent.same.identity, hsent.same.activeConfig,
      hsent.same.activeUid⟩, hsent.connected, hsent.callbacks, hsent.tracks⟩
  · exact Continues.refl o

end LoopOutcome

namespace VoiceNetworkClient

private theorem iterate_unconfigured {c : VoiceNetworkClient} (hrun : c.running = true)
    (h : c.configured = false) (io : LoopIo) :
    c.iterate io = { client := c } := by
  simp [iterate, hrun, h]

/-- The connection an iteration works with after the reconnect decision and the handshake. -/
def attach (c : VoiceNetworkClient) (io : LoopIo) : LoopOutcome :=
  let o : LoopOutcome :=
    if c.connected && c.configChanged then
      LoopOutcome.setConnected { client := c.closeSocket } false
    else { client := c }
  if o.client.connected then o else o.connect io

/-- The rest of a configured iteration. -/
def serve (o : LoopOutcome) (io : LoopIo) : LoopOutcome :=
  let o := o.pumpReceive io
  if io.stopped then { o with client := { o.client.closeSocket with running := false } }
  else (o.pingIfDue io.now).watchdog io.now

private theorem iterate_configured {c : VoiceNetworkClient} (hrun : c.running = true)
    (h : c.configured = true) (io : LoopIo) :
    c.iterate io = if (c.attach io).client.connected then serve (c.attach io) io
      else c.attach io := by
  simp only [iterate, hrun, h, Bool.not_true, Bool.false_eq_true, if_false]
  show (if (!(c.attach io).client.connected) = true then _ else _) = _
  cases (c.attach io).client.connected <;> rfl

private theorem attach_cases (c : VoiceNetworkClient) (io : LoopIo) :
    (c.connected = true ∧ c.configChanged = false ∧ c.attach io = { client := c }) ∨
    (c.connected = true ∧ c.attach io =
      (LoopOutcome.setConnected { client := c.closeSocket } false).connect io) ∨
    (c.connected = false ∧ c.attach io = LoopOutcome.connect { client := c } io) := by
  simp only [attach]
  cases hconnected : c.connected with
  | false =>
    refine Or.inr (Or.inr ⟨rfl, ?_⟩)
    simp [hconnected]
  | true =>
    cases hchanged : c.configChanged with
    | false =>
      refine Or.inl ⟨rfl, rfl, ?_⟩
      simp [hconnected]
    | true =>
      refine Or.inr (Or.inl ⟨rfl, ?_⟩)
      simp [LoopOutcome.setConnected]

private theorem attach_connected {c : VoiceNetworkClient} {io : LoopIo}
    (h : (c.attach io).client.connected = true) :
    (c.connected = true ∧ c.configChanged = false ∧ c.attach io = { client := c }) ∨
    ((c.attach io).client.activeConfig = c.config ∧
      (c.attach io).client.activeUid = c.identity.uid ∧
      (c.connected = true → Callback.connectionStateChanged false ∈ (c.attach io).callbacks) ∧
      ∀ before, (c.attach io).Tracks before) := by
  rcases c.attach_cases io with hkept | ⟨_, hnew⟩ | ⟨hnone, hnew⟩
  · exact Or.inl hkept
  · rw [hnew] at h ⊢
    apply Or.inr
    cases haccepted : ((LoopOutcome.setConnected { client := c.closeSocket }
        false).client.tryHandshake io).accepted with
    | true =>
      obtain ⟨_, hconfig, huid, _, _, _, hrecv, hcallbacks, hreads⟩ :=
        LoopOutcome.connect_accepted haccepted
      refine ⟨hconfig, huid, ?_, ?_⟩
      · intro _
        rw [hcallbacks]
        simp [LoopOutcome.setConnected]
      · intro before
        simp [LoopOutcome.Tracks, hrecv, hreads]
    | false =>
      rw [(LoopOutcome.connect_refused haccepted).1] at h
      cases h
  · rw [hnew] at h ⊢
    apply Or.inr
    cases haccepted : (c.tryHandshake io).accepted with
    | true =>
      obtain ⟨_, hconfig, huid, _, _, _, hrecv, _, hreads⟩ :=
        @LoopOutcome.connect_accepted { client := c } io haccepted
      refine ⟨hconfig, huid, ?_, ?_⟩
      · intro hconnected
        rw [hnone] at hconnected
        cases hconnected
      · intro before
        simp [LoopOutcome.Tracks, hrecv, hreads]
    | false =>
      rw [(@LoopOutcome.connect_refused { client := c } io haccepted).1] at h
      exact absurd (hnone.symm.trans h) Bool.false_ne_true

private theorem attach_disconnected {c : VoiceNetworkClient} {io : LoopIo}
    (h : (c.attach io).client.connected = false) (hc : c.connected = true) :
    Callback.connectionStateChanged false ∈ (c.attach io).callbacks := by
  rcases c.attach_cases io with ⟨_, _, hkept⟩ | ⟨_, hnew⟩ | ⟨hnone, _⟩
  · rw [hkept] at h
    exact absurd (h.symm.trans hc) Bool.false_ne_true
  · rw [hnew] at h ⊢
    cases haccepted : ((LoopOutcome.setConnected { client := c.closeSocket }
        false).client.tryHandshake io).accepted with
    | true =>
      rw [(LoopOutcome.connect_accepted haccepted).1] at h
      cases h
    | false =>
      rw [(LoopOutcome.connect_refused haccepted).2.2]
      simp [LoopOutcome.setConnected]
  · exact absurd (hnone.symm.trans hc) Bool.false_ne_true

private theorem serve_cases (o : LoopOutcome) (io : LoopIo)
    (hconnected : o.client.connected = true) :
    ((serve o io).client.connected = true ∧ o.client.SameConnection
        { (serve o io).client with running := o.client.running } ∧
      (∀ callback ∈ o.callbacks, callback ∈ (serve o io).callbacks) ∧
      (∀ before, o.Tracks before → (serve o io).Tracks before) ∧
      ((serve o io).client.running = true →
        io.now ≤ (serve o io).client.lastRecvTime + kServerTimeout)) ∨
    ((serve o io).client.connected = false ∧
      Callback.connectionStateChanged false ∈ (serve o io).callbacks) := by
  have hpump := o.continues_pumpReceive io
  have hping := hpump.trans ((o.pumpReceive io).continues_pingIfDue io.now)
  simp only [serve]
  split
  · refine Or.inl ⟨hpump.connected.trans hconnected, ?_, hpump.callbacks, hpump.tracks, ?_⟩
    · exact ⟨rfl, hpump.same.config, hpump.same.identity, hpump.same.activeConfig,
        hpump.same.activeUid⟩
    · intro h
      cases h
  · simp only [LoopOutcome.watchdog]
    split
    · refine Or.inr ⟨rfl, ?_⟩
      simp [LoopOutcome.setConnected]
    · rename_i hsilent
      refine Or.inl ⟨hping.connected.trans hconnected, ?_, hping.callbacks, hping.tracks, ?_⟩
      · exact ⟨rfl, hping.same.config, hping.same.identity, hping.same.activeConfig,
          hping.same.activeUid⟩
      · intro _
        exact not_lt.mp hsilent

end VoiceNetworkClient

namespace LoopRun

/-- Whoever is connected connected with a configuration, and `m_lastRecvTime` is the time of the
last read. -/
def Sound (r : LoopRun) : Prop :=
  r.client.connected = true →
    (r.client.activeConfig.host ≠ [] ∧ r.client.activeConfig.port ≠ 0) ∧
      r.client.lastRecvTime = r.lastRead

private theorem sound_iterate {r : LoopRun} (hs : r.Sound) (io : LoopIo) :
    (r.step (.iterate io)).Sound := by
  intro hafter
  simp only [step] at hafter ⊢
  cases hrun : r.client.running with
  | false =>
    have hiter : r.client.iterate io = { client := r.client.closeSocket } := by
      simp [VoiceNetworkClient.iterate, hrun]
    rw [hiter] at hafter ⊢
    exact hs hafter
  | true =>
    cases hconf : r.client.configured with
    | false =>
      rw [VoiceNetworkClient.iterate_unconfigured hrun hconf] at hafter ⊢
      exact hs hafter
    | true =>
      rw [VoiceNetworkClient.iterate_configured hrun hconf] at hafter ⊢
      cases hattached : (r.client.attach io).client.connected with
      | false =>
        simp only [hattached, Bool.false_eq_true, if_false] at hafter
      | true =>
        simp only [hattached, if_true] at hafter ⊢
        have htracks : (r.client.attach io).Tracks r.lastRead ∧
            (r.client.attach io).client.activeConfig.host ≠ [] ∧
            (r.client.attach io).client.activeConfig.port ≠ 0 := by
          rcases VoiceNetworkClient.attach_connected hattached with
            ⟨hconnected, _, heq⟩ | ⟨hconfig, _, _, htracks⟩
          · obtain ⟨hactive, hrecv⟩ := hs hconnected
            rw [heq]
            exact ⟨hrecv, hactive⟩
          · rw [hconfig]
            exact ⟨htracks _, (VoiceNetworkClient.configured_iff _).mp hconf⟩
        rcases VoiceNetworkClient.serve_cases _ io hattached with
          ⟨_, hsame, _, hkeeps, _⟩ | ⟨hoff, _⟩
        · refine ⟨?_, hkeeps _ htracks.1⟩
          have hactive := hsame.activeConfig
          dsimp only at hactive
          rw [hactive]
          exact htracks.2
        · rw [hoff] at hafter
          cases hafter

theorem sound_step (r : LoopRun) (e : LoopEvent) (hs : r.Sound) : (r.step e).Sound := by
  cases e with
  | setServer host port password => exact hs
  | setIdentity uid name => exact hs
  | stop => exact hs
  | iterate io => exact sound_iterate hs io

private theorem keepsContract_of_configured {r : LoopRun} (hs : r.Sound)
    (hrun : r.client.running = true)
    (hconf : r.client.configured = true) (io : LoopIo) :
    r.KeepsContract io := by
  have hiter := VoiceNetworkClient.iterate_configured hrun hconf io
  refine ⟨?_, ?_⟩
  · intro hconnected hchanged
    rw [hiter]
    cases hattached : (r.client.attach io).client.connected with
    | false =>
      simp only [Bool.false_eq_true, if_false]
      exact Or.inl ⟨hattached, VoiceNetworkClient.attach_disconnected hattached hconnected⟩
    | true =>
      simp only [if_true]
      rcases VoiceNetworkClient.attach_connected hattached with
        ⟨_, hunchanged, _⟩ | ⟨hconfig, huid, _, _⟩
      · rw [hchanged] at hunchanged
        cases hunchanged
      · rcases VoiceNetworkClient.serve_cases _ io hattached with
          ⟨hon, hsame, _⟩ | hoff
        · exact Or.inr ⟨hon, hsame.activeConfig.trans hconfig, hsame.activeUid.trans huid⟩
        · exact Or.inl hoff
  · intro hstill hon
    have hrecv := (sound_iterate hs io hon).2
    rw [← hrecv]
    simp only [step]
    rw [hiter] at hstill hon ⊢
    cases hattached : (r.client.attach io).client.connected with
    | false =>
      simp only [hattached, Bool.false_eq_true, if_false] at hon
    | true =>
      simp only [hattached, if_true] at hstill hon ⊢
      rcases VoiceNetworkClient.serve_cases _ io hattached with
        ⟨_, _, _, _, hwatched⟩ | ⟨hoff, _⟩
      · exact hwatched hstill
      · rw [hoff] at hon
        cases hon

private theorem keepsContract_of_disconnected {r : LoopRun} (hrun : r.client.running = true)
    (hconf : r.client.configured = false) (hoff : r.client.connected = false) (io : LoopIo) :
    r.KeepsContract io := by
  have hiter := VoiceNetworkClient.iterate_unconfigured hrun hconf io
  refine ⟨?_, ?_⟩
  · intro hon
    rw [hoff] at hon
    cases hon
  · intro _ hon
    rw [hiter] at hon
    rw [hoff] at hon
    cases hon

private theorem not_keepsContract {r : LoopRun} (hs : r.Sound) (hrun : r.client.running = true)
    (hon : r.client.connected = true) (hconf : r.client.configured = false) (io : LoopIo) :
    ¬ r.KeepsContract io := by
  intro h
  have hactive := (hs hon).1
  have hne : r.client.activeConfig ≠ r.client.config := by
    intro heq
    rw [heq, ← VoiceNetworkClient.configured_iff, hconf] at hactive
    cases hactive
  have hchanged : r.client.configChanged = true := by
    by_contra hunchanged
    simp only [VoiceNetworkClient.configChanged, Bool.or_eq_true, bne_iff_ne, not_or, not_not]
      at hunchanged
    obtain ⟨⟨⟨hhost, hport⟩, hpassword⟩, _⟩ := hunchanged
    apply hne
    cases hA : r.client.activeConfig
    cases hC : r.client.config
    simp_all
  have hleft := h.reconfigured hon hchanged
  rw [VoiceNetworkClient.iterate_unconfigured hrun hconf io] at hleft
  rcases hleft with ⟨hoff, _⟩ | ⟨_, hconfig, _⟩
  · rw [hon] at hoff
    cases hoff
  · exact hne hconfig

/-- In every run every iteration keeps the contract exactly if no iteration that starts
connected starts without a host or without a port. -/
theorem iterations_keep_contract_iff (history : List LoopEvent) :
    Guarded step IterationsKeepContract {} history ↔
      Guarded step ConfiguredWhileConnected {} history := by
  apply guarded_congr (I := Sound)
  · intro h
    cases h
  · exact sound_step
  · intro r e hs
    cases e with
    | setServer host port password => exact Iff.rfl
    | setIdentity uid name => exact Iff.rfl
    | stop => exact Iff.rfl
    | iterate io =>
      apply imp_congr_right
      intro hrun
      cases hconf : r.client.configured with
      | true =>
        exact iff_of_true (keepsContract_of_configured hs hrun hconf io)
          (fun _ => (VoiceNetworkClient.configured_iff _).mp hconf)
      | false =>
        have hnot : ¬ (r.client.config.host ≠ [] ∧ r.client.config.port ≠ 0) := by
          rw [← VoiceNetworkClient.configured_iff, hconf]
          exact Bool.false_ne_true
        cases hon : r.client.connected with
        | true =>
          exact iff_of_false (not_keepsContract hs hrun hon hconf io)
            (fun h => hnot (h rfl))
        | false =>
          exact iff_of_true (keepsContract_of_disconnected hrun hconf hon io)
            (fun h => nomatch h)

/-- A client connects, its host is cleared, and the next iteration leaves it connected. -/
theorem cleared_host_stays_connected :
    ¬ Guarded step IterationsKeepContract {}
      [.iterate { now := seconds 60 },
        .setServer [] 9987 [],
        .iterate {
          passwordHash := some ⟨List.replicate 32 0, rfl⟩
          attempts := [.sent 1 [PacketType.connectAccept.code :: littleEndian32 7]]
          connectedAt := 1000
          now := 2000 },
        .setIdentity (ascii "76561198000000000") (ascii "Ann"),
        .setServer (ascii "relay") 9987 []] := by
  intro h
  have hleft := (h.2 (by decide)).reconfigured (by decide) (by decide)
  rcases hleft with ⟨hoff, _⟩ | ⟨_, hconfig, _⟩
  · exact absurd hoff (by decide)
  · exact absurd hconfig (by decide)

end LoopRun

end TaskForceRadio.Voice
