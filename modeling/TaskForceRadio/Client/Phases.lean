import TaskForceRadio.Client.VoiceNetworkClient

/-!
# An iteration of the client in phases

`threadMain` looks at its configuration and connects if it has to, then reads datagrams one by one,
then keeps the connection alive. Between two phases other threads send.
-/

set_option autoImplicit false

namespace TaskForceRadio.Voice

/-- A connection to a server that is no longer the configured one is given up. -/
def VoiceNetworkClient.reconsider (c : VoiceNetworkClient) : LoopOutcome :=
  if c.connected && c.configChanged then
    LoopOutcome.setConnected { client := c.closeSocket } false
  else { client := c }

/-- The part of an iteration of `threadMain` before the receive pump. -/
def VoiceNetworkClient.enter (c : VoiceNetworkClient) (io : LoopIo) : LoopOutcome :=
  if !c.running then { client := c.closeSocket }
  else if !c.configured then { client := c }
  else if c.reconsider.client.connected then c.reconsider
  else c.reconsider.connect io

/-- The part behind the receive pump. -/
def LoopOutcome.leave (o : LoopOutcome) (io : LoopIo) : LoopOutcome :=
  if io.stopped then { o with client := { o.client.closeSocket with running := false } }
  else (o.pingIfDue io.now).watchdog io.now

theorem iterate_eq_phases (c : VoiceNetworkClient) (io : LoopIo) :
    c.iterate io =
      if c.running && c.configured && (c.enter io).client.connected then
        ((c.enter io).pumpReceive io).leave io
      else c.enter io := by
  have hiterate : c.iterate io =
      if !c.running then { client := c.closeSocket }
      else if !c.configured then { client := c }
      else
        let o := if c.reconsider.client.connected then c.reconsider else c.reconsider.connect io
        if !o.client.connected then o else (o.pumpReceive io).leave io := rfl
  rw [hiterate, VoiceNetworkClient.enter]
  cases c.running with
  | false => rfl
  | true =>
    cases c.configured with
    | false => rfl
    | true =>
      simp only [Bool.not_true, Bool.false_eq_true, if_false, Bool.true_and]
      generalize (if c.reconsider.client.connected = true then c.reconsider
        else c.reconsider.connect io) = o
      cases o.client.connected <;> rfl

private theorem mem_handshakeLoop_sent {request : Bytes} {attempts : List HandshakeAttempt}
    {c : VoiceNetworkClient} {p : Nat × Bytes}
    (h : p ∈ (VoiceNetworkClient.handshakeLoop request attempts c).sent) : p.2 = request := by
  induction attempts generalizing c with
  | nil => cases h
  | cons attempt rest ih =>
    cases attempt with
    | noSocket => exact ih h
    | sendFailed socket => exact ih h
    | sent socket replies =>
      rw [VoiceNetworkClient.handshakeLoop] at h
      split at h
      · rw [List.mem_singleton.mp h]
      · rw [List.mem_singleton.mp h]
      · rcases List.mem_cons.mp h with h | h
        · rw [h]
        · exact ih h

/-- The session that a callback describes or speaks for. -/
def Callback.subject : Callback → Option UInt32
  | .voiceFrame sessionId _ _ _ => some sessionId
  | .remoteJoined sessionId _ _ => some sessionId
  | .radioTx sessionId _ _ _ _ => some sessionId
  | .remoteLeft _ => none
  | .connectionStateChanged _ => none

section Phases
variable {c : VoiceNetworkClient} {o : LoopOutcome} {io : LoopIo} {p : Nat × Bytes}
  {callback : Callback}

private theorem reconsider_sent (c : VoiceNetworkClient) : c.reconsider.sent = [] := by
  simp only [VoiceNetworkClient.reconsider]
  split <;> rfl

private theorem reconsider_identity (c : VoiceNetworkClient) :
    c.reconsider.client.identity = c.identity := by
  simp only [VoiceNetworkClient.reconsider]
  split <;> rfl

/-- Before the pump a client sends nothing but requests under its own identity. -/
theorem mem_enter_sent (h : p ∈ (c.enter io).sent) :
    ∃ hash, io.passwordHash = some hash ∧ connectRequestPacket hash c.identity = .ok p.2 := by
  simp only [VoiceNetworkClient.enter] at h
  split at h
  · cases h
  · split at h
    · cases h
    · split at h
      · rw [reconsider_sent] at h
        cases h
      · have hsent : (c.reconsider.connect io).sent =
            (c.reconsider.client.tryHandshake io).sent := by
          simp only [LoopOutcome.connect]
          split <;> simp [LoopOutcome.setConnected, LoopOutcome.closeSocket, reconsider_sent]
        rw [hsent] at h
        simp only [VoiceNetworkClient.tryHandshake, reconsider_identity] at h
        split at h
        · cases h
        · rename_i hash hhash
          split at h
          · cases h
          · rename_i request hrequest
            rw [mem_handshakeLoop_sent h]
            exact ⟨hash, hhash, hrequest⟩

private theorem mem_reconsider_callbacks (h : callback ∈ c.reconsider.callbacks) :
    callback.subject = none := by
  simp only [VoiceNetworkClient.reconsider] at h
  split at h
  · rw [List.mem_singleton.mp h]
    rfl
  · cases h

theorem mem_enter_callbacks (h : callback ∈ (c.enter io).callbacks) :
    callback.subject = none := by
  simp only [VoiceNetworkClient.enter] at h
  split at h
  · cases h
  · split at h
    · cases h
    · split at h
      · exact mem_reconsider_callbacks h
      · simp only [LoopOutcome.connect] at h
        split at h
        · rcases List.mem_append.mp h with h | h
          · exact mem_reconsider_callbacks h
          · rw [List.mem_singleton.mp h]
            rfl
        · exact mem_reconsider_callbacks h

theorem mem_sendRaw {packet : Bytes} (h : p ∈ c.sendRaw packet) :
    p.2 = packet ∧ c.socket = some p.1 ∧ c.connected = true := by
  simp only [VoiceNetworkClient.sendRaw] at h
  split at h
  · rename_i socket hsocket
    split at h
    · rename_i hconnected
      rw [List.mem_singleton.mp h]
      exact ⟨rfl, hsocket, hconnected⟩
    · cases h
  · cases h

/-- After the pump it sends nothing but a ping and a request for the roster. -/
theorem mem_leave_sent (hnone : o.sent = []) (h : p ∈ (o.leave io).sent) :
    p.2 = rosterRequestPacket ∨ pingPacket io.now = .ok p.2 := by
  have hwatchdog : ∀ x : LoopOutcome, (x.watchdog io.now).sent = x.sent := by
    intro x
    simp only [LoopOutcome.watchdog]
    split <;> rfl
  simp only [LoopOutcome.leave] at h
  split at h
  · rw [show ({ o with client := { o.client.closeSocket with running := false } } :
      LoopOutcome).sent = [] from hnone] at h
    cases h
  · rw [hwatchdog] at h
    simp only [LoopOutcome.pingIfDue] at h
    split at h
    · obtain ⟨packet, hpacket⟩ : ∃ packet, pingPacket io.now = .ok packet := ⟨_, rfl⟩
      rw [hpacket] at h ⊢
      simp only [LoopOutcome.sendRaw, hnone, List.nil_append] at h
      rcases List.mem_append.mp h with h | h
      · exact Or.inr (by rw [(mem_sendRaw h).1])
      · exact Or.inl (mem_sendRaw h).1
    · rw [hnone] at h
      cases h

theorem mem_leave_callbacks (hnone : o.callbacks = []) (h : callback ∈ (o.leave io).callbacks) :
    callback.subject = none := by
  have hping : (o.pingIfDue io.now).callbacks = [] := by
    simp only [LoopOutcome.pingIfDue]
    split
    · exact hnone
    · exact hnone
  simp only [LoopOutcome.leave] at h
  split at h
  · rw [hnone] at h
    cases h
  · simp only [LoopOutcome.watchdog] at h
    split at h
    · simp only [LoopOutcome.setConnected, LoopOutcome.closeSocket, hping, List.nil_append] at h
      rw [List.mem_singleton.mp h]
      rfl
    · rw [hping] at h
      cases h

end Phases

end TaskForceRadio.Voice
