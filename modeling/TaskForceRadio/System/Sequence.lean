import TaskForceRadio.Client.ConnectionLoop
import TaskForceRadio.System.Attribution

/-!
# What a sequence number stands for

A client numbers its frames from 0 on every connection. As long as no connection reuses an
endpoint, a number stands for one frame until it wraps around, so a repeated datagram can only
repeat what was said.
-/

set_option autoImplicit false

namespace TaskForceRadio

open VoiceServer Voice

namespace Voice

def HandshakeAttempt.socket : HandshakeAttempt → Option Nat
  | .noSocket => none
  | .sendFailed socket => some socket
  | .sent socket _ => some socket

private theorem handshakeLoop_socket {request : Bytes} {attempts : List HandshakeAttempt}
    {c : VoiceNetworkClient}
    (h : (VoiceNetworkClient.handshakeLoop request attempts c).accepted = true) :
    ∃ attempt ∈ attempts, attempt.socket ≠ none ∧
      (VoiceNetworkClient.handshakeLoop request attempts c).client.socket = attempt.socket := by
  induction attempts generalizing c with
  | nil => cases h
  | cons attempt rest ih =>
    cases attempt with
    | noSocket =>
      obtain ⟨later, hlater, hrest⟩ := ih h
      exact ⟨later, List.mem_cons_of_mem _ hlater, hrest⟩
    | sendFailed socket =>
      obtain ⟨later, hlater, hrest⟩ := ih h
      exact ⟨later, List.mem_cons_of_mem _ hlater, hrest⟩
    | sent socket replies =>
      cases hreply : VoiceNetworkClient.awaitReply replies with
      | none =>
        simp only [VoiceNetworkClient.handshakeLoop, hreply] at h ⊢
        obtain ⟨later, hlater, hrest⟩ := ih h
        exact ⟨later, List.mem_cons_of_mem _ hlater, hrest⟩
      | some reply =>
        cases reply with
        | accept sid debugAudible version =>
          refine ⟨.sent socket replies, List.mem_cons_self, Option.some_ne_none socket, ?_⟩
          simp only [VoiceNetworkClient.handshakeLoop, hreply, HandshakeAttempt.socket]
        | reject =>
          simp only [VoiceNetworkClient.handshakeLoop, hreply] at h
          cases h

private theorem tryHandshake_socket {c : VoiceNetworkClient} {io : LoopIo}
    (h : (c.tryHandshake io).accepted = true) :
    ∃ attempt ∈ io.attempts, attempt.socket ≠ none ∧
      (c.tryHandshake io).client.socket = attempt.socket := by
  simp only [VoiceNetworkClient.tryHandshake] at h ⊢
  cases hhash : io.passwordHash with
  | none =>
    rw [hhash] at h
    cases h
  | some hash =>
    obtain ⟨request, hrequest⟩ : ∃ request, connectRequestPacket hash c.identity = .ok request :=
      ⟨_, connectRequestPacket_eq hash c.identity⟩
    simp only [hhash, hrequest] at h ⊢
    obtain ⟨attempt, hattempt, hsocket⟩ := handshakeLoop_socket h
    exact ⟨attempt, List.mem_of_mem_take hattempt, hsocket⟩

private theorem enter_connected {c : VoiceNetworkClient} {io : LoopIo}
    (h : (c.enter io).client.connected = true) :
    (c.enter io).client = c.closeSocket ∨ (c.enter io).client = c ∨
      (c.enter io).client.voiceSequence = 0 ∧ ∃ attempt ∈ io.attempts, attempt.socket ≠ none ∧
        (c.enter io).client.socket = attempt.socket := by
  simp only [VoiceNetworkClient.enter] at h ⊢
  split at h
  · rename_i hrunning
    rw [if_pos hrunning]
    exact Or.inl rfl
  · rename_i hrunning
    rw [if_neg hrunning]
    split at h
    · rename_i hconfigured
      rw [if_pos hconfigured]
      exact Or.inr (Or.inl rfl)
    · rename_i hconfigured
      rw [if_neg hconfigured]
      split at h
      · rename_i hconnected
        rw [if_pos hconnected]
        refine Or.inr (Or.inl ?_)
        simp only [VoiceNetworkClient.reconsider] at hconnected ⊢
        split at hconnected
        · cases hconnected
        · rename_i hsame
          rw [if_neg hsame]
      · rename_i hconnected
        rw [if_neg hconnected]
        refine Or.inr (Or.inr ?_)
        simp only [LoopOutcome.connect] at h ⊢
        split at h
        · rename_i haccepted
          rw [if_pos haccepted]
          exact ⟨rfl, tryHandshake_socket haccepted⟩
        · rename_i hrefused
          have hsame := (c.reconsider.client.tryHandshake_same io).2
          have hclosed : (c.reconsider.client.tryHandshake io).client.connected = true := h
          rw [hsame] at hclosed
          exact absurd hclosed hconnected

private theorem leave_keeps (c : VoiceNetworkClient) (io : LoopIo) :
    (LoopOutcome.leave { client := c } io).client.voiceSequence = c.voiceSequence ∧
      ((LoopOutcome.leave { client := c } io).client.connected = true → c.connected = true) ∧
      ∀ socket, (LoopOutcome.leave { client := c } io).client.socket = some socket →
        c.socket = some socket := by
  have hping : ∀ o : LoopOutcome, (o.pingIfDue io.now).client.voiceSequence =
      o.client.voiceSequence ∧ (o.pingIfDue io.now).client.connected = o.client.connected ∧
      (o.pingIfDue io.now).client.socket = o.client.socket := by
    intro o
    obtain ⟨packet, hpacket⟩ : ∃ packet, pingPacket io.now = .ok packet := ⟨_, rfl⟩
    simp only [LoopOutcome.pingIfDue, hpacket]
    split
    · exact ⟨rfl, rfl, rfl⟩
    · exact ⟨rfl, rfl, rfl⟩
  obtain ⟨hsequence, hconnected, hsocket⟩ := hping { client := c }
  simp only [LoopOutcome.leave]
  split
  · refine ⟨rfl, fun hc => hc, ?_⟩
    intro socket hs
    cases hs
  · simp only [LoopOutcome.watchdog]
    split
    · refine ⟨hsequence, ?_, ?_⟩
      · intro hc
        cases hc
      · intro socket hs
        cases hs
    · refine ⟨hsequence, ?_, ?_⟩
      · intro hc
        rw [hconnected] at hc
        exact hc
      · intro socket hs
        rw [hsocket] at hs
        exact hs

private theorem sendVoiceFrame_cases (c : VoiceNetworkClient) (opus : Bytes) (isLast : Bool) :
    c.sendVoiceFrame opus isLast = (c, []) ∨
      c.connected = true ∧ ∃ sent, c.sendVoiceFrame opus isLast =
        ({ c with voiceSequence := c.voiceSequence + 1 }, sent) ∧
        (c.socket = none ∧ sent = [] ∨ ∃ socket packet, c.socket = some socket ∧
          sent = [(socket, packet)] ∧
            (SenderCall.sendVoiceFrame opus isLast).writes c = some (.ok packet)) := by
  by_cases hguard : opus = [] ∨ maxOpusFrameLength < opus.length ∨ c.connected = false
  · exact Or.inl (if_pos hguard)
  · have hshort : opus.length ≤ maxOpusFrameLength :=
      Nat.le_of_not_lt (fun hlong => hguard (Or.inr (Or.inl hlong)))
    have hconnected : c.connected = true := by
      apply Bool.eq_true_of_not_eq_false
      intro hoff
      exact hguard (Or.inr (Or.inr hoff))
    have hpacket := voiceUpPacket_eq c.voiceSequence isLast hshort
    refine Or.inr ⟨hconnected, _, if_neg hguard, ?_⟩
    rw [hpacket]
    cases hsocket : c.socket with
    | none => exact Or.inl ⟨rfl, by simp only [VoiceNetworkClient.sendRaw, hsocket]⟩
    | some socket =>
      refine Or.inr ⟨socket, _, rfl, ?_, by rw [SenderCall.writes, if_neg hguard, hpacket]⟩
      simp only [VoiceNetworkClient.sendRaw, hsocket, if_pos hconnected]

end Voice

section Frames
variable {Client : Type}

/-- The endpoint a call was made from. -/
def Call.endPoint (addresses : Addresses Client) (call : Call Client) : Option IPEndPoint :=
  call.client.socket.map (addresses.of call.caller)

/-- `n - 1`, ..., 0 as sequence numbers. -/
def countdown : Nat → List UInt16
  | 0 => []
  | n + 1 => UInt16.ofNat n :: countdown n

private theorem mem_countdown {sequence : UInt16} {n : Nat} :
    sequence ∈ countdown n ↔ ∃ k < n, UInt16.ofNat k = sequence := by
  induction n with
  | zero => simp [countdown]
  | succ n ih =>
    simp only [countdown, List.mem_cons, ih]
    constructor
    · intro h
      rcases h with h | ⟨k, hk, h⟩
      · exact ⟨n, Nat.lt_succ_self n, h.symm⟩
      · exact ⟨k, Nat.lt_succ_of_lt hk, h⟩
    · intro h
      obtain ⟨k, hk, h⟩ := h
      rcases Nat.lt_succ_iff_lt_or_eq.mp hk with hk | hk
      · exact Or.inr ⟨k, hk, h⟩
      · rw [hk] at h
        exact Or.inl h.symm

private theorem nodup_countdown {n : Nat} (h : n ≤ 65536) : (countdown n).Nodup := by
  induction n with
  | zero => exact List.nodup_nil
  | succ n ih =>
    refine List.nodup_cons.mpr ⟨?_, ih (Nat.le_of_succ_le h)⟩
    intro hmem
    obtain ⟨k, hk, heq⟩ := mem_countdown.mp hmem
    have hnat := congrArg UInt16.toNat heq
    simp only [UInt16.toNat_ofNat'] at hnat
    omega

end Frames

namespace VoiceWorld

variable {Client : Type} [DecidableEq Client] (addresses : Addresses Client)

/-- The frames that went out from an endpoint, newest first. -/
def frames (w : VoiceWorld Client) (endPoint : IPEndPoint) : List (Call Client) :=
  w.calls.filter (fun call => decide (call.call.packetType = .voiceUp) &&
    decide (call.endPoint addresses = some endPoint))

/-- A client opens sockets at endpoints from which no frame has gone out yet. -/
def OpensFresh (w : VoiceWorld Client) : VoiceEvent Client → Prop
  | .enter i io => ∀ attempt ∈ io.attempts, ∀ socket ∈ attempt.socket,
      w.frames addresses (addresses.of i socket) = []
  | _ => True

instance (w : VoiceWorld Client) (e : VoiceEvent Client) :
    Decidable (w.OpensFresh addresses e) := by
  unfold OpensFresh
  split <;> infer_instance

/-- The frames of an endpoint are numbered in order, and a connected client has the next number. -/
structure Numbered (w : VoiceWorld Client) : Prop where
  counted : ∀ e, (w.frames addresses e).map (fun call => call.client.voiceSequence) =
    countdown (w.frames addresses e).length
  next : ∀ i socket, (w.clients i).connected = true → (w.clients i).socket = some socket →
    (w.clients i).voiceSequence = UInt16.ofNat (w.frames addresses (addresses.of i socket)).length
  backed : ∀ p ∈ w.up, ∀ i, addresses.owner p.2 = some i →
    p.1.head? = some PacketType.voiceUp.code →
      ∃ call ∈ w.frames addresses p.2, call.call.writes call.client = some (.ok p.1)

variable {addresses} {w : VoiceWorld Client}

private theorem frames_update_quiet (i : Client) {o : LoopOutcome} {call : Option SenderCall}
    (hquiet : o.sent = [] ∨ ∀ c, call = some c → c.packetType ≠ .voiceUp) (e : IPEndPoint) :
    (w.update addresses i o call).frames addresses e = w.frames addresses e := by
  simp only [frames, VoiceWorld.update]
  cases call with
  | none => rfl
  | some c =>
    cases hsent : o.sent with
    | nil => rfl
    | cons p rest =>
      rcases hquiet with h | h
      · rw [h] at hsent
        cases hsent
      · simp [h c rfl]

theorem Numbered.update (h : w.Numbered addresses) (i : Client) {o : LoopOutcome}
    {call : Option SenderCall}
    (hquiet : o.sent = [] ∨ ∀ c, call = some c → c.packetType ≠ .voiceUp)
    (hnext : ∀ socket, o.client.connected = true → o.client.socket = some socket →
      o.client.voiceSequence = UInt16.ofNat (w.frames addresses (addresses.of i socket)).length)
    (hsent : ∀ p ∈ o.sent, p.2.head? ≠ some PacketType.voiceUp.code) :
    (w.update addresses i o call).Numbered addresses := by
  refine ⟨?_, ?_, ?_⟩
  · intro e
    rw [frames_update_quiet i hquiet]
    exact h.counted e
  · intro j socket hconnected hsocket
    rw [frames_update_quiet i hquiet]
    by_cases hj : j = i
    · subst hj
      simp only [VoiceWorld.update, Function.update_self] at hconnected hsocket ⊢
      exact hnext socket hconnected hsocket
    · simp only [VoiceWorld.update, Function.update_of_ne hj] at hconnected hsocket ⊢
      exact h.next j socket hconnected hsocket
  · intro p hp j howner hhead
    rw [frames_update_quiet i hquiet]
    rcases List.mem_append.mp hp with hp | hp
    · obtain ⟨q, hq, rfl⟩ := List.mem_map.mp hp
      exact absurd hhead (hsent q hq)
    · exact h.backed p hp j howner hhead

omit [DecidableEq Client] in
private theorem Numbered.next_of_same (h : w.Numbered addresses) {i : Client}
    {c : VoiceNetworkClient}
    (hsequence : c.voiceSequence = (w.clients i).voiceSequence)
    (hconnected : c.connected = true → (w.clients i).connected = true)
    (hsocket : ∀ socket, c.socket = some socket → (w.clients i).socket = some socket) :
    ∀ socket, c.connected = true → c.socket = some socket →
      c.voiceSequence = UInt16.ofNat (w.frames addresses (addresses.of i socket)).length := by
  intro socket hc hs
  rw [hsequence]
  exact h.next i socket (hconnected hc) (hsocket socket hs)

private theorem frames_update_frame {i : Client} {o : LoopOutcome} {socket : Nat} {packet : Bytes}
    (hsocket : (w.clients i).socket = some socket) (hsent : o.sent = [(socket, packet)])
    (opus : Bytes) (isLast : Bool) (e : IPEndPoint) :
    (w.update addresses i o (some (.sendVoiceFrame opus isLast))).frames addresses e =
      if addresses.of i socket = e then
        ⟨i, w.clients i, .sendVoiceFrame opus isLast⟩ :: w.frames addresses e
      else w.frames addresses e := by
  simp only [frames, VoiceWorld.update, hsent, List.filter_cons, SenderCall.packetType,
    Call.endPoint, hsocket, Option.map_some, Option.some.injEq, decide_true, Bool.true_and,
    decide_eq_true_eq]

theorem Numbered.sendVoiceFrame (h : w.Numbered addresses) (i : Client) (opus : Bytes)
    (isLast : Bool) : (w.step addresses (.sendVoiceFrame i opus isLast)).Numbered addresses := by
  simp only [step]
  rcases sendVoiceFrame_cases (w.clients i) opus isLast with
    hunsent | ⟨hconnected, sent, hspoken,
      ⟨hsocket, hnone⟩ | ⟨socket, packet, hsocket, hone, hwrites⟩⟩
  · rw [hunsent]
    exact h.update i (Or.inl rfl) (h.next_of_same rfl (fun hc => hc) (fun _ hs => hs))
      (fun p hp => by cases hp)
  · rw [hspoken, hnone]
    refine h.update i (Or.inl rfl) ?_ (fun p hp => by cases hp)
    intro socket _ hs
    have hs : (w.clients i).socket = some socket := hs
    rw [hsocket] at hs
    cases hs
  · rw [hspoken, hone]
    have hframes := @frames_update_frame _ _ addresses w i
      { client := { w.clients i with voiceSequence := (w.clients i).voiceSequence + 1 }
        sent := [(socket, packet)] } socket packet hsocket rfl opus isLast
    refine ⟨?_, ?_, ?_⟩
    · intro e
      rw [hframes]
      split
      · rename_i he
        rw [← he, List.map_cons, h.counted, List.length_cons, countdown,
          h.next i socket hconnected hsocket]
      · exact h.counted e
    · intro j socket' hc hs
      rw [hframes]
      by_cases hj : j = i
      · subst hj
        simp only [VoiceWorld.update, Function.update_self] at hs ⊢
        rw [hsocket] at hs
        rw [← Option.some.inj hs, if_pos rfl, h.next j socket hconnected hsocket]
        exact (UInt16.ofNat_add _ 1).symm
      · simp only [VoiceWorld.update, Function.update_of_ne hj] at hc hs ⊢
        rw [if_neg, h.next j socket' hc hs]
        intro heq
        have howner := congrArg addresses.owner heq
        rw [addresses.owner_of, addresses.owner_of] at howner
        exact hj (Option.some.inj howner).symm
    · intro p hp j howner hhead
      rw [hframes]
      rcases List.mem_append.mp hp with hp | hp
      · have hp : p = (packet, addresses.of i socket) := List.mem_singleton.mp hp
        rw [hp, if_pos rfl]
        exact ⟨_, List.mem_cons_self, hwrites⟩
      · obtain ⟨call, hcall, hwritten⟩ := h.backed p hp j howner hhead
        refine ⟨call, ?_, hwritten⟩
        split
        · exact List.mem_cons_of_mem _ hcall
        · exact hcall

/-- What comes of a first phase is the client as it was, or without its socket, or over a fresh
endpoint and counting from 0. -/
theorem Numbered.enter (h : w.Numbered addresses) {i : Client} {io : LoopIo}
    (hfresh : w.OpensFresh addresses (.enter i io)) :
    (w.step addresses (.enter i io)).Numbered addresses := by
  apply h.update i
  · apply Or.inr
    intro call hcall
    obtain ⟨hash, _, rfl⟩ := Option.map_eq_some_iff.mp hcall
    exact fun heq => by cases heq
  · intro socket hconnected hsocket
    rcases enter_connected hconnected with hclosed | hsame | ⟨hzero, attempt, hattempt, _, hopened⟩
    · rw [hclosed] at hsocket
      cases hsocket
    · rw [hsame] at hconnected hsocket ⊢
      exact h.next i socket hconnected hsocket
    · rw [hopened] at hsocket
      rw [hzero, hfresh attempt hattempt socket hsocket]
      rfl
  · intro p hp
    obtain ⟨hash, _, hrequest⟩ := mem_enter_sent hp
    rw [connectRequestPacket_eq] at hrequest
    rw [← Except.ok.inj hrequest]
    exact fun heq => by cases heq

theorem Numbered.leave (h : w.Numbered addresses) (i : Client) (io : LoopIo) :
    (w.step addresses (.leave i io)).Numbered addresses := by
  apply h.update i
  · apply Or.inr
    intro call hcall
    rw [← Option.some.inj hcall]
    exact fun heq => by cases heq
  · obtain ⟨hsequence, hconnected, hsocket⟩ := leave_keeps (w.clients i) io
    exact h.next_of_same hsequence hconnected hsocket
  · intro p hp
    rcases mem_leave_sent rfl hp with hroster | hping
    · rw [hroster]
      exact fun heq => by cases heq
    · have hok : pingPacket io.now = .ok (PacketType.ping.code ::
        littleEndian32 (UInt32.ofInt (io.now / milliseconds 1))) := rfl
      rw [hok] at hping
      rw [← Except.ok.inj hping]
      exact fun heq => by cases heq

theorem numbered_step (w : VoiceWorld Client) (e : VoiceEvent Client)
    (h : w.Numbered addresses) (hfresh : w.OpensFresh addresses e) :
    (w.step addresses e).Numbered addresses := by
  have hset : ∀ (i : Client) (c : VoiceNetworkClient),
      c.voiceSequence = (w.clients i).voiceSequence →
      (c.connected = true → (w.clients i).connected = true) →
      (∀ socket, c.socket = some socket → (w.clients i).socket = some socket) →
      Numbered addresses { w with clients := Function.update w.clients i c } := by
    intro i c hsequence hconnected hsocket
    refine ⟨h.counted, ?_, h.backed⟩
    intro j socket hc hs
    by_cases hj : j = i
    · subst hj
      simp only [Function.update_self] at hc hs ⊢
      exact h.next_of_same hsequence hconnected hsocket socket hc hs
    · simp only [Function.update_of_ne hj] at hc hs ⊢
      exact h.next j socket hc hs
  cases e with
  | setServer i host port password => exact hset i _ rfl (fun hc => hc) (fun _ hs => hs)
  | setIdentity i uid name => exact hset i _ rfl (fun hc => hc) (fun _ hs => hs)
  | sendVoiceFrame i opus isLast => exact h.sendVoiceFrame i opus isLast
  | sendRadioTx i active freq range sub =>
    apply h.update i
    · apply Or.inr
      intro call hcall
      rw [← Option.some.inj hcall]
      exact fun heq => by cases heq
    · exact h.next_of_same rfl (fun hc => hc) (fun _ hs => hs)
    · intro p hp
      have hp : p ∈ (w.clients i).sendRadioTx active freq range sub := hp
      rw [sendRadioTx_sent] at hp
      rw [SenderCall.writes_sendRadioTx (mem_call_sent hp)]
      exact fun heq => by cases heq
  | enter i io => exact h.enter hfresh
  | receive i index at_ =>
    simp only [step]
    split
    · split
      · exact h.update i (Or.inl rfl) (h.next_of_same rfl (fun hc => hc) (fun _ hs => hs))
          (fun p hp => by cases hp)
      · exact h
    · exact h
  | leave i io => exact h.leave i io
  | stranger data remote =>
    simp only [step]
    cases howner : addresses.owner remote with
    | some i => exact h
    | none =>
      refine ⟨h.counted, h.next, ?_⟩
      intro p hp i hi hhead
      rcases List.mem_cons.mp hp with rfl | hp
      · rw [howner] at hi
        cases hi
      · exact h.backed p hp i hi hhead
  | relay index now order =>
    simp only [step]
    split
    · exact h
    · exact ⟨h.counted, h.next, h.backed⟩
  | sweepStart now order => exact ⟨h.counted, h.next, h.backed⟩
  | sweepNext order => exact ⟨h.counted, h.next, h.backed⟩

omit [DecidableEq Client] in
private theorem Numbered.eq_of_said (h : w.Numbered addresses) {endPoint : IPEndPoint} {i : Client}
    (howner : addresses.owner endPoint = some i)
    (hcount : (w.frames addresses endPoint).length ≤ 65536) {sequence : UInt16}
    {isLast isLast' : Bool} {opus opus' : Bytes} (hsaid : Said w.up endPoint sequence isLast opus)
    (hsaid' : Said w.up endPoint sequence isLast' opus') : isLast = isLast' ∧ opus = opus' := by
  have hframe : ∀ {last : Bool} {payload : Bytes}, Said w.up endPoint sequence last payload →
      ∃ call ∈ w.frames addresses endPoint, call.client.voiceSequence = sequence ∧
        call.call = .sendVoiceFrame payload last := by
    intro last payload hsaid
    obtain ⟨reader, flags, hup, hread, hlast⟩ := hsaid
    obtain ⟨⟨caller, c, call⟩, hcall, hwrites⟩ := h.backed _ hup i howner rfl
    refine ⟨_, hcall, ?_⟩
    simp only [frames, List.mem_filter, Bool.and_eq_true, decide_eq_true_eq] at hcall
    cases call with
    | sendVoiceFrame opus' isLast' =>
      have hbody := (List.cons.inj (SenderCall.writes_sendVoiceFrame hwrites)).2
      rw [hbody, RelayServer.readVoiceUp_body] at hread
      cases hread
      rw [voiceFlags_lastFrame] at hlast
      exact ⟨rfl, by rw [hlast]⟩
    | tryHandshake hash => cases hcall.2.1
    | sendRadioTx active freq range sub => cases hcall.2.1
    | ping now => cases hcall.2.1
  obtain ⟨call, hcall, hsequence, hspoken⟩ := hframe hsaid
  obtain ⟨call', hcall', hsequence', hspoken'⟩ := hframe hsaid'
  have hdistinct : ((w.frames addresses endPoint).map
      (fun call => call.client.voiceSequence)).Nodup := by
    rw [h.counted]
    exact nodup_countdown hcount
  have heq : call = call' :=
    List.inj_on_of_nodup_map hdistinct hcall hcall' (hsequence.trans hsequence'.symm)
  rw [heq, hspoken'] at hspoken
  cases hspoken
  exact ⟨rfl, rfl⟩

/-- In every run in which clients open sockets at fresh endpoints, two frames that anybody hears
under one session id and one number are the same frame, if they come from a client that has not
used up its numbers: repeated and reordered datagrams cannot change what was said. -/
theorem sequence_identifies_frame (addresses : Addresses Client) (options : ServerOptions)
    (hash : Bytes) (version : Text) (history : List (VoiceEvent Client))
    (hfresh : Guarded (step addresses) (OpensFresh addresses) (start options hash version) history)
    (hwrap : (runHistory (step addresses) (start options hash version) history).relay.server.nextObj
      ≤ 2 ^ 32) {listener listener' : Client} {sessionId : UInt32} {sequence : UInt16}
    {isLast isLast' : Bool} {opus opus' : Bytes}
    (hheard : .voiceFrame sessionId sequence isLast opus ∈
      (runHistory (step addresses) (start options hash version) history).heard listener)
    (hheard' : .voiceFrame sessionId sequence isLast' opus' ∈
      (runHistory (step addresses) (start options hash version) history).heard listener') :
    ∃ s ∈ (runHistory (step addresses) (start options hash version) history).sessions,
      s.sessionId = sessionId ∧
      (addresses.owner s.endPoint ≠ none →
        ((runHistory (step addresses) (start options hash version) history).frames addresses
          s.endPoint).length ≤ 65536 →
        isLast = isLast' ∧ opus = opus') := by
  have hsound : (runHistory (step addresses) (start options hash version) history).Sound
      addresses := invariant_runHistory (sound_start options hash version) sound_step history
  have hstart : (start options hash version).Numbered addresses := by
    refine ⟨fun e => rfl, ?_, ?_⟩
    · intro i socket hc
      cases hc
    · intro p hp
      cases hp
  have hnumbered := (throughout_of_guarded hstart numbered_step hfresh).last
  revert hwrap hheard hheard' hsound hnumbered
  generalize runHistory (step addresses) (start options hash version) history = w
  intro hwrap hheard hheard' hsound hnumbered
  obtain ⟨s, hs, hid, hcame⟩ := hsound.heard listener _ hheard sessionId rfl
  obtain ⟨s', hs', hid', hcame'⟩ := hsound.heard listener' _ hheard' sessionId rfl
  rw [hsound.eq_of_sessionId hwrap hs' hs (hid'.trans hid.symm)] at hcame'
  refine ⟨s, hs, hid, ?_⟩
  intro howner hcount
  obtain ⟨i, hi⟩ := Option.ne_none_iff_exists'.mp howner
  exact hnumbered.eq_of_said hi hcount hcame hcame'

inductive Player where
  | ann
  | bob
  | cat
  deriving DecidableEq, Repr

def Player.address : Player → UInt32
  | ann => 1
  | bob => 2
  | cat => 3

/-- Three clients on hosts of their own. -/
def threeHosts : Addresses Player where
  of := fun player socket => ⟨player.address, UInt16.ofNat (5000 + socket)⟩
  owner := fun e => [Player.ann, .bob, .cat].find? fun player => player.address == e.address
  owner_of := by
    intro client socket
    cases client <;> rfl

/-- Ann, Bob and Cat connect, and a frame of Ann's reaches Cat once and Bob twice. -/
def annSpeaksToTwo : List (VoiceEvent Player) :=
  [.receive .bob 1 7, .receive .bob 1 6, .receive .cat 0 5, .relay 0 4 .stored,
    .sendVoiceFrame .ann [1, 2, 3] false, .relay 0 3 .stored,
    .enter .cat (ClientWorld.handshakeIo 0 3 0), .setIdentity .cat (ascii "Cat") (ascii "Cat"),
    .setServer .cat (ascii "relay") 9987 [], .relay 0 2 .stored,
    .enter .bob (ClientWorld.handshakeIo 0 2 0), .setIdentity .bob (ascii "Bob") (ascii "Bob"),
    .setServer .bob (ascii "relay") 9987 [], .relay 0 1 .stored,
    .enter .ann (ClientWorld.handshakeIo 0 1 0), .setIdentity .ann (ascii "Ann") (ascii "Ann"),
    .setServer .ann (ascii "relay") 9987 []]

theorem repeated_frame_is_the_same :
    ∃ isLast opus isLast' opus',
      .voiceFrame 1 0 isLast opus ∈ (runHistory (step threeHosts)
        (start {} emptyPasswordHash ['1']) annSpeaksToTwo).heard .bob ∧
      .voiceFrame 1 0 isLast' opus' ∈ (runHistory (step threeHosts)
        (start {} emptyPasswordHash ['1']) annSpeaksToTwo).heard .cat ∧
      isLast = isLast' ∧ opus = opus' := by
  have hbob : .voiceFrame 1 0 false [1, 2, 3] ∈ (runHistory (step threeHosts)
      (start {} emptyPasswordHash ['1']) annSpeaksToTwo).heard .bob := by decide
  have hcat : .voiceFrame 1 0 false [1, 2, 3] ∈ (runHistory (step threeHosts)
      (start {} emptyPasswordHash ['1']) annSpeaksToTwo).heard .cat := by decide
  have hann : ∀ s ∈ (runHistory (step threeHosts) (start {} emptyPasswordHash ['1'])
      annSpeaksToTwo).sessions, s.sessionId = 1 →
        threeHosts.owner s.endPoint ≠ none ∧
          ((runHistory (step threeHosts) (start {} emptyPasswordHash ['1'])
            annSpeaksToTwo).frames threeHosts s.endPoint).length ≤ 65536 := by decide
  obtain ⟨s, hs, hid, hsame⟩ := sequence_identifies_frame threeHosts {} emptyPasswordHash ['1']
    annSpeaksToTwo (by decide) (by decide) hbob hcat
  obtain ⟨howner, hcount⟩ := hann s hs hid
  exact ⟨false, [1, 2, 3], false, [1, 2, 3], hbob, hcat, hsame howner hcount⟩

end VoiceWorld

end TaskForceRadio
