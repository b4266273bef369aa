import TaskForceRadio.Client.VoiceSession
import TaskForceRadio.Relay.Announcement

/-!
# Roster resynchronisation

The relay, one connected client, and everything the relay ever sent to it. A datagram reaches
the client at any time, any number of times or never. The answer to a RosterRequest carries
members only, so it repairs lost joins and leaves what a lost leave left behind.
-/

set_option autoImplicit false

namespace TaskForceRadio

open VoiceServer Voice

namespace VoiceServer

/-- What a step of the relay puts on the wire. -/
def Relay.sent (relay : Relay) : RelayEvent → List Datagram
  | .datagram now order data remote => (relay.server.handlePacket now order data remote).sent
  | .sweepStart _ _ => []
  | .sweepNext order =>
      match relay.pending with
      | [] => []
      | session :: _ => (relay.server.sweepSession order relay.cutoff session).sent

namespace Sends

/-- The loop gets to this session: no round before it throws. -/
def Reaches (send : ClientSession → Sends) (visited : List ClientSession)
    (session : ClientSession) : Prop :=
  ∃ before after, visited = before ++ session :: after ∧ ∀ x ∈ before, (send x).thrown = none

private theorem Reaches.mem {send : ClientSession → Sends} {visited : List ClientSession}
    {session : ClientSession} (h : Reaches send visited session) :
    session ∈ visited := by
  obtain ⟨before, after, rfl, _⟩ := h
  simp

private theorem mem_each_sent_iff {send : ClientSession → Sends} {visited : List ClientSession}
    (hthrown : ∀ x ∈ visited, (send x).thrown ≠ none → (send x).sent = []) (d : Datagram) :
    d ∈ (each send visited).sent ↔ ∃ session, Reaches send visited session ∧
      d ∈ (send session).sent := by
  induction visited with
  | nil => simp [each, Reaches]
  | cons x rest ih =>
    have ih' := ih (fun y hy => hthrown y (List.mem_cons_of_mem _ hy))
    by_cases hx : (send x).thrown = none
    · rw [each, andThen_of_none hx]
      dsimp only
      rw [List.mem_append, ih']
      constructor
      · intro h
        rcases h with h | ⟨session, ⟨before, after, hsplit, hbefore⟩, hd⟩
        · exact ⟨x, ⟨[], rest, rfl, by simp⟩, h⟩
        · refine ⟨session, ⟨x :: before, after, by rw [hsplit]; rfl, ?_⟩, hd⟩
          intro y hy
          rcases List.mem_cons.mp hy with rfl | hy
          · exact hx
          · exact hbefore y hy
      · intro h
        obtain ⟨session, ⟨before, after, hsplit, hbefore⟩, hd⟩ := h
        cases before with
        | nil =>
          have heq := (List.cons.inj hsplit).1
          rw [heq]
          exact Or.inl hd
        | cons y before =>
          have hrest := (List.cons.inj hsplit).2
          refine Or.inr ⟨session, ⟨before, after, hrest, ?_⟩, hd⟩
          intro z hz
          exact hbefore z (List.mem_cons_of_mem _ hz)
    · have hsent : each send (x :: rest) = send x := by
        rw [each, andThen]
        split
        · rfl
        · rename_i hnone
          exact absurd hnone hx
      rw [hsent, hthrown x List.mem_cons_self hx]
      constructor
      · intro h
        cases h
      · intro h
        obtain ⟨session, ⟨before, after, hsplit, hbefore⟩, hd⟩ := h
        cases before with
        | nil =>
          rw [← (List.cons.inj hsplit).1, hthrown x List.mem_cons_self hx] at hd
          cases hd
        | cons y before =>
          have heq := (List.cons.inj hsplit).1
          exact absurd (hbefore x (heq ▸ List.mem_cons_self)) hx

end Sends

namespace RelayServer

/-- The live sessions but the requester's own. -/
def others (server : RelayServer) (requester : ClientSession) : List ClientSession :=
  server.tables.sessionsById.values.filter (fun s => s.sessionId ≠ requester.sessionId)

theorem mem_others {server : RelayServer} {requester s : ClientSession} :
    s ∈ server.others requester ↔
      s ∈ server.tables.sessionsById.values ∧ s.sessionId ≠ requester.sessionId := by
  simp [others]

/-- The roster loop gets to this session of another client: for none of the others before it
does writing the announcement throw. -/
def RosterReaches (server : RelayServer) (order : SessionOrder) (requester s : ClientSession) :
    Prop :=
  ∃ before after, server.sessions order = before ++ s :: after ∧
    ∀ x ∈ before, x.sessionId ≠ requester.sessionId → ∃ packet, clientJoinedPacket x = .ok packet

private theorem sendClientJoined_thrown {target : IPEndPoint} {subject : ClientSession} :
    (sendClientJoined target subject).thrown = none ↔
      ∃ packet, clientJoinedPacket subject = .ok packet := by
  simp only [sendClientJoined]
  cases h : clientJoinedPacket subject with
  | error e => simp [Sends.one]
  | ok packet => simp [Sends.one]

theorem mem_sendClientJoined {target : IPEndPoint} {subject : ClientSession} {d : Datagram} :
    d ∈ (sendClientJoined target subject).sent ↔
      d.target = target ∧ clientJoinedPacket subject = .ok d.payload := by
  simp only [sendClientJoined]
  cases h : clientJoinedPacket subject with
  | error e => simp [Sends.one]
  | ok packet =>
    obtain ⟨target', payload⟩ := d
    simp only [Sends.one, List.mem_singleton, Datagram.mk.injEq, Except.ok.injEq]
    constructor
    · intro h
      exact ⟨h.1, h.2.symm⟩
    · intro h
      exact ⟨h.1, h.2.symm⟩

private theorem mem_rosterReply {server : RelayServer} {order : SessionOrder} {remote : IPEndPoint}
    {requester : ClientSession} (now : Int)
    (hrequester : server.tables.sessionsByEndPoint.lookup remote = some requester)
    (d : Datagram) :
    d ∈ (server.handlePacket now order rosterRequestPacket remote).sent ↔
      d.target = remote ∧ ∃ s ∈ server.others requester,
        server.RosterReaches order requester s ∧ clientJoinedPacket s = .ok d.payload := by
  have hsent : (server.handlePacket now order rosterRequestPacket remote).sent =
      (server.sendRoster order remote requester).sent := by
    have hcode : PacketType.ofCode PacketType.rosterRequest.code = some .rosterRequest :=
      PacketType.ofCode_code _
    simp only [handlePacket, rosterRequestPacket, hcode, handleRosterRequest, hrequester, sends]
  rw [hsent, sendRoster, Sends.mem_each_sent_iff]
  · constructor
    · intro h
      obtain ⟨s, hreaches, hd⟩ := h
      have hmem := (order.mem_arrange _ _).mp hreaches.mem
      split at hd
      · cases hd
      · rename_i hne
        obtain ⟨before, after, hsplit, hbefore⟩ := hreaches
        obtain ⟨htarget, hpacket⟩ := mem_sendClientJoined.mp hd
        refine ⟨htarget, s, mem_others.mpr ⟨hmem, hne⟩, ⟨before, after, hsplit, ?_⟩, hpacket⟩
        intro x hx hxne
        have hthrown := hbefore x hx
        dsimp only at hthrown
        rw [if_neg hxne] at hthrown
        exact sendClientJoined_thrown.mp hthrown
    · intro h
      obtain ⟨htarget, s, hs, ⟨before, after, hsplit, hbefore⟩, hpacket⟩ := h
      refine ⟨s, ⟨before, after, hsplit, ?_⟩, ?_⟩
      · intro x hx
        dsimp only
        by_cases hxne : x.sessionId = requester.sessionId
        · rw [if_pos hxne]
        · rw [if_neg hxne]
          exact sendClientJoined_thrown.mpr (hbefore x hx hxne)
      · rw [if_neg (mem_others.mp hs).2]
        exact mem_sendClientJoined.mpr ⟨htarget, hpacket⟩
  · intro x _ hthrown
    by_cases hx : x.sessionId = requester.sessionId
    · rw [if_pos hx]
    · rw [if_neg hx] at hthrown ⊢
      simp only [sendClientJoined] at hthrown ⊢
      cases h : clientJoinedPacket x with
      | error e => rfl
      | ok packet => simp [h, Sends.one] at hthrown

end RelayServer

end VoiceServer

namespace Voice.VoiceSession

/-- Several datagrams, one after the other. -/
def receiveAll (v : VoiceSession) (now : Time) (orders : RosterOrders) (datagrams : List Bytes) :
    VoiceSession :=
  datagrams.foldl (fun v data => v.receive now orders data) v

/-- The datagram announces the session. -/
def Announces (data : Bytes) (sessionId : UInt32) (uid : Bytes) : Prop :=
  ∃ name, handlePacket data = .ok (some (.remoteJoined sessionId uid name))

/-- The datagram fires nothing but joins. -/
def JoinsOnly (data : Bytes) : Prop :=
  ∀ callback, handlePacket data = .ok (some callback) → ∃ sessionId uid name,
    callback = .remoteJoined sessionId uid name

theorem mem_addSource {p : PlaybackMixer} {sessionId k : UInt32} {uid : Bytes} :
    k ∈ (p.addSource sessionId uid).sources ↔ k = sessionId ∨ k ∈ p.sources := by
  simp only [PlaybackMixer.addSource]
  split
  · rename_i source hlookup
    have hmem : sessionId ∈ p.sources := by
      rw [← AList.lookup_isSome, hlookup]
      rfl
    constructor
    · intro h
      exact Or.inr h
    · intro h
      rcases h with h | h
      · rw [h]
        exact hmem
      · exact h
  · exact AList.mem_insert _

private theorem receive_joinsOnly (v : VoiceSession) (now : Time) (orders : RosterOrders)
    {data : Bytes}
    (h : JoinsOnly data) :
    (v.receive now orders data = v ∧ ∀ k uid, ¬ Announces data k uid) ∨
    ∃ sessionId uid name, v.receive now orders data = v.onRemoteJoined sessionId uid name ∧
      ∀ k u, Announces data k u ↔ k = sessionId ∧ u = uid := by
  simp only [receive, Announces]
  cases hdata : handlePacket data with
  | error e => exact Or.inl ⟨rfl, by simp⟩
  | ok fired =>
    cases fired with
    | none => exact Or.inl ⟨rfl, by simp⟩
    | some callback =>
      obtain ⟨sessionId, uid, name, rfl⟩ := h callback hdata
      refine Or.inr ⟨sessionId, uid, name, rfl, ?_⟩
      intro k u
      constructor
      · intro hjoin
        obtain ⟨name', hjoin⟩ := hjoin
        injection hjoin with hjoin
        injection hjoin with hjoin
        injection hjoin with hk hu _
        exact ⟨hk.symm, hu.symm⟩
      · intro hjoin
        rw [hjoin.1, hjoin.2]
        exact ⟨name, rfl⟩

private theorem mem_sources_receiveAll (v : VoiceSession) (now : Time) (orders : RosterOrders)
    {datagrams : List Bytes} (h : ∀ data ∈ datagrams, JoinsOnly data) (k : UInt32) :
    k ∈ (v.receiveAll now orders datagrams).playback.sources ↔
      k ∈ v.playback.sources ∨ ∃ data ∈ datagrams, ∃ uid, Announces data k uid := by
  induction datagrams generalizing v with
  | nil => simp [receiveAll]
  | cons data rest ih =>
    have hrest := ih (v.receive now orders data) (fun d hd => h d (List.mem_cons_of_mem _ hd))
    show k ∈ ((v.receive now orders data).receiveAll now orders rest).playback.sources ↔ _
    rw [hrest, List.exists_mem_cons_iff, ← or_assoc]
    apply or_congr_left
    rcases v.receive_joinsOnly now orders (h data List.mem_cons_self) with
      ⟨hsame, hnone⟩ | ⟨sessionId, uid, name, hjoined, hexact⟩
    · rw [hsame]
      simp [hnone]
    · have hadd : k ∈ (v.onRemoteJoined sessionId uid name).playback.sources ↔
          k = sessionId ∨ k ∈ v.playback.sources := mem_addSource
      rw [hjoined, hadd, or_comm]
      simp [hexact]

private theorem lookup_receiveAll_of_not_announced (v : VoiceSession) (now : Time)
    (orders : RosterOrders) {datagrams : List Bytes} (h : ∀ data ∈ datagrams, JoinsOnly data)
    (uid : Bytes) (hnone : ∀ data ∈ datagrams, ∀ k, ¬ Announces data k uid) :
    (v.receiveAll now orders datagrams).uidToSession.lookup uid = v.uidToSession.lookup uid := by
  induction datagrams generalizing v with
  | nil => rfl
  | cons data rest ih =>
    have hrest := ih (v.receive now orders data) (fun d hd => h d (List.mem_cons_of_mem _ hd))
      (fun d hd => hnone d (List.mem_cons_of_mem _ hd))
    show ((v.receive now orders data).receiveAll now orders rest).uidToSession.lookup uid = _
    rw [hrest]
    rcases v.receive_joinsOnly now orders (h data List.mem_cons_self) with
      ⟨hsame, _⟩ | ⟨sessionId, uid', name, hjoined, hexact⟩
    · rw [hsame]
    · have hne : uid ≠ uid' := by
        intro heq
        exact hnone data List.mem_cons_self sessionId ((hexact _ _).mpr ⟨rfl, heq⟩)
      rw [hjoined]
      exact AList.lookup_insert_ne hne

private theorem lookup_receiveAll_of_announced (v : VoiceSession) (now : Time)
    (orders : RosterOrders) {datagrams : List Bytes} (h : ∀ data ∈ datagrams, JoinsOnly data)
    {uid : Bytes} {sessionId : UInt32}
    (hsome : ∃ data ∈ datagrams, Announces data sessionId uid)
    (hone : ∀ data ∈ datagrams, ∀ k, Announces data k uid → k = sessionId) :
    (v.receiveAll now orders datagrams).uidToSession.lookup uid = some sessionId := by
  induction datagrams generalizing v with
  | nil =>
    obtain ⟨data, hmem, _⟩ := hsome
    cases hmem
  | cons data rest ih =>
    have htail : ∀ d ∈ rest, JoinsOnly d := fun d hd => h d (List.mem_cons_of_mem _ hd)
    have honeTail : ∀ d ∈ rest, ∀ k, Announces d k uid → k = sessionId :=
      fun d hd => hone d (List.mem_cons_of_mem _ hd)
    show ((v.receive now orders data).receiveAll now orders rest).uidToSession.lookup uid = _
    by_cases hlater : ∃ d ∈ rest, Announces d sessionId uid
    · exact ih (v.receive now orders data) htail hlater honeTail
    · have hquiet : ∀ d ∈ rest, ∀ k, ¬ Announces d k uid := by
        intro d hd k hk
        apply hlater
        rw [honeTail d hd k hk] at hk
        exact ⟨d, hd, hk⟩
      rw [lookup_receiveAll_of_not_announced _ now orders htail uid hquiet]
      have hdata : Announces data sessionId uid := by
        obtain ⟨d, hd, hann⟩ := hsome
        rcases List.mem_cons.mp hd with heq | hd
        · rw [← heq]
          exact hann
        · exact absurd hann (hquiet d hd sessionId)
      rcases v.receive_joinsOnly now orders (h data List.mem_cons_self) with
        ⟨_, hnone⟩ | ⟨k, uid', name, hjoined, hexact⟩
      · exact absurd hdata (hnone _ _)
      · obtain ⟨rfl, rfl⟩ := (hexact _ _).mp hdata
        rw [hjoined]
        exact AList.lookup_insert _

end Voice.VoiceSession

/-- `inFlight` is everything the relay has sent to the client, and `heard` the callbacks that
delivered datagrams have fired, newest first. -/
structure RosterWorld where
  relay : Relay
  voice : VoiceSession := {}
  inFlight : List Bytes := []
  heard : List Callback := []

inductive RosterEvent where
  | relay (e : RelayEvent)
  | deliver (index : Nat) (now : Time) (orders : RosterOrders)

namespace RosterWorld

def fired (data : Bytes) : List Callback :=
  match Voice.handlePacket data with
  | .ok (some callback) => [callback]
  | _ => []

def step (me : IPEndPoint) (w : RosterWorld) : RosterEvent → RosterWorld
  | .relay e =>
      { w with
        relay := w.relay.step e
        inFlight := w.inFlight ++
          ((w.relay.sent e).filter (fun d => d.target = me)).map Datagram.payload }
  | .deliver index now orders =>
      match w.inFlight[index]? with
      | none => w
      | some data =>
          { w with voice := w.voice.receive now orders data, heard := fired data ++ w.heard }

def start (options : ServerOptions) (expectedPasswordHash : Bytes) (serverVersion : Text) :
    RosterWorld where
  relay := Relay.start options expectedPasswordHash serverVersion

/-- The newest announcement about the session that reached the client is a join. -/
def HeardOf : List Callback → UInt32 → Prop
  | [], _ => False
  | .remoteJoined sessionId _ _ :: earlier, k => sessionId = k ∨ HeardOf earlier k
  | .remoteLeft sessionId :: earlier, k => sessionId ≠ k ∧ HeardOf earlier k
  | .connectionStateChanged false :: _, _ => False
  | _ :: earlier, k => HeardOf earlier k

private theorem mem_sources_handle {v : VoiceSession} {heard : List Callback}
    (h : ∀ k, k ∈ v.playback.sources ↔ HeardOf heard k) (now : Time) (orders : RosterOrders)
    (callback : Callback) (k : UInt32) :
    k ∈ (v.handle now orders callback).playback.sources ↔ HeardOf (callback :: heard) k := by
  cases callback with
  | voiceFrame sessionId sequence isLast opus => exact h k
  | remoteJoined sessionId uid name =>
    have hadd : k ∈ (v.onRemoteJoined sessionId uid name).playback.sources ↔
        k = sessionId ∨ k ∈ v.playback.sources := VoiceSession.mem_addSource
    show k ∈ (v.onRemoteJoined sessionId uid name).playback.sources ↔
      sessionId = k ∨ HeardOf heard k
    rw [hadd, h k, eq_comm]
  | remoteLeft sessionId =>
    have herase : k ∈ (v.onRemoteLeft orders sessionId).playback.sources ↔
        k ≠ sessionId ∧ k ∈ v.playback.sources := AList.mem_erase
    show k ∈ (v.onRemoteLeft orders sessionId).playback.sources ↔
      sessionId ≠ k ∧ HeardOf heard k
    rw [herase, h k, ne_comm]
  | radioTx sender active freq range sub =>
    show k ∈ (v.onRadioTx now orders sender active freq range sub).playback.sources ↔
      HeardOf heard k
    rw [← h k]
    simp only [VoiceSession.onRadioTx]
    split
    · rfl
    · split <;> rfl
  | connectionStateChanged connected =>
    cases connected with
    | true => exact h k
    | false =>
      show k ∈ (∅ : Dictionary UInt32 RemoteVoiceSource) ↔ False
      simp

/-- What every step of the world keeps. -/
structure Consistent (w : RosterWorld) : Prop where
  wellKept : w.relay.server.WellKept
  sources : ∀ k, k ∈ w.voice.playback.sources ↔ HeardOf w.heard k

private theorem consistent_step (me : IPEndPoint) (w : RosterWorld) (e : RosterEvent)
    (h : w.Consistent) :
    (w.step me e).Consistent := by
  cases e with
  | relay e => exact ⟨Relay.wellKept_step w.relay e h.wellKept, h.sources⟩
  | deliver index now orders =>
    simp only [step]
    split
    · exact h
    · rename_i data _
      refine ⟨h.wellKept, ?_⟩
      intro k
      show k ∈ (w.voice.receive now orders data).playback.sources ↔
        HeardOf (fired data ++ w.heard) k
      simp only [VoiceSession.receive, fired]
      cases Voice.handlePacket data with
      | error e => exact h.sources k
      | ok callback =>
        cases callback with
        | none => exact h.sources k
        | some callback => exact mem_sources_handle h.sources now orders callback k

private theorem consistent_start (options : ServerOptions) (hash : Bytes) (version : Text) :
    (start options hash version).Consistent where
  wellKept := Relay.wellKept_start options hash version
  sources := by
    intro k
    show k ∈ (∅ : Dictionary UInt32 RemoteVoiceSource) ↔ False
    simp

/-- The client's roster is that of these sessions. -/
structure InSync (v : VoiceSession) (others : List ClientSession) : Prop where
  sources : ∀ k, k ∈ v.playback.sources ↔ ∃ s ∈ others, s.sessionId = k
  uids : ∀ u k, v.uidToSession.lookup u = some k ↔
    ∃ s ∈ others, encodeUtf8 s.uid = u ∧ s.sessionId = k

/-- The client already lists the session. -/
def Listed (w : RosterWorld) (s : ClientSession) : Prop :=
  HeardOf w.heard s.sessionId ∧
    w.voice.uidToSession.lookup (encodeUtf8 s.uid) = some s.sessionId

/-- Every session that left has been heard to leave, uids are unique, and the roster loop can
announce whoever is missing. -/
structure Repairable (w : RosterWorld) (order : SessionOrder) (requester : ClientSession) :
    Prop where
  noLostLeave : ∀ k, HeardOf w.heard k →
    ∃ s ∈ w.relay.server.others requester, s.sessionId = k
  noStaleUid : ∀ u k, w.voice.uidToSession.lookup u = some k →
    ∃ s ∈ w.relay.server.others requester, encodeUtf8 s.uid = u
  distinctUids : ∀ s ∈ w.relay.server.others requester,
    ∀ s' ∈ w.relay.server.others requester, s.uid = s'.uid → s = s'
  announceable : ∀ s ∈ w.relay.server.others requester,
    w.relay.server.RosterReaches order requester s ∧ Announced s ∨ w.Listed s

section Reply
variable {server : RelayServer} {order : SessionOrder} {me : IPEndPoint}
  {requester : ClientSession} {now : Int} {delivered : List Bytes}

theorem handlePacket_clientJoined {s : ClientSession} {packet : Bytes}
    (h : RelayServer.clientJoinedPacket s = .ok packet) :
    Voice.handlePacket packet =
      if (encodeUtf8 s.uid).length ≤ maxUidLength ∧
          (encodeUtf8 s.name).length ≤ maxNameLength then
        .ok (some (.remoteJoined s.sessionId (encodeUtf8 s.uid) (encodeUtf8 s.name)))
      else .error .runtimeError := by
  have hsum := RelayServer.clientJoinedPacket_ok h
  rw [RelayServer.clientJoinedPacket_eq hsum] at h
  simp only [maxUidLength, maxNameLength] at hsum
  rw [← Except.ok.inj h]
  exact handlePacket_clientJoinedBytes _ (by omega) (by omega)

variable (hrequester : server.tables.sessionsByEndPoint.lookup me = some requester)
  (hdelivered : ∀ data, data ∈ delivered ↔
    ⟨me, data⟩ ∈ (server.handlePacket now order rosterRequestPacket me).sent)
include hrequester hdelivered

private theorem joinsOnly_of_delivered (data : Bytes) (h : data ∈ delivered) :
    VoiceSession.JoinsOnly data := by
  obtain ⟨_, s, _, _, hpacket⟩ :=
    (RelayServer.mem_rosterReply now hrequester _).mp ((hdelivered data).mp h)
  intro callback hcallback
  rw [handlePacket_clientJoined hpacket] at hcallback
  split at hcallback
  · injection hcallback with hcallback
    injection hcallback with hcallback
    exact ⟨_, _, _, hcallback.symm⟩
  · cases hcallback

private theorem exists_announces_iff (k : UInt32) (u : Bytes) :
    (∃ data ∈ delivered, VoiceSession.Announces data k u) ↔
      ∃ s ∈ server.others requester, server.RosterReaches order requester s ∧ Announced s ∧
        s.sessionId = k ∧ encodeUtf8 s.uid = u := by
  constructor
  · intro h
    obtain ⟨data, hdata, name, hjoined⟩ := h
    obtain ⟨_, s, hs, hreaches, hpacket⟩ :=
      (RelayServer.mem_rosterReply now hrequester _).mp ((hdelivered data).mp hdata)
    rw [handlePacket_clientJoined hpacket] at hjoined
    split at hjoined
    · rename_i hlengths
      injection hjoined with hjoined
      injection hjoined with hjoined
      injection hjoined with hk hu _
      exact ⟨s, hs, hreaches, (announced_iff_lengths s).mpr hlengths, hk, hu⟩
    · cases hjoined
  · intro h
    obtain ⟨s, hs, hreaches, ⟨packet, hpacket, hjoined⟩, rfl, rfl⟩ := h
    have hmem := (RelayServer.mem_rosterReply now hrequester ⟨me, packet⟩).mpr
      ⟨rfl, s, hs, hreaches, hpacket⟩
    exact ⟨packet, (hdelivered packet).mpr hmem, _, hjoined⟩

end Reply

private theorem others_rosterRequest (server : RelayServer) (requester : ClientSession) (now : Int)
    (order : SessionOrder) (me : IPEndPoint) :
    (server.handlePacket now order rosterRequestPacket me).server.others requester =
      server.others requester := by
  have hcode : PacketType.ofCode PacketType.rosterRequest.code = some .rosterRequest :=
    PacketType.ofCode_code _
  simp only [RelayServer.handlePacket, rosterRequestPacket, hcode,
    RelayServer.handleRosterRequest]
  split <;> rfl

private theorem Consistent.others_unique {w : RosterWorld} (hw : w.Consistent)
    {requester s s' : ClientSession} (hs : s ∈ w.relay.server.others requester)
    (hs' : s' ∈ w.relay.server.others requester) (hid : s.sessionId = s'.sessionId) :
    s = s' := by
  have hkey := (hw.wellKept.keyed.mem_values s).mp (RelayServer.mem_others.mp hs).1
  have hkey' := (hw.wellKept.keyed.mem_values s').mp (RelayServer.mem_others.mp hs').1
  rw [hid] at hkey
  exact Option.some.inj (hkey.symm.trans hkey')

section Repair
variable {w : RosterWorld} {me : IPEndPoint} {requester : ClientSession} {now : Int}
  {order : SessionOrder} {delivered : List Bytes}
  (hrequester : w.relay.server.tables.sessionsByEndPoint.lookup me = some requester)
  (hdelivered : ∀ data, data ∈ delivered ↔
    ⟨me, data⟩ ∈ (w.relay.server.handlePacket now order rosterRequestPacket me).sent)
  (at_ : Time) (orders : RosterOrders)
include hrequester hdelivered

private theorem mem_sources_after (hw : w.Consistent) (k : UInt32) :
    k ∈ (w.voice.receiveAll at_ orders delivered).playback.sources ↔
      HeardOf w.heard k ∨ ∃ s ∈ w.relay.server.others requester,
        w.relay.server.RosterReaches order requester s ∧ Announced s ∧ s.sessionId = k := by
  rw [w.voice.mem_sources_receiveAll at_ orders (joinsOnly_of_delivered hrequester hdelivered),
    hw.sources]
  apply or_congr_right
  constructor
  · rintro ⟨data, hdata, u, hann⟩
    obtain ⟨s, hs, hreaches, hannounced, hid, _⟩ :=
      (exists_announces_iff hrequester hdelivered k u).mp ⟨data, hdata, hann⟩
    exact ⟨s, hs, hreaches, hannounced, hid⟩
  · rintro ⟨s, hs, hreaches, hannounced, hid⟩
    obtain ⟨data, hdata, hann⟩ := (exists_announces_iff hrequester hdelivered k _).mpr
      ⟨s, hs, hreaches, hannounced, hid, rfl⟩
    exact ⟨data, hdata, _, hann⟩

private theorem lookup_after_of_unannounced {u : Bytes}
    (h : ∀ s ∈ w.relay.server.others requester, w.relay.server.RosterReaches order requester s →
      Announced s → encodeUtf8 s.uid ≠ u) :
    (w.voice.receiveAll at_ orders delivered).uidToSession.lookup u =
      w.voice.uidToSession.lookup u := by
  apply w.voice.lookup_receiveAll_of_not_announced at_ orders
    (joinsOnly_of_delivered hrequester hdelivered)
  intro data hdata k hann
  obtain ⟨s, hs, hreaches, hannounced, _, hu⟩ :=
    (exists_announces_iff hrequester hdelivered k u).mp ⟨data, hdata, hann⟩
  exact h s hs hreaches hannounced hu

private theorem owner_or_lookup_after (u : Bytes) :
    (∃ s ∈ w.relay.server.others requester, encodeUtf8 s.uid = u) ∨
      (w.voice.receiveAll at_ orders delivered).uidToSession.lookup u =
        w.voice.uidToSession.lookup u := by
  by_cases howner : ∃ s ∈ w.relay.server.others requester, encodeUtf8 s.uid = u
  · exact Or.inl howner
  · refine Or.inr (lookup_after_of_unannounced hrequester hdelivered at_ orders ?_)
    intro s hs _ _ hu
    exact howner ⟨s, hs, hu⟩

private theorem repairable_of_inSync (hw : w.Consistent)
    (hsync : InSync (w.voice.receiveAll at_ orders delivered)
      (w.relay.server.others requester)) :
    w.Repairable order requester where
  noLostLeave := by
    intro k hk
    apply (hsync.sources k).mp
    exact (mem_sources_after hrequester hdelivered at_ orders hw k).mpr (Or.inl hk)
  noStaleUid := by
    intro u k hk
    rcases owner_or_lookup_after hrequester hdelivered at_ orders u with howner | hkept
    · exact howner
    · obtain ⟨s, hs, hu, _⟩ := (hsync.uids u k).mp (hkept.trans hk)
      exact ⟨s, hs, hu⟩
  distinctUids := by
    intro s hs s' hs' heq
    have hlookup := (hsync.uids _ _).mpr ⟨s, hs, rfl, rfl⟩
    have hlookup' := (hsync.uids _ _).mpr ⟨s', hs', rfl, rfl⟩
    rw [heq] at hlookup
    exact hw.others_unique hs hs' (Option.some.inj (hlookup.symm.trans hlookup'))
  announceable := by
    intro s hs
    by_cases hlearned : w.relay.server.RosterReaches order requester s ∧ Announced s
    · exact Or.inl hlearned
    · refine Or.inr ⟨?_, ?_⟩
      · have hsource := (hsync.sources _).mpr ⟨s, hs, rfl⟩
        rcases (mem_sources_after hrequester hdelivered at_ orders hw s.sessionId).mp hsource with
          hheard | ⟨s', hs', hreaches, hannounced, hid⟩
        · exact hheard
        · rw [hw.others_unique hs' hs hid] at hreaches hannounced
          exact absurd ⟨hreaches, hannounced⟩ hlearned
      · have hfinal := (hsync.uids _ _).mpr ⟨s, hs, rfl, rfl⟩
        rw [← lookup_after_of_unannounced hrequester hdelivered at_ orders]
        · exact hfinal
        · intro s' hs' hreaches hannounced hu
          have hid := (hsync.uids _ _).mpr ⟨s', hs', hu, rfl⟩
          rw [hfinal] at hid
          rw [hw.others_unique hs' hs (Option.some.inj hid).symm] at hreaches hannounced
          exact hlearned ⟨hreaches, hannounced⟩

private theorem lookup_after_of_repairable (hrepair : w.Repairable order requester)
    {s : ClientSession}
    (hs : s ∈ w.relay.server.others requester) :
    (w.voice.receiveAll at_ orders delivered).uidToSession.lookup (encodeUtf8 s.uid) =
      some s.sessionId := by
  have hone : ∀ data ∈ delivered, ∀ k,
      VoiceSession.Announces data k (encodeUtf8 s.uid) → k = s.sessionId := by
    intro data hdata k hk
    obtain ⟨s', hs', _, _, hid, hu⟩ :=
      (exists_announces_iff hrequester hdelivered k _).mp ⟨data, hdata, hk⟩
    rw [← hid, hrepair.distinctUids s' hs' s hs (encodeUtf8_injective hu)]
  have hjoins := joinsOnly_of_delivered hrequester hdelivered
  by_cases hann : ∃ data ∈ delivered,
      VoiceSession.Announces data s.sessionId (encodeUtf8 s.uid)
  · exact w.voice.lookup_receiveAll_of_announced at_ orders hjoins hann hone
  · rw [w.voice.lookup_receiveAll_of_not_announced at_ orders hjoins (encodeUtf8 s.uid)]
    · rcases hrepair.announceable s hs with ⟨hreaches, hannounced⟩ | hlisted
      · have hreply := (exists_announces_iff hrequester hdelivered s.sessionId _).mpr
          ⟨s, hs, hreaches, hannounced, rfl, rfl⟩
        exact absurd hreply hann
      · exact hlisted.2
    · intro data hdata k hk
      rw [hone data hdata k hk] at hk
      exact hann ⟨data, hdata, hk⟩

private theorem inSync_of_repairable (hw : w.Consistent) (hrepair : w.Repairable order requester) :
    InSync (w.voice.receiveAll at_ orders delivered) (w.relay.server.others requester) where
  sources := by
    intro k
    rw [mem_sources_after hrequester hdelivered at_ orders hw k]
    constructor
    · rintro (hheard | ⟨s, hs, _, _, hid⟩)
      · exact hrepair.noLostLeave k hheard
      · exact ⟨s, hs, hid⟩
    · rintro ⟨s, hs, rfl⟩
      rcases hrepair.announceable s hs with ⟨hreaches, hannounced⟩ | hlisted
      · exact Or.inr ⟨s, hs, hreaches, hannounced, rfl⟩
      · exact Or.inl hlisted.1
  uids := by
    intro u k
    constructor
    · intro hk
      have howner : ∃ s ∈ w.relay.server.others requester, encodeUtf8 s.uid = u := by
        rcases owner_or_lookup_after hrequester hdelivered at_ orders u with howner | hkept
        · exact howner
        · rw [hkept] at hk
          exact hrepair.noStaleUid u k hk
      obtain ⟨s, hs, rfl⟩ := howner
      rw [lookup_after_of_repairable hrequester hdelivered at_ orders hrepair hs] at hk
      exact ⟨s, hs, rfl, Option.some.inj hk⟩
    · rintro ⟨s, hs, rfl, rfl⟩
      exact lookup_after_of_repairable hrequester hdelivered at_ orders hrepair hs

private theorem inSync_iff_repairable (hw : w.Consistent) :
    InSync (w.voice.receiveAll at_ orders delivered) (w.relay.server.others requester) ↔
      w.Repairable order requester :=
  ⟨repairable_of_inSync hrequester hdelivered at_ orders hw,
    inSync_of_repairable hrequester hdelivered at_ orders hw⟩

end Repair

/-- After any history, a RosterRequest whose whole answer arrives leaves the client with the
relay's other sessions exactly if it could repair the client's roster: no lost leave, distinct
uids, and an announcement for everyone who is missing. -/
theorem inSync_after_roster_iff (options : ServerOptions) (hash : Bytes) (version : Text)
    (me : IPEndPoint) (history : List RosterEvent) {w : RosterWorld}
    (hw : runHistory (step me) (start options hash version) history = w)
    {requester : ClientSession}
    (hrequester : w.relay.server.tables.sessionsByEndPoint.lookup me = some requester)
    (now : Int) (order : SessionOrder) (delivered : List Bytes)
    (hdelivered : ∀ data, data ∈ delivered ↔
      ⟨me, data⟩ ∈ (w.relay.server.handlePacket now order rosterRequestPacket me).sent)
    (at_ : Time) (orders : RosterOrders) :
    InSync (w.voice.receiveAll at_ orders delivered)
        ((w.relay.server.handlePacket now order rosterRequestPacket me).server.others requester) ↔
      w.Repairable order requester := by
  have hconsistent := invariant_runHistory (consistent_start options hash version)
    (consistent_step me) history
  rw [hw] at hconsistent
  rw [others_rosterRequest]
  exact inSync_iff_repairable hrequester hdelivered at_ orders hconsistent

/-- Ann and Bob connect and Ann hears of Bob. Bob disconnects, and the announcement of that is
lost. -/
def lostLeave : List RosterEvent :=
  [.relay (.datagram 20 .stored [PacketType.disconnect.code] ⟨2, 5000⟩),
    .deliver 1 0 {},
    .relay (.datagram 10 .stored (connectRequest emptyPasswordHash "B" "Bob") ⟨2, 5000⟩),
    .relay (.datagram 0 .stored (connectRequest emptyPasswordHash "A" "Ann") ⟨1, 5000⟩)]

/-- The answer to Ann's RosterRequest is empty and Bob's source stays. -/
theorem lost_leave_stays_listed :
    let w := runHistory (step ⟨1, 5000⟩) (start {} emptyPasswordHash ['1']) lostLeave
    let reply := w.relay.server.handlePacket 30 .stored rosterRequestPacket ⟨1, 5000⟩
    ¬ InSync (w.voice.receiveAll 0 {} (reply.sent.map Datagram.payload))
      (reply.server.others ⟨0, 1, ⟨1, 5000⟩, ['A'], "Ann".toList⟩) := by
  intro w reply h
  have hsource := (h.sources 2).mp (by decide)
  exact absurd hsource (by decide)

/-- With the leave delivered the two rosters agree. -/
theorem delivered_leave_in_sync :
    let w := runHistory (step ⟨1, 5000⟩) (start {} emptyPasswordHash ['1'])
      (.deliver 2 0 {} :: lostLeave)
    InSync (w.voice.receiveAll 0 {} [])
        ((w.relay.server.handlePacket 30 .stored rosterRequestPacket ⟨1, 5000⟩).server.others
          ⟨0, 1, ⟨1, 5000⟩, ['A'], "Ann".toList⟩) ↔
      w.Repairable .stored ⟨0, 1, ⟨1, 5000⟩, ['A'], "Ann".toList⟩ :=
  inSync_after_roster_iff {} emptyPasswordHash ['1'] ⟨1, 5000⟩ (.deliver 2 0 {} :: lostLeave) rfl
    (by decide) 30 .stored [] (by
      intro data
      have hnone : (RelayServer.handlePacket
          (runHistory (step ⟨1, 5000⟩) (start {} emptyPasswordHash ['1'])
            (.deliver 2 0 {} :: lostLeave)).relay.server 30 .stored rosterRequestPacket
              ⟨1, 5000⟩).sent = [] := by decide
      rw [hnone]
      simp) 0 {}

end RosterWorld

end TaskForceRadio
