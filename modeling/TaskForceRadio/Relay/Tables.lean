import TaskForceRadio.Foundation.Execution
import TaskForceRadio.Relay.Server

/-!
# Agreement of the session tables

The relay as a machine whose steps are datagrams and single sweep removals, each atomic. The
three tables describe the same sessions throughout a run exactly when no accepted request and
no removal hits a part of another live session.
-/

set_option autoImplicit false

namespace TaskForceRadio.VoiceServer

namespace SessionTables

/-- Every entry is stored under its session's own key. -/
structure Keyed (t : SessionTables) : Prop where
  endPoint : ∀ e s, t.sessionsByEndPoint.lookup e = some s → s.endPoint = e
  id : ∀ k s, t.sessionsById.lookup k = some s → s.sessionId = k
  uid : ∀ u s, t.sessionsByUid.lookup u = some s → s.uid = u

/-- The session is stored under one of its keys. -/
def Holds (t : SessionTables) (s : ClientSession) : Prop :=
  t.sessionsByEndPoint.lookup s.endPoint = some s ∨
    t.sessionsById.lookup s.sessionId = some s ∨ t.sessionsByUid.lookup s.uid = some s

/-- The three tables describe the same set of sessions. -/
def SameSessions (t : SessionTables) : Prop :=
  ∀ s, (s ∈ t.sessionsById.values ↔ t.sessionsByEndPoint.lookup s.endPoint = some s) ∧
    (t.sessionsByEndPoint.lookup s.endPoint = some s ↔ t.sessionsByUid.lookup s.uid = some s)

/-- Every live session shares all of its keys with `x` or none. -/
def Aligned (t : SessionTables) (x : ClientSession) : Prop :=
  ∀ s ∈ t.sessionsById.values, (s.sessionId = x.sessionId ↔ s.endPoint = x.endPoint) ∧
    (s.endPoint = x.endPoint ↔ s.uid = x.uid)

section Updates
variable {t : SessionTables} {x : ClientSession}

theorem Keyed.mem_values (hk : t.Keyed) (s : ClientSession) :
    s ∈ t.sessionsById.values ↔ t.sessionsById.lookup s.sessionId = some s := by
  rw [Dictionary.mem_values]
  constructor
  · intro h
    obtain ⟨k, hs⟩ := h
    rw [hk.id k s hs]
    exact hs
  · intro h
    exact ⟨_, h⟩

theorem keyed_empty : SessionTables.Keyed {} where
  endPoint := by intro e s h; cases h
  id := by intro k s h; cases h
  uid := by intro u s h; cases h

theorem Keyed.removeEndPoint (hk : t.Keyed) (e : IPEndPoint) : (t.removeEndPoint e).Keyed where
  endPoint := by
    intro e' s h
    rw [lookup_removeEndPoint] at h
    split at h
    · cases h
    · exact hk.endPoint e' s h
  id := hk.id
  uid := hk.uid

theorem Keyed.removeId (hk : t.Keyed) (k : UInt32) : (t.removeId k).Keyed where
  endPoint := hk.endPoint
  id := by
    intro k' s h
    rw [lookup_removeId] at h
    split at h
    · cases h
    · exact hk.id k' s h
  uid := hk.uid

theorem Keyed.removeUid (hk : t.Keyed) (u : Text) : (t.removeUid u).Keyed where
  endPoint := hk.endPoint
  id := hk.id
  uid := by
    intro u' s h
    rw [lookup_removeUid] at h
    split at h
    · cases h
    · exact hk.uid u' s h

theorem Keyed.putEndPoint (hk : t.Keyed) (x : ClientSession) : (t.putEndPoint x).Keyed where
  endPoint := by
    intro e s h
    rw [lookup_putEndPoint] at h
    split at h
    · rename_i he
      rw [← Option.some.inj h, he]
    · exact hk.endPoint e s h
  id := hk.id
  uid := hk.uid

theorem Keyed.putId (hk : t.Keyed) (x : ClientSession) : (t.putId x).Keyed where
  endPoint := hk.endPoint
  id := by
    intro k s h
    rw [lookup_putId] at h
    split at h
    · rename_i hk'
      rw [← Option.some.inj h, hk']
    · exact hk.id k s h
  uid := hk.uid

theorem Keyed.putUid (hk : t.Keyed) (x : ClientSession) : (t.putUid x).Keyed where
  endPoint := hk.endPoint
  id := hk.id
  uid := by
    intro u s h
    rw [lookup_putUid] at h
    split at h
    · rename_i hu
      rw [← Option.some.inj h, hu]
    · exact hk.uid u s h

theorem Keyed.removeKeys (hk : t.Keyed) (x : ClientSession) : (t.removeKeys x).Keyed :=
  ((hk.removeEndPoint _).removeId _).removeUid _

theorem Keyed.put (hk : t.Keyed) (x : ClientSession) : (t.put x).Keyed :=
  ((hk.putEndPoint x).putId x).putUid x

theorem lookups_removeKeys (t : SessionTables) (x s : ClientSession) :
    ((t.removeKeys x).sessionsByEndPoint.lookup s.endPoint = some s ↔
      s.endPoint ≠ x.endPoint ∧ t.sessionsByEndPoint.lookup s.endPoint = some s) ∧
    ((t.removeKeys x).sessionsById.lookup s.sessionId = some s ↔
      s.sessionId ≠ x.sessionId ∧ t.sessionsById.lookup s.sessionId = some s) ∧
    ((t.removeKeys x).sessionsByUid.lookup s.uid = some s ↔
      s.uid ≠ x.uid ∧ t.sessionsByUid.lookup s.uid = some s) := by
  simp only [removeKeys, lookup_removeEndPoint, lookup_removeId, lookup_removeUid,
    removeEndPoint_byId, removeEndPoint_byUid, removeId_byEndPoint, removeId_byUid,
    removeUid_byEndPoint, removeUid_byId]
  refine ⟨?_, ?_, ?_⟩
  · by_cases h : s.endPoint = x.endPoint <;> simp [h]
  · by_cases h : s.sessionId = x.sessionId <;> simp [h]
  · by_cases h : s.uid = x.uid <;> simp [h]

theorem lookups_put (t : SessionTables) (x s : ClientSession) (hne : s ≠ x) :
    ((t.put x).sessionsByEndPoint.lookup s.endPoint = some s ↔
      s.endPoint ≠ x.endPoint ∧ t.sessionsByEndPoint.lookup s.endPoint = some s) ∧
    ((t.put x).sessionsById.lookup s.sessionId = some s ↔
      s.sessionId ≠ x.sessionId ∧ t.sessionsById.lookup s.sessionId = some s) ∧
    ((t.put x).sessionsByUid.lookup s.uid = some s ↔
      s.uid ≠ x.uid ∧ t.sessionsByUid.lookup s.uid = some s) := by
  simp only [put, lookup_putEndPoint, lookup_putId, lookup_putUid, putEndPoint_byId,
    putEndPoint_byUid, putId_byEndPoint, putId_byUid, putUid_byEndPoint, putUid_byId]
  refine ⟨?_, ?_, ?_⟩
  · by_cases h : s.endPoint = x.endPoint <;> simp [h, Ne.symm hne]
  · by_cases h : s.sessionId = x.sessionId <;> simp [h, Ne.symm hne]
  · by_cases h : s.uid = x.uid <;> simp [h, Ne.symm hne]

theorem lookups_put_self (t : SessionTables) (x : ClientSession) :
    (t.put x).sessionsByEndPoint.lookup x.endPoint = some x ∧
    (t.put x).sessionsById.lookup x.sessionId = some x ∧
    (t.put x).sessionsByUid.lookup x.uid = some x := by
  simp [put]

private theorem survivors_agree_iff {I E U i e u : Prop} (hE : I ↔ E) (hU : E ↔ U) :
    ((¬i ∧ I ↔ ¬e ∧ E) ∧ (¬e ∧ E ↔ ¬u ∧ U)) ↔ (I → (i ↔ e) ∧ (e ↔ u)) := by
  obtain rfl := propext hE
  obtain rfl := propext hU
  by_cases hI : I
  · simp only [hI, and_true, forall_const, not_iff_not]
  · simp only [hI, and_false, false_implies, and_self]

private theorem sameSessions_removeKeys_iff (hk : t.Keyed) (hs : t.SameSessions) :
    (t.removeKeys x).SameSessions ↔ t.Aligned x := by
  apply forall_congr'
  intro s
  rw [(hk.removeKeys x).mem_values]
  obtain ⟨hE, hI, hU⟩ := lookups_removeKeys t x s
  rw [hE, hI, hU, ← hk.mem_values]
  exact survivors_agree_iff (hs s).1 (hs s).2

private theorem sameSessions_put_iff (hk : t.Keyed) (hs : t.SameSessions) (hfresh : ¬ t.Holds x) :
    (t.put x).SameSessions ↔ t.Aligned x := by
  apply forall_congr'
  intro s
  rw [(hk.put x).mem_values]
  by_cases hne : s = x
  · subst hne
    obtain ⟨hE, hI, hU⟩ := lookups_put_self t s
    have hdead : s ∉ t.sessionsById.values := by
      intro hlive
      exact hfresh (Or.inr (Or.inl ((hk.mem_values s).mp hlive)))
    simp [hE, hI, hU, hdead]
  · obtain ⟨hE, hI, hU⟩ := lookups_put t x s hne
    rw [hE, hI, hU, ← hk.mem_values]
    exact survivors_agree_iff (hs s).1 (hs s).2

/-- A live session is aligned with itself against agreeing tables. -/
theorem SameSessions.aligned (hk : t.Keyed) (hs : t.SameSessions)
    (hx : x ∈ t.sessionsById.values) : t.Aligned x := by
  intro s hlive
  obtain ⟨hsI, hsU⟩ := hs s
  obtain ⟨hxI, hxU⟩ := hs x
  have hsEnd := hsI.mp hlive
  have hxEnd := hxI.mp hx
  have hsUid := hsU.mp hsEnd
  have hxUid := hxU.mp hxEnd
  rw [hk.mem_values] at hlive hx
  have hid : s.sessionId = x.sessionId → s = x := by
    intro h
    rw [h] at hlive
    exact Option.some.inj (hlive.symm.trans hx)
  have hend : s.endPoint = x.endPoint → s = x := by
    intro h
    rw [h] at hsEnd
    exact Option.some.inj (hsEnd.symm.trans hxEnd)
  have huid : s.uid = x.uid → s = x := by
    intro h
    rw [h] at hsUid
    exact Option.some.inj (hsUid.symm.trans hxUid)
  refine ⟨⟨?_, ?_⟩, ?_, ?_⟩
  · intro h
    rw [hid h]
  · intro h
    rw [hend h]
  · intro h
    rw [hend h]
  · intro h
    rw [huid h]

end Updates

end SessionTables

namespace RelayServer

/-- A client's uid is freed together with all the keys its session holds. -/
theorem dropStale_tables {server : RelayServer} (hk : server.tables.Keyed) (uid : Text) :
    (server.dropStale uid).tables = server.tables ∧
      server.tables.sessionsByUid.lookup uid = none ∨
    ∃ stale, server.tables.sessionsByUid.lookup uid = some stale ∧
      (server.dropStale uid).tables = server.tables.removeKeys stale := by
  cases h : server.tables.sessionsByUid.lookup uid with
  | none =>
    refine Or.inl ⟨?_, rfl⟩
    simp only [dropStale, h]
  | some stale =>
    refine Or.inr ⟨stale, rfl, ?_⟩
    have huid := hk.uid uid stale h
    simp only [dropStale, h, SessionTables.removeKeys, SessionTables.removeEndPoint,
      SessionTables.removeId, SessionTables.removeUid, huid]

/-- What every step keeps: keys are right, and object identities are spent in order. -/
structure WellKept (server : RelayServer) : Prop where
  keyed : server.tables.Keyed
  spent : ∀ s, server.tables.Holds s → s.obj < server.nextObj

private theorem not_holds_newSession {server : RelayServer} (hw : server.WellKept)
    (remote : IPEndPoint) (uid name : Text) :
    ¬ server.tables.Holds (server.newSession remote uid name) := by
  intro h
  exact Nat.lt_irrefl _ (hw.spent _ h)

theorem holds_of_holds_removeKeys {t : SessionTables} {x s : ClientSession}
    (h : (t.removeKeys x).Holds s) :
    t.Holds s := by
  obtain ⟨hE, hI, hU⟩ := SessionTables.lookups_removeKeys t x s
  rcases h with h | h | h
  · exact Or.inl (hE.mp h).2
  · exact Or.inr (Or.inl (hI.mp h).2)
  · exact Or.inr (Or.inr (hU.mp h).2)

theorem WellKept.removeKeys {server : RelayServer} (hw : server.WellKept) (x : ClientSession) :
    WellKept { server with tables := server.tables.removeKeys x } where
  keyed := hw.keyed.removeKeys x
  spent := by
    intro s h
    exact hw.spent s (holds_of_holds_removeKeys h)

@[simp] theorem dropStale_nextObj (server : RelayServer) (uid : Text) :
    (server.dropStale uid).nextObj = server.nextObj := by
  simp only [dropStale]
  split <;> rfl

@[simp] theorem dropStale_nextSessionId (server : RelayServer) (uid : Text) :
    (server.dropStale uid).nextSessionId = server.nextSessionId := by
  simp only [dropStale]
  split <;> rfl

@[simp] theorem dropStale_options (server : RelayServer) (uid : Text) :
    (server.dropStale uid).options = server.options := by
  simp only [dropStale]
  split <;> rfl

@[simp] theorem dropStale_expectedPasswordHash (server : RelayServer) (uid : Text) :
    (server.dropStale uid).expectedPasswordHash = server.expectedPasswordHash := by
  simp only [dropStale]
  split <;> rfl

theorem WellKept.dropStale {server : RelayServer} (hw : server.WellKept) (uid : Text) :
    (server.dropStale uid).WellKept := by
  rcases dropStale_tables hw.keyed uid with ⟨htables, _⟩ | ⟨stale, _, htables⟩
  · refine ⟨?_, ?_⟩
    · rw [htables]
      exact hw.keyed
    · rw [htables, dropStale_nextObj]
      exact hw.spent
  · have h := hw.removeKeys stale
    refine ⟨?_, ?_⟩
    · rw [htables]
      exact h.keyed
    · rw [htables, dropStale_nextObj]
      exact h.spent

theorem WellKept.register {server : RelayServer} (hw : server.WellKept) (now : Int)
    (remote : IPEndPoint) (uid name : Text) :
    (server.register now (server.newSession remote uid name)).WellKept where
  keyed := hw.keyed.put _
  spent := by
    intro s h
    show s.obj < server.nextObj + 1
    by_cases hs : s = server.newSession remote uid name
    · rw [hs]
      exact Nat.lt_succ_self _
    · obtain ⟨hE, hI, hU⟩ := SessionTables.lookups_put server.tables
        (server.newSession remote uid name) s hs
      have hold : server.tables.Holds s := by
        rcases h with h | h | h
        · exact Or.inl (hE.mp h).2
        · exact Or.inr (Or.inl (hI.mp h).2)
        · exact Or.inr (Or.inr (hU.mp h).2)
      exact Nat.lt_succ_of_lt (hw.spent s hold)

private theorem mem_dropStale {server : RelayServer} (hw : server.WellKept)
    (hs : server.tables.SameSessions) (uid : Text) (s : ClientSession) :
    s ∈ (server.dropStale uid).tables.sessionsById.values ↔
      s ∈ server.tables.sessionsById.values ∧ s.uid ≠ uid := by
  have hbyUid : s ∈ server.tables.sessionsById.values →
      server.tables.sessionsByUid.lookup s.uid = some s :=
    fun h => (hs s).2.mp ((hs s).1.mp h)
  rcases dropStale_tables hw.keyed uid with ⟨htables, hnone⟩ | ⟨stale, hstale, htables⟩
  · rw [htables]
    refine ⟨?_, And.left⟩
    intro h
    refine ⟨h, ?_⟩
    intro heq
    have hlookup := hbyUid h
    rw [heq, hnone] at hlookup
    cases hlookup
  · have huid := hw.keyed.uid uid stale hstale
    have hlive : stale ∈ server.tables.sessionsById.values := by
      apply (hs stale).1.mpr
      apply (hs stale).2.mpr
      rw [huid]
      exact hstale
    have haligned := hs.aligned hw.keyed hlive
    rw [htables, (hw.keyed.removeKeys stale).mem_values,
      (SessionTables.lookups_removeKeys _ _ _).2.1, ← hw.keyed.mem_values, ← huid]
    constructor
    · intro h
      obtain ⟨hid, hend⟩ := haligned s h.2
      exact ⟨h.2, fun heq => h.1 (hid.mpr (hend.mpr heq))⟩
    · intro h
      obtain ⟨hid, hend⟩ := haligned s h.1
      exact ⟨fun heq => h.2 (hend.mp (hid.mp heq)), h.1⟩

private theorem sameSessions_dropStale {server : RelayServer} (hw : server.WellKept)
    (hs : server.tables.SameSessions) (uid : Text) :
    (server.dropStale uid).tables.SameSessions := by
  rcases dropStale_tables hw.keyed uid with ⟨htables, _⟩ | ⟨stale, hstale, htables⟩
  · rw [htables]
    exact hs
  · rw [htables]
    apply (SessionTables.sameSessions_removeKeys_iff hw.keyed hs).mpr
    apply hs.aligned hw.keyed
    apply (hs stale).1.mpr
    apply (hs stale).2.mpr
    rw [hw.keyed.uid uid stale hstale]
    exact hstale

theorem mem_values_of_removeId {t : SessionTables} {k : UInt32} {s : ClientSession}
    (h : s ∈ (t.removeId k).sessionsById.values) :
    s ∈ t.sessionsById.values := by
  rw [Dictionary.mem_values] at h ⊢
  obtain ⟨k', hk'⟩ := h
  rw [SessionTables.lookup_removeId] at hk'
  split at hk'
  · cases hk'
  · exact ⟨k', hk'⟩

theorem mem_values_of_dropStale {server : RelayServer} {uid : Text} {s : ClientSession}
    (h : s ∈ (server.dropStale uid).tables.sessionsById.values) :
    s ∈ server.tables.sessionsById.values := by
  simp only [dropStale] at h
  split at h
  · exact h
  · exact mem_values_of_removeId h

/-- A datagram adds at most the session it creates to the sessions by id. -/
theorem mem_values_handlePacket {server : RelayServer} {now : Int} {order : SessionOrder}
    {data : Bytes} {remote : IPEndPoint} {s : ClientSession}
    (h : s ∈ (server.handlePacket now order data remote).server.tables.sessionsById.values) :
    s ∈ server.tables.sessionsById.values ∨ server.accepted data remote = some s := by
  rcases server.handlePacket_server_cases now order data remote with
    ⟨uid, name, hadmitted, hserver⟩ | ⟨_, session, _, hserver⟩ | ⟨_, seen, sequence, hserver⟩
  · rw [hserver, admitClient_server] at h
    cases hfull : (server.dropStale uid).isFull with
    | true =>
      rw [hfull] at h
      exact Or.inl (mem_values_of_dropStale h)
    | false =>
      rw [hfull] at h
      obtain ⟨k, hk⟩ := (Dictionary.mem_values _ _).mp h
      have hput : ((server.dropStale uid).tables.putId
          ((server.dropStale uid).newSession remote uid name)).sessionsById.lookup k = some s := hk
      rw [SessionTables.lookup_putId] at hput
      split at hput
      · apply Or.inr
        simp only [accepted, hadmitted, hfull]
        exact hput
      · exact Or.inl (mem_values_of_dropStale ((Dictionary.mem_values _ _).mpr ⟨k, hput⟩))
  · rw [hserver] at h
    exact Or.inl (mem_values_of_removeId h)
  · rw [hserver] at h
    exact Or.inl h

/-- What the three dictionaries promise the handlers. -/
structure TablesAgree (server : RelayServer) : Prop where
  sameSessions : server.tables.SameSessions
  distinctEndPoints : ∀ s ∈ server.tables.sessionsById.values,
    ∀ s' ∈ server.tables.sessionsById.values, s.endPoint = s'.endPoint → s = s'
  distinctUids : ∀ s ∈ server.tables.sessionsById.values,
    ∀ s' ∈ server.tables.sessionsById.values, s.uid = s'.uid → s = s'
  /-- The lookup with which ping, voice and disconnect begin finds the session. -/
  answered : ∀ s ∈ server.tables.sessionsById.values,
    server.tables.sessionsByEndPoint.lookup s.endPoint = some s
  noEcho : ∀ now order reader remote,
    ∀ d ∈ (server.handleVoiceUp now order reader remote).sent, d.target ≠ remote

/-- A relayed frame leaves for other sessions than its sender's. -/
theorem handleVoiceUp_sent {server : RelayServer} {now : Int} {order : SessionOrder}
    {reader : Bytes} {remote : IPEndPoint} {d : Datagram}
    (h : d ∈ (server.handleVoiceUp now order reader remote).sent) :
    ∃ sender, server.tables.sessionsByEndPoint.lookup remote = some sender ∧
      ∃ target ∈ server.tables.sessionsById.values, target.sessionId ≠ sender.sessionId ∧
        d.target = target.endPoint := by
  simp only [handleVoiceUp] at h
  cases hlookup : server.tables.sessionsByEndPoint.lookup remote with
  | none =>
    rw [hlookup] at h
    cases h
  | some sender =>
    rw [hlookup] at h
    dsimp only at h
    split at h
    · cases h
    · split at h
      · cases h
      · split at h
        · cases h
        · obtain ⟨target, htarget, hd⟩ := Sends.mem_each_sent h
          refine ⟨sender, rfl, target, ?_, ?_⟩
          · exact (order.mem_arrange _ _).mp htarget
          · split at hd
            · cases hd
            · rename_i hne
              exact ⟨hne, by rw [List.mem_singleton.mp hd]⟩

private theorem tablesAgree_iff {server : RelayServer} :
    server.TablesAgree ↔ server.tables.SameSessions := by
  refine ⟨TablesAgree.sameSessions, ?_⟩
  intro hs
  have hend : ∀ s ∈ server.tables.sessionsById.values,
      server.tables.sessionsByEndPoint.lookup s.endPoint = some s := fun s h => (hs s).1.mp h
  refine ⟨hs, ?_, ?_, hend, ?_⟩
  · intro s hlive s' hlive' heq
    have h := hend s hlive
    rw [heq, hend s' hlive'] at h
    exact (Option.some.inj h).symm
  · intro s hlive s' hlive' heq
    have h := (hs s).2.mp (hend s hlive)
    rw [heq, (hs s').2.mp (hend s' hlive')] at h
    exact (Option.some.inj h).symm
  · intro now order reader remote d hd hecho
    obtain ⟨sender, hsender, target, hlive, hne, htarget⟩ := handleVoiceUp_sent hd
    have h := hend target hlive
    rw [← htarget, hecho, hsender] at h
    exact hne (congrArg ClientSession.sessionId (Option.some.inj h).symm)

end RelayServer

/-- SHA-256 of the empty password. -/
def emptyPasswordHash : Bytes :=
  [0xE3, 0xB0, 0xC4, 0x42, 0x98, 0xFC, 0x1C, 0x14, 0x9A, 0xFB, 0xF4, 0xC8, 0x99, 0x6F, 0xB9, 0x24,
    0x27, 0xAE, 0x41, 0xE4, 0x64, 0x9B, 0x93, 0x4C, 0xA4, 0x95, 0x99, 0x1B, 0x78, 0x52, 0xB8, 0x55]

theorem length_emptyPasswordHash : emptyPasswordHash.length = 32 := rfl

/-- A ConnectRequest as a client sends it. -/
def connectRequest (hash : Bytes) (uid name : String) : Bytes :=
  PacketType.connectRequest.code :: versionMajor :: hash ++ string8 (ascii uid) ++
    string8 (ascii name)

/-- The relay with the pass of the timeout sweep that is under way: its cutoff and the part of
its snapshot it has not visited. -/
structure Relay where
  server : RelayServer
  cutoff : Int := 0
  pending : List ClientSession := []

inductive RelayEvent where
  | datagram (now : Int) (order : SessionOrder) (data : Bytes) (remote : IPEndPoint)
  | sweepStart (now : Int) (order : SessionOrder)
  | sweepNext (order : SessionOrder)

namespace Relay

/-- One atomic step: a datagram, the start of a sweep pass, or its next session. -/
def step (relay : Relay) : RelayEvent → Relay
  | .datagram now order data remote =>
      { relay with server := (relay.server.handlePacket now order data remote).server }
  | .sweepStart now order =>
      match relay.pending with
      | [] =>
          { relay with
            cutoff := relay.server.sweepCutoff now, pending := relay.server.sessions order }
      | _ :: _ => relay
  | .sweepNext order =>
      match relay.pending with
      | [] => relay
      | session :: rest =>
          { relay with
            server := (relay.server.sweepSession order relay.cutoff session).server
            pending := rest }

/-- The relay as `RunAsync` starts it. -/
def start (options : ServerOptions) (expectedPasswordHash : Bytes) (serverVersion : Text) :
    Relay where
  server := { options, expectedPasswordHash, serverVersion }

/-- No step touches only a part of another live session's keys: an accepted request comes from
an endpoint and gets an id that no session of another uid has, and a session is swept together
with whoever holds one of its keys. -/
def KeysUnshared (relay : Relay) : RelayEvent → Prop
  | .datagram _ _ data remote =>
      match relay.server.admitted data with
      | some (uid, _) =>
          (relay.server.dropStale uid).isFull = false →
            ∀ s ∈ relay.server.tables.sessionsById.values, s.uid ≠ uid →
              s.endPoint ≠ remote ∧ s.sessionId ≠ relay.server.nextSessionId
      | none => True
  | .sweepStart _ _ => True
  | .sweepNext _ =>
      match relay.pending with
      | s :: _ => relay.server.isExpired relay.cutoff s = true → relay.server.tables.Aligned s
      | [] => True

theorem wellKept_step (relay : Relay) (e : RelayEvent) (hw : relay.server.WellKept) :
    (relay.step e).server.WellKept := by
  cases e with
  | datagram now order data remote =>
    show (relay.server.handlePacket now order data remote).server.WellKept
    rcases relay.server.handlePacket_server_cases now order data remote with
      ⟨uid, name, _, hserver⟩ | ⟨_, s, hlookup, hserver⟩ | ⟨_, seen, sequence, hserver⟩
    · rw [hserver, RelayServer.admitClient_server]
      have hdrop := hw.dropStale uid
      split
      · exact hdrop
      · exact hdrop.register now remote uid name
    · rw [hserver, ← hw.keyed.endPoint remote s hlookup]
      exact hw.removeKeys s
    · rw [hserver]
      exact ⟨hw.keyed, hw.spent⟩
  | sweepStart now order =>
    simp only [step]
    split <;> exact hw
  | sweepNext order =>
    simp only [step]
    split
    · exact hw
    · simp only [RelayServer.sweepSession]
      split
      · exact hw.removeKeys _
      · exact hw

private theorem sameSessions_step_iff (relay : Relay) (e : RelayEvent) (hw : relay.server.WellKept)
    (hs : relay.server.tables.SameSessions) :
    (relay.step e).server.tables.SameSessions ↔ relay.KeysUnshared e := by
  cases e with
  | datagram now order data remote =>
    show (relay.server.handlePacket now order data remote).server.tables.SameSessions ↔ _
    rcases relay.server.handlePacket_server_cases now order data remote with
      ⟨uid, name, hadmitted, hserver⟩ | ⟨hadmitted, s, hlookup, hserver⟩ |
        ⟨hadmitted, seen, sequence, hserver⟩
    · rw [hserver, RelayServer.admitClient_server]
      have hdrop := hw.dropStale uid
      have hsDrop := RelayServer.sameSessions_dropStale hw hs uid
      simp only [KeysUnshared, hadmitted]
      cases hfull : (relay.server.dropStale uid).isFull with
      | true => simp only [if_true, Bool.true_eq_false, false_implies, hsDrop]
      | false =>
        simp only [Bool.false_eq_true, if_false, true_implies]
        show ((relay.server.dropStale uid).tables.put _).SameSessions ↔ _
        rw [SessionTables.sameSessions_put_iff hdrop.keyed hsDrop
          (RelayServer.not_holds_newSession hdrop remote uid name)]
        simp only [SessionTables.Aligned, RelayServer.mem_dropStale hw hs, and_imp,
          RelayServer.newSession, RelayServer.dropStale_nextSessionId]
        apply forall_congr'
        intro s
        apply imp_congr_right
        intro _
        apply imp_congr_right
        intro huid
        constructor
        · intro h
          have hend : s.endPoint ≠ remote := fun heq => huid (h.2.mp heq)
          exact ⟨hend, fun heq => hend (h.1.mp heq)⟩
        · intro h
          exact ⟨iff_of_false h.2 h.1, iff_of_false h.1 huid⟩
    · rw [hserver]
      have hend := hw.keyed.endPoint remote s hlookup
      simp only [KeysUnshared, hadmitted, iff_true]
      rw [← hend]
      apply (SessionTables.sameSessions_removeKeys_iff hw.keyed hs).mpr
      apply hs.aligned hw.keyed
      apply (hs s).1.mpr
      rw [hend]
      exact hlookup
    · rw [hserver]
      simp only [KeysUnshared, hadmitted, iff_true]
      exact hs
  | sweepStart now order =>
    simp only [step, KeysUnshared, iff_true]
    split <;> exact hs
  | sweepNext order =>
    simp only [step, KeysUnshared]
    split
    case h_1 hpending => simp only [hpending, hs]
    case h_2 s rest hpending =>
      simp only [hpending, RelayServer.sweepSession]
      cases hexpired : relay.server.isExpired relay.cutoff s with
      | false => simp only [Bool.false_eq_true, if_false, false_implies, hs]
      | true =>
        simp only [if_true, true_implies]
        exact SessionTables.sameSessions_removeKeys_iff hw.keyed hs

theorem wellKept_start (options : ServerOptions) (hash : Bytes) (version : Text) :
    (start options hash version).server.WellKept where
  keyed := SessionTables.keyed_empty
  spent := by
    intro s h
    rcases h with h | h | h <;> cases h

private theorem sameSessions_start (options : ServerOptions) (hash : Bytes) (version : Text) :
    (start options hash version).server.tables.SameSessions := by
  intro s
  rw [(wellKept_start options hash version).keyed.mem_values]
  refine ⟨⟨?_, ?_⟩, ?_, ?_⟩ <;> intro h <;> cases h

/-- In a run from an empty relay the three dictionaries describe the same sessions in every
state, with everything that follows from it, exactly when all steps leave the keys of other
live sessions alone. -/
theorem throughout_tablesAgree_iff (options : ServerOptions) (hash : Bytes) (version : Text)
    (history : List RelayEvent) :
    Throughout step (fun relay => relay.server.TablesAgree) (start options hash version) history ↔
      Guarded step KeysUnshared (start options hash version) history := by
  apply throughout_iff_guarded (I := fun relay => relay.server.WellKept)
  · exact wellKept_start options hash version
  · exact RelayServer.tablesAgree_iff.mpr
      (sameSessions_start options hash version)
  · exact wellKept_step
  · intro relay e hw hagree
    rw [RelayServer.tablesAgree_iff]
    exact sameSessions_step_iff relay e hw (RelayServer.tablesAgree_iff.mp hagree)

/-- One endpoint connects as `A` and then as `B`, without a disconnect in between. -/
theorem tables_disagree :
    ¬ Throughout step (fun relay => relay.server.TablesAgree)
      (start {} emptyPasswordHash ['1'])
      [.datagram 1 .stored (connectRequest emptyPasswordHash "B" "") ⟨1, 5000⟩,
        .datagram 0 .stored (connectRequest emptyPasswordHash "A" "") ⟨1, 5000⟩] := by
  intro h
  have hagree := h.last.sameSessions ⟨0, 1, ⟨1, 5000⟩, ['A'], ['A']⟩
  exact absurd (hagree.1.mp (by decide)) (by decide)

end Relay

end TaskForceRadio.VoiceServer
