import TaskForceRadio.Relay.Answer

/-!
# Capacity

`HandleConnectRequest` checks the capacity after it has dropped the stale session of the uid.
That a refused request changes nothing therefore rests on the session tables: a stale session
still occupies a place by id. It holds as long as a new session does not take the id of a live
one, which it can once the 32-bit counter has gone round.
-/

set_option autoImplicit false

namespace TaskForceRadio.VoiceServer

namespace SessionTables

/-- Sessions by uid and by id are the same, and every session by endpoint is one of them. -/
structure Matched (t : SessionTables) : Prop where
  keyed : t.Keyed
  uid : ∀ s, t.sessionsById.lookup s.sessionId = some s ↔
    t.sessionsByUid.lookup s.uid = some s
  endPoint : ∀ s, t.sessionsByEndPoint.lookup s.endPoint = some s →
    t.sessionsById.lookup s.sessionId = some s

/-- Nobody else is stored under the id or the uid of the session. -/
def OwnsKeys (t : SessionTables) (x : ClientSession) : Prop :=
  (∀ s ∈ t.sessionsById.lookup x.sessionId, s = x) ∧ ∀ s ∈ t.sessionsByUid.lookup x.uid, s = x

instance (t : SessionTables) (x : ClientSession) : Decidable (t.OwnsKeys x) := by
  unfold OwnsKeys
  infer_instance

section Updates
variable {t : SessionTables} {x : ClientSession}

private theorem matched_empty : SessionTables.Matched {} where
  keyed := keyed_empty
  uid := by
    intro s
    refine ⟨?_, ?_⟩ <;> intro h <;> cases h
  endPoint := by
    intro s h
    cases h

private theorem Matched.ownsKeys (hm : t.Matched)
    (hx : t.sessionsById.lookup x.sessionId = some x) :
    t.OwnsKeys x := by
  constructor
  · intro s hs
    exact Option.some.inj (Option.mem_def.mp hs ▸ hx)
  · intro s hs
    exact Option.some.inj (Option.mem_def.mp hs ▸ (hm.uid x).mp hx)

theorem Matched.removeKeys (hm : t.Matched) (hown : t.OwnsKeys x) :
    (t.removeKeys x).Matched where
  keyed := hm.keyed.removeKeys x
  uid := by
    intro s
    obtain ⟨_, hI, hU⟩ := lookups_removeKeys t x s
    rw [hI, hU, hm.uid s]
    apply and_congr_left
    intro hs
    have hid := (hm.uid s).mpr hs
    constructor
    · intro hne huid
      rw [huid] at hs
      exact hne (congrArg ClientSession.sessionId (hown.2 s hs))
    · intro hne hsame
      rw [hsame] at hid
      exact hne (congrArg ClientSession.uid (hown.1 s hid))
  endPoint := by
    intro s hs
    obtain ⟨hE, hI, _⟩ := lookups_removeKeys t x s
    obtain ⟨hne, hstored⟩ := hE.mp hs
    have hid := hm.endPoint s hstored
    refine hI.mpr ⟨?_, hid⟩
    intro hsame
    rw [hsame] at hid
    exact hne (congrArg ClientSession.endPoint (hown.1 s hid))

theorem Matched.put (hm : t.Matched) (hid : t.sessionsById.lookup x.sessionId = none)
    (huid : t.sessionsByUid.lookup x.uid = none) :
    (t.put x).Matched := by
  have hnewId : ∀ s, t.sessionsById.lookup s.sessionId = some s → s.sessionId ≠ x.sessionId := by
    intro s hs hsame
    rw [hsame, hid] at hs
    cases hs
  have hnewUid : ∀ s, t.sessionsByUid.lookup s.uid = some s → s.uid ≠ x.uid := by
    intro s hs hsame
    rw [hsame, huid] at hs
    cases hs
  obtain ⟨hxE, hxI, hxU⟩ := lookups_put_self t x
  refine ⟨hm.keyed.put x, ?_, ?_⟩
  · intro s
    by_cases hs : s = x
    · rw [hs]
      exact iff_of_true hxI hxU
    · obtain ⟨_, hI, hU⟩ := lookups_put t x s hs
      rw [hI, hU, and_iff_right_of_imp (hnewId s), and_iff_right_of_imp (hnewUid s)]
      exact hm.uid s
  · intro s hstored
    by_cases hs : s = x
    · rw [hs]
      exact hxI
    · obtain ⟨hE, hI, _⟩ := lookups_put t x s hs
      have hlive := hm.endPoint s (hE.mp hstored).2
      exact hI.mpr ⟨hnewId s hlive, hlive⟩

end Updates

end SessionTables

namespace RelayServer

/-- The server has no more sessions than it may have. -/
def WithinLimit (server : RelayServer) : Prop :=
  (server.tables.sessionsById.count : Int) ≤ server.options.maxClients

private theorem lookup_uid_dropStale (server : RelayServer) (uid : Text) :
    (server.dropStale uid).tables.sessionsByUid.lookup uid = none := by
  simp only [dropStale]
  split
  case h_1 hnone => exact hnone
  case h_2 => exact AList.lookup_erase _ _

private theorem matched_dropStale {server : RelayServer} (hm : server.tables.Matched) (uid : Text) :
    (server.dropStale uid).tables.Matched := by
  rcases dropStale_tables hm.keyed uid with ⟨htables, _⟩ | ⟨stale, hstale, htables⟩
  · rw [htables]
    exact hm
  · rw [htables]
    have huid := hm.keyed.uid uid stale hstale
    apply hm.removeKeys
    apply hm.ownsKeys
    apply (hm.uid stale).mpr
    rw [huid]
    exact hstale

private theorem count_dropStale_le (server : RelayServer) (uid : Text) :
    (server.dropStale uid).tables.sessionsById.count ≤ server.tables.sessionsById.count := by
  simp only [dropStale]
  split
  · exact Nat.le_refl _
  · exact Dictionary.count_erase_le _ _

private theorem lookup_uid_of_full {server : RelayServer} (hm : server.tables.Matched)
    (hlimit : server.WithinLimit) {uid : Text} (hfull : (server.dropStale uid).isFull = true) :
    server.tables.sessionsByUid.lookup uid = none := by
  cases hstale : server.tables.sessionsByUid.lookup uid with
  | none => rfl
  | some stale =>
    have huid := hm.keyed.uid uid stale hstale
    have hlive : server.tables.sessionsById.lookup stale.sessionId = some stale := by
      apply (hm.uid stale).mpr
      rw [huid]
      exact hstale
    have hcount := Dictionary.count_erase_of_lookup hlive
    simp only [isFull, dropStale_options, decide_eq_true_eq] at hfull
    simp only [dropStale, hstale] at hfull
    simp only [WithinLimit] at hlimit
    have hplaces : server.options.maxClients ≤
        (Dictionary.count (server.tables.sessionsById.erase stale.sessionId) : Int) := hfull
    omega

private theorem dropStale_of_lookup {server : RelayServer} {uid : Text}
    (h : server.tables.sessionsByUid.lookup uid = none) :
    server.dropStale uid = server := by
  simp only [dropStale, h]

private theorem announceStale_of_lookup {server : RelayServer} {uid : Text}
    (h : server.tables.sessionsByUid.lookup uid = none) (order : SessionOrder) :
    server.announceStale order uid = {} := by
  simp only [announceStale, h]

end RelayServer

/-- A `ConnectReject` was sent. -/
def Handled.rejects (handled : Handled) : Prop :=
  ∃ d ∈ handled.sent, d.kind = some PacketType.connectReject.code

/-- A `ClientLeft` was sent. -/
def Handled.announcesLeft (handled : Handled) : Prop :=
  ∃ d ∈ handled.sent, d.kind = some PacketType.clientLeft.code

namespace RelayServer

private theorem admitClient_rejects_iff (server : RelayServer) (now : Int) (order : SessionOrder)
    (remote : IPEndPoint) (uid name : Text) :
    (server.admitClient now order remote uid name).rejects ↔
      (server.dropStale uid).isFull = true := by
  have hsent := admitClient_sent server now order remote uid name
  split at hsent
  case isTrue hfull =>
    refine iff_of_true ?_ hfull
    rw [Handled.rejects, hsent]
    exact ⟨_, List.mem_append_right _ List.mem_cons_self, rfl⟩
  case isFalse hroom =>
    refine iff_of_false ?_ hroom
    obtain ⟨fields, joined, hsent, hjoined⟩ := hsent
    rintro ⟨d, hd, hkind⟩
    rw [hsent] at hd
    rcases List.mem_append.mp hd with hleft | hlater
    · rw [announceStale_kind hleft] at hkind
      exact absurd hkind (by decide)
    · rcases List.mem_cons.mp hlater with haccept | hjoin
      · rw [haccept] at hkind
        exact absurd (Option.some.inj hkind) (by decide)
      · rw [hjoined d hjoin] at hkind
        exact absurd hkind (by decide)

/-- What a server in order promises about the requests it rejects. -/
structure AdmissionSound (server : RelayServer) : Prop where
  withinLimit : server.WithinLimit
  unchanged : ∀ now order reader remote,
    (server.handlePacket now order (PacketType.connectRequest.code :: reader) remote).rejects →
      (server.handlePacket now order (PacketType.connectRequest.code :: reader)
        remote).server.tables = server.tables ∧
      ¬ (server.handlePacket now order (PacketType.connectRequest.code :: reader)
        remote).announcesLeft
  roomForKnown : ∀ now order data remote uid name, server.admitted data = some (uid, name) →
    (∃ s, server.tables.Holds s ∧ s.uid = uid) →
      ⟨remote, [PacketType.connectReject.code, ConnectRejectReason.serverFull.code]⟩ ∉
        (server.handlePacket now order data remote).sent

private theorem rejects_unchanged {server : RelayServer} (hm : server.tables.Matched)
    (hlimit : server.WithinLimit) {now : Int} {order : SessionOrder} {reader : Bytes}
    {remote : IPEndPoint}
    (h : (server.handleConnectRequest now order reader remote).rejects) :
    (server.handleConnectRequest now order reader remote).server.tables = server.tables ∧
      ¬ (server.handleConnectRequest now order reader remote).announcesLeft := by
  simp only [handleConnectRequest] at h ⊢
  split at h
  · obtain ⟨d, hd, _⟩ := h
    cases hd
  · refine ⟨rfl, ?_⟩
    rintro ⟨d, hd, hkind⟩
    rw [List.mem_singleton.mp hd] at hkind
    exact absurd (Option.some.inj hkind) (by decide)
  · rename_i uid name _
    have hfull := (admitClient_rejects_iff _ _ _ _ _ _).mp h
    have hnone := lookup_uid_of_full hm hlimit hfull
    have hsent := admitClient_sent server now order remote uid name
    rw [if_pos hfull, announceStale_of_lookup hnone] at hsent
    refine ⟨?_, ?_⟩
    · rw [admitClient_server, if_pos hfull, dropStale_of_lookup hnone]
    · rintro ⟨d, hd, hkind⟩
      rw [hsent] at hd
      rw [List.mem_singleton.mp hd] at hkind
      exact absurd (Option.some.inj hkind) (by decide)

private theorem admissionSound_of_matched {server : RelayServer} (hm : server.tables.Matched)
    (hlimit : server.WithinLimit) :
    server.AdmissionSound where
  withinLimit := hlimit
  unchanged := by
    intro now order reader remote h
    simp only [handlePacket, PacketType.ofCode_code] at h ⊢
    exact rejects_unchanged hm hlimit h
  roomForKnown := by
    rintro now order data remote uid name hadmitted ⟨s, hholds, rfl⟩ hsent
    rw [handlePacket_admitted hadmitted] at hsent
    have hfull := (admitClient_rejects_iff server now order remote s.uid name).mp
      ⟨_, hsent, rfl⟩
    have hnone := lookup_uid_of_full hm hlimit hfull
    have huid : server.tables.sessionsByUid.lookup s.uid = some s := by
      rcases hholds with hend | hid | huid
      · exact (hm.uid s).mp (hm.endPoint s hend)
      · exact (hm.uid s).mp hid
      · exact huid
    rw [hnone] at huid
    cases huid

end RelayServer

namespace Relay
open RelayServer

/-- A new session gets an id that no session has once the stale one is gone, and a session that
is swept has not lost its id or uid to another one. -/
def TakesNoKeys (relay : Relay) : RelayEvent → Prop
  | .datagram _ _ data _ =>
      match relay.server.admitted data with
      | some (uid, _) =>
          (relay.server.dropStale uid).isFull = false →
            (relay.server.dropStale uid).tables.sessionsById.lookup
              relay.server.nextSessionId = none
      | none => True
  | .sweepStart _ _ => True
  | .sweepNext _ =>
      match relay.pending with
      | s :: _ => relay.server.isExpired relay.cutoff s = true → relay.server.tables.OwnsKeys s
      | [] => True

instance (relay : Relay) (e : RelayEvent) : Decidable (relay.TakesNoKeys e) := by
  unfold TakesNoKeys
  split
  · split <;> infer_instance
  · infer_instance
  · split <;> infer_instance

end Relay

namespace RelayServer

/-- What guarded steps keep. -/
structure InOrder (server : RelayServer) : Prop where
  matched : server.tables.Matched
  withinLimit : server.WithinLimit

theorem InOrder.removeKeys {server : RelayServer} (h : server.InOrder) {x : ClientSession}
    (hown : server.tables.OwnsKeys x) :
    InOrder { server with tables := server.tables.removeKeys x } where
  matched := h.matched.removeKeys hown
  withinLimit := by
    have hcount := Dictionary.count_erase_le server.tables.sessionsById x.sessionId
    exact (Int.ofNat_le.mpr hcount).trans h.withinLimit

theorem InOrder.dropStale {server : RelayServer} (h : server.InOrder) (uid : Text) :
    (server.dropStale uid).InOrder where
  matched := matched_dropStale h.matched uid
  withinLimit := by
    have hcount := count_dropStale_le server uid
    rw [WithinLimit, dropStale_options]
    exact (Int.ofNat_le.mpr hcount).trans h.withinLimit

theorem InOrder.register {server : RelayServer} (h : server.InOrder) {uid : Text}
    (hroom : server.isFull = false)
    (hid : server.tables.sessionsById.lookup server.nextSessionId = none)
    (huid : server.tables.sessionsByUid.lookup uid = none)
    (now : Int) (remote : IPEndPoint) (name : Text) :
    (server.register now (server.newSession remote uid name)).InOrder where
  matched := h.matched.put hid huid
  withinLimit := by
    have hcount := Dictionary.count_insert_le server.tables.sessionsById server.nextSessionId
      (server.newSession remote uid name)
    have hplaces : ¬ server.options.maxClients ≤ server.tables.sessionsById.count := by
      simpa [isFull] using hroom
    show (Dictionary.count (server.tables.sessionsById.insert server.nextSessionId
      (server.newSession remote uid name)) : Int) ≤ server.options.maxClients
    omega

end RelayServer

namespace Relay

private theorem inOrder_step (relay : Relay) (e : RelayEvent) (h : relay.server.InOrder)
    (hkeys : relay.TakesNoKeys e) :
    (relay.step e).server.InOrder := by
  cases e with
  | datagram now order data remote =>
    show (relay.server.handlePacket now order data remote).server.InOrder
    rcases relay.server.handlePacket_server_cases now order data remote with
      ⟨uid, name, hadmitted, hserver⟩ | ⟨_, s, hlookup, hserver⟩ | ⟨_, seen, sequence, hserver⟩
    · rw [hserver, RelayServer.admitClient_server]
      have hdrop := h.dropStale uid
      simp only [TakesNoKeys, hadmitted] at hkeys
      split
      case isTrue => exact hdrop
      case isFalse hroom =>
        have hroom' := Bool.eq_false_of_not_eq_true hroom
        apply hdrop.register hroom' _ (RelayServer.lookup_uid_dropStale _ _)
        rw [RelayServer.dropStale_nextSessionId]
        exact hkeys hroom'
    · have hend := h.matched.keyed.endPoint remote s hlookup
      rw [hserver, ← hend]
      apply h.removeKeys
      apply h.matched.ownsKeys
      apply h.matched.endPoint
      rw [hend]
      exact hlookup
    · rw [hserver]
      exact ⟨h.matched, h.withinLimit⟩
  | sweepStart now order =>
    simp only [step]
    split <;> exact h
  | sweepNext order =>
    simp only [step]
    split
    case h_1 => exact h
    case h_2 s rest hpending =>
      simp only [TakesNoKeys, hpending] at hkeys
      simp only [RelayServer.sweepSession]
      split
      case isTrue hexpired => exact h.removeKeys (hkeys hexpired)
      case isFalse => exact h

private theorem inOrder_start (options : ServerOptions) (hash : Bytes) (version : Text)
    (hmax : 1 ≤ options.maxClients) :
    (start options hash version).server.InOrder where
  matched := SessionTables.matched_empty
  withinLimit := (Int.zero_le_ofNat 1).trans hmax

/-- Capacity is exact and rejected requests change nothing in every run in which no step takes
the keys of another session. -/
theorem throughout_admissionSound (options : ServerOptions) (hash : Bytes) (version : Text)
    (hmax : 1 ≤ options.maxClients) (history : List RelayEvent)
    (hkeys : Guarded step TakesNoKeys (start options hash version) history) :
    Throughout step (fun relay => relay.server.AdmissionSound) (start options hash version)
      history := by
  have hordered := throughout_of_guarded (I := fun relay => relay.server.InOrder)
    (inOrder_start options hash version hmax) inOrder_step hkeys
  exact hordered.imp fun relay h => RelayServer.admissionSound_of_matched h.matched h.withinLimit

/-- Two clients connect, and a sweep 30 s later removes the first. -/
theorem throughout_admissionSound_sweep :
    Throughout step (fun relay => relay.server.AdmissionSound)
      (start { maxClients := 2 } emptyPasswordHash ['1'])
      [.sweepNext .stored, .sweepStart 300000000 .stored,
        .datagram 1 .stored (connectRequest emptyPasswordHash "B" "") ⟨1, 6000⟩,
        .datagram 0 .stored (connectRequest emptyPasswordHash "A" "") ⟨1, 5000⟩] :=
  throughout_admissionSound { maxClients := 2 } emptyPasswordHash ['1'] (by decide) _ (by decide)

end Relay

namespace SessionTables

/-- The tables without the session of the uid. -/
def vacate (t : SessionTables) (uid : Text) : SessionTables :=
  match t.sessionsByUid.lookup uid with
  | none => t
  | some stale => ((t.removeUid uid).removeEndPoint stale.endPoint).removeId stale.sessionId

private theorem vacate_put {t : SessionTables} {x : ClientSession}
    (hend : t.sessionsByEndPoint.lookup x.endPoint = none)
    (hid : t.sessionsById.lookup x.sessionId = none)
    (huid : t.sessionsByUid.lookup x.uid = none) :
    (t.put x).vacate x.uid = t := by
  rw [vacate, (lookups_put_self t x).2.2]
  obtain ⟨byEndPoint, byId, byUid⟩ := t
  simp only [put, putEndPoint, putId, putUid, removeUid, removeEndPoint, removeId,
    Dictionary.erase_insert hend, Dictionary.erase_insert hid, Dictionary.erase_insert huid]

end SessionTables

namespace RelayServer

private theorem dropStale_eq_vacate (server : RelayServer) (uid : Text) :
    (server.dropStale uid).tables = server.tables.vacate uid := by
  cases hstale : server.tables.sessionsByUid.lookup uid with
  | none => simp only [dropStale, SessionTables.vacate, hstale]
  | some stale => simp only [dropStale, SessionTables.vacate, hstale]

private theorem admitted_connectRequest {server : RelayServer}
    (hhash : server.expectedPasswordHash = emptyPasswordHash) (uid : String)
    (huid : uid.toList ≠ []) (hlength : (ascii uid).length ≤ maxUidLength) :
    server.admitted (connectRequest emptyPasswordHash uid "") = some (uid.toList, []) := by
  have hread : readIdentity (string8 (ascii uid) ++ string8 (ascii "")) =
      .ok (uid.toList, []) := by
    have hname : PacketReader.readString8 maxNameLength (string8 (ascii "")) = .ok ([], []) := rfl
    simp only [readIdentity, bind, Except.bind]
    rw [PacketReader.readString8_string8 _ hlength (hlength.trans (by decide))]
    dsimp only
    rw [hname, ascii, decodeUtf8_encodeUtf8]
    rfl
  have hverdict : server.connectVerdict (versionMajor :: (emptyPasswordHash ++
      (string8 (ascii uid) ++ string8 (ascii "")))) = .ok (.proceed uid.toList []) := by
    simp only [connectVerdict, PacketReader.readByte_cons, ne_eq, not_true_eq_false, if_false]
    rw [if_neg (by simp [length_emptyPasswordHash]), ← length_emptyPasswordHash, List.drop_left,
      List.take_left, hread]
    simp [huid, hhash]
  simp only [admitted, connectRequest, List.cons_append, List.append_assoc,
    PacketType.ofCode_code, if_true]
  rw [hverdict]

/-- The fields that decide how a relay with two places and no password takes a request. -/
structure Shows (server : RelayServer) (tables : SessionTables) (sessionId : UInt32) (obj : Nat) :
    Prop where
  options : server.options = { maxClients := 2 }
  hash : server.expectedPasswordHash = emptyPasswordHash
  tables : server.tables = tables
  nextSessionId : server.nextSessionId = sessionId
  nextObj : server.nextObj = obj

end RelayServer

namespace Relay
open RelayServer

def connect (uid : String) (port : UInt16) : RelayEvent :=
  .datagram 0 .stored (connectRequest emptyPasswordHash uid "") ⟨1, port⟩

private theorem shows_connect {relay : Relay} {t : SessionTables} {sessionId : UInt32} {obj : Nat}
    (h : relay.server.Shows t sessionId obj) (uid : String) (huid : uid.toList ≠ [])
    (hlength : (ascii uid).length ≤ maxUidLength) (port : UInt16)
    (hroom : (t.vacate uid.toList).sessionsById.count < 2) :
    (relay.step (connect uid port)).server.Shows
      ((t.vacate uid.toList).put ⟨obj, sessionId, ⟨1, port⟩, uid.toList, uid.toList⟩)
      (sessionId + 1) (obj + 1) := by
  have hadmitted := admitted_connectRequest h.hash uid huid hlength
  have htables := dropStale_eq_vacate relay.server uid.toList
  rw [h.tables] at htables
  have hplace : (relay.server.dropStale uid.toList).isFull = false := by
    simp only [isFull, dropStale_options, htables, h.options, decide_eq_false_iff_not]
    omega
  have hserver : (relay.step (connect uid port)).server =
      (relay.server.dropStale uid.toList).register 0
        ((relay.server.dropStale uid.toList).newSession ⟨1, port⟩ uid.toList []) := by
    simp only [step, connect]
    rw [handlePacket_admitted hadmitted, admitClient_server, hplace]
    rfl
  have hsession : (relay.server.dropStale uid.toList).newSession ⟨1, port⟩ uid.toList [] =
      ⟨obj, sessionId, ⟨1, port⟩, uid.toList, uid.toList⟩ := by
    simp only [newSession, dropStale_nextObj, dropStale_nextSessionId, h.nextObj,
      h.nextSessionId, if_true]
  rw [hserver, hsession]
  refine ⟨?_, ?_, ?_, ?_, ?_⟩
  · exact (dropStale_options _ _).trans h.options
  · exact (dropStale_expectedPasswordHash _ _).trans h.hash
  · simp only [register, construct, htables]
  · simp only [register, construct, dropStale_nextSessionId, h.nextSessionId]
  · simp only [register, construct, dropStale_nextObj, h.nextObj]

/-- `A`'s session, the first of the relay. -/
def firstSession : ClientSession := ⟨0, 1, ⟨1, 5000⟩, ['A'], ['A']⟩

/-- `B`'s session after its `n`-th request. -/
def reconnected (n : Nat) : ClientSession :=
  ⟨n, UInt32.ofNat (n + 1), ⟨1, 6000⟩, ['B'], ['B']⟩

def justFirst : SessionTables := SessionTables.put {} firstSession

private theorem vacate_reconnected {n : Nat} (hn : n < 4294967295) :
    (justFirst.put (reconnected (n + 1))).vacate ['B'] = justFirst := by
  have hid : UInt32.ofNat (n + 1 + 1) ≠ 1 := by
    intro h
    have hnat := congrArg UInt32.toNat h
    simp only [UInt32.toNat_ofNat', UInt32.toNat_one] at hnat
    omega
  apply SessionTables.vacate_put (x := reconnected (n + 1))
  · rfl
  · show (SessionTables.putId _ firstSession).sessionsById.lookup _ = none
    rw [SessionTables.lookup_putId]
    exact if_neg hid
  · rfl

private theorem shows_reconnected (n : Nat) (hn : n < 4294967295) :
    (runHistory step (start { maxClients := 2 } emptyPasswordHash ['1'])
      (List.replicate (n + 1) (connect "B" 6000) ++ [connect "A" 5000])).server.Shows
        (justFirst.put (reconnected (n + 1))) (UInt32.ofNat (n + 3)) (n + 2) := by
  induction n with
  | zero =>
    have hstart : (start { maxClients := 2 } emptyPasswordHash ['1']).server.Shows {} 1 0 :=
      ⟨rfl, rfl, rfl, rfl, rfl⟩
    have hfirst := shows_connect hstart "A" (by decide) (by decide) 5000 (by decide)
    exact shows_connect hfirst "B" (by decide) (by decide) 6000 (by decide)
  | succ n ih =>
    have hvacate : (justFirst.put (reconnected (n + 1))).vacate "B".toList = justFirst :=
      vacate_reconnected (by omega)
    have hroom : ((justFirst.put (reconnected (n + 1))).vacate "B".toList).sessionsById.count <
        2 := by
      rw [hvacate]
      decide
    have hnext := shows_connect (ih (by omega)) "B" (by decide) (by decide) 6000 hroom
    rw [hvacate, show UInt32.ofNat (n + 3) + 1 = UInt32.ofNat (n + 1 + 3) from
      (UInt32.ofNat_add (n + 3) 1).symm] at hnext
    exact hnext

/-- `A` connects, `B` connects 4294967297 times from one endpoint, and `C` connects. -/
def idsComeRound : List RelayEvent :=
  connect "C" 7000 :: (List.replicate 4294967297 (connect "B" 6000) ++ [connect "A" 5000])

/-- The tables of these three: `A` has lost its entry by id to a session that is gone. -/
def comeRound : SessionTables :=
  (((((justFirst.put (reconnected 4294967296)).vacate ['B']).put
    (reconnected 4294967297))).vacate ['C']).put ⟨4294967298, 3, ⟨1, 7000⟩, ['C'], ['C']⟩

private theorem shows_comeRound :
    (runHistory step (start { maxClients := 2 } emptyPasswordHash ['1']) idsComeRound).server.Shows
      comeRound 4 4294967299 := by
  have hlast := shows_reconnected 4294967294 (by decide)
  have hvacate : (justFirst.put (reconnected 4294967295)).vacate "B".toList = justFirst :=
    vacate_reconnected (n := 4294967294) (by decide)
  have hroom : ((justFirst.put (reconnected 4294967295)).vacate "B".toList).sessionsById.count <
      2 := by
    rw [hvacate]
    decide
  have htaken := shows_connect hlast "B" (by decide) (by decide) 6000 hroom
  rw [hvacate] at htaken
  have hmoved := shows_connect htaken "B" (by decide) (by decide) 6000 (by decide)
  have hthird := shows_connect hmoved "C" (by decide) (by decide) 7000 (by decide)
  exact hthird

/-- `A`'s stale session frees no place: it is announced to have left, and `A` is refused. -/
theorem rejection_changes_tables :
    ¬ Throughout step (fun relay => relay.server.AdmissionSound)
      (start { maxClients := 2 } emptyPasswordHash ['1']) idsComeRound := by
  intro h
  have hsound := h.last
  have hshows := shows_comeRound
  generalize (runHistory step (start { maxClients := 2 } emptyPasswordHash ['1'])
    idsComeRound).server = server at hsound hshows
  have hadmitted : server.admitted (connectRequest emptyPasswordHash "A" "") =
      some (['A'], []) :=
    admitted_connectRequest hshows.hash "A" (by decide) (by decide)
  have hvacate := dropStale_eq_vacate server ['A']
  rw [hshows.tables] at hvacate
  have hfull : (server.dropStale ['A']).isFull = true := by
    simp only [isFull, dropStale_options, hvacate, hshows.options]
    decide
  have hrejects : (server.handlePacket 0 .stored (connectRequest emptyPasswordHash "A" "")
      ⟨1, 5000⟩).rejects := by
    rw [handlePacket_admitted hadmitted]
    exact (admitClient_rejects_iff _ _ _ _ _ _).mpr hfull
  have hchanged : (server.handlePacket 0 .stored (connectRequest emptyPasswordHash "A" "")
      ⟨1, 5000⟩).server.tables = comeRound.vacate ['A'] := by
    rw [handlePacket_admitted hadmitted, admitClient_server, if_pos hfull, hvacate]
  have hkept := hchanged.symm.trans (hsound.unchanged _ _ _ _ hrejects).1
  rw [hshows.tables] at hkept
  have hlost := congrArg (fun tables => tables.sessionsByUid.lookup ['A']) hkept
  exact absurd hlost (by decide)

end Relay
end TaskForceRadio.VoiceServer
