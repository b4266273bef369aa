import TaskForceRadio.Relay.Tables

/-!
# The sweep and the receive loop as threads

Both threads of the relay as machines whose steps are single dictionary operations, interleaved
in any order. The sweep removes by key what its snapshot says, so between two of its steps the
uid can have become another session's; a run in which it never meets such an entry keeps every
session reachable by its uid.
-/

set_option autoImplicit false

namespace TaskForceRadio.VoiceServer

/-- An accepted request. -/
structure ConnectOrder where
  remote : IPEndPoint
  uid : Text
  name : Text
  deriving DecidableEq, Repr

/-- What the receive thread does next. -/
inductive ReceiveState where
  | idle
  | seen (session : ClientSession)
  | dropEndPoint (stale : ClientSession) (request : ConnectOrder)
  | dropId (stale : ClientSession) (request : ConnectOrder)
  | count (request : ConnectOrder)
  | putEndPoint (session : ClientSession)
  | putId (session : ClientSession)
  | putUid (session : ClientSession)
  | disconnectId (session : ClientSession)
  | disconnectUid (session : ClientSession)
  deriving DecidableEq, Repr

/-- What the sweep thread does next, with its cutoff and the rest of its snapshot. -/
inductive SweepState where
  | idle
  | visiting (cutoff : Int) (rest : List ClientSession)
  | removeEndPoint (cutoff : Int) (session : ClientSession) (rest : List ClientSession)
  | removeId (cutoff : Int) (session : ClientSession) (rest : List ClientSession)
  | removeUid (cutoff : Int) (session : ClientSession) (rest : List ClientSession)
  deriving DecidableEq, Repr

structure RelayThreads where
  server : RelayServer
  receive : ReceiveState := .idle
  sweep : SweepState := .idle

inductive ThreadEvent where
  | datagram (data : Bytes) (remote : IPEndPoint)
  | receiveStep (now : Int)
  | sweepStart (now : Int) (order : SessionOrder)
  | sweepStep

namespace RelayThreads

def withTables (t : RelayThreads) (tables : SessionTables) (receive : ReceiveState) :
    RelayThreads :=
  { t with server := { t.server with tables }, receive }

/-- The handlers that only look a session up and note the time. -/
def noteSeen (t : RelayThreads) (remote : IPEndPoint) : RelayThreads :=
  match t.server.tables.sessionsByEndPoint.lookup remote with
  | none => t
  | some session => { t with receive := .seen session }

/-- The first dictionary operation of a handler. -/
def beginHandler (t : RelayThreads) (data : Bytes) (remote : IPEndPoint) : RelayThreads :=
  match data with
  | [] => t
  | packetType :: reader =>
      match PacketType.ofCode packetType with
      | some .connectRequest =>
          match t.server.connectVerdict reader with
          | .ok (.proceed uid name) =>
              match t.server.tables.sessionsByUid.lookup uid with
              | none => { t with receive := .count ⟨remote, uid, name⟩ }
              | some stale =>
                  t.withTables (t.server.tables.removeUid uid)
                    (.dropEndPoint stale ⟨remote, uid, name⟩)
          | _ => t
      | some .ping =>
          match PacketReader.readUInt32 reader with
          | .error _ => t
          | .ok _ => t.noteSeen remote
      | some .voiceUp => t.noteSeen remote
      | some .radioTxUpdate => t.noteSeen remote
      | some .disconnect =>
          match t.server.tables.sessionsByEndPoint.lookup remote with
          | none => t
          | some session =>
              t.withTables (t.server.tables.removeEndPoint remote) (.disconnectId session)
      | _ => t

/-- The next operation of the handler that is under way. -/
def receiveStep (t : RelayThreads) (now : Int) : RelayThreads :=
  match t.receive with
  | .idle => t
  | .seen session => { t with server := t.server.touch session now, receive := .idle }
  | .dropEndPoint stale request =>
      t.withTables (t.server.tables.removeEndPoint stale.endPoint) (.dropId stale request)
  | .dropId stale request =>
      t.withTables (t.server.tables.removeId stale.sessionId) (.count request)
  | .count request =>
      if t.server.isFull then { t with receive := .idle }
      else
        let session := t.server.newSession request.remote request.uid request.name
        { t with server := t.server.construct now session, receive := .putEndPoint session }
  | .putEndPoint session => t.withTables (t.server.tables.putEndPoint session) (.putId session)
  | .putId session => t.withTables (t.server.tables.putId session) (.putUid session)
  | .putUid session => t.withTables (t.server.tables.putUid session) .idle
  | .disconnectId session =>
      t.withTables (t.server.tables.removeId session.sessionId) (.disconnectUid session)
  | .disconnectUid session => t.withTables (t.server.tables.removeUid session.uid) .idle

def sweepStart (t : RelayThreads) (now : Int) (order : SessionOrder) : RelayThreads :=
  match t.sweep with
  | .idle => { t with sweep := .visiting (t.server.sweepCutoff now) (t.server.sessions order) }
  | _ => t

/-- The next operation of the sweep. -/
def sweepStep (t : RelayThreads) : RelayThreads :=
  match t.sweep with
  | .idle => t
  | .visiting _ [] => { t with sweep := .idle }
  | .visiting cutoff (session :: rest) =>
      if t.server.isExpired cutoff session then
        { t with sweep := .removeEndPoint cutoff session rest }
      else { t with sweep := .visiting cutoff rest }
  | .removeEndPoint cutoff session rest =>
      { t with
        server := { t.server with tables := t.server.tables.removeEndPoint session.endPoint }
        sweep := .removeId cutoff session rest }
  | .removeId cutoff session rest =>
      { t with
        server := { t.server with tables := t.server.tables.removeId session.sessionId }
        sweep := .removeUid cutoff session rest }
  | .removeUid cutoff session rest =>
      { t with
        server := { t.server with tables := t.server.tables.removeUid session.uid }
        sweep := .visiting cutoff rest }

/-- A datagram is taken up when the handler of the last one has returned. -/
def step (t : RelayThreads) : ThreadEvent → RelayThreads
  | .datagram data remote =>
      match t.receive with
      | .idle => t.beginHandler data remote
      | _ => t
  | .receiveStep now => t.receiveStep now
  | .sweepStart now order => t.sweepStart now order
  | .sweepStep => t.sweepStep

/-- The handler run to its end without the sweep. No handler has more than six operations. -/
def runHandler (t : RelayThreads) (now : Int) (data : Bytes) (remote : IPEndPoint) :
    RelayThreads :=
  (fun t => t.receiveStep now)^[6] (t.beginHandler data remote)

/-- The threads with an idle receive thread that has left this server behind. -/
structure Leaves (t : RelayThreads) (sweep : SweepState) (server : RelayServer) : Prop where
  receive : t.receive = .idle
  sweep : t.sweep = sweep
  tables : t.server.tables = server.tables
  lastSeenUtc : t.server.lastSeenUtc = server.lastSeenUtc
  nextObj : t.server.nextObj = server.nextObj

private theorem connect_leaves (server : RelayServer) (sweep : SweepState) (now : Int)
    (order : SessionOrder) (request : ConnectOrder) :
    Leaves ((fun t => t.receiveStep now)^[6]
        (match server.tables.sessionsByUid.lookup request.uid with
          | none => { server, receive := .count request, sweep }
          | some stale => withTables { server, sweep } (server.tables.removeUid request.uid)
              (.dropEndPoint stale request)))
      sweep (server.admitClient now order request.remote request.uid request.name).server := by
  rw [RelayServer.admitClient_server]
  unfold RelayServer.dropStale
  -- from the count on, a handler works on the tables the stale session has left
  have hcount : ∀ (server : RelayServer) (n : Nat),
      Leaves ((fun t => t.receiveStep now)^[n + 4] { server, receive := .count request, sweep })
        sweep (if server.isFull then server
          else server.register now
            (server.newSession request.remote request.uid request.name)) := by
    intro server n
    have hrest : ∀ server : RelayServer, (fun t : RelayThreads => t.receiveStep now)^[n]
        { server, sweep } = { server, sweep } :=
      fun server => Function.iterate_fixed rfl n
    rw [Function.iterate_add_apply]
    cases hfull : server.isFull with
    | true =>
      have hstop : (fun t : RelayThreads => t.receiveStep now)^[4]
          { server, receive := .count request, sweep } = { server, sweep } := by
        simp [receiveStep, hfull]
      rw [hstop, hrest]
      exact ⟨rfl, rfl, rfl, rfl, rfl⟩
    | false =>
      have hstop : (fun t : RelayThreads => t.receiveStep now)^[4]
          { server, receive := .count request, sweep } =
          { server := server.register now
              (server.newSession request.remote request.uid request.name), sweep } := by
        simp [receiveStep, hfull, withTables, RelayServer.register, SessionTables.put,
          RelayServer.construct]
      rw [hstop, hrest]
      exact ⟨rfl, rfl, rfl, rfl, rfl⟩
  cases server.tables.sessionsByUid.lookup request.uid with
  | none => exact hcount server 2
  | some stale =>
    have hdrop : (fun t : RelayThreads => t.receiveStep now)^[2]
        (withTables { server, sweep } (server.tables.removeUid request.uid)
          (.dropEndPoint stale request)) =
        withTables { server, sweep } (((server.tables.removeUid request.uid).removeEndPoint
          stale.endPoint).removeId stale.sessionId) (.count request) := rfl
    have hlast := hcount { server with tables := ((server.tables.removeUid
      request.uid).removeEndPoint stale.endPoint).removeId stale.sessionId } 0
    show Leaves ((fun t => t.receiveStep now)^[4 + 2] _) _ _
    rw [Function.iterate_add_apply, hdrop]
    exact hlast

private theorem noteSeen_leaves {server left : RelayServer} (sweep : SweepState) {now : Int}
    {remote : IPEndPoint}
    (hnone : server.tables.sessionsByEndPoint.lookup remote = none → left = server)
    (hsome : ∀ session, server.tables.sessionsByEndPoint.lookup remote = some session →
      left.tables = server.tables ∧ left.nextObj = server.nextObj ∧
        left.lastSeenUtc = (server.touch session now).lastSeenUtc) :
    Leaves ((fun t => t.receiveStep now)^[6] (noteSeen { server, sweep } remote)) sweep left := by
  simp only [noteSeen]
  cases hlookup : server.tables.sessionsByEndPoint.lookup remote with
  | none =>
    rw [hnone hlookup]
    exact ⟨rfl, rfl, rfl, rfl, rfl⟩
  | some session =>
    obtain ⟨htables, hobj, hseen⟩ := hsome session hlookup
    exact ⟨rfl, rfl, htables.symm, hseen.symm, hobj.symm⟩

private theorem runHandler_leaves (server : RelayServer) (sweep : SweepState) (now : Int)
    (order : SessionOrder) (data : Bytes) (remote : IPEndPoint) :
    Leaves (runHandler { server, sweep } now data remote) sweep
      (server.handlePacket now order data remote).server := by
  simp only [runHandler]
  cases data with
  | nil => exact ⟨rfl, rfl, rfl, rfl, rfl⟩
  | cons packetType reader =>
    simp only [beginHandler, RelayServer.handlePacket]
    rcases PacketType.ofCode packetType with _ | type
    · exact ⟨rfl, rfl, rfl, rfl, rfl⟩
    · cases type
      case connectRequest =>
        simp only [RelayServer.handleConnectRequest]
        rcases server.connectVerdict reader with e | reason | ⟨uid, name⟩
        · exact ⟨rfl, rfl, rfl, rfl, rfl⟩
        · exact ⟨rfl, rfl, rfl, rfl, rfl⟩
        · exact connect_leaves server sweep now order ⟨remote, uid, name⟩
      case ping =>
        simp only [RelayServer.handlePing]
        cases PacketReader.readUInt32 reader with
        | error e => exact ⟨rfl, rfl, rfl, rfl, rfl⟩
        | ok timestamp =>
          apply noteSeen_leaves
          · intro hlookup
            rw [hlookup]
          · intro session hlookup
            rw [hlookup]
            exact ⟨rfl, rfl, rfl⟩
      case voiceUp =>
        apply noteSeen_leaves
        · intro hlookup
          simp only [RelayServer.handleVoiceUp, hlookup]
        · intro session hlookup
          simp only [RelayServer.handleVoiceUp, hlookup]
          repeat' split
          all_goals exact ⟨rfl, rfl, rfl⟩
      case radioTxUpdate =>
        apply noteSeen_leaves
        · intro hlookup
          simp only [RelayServer.handleRadioTxUpdate, hlookup]
        · intro session hlookup
          simp only [RelayServer.handleRadioTxUpdate, hlookup]
          repeat' split
          all_goals exact ⟨rfl, rfl, rfl⟩
      case rosterRequest =>
        simp only [RelayServer.handleRosterRequest]
        cases server.tables.sessionsByEndPoint.lookup remote with
        | none => exact ⟨rfl, rfl, rfl, rfl, rfl⟩
        | some requester => exact ⟨rfl, rfl, rfl, rfl, rfl⟩
      case disconnect =>
        simp only [RelayServer.handleDisconnect]
        cases server.tables.sessionsByEndPoint.lookup remote with
        | none => exact ⟨rfl, rfl, rfl, rfl, rfl⟩
        | some session => exact ⟨rfl, rfl, rfl, rfl, rfl⟩
      all_goals exact ⟨rfl, rfl, rfl, rfl, rfl⟩

/-- Without the receive thread in between, the steps of the sweep for one session do what the
body of its loop does. -/
theorem sweepSteps_eq_sweepSession (server : RelayServer) (receive : ReceiveState)
    (order : SessionOrder) (cutoff : Int) (session : ClientSession) (rest : List ClientSession) :
    ∃ n, sweepStep^[n] ⟨server, receive, .visiting cutoff (session :: rest)⟩ =
      ⟨(server.sweepSession order cutoff session).server, receive, .visiting cutoff rest⟩ := by
  simp only [RelayServer.sweepSession]
  cases hexpired : server.isExpired cutoff session with
  | true =>
    refine ⟨4, ?_⟩
    simp [sweepStep, hexpired, RelayServer.sends, SessionTables.removeKeys]
  | false =>
    refine ⟨1, ?_⟩
    simp [sweepStep, hexpired]

end RelayThreads

/-- The session whose id entry has no uid entry at the moment. -/
def ReceiveState.unlinkedId : ReceiveState → Option ClientSession
  | .dropEndPoint stale _ => some stale
  | .dropId stale _ => some stale
  | .putUid session => some session
  | _ => none

/-- The session whose endpoint entry has no uid entry at the moment. -/
def ReceiveState.unlinkedEndPoint : ReceiveState → Option ClientSession
  | .dropEndPoint stale _ => some stale
  | .putId session => some session
  | .putUid session => some session
  | _ => none

/-- The uid that a connect handler has freed and not yet given to its session. -/
def ReceiveState.freedUid : ReceiveState → Option Text
  | .dropEndPoint _ request => some request.uid
  | .dropId _ request => some request.uid
  | .count request => some request.uid
  | .putEndPoint session => some session.uid
  | .putId session => some session.uid
  | .putUid session => some session.uid
  | _ => none

/-- The new session before its id is stored. -/
def ReceiveState.unborn : ReceiveState → Option ClientSession
  | .putEndPoint session => some session
  | .putId session => some session
  | _ => none

/-- The session a disconnect is removing. -/
def ReceiveState.leaving : ReceiveState → Option ClientSession
  | .disconnectId session => some session
  | .disconnectUid session => some session
  | _ => none

/-- The sessions the sweep has still to do with. -/
def SweepState.sessions : SweepState → List ClientSession
  | .idle => []
  | .visiting _ rest => rest
  | .removeEndPoint _ session rest => session :: rest
  | .removeId _ session rest => session :: rest
  | .removeUid _ session rest => session :: rest

namespace RelayThreads

/-- What holds between any two steps of the threads. -/
structure Linked (t : RelayThreads) : Prop where
  keyed : t.server.tables.Keyed
  byId : ∀ s, t.server.tables.sessionsById.lookup s.sessionId = some s →
    t.server.tables.sessionsByUid.lookup s.uid = some s ∨ t.receive.unlinkedId = some s
  byEndPoint : ∀ s, t.server.tables.sessionsByEndPoint.lookup s.endPoint = some s →
    t.server.tables.sessionsByUid.lookup s.uid = some s ∨ t.receive.unlinkedEndPoint = some s
  freed : ∀ u, t.receive.freedUid = some u → t.server.tables.sessionsByUid.lookup u = none
  leaving : ∀ s, t.receive.leaving = some s →
    t.server.tables.sessionsByEndPoint.lookup s.endPoint ≠ some s ∧
      (t.server.tables.sessionsByUid.lookup s.uid = none ∨
        t.server.tables.sessionsByUid.lookup s.uid = some s)
  left : ∀ s, t.receive = .disconnectUid s →
    t.server.tables.sessionsById.lookup s.sessionId ≠ some s
  unborn : ∀ s, t.receive.unborn = some s → s.obj < t.server.nextObj ∧
    t.server.tables.sessionsById.lookup s.sessionId ≠ some s ∧ s ∉ t.sweep.sessions
  sweptEndPoint : ∀ cutoff s rest,
    t.sweep = .removeId cutoff s rest ∨ t.sweep = .removeUid cutoff s rest →
      t.server.tables.sessionsByEndPoint.lookup s.endPoint ≠ some s
  sweptId : ∀ cutoff s rest, t.sweep = .removeUid cutoff s rest →
    t.server.tables.sessionsById.lookup s.sessionId ≠ some s
  spent : ∀ s, t.server.tables.sessionsById.lookup s.sessionId = some s ∨ s ∈ t.sweep.sessions →
    s.obj < t.server.nextObj

/-- When the sweep removes a uid, the entry is gone or is the one of the session it sweeps. -/
def SweepsOwnUid (t : RelayThreads) : ThreadEvent → Prop
  | .sweepStep =>
      match t.sweep with
      | .removeUid _ session _ =>
          t.server.tables.sessionsByUid.lookup session.uid = none ∨
            t.server.tables.sessionsByUid.lookup session.uid = some session
      | _ => True
  | _ => True

instance (t : RelayThreads) (e : ThreadEvent) : Decidable (t.SweepsOwnUid e) := by
  unfold SweepsOwnUid
  split
  · split <;> infer_instance
  · infer_instance

private theorem mem_sessions_of_removing {sweep : SweepState} {cutoff : Int} {s : ClientSession}
    {rest : List ClientSession}
    (h : sweep = .removeId cutoff s rest ∨ sweep = .removeUid cutoff s rest) :
    s ∈ sweep.sessions := by
  rcases h with rfl | rfl <;> exact List.mem_cons_self

private theorem stored_removeUid {tables : SessionTables} {gone s : ClientSession}
    (howner : tables.sessionsByUid.lookup gone.uid = none ∨
      tables.sessionsByUid.lookup gone.uid = some gone)
    (hne : s ≠ gone) (hs : tables.sessionsByUid.lookup s.uid = some s) :
    (tables.removeUid gone.uid).sessionsByUid.lookup s.uid = some s := by
  by_cases huid : s.uid = gone.uid
  · rw [huid] at hs
    rcases howner with hnone | hself
    · rw [hnone] at hs
      cases hs
    · exact absurd (Option.some.inj (hs.symm.trans hself)) hne
  · rw [SessionTables.lookup_removeUid, if_neg huid]
    exact hs

theorem Linked.removeEndPoint {server : RelayServer} {receive : ReceiveState}
    {sweep : SweepState} (h : Linked ⟨server, receive, sweep⟩) (e : IPEndPoint) :
    Linked ⟨{ server with tables := server.tables.removeEndPoint e }, receive, sweep⟩ where
  keyed := h.keyed.removeEndPoint e
  byId := h.byId
  byEndPoint := by
    intro s hs
    exact h.byEndPoint s (Dictionary.lookup_of_lookup_erase hs).2
  freed := h.freed
  leaving := by
    intro s hs
    obtain ⟨hend, huid⟩ := h.leaving s hs
    exact ⟨fun hstored => hend (Dictionary.lookup_of_lookup_erase hstored).2, huid⟩
  left := h.left
  unborn := h.unborn
  sweptEndPoint := by
    intro cutoff s rest hphase hs
    exact h.sweptEndPoint cutoff s rest hphase (Dictionary.lookup_of_lookup_erase hs).2
  sweptId := h.sweptId
  spent := h.spent

theorem Linked.removeId {server : RelayServer} {receive : ReceiveState}
    {sweep : SweepState} (h : Linked ⟨server, receive, sweep⟩) (sessionId : UInt32) :
    Linked ⟨{ server with tables := server.tables.removeId sessionId }, receive, sweep⟩ where
  keyed := h.keyed.removeId sessionId
  byId := by
    intro s hs
    exact h.byId s (Dictionary.lookup_of_lookup_erase hs).2
  byEndPoint := h.byEndPoint
  freed := h.freed
  leaving := h.leaving
  left := by
    intro s hs hstored
    exact h.left s hs (Dictionary.lookup_of_lookup_erase hstored).2
  unborn := by
    intro s hs
    obtain ⟨hobj, hdead, hunswept⟩ := h.unborn s hs
    exact ⟨hobj, fun hstored => hdead (Dictionary.lookup_of_lookup_erase hstored).2, hunswept⟩
  sweptEndPoint := h.sweptEndPoint
  sweptId := by
    intro cutoff s rest hphase hs
    exact h.sweptId cutoff s rest hphase (Dictionary.lookup_of_lookup_erase hs).2
  spent := by
    intro s hs
    exact h.spent s (hs.imp_left (fun hstored => (Dictionary.lookup_of_lookup_erase hstored).2))

private theorem linked_sweepStep {t : RelayThreads} (h : t.Linked)
    (hown : t.SweepsOwnUid .sweepStep) :
    t.sweepStep.Linked := by
  obtain ⟨server, receive, sweep⟩ := t
  have hlinked := h
  obtain ⟨hkeyed, hbyId, hbyEndPoint, hfreed, hleaving, hleft, hunborn, hsweptE, hsweptI,
    hspent⟩ := h
  dsimp only at *
  cases sweep with
  | idle => exact hlinked
  | visiting cutoff rest =>
    cases rest with
    | nil =>
      refine ⟨hkeyed, hbyId, hbyEndPoint, hfreed, hleaving, hleft, hunborn, ?_, ?_, hspent⟩
      · intro cutoff' s rest' hphase
        rcases hphase with hphase | hphase <;> cases hphase
      · intro cutoff' s rest' hphase
        cases hphase
    | cons session rest =>
      simp only [sweepStep]
      split
      · refine ⟨hkeyed, hbyId, hbyEndPoint, hfreed, hleaving, hleft, hunborn, ?_, ?_, hspent⟩
        · intro cutoff' s rest' hphase
          rcases hphase with hphase | hphase <;> cases hphase
        · intro cutoff' s rest' hphase
          cases hphase
      · refine ⟨hkeyed, hbyId, hbyEndPoint, hfreed, hleaving, hleft, ?_, ?_, ?_, ?_⟩
        · intro s hs
          obtain ⟨hobj, hdead, hunswept⟩ := hunborn s hs
          exact ⟨hobj, hdead, fun hin => hunswept (List.mem_cons_of_mem _ hin)⟩
        · intro cutoff' s rest' hphase
          rcases hphase with hphase | hphase <;> cases hphase
        · intro cutoff' s rest' hphase
          cases hphase
        · intro s hs
          exact hspent s (hs.imp_right (List.mem_cons_of_mem _))
  | removeEndPoint cutoff session rest =>
    have hless := hlinked.removeEndPoint session.endPoint
    refine ⟨hless.keyed, hless.byId, hless.byEndPoint, hless.freed, hless.leaving, hless.left,
      hless.unborn, ?_, ?_, hless.spent⟩
    · intro cutoff' s rest' hphase hstored
      rcases hphase with hphase | hphase <;> cases hphase
      exact (Dictionary.lookup_of_lookup_erase hstored).1 rfl
    · intro cutoff' s rest' hphase
      cases hphase
  | removeId cutoff session rest =>
    have hless := hlinked.removeId session.sessionId
    refine ⟨hless.keyed, hless.byId, hless.byEndPoint, hless.freed, hless.leaving, hless.left,
      hless.unborn, ?_, ?_, hless.spent⟩
    · intro cutoff' s rest' hphase
      rcases hphase with hphase | hphase <;> cases hphase
      exact hless.sweptEndPoint cutoff session rest (Or.inl rfl)
    · intro cutoff' s rest' hphase hstored
      cases hphase
      exact (Dictionary.lookup_of_lookup_erase hstored).1 rfl
  | removeUid cutoff session rest =>
    have hidGone := hsweptI cutoff session rest rfl
    have hendGone := hsweptE cutoff session rest (Or.inr rfl)
    refine ⟨hkeyed.removeUid _, ?_, ?_, ?_, ?_, hleft, ?_, ?_, ?_, ?_⟩
    · intro s hs
      have hne : s ≠ session := fun heq => hidGone (heq ▸ hs)
      exact (hbyId s hs).imp_left (stored_removeUid hown hne)
    · intro s hs
      have hne : s ≠ session := fun heq => hendGone (heq ▸ hs)
      exact (hbyEndPoint s hs).imp_left (stored_removeUid hown hne)
    · intro u hu
      show (server.tables.removeUid session.uid).sessionsByUid.lookup u = none
      rw [SessionTables.lookup_removeUid, hfreed u hu]
      split <;> rfl
    · intro s hs
      refine ⟨(hleaving s hs).1, ?_⟩
      show (server.tables.removeUid session.uid).sessionsByUid.lookup s.uid = none ∨
        (server.tables.removeUid session.uid).sessionsByUid.lookup s.uid = some s
      rw [SessionTables.lookup_removeUid]
      split
      · exact Or.inl rfl
      · exact (hleaving s hs).2
    · intro s hs
      obtain ⟨hobj, hdead, hunswept⟩ := hunborn s hs
      exact ⟨hobj, hdead, fun hin => hunswept (List.mem_cons_of_mem _ hin)⟩
    · intro cutoff' s rest' hphase
      rcases hphase with hphase | hphase <;> cases hphase
    · intro cutoff' s rest' hphase
      cases hphase
    · intro s hs
      exact hspent s (hs.imp_right (List.mem_cons_of_mem _))

private theorem linked_receiveStep {t : RelayThreads} (h : t.Linked) (now : Int) :
    (t.receiveStep now).Linked := by
  obtain ⟨server, receive, sweep⟩ := t
  have hlinked := h
  obtain ⟨hkeyed, hbyId, hbyEndPoint, hfreed, hleaving, hleft, hunborn, hsweptE, hsweptI,
    hspent⟩ := h
  dsimp only at *
  cases receive with
  | idle => exact hlinked
  | seen session =>
    exact ⟨hkeyed, hbyId, hbyEndPoint, hfreed, hleaving, (fun _ heq => nomatch heq), hunborn,
      hsweptE, hsweptI, hspent⟩
  | dropEndPoint stale request =>
    have hless := hlinked.removeEndPoint stale.endPoint
    refine ⟨hless.keyed, hless.byId, ?_, hless.freed, (fun _ heq => nomatch heq),
      (fun _ heq => nomatch heq), hless.unborn, hless.sweptEndPoint, hless.sweptId, hless.spent⟩
    intro s hs
    obtain ⟨hne, hstored⟩ := Dictionary.lookup_of_lookup_erase hs
    rcases hbyEndPoint s hstored with huid | hstale
    · exact Or.inl huid
    · exact absurd (congrArg ClientSession.endPoint (Option.some.inj hstale).symm) hne
  | dropId stale request =>
    have hless := hlinked.removeId stale.sessionId
    refine ⟨hless.keyed, ?_, hless.byEndPoint, hless.freed, hless.leaving,
      (fun _ heq => nomatch heq), (fun _ heq => nomatch heq), hless.sweptEndPoint, hless.sweptId,
      hless.spent⟩
    intro s hs
    obtain ⟨hne, hstored⟩ := Dictionary.lookup_of_lookup_erase hs
    rcases hbyId s hstored with huid | hstale
    · exact Or.inl huid
    · exact absurd (congrArg ClientSession.sessionId (Option.some.inj hstale).symm) hne
  | count request =>
    simp only [receiveStep]
    split
    · refine ⟨hkeyed, hbyId, hbyEndPoint, ?_, hleaving, (fun _ heq => nomatch heq), hunborn,
        hsweptE, hsweptI, hspent⟩
      intro u hu
      cases hu
    · -- no session that is stored or swept has the object id of the new one
      refine ⟨hkeyed, hbyId, hbyEndPoint, hfreed, hleaving, (fun _ heq => nomatch heq), ?_,
        hsweptE, hsweptI, ?_⟩
      · intro s hs
        rw [← Option.some.inj hs]
        refine ⟨Nat.lt_succ_self _, ?_, ?_⟩
        · intro hstored
          exact absurd (hspent _ (Or.inl hstored)) (Nat.lt_irrefl _)
        · intro hin
          exact absurd (hspent _ (Or.inr hin)) (Nat.lt_irrefl _)
      · intro s hs
        exact Nat.lt_succ_of_lt (hspent s hs)
  | putEndPoint session =>
    obtain ⟨hobj, hdead, hunswept⟩ := hunborn session rfl
    refine ⟨hkeyed.putEndPoint _, hbyId, ?_, hfreed, (fun _ heq => nomatch heq),
      (fun _ heq => nomatch heq), hunborn, ?_, hsweptI, hspent⟩
    · intro s hs
      rcases Dictionary.lookup_of_lookup_insert hs with heq | hstored
      · exact Or.inr (congrArg some heq.symm)
      · rcases hbyEndPoint s hstored with huid | hnone
        · exact Or.inl huid
        · cases hnone
    · intro cutoff s rest hphase hs
      rcases Dictionary.lookup_of_lookup_insert hs with heq | hstored
      · exact hunswept (heq ▸ mem_sessions_of_removing hphase)
      · exact hsweptE cutoff s rest hphase hstored
  | putId session =>
    obtain ⟨hobj, hdead, hunswept⟩ := hunborn session rfl
    refine ⟨hkeyed.putId _, ?_, hbyEndPoint, hfreed, hleaving, (fun _ heq => nomatch heq), ?_,
      hsweptE, ?_, ?_⟩
    · intro s hs
      rcases Dictionary.lookup_of_lookup_insert hs with heq | hstored
      · exact Or.inr (congrArg some heq.symm)
      · rcases hbyId s hstored with huid | hnone
        · exact Or.inl huid
        · cases hnone
    · intro s hs
      cases hs
    · intro cutoff s rest hphase hs
      rcases Dictionary.lookup_of_lookup_insert hs with heq | hstored
      · exact hunswept (heq ▸ mem_sessions_of_removing (Or.inr hphase))
      · exact hsweptI cutoff s rest hphase hstored
    · intro s hs
      rcases hs with hs | hs
      · rcases Dictionary.lookup_of_lookup_insert hs with heq | hstored
        · rw [heq]
          exact hobj
        · exact hspent s (Or.inl hstored)
      · exact hspent s (Or.inr hs)
  | putUid session =>
    -- the uid is free, so no other entry is overwritten
    have hkept : ∀ s, server.tables.sessionsByUid.lookup s.uid = some s ∨
        some session = some s → (server.tables.putUid session).sessionsByUid.lookup s.uid =
          some s := by
      intro s hs
      rw [SessionTables.lookup_putUid]
      rcases hs with hs | hs
      · have hne : s.uid ≠ session.uid := by
          intro heq
          rw [heq, hfreed session.uid rfl] at hs
          cases hs
        rw [if_neg hne]
        exact hs
      · rw [← Option.some.inj hs, if_pos rfl]
    refine ⟨hkeyed.putUid _, ?_, ?_, ?_, ?_, (fun _ heq => nomatch heq), hunborn, hsweptE,
      hsweptI, hspent⟩
    · intro s hs
      exact Or.inl (hkept s (hbyId s hs))
    · intro s hs
      exact Or.inl (hkept s (hbyEndPoint s hs))
    · intro u hu
      cases hu
    · intro s hs
      cases hs
  | disconnectId session =>
    have hless := hlinked.removeId session.sessionId
    refine ⟨hless.keyed, hless.byId, hless.byEndPoint, hless.freed, hless.leaving, ?_,
      (fun _ heq => nomatch heq), hless.sweptEndPoint, hless.sweptId, hless.spent⟩
    intro s hs hstored
    cases hs
    exact (Dictionary.lookup_of_lookup_erase hstored).1 rfl
  | disconnectUid session =>
    obtain ⟨hendGone, howner⟩ := hleaving session rfl
    have hidGone := hleft session rfl
    refine ⟨hkeyed.removeUid _, ?_, ?_, ?_, ?_, (fun _ heq => nomatch heq), hunborn, hsweptE,
      hsweptI, hspent⟩
    · intro s hs
      have hne : s ≠ session := fun heq => hidGone (heq ▸ hs)
      exact (hbyId s hs).imp_left (stored_removeUid howner hne)
    · intro s hs
      have hne : s ≠ session := fun heq => hendGone (heq ▸ hs)
      exact (hbyEndPoint s hs).imp_left (stored_removeUid howner hne)
    · intro u hu
      cases hu
    · intro s hs
      cases hs

private theorem linked_noteSeen {t : RelayThreads} (h : t.Linked) (hidle : t.receive = .idle)
    (remote : IPEndPoint) :
    (t.noteSeen remote).Linked := by
  simp only [noteSeen]
  split
  · exact h
  · obtain ⟨server, receive, sweep⟩ := t
    dsimp only at hidle
    subst hidle
    exact ⟨h.keyed, h.byId, h.byEndPoint, h.freed, h.leaving, (fun _ heq => nomatch heq),
      h.unborn, h.sweptEndPoint, h.sweptId, h.spent⟩

private theorem linked_beginHandler {t : RelayThreads} (h : t.Linked) (hidle : t.receive = .idle)
    (data : Bytes) (remote : IPEndPoint) :
    (t.beginHandler data remote).Linked := by
  have hseen := linked_noteSeen h hidle remote
  simp only [beginHandler]
  split
  · exact h
  · split
    · split
      · split
        case h_1 uid name _ _ hnone =>
          obtain ⟨server, receive, sweep⟩ := t
          dsimp only at hidle hnone
          subst hidle
          refine ⟨h.keyed, h.byId, h.byEndPoint, ?_, h.leaving, (fun _ heq => nomatch heq),
            h.unborn, h.sweptEndPoint, h.sweptId, h.spent⟩
          intro u hu
          rw [← Option.some.inj hu]
          exact hnone
        case h_2 uid name _ _ stale hstale =>
          obtain ⟨server, receive, sweep⟩ := t
          obtain ⟨hkeyed, hbyId, hbyEndPoint, hfreed, hleaving, hleft, hunborn, hsweptE, hsweptI,
            hspent⟩ := h
          dsimp only at *
          subst hidle
          have hkept : ∀ s, server.tables.sessionsByUid.lookup s.uid = some s →
              (server.tables.removeUid uid).sessionsByUid.lookup s.uid = some s ∨
                some stale = some s := by
            intro s hs
            by_cases huid : s.uid = uid
            · rw [huid, hstale] at hs
              exact Or.inr hs
            · rw [SessionTables.lookup_removeUid, if_neg huid]
              exact Or.inl hs
          refine ⟨hkeyed.removeUid _, ?_, ?_, ?_, (fun _ heq => nomatch heq),
            (fun _ heq => nomatch heq), hunborn, hsweptE, hsweptI, hspent⟩
          · intro s hs
            rcases hbyId s hs with huid | hnone
            · exact hkept s huid
            · cases hnone
          · intro s hs
            rcases hbyEndPoint s hs with huid | hnone
            · exact hkept s huid
            · cases hnone
          · intro u hu
            rw [← Option.some.inj hu]
            exact AList.lookup_erase _ _
      · exact h
    · split
      · exact h
      · exact hseen
    · exact hseen
    · exact hseen
    · split
      case h_1 => exact h
      case h_2 session hlookup =>
        have hend := h.keyed.endPoint remote session hlookup
        obtain ⟨server, receive, sweep⟩ := t
        dsimp only at hidle hlookup
        subst hidle
        have hless := h.removeEndPoint remote
        refine ⟨hless.keyed, hless.byId, hless.byEndPoint, hless.freed, ?_,
          (fun _ heq => nomatch heq), hless.unborn, hless.sweptEndPoint, hless.sweptId,
          hless.spent⟩
        intro s hs
        rw [← Option.some.inj hs]
        refine ⟨fun hstored => (Dictionary.lookup_of_lookup_erase hstored).1 hend, Or.inr ?_⟩
        rcases h.byEndPoint session (hend.symm ▸ hlookup) with huid | hnone
        · exact huid
        · cases hnone
    · exact h

private theorem linked_sweepStart {t : RelayThreads} (h : t.Linked) (now : Int)
    (order : SessionOrder) :
    (t.sweepStart now order).Linked := by
  simp only [sweepStart]
  split
  · have hmem : ∀ s, s ∈ t.server.sessions order →
        t.server.tables.sessionsById.lookup s.sessionId = some s := by
      intro s hs
      exact (h.keyed.mem_values s).mp ((order.mem_arrange _ _).mp hs)
    refine ⟨h.keyed, h.byId, h.byEndPoint, h.freed, h.leaving, h.left, ?_, ?_, ?_, ?_⟩
    · intro s hs
      obtain ⟨hobj, hdead, _⟩ := h.unborn s hs
      exact ⟨hobj, hdead, fun hin => hdead (hmem s hin)⟩
    · intro cutoff s rest hphase
      rcases hphase with hphase | hphase <;> cases hphase
    · intro cutoff s rest hphase
      cases hphase
    · intro s hs
      rcases hs with hs | hs
      · exact h.spent s (Or.inl hs)
      · exact h.spent s (Or.inl (hmem s hs))
  · exact h

private theorem linked_step (t : RelayThreads) (e : ThreadEvent) (h : t.Linked)
    (hown : t.SweepsOwnUid e) :
    (t.step e).Linked := by
  cases e with
  | datagram data remote =>
    simp only [step]
    split
    · rename_i hidle
      exact linked_beginHandler h hidle data remote
    · exact h
  | receiveStep now => exact linked_receiveStep h now
  | sweepStart now order => exact linked_sweepStart h now order
  | sweepStep => exact linked_sweepStep h hown

/-- A datagram handled without the sweep in between keeps the links. -/
theorem linked_handlePacket {server : RelayServer} (h : Linked { server }) (now : Int)
    (order : SessionOrder) (data : Bytes) (remote : IPEndPoint) :
    Linked { server := (server.handlePacket now order data remote).server } := by
  have hsteps : ∀ n (t : RelayThreads), t.Linked → ((fun t => t.receiveStep now)^[n] t).Linked := by
    intro n
    induction n with
    | zero => exact fun t ht => ht
    | succ n ih =>
      intro t ht
      rw [Function.iterate_succ_apply]
      exact ih _ (linked_receiveStep ht now)
  have hrun := hsteps 6 _ (linked_beginHandler h rfl data remote)
  have hleaves := runHandler_leaves server .idle now order data remote
  simp only [runHandler] at hleaves
  generalize (fun t => receiveStep t now)^[6] (beginHandler { server } data remote) = t
    at hrun hleaves
  obtain ⟨server', receive, sweep⟩ := t
  obtain ⟨rfl, rfl, htables, _, hobj⟩ := hleaves
  obtain ⟨hkeyed, hbyId, hbyEndPoint, hfreed, hleaving, hleft, hunborn, hsweptE, hsweptI,
    hspent⟩ := hrun
  dsimp only at *
  rw [htables] at hkeyed hbyId hbyEndPoint hfreed hleaving hleft hunborn hsweptE hsweptI hspent
  rw [hobj] at hunborn hspent
  exact ⟨hkeyed, hbyId, hbyEndPoint, hfreed, hleaving, hleft, hunborn, hsweptE, hsweptI, hspent⟩

/-- No handler is under way, and the sweep is not in the middle of a session. -/
def Quiet (t : RelayThreads) : Prop :=
  t.receive = .idle ∧ (t.sweep = .idle ∨ ∃ cutoff rest, t.sweep = .visiting cutoff rest)

/-- Uids are unique, and every session is found by its uid. -/
structure UidsResolve (tables : SessionTables) : Prop where
  unique : ∀ s ∈ tables.sessionsById.values, ∀ s' ∈ tables.sessionsById.values,
    s.uid = s'.uid → s = s'
  found : ∀ s ∈ tables.sessionsById.values, tables.sessionsByUid.lookup s.uid = some s

def QuietUidsResolve (t : RelayThreads) : Prop := t.Quiet → UidsResolve t.server.tables

private theorem Linked.quietUidsResolve {t : RelayThreads} (h : t.Linked) : t.QuietUidsResolve := by
  intro hquiet
  have hfound : ∀ s ∈ t.server.tables.sessionsById.values,
      t.server.tables.sessionsByUid.lookup s.uid = some s := by
    intro s hs
    rcases h.byId s ((h.keyed.mem_values s).mp hs) with huid | hunlinked
    · exact huid
    · rw [hquiet.1] at hunlinked
      cases hunlinked
  refine ⟨?_, hfound⟩
  intro s hs s' hs' huid
  have hlookup := hfound s hs
  rw [huid, hfound s' hs'] at hlookup
  exact (Option.some.inj hlookup).symm

def start (options : ServerOptions) (expectedPasswordHash : Bytes) (serverVersion : Text) :
    RelayThreads where
  server := { options, expectedPasswordHash, serverVersion }

theorem linked_start (options : ServerOptions) (hash : Bytes) (version : Text) :
    (start options hash version).Linked where
  keyed := SessionTables.keyed_empty
  byId := by intro s h; cases h
  byEndPoint := by intro s h; cases h
  freed := by intro u h; cases h
  leaving := by intro s h; cases h
  left := by intro s h; cases h
  unborn := by intro s h; cases h
  sweptEndPoint := by intro cutoff s rest h; rcases h with h | h <;> cases h
  sweptId := by intro cutoff s rest h; cases h
  spent := by intro s h; rcases h with h | h <;> cases h

/-- In every interleaving in which the sweep never removes the uid entry of another session than
the one it sweeps, uids are unique and resolve in every quiet state. -/
theorem quietUidsResolve_of_sweepsOwnUid (options : ServerOptions) (hash : Bytes)
    (version : Text) (history : List ThreadEvent)
    (hown : Guarded step SweepsOwnUid (start options hash version) history) :
    Throughout step QuietUidsResolve (start options hash version) history := by
  have hlinked := throughout_of_guarded (linked_start options hash version) linked_step hown
  exact hlinked.imp fun t h => h.quietUidsResolve

/-- A client connects as `A`, starts a sweep pass 30 s later that finds it expired, and then
reconnects from another port. -/
def reconnectDuringSweep : List ThreadEvent :=
  [.sweepStep, .sweepStep, .sweepStep] ++ List.replicate 6 (.receiveStep 300000000) ++
    [.datagram (connectRequest emptyPasswordHash "A" "") ⟨1, 5001⟩,
      .sweepStep, .sweepStart 300000000 .stored] ++ List.replicate 4 (.receiveStep 0) ++
    [.datagram (connectRequest emptyPasswordHash "A" "") ⟨1, 5000⟩]

/-- The new session has lost its uid entry. -/
theorem reconnect_loses_uid :
    ¬ Throughout step QuietUidsResolve (start {} emptyPasswordHash ['1']) reconnectDuringSweep := by
  intro h
  have hquiet := h.last ⟨by decide +kernel, Or.inr ⟨100000000, [], by decide +kernel⟩⟩
  have hfound := hquiet.found ⟨1, 2, ⟨1, 5001⟩, ['A'], ['A']⟩ (by decide +kernel)
  exact absurd hfound (by decide +kernel)

/-- The same client, swept without a reconnect. -/
theorem sweep_without_reconnect :
    Throughout step QuietUidsResolve (start {} emptyPasswordHash ['1'])
      (List.replicate 5 .sweepStep ++ [.sweepStart 300000000 .stored] ++
        List.replicate 4 (.receiveStep 0) ++
        [.datagram (connectRequest emptyPasswordHash "A" "") ⟨1, 5000⟩]) :=
  quietUidsResolve_of_sweepsOwnUid {} emptyPasswordHash ['1'] _ (by decide +kernel)

end RelayThreads

end TaskForceRadio.VoiceServer
