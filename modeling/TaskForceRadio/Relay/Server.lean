import Mathlib.Logic.Function.Basic
import TaskForceRadio.Foundation.Dictionary
import TaskForceRadio.Wire.ServerCodec

/-!
# The relay server

`RelayServer` and its packet handlers. A handler returns the server it leaves behind, the
datagrams it sent and the exception that ended it, if any: datagrams sent before the exception
are on the wire.
-/

set_option autoImplicit false

namespace TaskForceRadio.VoiceServer

structure IPEndPoint where
  address : UInt32
  port : UInt16
  deriving DecidableEq, Repr

/-- A reference to a `ClientSession`. `obj` is the identity of the object; its two mutable
fields are kept by the server under that identity. -/
structure ClientSession where
  obj : Nat
  sessionId : UInt32
  endPoint : IPEndPoint
  uid : Text
  name : Text
  deriving DecidableEq, Repr

structure SessionTables where
  sessionsByEndPoint : Dictionary IPEndPoint ClientSession := ∅
  sessionsById : Dictionary UInt32 ClientSession := ∅
  sessionsByUid : Dictionary Text ClientSession := ∅

namespace SessionTables

def removeEndPoint (t : SessionTables) (endPoint : IPEndPoint) : SessionTables :=
  { t with sessionsByEndPoint := t.sessionsByEndPoint.erase endPoint }

def removeId (t : SessionTables) (sessionId : UInt32) : SessionTables :=
  { t with sessionsById := t.sessionsById.erase sessionId }

def removeUid (t : SessionTables) (uid : Text) : SessionTables :=
  { t with sessionsByUid := t.sessionsByUid.erase uid }

def putEndPoint (t : SessionTables) (session : ClientSession) : SessionTables :=
  { t with sessionsByEndPoint := t.sessionsByEndPoint.insert session.endPoint session }

def putId (t : SessionTables) (session : ClientSession) : SessionTables :=
  { t with sessionsById := t.sessionsById.insert session.sessionId session }

def putUid (t : SessionTables) (session : ClientSession) : SessionTables :=
  { t with sessionsByUid := t.sessionsByUid.insert session.uid session }

section Lookups
variable (t : SessionTables) (s : ClientSession)

@[simp] theorem lookup_removeEndPoint (e e' : IPEndPoint) :
    (t.removeEndPoint e).sessionsByEndPoint.lookup e' =
      if e' = e then none else t.sessionsByEndPoint.lookup e' :=
  Dictionary.lookup_erase_ite _ _ _

@[simp] theorem removeEndPoint_byId (e : IPEndPoint) :
    (t.removeEndPoint e).sessionsById = t.sessionsById := rfl

@[simp] theorem removeEndPoint_byUid (e : IPEndPoint) :
    (t.removeEndPoint e).sessionsByUid = t.sessionsByUid := rfl

@[simp] theorem lookup_removeId (k k' : UInt32) :
    (t.removeId k).sessionsById.lookup k' = if k' = k then none else t.sessionsById.lookup k' :=
  Dictionary.lookup_erase_ite _ _ _

@[simp] theorem removeId_byEndPoint (k : UInt32) :
    (t.removeId k).sessionsByEndPoint = t.sessionsByEndPoint := rfl

@[simp] theorem removeId_byUid (k : UInt32) :
    (t.removeId k).sessionsByUid = t.sessionsByUid := rfl

@[simp] theorem lookup_removeUid (u u' : Text) :
    (t.removeUid u).sessionsByUid.lookup u' =
      if u' = u then none else t.sessionsByUid.lookup u' :=
  Dictionary.lookup_erase_ite _ _ _

@[simp] theorem removeUid_byEndPoint (u : Text) :
    (t.removeUid u).sessionsByEndPoint = t.sessionsByEndPoint := rfl

@[simp] theorem removeUid_byId (u : Text) :
    (t.removeUid u).sessionsById = t.sessionsById := rfl

@[simp] theorem lookup_putEndPoint (e : IPEndPoint) :
    (t.putEndPoint s).sessionsByEndPoint.lookup e =
      if e = s.endPoint then some s else t.sessionsByEndPoint.lookup e :=
  Dictionary.lookup_insert_ite _ _ _ _

@[simp] theorem putEndPoint_byId : (t.putEndPoint s).sessionsById = t.sessionsById := rfl

@[simp] theorem putEndPoint_byUid : (t.putEndPoint s).sessionsByUid = t.sessionsByUid := rfl

@[simp] theorem lookup_putId (k : UInt32) :
    (t.putId s).sessionsById.lookup k =
      if k = s.sessionId then some s else t.sessionsById.lookup k :=
  Dictionary.lookup_insert_ite _ _ _ _

@[simp] theorem putId_byEndPoint :
    (t.putId s).sessionsByEndPoint = t.sessionsByEndPoint := rfl

@[simp] theorem putId_byUid : (t.putId s).sessionsByUid = t.sessionsByUid := rfl

@[simp] theorem lookup_putUid (u : Text) :
    (t.putUid s).sessionsByUid.lookup u =
      if u = s.uid then some s else t.sessionsByUid.lookup u :=
  Dictionary.lookup_insert_ite _ _ _ _

@[simp] theorem putUid_byEndPoint :
    (t.putUid s).sessionsByEndPoint = t.sessionsByEndPoint := rfl

@[simp] theorem putUid_byId : (t.putUid s).sessionsById = t.sessionsById := rfl

end Lookups

/-- The three removals of a session, each by its own key. -/
def removeKeys (t : SessionTables) (session : ClientSession) : SessionTables :=
  ((t.removeEndPoint session.endPoint).removeId session.sessionId).removeUid session.uid

/-- The three inserts of a new session. -/
def put (t : SessionTables) (session : ClientSession) : SessionTables :=
  ((t.putEndPoint session).putId session).putUid session

end SessionTables

structure ServerOptions where
  maxClients : Int := 300
  timeoutSeconds : Int := 20
  debugForceAudible : Bool := false
  deriving DecidableEq, Repr

/-- `expectedPasswordHash` is the SHA-256 digest of the configured password and `serverVersion`
the version of the assembly; `lastSeenUtc` counts ticks of 100 ns. -/
structure RelayServer where
  options : ServerOptions := {}
  expectedPasswordHash : Bytes
  serverVersion : Text
  tables : SessionTables := {}
  nextSessionId : UInt32 := 1
  nextObj : Nat := 0
  lastSeenUtc : Nat → Int := fun _ => 0
  lastVoiceSequence : Nat → UInt16 := fun _ => 0

structure Datagram where
  target : IPEndPoint
  payload : Bytes
  deriving DecidableEq, Repr

/-- What a sending method put on the wire, and the exception that stopped it. -/
structure Sends where
  sent : List Datagram := []
  thrown : Option DotNetException := none
  deriving DecidableEq, Repr

namespace Sends

def andThen (first second : Sends) : Sends :=
  match first.thrown with
  | some _ => first
  | none => { second with sent := first.sent ++ second.sent }

/-- One send, unless writing the packet threw. -/
def one (target : IPEndPoint) : Except DotNetException Bytes → Sends
  | .ok packet => { sent := [⟨target, packet⟩] }
  | .error e => { thrown := some e }

/-- A loop of sends. -/
def each (send : ClientSession → Sends) : List ClientSession → Sends
  | [] => {}
  | session :: rest => (send session).andThen (each send rest)

theorem andThen_of_none {first : Sends} (h : first.thrown = none) (second : Sends) :
    first.andThen second = { second with sent := first.sent ++ second.sent } := by
  simp only [andThen, h]

theorem mem_andThen_sent {first second : Sends} {d : Datagram}
    (h : d ∈ (first.andThen second).sent) :
    d ∈ first.sent ∨ d ∈ second.sent := by
  simp only [andThen] at h
  split at h
  · exact Or.inl h
  · exact List.mem_append.mp h

/-- Whatever a loop sends, one of its rounds sends. -/
theorem mem_each_sent {send : ClientSession → Sends} {visited : List ClientSession}
    {d : Datagram}
    (h : d ∈ (each send visited).sent) :
    ∃ session ∈ visited, d ∈ (send session).sent := by
  induction visited with
  | nil => simp [each] at h
  | cons session rest ih =>
    rcases mem_andThen_sent h with hone | hrest
    · exact ⟨session, List.mem_cons_self, hone⟩
    · obtain ⟨later, hlater, hd⟩ := ih hrest
      exact ⟨later, List.mem_cons_of_mem _ hlater, hd⟩

/-- A loop none of whose rounds throws sends what all rounds send. -/
theorem each_of_none {send : ClientSession → Sends} {visited : List ClientSession}
    (h : ∀ session ∈ visited, (send session).thrown = none) :
    each send visited = { sent := visited.flatMap (fun session => (send session).sent) } := by
  induction visited with
  | nil => rfl
  | cons session rest ih =>
    have hrest := ih (fun later hlater => h later (List.mem_cons_of_mem _ hlater))
    rw [each, andThen_of_none (h session List.mem_cons_self), hrest]
    rfl

end Sends

structure Handled where
  server : RelayServer
  sent : List Datagram := []
  thrown : Option DotNetException := none

/-- The values of `_sessionsById` as one loop sees them. -/
abbrev SessionOrder := IterationOrder ClientSession

namespace RelayServer

def sends (server : RelayServer) (s : Sends) : Handled :=
  { server, sent := s.sent, thrown := s.thrown }

/-- `session.LastSeenUtc = now`. -/
def touch (server : RelayServer) (session : ClientSession) (now : Int) : RelayServer :=
  { server with lastSeenUtc := Function.update server.lastSeenUtc session.obj now }

def sessions (server : RelayServer) (order : SessionOrder) : List ClientSession :=
  order.arrange server.tables.sessionsById.values

/-- The loop `while (GetByteCount(value) > maxUtf8Bytes) value = value[..^1]`; every round drops
a character. -/
def truncateRounds (maxUtf8Bytes : Nat) : Nat → Text → Text
  | 0, value => value
  | fuel + 1, value =>
      if maxUtf8Bytes < (encodeUtf8 value).length then
        truncateRounds maxUtf8Bytes fuel value.dropLast
      else value

def truncate (value : Text) (maxUtf8Bytes : Nat) : Text :=
  truncateRounds maxUtf8Bytes value.length value

def acceptPacket (server : RelayServer) (session : ClientSession) :
    Except DotNetException Bytes := do
  let writer : PacketWriter := { capacity := 8 + 1 + maxVersionLength }
  let writer ← writer.writeByte PacketType.connectAccept.code
  let writer ← writer.writeUInt32 session.sessionId
  let writer ← writer.writeUInt16 (UInt16.ofInt server.options.maxClients)
  let writer ← writer.writeByte (if server.options.debugForceAudible then 1 else 0)
  let writer ← writer.writeString8 (truncate server.serverVersion maxVersionLength)
  return writer.written

def rejectPacket (reason : ConnectRejectReason) : Except DotNetException Bytes := do
  let writer : PacketWriter := { capacity := 2 }
  let writer ← writer.writeByte PacketType.connectReject.code
  let writer ← writer.writeByte reason.code
  return writer.written

def clientJoinedPacket (subject : ClientSession) : Except DotNetException Bytes := do
  let writer : PacketWriter := { capacity := 1 + 4 + 1 + maxUidLength + 1 + maxNameLength }
  let writer ← writer.writeByte PacketType.clientJoined.code
  let writer ← writer.writeUInt32 subject.sessionId
  let writer ← writer.writeString8 subject.uid
  let writer ← writer.writeString8 subject.name
  return writer.written

def clientLeftPacket (sessionId : UInt32) : Except DotNetException Bytes := do
  let writer : PacketWriter := { capacity := 5 }
  let writer ← writer.writeByte PacketType.clientLeft.code
  let writer ← writer.writeUInt32 sessionId
  return writer.written

def pongPacket (timestamp : UInt32) : Except DotNetException Bytes := do
  let writer : PacketWriter := { capacity := 6 }
  let writer ← writer.writeByte PacketType.pong.code
  let writer ← writer.writeUInt32 timestamp
  return writer.written

def voiceDownPacket (sender : ClientSession) (sequence : UInt16) (flags : UInt8) (opus : Bytes) :
    Except DotNetException Bytes := do
  let writer : PacketWriter := { capacity := 1 + 4 + 2 + 1 + maxOpusFrameLength }
  let writer ← writer.writeByte PacketType.voiceDown.code
  let writer ← writer.writeUInt32 sender.sessionId
  let writer ← writer.writeUInt16 sequence
  let writer ← writer.writeByte flags
  let writer ← writer.writeBytes opus
  return writer.written

def radioTxBroadcastPacket (sender : ClientSession) (active : UInt8) (freq : Text)
    (range : UInt16) (sub : Text) : Except DotNetException Bytes := do
  let writer : PacketWriter :=
    { capacity := 1 + 4 + 1 + 1 + maxFreqLength + 2 + 1 + maxSubtypeLength }
  let writer ← writer.writeByte PacketType.radioTxBroadcast.code
  let writer ← writer.writeUInt32 sender.sessionId
  let writer ← writer.writeByte active
  let writer ← writer.writeString8 freq
  let writer ← writer.writeUInt16 range
  let writer ← writer.writeString8 sub
  return writer.written

def sendAccept (server : RelayServer) (session : ClientSession) : Sends :=
  Sends.one session.endPoint (server.acceptPacket session)

def sendReject (remote : IPEndPoint) (reason : ConnectRejectReason) : Sends :=
  Sends.one remote (rejectPacket reason)

def sendClientJoined (target : IPEndPoint) (subject : ClientSession) : Sends :=
  Sends.one target (clientJoinedPacket subject)

/-- The roster loop: everyone but the session itself. -/
def sendRoster (server : RelayServer) (order : SessionOrder) (remote : IPEndPoint)
    (session : ClientSession) : Sends :=
  Sends.each (fun existing => if existing.sessionId = session.sessionId then {}
    else sendClientJoined remote existing) (server.sessions order)

def broadcastClientJoined (server : RelayServer) (order : SessionOrder) (subject : ClientSession)
    (except : Option UInt32) : Sends :=
  Sends.each (fun target => if some target.sessionId = except then {}
    else if target.sessionId = subject.sessionId then {}
    else sendClientJoined target.endPoint subject) (server.sessions order)

def broadcastClientLeft (server : RelayServer) (order : SessionOrder) (sessionId : UInt32)
    (except : Option UInt32) : Sends :=
  match clientLeftPacket sessionId with
  | .error e => { thrown := some e }
  | .ok packet =>
      Sends.each (fun target => if some target.sessionId = except then {}
        else { sent := [⟨target.endPoint, packet⟩] }) (server.sessions order)

/-- One packet to everyone but its sender. -/
def relayToOthers (server : RelayServer) (order : SessionOrder) (sender : ClientSession)
    (packet : Bytes) : Sends :=
  Sends.each (fun target => if target.sessionId = sender.sessionId then {}
    else { sent := [⟨target.endPoint, packet⟩] }) (server.sessions order)

/-- How `HandleConnectRequest` answers before it touches a table. -/
inductive ConnectVerdict where
  | reject (reason : ConnectRejectReason)
  | proceed (uid name : Text)
  deriving DecidableEq, Repr

def readIdentity (reader : Bytes) : Except DotNetException (Text × Text) := do
  let (uid, reader) ← PacketReader.readString8 maxUidLength reader
  let (name, _) ← PacketReader.readString8 maxNameLength reader
  return (uid, name)

def connectVerdict (server : RelayServer) (reader : Bytes) :
    Except DotNetException ConnectVerdict :=
  match PacketReader.readByte reader with
  | .error e => .error e
  | .ok (version, reader) =>
      if version ≠ versionMajor then .ok (.reject .versionMismatch)
      else if reader.length < 32 then .ok (.reject .badRequest)
      else
        match readIdentity (reader.drop 32) with
        | .error .invalidData => .ok (.reject .badRequest)
        | .error e => .error e
        | .ok (uid, name) =>
            if uid = [] then .ok (.reject .badRequest)
            else if reader.take 32 ≠ server.expectedPasswordHash then .ok (.reject .badPassword)
            else .ok (.proceed uid name)

/-- The stale session of a uid leaves all three tables. -/
def dropStale (server : RelayServer) (uid : Text) : RelayServer :=
  match server.tables.sessionsByUid.lookup uid with
  | none => server
  | some stale =>
      let tables :=
        ((server.tables.removeUid uid).removeEndPoint stale.endPoint).removeId stale.sessionId
      { server with tables }

def announceStale (server : RelayServer) (order : SessionOrder) (uid : Text) : Sends :=
  match server.tables.sessionsByUid.lookup uid with
  | none => {}
  | some stale => (server.dropStale uid).broadcastClientLeft order stale.sessionId none

def isFull (server : RelayServer) : Bool :=
  server.options.maxClients ≤ server.tables.sessionsById.count

/-- The session object for the next id. -/
def newSession (server : RelayServer) (remote : IPEndPoint) (uid name : Text) : ClientSession where
  obj := server.nextObj
  sessionId := server.nextSessionId
  endPoint := remote
  uid := uid
  name := if name = [] then uid else name

/-- The construction of the session object. -/
def construct (server : RelayServer) (now : Int) (session : ClientSession) : RelayServer :=
  { server with
    nextSessionId := server.nextSessionId + 1
    nextObj := server.nextObj + 1
    lastSeenUtc := Function.update server.lastSeenUtc session.obj now
    lastVoiceSequence := Function.update server.lastVoiceSequence session.obj 0 }

def register (server : RelayServer) (now : Int) (session : ClientSession) : RelayServer :=
  { server.construct now session with tables := server.tables.put session }

/-- `HandleConnectRequest` once the request is in order. -/
def admitClient (server : RelayServer) (now : Int) (order : SessionOrder) (remote : IPEndPoint)
    (uid name : Text) : Handled :=
  let left := server.announceStale order uid
  let server := server.dropStale uid
  if left.thrown.isSome then server.sends left
  else if server.isFull then server.sends (left.andThen (sendReject remote .serverFull))
  else
    let session := server.newSession remote uid name
    let server := server.register now session
    server.sends (left.andThen ((server.sendAccept session).andThen
      ((server.sendRoster order remote session).andThen
        (server.broadcastClientJoined order session (some session.sessionId)))))

def handleConnectRequest (server : RelayServer) (now : Int) (order : SessionOrder)
    (reader : Bytes) (remote : IPEndPoint) : Handled :=
  match server.connectVerdict reader with
  | .error e => { server, thrown := some e }
  | .ok (.reject reason) => server.sends (sendReject remote reason)
  | .ok (.proceed uid name) => server.admitClient now order remote uid name

def handleRosterRequest (server : RelayServer) (order : SessionOrder) (remote : IPEndPoint) :
    Handled :=
  match server.tables.sessionsByEndPoint.lookup remote with
  | none => { server }
  | some requester => server.sends (server.sendRoster order remote requester)

def handlePing (server : RelayServer) (now : Int) (reader : Bytes) (remote : IPEndPoint) :
    Handled :=
  match PacketReader.readUInt32 reader with
  | .error e => { server, thrown := some e }
  | .ok (timestamp, _) =>
      match server.tables.sessionsByEndPoint.lookup remote with
      | none => { server }
      | some session =>
          (server.touch session now).sends (Sends.one remote (pongPacket timestamp))

def readVoiceUp (reader : Bytes) : Except DotNetException (UInt16 × UInt8 × Bytes) := do
  let (sequence, reader) ← PacketReader.readUInt16 reader
  let (flags, opus) ← PacketReader.readByte reader
  return (sequence, flags, opus)

def handleVoiceUp (server : RelayServer) (now : Int) (order : SessionOrder) (reader : Bytes)
    (remote : IPEndPoint) : Handled :=
  match server.tables.sessionsByEndPoint.lookup remote with
  | none => { server }
  | some sender =>
      let server := server.touch sender now
      match readVoiceUp reader with
      | .error e => { server, thrown := some e }
      | .ok (sequence, flags, opus) =>
          if maxOpusFrameLength < opus.length then { server }
          else
            let lastVoiceSequence :=
              Function.update server.lastVoiceSequence sender.obj sequence
            let server := { server with lastVoiceSequence }
            match voiceDownPacket sender sequence flags opus with
            | .error e => { server, thrown := some e }
            | .ok packet => server.sends (server.relayToOthers order sender packet)

def readRadioTxUpdate (reader : Bytes) :
    Except DotNetException (UInt8 × Text × UInt16 × Text) := do
  let (active, reader) ← PacketReader.readByte reader
  let (freq, reader) ← PacketReader.readString8 maxFreqLength reader
  let (range, reader) ← PacketReader.readUInt16 reader
  let (sub, _) ← PacketReader.readString8 maxSubtypeLength reader
  return (active, freq, range, sub)

def handleRadioTxUpdate (server : RelayServer) (now : Int) (order : SessionOrder)
    (reader : Bytes) (remote : IPEndPoint) : Handled :=
  match server.tables.sessionsByEndPoint.lookup remote with
  | none => { server }
  | some sender =>
      let server := server.touch sender now
      match readRadioTxUpdate reader with
      | .error .invalidData => { server }
      | .error e => { server, thrown := some e }
      | .ok (active, freq, range, sub) =>
          match radioTxBroadcastPacket sender active freq range sub with
          | .error e => { server, thrown := some e }
          | .ok packet => server.sends (server.relayToOthers order sender packet)

def handleDisconnect (server : RelayServer) (order : SessionOrder) (remote : IPEndPoint) :
    Handled :=
  match server.tables.sessionsByEndPoint.lookup remote with
  | none => { server }
  | some session =>
      let tables :=
        ((server.tables.removeEndPoint remote).removeId session.sessionId).removeUid session.uid
      let server := { server with tables }
      server.sends (server.broadcastClientLeft order session.sessionId none)

/-- `HandlePacket`. An empty datagram never reaches it. -/
def handlePacket (server : RelayServer) (now : Int) (order : SessionOrder) (data : Bytes)
    (remote : IPEndPoint) : Handled :=
  match data with
  | [] => { server }
  | packetType :: reader =>
      match PacketType.ofCode packetType with
      | some .connectRequest => server.handleConnectRequest now order reader remote
      | some .rosterRequest => server.handleRosterRequest order remote
      | some .ping => server.handlePing now reader remote
      | some .voiceUp => server.handleVoiceUp now order reader remote
      | some .radioTxUpdate => server.handleRadioTxUpdate now order reader remote
      | some .disconnect => server.handleDisconnect order remote
      | _ => { server }

def ticksPerSecond : Int := 10000000

/-- A pass of the timeout sweep computes its cutoff, takes a snapshot of the sessions and then
visits them one by one. -/
def sweepCutoff (server : RelayServer) (now : Int) : Int :=
  now - server.options.timeoutSeconds * ticksPerSecond

def isExpired (server : RelayServer) (cutoff : Int) (session : ClientSession) : Bool :=
  server.lastSeenUtc session.obj < cutoff

/-- The body of the sweep loop. -/
def sweepSession (server : RelayServer) (order : SessionOrder) (cutoff : Int)
    (session : ClientSession) : Handled :=
  if server.isExpired cutoff session then
    let server := { server with tables := server.tables.removeKeys session }
    server.sends (server.broadcastClientLeft order session.sessionId none)
  else { server }

theorem clientLeftPacket_eq (sessionId : UInt32) :
    clientLeftPacket sessionId = .ok (PacketType.clientLeft.code :: littleEndian32 sessionId) :=
  rfl

private theorem broadcastClientLeft_thrown (server : RelayServer) (order : SessionOrder)
    (sessionId : UInt32) (except : Option UInt32) :
    (server.broadcastClientLeft order sessionId except).thrown = none := by
  rw [broadcastClientLeft, clientLeftPacket_eq]
  dsimp only
  rw [Sends.each_of_none]
  intro session _
  split <;> rfl

theorem announceStale_thrown (server : RelayServer) (order : SessionOrder) (uid : Text) :
    (server.announceStale order uid).thrown = none := by
  simp only [announceStale]
  split
  · rfl
  · exact broadcastClientLeft_thrown _ _ _ _

/-- The uid and name of a ConnectRequest that passes every check on the request itself. -/
def admitted (server : RelayServer) (data : Bytes) : Option (Text × Text) :=
  match data with
  | [] => none
  | packetType :: reader =>
      if PacketType.ofCode packetType = some .connectRequest then
        match server.connectVerdict reader with
        | .ok (.proceed uid name) => some (uid, name)
        | _ => none
      else none

theorem handlePacket_admitted {server : RelayServer} {data : Bytes} {uid name : Text}
    (h : server.admitted data = some (uid, name))
    (now : Int) (order : SessionOrder) (remote : IPEndPoint) :
    server.handlePacket now order data remote =
      server.admitClient now order remote uid name := by
  cases data with
  | nil => simp [admitted] at h
  | cons packetType reader =>
    simp only [admitted] at h
    split at h
    case isFalse => cases h
    case isTrue htype =>
      split at h
      case h_1 u n hverdict =>
        obtain ⟨rfl, rfl⟩ := Prod.mk.inj (Option.some.inj h)
        simp only [handlePacket, htype, handleConnectRequest, hverdict]
      case h_2 => cases h

theorem admitClient_server (server : RelayServer) (now : Int) (order : SessionOrder)
    (remote : IPEndPoint) (uid name : Text) :
    (server.admitClient now order remote uid name).server =
      if (server.dropStale uid).isFull then server.dropStale uid
      else (server.dropStale uid).register now
        ((server.dropStale uid).newSession remote uid name) := by
  simp only [admitClient, announceStale_thrown, Option.isSome_none, Bool.false_eq_true, if_false]
  split <;> rfl

/-- The session that a datagram creates. -/
def accepted (server : RelayServer) (data : Bytes) (remote : IPEndPoint) :
    Option ClientSession :=
  match server.admitted data with
  | none => none
  | some (uid, name) =>
      if (server.dropStale uid).isFull then none
      else some ((server.dropStale uid).newSession remote uid name)

/-- What a datagram can do to the server. -/
theorem handlePacket_server_cases (server : RelayServer) (now : Int) (order : SessionOrder)
    (data : Bytes) (remote : IPEndPoint) :
    (∃ uid name, server.admitted data = some (uid, name) ∧
      (server.handlePacket now order data remote).server =
        (server.admitClient now order remote uid name).server) ∨
    (server.admitted data = none ∧ ∃ session,
      server.tables.sessionsByEndPoint.lookup remote = some session ∧
      (server.handlePacket now order data remote).server =
        { server with tables := ((server.tables.removeEndPoint remote).removeId
            session.sessionId).removeUid session.uid }) ∨
    (server.admitted data = none ∧ ∃ seen sequence,
      (server.handlePacket now order data remote).server =
        { server with lastSeenUtc := seen, lastVoiceSequence := sequence }) := by
  cases hadmitted : server.admitted data with
  | some identity =>
    obtain ⟨uid, name⟩ := identity
    exact Or.inl ⟨uid, name, rfl, by rw [handlePacket_admitted hadmitted]⟩
  | none =>
    apply Or.inr
    cases data with
    | nil => exact Or.inr ⟨rfl, _, _, rfl⟩
    | cons packetType reader =>
      simp only [handlePacket, true_and]
      split
      case h_1 htype =>
        refine Or.inr ⟨server.lastSeenUtc, server.lastVoiceSequence, ?_⟩
        simp only [admitted, htype, if_true] at hadmitted
        simp only [handleConnectRequest]
        split
        · rfl
        · rfl
        · rename_i hverdict
          simp [hverdict] at hadmitted
      case h_2 =>
        refine Or.inr ⟨server.lastSeenUtc, server.lastVoiceSequence, ?_⟩
        simp only [handleRosterRequest]
        split <;> rfl
      case h_3 =>
        apply Or.inr
        simp only [handlePing]
        split
        · exact ⟨_, _, rfl⟩
        · split <;> exact ⟨_, _, rfl⟩
      case h_4 =>
        apply Or.inr
        simp only [handleVoiceUp]
        repeat' split
        all_goals exact ⟨_, _, rfl⟩
      case h_5 =>
        apply Or.inr
        simp only [handleRadioTxUpdate]
        repeat' split
        all_goals exact ⟨_, _, rfl⟩
      case h_6 =>
        simp only [handleDisconnect]
        split
        · exact Or.inr ⟨_, _, rfl⟩
        · rename_i session hlookup
          exact Or.inl ⟨session, hlookup, rfl⟩
      case h_7 => exact Or.inr ⟨_, _, rfl⟩

end RelayServer

end TaskForceRadio.VoiceServer
