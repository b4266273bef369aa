import TaskForceRadio.Wire.ClientCodec

/-!
# The network client

`VoiceNetworkClient`: the packets it sends, the callbacks a received packet fires, and one
iteration of `threadMain`. What the sockets and the clock do during an iteration is its input.
Times are nanoseconds of the steady clock.
-/

set_option autoImplicit false

namespace TaskForceRadio.Voice

def kHandshakeRetries : Nat := 5
def kMaxPacketsPerPump : Nat := 256

/-- A point in time, or a duration. -/
abbrev Time := Int

def milliseconds (count : Int) : Time := count * 1000000
def seconds (count : Int) : Time := count * 1000000000

def kPingInterval : Time := seconds 5
def kServerTimeout : Time := seconds 15

/-- A SHA-256 digest. -/
abbrev PasswordHash := { bytes : Bytes // bytes.length = 32 }

structure ServerConfig where
  host : Bytes := []
  port : UInt16 := 0
  password : Bytes := []
  deriving DecidableEq, Repr

structure Identity where
  uid : Bytes := []
  name : Bytes := []
  deriving DecidableEq, Repr

inductive Callback where
  | voiceFrame (sessionId : UInt32) (sequence : UInt16) (isLast : Bool) (opus : Bytes)
  | remoteJoined (sessionId : UInt32) (uid name : Bytes)
  | remoteLeft (sessionId : UInt32)
  | radioTx (senderSessionId : UInt32) (active : Bool) (freq : Bytes) (range : UInt16)
      (sub : Bytes)
  | connectionStateChanged (connected : Bool)
  deriving DecidableEq, Repr

/-- `handlePacket`: the callback a datagram fires, if it is well formed and of a type the client
listens to. -/
def handlePacket (data : Bytes) : Except CodecError (Option Callback) :=
  match data with
  | [] => .ok none
  | packetType :: reader =>
      match PacketType.ofCode packetType with
      | some .voiceDown => do
          let (senderSessionId, reader) ← PacketReader.readUInt32 reader
          let (sequence, reader) ← PacketReader.readUInt16 reader
          let (flags, opus) ← PacketReader.readByte reader
          return some (.voiceFrame senderSessionId sequence
            ((flags &&& voiceFlagsLastFrame) != 0) opus)
      | some .clientJoined => do
          let (sid, reader) ← PacketReader.readUInt32 reader
          let (uid, reader) ← PacketReader.readString8 maxUidLength reader
          let (name, _) ← PacketReader.readString8 maxNameLength reader
          return some (.remoteJoined sid uid name)
      | some .clientLeft => do
          let (sid, _) ← PacketReader.readUInt32 reader
          return some (.remoteLeft sid)
      | some .radioTxBroadcast => do
          let (sid, reader) ← PacketReader.readUInt32 reader
          let (active, reader) ← PacketReader.readByte reader
          let (freq, reader) ← PacketReader.readString8 maxFreqLength reader
          let (range, reader) ← PacketReader.readUInt16 reader
          let (sub, _) ← PacketReader.readString8 maxSubtypeLength reader
          return some (.radioTx sid (active != 0) freq range sub)
      | _ => .ok none

def connectRequestPacket (hash : PasswordHash) (identity : Identity) :
    Except CodecError Bytes := do
  let writer : PacketWriter :=
    { capacity := 1 + 1 + 32 + 1 + maxUidLength + 1 + maxNameLength }
  let writer ← writer.writeByte PacketType.connectRequest.code
  let writer ← writer.writeByte versionMajor
  let writer ← writer.writeBytes hash.1
  let writer ← writer.writeString8 (truncateUtf8 identity.uid maxUidLength)
  let writer ← writer.writeString8 (truncateUtf8 identity.name maxNameLength)
  return writer.written

def radioTxUpdatePacket (active : Bool) (freq : Bytes) (range : UInt16) (sub : Bytes) :
    Except CodecError Bytes := do
  let truncFreq := truncateUtf8 freq maxFreqLength
  let truncSub := truncateUtf8 sub maxSubtypeLength
  let writer : PacketWriter := { capacity := 1 + 1 + 1 + maxFreqLength + 2 + 1 + maxSubtypeLength }
  let writer ← writer.writeByte PacketType.radioTxUpdate.code
  let writer ← writer.writeByte (if active then 1 else 0)
  let writer ← writer.writeString8 truncFreq
  let writer ← writer.writeUInt16 range
  let writer ← writer.writeString8 truncSub
  return writer.written

def voiceUpPacket (sequence : UInt16) (isLast : Bool) (opus : Bytes) :
    Except CodecError Bytes := do
  let writer : PacketWriter := { capacity := 1 + 2 + 1 + maxOpusFrameLength }
  let writer ← writer.writeByte PacketType.voiceUp.code
  let writer ← writer.writeUInt16 sequence
  let writer ← writer.writeByte (if isLast then voiceFlagsLastFrame else 0)
  let writer ← writer.writeBytes opus
  return writer.written

def pingPacket (now : Time) : Except CodecError Bytes := do
  let writer : PacketWriter := { capacity := 1 + 4 }
  let writer ← writer.writeByte PacketType.ping.code
  let writer ← writer.writeUInt32 (UInt32.ofInt (now / milliseconds 1))
  return writer.written

def rosterRequestPacket : Bytes := [PacketType.rosterRequest.code]

/-- The truncated fields always fit the buffer. -/
theorem connectRequestPacket_eq (hash : PasswordHash) (identity : Identity) :
    connectRequestPacket hash identity =
      .ok (PacketType.connectRequest.code :: versionMajor :: (hash.1 ++
        (string8 (truncateUtf8 identity.uid maxUidLength) ++
          string8 (truncateUtf8 identity.name maxNameLength)))) := by
  have huid := truncateUtf8_length identity.uid maxUidLength
  have hname := truncateUtf8_length identity.name maxNameLength
  have hhash := hash.2
  simp only [maxUidLength, maxNameLength] at huid hname
  simp only [connectRequestPacket, PacketWriter.writeByte, PacketWriter.writeBytes, maxUidLength,
    maxNameLength, bind, Except.bind]
  rw [PacketWriter.put_ok (by simp)]
  dsimp only
  rw [PacketWriter.put_ok (by simp)]
  dsimp only
  rw [PacketWriter.put_ok (by simp [hhash])]
  dsimp only
  rw [PacketWriter.writeString8_ok (by omega) (by simp [hhash]; omega)]
  dsimp only
  rw [PacketWriter.writeString8_ok (by omega) (by simp [hhash]; omega)]
  simp [pure, Except.pure]

theorem radioTxUpdatePacket_eq (active : Bool) (freq : Bytes) (range : UInt16) (sub : Bytes) :
    radioTxUpdatePacket active freq range sub =
      .ok (PacketType.radioTxUpdate.code :: (if active then 1 else 0) ::
        (string8 (truncateUtf8 freq maxFreqLength) ++ (littleEndian16 range ++
          string8 (truncateUtf8 sub maxSubtypeLength)))) := by
  have hfreq := truncateUtf8_length freq maxFreqLength
  have hsub := truncateUtf8_length sub maxSubtypeLength
  simp only [maxFreqLength, maxSubtypeLength] at hfreq hsub
  simp only [radioTxUpdatePacket, PacketWriter.writeByte, PacketWriter.writeUInt16, maxFreqLength,
    maxSubtypeLength, bind, Except.bind]
  rw [PacketWriter.put_ok (by simp)]
  dsimp only
  rw [PacketWriter.put_ok (by simp)]
  dsimp only
  rw [PacketWriter.writeString8_ok (by omega) (by simp; omega)]
  dsimp only
  rw [PacketWriter.put_ok (by simp; omega)]
  dsimp only
  rw [PacketWriter.writeString8_ok (by omega) (by simp; omega)]
  simp [pure, Except.pure]

/-- The state of the client. Counters that only throttle log lines are left out. -/
structure VoiceNetworkClient where
  running : Bool := true
  connected : Bool := false
  sessionId : UInt32 := 0
  debugForceAudible : Bool := false
  config : ServerConfig := {}
  identity : Identity := {}
  activeConfig : ServerConfig := {}
  activeUid : Bytes := []
  socket : Option Nat := none
  voiceSequence : UInt16 := 0
  serverVersion : Bytes := []
  lastPingTime : Time := 0
  lastRecvTime : Time := 0
  deriving DecidableEq, Repr

/-- One round of `tryHandshake`: no socket could be opened, the send failed, or the request
went out and these datagrams arrived before the deadline. -/
inductive HandshakeAttempt where
  | noSocket
  | sendFailed (socket : Nat)
  | sent (socket : Nat) (replies : List Bytes)
  deriving DecidableEq, Repr

/-- What sockets and clock do during one iteration of `threadMain`. -/
structure LoopIo where
  passwordHash : Option PasswordHash := none
  attempts : List HandshakeAttempt := []
  connectedAt : Time := 0
  received : List (Time × Bytes) := []
  stopped : Bool := false
  now : Time := 0

/-- An iteration so far: the client, the callbacks it fired, the datagrams it sent and the times
at which it read one. -/
structure LoopOutcome where
  client : VoiceNetworkClient
  callbacks : List Callback := []
  sent : List (Nat × Bytes) := []
  reads : List Time := []

namespace VoiceNetworkClient

def setServer (c : VoiceNetworkClient) (host : Bytes) (port : UInt16) (password : Bytes) :
    VoiceNetworkClient :=
  { c with config := { host, port, password } }

def setIdentity (c : VoiceNetworkClient) (uid name : Bytes) : VoiceNetworkClient :=
  { c with identity := { uid, name } }

def configChanged (c : VoiceNetworkClient) : Bool :=
  c.config.host != c.activeConfig.host || c.config.port != c.activeConfig.port ||
    c.config.password != c.activeConfig.password ||
    (c.identity.uid != [] && c.identity.uid != c.activeUid)

def closeSocket (c : VoiceNetworkClient) : VoiceNetworkClient := { c with socket := none }

/-- The fields of a ConnectAccept behind the session id are optional. -/
def readAccept (packet : Bytes) : Except CodecError (UInt32 × Bool × Bytes) := do
  let (_, reader) ← PacketReader.readByte packet
  let (sid, reader) ← PacketReader.readUInt32 reader
  let reader := if 2 ≤ reader.length then reader.drop 2 else reader
  match reader with
  | [] => return (sid, false, [])
  | debugAudible :: reader =>
      match PacketReader.readString8 maxVersionLength reader with
      | .ok (version, _) => return (sid, debugAudible != 0, version)
      | .error _ => return (sid, debugAudible != 0, [])

inductive HandshakeReply where
  | accept (sid : UInt32) (debugAudible : Bool) (version : Bytes)
  | reject
  deriving DecidableEq, Repr

/-- The receive loop of one attempt: everything but a readable ConnectAccept or a ConnectReject
is passed over. -/
def awaitReply : List Bytes → Option HandshakeReply
  | [] => none
  | packet :: rest =>
      match packet.head?.bind PacketType.ofCode with
      | some .connectAccept =>
          match readAccept packet with
          | .ok (sid, debugAudible, version) => some (.accept sid debugAudible version)
          | .error _ => awaitReply rest
      | some .connectReject => some .reject
      | _ => awaitReply rest

/-- The client, the requests it sent, and whether one was accepted. -/
structure HandshakeResult where
  client : VoiceNetworkClient
  sent : List (Nat × Bytes) := []
  accepted : Bool := false

def handshakeLoop (request : Bytes) :
    List HandshakeAttempt → VoiceNetworkClient → HandshakeResult
  | [], c => { client := c }
  | .noSocket :: rest, c => handshakeLoop request rest { c with socket := none }
  | .sendFailed socket :: rest, c => handshakeLoop request rest { c with socket := some socket }
  | .sent socket replies :: rest, c =>
      match awaitReply replies with
      | some (.accept sid debugAudible version) =>
          { client := { c with
              socket := some socket, sessionId := sid, debugForceAudible := debugAudible,
              serverVersion := version }
            sent := [(socket, request)]
            accepted := true }
      | some .reject =>
          { client := { c with socket := some socket }, sent := [(socket, request)] }
      | none =>
          let later := handshakeLoop request rest { c with socket := some socket }
          { later with sent := (socket, request) :: later.sent }

def tryHandshake (c : VoiceNetworkClient) (io : LoopIo) : HandshakeResult :=
  match io.passwordHash with
  | none => { client := c }
  | some hash =>
      match connectRequestPacket hash c.identity with
      | .error _ => { client := c }
      | .ok request => handshakeLoop request (io.attempts.take kHandshakeRetries) c

end VoiceNetworkClient

namespace VoiceNetworkClient

/-- `sendRaw` and its callers: the socket and the packet, unless there is no connection. -/
def sendRaw (c : VoiceNetworkClient) (packet : Bytes) : List (Nat × Bytes) :=
  match c.socket with
  | some socket => if c.connected then [(socket, packet)] else []
  | none => []

def sendVoiceFrame (c : VoiceNetworkClient) (opus : Bytes) (isLast : Bool) :
    VoiceNetworkClient × List (Nat × Bytes) :=
  if opus = [] ∨ maxOpusFrameLength < opus.length ∨ c.connected = false then (c, [])
  else
    let sent :=
      match voiceUpPacket c.voiceSequence isLast opus with
      | .ok packet => c.sendRaw packet
      | .error _ => []
    ({ c with voiceSequence := c.voiceSequence + 1 }, sent)

def sendRadioTx (c : VoiceNetworkClient) (active : Bool) (freq : Bytes) (range : UInt16)
    (sub : Bytes) : List (Nat × Bytes) :=
  match radioTxUpdatePacket active freq range sub with
  | .ok packet => c.sendRaw packet
  | .error _ => []

def requestRoster (c : VoiceNetworkClient) : List (Nat × Bytes) := c.sendRaw rosterRequestPacket

end VoiceNetworkClient

namespace LoopOutcome

def setConnected (o : LoopOutcome) (connected : Bool) : LoopOutcome :=
  { o with
    client := { o.client with
      connected
      sessionId := if connected then o.client.sessionId else 0
      debugForceAudible := if connected then o.client.debugForceAudible else false }
    callbacks := o.callbacks ++ [.connectionStateChanged connected] }

def closeSocket (o : LoopOutcome) : LoopOutcome := { o with client := o.client.closeSocket }

def sendRaw (o : LoopOutcome) (packet : Bytes) : LoopOutcome :=
  { o with sent := o.sent ++ o.client.sendRaw packet }

/-- The handshake, for the configuration and identity read at the top of the iteration. -/
def connect (o : LoopOutcome) (io : LoopIo) : LoopOutcome :=
  let result := o.client.tryHandshake io
  let o := { o with client := result.client, sent := o.sent ++ result.sent }
  if result.accepted then
    LoopOutcome.setConnected { o with
      client := { o.client with
        activeConfig := o.client.config
        activeUid := o.client.identity.uid
        voiceSequence := 0
        lastPingTime := io.connectedAt
        lastRecvTime := io.connectedAt }
      reads := o.reads ++ [io.connectedAt] } true
  else o.closeSocket

/-- A datagram counts as a sign of life before it is parsed. -/
def receive (o : LoopOutcome) (at_ : Time) (data : Bytes) : LoopOutcome :=
  { o with
    client := { o.client with lastRecvTime := at_ }
    callbacks := o.callbacks ++
      (match handlePacket data with
        | .ok (some callback) => [callback]
        | _ => [])
    reads := o.reads ++ [at_] }

def pumpReceive (o : LoopOutcome) (io : LoopIo) : LoopOutcome :=
  (io.received.take kMaxPacketsPerPump).foldl (fun o r => o.receive r.1 r.2) o

def pingIfDue (o : LoopOutcome) (now : Time) : LoopOutcome :=
  if o.client.lastPingTime + kPingInterval ≤ now then
    let o :=
      match pingPacket now with
      | .ok packet => o.sendRaw packet
      | .error _ => o
    let o := { o with sent := o.sent ++ o.client.requestRoster }
    { o with client := { o.client with lastPingTime := now } }
  else o

def watchdog (o : LoopOutcome) (now : Time) : LoopOutcome :=
  if o.client.lastRecvTime + kServerTimeout < now then o.closeSocket.setConnected false else o

end LoopOutcome

namespace VoiceNetworkClient

/-- `config.host` is set and `config.port` is not 0. -/
def configured (c : VoiceNetworkClient) : Bool := c.config.host != [] && c.config.port != 0

/-- One iteration of `threadMain`. -/
def iterate (c : VoiceNetworkClient) (io : LoopIo) : LoopOutcome :=
  if !c.running then { client := c.closeSocket }
  else if !c.configured then { client := c }
  else
    let o : LoopOutcome :=
      if c.connected && c.configChanged then
        LoopOutcome.setConnected { client := c.closeSocket } false
      else { client := c }
    let o := if o.client.connected then o else o.connect io
    -- a failed handshake ends the iteration here
    if !o.client.connected then o
    else
      let o := o.pumpReceive io
      if io.stopped then { o with client := { o.client.closeSocket with running := false } }
      else (o.pingIfDue io.now).watchdog io.now

end VoiceNetworkClient

end TaskForceRadio.Voice
