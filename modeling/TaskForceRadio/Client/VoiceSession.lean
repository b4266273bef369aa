import TaskForceRadio.Client.VoiceNetworkClient
import TaskForceRadio.Foundation.Dictionary

/-!
# The voice session

`PlaybackMixer`, the gate of `TransmitController`, and `VoiceSession`, which owns both and the
network client: the roster built from announcements, the cache of remote transmissions, and the
resolution of audibility rows to playback sources. Audio itself is left out.
-/

set_option autoImplicit false

namespace TaskForceRadio.Voice

inductive SourceEffect where
  | direct
  | sw
  | lr
  | airborne
  | dd
  | phone
  | speaker
  | intercom
  deriving DecidableEq, Repr

structure RemoteSourceState where
  gain : Float32 := 0
  azimuthRadians : Float32 := 0
  muted : Bool := false
  effect : SourceEffect := .direct
  errorLevel : Float32 := 0
  stereoMode : Int := 0
  deriving DecidableEq, Repr

/-- Every way one remote speaker can be heard at once. -/
abbrev RemoteSourcePaths := List RemoteSourceState

structure RemoteVoiceSource where
  sessionId : UInt32
  uid : Bytes
  states : RemoteSourcePaths := []
  deriving DecidableEq, Repr

structure PlaybackMixer where
  sources : Dictionary UInt32 RemoteVoiceSource := ∅
  debugForceAudible : Bool := false
  masterVolume : Float32 := 1
  muted : Bool := false

namespace PlaybackMixer

/-- A source that exists is left as it is. -/
def addSource (p : PlaybackMixer) (sessionId : UInt32) (uid : Bytes) : PlaybackMixer :=
  match p.sources.lookup sessionId with
  | some _ => p
  | none =>
      let states := if p.debugForceAudible then [{ gain := 1 }] else []
      { p with sources := p.sources.insert sessionId { sessionId, uid, states } }

def setSourceStates (p : PlaybackMixer) (sessionId : UInt32) (states : RemoteSourcePaths) :
    PlaybackMixer :=
  match p.sources.lookup sessionId with
  | none => p
  | some source => { p with sources := p.sources.insert sessionId { source with states } }

def removeSource (p : PlaybackMixer) (sessionId : UInt32) : PlaybackMixer :=
  { p with sources := p.sources.erase sessionId }

def removeAllSources (p : PlaybackMixer) : PlaybackMixer := { p with sources := ∅ }

def setMasterVolume (p : PlaybackMixer) (volume : Float32) : PlaybackMixer :=
  { p with masterVolume := if volume < 0 then 0 else if volume > 2 then 2 else volume }

end PlaybackMixer

inductive TransmitMode where
  | pushToTalk
  | voiceActivation
  | alwaysOn
  deriving DecidableEq, Repr

def kVadHangover : Time := milliseconds 300

structure TransmitController where
  mode : TransmitMode := .voiceActivation
  pttHeld : Bool := false
  micMuted : Bool := false
  hasAddonOverride : Bool := false
  addonOverrideValue : Bool := false
  vadThreshold : Float32 := 0.005
  micVolume : Float32 := 1
  noiseSuppressionEnabled : Bool := true
  isTransmitting : Bool := false
  vadHangoverUntil : Time := 0
  deriving DecidableEq, Repr

namespace TransmitController

def setAddonOverride (t : TransmitController) (hasOverride overrideValue : Bool) :
    TransmitController :=
  { t with hasAddonOverride := hasOverride, addonOverrideValue := overrideValue }

def evaluateVoiceActivation (t : TransmitController) (now : Time) (level : Float32) :
    TransmitController × Bool :=
  if level ≥ t.vadThreshold then ({ t with vadHangoverUntil := now + kVadHangover }, true)
  else (t, decide (now < t.vadHangoverUntil))

def determineShouldTransmit (t : TransmitController) (now : Time) (level : Float32) :
    TransmitController × Bool :=
  if t.hasAddonOverride then (t, t.addonOverrideValue)
  else if t.micMuted then (t, false)
  else
    match t.mode with
    | .alwaysOn => (t, true)
    | .pushToTalk => (t, t.pttHeld)
    | .voiceActivation => t.evaluateVoiceActivation now level

/-- The gate of `onFrameCaptured`. -/
def gateFrame (t : TransmitController) (now : Time) (vadLevel : Float32) : TransmitController :=
  let (t, shouldTransmit) := t.determineShouldTransmit now vadLevel
  { t with isTransmitting := shouldTransmit }

end TransmitController

structure AudibilityUpdate where
  uid : Bytes
  nickname : Bytes
  gain : Float32 := 0
  azimuth : Float32 := 0
  muted : Bool := false
  effect : SourceEffect := .direct
  errorLevel : Float32 := 0
  stereoMode : Int := 0
  deriving DecidableEq, Repr

structure RadioTxInfo where
  uid : Bytes
  active : Bool := false
  freq : Bytes
  range : UInt16 := 0
  subtype : Bytes
  deriving DecidableEq, Repr

structure TxCacheEntry where
  info : RadioTxInfo
  receivedAt : Time
  deriving DecidableEq, Repr

/-- `triggerRemoteBeep`: the start or end cue of one source. -/
structure RemoteBeep where
  sessionId : UInt32
  subtype : Bytes
  start : Bool
  deriving DecidableEq, Repr

structure VoiceSession where
  network : VoiceNetworkClient := {}
  transmit : TransmitController := {}
  playback : PlaybackMixer := {}
  uidToSession : Dictionary Bytes UInt32 := ∅
  nameToSession : Dictionary Bytes UInt32 := ∅
  lastActiveSessionIds : List UInt32 := []
  txCache : Dictionary UInt32 TxCacheEntry := ∅

/-- The orders in which one callback walks the two maps of the roster. -/
structure RosterOrders where
  uids : IterationOrder (Bytes × UInt32) := .stored
  names : IterationOrder (Bytes × UInt32) := .stored

namespace VoiceSession

def kTxExpiry : Time := milliseconds 1500

def onRemoteJoined (v : VoiceSession) (sessionId : UInt32) (uid name : Bytes) : VoiceSession :=
  { v with
    playback := v.playback.addSource sessionId uid
    uidToSession := v.uidToSession.insert uid sessionId
    nameToSession :=
      if name = [] then v.nameToSession else v.nameToSession.insert name sessionId }

def onRemoteLeft (v : VoiceSession) (orders : RosterOrders) (sessionId : UInt32) :
    VoiceSession :=
  { v with
    playback := v.playback.removeSource sessionId
    uidToSession := Dictionary.eraseFirstOf orders.uids v.uidToSession sessionId
    nameToSession := Dictionary.eraseFirstOf orders.names v.nameToSession sessionId }

/-- The uid under which the roster lists a session, empty if it does not. -/
def uidOf (v : VoiceSession) (orders : RosterOrders) (sessionId : UInt32) : Bytes :=
  (Dictionary.firstKeyOf orders.uids v.uidToSession sessionId).getD []

def onRadioTx (v : VoiceSession) (now : Time) (orders : RosterOrders) (senderSessionId : UInt32)
    (active : Bool) (freq : Bytes) (range : UInt16) (sub : Bytes) : VoiceSession :=
  let uid := v.uidOf orders senderSessionId
  if uid = [] then v
  else if active then
    let info : RadioTxInfo := { uid, active := true, freq, range, subtype := sub }
    { v with txCache := v.txCache.insert senderSessionId { info, receivedAt := now } }
  else { v with txCache := v.txCache.erase senderSessionId }

/-- The cue that `onRadioTx` triggers. The end cue has the subtype of the start. -/
def radioTxBeep (v : VoiceSession) (orders : RosterOrders) (senderSessionId : UInt32)
    (active : Bool) (sub : Bytes) : Option RemoteBeep :=
  if v.uidOf orders senderSessionId = [] then none
  else
    match active, v.txCache.lookup senderSessionId with
    | true, none => some { sessionId := senderSessionId, subtype := sub, start := true }
    | false, some entry =>
        some { sessionId := senderSessionId, subtype := entry.info.subtype, start := false }
    | _, _ => none

def onConnectionStateChanged (v : VoiceSession) (connected : Bool) : VoiceSession :=
  let playback :=
    { v.playback with debugForceAudible := connected && v.network.debugForceAudible }
  if connected then { v with playback }
  else
    { v with
      playback := playback.removeAllSources
      uidToSession := ∅
      nameToSession := ∅
      txCache := ∅ }

def handle (v : VoiceSession) (now : Time) (orders : RosterOrders) : Callback → VoiceSession
  | .voiceFrame _ _ _ _ => v
  | .remoteJoined sessionId uid name => v.onRemoteJoined sessionId uid name
  | .remoteLeft sessionId => v.onRemoteLeft orders sessionId
  | .radioTx senderSessionId active freq range sub =>
      v.onRadioTx now orders senderSessionId active freq range sub
  | .connectionStateChanged connected => v.onConnectionStateChanged connected

/-- A datagram as the receive loop hands it on: one that does not parse fires nothing. -/
def receive (v : VoiceSession) (now : Time) (orders : RosterOrders) (data : Bytes) :
    VoiceSession :=
  match handlePacket data with
  | .ok (some callback) => v.handle now orders callback
  | _ => v

def setPttHeld (v : VoiceSession) (held : Bool) : VoiceSession :=
  { v with transmit := { v.transmit with pttHeld := held } }

def toggleMicMute (v : VoiceSession) : VoiceSession :=
  { v with transmit := { v.transmit with micMuted := !v.transmit.micMuted } }

def toggleSpeakerMute (v : VoiceSession) : VoiceSession :=
  { v with playback := { v.playback with muted := !v.playback.muted } }

def setServer (v : VoiceSession) (host : Bytes) (port : UInt16) (password : Bytes) :
    VoiceSession :=
  { v with network := v.network.setServer host port password }

def setIdentity (v : VoiceSession) (uid name : Bytes) : VoiceSession :=
  { v with network := v.network.setIdentity uid name }

def setAddonOverride (v : VoiceSession) (hasOverride overrideValue : Bool) : VoiceSession :=
  { v with transmit := v.transmit.setAddonOverride hasOverride overrideValue }

/-- The session of an audibility row: by its uid, else by its nickname. -/
def resolve (v : VoiceSession) (uid nickname : Bytes) : Option UInt32 :=
  match v.uidToSession.lookup uid with
  | some sessionId => some sessionId
  | none => if nickname = [] then none else v.nameToSession.lookup nickname

def AudibilityUpdate.state (unit : AudibilityUpdate) : RemoteSourceState where
  gain := unit.gain
  azimuthRadians := unit.azimuth
  muted := unit.muted
  effect := unit.effect
  errorLevel := unit.errorLevel
  stereoMode := unit.stereoMode

/-- One round of the grouping loop. -/
def groupRow (v : VoiceSession) (paths : Dictionary UInt32 RemoteSourcePaths)
    (unit : AudibilityUpdate) : Dictionary UInt32 RemoteSourcePaths :=
  match v.resolve unit.uid unit.nickname with
  | none => paths
  | some sessionId =>
      paths.insert sessionId ((paths.lookup sessionId).getD [] ++
        [AudibilityUpdate.state unit])

def pathsBySession (v : VoiceSession) (units : List AudibilityUpdate) :
    Dictionary UInt32 RemoteSourcePaths :=
  units.foldl v.groupRow ∅

def applyAudibility (v : VoiceSession) (order : IterationOrder (UInt32 × RemoteSourcePaths))
    (units : List AudibilityUpdate) : VoiceSession :=
  if v.playback.debugForceAudible then v
  else
    let entries := order.arrange (v.pathsBySession units).pairs
    let seen := entries.map Prod.fst
    let playback := entries.foldl (fun p entry => p.setSourceStates entry.1 entry.2) v.playback
    let silenced := v.lastActiveSessionIds.filter (fun sessionId => sessionId ∉ seen)
    let playback := silenced.foldl (fun p sessionId => p.setSourceStates sessionId []) playback
    { v with playback, lastActiveSessionIds := seen }

/-- The cached transmissions that were received within the last 1.5 s. -/
def currentRadioTx (v : VoiceSession) (now : Time)
    (order : IterationOrder (UInt32 × TxCacheEntry)) : List RadioTxInfo :=
  (order.arrange v.txCache.pairs).filterMap (fun entry =>
    if now - entry.2.receivedAt < kTxExpiry then some entry.2.info else none)

end VoiceSession

end TaskForceRadio.Voice
