import TaskForceRadio.Extension.CommandProcessor

/-!
# The tick of the extension

One round of `senderMain`: the settings and the identity go to the voice session, what the local
player transmits goes to the relay, what others transmit goes to the solver, and the solver's
rows go to playback. A tick reads the clock once.
-/

set_option autoImplicit false

namespace TaskForceRadio.Extension

open Voice (Time milliseconds seconds VoiceSession TransmitMode SourceEffect AudibilityUpdate
  RadioTxInfo TxCacheEntry RemoteSourcePaths)

def parseSourceEffect : Fx → SourceEffect
  | .direct => .direct
  | .sw => .sw
  | .lr => .lr
  | .airborne => .airborne
  | .dd => .dd
  | .phone => .phone
  | .speaker => .speaker
  | .intercom => .intercom

def parseTransmitMode (value : Float32) : TransmitMode :=
  if value < 0.5 then .pushToTalk else if value < 1.5 then .voiceActivation else .alwaysOn

/-- The comparisons also catch NaN. -/
def parsePort (value : Float32) : UInt16 :=
  if value ≥ 0 ∧ value ≤ 65535 then value.toUInt16 else 0

def toUpdate (unit : AudibleUnit) : AudibilityUpdate where
  uid := unit.uid
  nickname := unit.nickname
  gain := unit.gain
  azimuth := unit.az
  muted := unit.muted
  effect := parseSourceEffect unit.fx
  errorLevel := unit.err
  stereoMode := unit.stereoMode

/-- The orders in which one tick walks its hash maps. -/
structure TickOrders where
  txCache : IterationOrder (UInt32 × TxCacheEntry) := .stored
  nameToUid : IterationOrder (Bytes × Bytes) := .stored
  solver : State.SolverOrders := {}
  paths : IterationOrder (UInt32 × RemoteSourcePaths) := .stored

namespace RadioTxAnnouncer

def changed (a : RadioTxAnnouncer) (tx : State.LocalTxState) (range : UInt16) : Bool :=
  tx.active != a.sentActive ||
    (tx.active && (tx.freq != a.sentFreq || range != a.sentRange || tx.subtype != a.sentSubtype))

/-- Whether this tick sends, and how often a stop remains to be repeated. -/
def schedule (a : RadioTxAnnouncer) (now : Time) (tx : State.LocalTxState) (range : UInt16) :
    Bool × Nat :=
  if a.changed tx range then (true, if tx.active then a.inactiveRepeatsLeft else 2)
  else if !tx.active && decide (0 < a.inactiveRepeatsLeft) then (true, a.inactiveRepeatsLeft - 1)
  else (tx.active && decide (now - a.lastSend ≥ milliseconds 500), a.inactiveRepeatsLeft)

def announce (a : RadioTxAnnouncer) (now : Time) (tx : State.LocalTxState) (range : UInt16) :
    RadioTxAnnouncer × Bool :=
  let (send, inactiveRepeatsLeft) := a.schedule now tx range
  if send then
    ({ sentActive := tx.active
       sentFreq := tx.freq
       sentSubtype := tx.subtype
       sentRange := range
       lastSend := now
       inactiveRepeatsLeft }, true)
  else ({ a with inactiveRepeatsLeft }, false)

end RadioTxAnnouncer

namespace Globals

/-- The settings that SETCFG stored, for the voice session. -/
def applySettings (g : Globals) : Globals :=
  let s := g.state.setVoiceConnected g.voice.network.connected
  let v := g.voice.setServer (s.voiceConfigString "voice_serverHost" [])
    (parsePort (s.configFloat "voice_serverPort" 9987))
    (s.voiceConfigString "voice_serverPassword" [])
  let transmit :=
    { v.transmit with
      micVolume := s.configFloat "voice_micVolume" 1
      vadThreshold := s.configFloat "voice_vadThreshold" 0.005
      noiseSuppressionEnabled := s.configBool "voice_noiseSuppression" true
      mode := parseTransmitMode (s.configFloat "voice_transmitMode" 1) }
  let playback := v.playback.setMasterVolume (s.configFloat "voice_speakerVolume" 1)
  { g with state := s, voice := { v with transmit, playback } }

def applyIdentity (g : Globals) : Globals :=
  let s := g.state.setLocalTransmitting g.voice.transmit.isTransmitting
  { g with state := s, voice := g.voice.setIdentity s.myUid s.myNickname }

/-- The range on the wire. -/
def clampedRange (range : Float32) : UInt16 := (clampf range 0 65535).toUInt16

/-- What is sent about the local transmission. -/
def announceLocalTx (g : Globals) (now : Time) : Globals × List (Nat × Bytes) :=
  let tx := g.state.localTxState
  let range := clampedRange tx.range
  let (announcer, send) := g.announcer.announce now tx range
  ({ g with announcer },
    if send then g.voice.network.sendRadioTx tx.active tx.freq range tx.subtype else [])

def pushRemoteTx (now : Time) (order : IterationOrder (Bytes × Bytes)) (s : State)
    (tx : RadioTxInfo) : State :=
  s.setRemoteTx now order tx.uid tx.active tx.freq (Float32.ofNat tx.range.toNat) tx.subtype

/-- What others transmit, for the solver. -/
def relayRemoteTx (g : Globals) (now : Time) (orders : TickOrders) : Globals :=
  { g with
    state := (g.voice.currentRadioTx now orders.txCache).foldl (pushRemoteTx now orders.nameToUid)
      g.state }

/-- The cue for the start or the end of the local transmission. -/
def localBeep (g : Globals) : Globals × Option (Bytes × Bool) :=
  let tx := g.state.localTxState
  let beep :=
    if tx.active != g.beepEdge.lastActive then
      some (if tx.active then tx.subtype else g.beepEdge.lastSubtype, tx.active)
    else none
  let lastSubtype := if tx.active then tx.subtype else g.beepEdge.lastSubtype
  ({ g with beepEdge := { lastActive := tx.active, lastSubtype } }, beep)

def applyOverride (g : Globals) : Globals :=
  let (state, change) := g.state.takeTransmitOverride
  match change with
  | none => { g with state }
  | some newOverride =>
      { g with
        state
        voice := g.voice.setAddonOverride newOverride.isSome (newOverride.getD false) }

def applySolver (g : Globals) (now : Time) (orders : TickOrders) : Globals :=
  let (state, units) := g.state.computeAudibleUnits now orders.solver
  { g with state, voice := g.voice.applyAudibility orders.paths (units.map toUpdate) }

/-- A tick up to the solver. -/
def beforeSolver (g : Globals) (now : Time) (orders : TickOrders) : Globals :=
  let g := g.applySettings.applyIdentity
  let g := (g.announceLocalTx now).1
  let g := (g.relayRemoteTx now orders).localBeep.1
  g.applyOverride

/-- One round of `senderMain`. -/
def tick (g : Globals) (now : Time) (orders : TickOrders) : Globals :=
  (g.beforeSolver now orders).applySolver now orders

/-- The datagrams of a tick. -/
def tickSends (g : Globals) (now : Time) : List (Nat × Bytes) :=
  (g.applySettings.applyIdentity.announceLocalTx now).2

end Globals

end TaskForceRadio.Extension
