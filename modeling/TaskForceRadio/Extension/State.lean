import Mathlib.Data.Finset.Basic
import TaskForceRadio.Client.VoiceNetworkClient
import TaskForceRadio.Extension.Util
import TaskForceRadio.Foundation.Dictionary

/-!
# The state of the extension

`State` and the handlers of the legacy SQF protocol. A handler gets the tokens of its command;
handlers that read the clock get the time.
-/

set_option autoImplicit false

namespace TaskForceRadio.Extension

open Voice (Time milliseconds seconds)

def kClientExpiry : Time := milliseconds 6000
def kTxExpiry : Time := milliseconds 1500

def kValidConfigKeys : List Bytes :=
  ["full_duplex", "addon_version", "intercomVolume", "intercomEnabled", "pluginTimeout",
    "headsetLowered", "spectatorNotHearEnemies", "spectatorCanHearFriendlies",
    "tangentReleaseDelay", "moveWhileTabbedOut", "intercomDucking", "minimumPluginVersion",
    "objectInterceptionStrength", "voiceCone", "allowDebugging", "noAutomoveSpectator",
    "disableAutomaticMute", "muteSpectators", "voice_serverHost", "voice_serverPort",
    "voice_serverPassword", "voice_micVolume", "voice_speakerVolume", "voice_vadThreshold",
    "voice_transmitMode", "voice_noiseSuppression"].map ascii

def isValidConfigKey (key : Bytes) : Bool := kValidConfigKeys.contains key

structure FreqSetting where
  volume : Int := 0
  stereoMode : Int := 0
  radioClassname : Bytes := []
  deriving DecidableEq, Repr

structure VehicleDesc where
  name : Bytes := ascii "no"
  isolation : Float32 := 0
  intercomSlot : Int := -1
  velocity : Vec3 := {}
  deriving DecidableEq, Repr

structure RemoteClient where
  nickname : Bytes := []
  position : Vec3 := {}
  viewDirection : Vec3 := {}
  canSpeak : Bool := true
  canUseSW : Bool := false
  canUseLR : Bool := false
  canUseDD : Bool := false
  vehicle : VehicleDesc := {}
  terrainInterception : Int := 0
  voiceVolumeMultiplier : Float32 := 1
  speakRangeMeters : Float32 := 20
  objectInterception : Int := 0
  isSpectating : Bool := false
  isEnemyToPlayer : Bool := false
  dead : Bool := false
  lastUpdate : Time := 0
  deriving DecidableEq, Repr

structure SpeakerData where
  radioId : Bytes
  frequencies : List Bytes
  ownerNickname : Bytes
  pos : Vec3 := {}
  volume : Int := 0
  vehicle : VehicleDesc := {}
  waveZ : Float32 := 0
  deriving DecidableEq, Repr

structure AntennaData where
  netId : Bytes
  pos : Vec3 := {}
  range : Float32 := 0
  deriving DecidableEq, Repr

/-- What a remote player is transmitting. -/
structure RemoteTx where
  nickname : Bytes
  frequency : Bytes
  range : Float32 := 0
  subtype : Bytes
  received : Time
  deriving DecidableEq, Repr

structure State where
  clients : Dictionary Bytes RemoteClient := ∅
  myNickname : Bytes := []
  swFrequencies : Dictionary Bytes FreqSetting := ∅
  lrFrequencies : Dictionary Bytes FreqSetting := ∅
  alive : Bool := false
  speakVolumeMeters : Int := 20
  wavesLevel : Float32 := 0
  terrainInterceptionCoefficient : Float32 := 7
  globalVolume : Float32 := 1
  receivingDistanceMultiplicator : Float32 := 1
  speakerDistance : Float32 := 20
  tangentPressed : Bool := false
  tangentIsLr : Bool := false
  txFrequency : Bytes := []
  txSubtype : Bytes := []
  txRadioClassname : Bytes := []
  txRange : Float32 := 0
  speakers : List SpeakerData := []
  antennas : List AntennaData := []
  config : Dictionary Bytes Bytes := ∅
  voiceConnected : Bool := false
  statusTransmitting : Bool := false
  nameToUid : Dictionary Bytes Bytes := ∅
  talkingNames : Finset Bytes := ∅
  remoteTx : Dictionary Bytes RemoteTx := ∅
  haveConfig : Bool := false
  configRequestedAt : Time := 0
  receivingFrom : Finset Bytes := ∅
  receivingAnyRadio : Bool := false
  lrIncoming : Bool := false
  lrIncomingPending : Bool := false
  pendingTransmitOverride : Option (Option Bool) := none

/-- `name`, `isolation`, `slot` and, since later versions, `velocity`; `no` and records that are
too short are no vehicle. -/
def parseVehicle (vehicleId : Bytes) : VehicleDesc :=
  if vehicleId = [] ∨ vehicleId = ascii "no" then {}
  else
    match split vehicleId 0x10 with
    | name :: isolation :: slot :: more =>
        { name
          isolation := if isolation = ascii "turnout" then 0 else parseArmaNumber isolation
          intercomSlot := parseArmaNumberToInt slot
          velocity :=
            match more with
            | velocity :: _ => parseVec3 velocity
            | [] => {} }
    | _ => {}

/-- The text between the first and the last character. -/
def stripEnds (s : Bytes) : Bytes := (s.drop 1).take (s.length - 2)

/-- One entry of a frequency list. -/
def insertFrequency (result : Dictionary Bytes FreqSetting) (entry : Bytes) :
    Dictionary Bytes FreqSetting :=
  if entry.length < 2 then result
  else
    match split (stripEnds entry) 0x7C with
    | [frequency, volume, stereoMode] =>
        let setting : FreqSetting :=
          { volume := parseArmaNumberToInt volume, stereoMode := parseArmaNumberToInt stereoMode }
        result.insert frequency setting
    | [frequency, volume, stereoMode, radioClassname] =>
        let setting : FreqSetting :=
          { volume := parseArmaNumberToInt volume
            stereoMode := parseArmaNumberToInt stereoMode
            radioClassname }
        result.insert frequency setting
    | _ => result

def parseFrequencies (raw : Bytes) : Dictionary Bytes FreqSetting :=
  if raw.length < 2 then ∅
  else if stripEnds raw = [] then ∅
  else (split (stripEnds raw) 0x2C).foldl insertFrequency ∅

def parseSpeaker (block : Bytes) : Option SpeakerData :=
  if block = [] then none
  else
    match split block 0x0A with
    | radioId :: freqs :: nickname :: pos :: volume :: vehicle :: more =>
        let pos := parseVec3 pos
        some
          { radioId
            frequencies := split freqs 0x7C
            ownerNickname := convertNickname nickname
            pos
            volume := parseArmaNumberToInt volume
            vehicle := parseVehicle vehicle
            waveZ :=
              match more with
              | waveZ :: _ => parseArmaNumber waveZ
              | [] => if pos.isNull then 1 else pos.z }
    | _ => none

def parseAntenna (entry : Bytes) : Option AntennaData :=
  if entry = [] then none
  else
    match split entry 0x3B with
    | [netId, range, pos] =>
        if netId = [] then none
        else some { netId, range := parseArmaNumber range, pos := parseVec3 pos }
    | _ => none

namespace State

def queueLocalMessage (s : State) (value : Option Bool) : State :=
  { s with pendingTransmitOverride := some value }

def takeTransmitOverride (s : State) : State × Option (Option Bool) :=
  ({ s with pendingTransmitOverride := none }, s.pendingTransmitOverride)

/-- The record of a POS over the one that is known already. -/
def posClient (known : RemoteClient) (now : Time) (tokens : List Bytes) : RemoteClient :=
  let token (i : Nat) : Bytes := tokens.getD i []
  { known with
    nickname := convertNickname (token 1)
    position := parseVec3 (token 2)
    viewDirection := parseVec3 (token 3)
    canSpeak := isTrue (token 4)
    canUseSW := isTrue (token 5)
    canUseLR := isTrue (token 6)
    canUseDD := isTrue (token 7)
    vehicle := parseVehicle (token 8)
    terrainInterception := parseArmaNumberToInt (token 9)
    voiceVolumeMultiplier := parseArmaNumber (token 10)
    objectInterception := parseArmaNumberToInt (token 11)
    isSpectating := isTrue (token 12)
    isEnemyToPlayer := isTrue (token 13)
    speakRangeMeters :=
      if 15 ≤ tokens.length then
        if parseArmaNumber (token 14) > 0 then parseArmaNumber (token 14) else 20
      else known.speakRangeMeters
    dead := false
    lastUpdate := now }

def handlePos (s : State) (now : Time) (tokens : List Bytes) : State :=
  if tokens.length < 14 then s
  else
    let nickname := convertNickname (tokens.getD 1 [])
    if nickname = [] then s
    else
      let client := posClient ((s.clients.lookup nickname).getD {}) now tokens
      { s with clients := s.clients.insert nickname client }

/-- The fields that FREQ sets. -/
def readFreq (s : State) (tokens : List Bytes) : State :=
  let token (i : Nat) : Bytes := tokens.getD i []
  let volume := parseArmaNumberToInt (token 4)
  let multiplicator := parseArmaNumber (token 9)
  { s with
    swFrequencies := parseFrequencies (token 1)
    lrFrequencies := parseFrequencies (token 2)
    alive := token 3 == ascii "true"
    speakVolumeMeters := if volume ≤ 0 then 20 else volume
    myNickname := convertNickname (token 5)
    wavesLevel := parseArmaNumber (token 6)
    terrainInterceptionCoefficient := parseArmaNumber (token 7)
    globalVolume := parseArmaNumber (token 8)
    receivingDistanceMultiplicator := if multiplicator ≤ 0 then 1 else multiplicator
    speakerDistance := parseArmaNumber (token 10) }

def handleFreq (s : State) (tokens : List Bytes) : State :=
  if tokens.length < 11 then s
  else
    let s' := s.readFreq tokens
    if !s.alive && s'.alive then s'.queueLocalMessage none else s'

/-- `!(range >= 0)` also catches NaN. -/
def clampRange (range : Float32) : Float32 :=
  let range := if range ≥ 0 then range else 0
  if range > 200000 then 200000 else range

def handleTangent (s : State) (tokens : List Bytes) : State :=
  if tokens.length < 5 then s
  else
    let token (i : Nat) : Bytes := tokens.getD i []
    let pressed := token 1 == ascii "PRESSED"
    if pressed = s.tangentPressed ∧ s.txFrequency = token 2 then s
    else
      let s' :=
        { s with
          tangentPressed := pressed
          tangentIsLr := token 0 == ascii "TANGENT_LR"
          txFrequency := token 2
          txSubtype := token 4
          txRange := if pressed then clampRange (parseArmaNumber (token 3)) else 0
          txRadioClassname := if pressed then token 5 else [] }
      s'.queueLocalMessage (if pressed then some true else none)

def handleSpeakers (s : State) (tokens : List Bytes) : State :=
  if tokens.length < 2 ∨ tokens.getD 1 [] = [] then { s with speakers := [] }
  else { s with speakers := (split (tokens.getD 1 []) 0x0B).filterMap parseSpeaker }

def handleSetCfg (s : State) (tokens : List Bytes) : State :=
  if tokens.length < 3 then s
  else
    let token (i : Nat) : Bytes := tokens.getD i []
    if !isValidConfigKey (token 1) then s
    else
      let value :=
        if 4 ≤ tokens.length ∧ token 3 = ascii "BOOL" then
          if token 2 = ascii "true" ∨ token 2 = ascii "TRUE" then ascii "true" else ascii "false"
        else token 2
      { s with config := s.config.insert (token 1) value, haveConfig := true }

def markDead (s : State) (name : Bytes) : State :=
  match s.clients.lookup name with
  | none => s
  | some client => { s with clients := s.clients.insert name { client with dead := true } }

def handleKilled (s : State) (nickname : Bytes) : State :=
  let name := convertNickname nickname
  let s := s.markDead name
  if name ≠ [] ∧ name = s.myNickname then
    queueLocalMessage
      { s with
        alive := false
        tangentPressed := false
        txRange := 0
        txFrequency := []
        txRadioClassname := [] } (some false)
  else s

def handleUid (s : State) (nickname uid : Bytes) : State :=
  let name := convertNickname nickname
  if name = [] ∨ uid = [] then s else { s with nameToUid := s.nameToUid.insert name uid }

def handleReleaseAllTangents (s : State) (nickname : Bytes) : State :=
  let name := convertNickname nickname
  if name ≠ [] ∧ s.myNickname ≠ [] ∧ name ≠ s.myNickname then s
  else
    queueLocalMessage
      { s with tangentPressed := false, txRange := 0, txFrequency := [], txRadioClassname := [] }
      none

/-- A known netId is replaced in place. -/
def addAntenna (antennas : List AntennaData) (antenna : AntennaData) : List AntennaData :=
  match antennas.findIdx? (fun a => a.netId = antenna.netId) with
  | some i => antennas.set i antenna
  | none => antennas ++ [antenna]

def handleAddRadioTowers (s : State) (payload : Bytes) : State :=
  if payload = [] then s
  else
    { s with antennas := ((split payload 0x0A).filterMap parseAntenna).foldl addAntenna s.antennas }

def deleteAntenna (antennas : List AntennaData) (entry : Bytes) : List AntennaData :=
  if entry = [] then antennas else antennas.eraseP (fun a => a.netId = entry)

def handleDelRadioTowers (s : State) (payload : Bytes) : State :=
  if payload = [] then s
  else { s with antennas := (split payload 0x0A).foldl deleteAntenna s.antennas }

def handleDataFrame (s : State) : State := s

def handleMissionEnd (s : State) : State :=
  queueLocalMessage
    { s with
      clients := ∅
      speakers := []
      antennas := []
      swFrequencies := ∅
      lrFrequencies := ∅
      remoteTx := ∅
      receivingFrom := ∅
      receivingAnyRadio := false
      tangentPressed := false
      txFrequency := []
      txRadioClassname := []
      txRange := 0
      alive := false
      haveConfig := false
      configRequestedAt := 0 } none

section Frames
variable (s : State)

theorem handlePos_frame (now : Time) (tokens : List Bytes) :
    s.handlePos now tokens = { s with clients := (s.handlePos now tokens).clients } := by
  unfold handlePos
  split
  · rfl
  · dsimp only
    split <;> rfl

theorem handleFreq_frame (tokens : List Bytes) :
    s.handleFreq tokens =
      { s with
        swFrequencies := (s.handleFreq tokens).swFrequencies
        lrFrequencies := (s.handleFreq tokens).lrFrequencies
        alive := (s.handleFreq tokens).alive
        speakVolumeMeters := (s.handleFreq tokens).speakVolumeMeters
        myNickname := (s.handleFreq tokens).myNickname
        wavesLevel := (s.handleFreq tokens).wavesLevel
        terrainInterceptionCoefficient := (s.handleFreq tokens).terrainInterceptionCoefficient
        globalVolume := (s.handleFreq tokens).globalVolume
        receivingDistanceMultiplicator := (s.handleFreq tokens).receivingDistanceMultiplicator
        speakerDistance := (s.handleFreq tokens).speakerDistance
        pendingTransmitOverride := (s.handleFreq tokens).pendingTransmitOverride } := by
  unfold handleFreq
  split
  · rfl
  · dsimp only
    split <;> rfl

theorem handleTangent_frame (tokens : List Bytes) :
    s.handleTangent tokens =
      { s with
        tangentPressed := (s.handleTangent tokens).tangentPressed
        tangentIsLr := (s.handleTangent tokens).tangentIsLr
        txFrequency := (s.handleTangent tokens).txFrequency
        txSubtype := (s.handleTangent tokens).txSubtype
        txRange := (s.handleTangent tokens).txRange
        txRadioClassname := (s.handleTangent tokens).txRadioClassname
        pendingTransmitOverride := (s.handleTangent tokens).pendingTransmitOverride } := by
  unfold handleTangent
  split
  · rfl
  · dsimp only
    split <;> rfl

theorem handleSpeakers_frame (tokens : List Bytes) :
    s.handleSpeakers tokens = { s with speakers := (s.handleSpeakers tokens).speakers } := by
  simp only [handleSpeakers]
  split <;> rfl

theorem handleSetCfg_frame (tokens : List Bytes) :
    s.handleSetCfg tokens =
      { s with
        config := (s.handleSetCfg tokens).config
        haveConfig := (s.handleSetCfg tokens).haveConfig } := by
  unfold handleSetCfg
  split
  · rfl
  · dsimp only
    split <;> rfl

theorem markDead_frame (name : Bytes) :
    s.markDead name = { s with clients := (s.markDead name).clients } := by
  simp only [markDead]
  split <;> rfl

theorem handleKilled_frame (nickname : Bytes) :
    s.handleKilled nickname =
      { s with
        clients := (s.handleKilled nickname).clients
        alive := (s.handleKilled nickname).alive
        tangentPressed := (s.handleKilled nickname).tangentPressed
        txRange := (s.handleKilled nickname).txRange
        txFrequency := (s.handleKilled nickname).txFrequency
        txRadioClassname := (s.handleKilled nickname).txRadioClassname
        pendingTransmitOverride := (s.handleKilled nickname).pendingTransmitOverride } := by
  simp only [handleKilled]
  rw [markDead_frame]
  split <;> rfl

theorem handleUid_frame (nickname uid : Bytes) :
    s.handleUid nickname uid = { s with nameToUid := (s.handleUid nickname uid).nameToUid } := by
  simp only [handleUid]
  split <;> rfl

theorem handleReleaseAllTangents_frame (nickname : Bytes) :
    s.handleReleaseAllTangents nickname =
      { s with
        tangentPressed := (s.handleReleaseAllTangents nickname).tangentPressed
        txRange := (s.handleReleaseAllTangents nickname).txRange
        txFrequency := (s.handleReleaseAllTangents nickname).txFrequency
        txRadioClassname := (s.handleReleaseAllTangents nickname).txRadioClassname
        pendingTransmitOverride :=
          (s.handleReleaseAllTangents nickname).pendingTransmitOverride } := by
  simp only [handleReleaseAllTangents]
  split <;> rfl

theorem handleAddRadioTowers_frame (payload : Bytes) :
    s.handleAddRadioTowers payload =
      { s with antennas := (s.handleAddRadioTowers payload).antennas } := by
  simp only [handleAddRadioTowers]
  split <;> rfl

theorem handleDelRadioTowers_frame (payload : Bytes) :
    s.handleDelRadioTowers payload =
      { s with antennas := (s.handleDelRadioTowers payload).antennas } := by
  simp only [handleDelRadioTowers]
  split <;> rfl

end Frames

def speakingPair (s : State) (nickname : Bytes) : Bytes :=
  let name := convertNickname nickname
  match s.clients.lookup name with
  | none => ascii "00"
  | some _ =>
      let isMe := s.myNickname ≠ [] ∧ name = s.myNickname
      let speaking := name ∈ s.talkingNames ∨ isMe ∧ (s.tangentPressed ∨ s.statusTransmitting)
      let receiving := if isMe then s.receivingAnyRadio = true else name ∈ s.receivingFrom
      (if speaking then ascii "1" else ascii "0") ++ (if receiving then ascii "1" else ascii "0")

/-- `pluginVersion` and `opusVersion` are constants of the build. -/
def tsInfo (s : State) (pluginVersion opusVersion sub : Bytes) : Bytes :=
  if sub = ascii "SERVER" then ascii "TFRS Voice Server"
  else if sub = ascii "SERVERUID" then ascii "TFRS"
  else if sub = ascii "CHANNEL" then ascii "TFRS"
  else if sub = ascii "CHANNELID" then ascii "0"
  else if sub = ascii "VERSION" then pluginVersion
  else if sub = ascii "OPUSVER" then opusVersion
  else if sub = ascii "PING" then (if s.voiceConnected then ascii "PONG" else [])
  else ascii "FAIL"

def needsConfig (s : State) (now : Time) : State × Bool :=
  if s.haveConfig then (s, false)
  else if s.configRequestedAt ≠ 0 ∧ now - s.configRequestedAt < seconds 3 then (s, false)
  else ({ s with configRequestedAt := now }, true)

/-- The nickname stands in for a uid that is not known. -/
def uidFor (s : State) (nickname : Bytes) : Bytes := (s.nameToUid.lookup nickname).getD nickname

def myUid (s : State) : Bytes :=
  if s.myNickname = [] then []
  else
    match s.nameToUid.lookup s.myNickname with
    | some uid => if uid = [] then s.myNickname else uid
    | none => s.myNickname

def setLocalTransmitting (s : State) (transmitting : Bool) : State :=
  { s with statusTransmitting := transmitting }

def setVoiceConnected (s : State) (connected : Bool) : State :=
  { s with voiceConnected := connected }

/-- The nickname a uid is attributed to: the first one that maps to it, else the uid itself if a
client has that name. -/
def nameOf (s : State) (order : IterationOrder (Bytes × Bytes)) (uid : Bytes) : Bytes :=
  let name := (Dictionary.firstKeyOf order s.nameToUid uid).getD []
  if name = [] ∧ (s.clients.lookup uid).isSome then uid else name

def setRemoteTx (s : State) (now : Time) (order : IterationOrder (Bytes × Bytes)) (uid : Bytes)
    (active : Bool) (freq : Bytes) (range : Float32) (subtype : Bytes) : State :=
  if uid = [] then s
  else
    let name := s.nameOf order uid
    if name = [] then s
    else if active = false ∨ freq = [] then { s with remoteTx := s.remoteTx.erase name }
    else
      let tx : RemoteTx := { nickname := name, frequency := freq, range, subtype, received := now }
      { s with remoteTx := s.remoteTx.insert name tx }

/-- Nothing but the filed transmissions changes. -/
theorem setRemoteTx_frame (s : State) (now : Time) (order : IterationOrder (Bytes × Bytes))
    (uid : Bytes) (active : Bool) (freq : Bytes) (range : Float32) (subtype : Bytes) :
    s.setRemoteTx now order uid active freq range subtype =
      { s with remoteTx := (s.setRemoteTx now order uid active freq range subtype).remoteTx } := by
  unfold setRemoteTx
  split
  · rfl
  · dsimp only
    split
    · rfl
    · split <;> rfl

def configBool (s : State) (key : String) (fallback : Bool) : Bool :=
  match s.config.lookup (ascii key) with
  | none => fallback
  | some value => value == ascii "true" || value == ascii "1"

def configFloat (s : State) (key : String) (fallback : Float32) : Float32 :=
  match s.config.lookup (ascii key) with
  | none => fallback
  | some value => parseArmaNumber value

def voiceConfigString (s : State) (key : String) (fallback : Bytes) : Bytes :=
  (s.config.lookup (ascii key)).getD fallback

structure LocalTxState where
  active : Bool := false
  freq : Bytes := []
  range : Float32 := 0
  subtype : Bytes := []
  deriving DecidableEq, Repr

def localTxState (s : State) : LocalTxState :=
  if s.tangentPressed then
    { active := true, freq := s.txFrequency, range := s.txRange, subtype := s.txSubtype }
  else {}

end State

end TaskForceRadio.Extension
