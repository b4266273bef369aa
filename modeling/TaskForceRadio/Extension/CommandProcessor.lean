import TaskForceRadio.Client.VoiceSession
import TaskForceRadio.Extension.Solver

/-!
# The command processor

`CommandProcessor::process`: the answer of the extension to one call from SQF. The globals are
the state, the voice session and what `senderMain` keeps from tick to tick.
-/

set_option autoImplicit false

namespace TaskForceRadio.Extension

open Voice (Time milliseconds seconds VoiceSession TransmitMode SourceEffect AudibilityUpdate)

/-- The statics of the radio relay: what was announced last. -/
structure RadioTxAnnouncer where
  sentActive : Bool := false
  sentFreq : Bytes := []
  sentSubtype : Bytes := []
  sentRange : UInt16 := 0
  lastSend : Time := 0
  inactiveRepeatsLeft : Nat := 0
  deriving DecidableEq, Repr

/-- The statics of the local beep. -/
structure LocalBeepEdge where
  lastActive : Bool := false
  lastSubtype : Bytes := []
  deriving DecidableEq, Repr

structure Globals where
  state : State := {}
  voice : VoiceSession := {}
  disconnectedSince : Time := 0
  announcer : RadioTxAnnouncer := {}
  beepEdge : LocalBeepEdge := {}

def kPluginVersion : Bytes := ascii "TFRS-1.0.0"

def kNotConnected : Bytes := ascii "Not connected to TeamSpeak"
def kNotConnectedGrace : Time := seconds 10

def tab : UInt8 := 0x09

/-- The marker at the end of an asynchronous call. -/
def tilde : UInt8 := 0x7E

def firstToken (payload : Bytes) : Bytes := payload.takeWhile (fun b => b != tab)

namespace Globals

def mapState (g : Globals) (f : State → State) : Globals := { g with state := f g.state }

/-- `opusVersion` is what the codec library reports. -/
def processSync (g : Globals) (opusVersion command payload : Bytes) : Bytes :=
  if command = ascii "TS_INFO" then
    match splitLimit payload tab 2 with
    | _ :: sub :: _ => g.state.tsInfo kPluginVersion opusVersion sub
    | _ => ascii "FAIL"
  else if command = ascii "IS_SPEAKING" then
    match splitLimit payload tab 2 with
    | _ :: nickname :: _ => g.state.speakingPair nickname
    | _ => ascii "00"
  else if command = ascii "MUTE_STATE" then
    let flag (b : Bool) : Bytes := if b then ascii "1" else ascii "0"
    flag g.voice.transmit.micMuted ++ flag g.voice.playback.muted ++
      flag g.voice.transmit.isTransmitting
  else if command = ascii "IS_SPEAKING_BULK" then
    ((split payload tab).drop 1).flatMap (fun nickname => g.state.speakingPair nickname ++ [tab])
  else ascii "UNKNOWN COMMAND"

/-- TRACK, collectDebugInfo and unknown commands do nothing. -/
def processAsync (g : Globals) (now : Time) (command payload : Bytes) : Globals :=
  if command = ascii "POS" then g.mapState (fun s => s.handlePos now (split payload tab))
  else if command = ascii "FREQ" then g.mapState (fun s => s.handleFreq (split payload tab))
  else if command = ascii "TANGENT" ∨ command = ascii "TANGENT_LR" ∨
      command = ascii "TANGENT_DD" then
    g.mapState (fun s => s.handleTangent (split payload tab))
  else if command = ascii "SPEAKERS" then
    g.mapState (fun s => s.handleSpeakers (splitLimit payload tab 2))
  else if command = ascii "SETCFG" then
    g.mapState (fun s => s.handleSetCfg (splitLimit payload tab 4))
  else if command = ascii "KILLED" then
    match splitLimit payload tab 2 with
    | _ :: nickname :: _ => g.mapState (fun s => s.handleKilled nickname)
    | _ => g
  else if command = ascii "UID" then
    match splitLimit payload tab 3 with
    | _ :: nickname :: uid :: _ => g.mapState (fun s => s.handleUid nickname uid)
    | _ => g
  else if command = ascii "RELEASE_ALL_TANGENTS" then
    g.mapState (fun s => s.handleReleaseAllTangents ((splitLimit payload tab 2).getD 1 []))
  else if command = ascii "RadioTwrAdd" then
    match splitLimit payload tab 2 with
    | _ :: towers :: _ => g.mapState (fun s => s.handleAddRadioTowers towers)
    | _ => g
  else if command = ascii "RadioTwrDel" then
    match splitLimit payload tab 2 with
    | _ :: towers :: _ => g.mapState (fun s => s.handleDelRadioTowers towers)
    | _ => g
  else if command = ascii "DFRAME" then g.mapState State.handleDataFrame
  else if command = ascii "MISSIONEND" then g.mapState State.handleMissionEnd
  else if command = ascii "MICPTT" then
    match splitLimit payload tab 2 with
    | _ :: key :: _ => { g with voice := g.voice.setPttHeld (key == ascii "PRESSED") }
    | _ => g
  else if command = ascii "MICMUTE" then { g with voice := g.voice.toggleMicMute }
  else if command = ascii "SPEAKERMUTE" then { g with voice := g.voice.toggleSpeakerMute }
  else g

/-- What POS answers: the outage is reported once it has lasted long enough. -/
def answerPos (g : Globals) (now : Time) : Globals × Bytes :=
  if g.voice.network.connected then ({ g with disconnectedSince := 0 }, ascii "OK")
  else if g.disconnectedSince = 0 then ({ g with disconnectedSince := now }, ascii "OK")
  else if now - g.disconnectedSince ≥ kNotConnectedGrace then (g, kNotConnected)
  else (g, ascii "OK")

def process (g : Globals) (now : Time) (opusVersion input : Bytes) : Globals × Bytes :=
  if input = [] then (g, [])
  else if input.getLast? ≠ some tilde then
    (g, g.processSync opusVersion (firstToken input) input)
  else
    let payload := input.dropLast
    let command := firstToken payload
    let g := g.processAsync now command payload
    if command = ascii "DFRAME" then
      let (state, needed) := g.state.needsConfig now
      ({ g with state }, if needed then ascii "NEEDCFG" else ascii "OK")
    else if command = ascii "MISSIONEND" then (g, [])
    else if command = ascii "POS" then g.answerPos now
    else (g, ascii "OK")

end Globals

end TaskForceRadio.Extension
