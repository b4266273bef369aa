import TaskForceRadio.Extension.Command
import TaskForceRadio.Extension.Tokens

/-!
# Records of the SQF side

FREQ, SPEAKERS and POS: `sendFrequencyInfo`, `sendSpeakerRadios` and
`preparePositionCoordinates`, from what the game answers to the text of the call. How often they
run is left out.
-/

set_option autoImplicit false

namespace TaskForceRadio.Addon

open Extension

def newLine : UInt8 := 0x0A
def verticalTab : UInt8 := 0x0B
def dataLinkEscape : UInt8 := 0x10
def bar : UInt8 := 0x7C
def comma : UInt8 := 0x2C
def quote : UInt8 := 0x22

def delimiters : List UInt8 := [tab, newLine, verticalTab, dataLinkEscape, bar, comma, quote]

def DelimiterFree (s : Bytes) : Prop := ∀ b ∈ delimiters, b ∉ s

instance (s : Bytes) : Decidable (DelimiterFree s) :=
  List.decidableBAll (fun b => b ∉ s) delimiters

structure PlainText where
  text : Bytes
  plain : DelimiterFree text

theorem DelimiterFree.append {s t : Bytes} (hs : DelimiterFree s) (ht : DelimiterFree t) :
    DelimiterFree (s ++ t) := by
  intro b hb hmem
  rcases List.mem_append.mp hmem with h | h
  · exact hs b hb h
  · exact ht b hb h

def PlainText.append (s t : PlainText) : PlainText := ⟨s.text ++ t.text, s.plain.append t.plain⟩

/-- A number, the text that SQF prints for it, and that the text reads back. -/
structure SqfNumber where
  text : Bytes
  plain : DelimiterFree text
  value : Float32
  reads : strtof text = value

namespace SqfNumber

def zero : SqfNumber := ⟨ascii "0", by decide, 0, by decide +kernel⟩
def one : SqfNumber := ⟨ascii "1", by decide, 1, by decide +kernel⟩
def minusOne : SqfNumber := ⟨ascii "-1", by decide, -1, by decide +kernel⟩

def min (a b : SqfNumber) : SqfNumber := if b.value < a.value then b else a

end SqfNumber

structure SqfVector where
  x : SqfNumber
  y : SqfNumber
  z : SqfNumber

/-- A string inside a printed array. -/
def quoted (s : Bytes) : Bytes := quote :: (s ++ [quote])

def arrayText (elements : List Bytes) : Bytes := 0x5B :: (joinTokens comma elements ++ [0x5D])

def boolText (b : Bool) : Bytes := if b then ascii "true" else ascii "false"

def SqfVector.text (v : SqfVector) : Bytes := arrayText [v.x.text, v.y.text, v.z.text]

/-- The text of an asynchronous call. -/
def request (command : String) (fields : List Bytes) : Bytes :=
  joinTokens tab (ascii command :: fields) ++ [tilde]

/-- One channel of a radio of the headset. -/
structure RadioEntry where
  frequency : PlainText
  volume : SqfNumber
  stereo : SqfNumber
  classname : PlainText

def RadioEntry.fields (e : RadioEntry) : List Bytes :=
  [e.frequency.text, e.volume.text, e.stereo.text, e.classname.text]

def RadioEntry.text (e : RadioEntry) : Bytes := joinTokens bar e.fields

/-- A radio of the unit, with the answers of its getters. -/
structure HeadsetRadio where
  radioOn : Bool
  speakers : Bool
  frequency : PlainText
  radioCode : PlainText
  volume : SqfNumber
  stereo : SqfNumber
  channel : Int
  additionalChannel : Int
  additionalFrequency : PlainText
  additionalStereo : SqfNumber
  classname : PlainText

/-- Nothing is ever put into `_playerRadios`, so a radio on speaker is never on the headset. -/
def HeadsetRadio.entries (radio : HeadsetRadio) : List RadioEntry :=
  if radio.radioOn && !radio.speakers then
    let entry (frequency : PlainText) (stereo : SqfNumber) : RadioEntry :=
      { frequency := frequency.append radio.radioCode
        volume := radio.volume
        stereo
        classname := radio.classname }
    entry radio.frequency radio.stereo ::
      if radio.additionalChannel > -1 ∧ radio.additionalChannel ≠ radio.channel then
        [entry radio.additionalFrequency radio.additionalStereo]
      else []
  else []

/-- The radios of one kind. -/
structure RadioSet where
  radios : List HeadsetRadio
  playerRadios : List HeadsetRadio
  canUse : Bool

/-- What `sendFrequencyInfo` reads. -/
structure FrequencyInfo where
  currentUnitIsRemote : Bool
  forceSpectator : Bool
  sw : RadioSet
  lr : RadioSet
  alive : Bool
  speakVolumeMeters : SqfNumber
  maxVoiceVolume : SqfNumber
  playerName : PlainText
  profileName : PlainText
  unitName : Option PlainText
  waves : SqfNumber
  terrainInterceptionCoefficient : SqfNumber
  globalVolume : SqfNumber
  receivingDistanceMultiplicator : SqfNumber
  speakerDistance : SqfNumber

namespace FrequencyInfo
variable (info : FrequencyInfo)

/-- The entries of the radios in use; `none` where the radios of this kind cannot be used. -/
def entries (set : RadioSet) : Option (List RadioEntry) :=
  if (!set.radios.isEmpty || info.currentUnitIsRemote) && set.canUse && !info.forceSpectator then
    let radios := if info.currentUnitIsRemote then set.radios ++ set.playerRadios else set.radios
    some (radios.flatMap HeadsetRadio.entries)
  else none

def nickname : PlainText :=
  info.unitName.getD (if info.alive then info.playerName else info.profileName)

end FrequencyInfo

/-- The elements of `_freq` and `_freq_lr` as `format` prints them. -/
def frequencyElements (noRadio : String) : Option (List RadioEntry) → List Bytes
  | none => [quoted (ascii noRadio)]
  | some entries => entries.map (fun e => quoted e.text)

def frequenciesText (noRadio : String) (entries : Option (List RadioEntry)) : Bytes :=
  arrayText (frequencyElements noRadio entries)

def FrequencyInfo.fields (info : FrequencyInfo) : List Bytes :=
  [frequenciesText "No_SW_Radio" (info.entries info.sw),
    frequenciesText "No_LR_Radio" (info.entries info.lr),
    boolText info.alive, (info.speakVolumeMeters.min info.maxVoiceVolume).text,
    info.nickname.text, info.waves.text, info.terrainInterceptionCoefficient.text,
    info.globalVolume.text, info.receivingDistanceMultiplicator.text, info.speakerDistance.text]

def sendFrequencyInfo (info : FrequencyInfo) : Bytes := request "FREQ" info.fields

/-- The answer of `vehicleId`: `no`, or what is joined into one text. The vehicle of a radio has
no velocity in it. -/
inductive VehicleId where
  | no
  | inside (netId : PlainText) (isolation : Option SqfNumber) (intercomSlot : SqfNumber)
      (velocity : Option SqfVector)

def VehicleId.fields : VehicleId → List Bytes
  | no => [ascii "no"]
  | inside netId isolation intercomSlot velocity =>
      netId.text :: (isolation.map SqfNumber.text).getD (ascii "turnout") :: intercomSlot.text ::
        (velocity.map SqfVector.text).toList

def VehicleId.text (v : VehicleId) : Bytes := joinTokens dataLinkEscape v.fields

/-- What `vehicleId` reads of a unit and its vehicle; `intercomSlot` is the one of the unit, or the
default of its vehicle. -/
structure VehicleView where
  isInVehicle : Bool
  hasIdOverride : Bool
  netId : PlainText
  hasIntercom : Bool
  intercomSlot : SqfNumber
  turnedOut : Bool
  isolation : SqfNumber
  velocity : SqfVector

def vehicleId (v : VehicleView) : VehicleId :=
  if !v.isInVehicle && !v.hasIdOverride then .no
  else
    .inside v.netId (if v.turnedOut then none else some v.isolation)
      (if v.hasIntercom || v.hasIdOverride then v.intercomSlot else .minusOne) (some v.velocity)

/-- A radio on speaker, as one block of the call. -/
structure Speaker where
  radioId : PlainText
  frequency : PlainText
  additionalFrequency : Option PlainText
  nickname : PlainText
  pos : Option SqfVector
  volume : SqfNumber
  vehicle : VehicleId
  waveZ : Option SqfNumber

def Speaker.frequencies (s : Speaker) : List Bytes :=
  (s.frequency :: s.additionalFrequency.toList).map PlainText.text

def Speaker.fields (s : Speaker) : List Bytes :=
  s.radioId.text :: joinTokens bar s.frequencies :: s.nickname.text ::
    (s.pos.map SqfVector.text).getD (arrayText []) :: s.volume.text :: s.vehicle.text ::
    (s.waveZ.map SqfNumber.text).toList

def Speaker.text (s : Speaker) : Bytes := joinTokens newLine s.fields

/-- A radio that may be on speaker, with the answers of its getters. -/
structure SpeakerRadio where
  radioId : PlainText
  speakers : Bool
  frequency : PlainText
  radioCode : PlainText
  additionalChannel : Int
  additionalFrequency : PlainText
  volume : SqfNumber

def noName : PlainText := ⟨[], by decide⟩

def SpeakerRadio.block (radio : SpeakerRadio) (nickname : PlainText) (pos : Option SqfVector)
    (vehicle : VehicleId) (waveZ : Option SqfNumber) : Speaker where
  radioId := radio.radioId
  frequency := radio.frequency.append radio.radioCode
  additionalFrequency :=
    if radio.additionalChannel > -1 then some (radio.additionalFrequency.append radio.radioCode)
    else none
  nickname
  pos
  volume := radio.volume
  vehicle
  waveZ

/-- A holder on the ground; what it holds with whether it is a radio. -/
structure SupplyHolder where
  pos : SqfVector
  items : List (Bool × SpeakerRadio)
  backpacks : List (Bool × SpeakerRadio)

def SupplyHolder.speakers (holder : SupplyHolder) : List Speaker :=
  if holder.pos.z.value > 0 then
    ((holder.items ++ holder.backpacks).filter (fun item => item.1 && item.2.speakers)).map
      (fun item => item.2.block noName (some holder.pos) .no none)
  else []

/-- A seat with a radio of its own. Its radio is known by the vehicle and the seat. -/
structure RadioSeat where
  vacant : Bool
  hasSettings : Bool
  radio : SpeakerRadio

structure RadioVehicle where
  lrSpeakersEnabled : Bool
  hasVehicleRadio : Bool
  pos : SqfVector
  netId : PlainText
  vehicleId : PlainText
  isolatedAmount : SqfNumber
  gunner : RadioSeat
  driver : RadioSeat
  commander : RadioSeat
  copilot : RadioSeat

/-- The seats with the names of their settings. -/
def RadioVehicle.seats (vehicle : RadioVehicle) : List (RadioSeat × PlainText) :=
  [(vehicle.gunner, ⟨ascii "gunner_radio_settings", by decide⟩),
    (vehicle.driver, ⟨ascii "driver_radio_settings", by decide⟩),
    (vehicle.commander, ⟨ascii "commander_radio_settings", by decide⟩),
    (vehicle.copilot, ⟨ascii "turretUnit_0_radio_setting", by decide⟩)]

def RadioVehicle.speakers (vehicle : RadioVehicle) : List Speaker :=
  if vehicle.lrSpeakersEnabled && vehicle.hasVehicleRadio && vehicle.pos.z.value ≥ -3 then
    let lrs := (vehicle.seats.filter (fun lr => lr.1.vacant && lr.1.hasSettings)).map
      (fun lr => { lr.1.radio with radioId := vehicle.netId.append lr.2 })
    (lrs.filter SpeakerRadio.speakers).map (fun radio =>
      radio.block noName (some vehicle.pos)
        (.inside vehicle.vehicleId (some vehicle.isolatedAmount) .minusOne none) none)
  else []

/-- What `preparePositionCoordinates` reads of a unit and of the settings. -/
structure UnitView where
  unitName : PlainText
  nearPlayer : Bool
  isSpectating : Bool
  pos : SqfVector
  curViewDir : SqfVector
  vehicle : VehicleView
  isIsolatedAndInside : Bool
  alive : Bool
  isRemotePlayer : Bool
  canUseSWRadio : Bool
  canUseLRRadio : Bool
  canUseDDRadio : Bool
  withinSpeakerDistance : Bool
  lrSpeakersEnabled : Bool
  lrRadios : List SpeakerRadio
  srSpeakersEnabled : Bool
  swRadios : List SpeakerRadio
  waveZ : SqfNumber
  objectInterceptionEnabled : Bool
  objectInterception : SqfNumber
  terrainInterception : SqfNumber
  currentUnitSpectates : Bool
  sideIsEnemy : Bool
  voiceVolume : SqfNumber
  speakVolumeMeters : SqfNumber

namespace UnitView
variable (u : UnitView)

def asksVehicle : Bool := (u.vehicle.isInVehicle || u.vehicle.hasIdOverride) && !u.isSpectating

def vehicleId : VehicleId := if u.asksVehicle then Addon.vehicleId u.vehicle else .no

def isolatedAndInside : Bool :=
  u.asksVehicle && u.vehicle.isInVehicle && u.isIsolatedAndInside

def canSpeak : Bool :=
  (decide (u.pos.z.value > 0) || u.isolatedAndInside) && (u.alive || u.isSpectating)

def useSw : Bool := if u.pos.z.value < 0 then u.canUseSWRadio else true

def useLr : Bool := if u.pos.z.value < 0 then u.canUseLRRadio else true

/-- `0` stands for false above the water. -/
def useDdText : Bytes := if u.pos.z.value < 0 then boolText u.canUseDDRadio else ascii "0"

def objectInterceptionSent : SqfNumber :=
  if u.nearPlayer && u.objectInterceptionEnabled && u.isRemotePlayer then u.objectInterception
  else .zero

def terrainInterceptionSent : SqfNumber := if u.nearPlayer then .zero else u.terrainInterception

def voiceVolumeSent : SqfNumber := if u.isSpectating then .one else u.voiceVolume

def isEnemy : Bool := u.isRemotePlayer && u.currentUnitSpectates && u.sideIsEnemy

/-- What is appended to `TFAR_speakerRadios`. -/
def carriedSpeakers : List Speaker :=
  let blocks (radios : List SpeakerRadio) : List Speaker :=
    (radios.filter SpeakerRadio.speakers).map
      (fun radio => radio.block u.unitName none u.vehicleId (some u.waveZ))
  if u.nearPlayer && u.withinSpeakerDistance then
    (if u.lrSpeakersEnabled && u.useLr then blocks u.lrRadios else []) ++
      (if u.srSpeakersEnabled && u.useSw then blocks u.swRadios else [])
  else []

end UnitView

def UnitView.fields (u : UnitView) : List Bytes :=
  [u.unitName.text, u.pos.text, u.curViewDir.text, boolText u.canSpeak, boolText u.useSw,
    boolText u.useLr, u.useDdText, u.vehicleId.text, u.terrainInterceptionSent.text,
    u.voiceVolumeSent.text, u.objectInterceptionSent.text, boolText u.isSpectating,
    boolText u.isEnemy, u.speakVolumeMeters.text]

def preparePositionCoordinates (u : UnitView) : Bytes := request "POS" u.fields

def speakersRequest (speakers : List Speaker) : Bytes :=
  request "SPEAKERS" [joinTokens verticalTab (speakers.map Speaker.text)]

/-- The radios that are carried, on the ground and in vehicles. -/
def speakerRadios (units : List UnitView) (holders : List SupplyHolder)
    (vehicles : List RadioVehicle) : List Speaker :=
  units.flatMap UnitView.carriedSpeakers ++ holders.flatMap SupplyHolder.speakers ++
    vehicles.flatMap RadioVehicle.speakers

/-- No call where there are no speakers and were none at the last call. -/
def sendSpeakerRadios (hadSpeakers : Bool) (speakerRadios : List Speaker) : Option Bytes :=
  if !hadSpeakers && speakerRadios.isEmpty then none else some (speakersRequest speakerRadios)

end TaskForceRadio.Addon
