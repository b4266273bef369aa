import Mathlib.Data.Finset.Lattice.Lemmas
import TaskForceRadio.Extension.State

/-!
# The audibility solver

`addAudibleForClientLocked` and `computeAudibleUnits`. Every way a player can be heard becomes a
row of its own: the headset, the speakers that relay the transmission, the intercom and direct
speech.
-/

set_option autoImplicit false

namespace TaskForceRadio.Extension

open Voice (Time milliseconds seconds)

/-- The `fx` strings. -/
inductive Fx where
  | direct
  | sw
  | lr
  | airborne
  | dd
  | phone
  | speaker
  | intercom
  deriving DecidableEq, Repr

structure AudibleUnit where
  uid : Bytes := []
  nickname : Bytes
  gain : Float32 := 0
  az : Float32 := 0
  muted : Bool := false
  fx : Fx := .direct
  err : Float32 := 0
  stereoMode : Int := 0
  deriving DecidableEq, Repr

/-- Direct speech has no radio effect: its subtype maps to none. -/
def subtypeToFx (subtype : Bytes) (senderUnderwater : Bool) : Option Fx :=
  if subtype = ascii "digital" then some (if senderUnderwater then .dd else .sw)
  else if subtype = ascii "digital_lr" then some .lr
  else if subtype = ascii "airborne" then some .airborne
  else if subtype = ascii "dd" then some .dd
  else if subtype = ascii "phone" then some .phone
  else none

/-- The duration in seconds, as `duration<float>` computes it from nanoseconds. -/
def durationSeconds (duration : Time) : Float32 := Float32.ofInt duration / 1000000000

def RemoteClient.extrapolatedPosition (client : RemoteClient) (now : Time) : Vec3 :=
  if client.vehicle.velocity.isNull then client.position
  else
    let seconds := durationSeconds (now - client.lastUpdate)
    if seconds ≤ 0 ∨ seconds > 2 then client.position
    else client.position.add (client.vehicle.velocity.scale seconds)

namespace State

def findClient (s : State) (nickname : Bytes) : Option RemoteClient := s.clients.lookup nickname

def effectiveDistance (s : State) (myPos : Vec3) (other : RemoteClient) (now : Time) : Float32 :=
  let raw := myPos.distanceTo (other.extrapolatedPosition now)
  let terrain := Float32.ofInt other.terrainInterception * s.terrainInterceptionCoefficient
  (raw + terrain + terrain * (raw / 2000)) * s.receivingDistanceMultiplicator

/-- The loss over one antenna, if it reaches both ends. -/
def connectionLoss (fromPos : Vec3) (maxDistanceToAnt : Float32) (toPos : Vec3)
    (antenna : AntennaData) : Option Float32 :=
  let distToSender := antenna.pos.distanceTo fromPos
  let distToReceiver := antenna.pos.distanceTo toPos
  if antenna.range ≤ 0 then none
  else if ¬ distToSender < maxDistanceToAnt then none
  else if ¬ distToReceiver < antenna.range then none
  else some (distToReceiver / antenna.range + distToSender / maxDistanceToAnt)

/-- The lowest loss below 1. -/
def antennaLoss (s : State) (fromPos : Vec3) (maxDistanceToAnt : Float32) (toPos : Vec3) :
    Float32 :=
  if s.antennas = [] ∨ maxDistanceToAnt ≤ 0 then kNoAntennaLoss
  else
    let lowest := (s.antennas.filterMap (connectionLoss fromPos maxDistanceToAnt toPos)).foldl
      (fun lowest loss => if loss < lowest.getD 1 then some loss else lowest) none
    lowest.getD kNoAntennaLoss

/-- The pointer `tx`: a transmission announced within the last 1.5 s. -/
def liveTx (s : State) (now : Time) (nickname : Bytes) : Option RemoteTx :=
  match s.remoteTx.lookup nickname with
  | none => none
  | some tx => if now - tx.received < kTxExpiry then some tx else none

/-- One solver pass over one sender. -/
structure Reception where
  me : RemoteClient
  other : RemoteClient
  now : Time

namespace Reception

def myPos (r : Reception) : Vec3 := r.me.extrapolatedPosition r.now

def hisPos (r : Reception) : Vec3 := r.other.extrapolatedPosition r.now

end Reception

/-- The distances of a transmission: effective distance, antenna loss, and whether it reaches. -/
structure TxReach where
  effDist : Float32
  loss : Float32
  inRange : Bool
  deriving DecidableEq, Repr

def txReach (s : State) (r : Reception) (tx : RemoteTx) : TxReach :=
  let effDist := s.effectiveDistance r.myPos r.other r.now
  let loss := s.antennaLoss r.hisPos tx.range r.myPos
  { effDist, loss
    inRange := tx.range > 0 && effDist ≤ tx.range || loss < kNoAntennaLoss }

/-- `range` of the error formulas. -/
def txErrorRange (tx : RemoteTx) : Float32 := if tx.range > 1 then tx.range else 1

def distError (reach : TxReach) (tx : RemoteTx) : Float32 :=
  let distError := reach.effDist / txErrorRange tx
  clampf (if distError < reach.loss then distError else reach.loss) 0 1

def ddError (s : State) (r : Reception) (reach : TxReach) (tx : RemoteTx) : Float32 :=
  let underwaterRange := kDdMinDistance + (kDdMaxDistance - kDdMinDistance) * (1 - s.wavesLevel)
  let uwDist := distanceUnderwater r.myPos r.hisPos
  let normalDist := r.myPos.distanceTo r.hisPos
  let range := txErrorRange tx
  let ddError :=
    (uwDist * (range / (if underwaterRange > 0 then underwaterRange else 1)) +
      (normalDist - uwDist)) / range
  clampf (if ddError < reach.loss then ddError else reach.loss) 0 1

/-- The radio the transmission is heard on, and whether it is a long range one. -/
def headsetSetting (s : State) (me : RemoteClient) (tx : RemoteTx) :
    Option (FreqSetting × Bool) :=
  let viaLr := if me.canUseLR then s.lrFrequencies.lookup tx.frequency else none
  let viaSw := if me.canUseSW then s.swFrequencies.lookup tx.frequency else none
  let chosen :=
    match viaLr with
    | some setting => some (setting, true)
    | none => viaSw.map (fun setting => (setting, false))
  match chosen with
  | none => none
  | some (setting, viaLr) =>
      -- half duplex: the radio that transmits does not receive
      if !s.configBool "full_duplex" true && s.tangentPressed && s.txRadioClassname != [] &&
          setting.radioClassname == s.txRadioClassname then none
      else some (setting, viaLr)

def headsetUnit (s : State) (r : Reception) (tx : RemoteTx) (reach : TxReach)
    (setting : FreqSetting) (fx : Fx) : AudibleUnit :=
  let volumeLevel := volumeMultiplier (Float32.ofInt setting.volume)
  let volumeLevel := if s.configBool "headsetLowered" false then volumeLevel * 0.1 else volumeLevel
  { nickname := r.other.nickname
    fx
    stereoMode := setting.stereoMode
    gain := if fx = .phone then volumeLevel * 10 else volumeLevel * 0.35
    err := if fx = .dd then s.ddError r reach tx else distError reach tx }

/-- The headset row, and whether it announces an incoming long range transmission. -/
def headsetRow (s : State) (r : Reception) (tx : RemoteTx) (reach : TxReach) :
    List AudibleUnit × Bool :=
  if !reach.inRange then ([], false)
  else
    match s.headsetSetting r.me tx with
    | none => ([], false)
    | some (setting, viaLr) =>
        let senderUnderwater := r.hisPos.z < 0 && !r.other.canUseSW
        match subtypeToFx tx.subtype senderUnderwater with
        | none => ([], false)
        | some fx =>
            let unit := s.headsetUnit r tx reach setting fx
            (if unit.gain > 0 then [unit] else [], viaLr && decide (setting.volume > 2))

/-- Where a speaker stands: a null position is its owner's. -/
def speakerPosition (s : State) (now : Time) (speaker : SpeakerData) : Option Vec3 :=
  let pos :=
    if speaker.pos.isNull then
      (s.findClient speaker.ownerNickname).map (fun owner => owner.extrapolatedPosition now)
    else some speaker.pos
  match pos with
  | none => none
  | some pos => if pos.isNull || pos.z < 0 then none else some pos

def speakerUnit (s : State) (r : Reception) (tx : RemoteTx) (reach : TxReach)
    (speaker : SpeakerData) (speakerPos : Vec3) : AudibleUnit :=
  let radioVehicleLoss :=
    if r.me.vehicle.name = speaker.vehicle.name then 0
    else clampf (r.me.vehicle.isolation + speaker.vehicle.isolation) 0 0.99
  let speakerRange :=
    if speaker.volume < 20 then Float32.ofInt speaker.volume / 10 * s.speakerDistance
    else Float32.ofInt speaker.volume * 1.9
  let distFromRadio := r.myPos.distanceTo speakerPos
  let shouldHear := r.other.canSpeak && r.me.canSpeak
  let attenuation :=
    if radioVehicleLoss < 0.01 then volumeAttenuation distFromRadio shouldHear speakerRange 1
    else
      volumeAttenuation distFromRadio shouldHear speakerRange (1 - radioVehicleLoss) *
        (1 - radioVehicleLoss).pow 1.2
  { nickname := r.other.nickname
    fx := .speaker
    gain := attenuation * kSpeakerGain
    az := azimuthTo r.myPos r.me.viewDirection speakerPos
    err := distError reach tx }

def speakerRow (s : State) (r : Reception) (tx : RemoteTx) (reach : TxReach)
    (speaker : SpeakerData) : Option AudibleUnit :=
  if speaker.ownerNickname = r.other.nickname then none
  else if tx.frequency ∉ speaker.frequencies then none
  else
    match s.speakerPosition r.now speaker with
    | none => none
    | some speakerPos =>
        let unit := s.speakerUnit r tx reach speaker speakerPos
        if unit.gain > 0 then some unit else none

def speakerRows (s : State) (r : Reception) (tx : RemoteTx) (reach : TxReach) :
    List AudibleUnit :=
  if reach.inRange then s.speakers.filterMap (s.speakerRow r tx reach) else []

/-- The radio part: the rows of a live transmission of somebody who is not spectating. -/
def radioRows (s : State) (r : Reception) (tx : Option RemoteTx) : List AudibleUnit × Bool :=
  match tx with
  | none => ([], false)
  | some tx =>
      if r.other.isSpectating then ([], false)
      else
        let reach := s.txReach r tx
        let (headset, lrIncoming) := s.headsetRow r tx reach
        (headset ++ s.speakerRows r tx reach, lrIncoming)

def intercomRows (s : State) (r : Reception) (tx : Option RemoteTx) : List AudibleUnit :=
  if s.configBool "intercomEnabled" true && tx.isNone && r.other.vehicle.name != ascii "no" &&
      r.other.vehicle.name == r.me.vehicle.name && r.other.vehicle.intercomSlot != -1 &&
      r.other.vehicle.intercomSlot == r.me.vehicle.intercomSlot then
    let volume := s.configFloat "intercomVolume" 0.3
    let volume := if s.configBool "headsetLowered" false then volume * 0.1 else volume
    let volume :=
      if s.lrIncoming then volume * (1 - s.configFloat "intercomDucking" 0.2) else volume
    let unit : AudibleUnit := { nickname := r.other.nickname, fx := .intercom, gain := volume }
    if unit.gain > 0 then [unit] else []
  else []

def notHearableInSpectator (s : State) (r : Reception) : Bool :=
  r.me.isSpectating &&
    (r.other.isEnemyToPlayer && s.configBool "spectatorNotHearEnemies" true ||
      !r.other.isEnemyToPlayer && !s.configBool "spectatorCanHearFriendlies" true)

def directGain (r : Reception) (directDistance : Float32) : Float32 :=
  let vehicleLoss := clampf (r.me.vehicle.isolation + r.other.vehicle.isolation) 0 0.99
  let isInSameVehicle :=
    r.me.vehicle.name == r.other.vehicle.name && r.me.vehicle.name != ascii "no"
  let gain :=
    if r.other.canSpeak && r.me.canSpeak then
      if vehicleLoss < 0.01 || isInSameVehicle then
        volumeAttenuation directDistance true r.other.speakRangeMeters 1
      else
        volumeAttenuation directDistance true r.other.speakRangeMeters (1 - vehicleLoss) *
          (1 - vehicleLoss).pow 1.2
    else
      volumeAttenuation directDistance false r.other.speakRangeMeters 1 * kCantSpeakGain
  gain * r.other.voiceVolumeMultiplier

def directRows (s : State) (r : Reception) : List AudibleUnit :=
  let directDistance :=
    r.myPos.distanceTo r.hisPos + 2 * Float32.ofInt r.other.objectInterception
  if !r.other.isSpectating && !s.notHearableInSpectator r &&
      directDistance ≤ r.other.speakRangeMeters + 15 then
    let unit : AudibleUnit :=
      { nickname := r.other.nickname
        gain := directGain r directDistance
        az := azimuthTo r.myPos r.me.viewDirection r.hisPos }
    if unit.gain > 0 then [unit] else []
  else []

/-- `addAudibleForClientLocked`: the rows of one sender, and whether `m_lrIncomingPending` is
set. -/
def addAudibleForClient (s : State) (r : Reception) : List AudibleUnit × Bool :=
  if r.me.isSpectating && r.other.isSpectating then
    if s.configBool "muteSpectators" false then ([], false)
    else ([{ nickname := r.other.nickname, gain := 1 }], false)
  else
    let tx := s.liveTx r.now r.other.nickname
    let (radio, lrIncoming) := s.radioRows r tx
    (radio ++ s.intercomRows r tx ++ s.directRows r, lrIncoming)

/-- The orders in which one snapshot walks `m_clients` and `m_remoteTx`. -/
structure SolverOrders where
  clients : IterationOrder (Bytes × RemoteClient) := .stored
  remoteTx : IterationOrder (Bytes × RemoteTx) := .stored

/-- The players who are transmitting. -/
def transmittingNames (s : State) (now : Time) (orders : SolverOrders) : List Bytes :=
  (orders.remoteTx.arrange s.remoteTx.pairs).filterMap (fun entry =>
    if now - entry.2.received < kTxExpiry then some entry.1 else none)

/-- The senders of a snapshot: nobody, unless the local player is part of the world. -/
def senders (s : State) (now : Time) (orders : SolverOrders) : List Reception :=
  if s.myNickname = [] then []
  else
    match s.findClient s.myNickname with
    | none => []
    | some me =>
        if now - me.lastUpdate < kClientExpiry then
          (orders.clients.arrange s.clients.pairs).filterMap (fun entry =>
            if entry.2.nickname = s.myNickname ∨ kClientExpiry ≤ now - entry.2.lastUpdate then none
            else some { me, other := entry.2, now })
        else []

/-- The last loop over the rows. -/
def finishUnit (s : State) (unit : AudibleUnit) : AudibleUnit :=
  let gain := unit.gain * s.globalVolume
  { unit with gain := if gain < 0 then 0 else gain, uid := s.uidFor unit.nickname }

def computeAudibleUnits (s : State) (now : Time) (orders : SolverOrders) :
    State × List AudibleUnit :=
  let perSender := (s.senders now orders).map s.addAudibleForClient
  let rows := perSender.flatMap Prod.fst
  let lrIncoming := perSender.any Prod.snd
  let overRadio := rows.filter (fun unit => unit.fx != .direct)
  let s' :=
    { s with
      talkingNames := (s.transmittingNames now orders).toFinset
      receivingFrom := (overRadio.map AudibleUnit.nickname).toFinset
      receivingAnyRadio := !overRadio.isEmpty
      lrIncomingPending := lrIncoming
      lrIncoming }
  (s', rows.map s.finishUnit)

/-- A round of the loop over the clients: the rows so far, and `m_lrIncomingPending` in the
state. -/
def solveSender (solver : State × List AudibleUnit) (r : Reception) : State × List AudibleUnit :=
  let (rows, lrIncoming) := solver.1.addAudibleForClient r
  ({ solver.1 with lrIncomingPending := solver.1.lrIncomingPending || lrIncoming },
    solver.2 ++ rows)

/-- A round of the loop over the rows. -/
def finishRow (solver : State × List AudibleUnit) (unit : AudibleUnit) :
    State × List AudibleUnit :=
  let s :=
    if unit.fx = .direct then solver.1
    else
      { solver.1 with
        receivingFrom := insert unit.nickname solver.1.receivingFrom
        receivingAnyRadio := true }
  (s, solver.2 ++ [s.finishUnit unit])

/-- What a snapshot starts from. -/
def cleared (s : State) (now : Time) (orders : SolverOrders) : State :=
  { s with
    receivingFrom := ∅
    receivingAnyRadio := false
    lrIncomingPending := false
    talkingNames := (s.transmittingNames now orders).toFinset }

/-- `computeAudibleUnits` with the state in hand, loop by loop. -/
def computeAudibleUnitsInPlace (s : State) (now : Time) (orders : SolverOrders) :
    State × List AudibleUnit :=
  let s := s.cleared now orders
  let (solved, units) := (s.senders now orders).foldl solveSender (s, [])
  units.foldl finishRow ({ solved with lrIncoming := solved.lrIncomingPending }, [])

private theorem foldl_solveSender (senders : List Reception) (s : State)
    (units : List AudibleUnit) :
    senders.foldl solveSender (s, units) =
      ({ s with
          lrIncomingPending :=
            s.lrIncomingPending || (senders.map s.addAudibleForClient).any Prod.snd },
        units ++ (senders.map s.addAudibleForClient).flatMap Prod.fst) := by
  induction senders generalizing s units with
  | nil => simp
  | cons r rest ih =>
    rw [List.foldl_cons, solveSender, ih]
    -- no row depends on what is pending
    have hsame : ∀ pending, ({ s with lrIncomingPending := pending } : State).addAudibleForClient =
        s.addAudibleForClient := fun _ => rfl
    simp only [hsame, List.map_cons, List.any_cons, List.flatMap_cons, Bool.or_assoc,
      List.append_assoc]

/-- The fields that name who is heard over a radio. -/
def markReceived (s : State) (overRadio : List AudibleUnit) : State :=
  { s with
    receivingFrom := s.receivingFrom ∪ (overRadio.map AudibleUnit.nickname).toFinset
    receivingAnyRadio := s.receivingAnyRadio || !overRadio.isEmpty }

private theorem markReceived_nil (s : State) : s.markReceived [] = s := by
  simp [markReceived]

private theorem markReceived_cons (s : State) (unit : AudibleUnit) (rest : List AudibleUnit) :
    s.markReceived (unit :: rest) =
      { s with
        receivingFrom := insert unit.nickname s.receivingFrom
        receivingAnyRadio := true : State }.markReceived rest := by
  simp [markReceived]

private theorem foldl_finishRow (units : List AudibleUnit) (s : State) (out : List AudibleUnit) :
    units.foldl finishRow (s, out) =
      (s.markReceived (units.filter fun unit => unit.fx != .direct),
        out ++ units.map s.finishUnit) := by
  induction units generalizing s out with
  | nil => simp [markReceived_nil]
  | cons unit rest ih =>
    rw [List.foldl_cons, finishRow, ih]
    by_cases hdirect : unit.fx = .direct
    · simp [hdirect]
    · have hsame : ∀ names any, ({ s with receivingFrom := names, receivingAnyRadio := any } :
          State).finishUnit = s.finishUnit := fun _ _ => rfl
      simp [hdirect, hsame, markReceived_cons]

/-- The loops, one statement after the other, are the snapshot. -/
theorem computeAudibleUnitsInPlace_eq (s : State) (now : Time) (orders : SolverOrders) :
    s.computeAudibleUnitsInPlace now orders = s.computeAudibleUnits now orders := by
  have hrows : (s.cleared now orders).addAudibleForClient = s.addAudibleForClient := rfl
  have hsenders : (s.cleared now orders).senders now orders = s.senders now orders := rfl
  simp only [computeAudibleUnitsInPlace, foldl_solveSender, foldl_finishRow, hrows, hsenders]
  refine Prod.ext ?_ rfl
  simp [computeAudibleUnits, markReceived, cleared]

theorem liveTx_eq_some {s : State} {now : Time} {n : Bytes} {tx : RemoteTx} :
    s.liveTx now n = some tx ↔ s.remoteTx.lookup n = some tx ∧ now - tx.received < kTxExpiry := by
  simp only [liveTx]
  cases s.remoteTx.lookup n with
  | none => simp
  | some tx' =>
    dsimp only
    split
    · rename_i hlive
      constructor
      · intro h
        rw [← Option.some.inj h]
        exact ⟨rfl, hlive⟩
      · intro h
        exact h.1
    · rename_i hstale
      constructor
      · intro h
        cases h
      · intro h
        rw [← Option.some.inj h.1] at h
        exact absurd h.2 hstale

/-- The names reported as talking are those whose `tx` pointer is set. -/
theorem mem_talkingNames (s : State) (now : Time) (orders : SolverOrders) (n : Bytes) :
    n ∈ (s.computeAudibleUnits now orders).1.talkingNames ↔ (s.liveTx now n).isSome := by
  show n ∈ (s.transmittingNames now orders).toFinset ↔ _
  rw [List.mem_toFinset, Option.isSome_iff_exists]
  simp only [transmittingNames]
  rw [List.mem_filterMap]
  constructor
  · intro h
    obtain ⟨⟨n', tx⟩, hmem, hsome⟩ := h
    dsimp only at hsome
    split at hsome
    · rename_i hlive
      rw [← Option.some.inj hsome]
      have hlookup := (Dictionary.mem_pairs _ _ _).mp
        ((orders.remoteTx.mem_arrange _ _).mp hmem)
      exact ⟨tx, liveTx_eq_some.mpr ⟨hlookup, hlive⟩⟩
    · cases hsome
  · intro h
    obtain ⟨tx, htx⟩ := h
    obtain ⟨hlookup, hlive⟩ := liveTx_eq_some.mp htx
    refine ⟨(n, tx), ?_, if_pos hlive⟩
    exact (orders.remoteTx.mem_arrange _ _).mpr ((Dictionary.mem_pairs _ _ _).mpr hlookup)

theorem mem_rows_of_option {unit row : AudibleUnit} {p : Prop} [Decidable p]
    (h : unit ∈ if p then [row] else []) :
    unit = row := by
  split at h
  · exact List.mem_singleton.mp h
  · cases h

theorem mem_intercomRows {s : State} {r : Reception} {tx : Option RemoteTx} {unit : AudibleUnit}
    (h : unit ∈ s.intercomRows r tx) :
    unit.nickname = r.other.nickname ∧ unit.fx = .intercom := by
  simp only [intercomRows] at h
  split at h
  · rw [mem_rows_of_option h]
    exact ⟨rfl, rfl⟩
  · cases h

theorem mem_directRows {s : State} {r : Reception} {unit : AudibleUnit}
    (h : unit ∈ s.directRows r) :
    unit.nickname = r.other.nickname ∧ unit.fx = .direct := by
  simp only [directRows] at h
  split at h
  · rw [mem_rows_of_option h]
    exact ⟨rfl, rfl⟩
  · cases h

private theorem mem_headsetRow {s : State} {r : Reception} {tx : RemoteTx} {reach : TxReach}
    {unit : AudibleUnit} (h : unit ∈ (s.headsetRow r tx reach).1) :
    unit.nickname = r.other.nickname := by
  unfold headsetRow at h
  split at h
  · cases h
  · split at h
    · cases h
    · dsimp only at h
      split at h
      · cases h
      · rw [mem_rows_of_option h]
        rfl

theorem mem_speakerRows {s : State} {r : Reception} {tx : RemoteTx} {reach : TxReach}
    {unit : AudibleUnit} (h : unit ∈ s.speakerRows r tx reach) :
    unit.nickname = r.other.nickname ∧ unit.fx = .speaker := by
  simp only [speakerRows] at h
  split at h
  · obtain ⟨speaker, _, hrow⟩ := List.mem_filterMap.mp h
    unfold speakerRow at hrow
    split at hrow
    · cases hrow
    · split at hrow
      · cases hrow
      · split at hrow
        · cases hrow
        · dsimp only at hrow
          split at hrow
          · rw [← Option.some.inj hrow]
            exact ⟨rfl, rfl⟩
          · cases hrow
  · cases h

/-- Every row of a sender carries its nickname, and without a live transmission it is heard
directly or over the intercom only. -/
theorem mem_addAudibleForClient {s : State} {r : Reception} {unit : AudibleUnit}
    (h : unit ∈ (s.addAudibleForClient r).1) :
    unit.nickname = r.other.nickname ∧
      (s.liveTx r.now r.other.nickname = none → unit.fx = .direct ∨ unit.fx = .intercom) := by
  simp only [addAudibleForClient] at h
  split at h
  · split at h
    · cases h
    · rw [List.mem_singleton.mp h]
      exact ⟨rfl, fun _ => Or.inl rfl⟩
  · dsimp only at h
    rw [List.mem_append, List.mem_append] at h
    rcases h with (hradio | hintercom) | hdirect
    · simp only [radioRows] at hradio
      split at hradio
      · cases hradio
      · rename_i tx hlive
        split at hradio
        · cases hradio
        · refine ⟨?_, ?_⟩
          · rcases List.mem_append.mp hradio with hheadset | hspeaker
            · exact mem_headsetRow hheadset
            · exact (mem_speakerRows hspeaker).1
          · intro hnone
            rw [hlive] at hnone
            cases hnone
    · exact ⟨(mem_intercomRows hintercom).1, fun _ => Or.inr (mem_intercomRows hintercom).2⟩
    · exact ⟨(mem_directRows hdirect).1, fun _ => Or.inl (mem_directRows hdirect).2⟩

/-- A snapshot has no radio or speaker row for somebody without a live transmission. -/
theorem fx_of_not_live {s : State} {now : Time} {orders : SolverOrders} {unit : AudibleUnit}
    (hunit : unit ∈ (s.computeAudibleUnits now orders).2)
    (hlive : s.liveTx now unit.nickname = none) :
    unit.fx = .direct ∨ unit.fx = .intercom := by
  have hrows : unit ∈ (((s.senders now orders).map s.addAudibleForClient).flatMap Prod.fst).map
      s.finishUnit := hunit
  obtain ⟨row, hrow, rfl⟩ := List.mem_map.mp hrows
  obtain ⟨result, hresult, hmem⟩ := List.mem_flatMap.mp hrow
  obtain ⟨r, hr, rfl⟩ := List.mem_map.mp hresult
  have hnow : r.now = now := by
    simp only [senders] at hr
    split at hr
    · cases hr
    · split at hr
      · cases hr
      · split at hr
        · obtain ⟨entry, _, hentry⟩ := List.mem_filterMap.mp hr
          split at hentry
          · cases hentry
          · rw [← Option.some.inj hentry]
        · cases hr
  obtain ⟨hname, hfx⟩ := mem_addAudibleForClient hmem
  apply hfx
  rw [hnow, ← hname]
  exact hlive

end State

end TaskForceRadio.Extension
