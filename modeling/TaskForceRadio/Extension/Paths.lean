import TaskForceRadio.Extension.Solver

/-!
# Reception paths

The rows of one sender are those of its headset, speaker, intercom and direct paths. No path
depends on what only concerns another, and a snapshot does not depend on the order in which the
senders are visited.
-/

set_option autoImplicit false

namespace TaskForceRadio.Extension

open Voice (Time milliseconds seconds)

/-- The effects of a transmission in one's own ear. -/
def Fx.isHeadset : Fx → Bool
  | .direct | .speaker | .intercom => false
  | .sw | .lr | .airborne | .dd | .phone => true

private theorem isHeadset_of_subtypeToFx {subtype : Bytes} {senderUnderwater : Bool} {fx : Fx}
    (h : subtypeToFx subtype senderUnderwater = some fx) : fx.isHeadset = true := by
  simp only [subtypeToFx] at h
  split at h
  · cases senderUnderwater <;> cases h <;> rfl
  · split at h
    · cases h
      rfl
    · split at h
      · cases h
        rfl
      · split at h
        · cases h
          rfl
        · split at h
          · cases h
            rfl
          · cases h

namespace State

/-- The transmission that the radio part works on. -/
def heardTx (s : State) (r : Reception) : Option RemoteTx :=
  if r.other.isSpectating then none else s.liveTx r.now r.other.nickname

def headsetPath (s : State) (r : Reception) : List AudibleUnit :=
  match s.heardTx r with
  | none => []
  | some tx => (s.headsetRow r tx (s.txReach r tx)).1

def speakerPath (s : State) (r : Reception) : List AudibleUnit :=
  match s.heardTx r with
  | none => []
  | some tx => s.speakerRows r tx (s.txReach r tx)

def intercomPath (s : State) (r : Reception) : List AudibleUnit :=
  if r.me.isSpectating && r.other.isSpectating then []
  else s.intercomRows r (s.liveTx r.now r.other.nickname)

def directPath (s : State) (r : Reception) : List AudibleUnit :=
  if r.me.isSpectating && r.other.isSpectating then
    if s.configBool "muteSpectators" false then []
    else [{ nickname := r.other.nickname, gain := 1 }]
  else s.directRows r

private theorem radioRows_eq (s : State) (r : Reception) :
    (s.radioRows r (s.liveTx r.now r.other.nickname)).1 = s.headsetPath r ++ s.speakerPath r := by
  simp only [radioRows, headsetPath, speakerPath, heardTx]
  by_cases hspectating : r.other.isSpectating = true
  · simp only [hspectating, if_true]
    split <;> rfl
  · simp only [hspectating, if_false, Bool.false_eq_true]
    cases s.liveTx r.now r.other.nickname with
    | none => rfl
    | some tx => rfl

private theorem addAudibleForClient_paths (s : State) (r : Reception) :
    (s.addAudibleForClient r).1 =
      s.headsetPath r ++ s.speakerPath r ++ s.intercomPath r ++ s.directPath r := by
  simp only [addAudibleForClient, intercomPath, directPath]
  by_cases hboth : (r.me.isSpectating && r.other.isSpectating) = true
  · have hother : r.other.isSpectating = true := (Bool.and_eq_true_iff.mp hboth).2
    have hsilent : s.headsetPath r = [] ∧ s.speakerPath r = [] := by
      simp only [headsetPath, speakerPath, heardTx, hother, if_true, and_self]
    rw [if_pos hboth, if_pos hboth, if_pos hboth, hsilent.1, hsilent.2]
    split <;> rfl
  · rw [if_neg hboth, if_neg hboth, if_neg hboth, radioRows_eq]

private theorem fx_headsetPath {s : State} {r : Reception} {unit : AudibleUnit}
    (h : unit ∈ s.headsetPath r) : unit.fx.isHeadset = true := by
  simp only [headsetPath] at h
  split at h
  · cases h
  · simp only [headsetRow] at h
    split at h
    · cases h
    · split at h
      · cases h
      · split at h
        · cases h
        · rename_i hfx
          rw [mem_rows_of_option h]
          exact isHeadset_of_subtypeToFx hfx

private theorem fx_speakerPath {s : State} {r : Reception} {unit : AudibleUnit}
    (h : unit ∈ s.speakerPath r) : unit.fx = .speaker := by
  simp only [speakerPath] at h
  split at h
  · cases h
  · exact (mem_speakerRows h).2

private theorem fx_intercomPath {s : State} {r : Reception} {unit : AudibleUnit}
    (h : unit ∈ s.intercomPath r) : unit.fx = .intercom := by
  simp only [intercomPath] at h
  split at h
  · cases h
  · exact (mem_intercomRows h).2

private theorem fx_directPath {s : State} {r : Reception} {unit : AudibleUnit}
    (h : unit ∈ s.directPath r) : unit.fx = .direct := by
  simp only [directPath] at h
  split at h
  · split at h
    · cases h
    · rw [List.mem_singleton.mp h]
  · exact (mem_directRows h).2

private theorem filter_rows {s : State} {r : Reception} (p : Fx → Bool) :
    (s.addAudibleForClient r).1.filter (fun unit => p unit.fx) =
      (s.headsetPath r).filter (fun unit => p unit.fx) ++
        (if p .speaker then s.speakerPath r else []) ++
        (if p .intercom then s.intercomPath r else []) ++
        (if p .direct then s.directPath r else []) := by
  have hone : ∀ (rows : List AudibleUnit) (fx : Fx), (∀ unit ∈ rows, unit.fx = fx) →
      rows.filter (fun unit => p unit.fx) = if p fx then rows else [] := by
    intro rows fx hrows
    cases hp : p fx with
    | true =>
      refine List.filter_eq_self.mpr (fun unit hunit => ?_)
      rw [hrows unit hunit, hp]
    | false =>
      refine List.filter_eq_nil_iff.mpr (fun unit hunit => ?_)
      rw [hrows unit hunit, hp]
      exact Bool.false_ne_true
  rw [addAudibleForClient_paths, List.filter_append, List.filter_append, List.filter_append,
    hone (s.speakerPath r) .speaker (fun _ h => fx_speakerPath h),
    hone (s.intercomPath r) .intercom (fun _ h => fx_intercomPath h),
    hone (s.directPath r) .direct (fun _ h => fx_directPath h)]

private theorem speaker_rows (s : State) (r : Reception) :
    (s.addAudibleForClient r).1.filter (fun unit => unit.fx = .speaker) = s.speakerPath r := by
  have hheadset : (s.headsetPath r).filter (fun unit => decide (unit.fx = .speaker)) = [] := by
    refine List.filter_eq_nil_iff.mpr (fun unit hunit => ?_)
    have hfx := fx_headsetPath hunit
    rw [decide_eq_true_eq]
    intro heq
    rw [heq] at hfx
    cases hfx
  rw [filter_rows (fun fx => decide (fx = .speaker)), hheadset]
  simp

private theorem direct_rows (s : State) (r : Reception) :
    (s.addAudibleForClient r).1.filter (fun unit => unit.fx = .direct) = s.directPath r := by
  have hheadset : (s.headsetPath r).filter (fun unit => decide (unit.fx = .direct)) = [] := by
    refine List.filter_eq_nil_iff.mpr (fun unit hunit => ?_)
    have hfx := fx_headsetPath hunit
    rw [decide_eq_true_eq]
    intro heq
    rw [heq] at hfx
    cases hfx
  rw [filter_rows (fun fx => decide (fx = .direct)), hheadset]
  simp

theorem headset_rows (s : State) (r : Reception) :
    (s.addAudibleForClient r).1.filter (fun unit => unit.fx.isHeadset) = s.headsetPath r := by
  have hheadset : (s.headsetPath r).filter (fun unit => unit.fx.isHeadset) = s.headsetPath r :=
    List.filter_eq_self.mpr (fun _ hunit => fx_headsetPath hunit)
  rw [filter_rows Fx.isHeadset, hheadset]
  simp [Fx.isHeadset]

/-- A client without what its own radios can do. -/
def untuned (c : RemoteClient) : RemoteClient := { c with canUseSW := false, canUseLR := false }

/-- A client without whether it can speak. -/
def voiceless (c : RemoteClient) : RemoteClient := { c with canSpeak := false }

/-- Two listeners that may differ in their own radios, their frequencies, their transmission and
their settings. -/
structure SameButTuning (s s' : State) (r r' : Reception) : Prop where
  now : r'.now = r.now
  me : untuned r'.me = untuned r.me
  other : r'.other = r.other
  clients : ∀ n, (s'.clients.lookup n).map untuned = (s.clients.lookup n).map untuned
  remoteTx : ∀ n, s'.remoteTx.lookup n = s.remoteTx.lookup n
  speakers : s'.speakers = s.speakers
  antennas : s'.antennas = s.antennas
  terrain : s'.terrainInterceptionCoefficient = s.terrainInterceptionCoefficient
  multiplicator : s'.receivingDistanceMultiplicator = s.receivingDistanceMultiplicator
  speakerDistance : s'.speakerDistance = s.speakerDistance

def intercomSettings : List Bytes :=
  ["intercomEnabled", "intercomVolume", "intercomDucking"].map ascii

/-- Two listeners that may differ in the speakers, the intercom and in who can speak. -/
structure SameButSpeech (s s' : State) (r r' : Reception) : Prop where
  now : r'.now = r.now
  me : voiceless r'.me = voiceless r.me
  other : voiceless r'.other = voiceless r.other
  remoteTx : ∀ n, s'.remoteTx.lookup n = s.remoteTx.lookup n
  swFrequencies : ∀ freq, s'.swFrequencies.lookup freq = s.swFrequencies.lookup freq
  lrFrequencies : ∀ freq, s'.lrFrequencies.lookup freq = s.lrFrequencies.lookup freq
  tangentPressed : s'.tangentPressed = s.tangentPressed
  txRadioClassname : s'.txRadioClassname = s.txRadioClassname
  wavesLevel : s'.wavesLevel = s.wavesLevel
  antennas : s'.antennas = s.antennas
  terrain : s'.terrainInterceptionCoefficient = s.terrainInterceptionCoefficient
  multiplicator : s'.receivingDistanceMultiplicator = s.receivingDistanceMultiplicator
  config : ∀ key, key ∉ intercomSettings → s'.config.lookup key = s.config.lookup key

private theorem heardTx_congr {s s' : State} {r r' : Reception}
    (hremoteTx : ∀ n, s'.remoteTx.lookup n = s.remoteTx.lookup n)
    (hnow : r'.now = r.now) (hnickname : r'.other.nickname = r.other.nickname)
    (hspectating : r'.other.isSpectating = r.other.isSpectating) :
    s'.heardTx r' = s.heardTx r := by
  rw [heardTx, heardTx, hspectating, liveTx, liveTx, hremoteTx, hnow, hnickname]

private theorem txReach_congr {s s' : State} {r r' : Reception} (tx : RemoteTx)
    (hme : r'.myPos = r.myPos) (hother : r'.hisPos = r.hisPos)
    (hinterception : r'.other.terrainInterception = r.other.terrainInterception)
    (hantennas : s'.antennas = s.antennas)
    (hterrain : s'.terrainInterceptionCoefficient = s.terrainInterceptionCoefficient)
    (hmultiplicator : s'.receivingDistanceMultiplicator = s.receivingDistanceMultiplicator) :
    s'.txReach r' tx = s.txReach r tx := by
  have hdist : s'.effectiveDistance r'.myPos r'.other r'.now =
      s.effectiveDistance r.myPos r.other r.now := by
    have hpos : r'.other.extrapolatedPosition r'.now = r.other.extrapolatedPosition r.now := hother
    simp only [effectiveDistance, hpos, hme, hinterception, hterrain, hmultiplicator]
  have hloss : s'.antennaLoss r'.hisPos tx.range r'.myPos =
      s.antennaLoss r.hisPos tx.range r.myPos := by
    simp only [antennaLoss, hantennas, hme, hother]
  simp only [txReach, hdist, hloss]

namespace SameButTuning
variable {s s' : State} {r r' : Reception}

theorem myPos (h : SameButTuning s s' r r') : r'.myPos = r.myPos := by
  have hpos := congrArg (fun c => RemoteClient.extrapolatedPosition c r.now) h.me
  simp only [Reception.myPos, h.now]
  exact hpos

theorem vehicle (h : SameButTuning s s' r r') : r'.me.vehicle = r.me.vehicle := by
  have hvehicle := congrArg RemoteClient.vehicle h.me
  exact hvehicle

theorem hisPos (h : SameButTuning s s' r r') : r'.hisPos = r.hisPos := by
  simp only [Reception.hisPos, h.other, h.now]

theorem heardTx (h : SameButTuning s s' r r') : s'.heardTx r' = s.heardTx r :=
  heardTx_congr h.remoteTx h.now (by rw [h.other]) (by rw [h.other])

theorem speakerPosition (h : SameButTuning s s' r r') (speaker : SpeakerData) :
    s'.speakerPosition r'.now speaker = s.speakerPosition r.now speaker := by
  have howner : (s'.findClient speaker.ownerNickname).map (fun c => c.extrapolatedPosition r.now) =
      (s.findClient speaker.ownerNickname).map (fun c => c.extrapolatedPosition r.now) := by
    have hmapped := congrArg (Option.map (fun c => RemoteClient.extrapolatedPosition c r.now))
      (h.clients speaker.ownerNickname)
    rw [Option.map_map, Option.map_map] at hmapped
    exact hmapped
  simp only [State.speakerPosition, h.now, howner]

theorem speakerUnit (h : SameButTuning s s' r r') (tx : RemoteTx) (reach : TxReach)
    (speaker : SpeakerData) (pos : Vec3) :
    s'.speakerUnit r' tx reach speaker pos = s.speakerUnit r tx reach speaker pos := by
  have hspeak : r'.me.canSpeak = r.me.canSpeak := by
    have hc := congrArg RemoteClient.canSpeak h.me
    exact hc
  have hview : r'.me.viewDirection = r.me.viewDirection := by
    have hc := congrArg RemoteClient.viewDirection h.me
    exact hc
  simp only [State.speakerUnit, h.vehicle, h.myPos, h.other, hspeak, hview, h.speakerDistance]

private theorem speakerPath (h : SameButTuning s s' r r') :
    s'.speakerPath r' = s.speakerPath r := by
  simp only [State.speakerPath, h.heardTx]
  cases s.heardTx r with
  | none => rfl
  | some tx =>
    have hreach : s'.txReach r' tx = s.txReach r tx :=
      txReach_congr tx h.myPos h.hisPos (by rw [h.other]) h.antennas h.terrain h.multiplicator
    have hrow : s'.speakerRow r' tx (s.txReach r tx) = s.speakerRow r tx (s.txReach r tx) := by
      funext speaker
      simp only [speakerRow, h.other, h.speakerPosition, h.speakerUnit]
    simp only [speakerRows, hreach, h.speakers, hrow]

end SameButTuning

namespace SameButSpeech
variable {s s' : State} {r r' : Reception}

theorem myPos (h : SameButSpeech s s' r r') : r'.myPos = r.myPos := by
  have hpos := congrArg (fun c => RemoteClient.extrapolatedPosition c r.now) h.me
  simp only [Reception.myPos, h.now]
  exact hpos

theorem hisPos (h : SameButSpeech s s' r r') : r'.hisPos = r.hisPos := by
  have hpos := congrArg (fun c => RemoteClient.extrapolatedPosition c r.now) h.other
  simp only [Reception.hisPos, h.now]
  exact hpos

private theorem ofMe {α : Type} (h : SameButSpeech s s' r r') (field : RemoteClient → α)
    (hfield : ∀ c, field (voiceless c) = field c) : field r'.me = field r.me := by
  rw [← hfield r'.me, h.me, hfield]

private theorem ofOther {α : Type} (h : SameButSpeech s s' r r') (field : RemoteClient → α)
    (hfield : ∀ c, field (voiceless c) = field c) : field r'.other = field r.other := by
  rw [← hfield r'.other, h.other, hfield]

theorem configBool (h : SameButSpeech s s' r r') {key : String} (fallback : Bool)
    (hkey : ascii key ∉ intercomSettings) :
    s'.configBool key fallback = s.configBool key fallback := by
  simp only [State.configBool, h.config _ hkey]

theorem headsetPath (h : SameButSpeech s s' r r') : s'.headsetPath r' = s.headsetPath r := by
  have hnickname := h.ofOther RemoteClient.nickname (fun _ => rfl)
  have hspectating := h.ofOther RemoteClient.isSpectating (fun _ => rfl)
  have hheard := heardTx_congr h.remoteTx h.now hnickname hspectating
  simp only [State.headsetPath, hheard]
  cases s.heardTx r with
  | none => rfl
  | some tx =>
    have hreach : s'.txReach r' tx = s.txReach r tx :=
      txReach_congr tx h.myPos h.hisPos (h.ofOther RemoteClient.terrainInterception (fun _ => rfl))
        h.antennas h.terrain h.multiplicator
    have hsetting : s'.headsetSetting r'.me tx = s.headsetSetting r.me tx := by
      simp only [headsetSetting, h.ofMe RemoteClient.canUseLR (fun _ => rfl),
        h.ofMe RemoteClient.canUseSW (fun _ => rfl), h.lrFrequencies, h.swFrequencies,
        h.configBool true (by decide : ascii "full_duplex" ∉ intercomSettings), h.tangentPressed,
        h.txRadioClassname]
    have hunit : s'.headsetUnit r' tx = s.headsetUnit r tx := by
      funext reach setting fx
      simp only [headsetUnit, hnickname, ddError, h.wavesLevel, h.myPos, h.hisPos,
        h.configBool false (by decide : ascii "headsetLowered" ∉ intercomSettings)]
    simp only [headsetRow, hreach, hsetting, h.hisPos,
      h.ofOther RemoteClient.canUseSW (fun _ => rfl), hunit]

end SameButSpeech

private theorem directPath_congr {s s' : State} (r : Reception)
    (hconfig : ∀ key, s'.config.lookup key = s.config.lookup key) :
    s'.directPath r = s.directPath r := by
  have hbool : ∀ key fallback, s'.configBool key fallback = s.configBool key fallback := by
    intro key fallback
    rw [configBool, configBool, hconfig]
  have hspectator : s'.notHearableInSpectator r = s.notHearableInSpectator r := by
    rw [notHearableInSpectator, notHearableInSpectator, hbool, hbool]
  have hrows : s'.directRows r = s.directRows r := by
    rw [directRows, directRows, hspectator]
  rw [directPath, directPath, hbool, hrows]

/-- No path suppresses, replaces or rescales another: speaker rows do not depend on the
listener's own radios, direct rows on any radio, headset rows on speakers and speech. -/
theorem paths_do_not_interfere (s s' : State) (r r' : Reception) :
    (SameButTuning s s' r r' →
      (s'.addAudibleForClient r').1.filter (fun unit => unit.fx = .speaker) =
        (s.addAudibleForClient r).1.filter (fun unit => unit.fx = .speaker)) ∧
    ((∀ key, s'.config.lookup key = s.config.lookup key) → r' = r →
      (s'.addAudibleForClient r').1.filter (fun unit => unit.fx = .direct) =
        (s.addAudibleForClient r).1.filter (fun unit => unit.fx = .direct)) ∧
    (SameButSpeech s s' r r' →
      (s'.addAudibleForClient r').1.filter (fun unit => unit.fx.isHeadset) =
        (s.addAudibleForClient r).1.filter (fun unit => unit.fx.isHeadset)) := by
  refine ⟨fun h => ?_, fun hconfig hr => ?_, fun h => ?_⟩
  · rw [speaker_rows, speaker_rows, h.speakerPath]
  · rw [direct_rows, direct_rows, hr, directPath_congr r hconfig]
  · rw [headset_rows, headset_rows, h.headsetPath]

/-- Bob transmits on 41, next to a speaker on that frequency. -/
def bobOnAir : State :=
  let bob : RemoteClient := { nickname := ascii "Bob", position := { x := 3 } }
  let tx : RemoteTx :=
    { nickname := ascii "Bob"
      frequency := ascii "41"
      range := 500
      subtype := ascii "digital"
      received := 0 }
  let speaker : SpeakerData :=
    { radioId := ascii "r"
      frequencies := [ascii "41"]
      ownerNickname := ascii "Cat"
      pos := { x := 5 }
      volume := 10 }
  { clients := AList.insert (ascii "Bob") bob ∅
    remoteTx := AList.insert (ascii "Bob") tx ∅
    swFrequencies := AList.insert (ascii "41") { volume := 7 } ∅
    speakers := [speaker] }

/-- Ann's radio, her transmission, her intercom settings and the speakers around her each leave the
paths alone that are not theirs. -/
theorem ann_hears_bob_on_every_path :
    let r : Reception :=
      { me := { nickname := ascii "Ann", canUseSW := true }
        other := { nickname := ascii "Bob", position := { x := 3 } }
        now := 0 }
    let r' : Reception := { r with me := { r.me with canUseSW := false } }
    let r'' : Reception := { r with me := { r.me with canSpeak := false } }
    let untuned : State := { bobOnAir with swFrequencies := ∅, tangentPressed := true }
    let offAir : State := { bobOnAir with remoteTx := ∅, speakers := [] }
    let quiet : State := { bobOnAir with speakers := [] }
    (untuned.addAudibleForClient r').1.filter (fun unit => unit.fx = Fx.speaker) =
      (bobOnAir.addAudibleForClient r).1.filter (fun unit => unit.fx = Fx.speaker) ∧
    (offAir.addAudibleForClient r).1.filter (fun unit => unit.fx = Fx.direct) =
      (bobOnAir.addAudibleForClient r).1.filter (fun unit => unit.fx = Fx.direct) ∧
    (quiet.addAudibleForClient r'').1.filter (fun unit => unit.fx.isHeadset) =
      (bobOnAir.addAudibleForClient r).1.filter (fun unit => unit.fx.isHeadset) := by
  intro r r' r'' untuned offAir quiet
  have htuning : SameButTuning bobOnAir untuned r r' :=
    ⟨rfl, rfl, rfl, fun _ => rfl, fun _ => rfl, rfl, rfl, rfl, rfl, rfl⟩
  have hspeech : SameButSpeech bobOnAir quiet r r'' :=
    ⟨rfl, rfl, rfl, fun _ => rfl, fun _ => rfl, fun _ => rfl, rfl, rfl, rfl, rfl, rfl, rfl,
      fun _ _ => rfl⟩
  exact ⟨(paths_do_not_interfere bobOnAir untuned r r').1 htuning,
    (paths_do_not_interfere bobOnAir offAir r r).2.1 (fun _ => rfl) rfl,
    (paths_do_not_interfere bobOnAir quiet r r'').2.2 hspeech⟩

/-- What one visited sender contributes to the snapshot. -/
def rowsOf (s : State) (r : Reception) : List AudibleUnit :=
  (s.addAudibleForClient r).1.map s.finishUnit

private theorem computeAudibleUnits_rows (s : State) (now : Time) (orders : SolverOrders) :
    (s.computeAudibleUnits now orders).2 = (s.senders now orders).flatMap s.rowsOf := by
  show (((s.senders now orders).map s.addAudibleForClient).flatMap Prod.fst).map s.finishUnit = _
  rw [List.flatMap_map, List.map_flatMap]
  rfl

/-- The senders with the key under which `m_clients` holds each. -/
def keyedSenders (s : State) (now : Time) (orders : SolverOrders) : List (Bytes × Reception) :=
  if s.myNickname = [] then []
  else
    match s.findClient s.myNickname with
    | none => []
    | some me =>
        if now - me.lastUpdate < kClientExpiry then
          (orders.clients.arrange s.clients.pairs).filterMap (fun entry =>
            if entry.2.nickname = s.myNickname ∨ kClientExpiry ≤ now - entry.2.lastUpdate then none
            else some (entry.1, { me, other := entry.2, now }))
        else []

private theorem senders_eq (s : State) (now : Time) (orders : SolverOrders) :
    s.senders now orders = (s.keyedSenders now orders).map Prod.snd := by
  simp only [senders, keyedSenders]
  cases s.findClient s.myNickname with
  | none => split <;> rfl
  | some me =>
    simp only
    split
    · rfl
    · split
      · rw [List.map_filterMap]
        refine List.filterMap_congr (fun entry _ => ?_)
        split <;> rfl
      · rfl

private theorem keyedSenders_perm (s : State) (now : Time) (orders orders' : SolverOrders) :
    (s.keyedSenders now orders).Perm (s.keyedSenders now orders') := by
  have harranged : (orders.clients.arrange s.clients.pairs).Perm
      (orders'.clients.arrange s.clients.pairs) :=
    (orders.clients.perm _).trans (orders'.clients.perm _).symm
  simp only [keyedSenders]
  cases s.findClient s.myNickname with
  | none => exact List.Perm.refl _
  | some me =>
    simp only
    split
    · exact List.Perm.refl _
    · split
      · exact harranged.filterMap _
      · exact List.Perm.refl _

private theorem mem_keyedSenders {s : State} {now : Time} {orders : SolverOrders} {key : Bytes}
    {r : Reception} (h : (key, r) ∈ s.keyedSenders now orders) :
    s.clients.lookup key = some r.other := by
  simp only [keyedSenders] at h
  split at h
  · cases h
  · split at h
    · cases h
    · split at h
      · obtain ⟨entry, hentry, hsome⟩ := List.mem_filterMap.mp h
        split at hsome
        · cases hsome
        · cases hsome
          rw [IterationOrder.mem_arrange] at hentry
          exact (Dictionary.mem_pairs _ _ _).mp hentry
      · cases h

private theorem filterMap_keys_sublist {K V W : Type} (f : K × V → Option (K × W))
    (hf : ∀ entry result, f entry = some result → result.1 = entry.1) (entries : List (K × V)) :
    ((entries.filterMap f).map Prod.fst).Sublist (entries.map Prod.fst) := by
  induction entries with
  | nil => exact List.Sublist.refl _
  | cons entry rest ih =>
    rw [List.filterMap_cons, List.map_cons]
    cases hentry : f entry with
    | none => exact ih.cons _
    | some result =>
      simp only [List.map_cons]
      rw [hf entry result hentry]
      exact ih.cons_cons _

private theorem keyedSenders_nodup (s : State) (now : Time) (orders : SolverOrders) :
    ((s.keyedSenders now orders).map Prod.fst).Nodup := by
  have hkeys : (s.clients.pairs.map Prod.fst).Nodup := by
    have hnodup : s.clients.keys.Nodup := s.clients.nodupKeys
    simpa [Dictionary.pairs, AList.keys, List.keys, Function.comp_def] using hnodup
  have harranged : ((orders.clients.arrange s.clients.pairs).map Prod.fst).Nodup :=
    ((orders.clients.perm _).map Prod.fst).nodup_iff.mpr hkeys
  simp only [keyedSenders]
  split
  · exact List.nodup_nil
  · split
    · exact List.nodup_nil
    · split
      · refine (filterMap_keys_sublist _ (fun entry result hresult => ?_) _).nodup harranged
        split at hresult
        · cases hresult
        · cases hresult
          rfl
      · exact List.nodup_nil

private theorem computeAudibleUnits_state (s : State) (now : Time) (orders orders' : SolverOrders) :
    (s.computeAudibleUnits now orders).1 = (s.computeAudibleUnits now orders').1 := by
  have hsenders : (s.senders now orders).Perm (s.senders now orders') := by
    rw [senders_eq, senders_eq]
    exact (keyedSenders_perm s now orders orders').map _
  have hblocks := hsenders.map s.addAudibleForClient
  have hover := (hblocks.flatMap_right Prod.fst).filter (fun unit => unit.fx != Fx.direct)
  have htalking : (s.transmittingNames now orders).toFinset =
      (s.transmittingNames now orders').toFinset := by
    refine List.toFinset_eq_of_perm _ _ (List.Perm.filterMap _ ?_)
    exact (orders.remoteTx.perm _).trans (orders'.remoteTx.perm _).symm
  have hfrom := List.toFinset_eq_of_perm _ _ (hover.map AudibleUnit.nickname)
  have hincoming : ((s.senders now orders).map s.addAudibleForClient).any Prod.snd =
      ((s.senders now orders').map s.addAudibleForClient).any Prod.snd := by
    rw [Bool.eq_iff_iff, List.any_eq_true, List.any_eq_true]
    simp only [hblocks.mem_iff]
  simp only [computeAudibleUnits, htalking, hfrom, hover.isEmpty_eq, hincoming]

/-- A snapshot is the same whatever order the hash maps are walked in: the same new state, the
same rows, and each sender's rows in one block whose order is fixed. -/
theorem computeAudibleUnits_order (s : State) (now : Time) (orders orders' : SolverOrders) :
    (s.computeAudibleUnits now orders).1 = (s.computeAudibleUnits now orders').1 ∧
    (s.computeAudibleUnits now orders).2.Perm (s.computeAudibleUnits now orders').2 ∧
    ∃ blocks blocks' : List (Bytes × List AudibleUnit),
      (s.computeAudibleUnits now orders).2 = blocks.flatMap Prod.snd ∧
      (s.computeAudibleUnits now orders').2 = blocks'.flatMap Prod.snd ∧
      blocks.Perm blocks' ∧ (blocks.map Prod.fst).Nodup ∧
      ∀ key rows, (key, rows) ∈ blocks → ∃ sender, s.clients.lookup key = some sender ∧
        ∀ unit ∈ rows, unit.nickname = sender.nickname := by
  have hperm := keyedSenders_perm s now orders orders'
  have hrows : ∀ orders, (s.computeAudibleUnits now orders).2 =
      ((s.keyedSenders now orders).map (fun entry => (entry.1, s.rowsOf entry.2))).flatMap
        Prod.snd := by
    intro orders
    rw [computeAudibleUnits_rows, senders_eq, List.flatMap_map, List.flatMap_map]
  refine ⟨computeAudibleUnits_state s now orders orders', ?_, _, _, hrows orders, hrows orders',
    hperm.map _, ?_, ?_⟩
  · rw [hrows, hrows]
    exact (hperm.map _).flatMap_right _
  · rw [List.map_map]
    exact keyedSenders_nodup s now orders
  · intro key rows hmem
    obtain ⟨⟨k, r⟩, hr, heq⟩ := List.mem_map.mp hmem
    cases heq
    refine ⟨r.other, mem_keyedSenders hr, fun unit hunit => ?_⟩
    obtain ⟨row, hrow, rfl⟩ := List.mem_map.mp hunit
    exact (mem_addAudibleForClient hrow).1

end State

end TaskForceRadio.Extension
