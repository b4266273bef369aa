import TaskForceRadio.Extension.Command
import TaskForceRadio.Foundation.Execution

/-!
# One mission after another

What MISSIONEND and the next snapshot leave of the mission before: the configuration, the names,
the flags of the voice connection and what FREQ sets for good. Of the rest two fields keep their
values, and nothing reads them before they are written again.
-/

set_option autoImplicit false

namespace TaskForceRadio.Extension

open Voice (Time)

namespace State

inductive Interaction where
  | command (now : Time) (c : Command)
  | setRemoteTx (now : Time) (order : IterationOrder (Bytes × Bytes)) (uid : Bytes)
      (active : Bool) (freq : Bytes) (range : Float32) (subtype : Bytes)
  | setVoiceConnected (connected : Bool)
  | setLocalTransmitting (transmitting : Bool)
  | computeAudibleUnits (now : Time) (orders : SolverOrders)
  | localTxState
  | takeTransmitOverride
  | speakingPair (nickname : Bytes)
  | tsInfo (pluginVersion opusVersion sub : Bytes)
  | needsConfig (now : Time)

inductive Answer where
  | done
  | units (rows : List AudibleUnit)
  | localTx (tx : LocalTxState)
  | override (change : Option (Option Bool))
  | text (reply : Bytes)
  | configNeeded (needed : Bool)

def interact (s : State) : Interaction → State × Answer
  | .command now c => (s.execute now c, .done)
  | .setRemoteTx now order uid active freq range subtype =>
      (s.setRemoteTx now order uid active freq range subtype, .done)
  | .setVoiceConnected connected => (s.setVoiceConnected connected, .done)
  | .setLocalTransmitting transmitting => (s.setLocalTransmitting transmitting, .done)
  | .computeAudibleUnits now orders =>
      let (s', rows) := s.computeAudibleUnits now orders
      (s', .units rows)
  | .localTxState => (s, .localTx s.localTxState)
  | .takeTransmitOverride =>
      let (s', change) := s.takeTransmitOverride
      (s', .override change)
  | .speakingPair nickname => (s, .text (s.speakingPair nickname))
  | .tsInfo pluginVersion opusVersion sub => (s, .text (s.tsInfo pluginVersion opusVersion sub))
  | .needsConfig now =>
      let (s', needed) := s.needsConfig now
      (s', .configNeeded needed)

/-- What two states may differ in: the last tangent, and how two of the maps are stored. -/
structure Disguise where
  tangentIsLr : Bool
  txSubtype : Bytes
  config : Dictionary Bytes Bytes
  nameToUid : Dictionary Bytes Bytes

def disguised (s : State) (d : Disguise) : State :=
  { s with
    tangentIsLr := d.tangentIsLr
    txSubtype := d.txSubtype
    config := d.config
    nameToUid := d.nameToUid }

/-- The maps hold the same, and so does the last tangent while it is pressed. -/
structure Disguise.Fits (d : Disguise) (s : State) : Prop where
  config : ∀ key, d.config.lookup key = s.config.lookup key
  nameToUid : ∀ name, d.nameToUid.lookup name = s.nameToUid.lookup name
  subtype : s.tangentPressed = true → d.txSubtype = s.txSubtype

def Alike (s s' : State) : Prop := ∃ d : Disguise, d.Fits s ∧ s' = s.disguised d

/-- What a call does that neither reads the four fields nor presses the tangent. -/
structure Blind (f : State → State) : Prop where
  commutes : ∀ s d, f (disguised s d) = (f s).disguised d
  config : ∀ s, (f s).config = s.config
  nameToUid : ∀ s, (f s).nameToUid = s.nameToUid
  pressed : ∀ s, (f s).tangentPressed = true →
    s.tangentPressed = true ∧ (f s).txSubtype = s.txSubtype

private theorem Blind.alike {f : State → State} (hf : Blind f) {s s' : State} (h : Alike s s') :
    Alike (f s) (f s') := by
  obtain ⟨d, hd, rfl⟩ := h
  refine ⟨d, ⟨?_, ?_, ?_⟩, hf.commutes _ _⟩
  · rw [hf.config]
    exact hd.config
  · rw [hf.nameToUid]
    exact hd.nameToUid
  · intro hafter
    obtain ⟨hbefore, hsame⟩ := hf.pressed s hafter
    rw [hsame]
    exact hd.subtype hbefore

private theorem blind_of_frame {f : State → State}
    (hcommutes : ∀ s d, f (disguised s d) = (f s).disguised d)
    (hframe : ∀ s, (f s).config = s.config ∧ (f s).nameToUid = s.nameToUid ∧
      (f s).tangentPressed = s.tangentPressed ∧ (f s).txSubtype = s.txSubtype) :
    Blind f := by
  refine ⟨hcommutes, fun s => (hframe s).1, fun s => (hframe s).2.1, ?_⟩
  intro s hpressed
  obtain ⟨_, _, hsame, hsubtype⟩ := hframe s
  rw [hsame] at hpressed
  exact ⟨hpressed, hsubtype⟩

private theorem markDead_disguised (s : State) (d : Disguise) (name : Bytes) :
    (s.disguised d).markDead name =
      (s.markDead name).disguised d := by
  have hlookup : (s.disguised d).clients.lookup name =
      s.clients.lookup name := rfl
  unfold markDead
  rw [hlookup]
  cases s.clients.lookup name <;> rfl

private theorem blind_handlePos (now : Time) (tokens : List Bytes) :
    Blind (fun s => s.handlePos now tokens) := by
  apply blind_of_frame
  · intro s d
    simp only [handlePos, disguised]
    split
    · rfl
    · split <;> rfl
  · intro s
    rw [handlePos_frame]
    exact ⟨rfl, rfl, rfl, rfl⟩

private theorem blind_handleFreq (tokens : List Bytes) : Blind (fun s => s.handleFreq tokens) := by
  apply blind_of_frame
  · intro s d
    simp only [handleFreq, disguised]
    split
    · rfl
    · show (if (!s.alive && (s.readFreq tokens).alive) = true then _ else _) = _
      split <;> rfl
  · intro s
    rw [handleFreq_frame]
    exact ⟨rfl, rfl, rfl, rfl⟩

private theorem blind_handleSpeakers (tokens : List Bytes) : Blind
    (fun s => s.handleSpeakers tokens) := by
  apply blind_of_frame
  · intro s d
    simp only [handleSpeakers, disguised]
    split <;> rfl
  · intro s
    rw [handleSpeakers_frame]
    exact ⟨rfl, rfl, rfl, rfl⟩

private theorem blind_handleKilled (nickname : Bytes) : Blind
    (fun s => s.handleKilled nickname) := by
  refine ⟨?_, ?_, ?_, ?_⟩
  · intro s d
    simp only [handleKilled]
    rw [markDead_disguised]
    generalize s.markDead (convertNickname nickname) = t
    by_cases hme : convertNickname nickname ≠ [] ∧ convertNickname nickname = t.myNickname
    · rw [if_pos hme, if_pos (by exact hme)]
      rfl
    · rw [if_neg hme, if_neg (by exact hme)]
  · intro s
    rw [handleKilled_frame]
  · intro s
    rw [handleKilled_frame]
  · intro s
    simp only [handleKilled]
    rw [markDead_frame]
    split
    · intro hpressed
      cases hpressed
    · exact fun hpressed => ⟨hpressed, rfl⟩

private theorem blind_handleReleaseAllTangents (nickname : Bytes) :
    Blind (fun s => s.handleReleaseAllTangents nickname) := by
  refine ⟨?_, ?_, ?_, ?_⟩
  · intro s d
    simp only [handleReleaseAllTangents]
    by_cases hother : convertNickname nickname ≠ [] ∧ s.myNickname ≠ [] ∧
        convertNickname nickname ≠ s.myNickname
    · rw [if_pos hother, if_pos (by exact hother)]
    · rw [if_neg hother, if_neg (by exact hother)]
      rfl
  · intro s
    rw [handleReleaseAllTangents_frame]
  · intro s
    rw [handleReleaseAllTangents_frame]
  · intro s
    simp only [handleReleaseAllTangents]
    split
    · exact fun hpressed => ⟨hpressed, rfl⟩
    · intro hpressed
      cases hpressed

private theorem blind_handleAddRadioTowers (payload : Bytes) :
    Blind (fun s => s.handleAddRadioTowers payload) := by
  apply blind_of_frame
  · intro s d
    simp only [handleAddRadioTowers, disguised]
    split <;> rfl
  · intro s
    rw [handleAddRadioTowers_frame]
    exact ⟨rfl, rfl, rfl, rfl⟩

private theorem blind_handleDelRadioTowers (payload : Bytes) :
    Blind (fun s => s.handleDelRadioTowers payload) := by
  apply blind_of_frame
  · intro s d
    simp only [handleDelRadioTowers, disguised]
    split <;> rfl
  · intro s
    rw [handleDelRadioTowers_frame]
    exact ⟨rfl, rfl, rfl, rfl⟩

private theorem blind_handleMissionEnd : Blind handleMissionEnd := by
  refine ⟨fun _ _ => rfl, fun _ => rfl, fun _ => rfl, ?_⟩
  intro s hpressed
  cases hpressed

private theorem blind_setVoiceConnected (connected : Bool) :
    Blind (fun s => s.setVoiceConnected connected) :=
  blind_of_frame (fun _ _ => rfl) (fun _ => ⟨rfl, rfl, rfl, rfl⟩)

private theorem blind_setLocalTransmitting (transmitting : Bool) :
    Blind (fun s => s.setLocalTransmitting transmitting) :=
  blind_of_frame (fun _ _ => rfl) (fun _ => ⟨rfl, rfl, rfl, rfl⟩)

private theorem blind_takeTransmitOverride : Blind (fun s => s.takeTransmitOverride.1) :=
  blind_of_frame (fun _ _ => rfl) (fun _ => ⟨rfl, rfl, rfl, rfl⟩)

private theorem needsConfig_disguised (s : State) (d : Disguise) (now : Time) :
    (s.disguised d).needsConfig now =
      ((s.needsConfig now).1.disguised d, (s.needsConfig now).2) := by
  simp only [needsConfig]
  by_cases hhave : s.haveConfig = true
  · rw [if_pos hhave, if_pos (by exact hhave)]
  · rw [if_neg hhave, if_neg (by exact hhave)]
    by_cases hrecent : s.configRequestedAt ≠ 0 ∧ now - s.configRequestedAt < Voice.seconds 3
    · rw [if_pos hrecent, if_pos (by exact hrecent)]
    · rw [if_neg hrecent, if_neg (by exact hrecent)]
      rfl

private theorem blind_needsConfig (now : Time) : Blind (fun s => (s.needsConfig now).1) := by
  apply blind_of_frame
  · intro s d
    rw [needsConfig_disguised]
  · intro s
    simp only [needsConfig]
    split
    · exact ⟨rfl, rfl, rfl, rfl⟩
    · split <;> exact ⟨rfl, rfl, rfl, rfl⟩

section Handlers
variable {s s' : State} (h : Alike s s')
include h

/-- TANGENT is either a repetition for both or writes the last tangent anew. -/
theorem Alike.handleTangent (tokens : List Bytes) :
    Alike (s.handleTangent tokens) (s'.handleTangent tokens) := by
  obtain ⟨d, hd, rfl⟩ := h
  simp only [State.handleTangent, disguised]
  split
  · exact ⟨d, hd, rfl⟩
  · split
    · exact ⟨d, hd, rfl⟩
    · exact ⟨{ d with
        tangentIsLr := tokens.getD 0 [] == ascii "TANGENT_LR"
        txSubtype := tokens.getD 4 [] }, ⟨hd.config, hd.nameToUid, fun _ => rfl⟩, rfl⟩

theorem Alike.handleSetCfg (tokens : List Bytes) :
    Alike (s.handleSetCfg tokens) (s'.handleSetCfg tokens) := by
  obtain ⟨d, hd, rfl⟩ := h
  simp only [State.handleSetCfg, disguised]
  split
  · exact ⟨d, hd, rfl⟩
  · split
    · exact ⟨d, hd, rfl⟩
    · have hfits : ∀ key value, Disguise.Fits { d with config := d.config.insert key value }
          { s with
            config := s.config.insert key value
            haveConfig := true } := by
        refine fun key value => ⟨?_, hd.nameToUid, hd.subtype⟩
        intro k
        rw [Dictionary.lookup_insert_ite, Dictionary.lookup_insert_ite, hd.config]
      exact ⟨_, hfits _ _, rfl⟩

theorem Alike.handleUid (nickname uid : Bytes) :
    Alike (s.handleUid nickname uid) (s'.handleUid nickname uid) := by
  obtain ⟨d, hd, rfl⟩ := h
  simp only [State.handleUid, disguised]
  split
  · exact ⟨d, hd, rfl⟩
  · have hfits : ∀ name, Disguise.Fits { d with nameToUid := d.nameToUid.insert name uid }
        { s with nameToUid := s.nameToUid.insert name uid } := by
      refine fun name => ⟨hd.config, ?_, hd.subtype⟩
      intro n
      rw [Dictionary.lookup_insert_ite, Dictionary.lookup_insert_ite, hd.nameToUid]
    exact ⟨_, hfits _, rfl⟩

/-- Every command keeps states alike. -/
theorem Alike.execute (now : Time) (c : Command) :
    Alike (s.execute now c) (s'.execute now c) := by
  cases c with
  | pos tokens => exact (blind_handlePos now tokens).alike h
  | freq tokens => exact (blind_handleFreq tokens).alike h
  | tangent tokens => exact h.handleTangent tokens
  | speakers tokens => exact (blind_handleSpeakers tokens).alike h
  | setCfg tokens => exact h.handleSetCfg tokens
  | killed nickname => exact (blind_handleKilled nickname).alike h
  | uid nickname uid => exact h.handleUid nickname uid
  | releaseAllTangents nickname => exact (blind_handleReleaseAllTangents nickname).alike h
  | addRadioTowers payload => exact (blind_handleAddRadioTowers payload).alike h
  | delRadioTowers payload => exact (blind_handleDelRadioTowers payload).alike h
  | missionEnd => exact blind_handleMissionEnd.alike h
  | dataFrame => exact h
  | micPtt held => exact h
  | micMute => exact h
  | speakerMute => exact h
  | ignored => exact h

end Handlers

section Answers
variable {s s' : State} (h : Alike s s')
include h

theorem Alike.localTxState : s'.localTxState = s.localTxState := by
  obtain ⟨d, hd, rfl⟩ := h
  simp only [State.localTxState]
  by_cases hpressed : s.tangentPressed = true
  · rw [if_pos hpressed, if_pos (by exact hpressed)]
    show ({ active := true, freq := s.txFrequency, range := s.txRange, subtype := d.txSubtype } :
      LocalTxState) = _
    rw [hd.subtype hpressed]
  · rw [if_neg hpressed, if_neg (by exact hpressed)]

theorem Alike.speakingPair (nickname : Bytes) :
    s'.speakingPair nickname = s.speakingPair nickname := by
  obtain ⟨d, _, rfl⟩ := h
  rfl

theorem Alike.tsInfo (pluginVersion opusVersion sub : Bytes) :
    s'.tsInfo pluginVersion opusVersion sub = s.tsInfo pluginVersion opusVersion sub := by
  obtain ⟨d, _, rfl⟩ := h
  rfl

theorem Alike.takeTransmitOverride : s'.takeTransmitOverride.2 = s.takeTransmitOverride.2 := by
  obtain ⟨d, _, rfl⟩ := h
  rfl

theorem Alike.needsConfig (now : Time) : (s'.needsConfig now).2 = (s.needsConfig now).2 := by
  obtain ⟨d, _, rfl⟩ := h
  rw [needsConfig_disguised]

end Answers

section Solver
variable {s : State} {d : Disguise} (hd : d.Fits s)
include hd

private theorem configBool_disguised (key : String) (fallback : Bool) :
    (s.disguised d).configBool key fallback =
      s.configBool key fallback := by
  have hlookup : (s.disguised d).config.lookup (ascii key) =
      s.config.lookup (ascii key) := hd.config _
  simp only [configBool]
  rw [hlookup]

private theorem configFloat_disguised (key : String) (fallback : Float32) :
    (s.disguised d).configFloat key fallback =
      s.configFloat key fallback := by
  have hlookup : (s.disguised d).config.lookup (ascii key) =
      s.config.lookup (ascii key) := hd.config _
  simp only [configFloat]
  rw [hlookup]

private theorem headsetSetting_disguised (me : RemoteClient) (tx : RemoteTx) :
    (s.disguised d).headsetSetting me tx = s.headsetSetting me tx := by
  simp only [headsetSetting, configBool_disguised hd]
  rfl

private theorem headsetUnit_disguised (r : Reception) (tx : RemoteTx) (reach : TxReach)
    (setting : FreqSetting) (fx : Fx) :
    (s.disguised d).headsetUnit r tx reach setting fx =
      s.headsetUnit r tx reach setting fx := by
  simp only [headsetUnit, configBool_disguised hd]
  rfl

private theorem headsetRow_disguised (r : Reception) (tx : RemoteTx) (reach : TxReach) :
    (s.disguised d).headsetRow r tx reach = s.headsetRow r tx reach := by
  simp only [headsetRow, headsetSetting_disguised hd, headsetUnit_disguised hd]

private theorem radioRows_disguised (r : Reception) (tx : Option RemoteTx) :
    (s.disguised d).radioRows r tx = s.radioRows r tx := by
  simp only [radioRows, headsetRow_disguised hd]
  rfl

private theorem intercomRows_disguised (r : Reception) (tx : Option RemoteTx) :
    (s.disguised d).intercomRows r tx = s.intercomRows r tx := by
  simp only [intercomRows, configBool_disguised hd, configFloat_disguised hd]
  rfl

private theorem directRows_disguised (r : Reception) :
    (s.disguised d).directRows r = s.directRows r := by
  simp only [directRows, notHearableInSpectator, configBool_disguised hd]
  rfl

private theorem addAudibleForClient_disguised (r : Reception) :
    (s.disguised d).addAudibleForClient r = s.addAudibleForClient r := by
  simp only [addAudibleForClient, configBool_disguised hd, radioRows_disguised hd,
    intercomRows_disguised hd, directRows_disguised hd]
  rfl

private theorem finishUnit_disguised (unit : AudibleUnit) :
    (s.disguised d).finishUnit unit = s.finishUnit unit := by
  have hname : (s.disguised d).nameToUid.lookup unit.nickname = s.nameToUid.lookup unit.nickname :=
    hd.nameToUid _
  simp only [finishUnit, uidFor]
  rw [hname]
  rfl

private theorem computeAudibleUnits_disguised (now : Time) (orders : SolverOrders) :
    (s.disguised d).computeAudibleUnits now orders =
      ((s.computeAudibleUnits now orders).1.disguised d, (s.computeAudibleUnits now orders).2) := by
  have hsenders : (s.disguised d).senders now orders = s.senders now orders := rfl
  have hrows : (s.disguised d).addAudibleForClient = s.addAudibleForClient :=
    funext (addAudibleForClient_disguised hd)
  have hfinish : (s.disguised d).finishUnit = s.finishUnit := funext (finishUnit_disguised hd)
  simp only [computeAudibleUnits]
  rw [hsenders, hrows, hfinish]
  rfl

private theorem nameOf_disguised {uid : Bytes}
    (hone : ∀ n n', s.nameToUid.lookup n = some uid → s.nameToUid.lookup n' = some uid → n = n')
    (order order' : IterationOrder (Bytes × Bytes)) :
    (s.disguised d).nameOf order' uid = s.nameOf order uid := by
  have hfirst : Dictionary.firstKeyOf order' d.nameToUid uid =
      Dictionary.firstKeyOf order s.nameToUid uid := by
    cases hkey : Dictionary.firstKeyOf order s.nameToUid uid with
    | none =>
      rw [Dictionary.firstKeyOf_eq_none] at hkey ⊢
      intro n
      rw [hd.nameToUid]
      exact hkey n
    | some n =>
      have hn := Dictionary.firstKeyOf_lookup hkey
      apply Dictionary.firstKeyOf_unique
      · rw [hd.nameToUid]
        exact hn
      · intro n' hn'
        rw [hd.nameToUid] at hn'
        exact hone n' n hn' hn
  simp only [nameOf]
  show (if (Dictionary.firstKeyOf order' d.nameToUid uid).getD [] = [] ∧
      (s.clients.lookup uid).isSome then uid
    else (Dictionary.firstKeyOf order' d.nameToUid uid).getD []) = _
  rw [hfirst]

end Solver

theorem Alike.computeAudibleUnits {s s' : State} (h : Alike s s') (now : Time)
    (orders : SolverOrders) :
    Alike (s.computeAudibleUnits now orders).1 (s'.computeAudibleUnits now orders).1 ∧
      (s'.computeAudibleUnits now orders).2 = (s.computeAudibleUnits now orders).2 := by
  obtain ⟨d, hd, rfl⟩ := h
  rw [computeAudibleUnits_disguised hd]
  exact ⟨⟨d, ⟨hd.config, hd.nameToUid, hd.subtype⟩, rfl⟩, rfl⟩

theorem Alike.setRemoteTx {s s' : State} (h : Alike s s') (now : Time)
    (order order' : IterationOrder (Bytes × Bytes)) {uid : Bytes}
    (hone : ∀ n n', s.nameToUid.lookup n = some uid → s.nameToUid.lookup n' = some uid → n = n')
    (active : Bool) (freq : Bytes) (range : Float32) (subtype : Bytes) :
    Alike (s.setRemoteTx now order uid active freq range subtype)
      (s'.setRemoteTx now order' uid active freq range subtype) := by
  obtain ⟨d, hd, rfl⟩ := h
  have hname := nameOf_disguised hd hone order order'
  simp only [State.setRemoteTx]
  rw [hname]
  split
  · exact ⟨d, hd, rfl⟩
  · split
    · exact ⟨d, hd, rfl⟩
    · split
      · exact ⟨d, ⟨hd.config, hd.nameToUid, hd.subtype⟩, rfl⟩
      · exact ⟨d, ⟨hd.config, hd.nameToUid, hd.subtype⟩, rfl⟩

section Orders
variable (s : State) (now : Time) (orders orders' : SolverOrders)

private theorem arrange_perm {α : Type} (order order' : IterationOrder α) (xs : List α) :
    (order'.arrange xs).Perm (order.arrange xs) :=
  (order'.perm xs).trans (order.perm xs).symm

private theorem senders_perm : (s.senders now orders').Perm (s.senders now orders) := by
  simp only [senders]
  split
  · exact List.Perm.refl _
  · split
    · exact List.Perm.refl _
    · split
      · exact (arrange_perm _ _ _).filterMap _
      · exact List.Perm.refl _

private theorem computeAudibleUnits_orders :
    (s.computeAudibleUnits now orders').1 = (s.computeAudibleUnits now orders).1 ∧
      (s.computeAudibleUnits now orders').2.Perm (s.computeAudibleUnits now orders).2 := by
  have hsenders := (s.senders_perm now orders orders').map s.addAudibleForClient
  have hrows := hsenders.flatMap_right Prod.fst
  have hradio := hrows.filter (fun unit => unit.fx != .direct)
  have htalking : (s.transmittingNames now orders').toFinset =
      (s.transmittingNames now orders).toFinset :=
    List.toFinset_eq_of_perm _ _ ((arrange_perm _ _ _).filterMap _)
  have hreceiving := List.toFinset_eq_of_perm _ _ (hradio.map AudibleUnit.nickname)
  have hany := hradio.isEmpty_eq
  have hlr := hsenders.any_eq (f := Prod.snd)
  refine ⟨?_, hrows.map s.finishUnit⟩
  simp only [State.computeAudibleUnits]
  rw [htalking, hreceiving, hany, hlr]

end Orders

/-- The same configuration and the same names, however the maps store them, the same voice
connection and the same FREQ scalars; everything else is open. -/
structure SameSettings (s s' : State) : Prop where
  config : ∀ key, s'.config.lookup key = s.config.lookup key
  nameToUid : ∀ name, s'.nameToUid.lookup name = s.nameToUid.lookup name
  myNickname : s'.myNickname = s.myNickname
  voiceConnected : s'.voiceConnected = s.voiceConnected
  statusTransmitting : s'.statusTransmitting = s.statusTransmitting
  speakVolumeMeters : s'.speakVolumeMeters = s.speakVolumeMeters
  wavesLevel : s'.wavesLevel = s.wavesLevel
  terrain : s'.terrainInterceptionCoefficient = s.terrainInterceptionCoefficient
  globalVolume : s'.globalVolume = s.globalVolume
  multiplicator : s'.receivingDistanceMultiplicator = s.receivingDistanceMultiplicator
  speakerDistance : s'.speakerDistance = s.speakerDistance

/-- MISSIONEND and the next snapshot. -/
def afterMission (s : State) (now : Time) (orders : SolverOrders) : State :=
  (s.handleMissionEnd.computeAudibleUnits now orders).1

private theorem afterMission_eq (s : State) (now : Time) (orders : SolverOrders) :
    s.afterMission now orders =
      { s.handleMissionEnd with
        talkingNames := ∅
        lrIncoming := false
        lrIncomingPending := false } := by
  have hsenders : s.handleMissionEnd.senders now orders = [] := by
    simp only [senders]
    split
    · rfl
    · rfl
  have htransmitting : s.handleMissionEnd.transmittingNames now orders = [] := by
    have hnone := (orders.remoteTx.perm []).eq_nil
    simp only [transmittingNames]
    show (orders.remoteTx.arrange []).filterMap _ = []
    rw [hnone]
    rfl
  simp only [afterMission, State.computeAudibleUnits]
  rw [hsenders, htransmitting]
  rfl

private theorem alike_afterMission {s s' : State} (h : SameSettings s s') (now now' : Time)
    (orders orders' : SolverOrders) :
    Alike (s.afterMission now orders) (s'.afterMission now' orders') := by
  rw [afterMission_eq, afterMission_eq]
  refine ⟨⟨s'.tangentIsLr, s'.txSubtype, s'.config, s'.nameToUid⟩,
    ⟨h.config, h.nameToUid, ?_⟩, ?_⟩
  · intro hpressed
    cases hpressed
  · simp only [State.handleMissionEnd, queueLocalMessage, disguised, h.myNickname,
      h.voiceConnected, h.statusTransmitting, h.speakVolumeMeters, h.wavesLevel, h.terrain,
      h.globalVolume, h.multiplicator, h.speakerDistance]

/-- The same call at the same time; the loops over the hash maps may take other orders. -/
inductive SameCall : Interaction → Interaction → Prop where
  | same (call : Interaction) : SameCall call call
  | setRemoteTx (now : Time) (order order' : IterationOrder (Bytes × Bytes)) (uid : Bytes)
      (active : Bool) (freq : Bytes) (range : Float32) (subtype : Bytes) :
      SameCall (.setRemoteTx now order uid active freq range subtype)
        (.setRemoteTx now order' uid active freq range subtype)
  | snapshot (now : Time) (orders orders' : SolverOrders) :
      SameCall (.computeAudibleUnits now orders) (.computeAudibleUnits now orders')

/-- The same answer, up to the order of the rows of a snapshot. -/
inductive SameAnswer : Answer → Answer → Prop where
  | same (answer : Answer) : SameAnswer answer answer
  | snapshot {rows rows' : List AudibleUnit} (h : rows'.Perm rows) :
      SameAnswer (.units rows) (.units rows')

/-- A transmission is filed for a uid that no two nicknames share. -/
def OneNickname (s : State) : Interaction → Prop
  | .setRemoteTx _ _ uid _ _ _ _ =>
      ∀ n n', s.nameToUid.lookup n = some uid → s.nameToUid.lookup n' = some uid → n = n'
  | _ => True

private theorem Alike.interact {s s' : State} (h : Alike s s') (call : Interaction)
    (hone : s.OneNickname call) :
    Alike (s.interact call).1 (s'.interact call).1 ∧
      (s.interact call).2 = (s'.interact call).2 := by
  cases call with
  | command now c => exact ⟨h.execute now c, rfl⟩
  | setRemoteTx now order uid active freq range subtype =>
    exact ⟨h.setRemoteTx now order order hone active freq range subtype, rfl⟩
  | setVoiceConnected connected => exact ⟨(blind_setVoiceConnected connected).alike h, rfl⟩
  | setLocalTransmitting transmitting =>
    exact ⟨(blind_setLocalTransmitting transmitting).alike h, rfl⟩
  | computeAudibleUnits now orders =>
    obtain ⟨halike, hrows⟩ := h.computeAudibleUnits now orders
    exact ⟨halike, congrArg Answer.units hrows.symm⟩
  | localTxState => exact ⟨h, congrArg Answer.localTx h.localTxState.symm⟩
  | takeTransmitOverride =>
    have halike := blind_takeTransmitOverride.alike h
    exact ⟨halike, congrArg Answer.override h.takeTransmitOverride.symm⟩
  | speakingPair nickname => exact ⟨h, congrArg Answer.text (h.speakingPair nickname).symm⟩
  | tsInfo pluginVersion opusVersion sub =>
    exact ⟨h, congrArg Answer.text (h.tsInfo pluginVersion opusVersion sub).symm⟩
  | needsConfig now =>
    have halike := (blind_needsConfig now).alike h
    exact ⟨halike, congrArg Answer.configNeeded (h.needsConfig now).symm⟩

private theorem Alike.interact_sameCall {s s' : State} (h : Alike s s') {call call' : Interaction}
    (hcall : SameCall call call') (hone : s.OneNickname call) :
    Alike (s.interact call).1 (s'.interact call').1 ∧
      SameAnswer (s.interact call).2 (s'.interact call').2 := by
  cases hcall with
  | same =>
    obtain ⟨halike, hanswer⟩ := h.interact call hone
    rw [← hanswer]
    exact ⟨halike, SameAnswer.same _⟩
  | setRemoteTx now order order' uid active freq range subtype =>
    exact ⟨h.setRemoteTx now order order' hone active freq range subtype, SameAnswer.same _⟩
  | snapshot now orders orders' =>
    obtain ⟨halike, hrows⟩ := h.computeAudibleUnits now orders
    obtain ⟨hstate, hperm⟩ := s'.computeAudibleUnits_orders now orders orders'
    refine ⟨?_, SameAnswer.snapshot ?_⟩
    · show Alike (s.computeAudibleUnits now orders).1 (s'.computeAudibleUnits now orders').1
      rw [hstate]
      exact halike
    · show (s'.computeAudibleUnits now orders').2.Perm (s.computeAudibleUnits now orders).2
      rw [← hrows]
      exact hperm

/-- After MISSIONEND and one snapshot nothing tells the missions before apart, as long as no
transmission is filed for a uid of several nicknames: the same calls get the same answers, and
where the hash maps are walked in other orders, the same rows in other orders. -/
theorem mission_isolation {s s' : State} (h : SameSettings s s') (now now' : Time)
    (orders orders' : SolverOrders) :
    (∀ calls, CallsGuarded interact OneNickname (s.afterMission now orders) calls →
        answers interact (s.afterMission now orders) calls =
          answers interact (s'.afterMission now' orders') calls) ∧
      ∀ calls calls', CallsGuarded interact OneNickname (s.afterMission now orders) calls →
        List.Forall₂ SameCall calls calls' →
          List.Forall₂ SameAnswer (answers interact (s.afterMission now orders) calls)
            (answers interact (s'.afterMission now' orders') calls') := by
  have halike := alike_afterMission h now now' orders orders'
  constructor
  · intro calls hguarded
    have hequal : List.Forall₂ Eq calls calls := List.forall₂_same.mpr (fun _ _ => rfl)
    rw [← List.forall₂_eq_eq_eq]
    refine forall₂_answers ?_ halike hequal hguarded
    rintro t t' call _ ht rfl hone
    exact ht.interact call hone
  · intro calls calls' hguarded hcalls
    refine forall₂_answers ?_ halike hcalls hguarded
    intro t t' call call' ht hcall hone
    exact ht.interact_sameCall hcall hone

section Examples

/-- Two nicknames of one uid, in the order in which UID named them. -/
def twoNames (first second : Bytes) : State :=
  (({} : State).handleUid first (ascii "7656")).handleUid second (ascii "7656")

/-- A player at the origin, his other fields empty. -/
def posOf (nickname : Bytes) : Interaction :=
  .command 1 (.pos (ascii "POS" :: nickname :: List.replicate 12 []))

/-- Ann is on the map, the uid transmits, and the game asks whether Ann speaks. -/
def sharedUidSpeaks : List Interaction :=
  [posOf (ascii "Ann"),
    .setRemoteTx 1 .stored (ascii "7656") true (ascii "50") 1000 (ascii "digital"),
    .computeAudibleUnits 2 {}, .speakingPair (ascii "Ann")]

private theorem twoNames_sameSettings :
    SameSettings (twoNames (ascii "Ann") (ascii "Bob")) (twoNames (ascii "Bob") (ascii "Ann")) := by
  refine ⟨fun _ => rfl, ?_, rfl, rfl, rfl, rfl, rfl, rfl, rfl, rfl, rfl⟩
  intro name
  show (((∅ : Dictionary Bytes Bytes).insert (ascii "Bob") (ascii "7656")).insert (ascii "Ann")
      (ascii "7656")).lookup name =
    (((∅ : Dictionary Bytes Bytes).insert (ascii "Ann") (ascii "7656")).insert (ascii "Bob")
      (ascii "7656")).lookup name
  rw [Dictionary.lookup_insert_ite, Dictionary.lookup_insert_ite, Dictionary.lookup_insert_ite,
    Dictionary.lookup_insert_ite]
  split <;> split <;> rfl

/-- The same names, told in another order: whose transmission it is comes out differently, and
one game hears that Ann speaks while the other does not. -/
theorem shared_uid_not_isolated :
    ¬ ∀ s s' : State, SameSettings s s' → ∀ (now : Time) (orders : SolverOrders) calls,
      answers interact (s.afterMission now orders) calls =
        answers interact (s'.afterMission now orders) calls := by
  intro hclaim
  have hsame := hclaim _ _ twoNames_sameSettings 0 {} sharedUidSpeaks
  have htexts := congrArg (fun replies => replies.getD 3 .done) hsame
  exact absurd (Answer.text.inj htexts) (by decide +kernel)

/-- A client that has seen a mission: a player, his transmission, a radio on his frequency. -/
def veteran : State where
  clients := (∅ : Dictionary Bytes RemoteClient).insert (ascii "Bob") { nickname := ascii "Bob" }
  swFrequencies := (∅ : Dictionary Bytes FreqSetting).insert (ascii "50") {}
  alive := true
  tangentPressed := true
  txFrequency := ascii "50"
  txSubtype := ascii "digital"
  remoteTx := (∅ : Dictionary Bytes RemoteTx).insert (ascii "Bob")
    { nickname := ascii "Bob"
      frequency := ascii "50"
      subtype := ascii "digital"
      received := 0 }
  haveConfig := true

/-- A fresh client and one that has seen a mission answer the next one alike. -/
theorem veteran_isolation :
    let calls : List Interaction :=
      [posOf (ascii "Bob"), .command 1 (.uid (ascii "Bob") (ascii "7656")),
        .setRemoteTx 1 .stored (ascii "7656") true (ascii "50") 1000 (ascii "digital"),
        .computeAudibleUnits 2 {}, .speakingPair (ascii "Bob"), .localTxState, .needsConfig 2,
        .takeTransmitOverride]
    answers interact (State.afterMission {} 0 {}) calls =
      answers interact (veteran.afterMission 0 {}) calls := by
  intro calls
  have hsame : SameSettings {} veteran :=
    ⟨fun _ => rfl, fun _ => rfl, rfl, rfl, rfl, rfl, rfl, rfl, rfl, rfl, rfl⟩
  apply (mission_isolation hsame 0 0 {} {}).1 calls
  refine ⟨trivial, trivial, ?_, trivial, trivial, trivial, trivial, trivial, trivial⟩
  intro n n' hn hn'
  have hnames : ∀ name u, ((∅ : Dictionary Bytes Bytes).insert (ascii "Bob") (ascii "7656")).lookup
      name = some u → name = ascii "Bob" := by
    intro name u hname
    rw [Dictionary.lookup_insert_ite] at hname
    split at hname
    · assumption
    · cases hname
  rw [hnames n _ hn, hnames n' _ hn']

end Examples

end State

end TaskForceRadio.Extension
