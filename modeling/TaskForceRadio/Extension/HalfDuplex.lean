import Mathlib.Tactic.NormNum
import TaskForceRadio.Extension.Paths

/-!
# Half duplex

With `full_duplex` off a radio that transmits does not receive. The solver first selects one radio
for the frequency of a transmission, then asks whether it is the one that transmits.
-/

set_option autoImplicit false

namespace TaskForceRadio.Extension

/-- An entry of a frequency list that names a radio. -/
def frequencyEntry (entry : Bytes) : Option (Bytes × FreqSetting) :=
  if entry.length < 2 then none
  else
    match split (stripEnds entry) 0x7C with
    | [frequency, volume, stereoMode] =>
        some (frequency,
          { volume := parseArmaNumberToInt volume, stereoMode := parseArmaNumberToInt stereoMode })
    | [frequency, volume, stereoMode, radioClassname] =>
        some (frequency,
          { volume := parseArmaNumberToInt volume
            stereoMode := parseArmaNumberToInt stereoMode
            radioClassname })
    | _ => none

/-- Every radio that a list names, with its frequency. -/
def frequencyEntries (raw : Bytes) : List (Bytes × FreqSetting) :=
  if raw.length < 2 then []
  else if stripEnds raw = [] then []
  else (split (stripEnds raw) 0x2C).filterMap frequencyEntry

/-- The radio that a list names last for a frequency. -/
def lastListed (raw frequency : Bytes) : Option FreqSetting :=
  ((frequencyEntries raw).findRev? (fun e => e.1 = frequency)).map Prod.snd

private theorem insertFrequency_eq (result : Dictionary Bytes FreqSetting) (entry : Bytes) :
    insertFrequency result entry =
      match frequencyEntry entry with
      | none => result
      | some (frequency, setting) => result.insert frequency setting := by
  simp only [insertFrequency, frequencyEntry]
  split
  · rfl
  · generalize split (stripEnds entry) 0x7C = parts
    rcases parts with _ | ⟨_, _ | ⟨_, _ | ⟨_, _ | ⟨_, _ | _⟩⟩⟩⟩ <;> rfl

private theorem parseFrequencies_eq (raw : Bytes) :
    parseFrequencies raw = (frequencyEntries raw).foldl (fun m e => m.insert e.1 e.2) ∅ := by
  simp only [parseFrequencies, frequencyEntries]
  split
  · rfl
  · split
    · rfl
    · generalize (∅ : Dictionary Bytes FreqSetting) = result
      induction split (stripEnds raw) 0x2C generalizing result with
      | nil => rfl
      | cons entry entries ih =>
        rw [List.foldl_cons, insertFrequency_eq, List.filterMap_cons]
        cases frequencyEntry entry with
        | none => exact ih result
        | some e => exact ih (result.insert e.1 e.2)

private theorem lookup_parseFrequencies_eq (raw frequency : Bytes) :
    (parseFrequencies raw).lookup frequency = lastListed raw frequency := by
  rw [parseFrequencies_eq, Dictionary.lookup_foldl_insert, AList.lookup_empty, Option.or_none]
  rfl

namespace State
variable (s : State)

/-- A transmission that the radio part of the solver takes in: live, in range, and from somebody
who is no spectator. -/
structure Arrives (r : Reception) (tx : RemoteTx) (fx : Fx) : Prop where
  live : s.liveTx r.now r.other.nickname = some tx
  notSpectating : r.other.isSpectating = false
  inRange : (s.txReach r tx).inRange = true
  subtype : subtypeToFx tx.subtype (r.hisPos.z < 0 && !r.other.canUseSW) = some fx

/-- The lists that the last FREQ brought. -/
structure FreqLists (rawSw rawLr : Bytes) : Prop where
  sw : s.swFrequencies = parseFrequencies rawSw
  lr : s.lrFrequencies = parseFrequencies rawLr

/-- The radios on the frequency that the listener can use. -/
def tunedRadios (me : RemoteClient) (rawSw rawLr frequency : Bytes) : List FreqSetting :=
  let on (raw : Bytes) : List FreqSetting :=
    ((frequencyEntries raw).filter (fun e => e.1 = frequency)).map Prod.snd
  (if me.canUseLR then on rawLr else []) ++ if me.canUseSW then on rawSw else []

/-- `volumeMultiplier` in exact arithmetic. -/
def exactVolumeMultiplier (volume : Int) : ℚ := ((volume + 1) / 10) ^ 4

def VolumeAudible (setting : FreqSetting) : Prop := 0 < exactVolumeMultiplier setting.volume

/-- The radio is another one than the one that transmits. -/
def Free (setting : FreqSetting) : Prop :=
  setting.radioClassname ≠ s.txRadioClassname ∨ s.tangentPressed = false

def EmitsHeadsetRow (r : Reception) : Prop :=
  ∃ unit ∈ (s.addAudibleForClient r).1, unit.fx.isHeadset = true

/-- Half duplex blocks only the radio that transmits. -/
structure BlocksOnlyTransmitting (r : Reception) (tx : RemoteTx) (rawSw rawLr : Bytes) :
    Prop where
  heard : (∃ radio ∈ tunedRadios r.me rawSw rawLr tx.frequency,
    VolumeAudible radio ∧ s.Free radio) → s.EmitsHeadsetRow r
  silent : ¬ s.EmitsHeadsetRow r → ∀ radio ∈ tunedRadios r.me rawSw rawLr tx.frequency,
    VolumeAudible radio → radio.radioClassname = s.txRadioClassname ∧ s.tangentPressed = true

/-- A long range radio comes first; of several in one list the last one counts. -/
def selectedRadio (me : RemoteClient) (rawSw rawLr frequency : Bytes) : Option FreqSetting :=
  (if me.canUseLR then lastListed rawLr frequency else none).or
    (if me.canUseSW then lastListed rawSw frequency else none)

/-- The gain that a volume gives in the ear. -/
def headsetGain (headsetLowered : Bool) (fx : Fx) (volume : Int) : Float32 :=
  let volumeLevel := volumeMultiplier (Float32.ofInt volume)
  let volumeLevel := if headsetLowered then volumeLevel * 0.1 else volumeLevel
  if fx = .phone then volumeLevel * 10 else volumeLevel * 0.35

private theorem headsetUnit_gain (r : Reception) (tx : RemoteTx) (reach : TxReach)
    (setting : FreqSetting) (fx : Fx) :
    (s.headsetUnit r tx reach setting fx).gain =
      headsetGain (s.configBool "headsetLowered" false) fx setting.volume := rfl

/-- The selected radio does not transmit, and its volume gives a positive gain. -/
def SelectedHeard (r : Reception) (tx : RemoteTx) (fx : Fx) (rawSw rawLr : Bytes) : Prop :=
  ∃ radio, selectedRadio r.me rawSw rawLr tx.frequency = some radio ∧
    ¬ (s.tangentPressed = true ∧ s.txRadioClassname ≠ [] ∧
      radio.radioClassname = s.txRadioClassname) ∧
    headsetGain (s.configBool "headsetLowered" false) fx radio.volume > 0

section Selection
variable {s} {r : Reception} {tx : RemoteTx} {fx : Fx} {rawSw rawLr : Bytes}

private theorem unblocked_iff (hduplex : s.configBool "full_duplex" true = false)
    {chosen radio : FreqSetting}
    {lr : Bool} :
    (∃ viaLr, (if (!s.configBool "full_duplex" true && s.tangentPressed &&
        s.txRadioClassname != [] && chosen.radioClassname == s.txRadioClassname) = true then none
      else some (chosen, lr)) = some (radio, viaLr)) ↔
      chosen = radio ∧ ¬ (s.tangentPressed = true ∧ s.txRadioClassname ≠ [] ∧
        radio.radioClassname = s.txRadioClassname) := by
  rw [hduplex]
  split
  · rename_i hblocked
    simp only [Bool.not_false, Bool.true_and, Bool.and_eq_true, bne_iff_ne, beq_iff_eq] at hblocked
    constructor
    · intro hall
      obtain ⟨_, h⟩ := hall
      cases h
    · intro hall
      obtain ⟨rfl, hfree⟩ := hall
      exact absurd ⟨hblocked.1.1, hblocked.1.2, hblocked.2⟩ hfree
  · rename_i hfree
    simp only [Bool.not_false, Bool.true_and, Bool.and_eq_true, bne_iff_ne, beq_iff_eq] at hfree
    constructor
    · intro hall
      obtain ⟨_, h⟩ := hall
      obtain ⟨rfl, -⟩ := Prod.mk.inj (Option.some.inj h)
      exact ⟨rfl, fun h => hfree ⟨⟨h.1, h.2.1⟩, h.2.2⟩⟩
    · intro hall
      obtain ⟨rfl, _⟩ := hall
      exact ⟨lr, rfl⟩

private theorem headsetSetting_iff (hduplex : s.configBool "full_duplex" true = false)
    (hlists : s.FreqLists rawSw rawLr) (me : RemoteClient) (radio : FreqSetting) :
    (∃ viaLr, s.headsetSetting me tx = some (radio, viaLr)) ↔
      selectedRadio me rawSw rawLr tx.frequency = some radio ∧
        ¬ (s.tangentPressed = true ∧ s.txRadioClassname ≠ [] ∧
          radio.radioClassname = s.txRadioClassname) := by
  simp only [headsetSetting, selectedRadio, hlists.sw, hlists.lr, lookup_parseFrequencies_eq]
  cases (if me.canUseLR then lastListed rawLr tx.frequency else none) with
  | some chosen =>
    rw [Option.some_or, Option.some.injEq]
    exact unblocked_iff hduplex
  | none =>
    rw [Option.none_or]
    cases (if me.canUseSW then lastListed rawSw tx.frequency else none) with
    | some chosen =>
      rw [Option.some.injEq]
      exact unblocked_iff hduplex
    | none => simp

private theorem exists_headsetRow_iff (hduplex : s.configBool "full_duplex" true = false)
    (hlists : s.FreqLists rawSw rawLr) (harrives : s.Arrives r tx fx) :
    (∃ unit, unit ∈ (s.headsetRow r tx (s.txReach r tx)).1) ↔
      s.SelectedHeard r tx fx rawSw rawLr := by
  have hselected : ∀ radio, (∃ viaLr, s.headsetSetting r.me tx = some (radio, viaLr)) ↔ _ :=
    headsetSetting_iff hduplex hlists r.me
  unfold headsetRow SelectedHeard
  rw [harrives.inRange, if_neg (by decide)]
  cases hsetting : s.headsetSetting r.me tx with
  | none =>
    rw [hsetting] at hselected
    constructor
    · intro hall
      obtain ⟨unit, hunit⟩ := hall
      cases hunit
    · intro hall
      obtain ⟨radio, hradio, hfree, _⟩ := hall
      obtain ⟨viaLr, h⟩ := (hselected radio).mpr ⟨hradio, hfree⟩
      cases h
  | some chosen =>
    obtain ⟨setting, viaLr⟩ := chosen
    rw [hsetting] at hselected
    dsimp only
    rw [harrives.subtype]
    constructor
    · intro hall
      obtain ⟨unit, hunit⟩ := hall
      dsimp only at hunit
      rw [headsetUnit_gain] at hunit
      split at hunit
      · rename_i hgain
        obtain ⟨hradio, hfree⟩ := (hselected setting).mp ⟨viaLr, rfl⟩
        exact ⟨setting, hradio, hfree, hgain⟩
      · cases hunit
    · intro hall
      obtain ⟨radio, hradio, hfree, hgain⟩ := hall
      obtain ⟨_, h⟩ := (hselected radio).mpr ⟨hradio, hfree⟩
      obtain ⟨rfl, -⟩ := Prod.mk.inj (Option.some.inj h)
      refine ⟨s.headsetUnit r tx (s.txReach r tx) setting fx, ?_⟩
      dsimp only
      rw [headsetUnit_gain, if_pos hgain]
      exact List.mem_singleton_self _

private theorem emitsHeadsetRow_iff (harrives : s.Arrives r tx fx) :
    s.EmitsHeadsetRow r ↔ ∃ unit, unit ∈ (s.headsetRow r tx (s.txReach r tx)).1 := by
  have hpath : (s.headsetRow r tx (s.txReach r tx)).1 = s.headsetPath r := by
    simp only [headsetPath, heardTx, harrives.notSpectating, harrives.live, Bool.false_eq_true,
      if_false]
  rw [EmitsHeadsetRow, hpath, ← headset_rows]
  simp only [List.mem_filter]

/-- Half duplex blocks only the transmitting radio exactly if, whenever some tuned radio could be
heard, the one that was selected can. -/
theorem blocks_only_transmitting_iff (hduplex : s.configBool "full_duplex" true = false)
    (hlists : s.FreqLists rawSw rawLr) (harrives : s.Arrives r tx fx) :
    s.BlocksOnlyTransmitting r tx rawSw rawLr ↔
      ((∃ radio ∈ tunedRadios r.me rawSw rawLr tx.frequency, VolumeAudible radio ∧ s.Free radio) →
        s.SelectedHeard r tx fx rawSw rawLr) := by
  have hemits := (emitsHeadsetRow_iff harrives).trans
    (exists_headsetRow_iff hduplex hlists harrives)
  rw [← hemits]
  constructor
  · intro h
    exact h.heard
  · intro h
    refine ⟨h, ?_⟩
    intro hsilent radio hradio haudible
    by_contra hfree
    apply hsilent
    apply h
    refine ⟨radio, hradio, haudible, ?_⟩
    by_cases hclass : radio.radioClassname = s.txRadioClassname
    · exact Or.inr (Bool.eq_false_iff.mpr (fun hpressed => hfree ⟨hclass, hpressed⟩))
    · exact Or.inl hclass

end Selection

def shortRangeList : Bytes := ascii "[\"50|7|0|TFAR_anprc152_1\"]"

def longRangeList : Bytes := ascii "[\"50|7|0|TFAR_rt1523g_1\"]"

def annTransmits : RemoteTx where
  nickname := ascii "Ann"
  frequency := ascii "50"
  range := 5000
  subtype := ascii "digital"
  received := 0

/-- A player who transmits with one of two radios on the frequency that Ann uses. -/
def transmittingOn (radioClassname : Bytes) : State where
  swFrequencies := parseFrequencies shortRangeList
  lrFrequencies := parseFrequencies longRangeList
  tangentPressed := true
  txRadioClassname := radioClassname
  config := (∅ : Dictionary Bytes Bytes).insert (ascii "full_duplex") (ascii "false")
  remoteTx := (∅ : Dictionary Bytes RemoteTx).insert (ascii "Ann") annTransmits

/-- Ann next to a player who can use both radios. -/
def nextToAnn : Reception where
  me := { canUseSW := true, canUseLR := true }
  other := { nickname := ascii "Ann", canUseSW := true }
  now := 0

private theorem full_duplex_off (radioClassname : Bytes) :
    (transmittingOn radioClassname).configBool "full_duplex" true = false := by
  have hlookup : (transmittingOn radioClassname).config.lookup (ascii "full_duplex") =
      some (ascii "false") := AList.lookup_insert _
  simp only [configBool]
  rw [hlookup]
  decide

private theorem ann_arrives (radioClassname : Bytes) :
    (transmittingOn radioClassname).Arrives nextToAnn annTransmits .sw where
  live := by
    show (transmittingOn []).liveTx nextToAnn.now nextToAnn.other.nickname = some annTransmits
    decide +kernel
  notSpectating := rfl
  inRange := by
    show ((transmittingOn []).txReach nextToAnn annTransmits).inRange = true
    decide +kernel
  subtype := by decide +kernel

private theorem freqLists_transmittingOn (radioClassname : Bytes) :
    (transmittingOn radioClassname).FreqLists shortRangeList longRangeList := ⟨rfl, rfl⟩

/-- While the short range radio transmits, the long range one is selected. -/
theorem transmitting_short_range :
    (transmittingOn (ascii "TFAR_anprc152_1")).BlocksOnlyTransmitting nextToAnn annTransmits
        shortRangeList longRangeList ↔
      ((∃ radio ∈ tunedRadios nextToAnn.me shortRangeList longRangeList annTransmits.frequency,
          VolumeAudible radio ∧ (transmittingOn (ascii "TFAR_anprc152_1")).Free radio) →
        (transmittingOn (ascii "TFAR_anprc152_1")).SelectedHeard nextToAnn annTransmits .sw
          shortRangeList longRangeList) :=
  blocks_only_transmitting_iff (full_duplex_off _) (freqLists_transmittingOn _) (ann_arrives _)

/-- While the long range radio transmits, the short range one on the same frequency is not tried. -/
theorem transmitting_long_range_silences :
    ¬ ∀ (s : State) (r : Reception) (tx : RemoteTx) (fx : Fx) (rawSw rawLr : Bytes),
      s.configBool "full_duplex" true = false → s.FreqLists rawSw rawLr → s.Arrives r tx fx →
        s.BlocksOnlyTransmitting r tx rawSw rawLr := by
  intro hclaim
  let s := transmittingOn (ascii "TFAR_rt1523g_1")
  have hlists : s.FreqLists shortRangeList longRangeList := freqLists_transmittingOn _
  have harrives : s.Arrives nextToAnn annTransmits .sw := ann_arrives _
  have hblocks := hclaim s nextToAnn annTransmits .sw shortRangeList longRangeList
    (full_duplex_off _) hlists harrives
  have hshort : (⟨7, 0, ascii "TFAR_anprc152_1"⟩ : FreqSetting) ∈
      tunedRadios nextToAnn.me shortRangeList longRangeList annTransmits.frequency := by
    decide +kernel
  have haudible : VolumeAudible ⟨7, 0, ascii "TFAR_anprc152_1"⟩ := by
    norm_num [VolumeAudible, exactVolumeMultiplier]
  have hfree : s.Free ⟨7, 0, ascii "TFAR_anprc152_1"⟩ := Or.inl (by decide)
  have hemits := hblocks.heard ⟨_, hshort, haudible, hfree⟩
  obtain ⟨radio, hselected, hother, _⟩ := (exists_headsetRow_iff (full_duplex_off _) hlists
    harrives).mp ((emitsHeadsetRow_iff harrives).mp hemits)
  have hlong : selectedRadio nextToAnn.me shortRangeList longRangeList annTransmits.frequency =
      some ⟨7, 0, ascii "TFAR_rt1523g_1"⟩ := by decide +kernel
  rw [hlong] at hselected
  rw [← Option.some.inj hselected] at hother
  exact hother ⟨rfl, by decide, rfl⟩

end State

end TaskForceRadio.Extension
