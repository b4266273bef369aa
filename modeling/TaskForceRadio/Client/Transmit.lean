import TaskForceRadio.Client.RemoteVoiceSource
import TaskForceRadio.Foundation.Rounding

/-!
# From the microphone to packets

`TransmitController::onFrameCaptured`: noise suppression, the automatic gain, the conversion to 16
bits, the gate, and the frames that go to the network. RNNoise and the Opus encoder are parameters.
-/

set_option autoImplicit false

namespace TaskForceRadio.Voice

open Single

def kAgcTargetRms : Float32 := 0.08
def kAgcMinGain : Float32 := 1
def kAgcMaxGain : Float32 := 12

/-- Fast, gain down. -/
def kAgcAttackRate : Float32 := 0.4

/-- Slow, gain up. -/
def kAgcReleaseRate : Float32 := 0.05

/-- The level under which a frame is silence. -/
def kSilence : Float32 := 0.0001

def adaptGain (autoGain rawRms : Float32) (levelIsVoiceLike : Bool) : Float32 :=
  if rawRms ≥ kSilence then
    let desired := clamp (kAgcTargetRms / rawRms) kAgcMinGain kAgcMaxGain
    if desired < autoGain then autoGain + (desired - autoGain) * kAgcAttackRate
    else if levelIsVoiceLike then autoGain + (desired - autoGain) * kAgcReleaseRate
    else autoGain
  else autoGain

/-- A gain between the two limits. -/
structure Gain (x : Float32) : Prop where
  finite : x.isFinite = true
  low : 1 ≤ value x
  high : value x ≤ 12

private theorem gain_one : Gain 1 :=
  ⟨rfl, value_one.ge, by rw [value_one]; norm_num⟩

private theorem value_attackRate : value kAgcAttackRate = 13421773 * 2 ^ (-25 : Int) := by
  have hunpack : kAgcAttackRate.toModel.unpack = .finite .positive 13421773 (-25) (by decide) := rfl
  rw [value, hunpack]
  norm_num [unpackedValue]

private theorem value_releaseRate : value kAgcReleaseRate = 13421773 * 2 ^ (-28 : Int) := by
  have hunpack : kAgcReleaseRate.toModel.unpack = .finite .positive 13421773 (-28) (by decide) :=
    rfl
  rw [value, hunpack]
  norm_num [unpackedValue]

private theorem value_target : value kAgcTargetRms = 10737418 * 2 ^ (-27 : Int) := by
  have hunpack : kAgcTargetRms.toModel.unpack = .finite .positive 10737418 (-27) (by decide) := rfl
  rw [value, hunpack]
  norm_num [unpackedValue]

private theorem value_silence : value kSilence = 13743895 * 2 ^ (-37 : Int) := by
  have hunpack : kSilence.toModel.unpack = .finite .positive 13743895 (-37) (by decide) := rfl
  rw [value, hunpack]
  norm_num [unpackedValue]

private theorem gain_desired {rawRms : Float32} (hloud : rawRms ≥ kSilence) :
    Gain (clamp (kAgcTargetRms / rawRms) kAgcMinGain kAgcMaxGain) := by
  have hmin : value kAgcMinGain = 1 := value_one
  have hmax : value kAgcMaxGain = 12 := by exact_mod_cast value_ofNat (n := 12) (by decide)
  have hfinite : (kAgcTargetRms / rawRms).isFinite = true := by
    refine isFinite_div rfl rfl ?_ ?_ ?_ hloud
    · rw [value_silence]
      positivity
    · rw [value_target]
      positivity
    · rw [value_target, value_silence, greatest]
      norm_num
  obtain ⟨hclamped, hlow, hhigh⟩ := @clamp_bounds _ kAgcMinGain kAgcMaxGain
    (isNumber_of_isFinite hfinite) rfl rfl (by rw [hmin, hmax]; norm_num)
  exact ⟨hclamped, hmin ▸ hlow, hmax ▸ hhigh⟩

section Steps
variable {autoGain desired : Float32} (hg : Gain autoGain) (hd : Gain desired)
include hg hd

theorem Gain.difference : Rounds (value desired - value autoGain) (desired - autoGain) := by
  have hbound : |value desired - value autoGain| ≤ 11 :=
    abs_le.mpr ⟨by linarith [hd.low, hg.high], by linarith [hd.high, hg.low]⟩
  exact rounds_sub hd.finite hg.finite (le_greatest (hbound.trans (by norm_num)))

private theorem Gain.attack (hlt : value desired < value autoGain) :
    Gain (autoGain + (desired - autoGain) * kAgcAttackRate) ∧
      value (autoGain + (desired - autoGain) * kAgcAttackRate) ≤ value autoGain := by
  have hdiff := hg.difference hd
  have hone : 1 - value autoGain ≤ value (desired - autoGain) := by
    refine hdiff.below _ ?_ (by linarith [hd.low])
    rw [abs_sub_comm]
    exact representable_sub_one hg.finite hg.low (by linarith [hg.high])
  have hdown := hdiff.nonpos (by linarith)
  have hproduct : Rounds (value (desired - autoGain) * value kAgcAttackRate)
      ((desired - autoGain) * kAgcAttackRate) := by
    refine rounds_mul hdiff.finite rfl (abs_le.mpr ⟨?_, ?_⟩) <;>
      rw [value_attackRate, greatest] <;> norm_num <;> linarith [hg.high]
  have hstep : value (desired - autoGain) ≤ value ((desired - autoGain) * kAgcAttackRate) := by
    apply hproduct.value_le hdiff.finite
    rw [value_attackRate]
    norm_num
    linarith
  have hstepdown : value ((desired - autoGain) * kAgcAttackRate) ≤ 0 := by
    refine hproduct.nonpos (mul_nonpos_of_nonpos_of_nonneg hdown ?_)
    rw [value_attackRate]
    positivity
  have hsum : Rounds (value autoGain + value ((desired - autoGain) * kAgcAttackRate))
      (autoGain + (desired - autoGain) * kAgcAttackRate) := by
    refine rounds_add hg.finite hproduct.finite (abs_le.mpr ⟨?_, ?_⟩) <;>
      rw [greatest] <;> norm_num <;> linarith [hg.high, hg.low]
  have hfall := hsum.le_value hg.finite (by linarith)
  refine ⟨⟨hsum.finite, ?_, hfall.trans hg.high⟩, hfall⟩
  exact_mod_cast hsum.below (1 : Nat) (representable_nat (by decide)) (by push_cast; linarith)

/-- The release moves the gain up and not above 12. -/
theorem Gain.release (hle : value autoGain ≤ value desired) :
    Gain (autoGain + (desired - autoGain) * kAgcReleaseRate) ∧
      value autoGain ≤ value (autoGain + (desired - autoGain) * kAgcReleaseRate) := by
  have hdiff := hg.difference hd
  have hup := hdiff.nonneg (by linarith)
  have heleven : value (desired - autoGain) ≤ 11 := by
    exact_mod_cast hdiff.above (11 : Nat) (representable_nat (by decide))
      (by push_cast; linarith [hd.high, hg.low])
  have hproduct : Rounds (value (desired - autoGain) * value kAgcReleaseRate)
      ((desired - autoGain) * kAgcReleaseRate) := by
    refine rounds_mul hdiff.finite rfl (abs_le.mpr ⟨?_, ?_⟩) <;>
      rw [value_releaseRate, greatest] <;> norm_num <;> linarith
  have hstepup : 0 ≤ value ((desired - autoGain) * kAgcReleaseRate) := by
    refine hproduct.nonneg (mul_nonneg hup ?_)
    rw [value_releaseRate]
    positivity
  -- one step is a small part of the room that is left
  have hroom : value ((desired - autoGain) * kAgcReleaseRate) ≤ 12 - value autoGain := by
    rcases hle.eq_or_lt with heq | hlt
    · have hzero : value (desired - autoGain) ≤ 0 := hdiff.nonpos (by linarith)
      have hnone := hproduct.nonpos (mul_nonpos_of_nonpos_of_nonneg hzero (by
        rw [value_releaseRate]
        positivity))
      linarith [hg.high]
    · have hunit := unit_le_sub hg.finite hd.finite hg.low hlt
      have hleast : 2 ^ (-23 : Int) ≤ value (desired - autoGain) := by
        refine hdiff.below _ ?_ hunit
        rw [abs_of_pos (by positivity)]
        simpa using representable_dyadic (n := 1) (e := -23) (by decide) (by decide) (by decide)
      have htwice := hdiff.le_two_mul (le_trans (by norm_num) hunit) (by
        norm_num
        linarith [hd.high, hg.low])
      have hagain := hproduct.le_two_mul (by
          rw [value_releaseRate]
          norm_num at hleast ⊢
          linarith) (by
          rw [value_releaseRate]
          norm_num
          linarith)
      rw [value_releaseRate] at hagain
      norm_num at hagain
      linarith [hd.high]
  have hsum : Rounds (value autoGain + value ((desired - autoGain) * kAgcReleaseRate))
      (autoGain + (desired - autoGain) * kAgcReleaseRate) := by
    refine rounds_add hg.finite hproduct.finite (abs_le.mpr ⟨?_, ?_⟩) <;>
      rw [greatest] <;> norm_num <;> linarith [hg.high, hg.low]
  have hrise := hsum.value_le hg.finite (by linarith)
  refine ⟨⟨hsum.finite, hg.low.trans hrise, ?_⟩, hrise⟩
  exact_mod_cast hsum.above (12 : Nat) (representable_nat (by decide)) (by push_cast; linarith)

end Steps

private theorem gain_adaptGain {autoGain : Float32} (hg : Gain autoGain) (rawRms : Float32)
    (levelIsVoiceLike : Bool) :
    Gain (adaptGain autoGain rawRms levelIsVoiceLike) ∧
      (value autoGain < value (adaptGain autoGain rawRms levelIsVoiceLike) →
        levelIsVoiceLike = true) := by
  unfold adaptGain
  split
  · rename_i hloud
    have hd := gain_desired hloud
    simp only
    split
    · rename_i hlt
      obtain ⟨hgain, hfall⟩ := hg.attack hd ((lt_iff hd.finite hg.finite).mp hlt)
      exact ⟨hgain, fun hrise => absurd hrise (not_lt.mpr hfall)⟩
    · rename_i hle
      rw [lt_iff hd.finite hg.finite, not_lt] at hle
      split
      · rename_i hvoice
        exact ⟨(hg.release hd hle).1, fun _ => hvoice⟩
      · exact ⟨hg, fun hrise => absurd hrise (lt_irrefl _)⟩
  · exact ⟨hg, fun hrise => absurd hrise (lt_irrefl _)⟩

/-- The two libraries. `rnnoise` is given half a frame, `opus` returns nothing if it fails. -/
structure Codecs (Denoiser Encoder : Type) where
  rnnoise : Denoiser → List Float32 → Denoiser × List Float32
  opus : Encoder → List Int16 → Encoder × Bytes

structure OutgoingFrame where
  opus : Bytes
  isLast : Bool
  deriving DecidableEq, Repr

/-- The settings and the gate are those of `TransmitController`. -/
structure FrameTransmitter (Denoiser Encoder : Type) extends TransmitController where
  noiseSuppressor : Option Denoiser
  encoder : Encoder
  autoGain : Float32 := 1
  currentLevel : Float32 := 0
  silentFrameCount : Nat := 0
  wasTransmitting : Bool := false

/-- Squares are summed in double precision. -/
def rms (samples : List Float32) : Float32 :=
  ofDouble (Float.sqrt (samples.foldl (fun sum s => sum + toDouble s * toDouble s) 0 / 960))

def kRnnoiseFrameSize : Nat := 480

variable {Denoiser Encoder : Type}

namespace Codecs

variable (codecs : Codecs Denoiser Encoder)

def suppressHalf (state : Denoiser) (half : List Float32) : Denoiser × List Float32 :=
  let (state, scratch) := codecs.rnnoise state (half.map (· * 32768))
  (state, scratch.map fun s => clamp (s / 32768) (-1) 1)

/-- `NoiseSuppressor::process`; without a state the frame is copied. -/
def suppress (noiseSuppressor : Option Denoiser) (frame : List Float32) :
    Option Denoiser × List Float32 :=
  match noiseSuppressor with
  | none => (none, frame)
  | some state =>
      let (state, first) := codecs.suppressHalf state (frame.take kRnnoiseFrameSize)
      let (state, second) := codecs.suppressHalf state
        ((frame.drop kRnnoiseFrameSize).take kRnnoiseFrameSize)
      (some state, first ++ second)

end Codecs

namespace FrameTransmitter

variable (codecs : Codecs Denoiser Encoder) (t : FrameTransmitter Denoiser Encoder)

/-- The frame that is measured and sent. -/
def mono (rawMono960 : List Float32) : Option Denoiser × List Float32 :=
  if t.noiseSuppressionEnabled then codecs.suppress t.noiseSuppressor rawMono960
  else (t.noiseSuppressor, rawMono960)

/-- The level before the automatic gain. -/
def vadLevel (rawMono960 : List Float32) : Float32 :=
  rms (t.mono codecs rawMono960).2 * t.micVolume

def levelIsVoiceLike (rawMono960 : List Float32) : Bool :=
  decide (t.vadLevel codecs rawMono960 ≥ t.vadThreshold)

def nextGain (rawMono960 : List Float32) : Float32 :=
  adaptGain t.autoGain (rms (t.mono codecs rawMono960).2) (t.levelIsVoiceLike codecs rawMono960)

/-- The samples after both gains. -/
def gained (rawMono960 : List Float32) : List Float32 :=
  (t.mono codecs rawMono960).2.map fun s =>
    clamp (s * (t.micVolume * t.nextGain codecs rawMono960)) (-1) 1

def pcm (rawMono960 : List Float32) : List Int16 :=
  (t.gained codecs rawMono960).map fun s => toInt16 (clamp (s * 32767) (-32768) 32767)

/-- The part of `onFrameCaptured` before the gate. -/
def condition (rawMono960 : List Float32) : FrameTransmitter Denoiser Encoder :=
  let gainedRms := rms (t.gained codecs rawMono960)
  { t with
    noiseSuppressor := (t.mono codecs rawMono960).1
    autoGain := t.nextGain codecs rawMono960
    currentLevel := gainedRms
    silentFrameCount :=
      if gainedRms < kSilence then
        if t.silentFrameCount < 1000000 then t.silentFrameCount + 1 else t.silentFrameCount
      else 0 }

def silence : List Int16 := List.replicate kFrameSamples 0

/-- The frame to encode, if there is one, and its flag. -/
def toEncode (pcm : List Int16) : Option (List Int16 × Bool) :=
  if t.isTransmitting then some (pcm, false)
  else if t.wasTransmitting then some (silence, true)
  else none

/-- The part after the gate. What the encoder fails on is not sent. -/
def emit (pcm : List Int16) : FrameTransmitter Denoiser Encoder × Option OutgoingFrame :=
  match t.toEncode pcm with
  | none => (t, none)
  | some (samples, isLast) =>
      let (encoder, opus) := codecs.opus t.encoder samples
      ({ t with
          encoder
          wasTransmitting := !isLast },
        if opus = [] then none else some { opus, isLast })

def onFrameCaptured (now : Time) (rawMono960 : List Float32) :
    FrameTransmitter Denoiser Encoder × Option OutgoingFrame :=
  let pcm := t.pcm codecs rawMono960
  let vadLevel := t.vadLevel codecs rawMono960
  let t := t.condition codecs rawMono960
  let t := { t with toTransmitController := t.gateFrame now vadLevel }
  t.emit codecs pcm

section Frame
variable {codecs} {t} {now : Time} {rawMono960 : List Float32}

private theorem emit_toTransmitController (pcm : List Int16) :
    (t.emit codecs pcm).1.toTransmitController = t.toTransmitController := by
  unfold emit
  split <;> rfl

private theorem emit_autoGain (pcm : List Int16) : (t.emit codecs pcm).1.autoGain = t.autoGain := by
  unfold emit
  split <;> rfl

private theorem emit_cases (pcm : List Int16) :
    (t.emit codecs pcm).1.wasTransmitting = t.isTransmitting ∧
      (t.emit codecs pcm).2 =
        if t.isTransmitting then
          (if (codecs.opus t.encoder pcm).2 = [] then none
          else some ⟨(codecs.opus t.encoder pcm).2, false⟩)
        else if t.wasTransmitting then
          (if (codecs.opus t.encoder silence).2 = [] then none
          else some ⟨(codecs.opus t.encoder silence).2, true⟩)
        else none := by
  cases hgate : t.isTransmitting with
  | true => simp [emit, toEncode, hgate]
  | false => cases hwas : t.wasTransmitting <;> simp [emit, toEncode, hgate, hwas]

private theorem onFrameCaptured_toTransmitController :
    (t.onFrameCaptured codecs now rawMono960).1.toTransmitController =
      t.gateFrame now (t.vadLevel codecs rawMono960) :=
  emit_toTransmitController _

private theorem onFrameCaptured_autoGain :
    (t.onFrameCaptured codecs now rawMono960).1.autoGain = t.nextGain codecs rawMono960 :=
  emit_autoGain _

private theorem onFrameCaptured_cases :
    (t.onFrameCaptured codecs now rawMono960).1.wasTransmitting =
        (t.gateFrame now (t.vadLevel codecs rawMono960)).isTransmitting ∧
      (t.onFrameCaptured codecs now rawMono960).2 =
        if (t.gateFrame now (t.vadLevel codecs rawMono960)).isTransmitting then
          (if (codecs.opus t.encoder (t.pcm codecs rawMono960)).2 = [] then none
          else some ⟨(codecs.opus t.encoder (t.pcm codecs rawMono960)).2, false⟩)
        else if t.wasTransmitting then
          (if (codecs.opus t.encoder silence).2 = [] then none
          else some ⟨(codecs.opus t.encoder silence).2, true⟩)
        else none :=
  emit_cases _

end Frame

end FrameTransmitter

/-- A setting changes, or a frame of the microphone arrives. -/
inductive TransmitEvent where
  | setMode (mode : TransmitMode)
  | setPttHeld (held : Bool)
  | setMicMuted (muted : Bool)
  | setVadThreshold (threshold : Float32)
  | setMicVolume (volume : Float32)
  | setNoiseSuppressionEnabled (enabled : Bool)
  | setAddonOverride (hasOverride overrideValue : Bool)
  | frame (now : Time) (rawMono960 : List Float32)

namespace TransmitController

def setting (t : TransmitController) : TransmitEvent → TransmitController
  | .setMode mode => { t with mode }
  | .setPttHeld held => { t with pttHeld := held }
  | .setMicMuted muted => { t with micMuted := muted }
  | .setVadThreshold threshold => { t with vadThreshold := threshold }
  | .setMicVolume volume => { t with micVolume := volume }
  | .setNoiseSuppressionEnabled enabled => { t with noiseSuppressionEnabled := enabled }
  | .setAddonOverride hasOverride overrideValue => t.setAddonOverride hasOverride overrideValue
  | .frame _ _ => t

/-- No level of the microphone opens the gate. -/
def Closed (t : TransmitController) : Prop :=
  if t.hasAddonOverride then t.addonOverrideValue = false
  else t.micMuted = true ∨ t.mode = .pushToTalk ∧ t.pttHeld = false

instance (t : TransmitController) : Decidable t.Closed := by
  unfold Closed
  infer_instance

/-- The level of the microphone decides. -/
def Evaluates (t : TransmitController) : Prop :=
  t.hasAddonOverride = false ∧ t.micMuted = false ∧ t.mode = .voiceActivation

instance (t : TransmitController) : Decidable t.Evaluates := by
  unfold Evaluates
  infer_instance

private theorem gateFrame_of_evaluates {t : TransmitController} (h : t.Evaluates) (now : Time)
    (level : Float32) :
    (t.gateFrame now level).isTransmitting =
      (decide (level ≥ t.vadThreshold) || decide (now < t.vadHangoverUntil)) := by
  obtain ⟨hoverride, hmuted, hmode⟩ := h
  simp only [gateFrame, determineShouldTransmit, evaluateVoiceActivation, hoverride, hmuted, hmode]
  by_cases hloud : level ≥ t.vadThreshold <;> simp [hloud]

private theorem gateFrame_vadHangoverUntil (t : TransmitController) (now : Time) (level : Float32) :
    (t.gateFrame now level).vadHangoverUntil =
      if t.Evaluates ∧ level ≥ t.vadThreshold then now + kVadHangover else t.vadHangoverUntil := by
  by_cases heval : t.Evaluates
  · obtain ⟨hoverride, hmuted, hmode⟩ := id heval
    simp only [gateFrame, determineShouldTransmit, evaluateVoiceActivation, hoverride, hmuted,
      hmode, heval, true_and]
    by_cases hloud : level ≥ t.vadThreshold <;> simp [hloud]
  · rw [if_neg fun h => heval h.1]
    simp only [gateFrame, determineShouldTransmit]
    split
    · rfl
    · rename_i hoverride
      split
      · rfl
      · rename_i hmuted
        split
        · rfl
        · rfl
        · rename_i hmode
          exact absurd ⟨eq_false_of_ne_true hoverride, eq_false_of_ne_true hmuted, hmode⟩ heval

private theorem gateFrame_of_closed {t : TransmitController} (h : t.Closed) (now : Time)
    (level : Float32) :
    (t.gateFrame now level).isTransmitting = false := by
  unfold Closed at h
  simp only [gateFrame, determineShouldTransmit]
  split
  · rename_i hoverride
    rw [if_pos hoverride] at h
    exact h
  · rename_i hoverride
    rw [if_neg hoverride] at h
    split
    · rfl
    · rename_i hmuted
      obtain ⟨hmode, hheld⟩ := h.resolve_left hmuted
      rw [hmode]
      exact hheld

end TransmitController

/-- The controller and everything it has sent, newest first. -/
structure Microphone (Denoiser Encoder : Type) where
  transmitter : FrameTransmitter Denoiser Encoder
  sent : List OutgoingFrame := []

namespace Microphone

variable (codecs : Codecs Denoiser Encoder)

def step (m : Microphone Denoiser Encoder) : TransmitEvent → Microphone Denoiser Encoder
  | .frame now rawMono960 =>
      { transmitter := (m.transmitter.onFrameCaptured codecs now rawMono960).1
        sent := (m.transmitter.onFrameCaptured codecs now rawMono960).2.toList ++ m.sent }
  | e =>
      { m with
        transmitter :=
          { m.transmitter with
            toTransmitController := m.transmitter.toTransmitController.setting e } }

def start (noiseSuppressor : Option Denoiser) (encoder : Encoder) : Microphone Denoiser Encoder :=
  { transmitter := { noiseSuppressor, encoder } }

variable {codecs}

private theorem gain_runHistory (noiseSuppressor : Option Denoiser) (encoder : Encoder)
    (history : List TransmitEvent) :
    Gain (runHistory (step codecs) (start noiseSuppressor encoder)
      history).transmitter.autoGain := by
  refine invariant_runHistory (I := fun m : Microphone Denoiser Encoder =>
    Gain m.transmitter.autoGain) gain_one ?_ history
  intro m e h
  cases e with
  | frame now rawMono960 =>
    show Gain (m.transmitter.onFrameCaptured codecs now rawMono960).1.autoGain
    rw [FrameTransmitter.onFrameCaptured_autoGain]
    exact (gain_adaptGain h _ _).1
  | _ => exact h

/-- In every run the gain is between 1 and 12, and only a frame at the voice level raises it. -/
theorem gain_in_range (noiseSuppressor : Option Denoiser) (encoder : Encoder)
    (history : List TransmitEvent) :
    Gain (runHistory (step codecs) (start noiseSuppressor encoder) history).transmitter.autoGain ∧
      ∀ now rawMono960,
        value (runHistory (step codecs) (start noiseSuppressor encoder)
            history).transmitter.autoGain <
          value (runHistory (step codecs) (start noiseSuppressor encoder)
            (.frame now rawMono960 :: history)).transmitter.autoGain →
        (runHistory (step codecs) (start noiseSuppressor encoder)
          history).transmitter.levelIsVoiceLike codecs rawMono960 = true := by
  have hgain := @gain_runHistory _ _ codecs noiseSuppressor encoder history
  refine ⟨hgain, ?_⟩
  intro now rawMono960 hrise
  rw [runHistory_cons] at hrise
  simp only [step, FrameTransmitter.onFrameCaptured_autoGain] at hrise
  exact (gain_adaptGain hgain _ _).2 hrise

/-- A noise suppressor that lets finite samples through, and an encoder that answers with one
byte. -/
def copying : Codecs Unit Unit where
  rnnoise := fun state half => (state, half.map fun s => if s.isFinite then s else 0)
  opus := fun encoder _ => (encoder, [0])

/-- Voice frames, each stretch of them closed by one end marker, newest first; the flag tells
whether the last stretch is open. -/
inductive Framed : List OutgoingFrame → Bool → Prop
  | silent : Framed [] false
  | voice {frames : List OutgoingFrame} {talking : Bool} (opus : Bytes) :
      Framed frames talking → Framed (⟨opus, false⟩ :: frames) true
  | marker {frames : List OutgoingFrame} (opus : Bytes) :
      Framed frames true → Framed (⟨opus, true⟩ :: frames) false

/-- In every run what is sent is framed, and a talkspurt is open exactly while the controller says
that it transmits, if the encoder never fails. -/
theorem sent_framed (hencoder : ∀ encoder pcm, (codecs.opus encoder pcm).2 ≠ [])
    (noiseSuppressor : Option Denoiser) (encoder : Encoder) (history : List TransmitEvent) :
    Framed (runHistory (step codecs) (start noiseSuppressor encoder) history).sent
      (runHistory (step codecs) (start noiseSuppressor encoder)
        history).transmitter.isTransmitting := by
  have hboth := @invariant_runHistory _ _ (step codecs)
    (fun m : Microphone Denoiser Encoder => Framed m.sent m.transmitter.isTransmitting ∧
      m.transmitter.wasTransmitting = m.transmitter.isTransmitting)
    (start noiseSuppressor encoder) ⟨.silent, rfl⟩ ?_ history
  · exact hboth.1
  · intro m e h
    obtain ⟨hframed, hsame⟩ := h
    cases e with
    | frame now rawMono960 =>
      obtain ⟨hwas, hout⟩ := @FrameTransmitter.onFrameCaptured_cases _ _ codecs m.transmitter now
        rawMono960
      have hgate := @FrameTransmitter.onFrameCaptured_toTransmitController _ _ codecs m.transmitter
        now rawMono960
      simp only [step]
      rw [hwas, hgate, hout, hsame]
      refine ⟨?_, rfl⟩
      cases (m.transmitter.gateFrame now
          (m.transmitter.vadLevel codecs rawMono960)).isTransmitting with
      | true =>
        rw [if_pos rfl, if_neg (hencoder _ _)]
        exact .voice _ hframed
      | false =>
        rw [if_neg Bool.false_ne_true]
        generalize m.transmitter.isTransmitting = talking at hframed
        cases talking with
        | true =>
          rw [if_pos rfl, if_neg (hencoder _ _)]
          exact .marker _ hframed
        | false => exact hframed
    | _ => exact ⟨hframed, hsame⟩

theorem spurt_is_framed : Framed [⟨[0], true⟩, ⟨[0], false⟩, ⟨[0], false⟩] false :=
  @sent_framed _ _ copying (fun _ _ => List.cons_ne_nil _ _) none ()
    [.frame (milliseconds 40) [], .setMicMuted true, .frame (milliseconds 20) [], .frame 0 [],
      .setMode .alwaysOn]

/-- Every frame is processed while the gate is closed. -/
def ClosedGate (m : Microphone Denoiser Encoder) : TransmitEvent → Prop
  | .frame _ _ => m.transmitter.toTransmitController.Closed
  | _ => True

instance (m : Microphone Denoiser Encoder) (e : TransmitEvent) : Decidable (m.ClosedGate e) := by
  unfold ClosedGate
  split <;> infer_instance

/-- What has been sent since the state `m`: nothing, or the marker of a talkspurt open in `m`. -/
def Silent (codecs : Codecs Denoiser Encoder) (m now : Microphone Denoiser Encoder) : Prop :=
  (now.sent = m.sent ∧
      (now.transmitter.wasTransmitting = true → m.transmitter.wasTransmitting = true)) ∨
    (m.transmitter.wasTransmitting = true ∧ now.transmitter.wasTransmitting = false ∧
      ∃ encoder, now.sent =
        ⟨(codecs.opus encoder FrameTransmitter.silence).2, true⟩ :: m.sent)

theorem silent_step {m now : Microphone Denoiser Encoder} {e : TransmitEvent}
    (h : m.Silent codecs now) (hguard : now.ClosedGate e) :
    m.Silent codecs (step codecs now e) := by
  cases e with
  | frame time rawMono960 =>
    obtain ⟨hnext, hout⟩ := @FrameTransmitter.onFrameCaptured_cases _ _ codecs now.transmitter time
      rawMono960
    rw [TransmitController.gateFrame_of_closed hguard] at hnext hout
    rw [if_neg Bool.false_ne_true] at hout
    simp only [Silent, step, hnext, hout]
    rcases h with ⟨hsame, hopen⟩ | ⟨hwas, hshut, encoder, hmarker⟩
    · cases hstate : now.transmitter.wasTransmitting with
      | false => exact Or.inl ⟨hsame, fun h => absurd h Bool.false_ne_true⟩
      | true =>
        rw [if_pos rfl]
        split
        · exact Or.inl ⟨hsame, fun h => absurd h Bool.false_ne_true⟩
        · exact Or.inr ⟨hopen hstate, trivial, now.transmitter.encoder, by rw [← hsame]; rfl⟩
    · rw [hshut]
      exact Or.inr ⟨hwas, trivial, encoder, hmarker⟩
  | _ => exact h

/-- Nothing of the microphone leaves while the gate stays closed, from any state on: at most one
frame is sent, it is the end marker of a talkspurt that was open, and it holds silence. -/
theorem closed_gate_leaks_nothing (m : Microphone Denoiser Encoder) (history : List TransmitEvent)
    (hclosed : Guarded (step codecs) ClosedGate m history) :
    (runHistory (step codecs) m history).sent = m.sent ∨
      m.transmitter.wasTransmitting = true ∧ ∃ encoder,
        (runHistory (step codecs) m history).sent =
          ⟨(codecs.opus encoder FrameTransmitter.silence).2, true⟩ :: m.sent := by
  have hlast := (throughout_of_guarded (I := m.Silent codecs) (Or.inl ⟨rfl, id⟩)
    (fun now e h hguard => silent_step h hguard) hclosed).last
  rcases hlast with ⟨hsame, -⟩ | ⟨hwas, -, hmarker⟩
  · exact Or.inl hsame
  · exact Or.inr ⟨hwas, hmarker⟩

theorem muted_frame_is_kept :
    let talking := runHistory (step copying) (start none ()) [.frame 0 [0.25], .setMode .alwaysOn]
    (runHistory (step copying) talking
        [.frame (milliseconds 40) [0.5], .frame (milliseconds 20) [0.5], .setMicMuted true]).sent =
      ⟨[0], true⟩ :: talking.sent := by
  intro talking
  rcases @closed_gate_leaks_nothing _ _ copying talking
    [.frame (milliseconds 40) [0.5], .frame (milliseconds 20) [0.5], .setMicMuted true]
    (by decide) with hsame | ⟨-, encoder, hmarker⟩
  · exact absurd hsame (by decide)
  · exact hmarker

/-- The times at which the gate has seen a frame at the voice level, newest first. -/
def voiceTimes (codecs : Codecs Denoiser Encoder) (m : Microphone Denoiser Encoder) :
    List TransmitEvent → List Time
  | [] => []
  | .frame now rawMono960 :: earlier =>
      let t := (runHistory (step codecs) m earlier).transmitter
      if t.toTransmitController.Evaluates ∧ t.levelIsVoiceLike codecs rawMono960 = true then
        now :: voiceTimes codecs m earlier
      else voiceTimes codecs m earlier
  | _ :: earlier => voiceTimes codecs m earlier

def TransmitEvent.time : TransmitEvent → Option Time
  | .frame now _ => some now
  | _ => none

/-- The clock of the frames, newest first. -/
def frameTimes (history : List TransmitEvent) : List Time := history.filterMap TransmitEvent.time

private theorem voiceTimes_sublist (m : Microphone Denoiser Encoder)
    (history : List TransmitEvent) :
    (voiceTimes codecs m history).Sublist (frameTimes history) := by
  induction history with
  | nil => exact List.Sublist.slnil
  | cons e earlier ih =>
    cases e with
    | frame now rawMono960 =>
      simp only [voiceTimes, frameTimes, List.filterMap_cons, TransmitEvent.time]
      split
      · exact List.Sublist.cons_cons now ih
      · exact List.Sublist.cons now ih
    | _ => exact ih

private theorem vadHangoverUntil_eq (noiseSuppressor : Option Denoiser) (encoder : Encoder)
    (history : List TransmitEvent) :
    (runHistory (step codecs) (start noiseSuppressor encoder)
        history).transmitter.vadHangoverUntil =
      match voiceTimes codecs (start noiseSuppressor encoder) history with
      | [] => 0
      | newest :: _ => newest + kVadHangover := by
  induction history with
  | nil => rfl
  | cons e earlier ih =>
    cases e with
    | frame now rawMono960 =>
      rw [runHistory_cons]
      simp only [step, FrameTransmitter.onFrameCaptured_toTransmitController,
        TransmitController.gateFrame_vadHangoverUntil, voiceTimes,
        FrameTransmitter.levelIsVoiceLike, decide_eq_true_eq]
      split
      · rfl
      · exact ih
    | _ => exact ih

/-- In every run whose clock does not go back, a frame that the level of the microphone decides on
is transmitted exactly if it is at the voice level, or such a frame has been seen in the last
300 ms: no setting changed in between, no mute and no override leaves a trace. -/
theorem voice_activation_exact (noiseSuppressor : Option Denoiser) (encoder : Encoder)
    (history : List TransmitEvent) (now : Time) (rawMono960 : List Float32)
    (hclock : (frameTimes (.frame now rawMono960 :: history)).Pairwise (· ≥ ·)) (hepoch : 0 ≤ now)
    (hdecides : (runHistory (step codecs) (start noiseSuppressor encoder)
      history).transmitter.toTransmitController.Evaluates) :
    (runHistory (step codecs) (start noiseSuppressor encoder)
        (.frame now rawMono960 :: history)).transmitter.isTransmitting = true ↔
      (runHistory (step codecs) (start noiseSuppressor encoder)
          history).transmitter.levelIsVoiceLike codecs rawMono960 = true ∨
        ∃ time ∈ voiceTimes codecs (start noiseSuppressor encoder) history,
          now < time + kVadHangover := by
  have hhangover := @vadHangoverUntil_eq _ _ codecs noiseSuppressor encoder history
  have hsorted : (voiceTimes codecs (start noiseSuppressor encoder) history).Pairwise (· ≥ ·) :=
    (List.pairwise_cons.mp hclock).2.sublist (voiceTimes_sublist _ history)
  rw [runHistory_cons]
  simp only [step, FrameTransmitter.onFrameCaptured_toTransmitController]
  rw [TransmitController.gateFrame_of_evaluates hdecides, hhangover, Bool.or_eq_true,
    FrameTransmitter.levelIsVoiceLike]
  apply or_congr Iff.rfl
  generalize voiceTimes codecs (start noiseSuppressor encoder) history = times at hsorted
  cases times with
  | nil => simpa using hepoch
  | cons newest older =>
    rw [decide_eq_true_eq]
    constructor
    · intro hlate
      exact ⟨newest, List.mem_cons_self, hlate⟩
    · rintro ⟨time, htime, hlate⟩
      rcases List.mem_cons.mp htime with rfl | holder
      · exact hlate
      · have hge : time ≤ newest := (List.pairwise_cons.mp hsorted).1 time holder
        exact lt_of_lt_of_le hlate (Int.add_le_add_right hge _)

theorem quiet_frame_after_voice :
    (runHistory (step copying) (start none ())
      [.frame (milliseconds 100) [], .frame 0 [0.5]]).transmitter.isTransmitting = true :=
  (voice_activation_exact none () [.frame 0 [0.5]] (milliseconds 100) [] (by decide) (by decide)
    (by decide +kernel)).mpr (Or.inr ⟨0, by decide +kernel, by decide⟩)

end Microphone

end TaskForceRadio.Voice
