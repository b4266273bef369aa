import Mathlib.Data.Rat.Floor
import TaskForceRadio.Client.RemoteVoiceSource
import TaskForceRadio.Foundation.Execution
import TaskForceRadio.Foundation.Resampling

/-!
# Capture resampling

`WasapiCaptureEngine`: packets of the device are mixed down to one channel, resampled to 48 kHz
with a rational cursor, and delivered in frames of 20 ms. The arithmetic of the samples stays
open.
-/

set_option autoImplicit false

namespace TaskForceRadio.Voice

def kTargetSampleRate : Nat := 48000
def kTargetFrameSamples : Nat := kFrameSamples

structure Pcm (α : Type) where
  zero : α
  add : α → α → α
  scale : α → ℚ → α
  divide : α → Nat → α
  /-- A 16-bit sample over 32768. -/
  ofShort : Int16 → α

/-- Linear interpolation. -/
def Pcm.interpolate {α : Type} (pcm : Pcm α) (x y : α) (frac : ℚ) : α :=
  pcm.add (pcm.scale x (1 - frac)) (pcm.scale y frac)

/-- The format of a capture device. -/
structure CaptureFormat where
  sampleRate : Nat
  channels : Nat
  bitsPerSample : Nat
  isFloat : Bool

/-- What `GetBuffer` hands out: a buffer that is to be taken for silence, or the one there is. -/
inductive CapturePacket (α : Type) where
  | silent (framesAvailable : Nat)
  | floats (framesAvailable : Nat) (interleaved : List α)
  | shorts (framesAvailable : Nat) (interleaved : List Int16)

structure WasapiCaptureEngine (α : Type) where
  nativeMono : List α := []
  resampleCursor : ℚ := 0
  frameBuffer : List α := []

/-- The native samples for one output at 48 kHz. -/
def resampleStep (nativeSampleRate : Nat) : ℚ := nativeSampleRate / kTargetSampleRate

private theorem resampleStep_pos {nativeSampleRate : Nat} (h : 0 < nativeSampleRate) :
    0 < resampleStep nativeSampleRate := by
  have hrate : (0 : ℚ) < nativeSampleRate := Nat.cast_pos.mpr h
  exact div_pos hrate (by norm_num [kTargetSampleRate])

section Capture
variable {α : Type} (pcm : Pcm α)

/-- The mono samples of one packet. -/
def downmix (interleaved : List α) (frameCount channels : Nat) : List α :=
  if channels ≤ 1 then interleaved.take frameCount
  else (List.range frameCount).map (fun i =>
    pcm.divide (((interleaved.drop (i * channels)).take channels).foldl pcm.add pcm.zero) channels)

/-- The conversions of the packet loop: the frames and the samples that go to
`appendNativeSamples`. A format that is neither float nor 16 bit is dropped. -/
def CapturePacket.samples (format : CaptureFormat) : CapturePacket α → Nat × List α
  | .silent n => (n, List.replicate (n * format.channels) pcm.zero)
  | .floats n interleaved => if format.isFloat then (n, interleaved) else (0, [])
  | .shorts n interleaved =>
      if !format.isFloat && format.bitsPerSample == 16 then (n, interleaved.map pcm.ofShort)
      else (0, [])

/-- What a packet adds to the mono stream. -/
def CapturePacket.mono (format : CaptureFormat) (packet : CapturePacket α) : List α :=
  downmix pcm (packet.samples pcm format).2 (packet.samples pcm format).1 format.channels

namespace WasapiCaptureEngine

def appendNativeSamples (e : WasapiCaptureEngine α) (interleaved : List α)
    (frameCount channels : Nat) : WasapiCaptureEngine α :=
  { e with nativeMono := e.nativeMono ++ downmix pcm interleaved frameCount channels }

/-- One round of the loop: a sample for the frame, and the frame when it is complete. -/
def emitSample (step : ℚ) (e : WasapiCaptureEngine α)
    (h : ⌊e.resampleCursor⌋₊ + 1 < e.nativeMono.length) :
    WasapiCaptureEngine α × List (List α) :=
  let idx0 := ⌊e.resampleCursor⌋₊
  have hidx0 : idx0 < e.nativeMono.length := Nat.lt_of_succ_lt h
  let sample := pcm.interpolate e.nativeMono[idx0] e.nativeMono[idx0 + 1]
    (e.resampleCursor - (idx0 : ℚ))
  let frameBuffer := e.frameBuffer ++ [sample]
  let resampleCursor := e.resampleCursor + step
  if kTargetFrameSamples ≤ frameBuffer.length then
    ({ e with resampleCursor, frameBuffer := frameBuffer.drop kTargetFrameSamples },
      [frameBuffer.take kTargetFrameSamples])
  else ({ e with resampleCursor, frameBuffer }, [])

private theorem emitSample_nativeMono (step : ℚ) {e : WasapiCaptureEngine α}
    (h : ⌊e.resampleCursor⌋₊ + 1 < e.nativeMono.length) :
    (e.emitSample pcm step h).1.nativeMono = e.nativeMono ∧
      (e.emitSample pcm step h).1.resampleCursor = e.resampleCursor + step := by
  rw [emitSample]
  split <;> exact ⟨rfl, rfl⟩

/-- The loop of `resampleAndEmit`, and the frames it hands to the callback. -/
def emitSamples (step : ℚ) (hstep : 0 < step) (e : WasapiCaptureEngine α) :
    WasapiCaptureEngine α × List (List α) :=
  if h : ⌊e.resampleCursor⌋₊ + 1 < e.nativeMono.length then
    let later := emitSamples step hstep (e.emitSample pcm step h).1
    (later.1, (e.emitSample pcm step h).2 ++ later.2)
  else (e, [])
termination_by ⌈((e.nativeMono.length : ℚ) - e.resampleCursor) / step⌉₊
decreasing_by
  obtain ⟨hmono, hcursor⟩ := emitSample_nativeMono pcm step h
  rw [hmono, hcursor]
  apply ceil_advance_lt hstep
  exact lt_trans (Nat.lt_floor_add_one _) (by exact_mod_cast h)

def resampleAndEmit (nativeSampleRate : Nat) (e : WasapiCaptureEngine α) :
    WasapiCaptureEngine α × List (List α) :=
  if h : 0 < nativeSampleRate ∧ e.nativeMono ≠ [] then
    let (e, frames) := e.emitSamples pcm (resampleStep nativeSampleRate) (resampleStep_pos h.1)
    let (nativeMono, resampleCursor) := dropConsumed e.nativeMono e.resampleCursor
    ({ e with nativeMono, resampleCursor }, frames)
  else (e, [])

end WasapiCaptureEngine

inductive CaptureEvent (α : Type) where
  | packet (packet : CapturePacket α)
  | resample

/-- One session of a device: the engine, the mono samples so far, those that arrived since
`resampleAndEmit` was last called, and the frames the callback got. -/
structure CaptureRun (α : Type) where
  engine : WasapiCaptureEngine α := {}
  stream : List α := []
  unread : List α := []
  frames : List (List α) := []

namespace CaptureRun

def step (format : CaptureFormat) (r : CaptureRun α) : CaptureEvent α → CaptureRun α
  | .packet packet =>
      let (frameCount, interleaved) := packet.samples pcm format
      { r with
        engine := r.engine.appendNativeSamples pcm interleaved frameCount format.channels
        stream := r.stream ++ packet.mono pcm format
        unread := r.unread ++ packet.mono pcm format }
  | .resample =>
      let (engine, frames) := r.engine.resampleAndEmit pcm format.sampleRate
      { r with engine, unread := [], frames := r.frames ++ frames }

/-- The samples at 48 kHz: those of the delivered frames, and those of the frame that fills. -/
def outputs (r : CaptureRun α) : List α := r.frames.flatten ++ r.engine.frameBuffer

/-- What the callback and the buffers hold against the stream that came from the device. -/
structure Delivers (format : CaptureFormat) (r : CaptureRun α) : Prop where
  blocks : ∀ frame ∈ r.frames, frame.length = kTargetFrameSamples
  short : r.engine.frameBuffer.length < kTargetFrameSamples
  soFar : ResampledSoFar pcm.interpolate (resampleStep format.sampleRate) r.stream r.outputs
  complete : r.unread = [] →
    Resampled pcm.interpolate (resampleStep format.sampleRate) r.stream r.outputs

end CaptureRun

variable {pcm}

namespace WasapiCaptureEngine

/-- The engine stands at the next output of the stream, `emitted` before what its frame holds. -/
structure Reads (pcm : Pcm α) (step : ℚ) (stream emitted : List α) (dropped : Nat)
    (e : WasapiCaptureEngine α) : Prop where
  window : WindowAt stream e.nativeMono e.resampleCursor
    ((emitted ++ e.frameBuffer).length * step) dropped
  soFar : ResampledSoFar pcm.interpolate step stream (emitted ++ e.frameBuffer)
  short : e.frameBuffer.length < kTargetFrameSamples

variable {step : ℚ} {stream emitted : List α} {dropped : Nat} {e : WasapiCaptureEngine α}

private theorem emitSample_outputs (pcm : Pcm α) (step : ℚ)
    (h : ⌊e.resampleCursor⌋₊ + 1 < e.nativeMono.length) :
    ∃ y, sampleAt pcm.interpolate e.nativeMono e.resampleCursor = some y ∧
      (e.emitSample pcm step h).2.flatten ++ (e.emitSample pcm step h).1.frameBuffer =
        e.frameBuffer ++ [y] := by
  refine ⟨_, sampleAt_of_lt h, ?_⟩
  rw [emitSample]
  split
  · simp only [List.flatten_cons, List.flatten_nil, List.append_nil, List.take_append_drop]
  · rfl

private theorem emitSample_blocks (h : ⌊e.resampleCursor⌋₊ + 1 < e.nativeMono.length)
    (hshort : e.frameBuffer.length < kTargetFrameSamples) :
    (∀ frame ∈ (e.emitSample pcm step h).2, frame.length = kTargetFrameSamples) ∧
      (e.emitSample pcm step h).1.frameBuffer.length < kTargetFrameSamples := by
  rw [emitSample]
  split
  · rename_i hfull
    have hlen : ∀ y : α, (e.frameBuffer ++ [y]).length = e.frameBuffer.length + 1 :=
      fun _ => List.length_append
    constructor
    · intro frame hframe
      rw [List.mem_singleton.mp hframe, List.length_take]
      exact Nat.min_eq_left hfull
    · dsimp only
      rw [List.length_drop, hlen]
      omega
  · rename_i hopen
    exact ⟨fun frame hframe => absurd hframe List.not_mem_nil, Nat.lt_of_not_le hopen⟩

private theorem Reads.emitSample (hr : Reads pcm step stream emitted dropped e) (hstep : 0 < step)
    (h : ⌊e.resampleCursor⌋₊ + 1 < e.nativeMono.length) :
    Reads pcm step stream (emitted ++ (e.emitSample pcm step h).2.flatten) dropped
      (e.emitSample pcm step h).1 := by
  obtain ⟨y, hy, houtputs⟩ := emitSample_outputs pcm step h
  obtain ⟨hmono, hcursor⟩ := emitSample_nativeMono pcm step h
  have hnext : sampleAt pcm.interpolate stream ((emitted ++ e.frameBuffer).length * step) =
      some y := by
    rw [← hr.window.sampleAt_eq]
    exact hy
  have hall : emitted ++ (e.emitSample pcm step h).2.flatten ++
      (e.emitSample pcm step h).1.frameBuffer = emitted ++ e.frameBuffer ++ [y] := by
    rw [List.append_assoc, houtputs, List.append_assoc]
  refine ⟨?_, ?_, (emitSample_blocks h hr.short).2⟩
  · have hadvanced := hr.window.advance hstep.le
    rw [hall, hmono, hcursor, List.length_append, List.length_singleton, Nat.cast_add,
      Nat.cast_one, add_mul, one_mul]
    exact hadvanced
  · rw [hall]
    exact hr.soFar.snoc hnext

/-- What the loop does: it keeps to whole frames and stops at the end of the window. -/
structure Emitted (pcm : Pcm α) (step : ℚ) (stream emitted : List α) (dropped : Nat)
    (e : WasapiCaptureEngine α) (frames : List (List α)) : Prop where
  reads : Reads pcm step stream (emitted ++ frames.flatten) dropped e
  blocks : ∀ frame ∈ frames, frame.length = kTargetFrameSamples
  stopped : ¬⌊e.resampleCursor⌋₊ + 1 < e.nativeMono.length

private theorem Reads.emitSamples (hr : Reads pcm step stream emitted dropped e)
    (hstep : 0 < step) :
    Emitted pcm step stream emitted dropped (e.emitSamples pcm step hstep).1
      (e.emitSamples pcm step hstep).2 ∧
      (e.emitSamples pcm step hstep).1.nativeMono = e.nativeMono := by
  induction e using emitSamples.induct pcm step hstep generalizing emitted with
  | case1 e h ih =>
    obtain ⟨hlater, hmono⟩ := ih (hr.emitSample hstep h)
    rw [WasapiCaptureEngine.emitSamples, dif_pos h]
    refine ⟨⟨?_, ?_, hlater.stopped⟩, hmono.trans (emitSample_nativeMono pcm step h).1⟩
    · rw [List.flatten_append, ← List.append_assoc]
      exact hlater.reads
    · intro frame hframe
      rcases List.mem_append.mp hframe with hfirst | hrest
      · exact (emitSample_blocks h hr.short).1 frame hfirst
      · exact hlater.blocks frame hrest
  | case2 e h =>
    rw [WasapiCaptureEngine.emitSamples, dif_neg h]
    refine ⟨⟨?_, fun frame hframe => absurd hframe List.not_mem_nil, h⟩, rfl⟩
    rw [List.flatten_nil, List.append_nil]
    exact hr

private theorem Reads.stopped_iff (hr : Reads pcm step stream emitted dropped e) :
    ⌊e.resampleCursor⌋₊ + 1 < e.nativeMono.length ↔
      ⌊((emitted ++ e.frameBuffer).length : ℚ) * step⌋₊ + 1 < stream.length :=
  hr.window.arrived_iff

theorem Emitted.resampled {frames : List (List α)} (hstep : 0 < step)
    (h : Emitted pcm step stream emitted dropped e frames) :
    Resampled pcm.interpolate step stream (emitted ++ frames.flatten ++ e.frameBuffer) ∧
      (emitted ++ frames.flatten ++ e.frameBuffer).length = arrivedOutputs step stream.length := by
  have hstop : ¬⌊((emitted ++ frames.flatten ++ e.frameBuffer).length : ℚ) * step⌋₊ + 1 <
      stream.length := by
    rw [← h.reads.stopped_iff]
    exact h.stopped
  exact ⟨resampled_of_stopped hstep h.reads.soFar hstop,
    length_of_stopped hstep h.reads.soFar hstop⟩

/-- Dropping the consumed front changes nothing that is read later. -/
theorem Reads.dropConsumed (hr : Reads pcm step stream emitted dropped e) :
    ∃ dropped', Reads pcm step stream emitted dropped'
      { e with
        nativeMono := (dropConsumed e.nativeMono e.resampleCursor).1
        resampleCursor := (dropConsumed e.nativeMono e.resampleCursor).2 } := by
  obtain ⟨dropped', hwindow⟩ := hr.window.dropConsumed
  exact ⟨dropped', hwindow, hr.soFar, hr.short⟩

private theorem Emitted.overshot_iff {frames : List (List α)} (hstep : 0 < step)
    (h : Emitted pcm step stream emitted dropped e frames) :
    e.nativeMono.length < ⌊e.resampleCursor⌋₊ ↔
      (stream.length : ℚ) + 1 ≤ arrivedOutputs step stream.length * step := by
  have hlength := h.reads.window.length
  have hfloor := h.reads.window.floor_position
  rw [(h.resampled hstep).2] at hfloor
  have hposition : (0 : ℚ) ≤ arrivedOutputs step stream.length * step :=
    mul_nonneg (Nat.cast_nonneg _) hstep.le
  have hle := Nat.le_floor_iff (n := stream.length + 1) hposition
  push_cast at hle
  rw [← hle, hfloor]
  omega

/-- What a call of `resampleAndEmit` leaves. -/
structure Resamples (pcm : Pcm α) (step : ℚ) (stream emitted before : List α)
    (e : WasapiCaptureEngine α) (frames : List (List α)) : Prop where
  reads : ∃ dropped, Reads pcm step stream (emitted ++ frames.flatten) dropped e
  blocks : ∀ frame ∈ frames, frame.length = kTargetFrameSamples
  resampled : Resampled pcm.interpolate step stream (emitted ++ frames.flatten ++ e.frameBuffer)
  trimmed : arrivedOutputs step stream.length * step < (stream.length : ℚ) + 1 →
    e.nativeMono.length ≤ 1
  kept : (stream.length : ℚ) + 1 ≤ arrivedOutputs step stream.length * step →
    e.nativeMono = before

private theorem Reads.resampleAndEmit {rate : Nat} (hrate : 0 < rate)
    (hr : Reads pcm (resampleStep rate) stream emitted dropped e) :
    Resamples pcm (resampleStep rate) stream emitted e.nativeMono (e.resampleAndEmit pcm rate).1
      (e.resampleAndEmit pcm rate).2 := by
  have hstep := resampleStep_pos hrate
  by_cases hempty : e.nativeMono = []
  · rw [WasapiCaptureEngine.resampleAndEmit, dif_neg (fun h => h.2 hempty)]
    have hem : Emitted pcm (resampleStep rate) stream emitted dropped e [] := by
      refine ⟨?_, fun frame hframe => absurd hframe List.not_mem_nil, ?_⟩
      · rw [List.flatten_nil, List.append_nil]
        exact hr
      · rw [hempty]
        exact Nat.not_lt_zero _
    refine ⟨⟨dropped, hem.reads⟩, hem.blocks, (hem.resampled hstep).1, fun _ => ?_, fun _ => rfl⟩
    rw [hempty]
    exact Nat.zero_le 1
  · rw [WasapiCaptureEngine.resampleAndEmit, dif_pos ⟨hrate, hempty⟩]
    obtain ⟨hem, hmono⟩ := hr.emitSamples hstep
    refine ⟨hem.reads.dropConsumed, hem.blocks, (hem.resampled hstep).1, fun hnear => ?_,
      fun hfar => ?_⟩
    · have hnot : ¬(e.emitSamples pcm (resampleStep rate) hstep).1.nativeMono.length <
          ⌊(e.emitSamples pcm (resampleStep rate) hstep).1.resampleCursor⌋₊ := by
        rw [hem.overshot_iff hstep]
        exact not_le.mpr hnear
      have hlen := length_dropConsumed (Nat.le_of_not_lt hnot)
      have hstopped := hem.stopped
      dsimp only
      omega
    · have hover := (hem.overshot_iff hstep).mpr hfar
      dsimp only
      rw [dropConsumed_overshot hover]
      exact hmono

end WasapiCaptureEngine

namespace CaptureRun

variable {format : CaptureFormat} {r : CaptureRun α}

/-- The call of `resampleAndEmit` does not leave the cursor past the end of the window: the first
output whose neighbours are missing is less than one sample past the stream. -/
def StaysInside (format : CaptureFormat) (r : CaptureRun α) : CaptureEvent α → Prop
  | .packet _ => True
  | .resample =>
      arrivedOutputs (resampleStep format.sampleRate) r.stream.length *
        resampleStep format.sampleRate < (r.stream.length : ℚ) + 1

private theorem staysInside_of_le (hrate : 0 < format.sampleRate) (hle : format.sampleRate ≤ 96000)
    (r : CaptureRun α) (event : CaptureEvent α) :
    r.StaysInside format event := by
  cases event with
  | packet packet => exact trivial
  | resample =>
    have hstep := resampleStep_pos hrate
    have htwo : resampleStep format.sampleRate ≤ 2 := by
      have hcast : (format.sampleRate : ℚ) ≤ 96000 := by exact_mod_cast hle
      rw [resampleStep, kTargetSampleRate, div_le_iff₀ (by norm_num)]
      push_cast
      linarith
    rw [StaysInside, arrivedOutputs]
    rcases le_or_gt (((r.stream.length : ℚ) - 1) / resampleStep format.sampleRate) 0 with
      hnone | hsome
    · rw [Nat.ceil_eq_zero.mpr hnone, Nat.cast_zero, zero_mul]
      positivity
    · have hceil := Nat.ceil_lt_add_one hsome.le
      have hscaled := mul_lt_mul_of_pos_right hceil hstep
      rw [add_mul, div_mul_cancel₀ _ hstep.ne', one_mul] at hscaled
      linarith

/-- What every event keeps. -/
structure Follows (pcm : Pcm α) (format : CaptureFormat) (r : CaptureRun α) : Prop where
  reads : ∃ dropped, WasapiCaptureEngine.Reads pcm (resampleStep format.sampleRate) r.stream
    r.frames.flatten dropped r.engine
  blocks : ∀ frame ∈ r.frames, frame.length = kTargetFrameSamples
  complete : r.unread = [] →
    Resampled pcm.interpolate (resampleStep format.sampleRate) r.stream r.outputs

/-- The window holds what arrived since the last call, and one sample before it. -/
def Bounded (r : CaptureRun α) : Prop := r.engine.nativeMono.length ≤ r.unread.length + 1

theorem Follows.delivers (h : r.Follows pcm format) : r.Delivers pcm format := by
  obtain ⟨dropped, hreads⟩ := h.reads
  exact ⟨h.blocks, hreads.short, hreads.soFar, h.complete⟩

private theorem follows_start (pcm : Pcm α) (hrate : 0 < format.sampleRate) :
    ({} : CaptureRun α).Follows pcm format := by
  have hsoFar :
      ResampledSoFar pcm.interpolate (resampleStep format.sampleRate) ([] : List α) [] := by
    intro k y hy
    simp at hy
  refine ⟨⟨0, ⟨?_, hsoFar, Nat.succ_pos _⟩⟩, fun frame hframe => absurd hframe List.not_mem_nil, ?_⟩
  · simpa using windowAt_start (α := α) (K := ℚ)
  · intro _
    apply resampled_of_stopped (resampleStep_pos hrate) hsoFar
    exact Nat.not_lt_zero _

theorem Follows.packet (h : r.Follows pcm format) (packet : CapturePacket α) :
    (r.step pcm format (.packet packet)).Follows pcm format := by
  obtain ⟨dropped, hreads⟩ := h.reads
  refine ⟨⟨dropped, hreads.window.append _, hreads.soFar.append _, hreads.short⟩, h.blocks, ?_⟩
  intro hunread
  obtain ⟨hold, hnothing⟩ := List.append_eq_nil_iff.mp hunread
  have hstream : (r.step pcm format (.packet packet)).stream = r.stream := by
    show r.stream ++ packet.mono pcm format = r.stream
    rw [hnothing, List.append_nil]
  rw [hstream]
  exact h.complete hold

private theorem Follows.resample (hrate : 0 < format.sampleRate) (h : r.Follows pcm format) :
    (r.step pcm format .resample).Follows pcm format := by
  obtain ⟨dropped, hreads⟩ := h.reads
  have hcall := hreads.resampleAndEmit hrate
  have hflatten : (r.step pcm format .resample).frames.flatten =
      r.frames.flatten ++ (r.engine.resampleAndEmit pcm format.sampleRate).2.flatten :=
    List.flatten_append
  refine ⟨?_, ?_, fun _ => ?_⟩
  · rw [hflatten]
    exact hcall.reads
  · intro frame hframe
    rcases List.mem_append.mp hframe with hold | hnew
    · exact h.blocks frame hold
    · exact hcall.blocks frame hnew
  · rw [outputs, hflatten]
    exact hcall.resampled

theorem Follows.step (hrate : 0 < format.sampleRate) (h : r.Follows pcm format)
    (event : CaptureEvent α) :
    (r.step pcm format event).Follows pcm format := by
  cases event with
  | packet packet => exact h.packet packet
  | resample => exact h.resample hrate

theorem Bounded.step (hrate : 0 < format.sampleRate) (h : r.Follows pcm format)
    (hbounded : r.Bounded) {event : CaptureEvent α} (hinside : r.StaysInside format event) :
    (r.step pcm format event).Bounded := by
  cases event with
  | packet packet =>
    have hmono : (r.step pcm format (.packet packet)).engine.nativeMono =
        r.engine.nativeMono ++ packet.mono pcm format := rfl
    have hunread : (r.step pcm format (.packet packet)).unread =
        r.unread ++ packet.mono pcm format := rfl
    rw [Bounded] at hbounded ⊢
    rw [hmono, hunread, List.length_append, List.length_append]
    omega
  | resample =>
    obtain ⟨dropped, hreads⟩ := h.reads
    exact (hreads.resampleAndEmit hrate).trimmed hinside

/-- The callback gets the resampled stream in blocks, whatever the packets and the calls; the
window stays small in every run whose calls leave the cursor inside of it. -/
theorem capture_follows_stream (pcm : Pcm α) {format : CaptureFormat}
    (hrate : 0 < format.sampleRate) (history : List (CaptureEvent α)) :
    Throughout (step pcm format) (Delivers pcm format) {} history ∧
      (Guarded (step pcm format) (StaysInside format) {} history →
        Throughout (step pcm format) Bounded {} history) := by
  constructor
  · have hfollows : Throughout (step pcm format) (Follows pcm format) {} history := by
      apply throughout_of_invariant (follows_start pcm hrate)
      intro r event h
      exact h.step hrate event
    exact hfollows.imp (fun _ h => h.delivers)
  · intro hguarded
    have hboth : Throughout (step pcm format) (fun r => r.Follows pcm format ∧ r.Bounded) {}
        history := by
      apply throughout_of_guarded ⟨follows_start pcm hrate, Nat.zero_le 1⟩ _ hguarded
      intro r event h hinside
      exact ⟨h.1.step hrate event, h.2.step hrate h.1 hinside⟩
    exact hboth.imp (fun _ h => h.2)

end CaptureRun

end Capture

/-- Samples without rounding. -/
def exactPcm : Pcm ℚ where
  zero := 0
  add x y := x + y
  scale x factor := x * factor
  divide x n := x / n
  ofShort s := s.toInt / 32768

def monoFloat (sampleRate : Nat) : CaptureFormat where
  sampleRate
  channels := 1
  bitsPerSample := 32
  isFloat := true

namespace CaptureRun

theorem capture_follows_stream_cd :
    Throughout (step exactPcm (monoFloat 44100)) (Delivers exactPcm (monoFloat 44100)) {}
        [.resample, .packet (.floats 3 [0, 1, 0])] ∧
      Throughout (step exactPcm (monoFloat 44100)) Bounded {}
        [.resample, .packet (.floats 3 [0, 1, 0])] := by
  obtain ⟨hdelivers, hbounded⟩ := capture_follows_stream exactPcm
    (by decide : 0 < (monoFloat 44100).sampleRate) [.resample, .packet (.floats 3 [0, 1, 0])]
  have hinside := staysInside_of_le (α := ℚ) (by decide : 0 < (monoFloat 44100).sampleRate)
    (by decide)
  exact ⟨hdelivers, hbounded (guarded_of_forall hinside _)⟩

/-- Two samples and then four at a time, every packet resampled at once. -/
def fourAtATime : Nat → List (CaptureEvent ℚ)
  | 0 => [.resample, .packet (.floats 2 [0, 0])]
  | n + 1 => .resample :: .packet (.floats 4 [0, 0, 0, 0]) :: fourAtATime n

private theorem overshot_of_length {n : Nat} {stream : List ℚ} (h : stream.length = 4 * n + 2) :
    (stream.length : ℚ) + 1 ≤
      arrivedOutputs (resampleStep 192000) stream.length * resampleStep 192000 := by
  have hstep : resampleStep 192000 = 4 := by norm_num [resampleStep, kTargetSampleRate]
  have hfloor : ⌊(n : ℚ) * 4⌋₊ = n * 4 := by
    have hcast : (n : ℚ) * 4 = ((n * 4 : Nat) : ℚ) := by push_cast; ring
    rw [hcast, Nat.floor_natCast]
  have hmany : n + 1 ≤ arrivedOutputs (4 : ℚ) stream.length := by
    rw [Nat.succ_le_iff, lt_arrivedOutputs (by norm_num), hfloor, h]
    omega
  have hcast : ((n + 1 : Nat) : ℚ) ≤ (arrivedOutputs (4 : ℚ) stream.length : ℚ) :=
    Nat.cast_le.mpr hmany
  have hlength : (stream.length : ℚ) = 4 * n + 2 := by
    rw [h]
    push_cast
    ring
  push_cast at hcast
  rw [hstep, hlength]
  linarith

private theorem window_fourAtATime (n : Nat) :
    (runHistory (step exactPcm (monoFloat 192000)) {} (fourAtATime n)).Follows exactPcm
        (monoFloat 192000) ∧
      (runHistory (step exactPcm (monoFloat 192000)) {} (fourAtATime n)).stream.length =
        4 * n + 2 ∧
      (runHistory (step exactPcm (monoFloat 192000)) {}
        (fourAtATime n)).engine.nativeMono.length = 4 * n + 2 ∧
      (runHistory (step exactPcm (monoFloat 192000)) {} (fourAtATime n)).unread = [] := by
  have hrate : 0 < (monoFloat 192000).sampleRate := by decide
  induction n with
  | zero =>
    have hpacket := (follows_start exactPcm hrate).packet (.floats 2 [0, 0])
    obtain ⟨dropped, hreads⟩ := hpacket.reads
    have hkept := (hreads.resampleAndEmit hrate).kept (overshot_of_length (n := 0) rfl)
    exact ⟨hpacket.resample hrate, rfl, congrArg List.length hkept, rfl⟩
  | succ n ih =>
    obtain ⟨hfollows, hstream, hwindow, hunread⟩ := ih
    have hpacket := hfollows.packet (.floats 4 [0, 0, 0, 0])
    have hlength : (step exactPcm (monoFloat 192000)
        (runHistory (step exactPcm (monoFloat 192000)) {} (fourAtATime n))
        (.packet (.floats 4 [0, 0, 0, 0]))).stream.length = 4 * (n + 1) + 2 := by
      show (_ ++ [(0 : ℚ), 0, 0, 0]).length = _
      rw [List.length_append, hstream]
      rfl
    obtain ⟨dropped, hreads⟩ := hpacket.reads
    have hkept := (hreads.resampleAndEmit hrate).kept (overshot_of_length hlength)
    refine ⟨hpacket.resample hrate, hlength, ?_, rfl⟩
    apply (congrArg List.length hkept).trans
    show (_ ++ [(0 : ℚ), 0, 0, 0]).length = _
    rw [List.length_append, hwindow]
    rfl

/-- At 192 kHz packets of four samples after one of two are kept forever: no bound on the window
is a bound by the last packet. -/
theorem capture_window_unbounded :
    ¬∃ bound : Nat → Nat, ∀ (format : CaptureFormat) (history : List (CaptureEvent ℚ)),
      0 < format.sampleRate →
      Throughout (step exactPcm format)
        (fun r => r.engine.nativeMono.length ≤ r.unread.length + bound format.sampleRate) {}
        history := by
  rintro ⟨bound, h⟩
  obtain ⟨-, -, hwindow, hunread⟩ := window_fourAtATime (bound 192000)
  have hlast := (h (monoFloat 192000)
    (.packet (.floats 4 [0, 0, 0, 0]) :: fourAtATime (bound 192000)) (by decide)).last
  have hlong : (_ ++ [(0 : ℚ), 0, 0, 0]).length ≤ (_ ++ [(0 : ℚ), 0, 0, 0]).length + bound 192000 :=
    hlast
  rw [List.length_append, List.length_append, hwindow, hunread] at hlong
  simp only [List.length_cons, List.length_nil] at hlong
  omega

end CaptureRun

end TaskForceRadio.Voice
