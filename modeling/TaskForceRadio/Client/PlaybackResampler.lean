import TaskForceRadio.Client.WasapiCaptureEngine

/-!
# Playback resampling

The render loop of `PlaybackMixer`: chunks of the 48 kHz mix are generated when the resampler
runs out of them, and the frames of the device are interpolated between stereo pairs. What a
chunk holds stays open.
-/

set_option autoImplicit false

namespace TaskForceRadio.Voice

def kChunkFrames : Nat := kFrameSamples
def kInternalSampleRate : Nat := 48000

/-- What `generateChunkLocked` appends: interleaved stereo. -/
structure MixChunk (α : Type) where
  samples : List α
  full : samples.length = kChunkFrames * 2

/-- The mix ahead of the resampler, the cursor in stereo frames, and how many chunks were
generated so far in the session. -/
structure MixBuffer (α : Type) where
  mixed48k : List α := []
  resampleCursor : ℚ := 0
  generated : Nat := 0

/-- How a device takes its samples: all channels of a frame in a row. -/
structure DeviceFormat (α ω : Type) where
  sampleRate : ℕ+
  channels : Nat
  /-- As it is, or clamped and scaled to 16 bit. -/
  convert : α → ω
  silence : ω

section Playback
variable {α ω : Type}

/-- The frames of the mix for one frame of the device. -/
def playbackStep (deviceSampleRate : ℕ+) : ℚ :=
  kInternalSampleRate / ((deviceSampleRate : Nat) : ℚ)

private theorem playbackStep_pos (deviceSampleRate : ℕ+) : 0 < playbackStep deviceSampleRate := by
  have hrate : (0 : ℚ) < ((deviceSampleRate : Nat) : ℚ) := Nat.cast_pos.mpr deviceSampleRate.pos
  exact div_pos (by norm_num [kInternalSampleRate]) hrate

/-- The first two channels carry the mix. -/
def DeviceFormat.write (format : DeviceFormat α ω) (out : α × α) : List ω :=
  [format.convert out.1] ++
    (if 1 < format.channels then [format.convert out.2] else []) ++
    List.replicate (format.channels - 2) format.silence

namespace MixBuffer

def generateChunkLocked (chunks : Nat → MixChunk α) (m : MixBuffer α) : MixBuffer α :=
  { m with
    mixed48k := m.mixed48k ++ (chunks m.generated).samples
    generated := m.generated + 1 }

/-- The loop that tops the mix up for the next frame. -/
def topUp (chunks : Nat → MixChunk α) (m : MixBuffer α) : MixBuffer α :=
  if m.mixed48k.length / 2 ≤ ⌊m.resampleCursor⌋₊ + 1 then
    topUp chunks (m.generateChunkLocked chunks)
  else m
termination_by ⌊m.resampleCursor⌋₊ + 2 - m.mixed48k.length / 2
decreasing_by
  have hfull := (chunks m.generated).full
  simp only [generateChunkLocked, List.length_append, hfull, kChunkFrames, kFrameSamples]
  omega

/-- The interpolated pair, unless an index is out of range. -/
def readFrame (pcm : Pcm α) (m : MixBuffer α) : Option (α × α) := do
  let idx0 := ⌊m.resampleCursor⌋₊ * 2
  let idx1 := idx0 + 2
  let frac := m.resampleCursor - (⌊m.resampleCursor⌋₊ : ℚ)
  let left0 ← m.mixed48k[idx0]?
  let left1 ← m.mixed48k[idx1]?
  let right0 ← m.mixed48k[idx0 + 1]?
  let right1 ← m.mixed48k[idx1 + 1]?
  return (pcm.interpolate left0 left1 frac, pcm.interpolate right0 right1 frac)

/-- One round of the loop over the frames of the device. -/
def renderFrame (pcm : Pcm α) (chunks : Nat → MixChunk α) (step : ℚ) (m : MixBuffer α) :
    Option (MixBuffer α × (α × α)) := do
  let m := m.topUp chunks
  let out ← m.readFrame pcm
  return ({ m with resampleCursor := m.resampleCursor + step }, out)

def renderFrames (pcm : Pcm α) (chunks : Nat → MixChunk α) (step : ℚ) :
    Nat → MixBuffer α → Option (MixBuffer α × List (α × α))
  | 0, m => some (m, [])
  | framesNeeded + 1, m => do
      let (m, out) ← m.renderFrame pcm chunks step
      let (m, outs) ← renderFrames pcm chunks step framesNeeded m
      return (m, out :: outs)

/-- The mix in front of the cursor is dropped, unless the cursor is past the end. -/
def trim (m : MixBuffer α) : MixBuffer α :=
  let consumedFrames := ⌊m.resampleCursor⌋₊
  if 0 < consumedFrames ∧ consumedFrames * 2 ≤ m.mixed48k.length then
    { m with
      mixed48k := m.mixed48k.drop (consumedFrames * 2)
      resampleCursor := m.resampleCursor - (consumedFrames : ℚ) }
  else m

/-- One callback of the device: what it writes, frame by frame. -/
def callback (pcm : Pcm α) (chunks : Nat → MixChunk α) (format : DeviceFormat α ω)
    (framesNeeded : Nat) (m : MixBuffer α) : Option (MixBuffer α × List (List ω)) :=
  if 0 < framesNeeded then do
    let (m, outs) ← m.renderFrames pcm chunks (playbackStep format.sampleRate) framesNeeded
    return (m.trim, outs.map format.write)
  else some (m, [])

/-- The callbacks of one session of a device, oldest first. -/
def session (pcm : Pcm α) (chunks : Nat → MixChunk α) (format : DeviceFormat α ω) :
    List Nat → MixBuffer α → Option (MixBuffer α × List (List ω))
  | [], m => some (m, [])
  | framesNeeded :: later, m => do
      let (m, frames) ← m.callback pcm chunks format framesNeeded
      let (m, rest) ← session pcm chunks format later m
      return (m, frames ++ rest)

end MixBuffer

/-- Interleaved samples, pair by pair. -/
def stereoFrames : List α → List (α × α)
  | left :: right :: rest => (left, right) :: stereoFrames rest
  | _ => []

/-- The concatenation of the first chunks. -/
def chunkStream (chunks : Nat → MixChunk α) (generated : Nat) : List (α × α) :=
  (List.range generated).flatMap (fun i => stereoFrames (chunks i).samples)

def Pcm.interpolateStereo (pcm : Pcm α) (x y : α × α) (frac : ℚ) : α × α :=
  (pcm.interpolate x.1 y.1 frac, pcm.interpolate x.2 y.2 frac)

private theorem length_stereoFrames (samples : List α) :
    (stereoFrames samples).length = samples.length / 2 := by
  induction samples using stereoFrames.induct with
  | case1 left right rest ih =>
    simp only [stereoFrames, List.length_cons, ih]
    omega
  | case2 samples h =>
    rcases samples with _ | ⟨x, _ | ⟨y, rest⟩⟩
    · simp [stereoFrames]
    · simp [stereoFrames]
    · exact absurd rfl (h x y rest)

private theorem stereoFrames_append {first : List α} (h : first.length % 2 = 0) (second : List α) :
    stereoFrames (first ++ second) = stereoFrames first ++ stereoFrames second := by
  induction first using stereoFrames.induct with
  | case1 left right rest ih =>
    have hrest : rest.length % 2 = 0 := by
      simp only [List.length_cons] at h
      omega
    simp only [List.cons_append, stereoFrames, ih hrest]
  | case2 samples hshort =>
    rcases samples with _ | ⟨x, _ | ⟨y, rest⟩⟩
    · rfl
    · simp at h
    · exact absurd rfl (hshort x y rest)

private theorem getElem?_stereoFrames (samples : List α) (i : Nat) :
    (stereoFrames samples)[i]? = (do
      let left ← samples[i * 2]?
      let right ← samples[i * 2 + 1]?
      return (left, right)) := by
  induction i generalizing samples with
  | zero =>
    rcases samples with _ | ⟨x, _ | ⟨y, rest⟩⟩ <;> rfl
  | succ i ih =>
    rcases samples with _ | ⟨x, _ | ⟨y, rest⟩⟩
    · rfl
    · simp [stereoFrames, Nat.succ_mul]
    · have hnext := ih rest
      simp only [stereoFrames, List.getElem?_cons_succ, Nat.succ_mul]
      exact hnext

private theorem stereoFrames_drop (samples : List α) (n : Nat) :
    stereoFrames (samples.drop (n * 2)) = (stereoFrames samples).drop n := by
  apply List.ext_getElem?
  intro i
  rw [getElem?_stereoFrames, List.getElem?_drop, List.getElem?_drop, List.getElem?_drop,
    getElem?_stereoFrames, Nat.add_mul, ← Nat.add_assoc]

private theorem chunkStream_succ (chunks : Nat → MixChunk α) (generated : Nat) :
    chunkStream chunks (generated + 1) =
      chunkStream chunks generated ++ stereoFrames (chunks generated).samples := by
  simp [chunkStream, List.range_succ]

namespace MixBuffer

variable {pcm : Pcm α} {chunks : Nat → MixChunk α} {step : ℚ} {m : MixBuffer α}
variable {written : List (α × α)}

/-- The mix in stereo frames. -/
def frames (m : MixBuffer α) : List (α × α) := stereoFrames m.mixed48k

/-- The resampler stands at its next output, and the mix is what is left of the chunks. -/
structure Reads (pcm : Pcm α) (chunks : Nat → MixChunk α) (step : ℚ) (written : List (α × α))
    (m : MixBuffer α) : Prop where
  window : ∃ dropped, WindowAt (chunkStream chunks m.generated) m.frames m.resampleCursor
    (written.length * step) dropped
  soFar : ResampledSoFar pcm.interpolateStereo step (chunkStream chunks m.generated) written
  even : m.mixed48k.length % 2 = 0
  ahead : (m.frames.length : ℚ) ≤ m.resampleCursor + (kChunkFrames + 1)

private theorem length_frames (m : MixBuffer α) : m.frames.length = m.mixed48k.length / 2 :=
  length_stereoFrames m.mixed48k

private theorem frames_generateChunkLocked (chunks : Nat → MixChunk α)
    (heven : m.mixed48k.length % 2 = 0) :
    (m.generateChunkLocked chunks).frames = m.frames ++ stereoFrames (chunks m.generated).samples :=
  stereoFrames_append heven _

theorem reads_start (pcm : Pcm α) (chunks : Nat → MixChunk α) (step : ℚ) :
    Reads pcm chunks step [] {} := by
  refine ⟨⟨0, ?_⟩, ?_, rfl, ?_⟩
  · simpa [chunkStream, frames, stereoFrames] using windowAt_start (α := α × α) (K := ℚ)
  · intro k y hy
    simp at hy
  · simp only [frames, stereoFrames, List.length_nil, Nat.cast_zero]
    positivity

theorem Reads.generateChunkLocked (h : m.Reads pcm chunks step written)
    (hshort : m.frames.length ≤ ⌊m.resampleCursor⌋₊ + 1) :
    (m.generateChunkLocked chunks).Reads pcm chunks step written := by
  obtain ⟨dropped, hwindow⟩ := h.window
  have hfull := (chunks m.generated).full
  have hframes := frames_generateChunkLocked chunks h.even
  have hstream := chunkStream_succ chunks m.generated
  have hchunk : (stereoFrames (chunks m.generated).samples).length = kChunkFrames := by
    rw [length_stereoFrames, hfull, Nat.mul_div_cancel _ (by decide)]
  refine ⟨⟨dropped, ?_⟩, ?_, ?_, ?_⟩
  · rw [hframes]
    show WindowAt (chunkStream chunks (m.generated + 1)) _ m.resampleCursor _ dropped
    rw [hstream]
    exact hwindow.append _
  · show ResampledSoFar _ step (chunkStream chunks (m.generated + 1)) written
    rw [hstream]
    exact h.soFar.append _
  · have heven := h.even
    show (m.mixed48k ++ (chunks m.generated).samples).length % 2 = 0
    rw [List.length_append, hfull]
    omega
  · have hfloor := Nat.floor_le hwindow.nonneg
    have hcast : (m.frames.length : ℚ) ≤ (⌊m.resampleCursor⌋₊ : ℚ) + 1 := by exact_mod_cast hshort
    rw [hframes, List.length_append, hchunk]
    show ((m.frames.length + kChunkFrames : Nat) : ℚ) ≤ m.resampleCursor + (kChunkFrames + 1)
    push_cast
    linarith

private theorem Reads.topUp (h : m.Reads pcm chunks step written) :
    (m.topUp chunks).Reads pcm chunks step written ∧
      ⌊(m.topUp chunks).resampleCursor⌋₊ + 1 < (m.topUp chunks).frames.length := by
  induction m using topUp.induct chunks with
  | case1 m hdry ih =>
    rw [MixBuffer.topUp, if_pos hdry]
    apply ih
    apply h.generateChunkLocked
    rw [length_frames]
    exact hdry
  | case2 m henough =>
    rw [MixBuffer.topUp, if_neg henough]
    refine ⟨h, ?_⟩
    rw [length_frames]
    exact Nat.lt_of_not_le henough

private theorem readFrame_eq (pcm : Pcm α)
    (hrange : ⌊m.resampleCursor⌋₊ + 1 < m.frames.length) :
    ∃ y, m.readFrame pcm = some y ∧
      sampleAt pcm.interpolateStereo m.frames m.resampleCursor = some y := by
  have hlength := m.length_frames
  have hread : ∀ i < m.mixed48k.length, ∃ x, m.mixed48k[i]? = some x :=
    fun i hi => ⟨_, List.getElem?_eq_getElem hi⟩
  obtain ⟨left0, hleft0⟩ := hread (⌊m.resampleCursor⌋₊ * 2) (by omega)
  obtain ⟨right0, hright0⟩ := hread (⌊m.resampleCursor⌋₊ * 2 + 1) (by omega)
  obtain ⟨left1, hleft1⟩ := hread (⌊m.resampleCursor⌋₊ * 2 + 2) (by omega)
  obtain ⟨right1, hright1⟩ := hread (⌊m.resampleCursor⌋₊ * 2 + 2 + 1) (by omega)
  refine ⟨pcm.interpolateStereo (left0, right0) (left1, right1)
    (m.resampleCursor - (⌊m.resampleCursor⌋₊ : ℚ)), ?_, ?_⟩
  · simp [readFrame, hleft0, hright0, hleft1, hright1, Pcm.interpolateStereo]
  · rw [sampleAt, frames, getElem?_stereoFrames, getElem?_stereoFrames, Nat.succ_mul]
    simp [hleft0, hright0, hleft1, hright1]

private theorem Reads.renderFrame (hstep : 0 < step) (h : m.Reads pcm chunks step written) :
    ∃ m' y, m.renderFrame pcm chunks step = some (m', y) ∧
      m'.Reads pcm chunks step (written ++ [y]) := by
  obtain ⟨htop, hrange⟩ := h.topUp
  obtain ⟨y, hread, hsample⟩ := readFrame_eq pcm hrange
  obtain ⟨dropped, hwindow⟩ := htop.window
  have hnext : sampleAt pcm.interpolateStereo (chunkStream chunks (m.topUp chunks).generated)
      (written.length * step) = some y := by
    rw [← hwindow.sampleAt_eq]
    exact hsample
  refine ⟨{ m.topUp chunks with resampleCursor := (m.topUp chunks).resampleCursor + step }, y,
    ?_, ⟨dropped, ?_⟩, htop.soFar.snoc hnext, htop.even, ?_⟩
  · simp [MixBuffer.renderFrame, hread]
  · rw [List.length_append, List.length_singleton, Nat.cast_add, Nat.cast_one, add_mul, one_mul]
    exact hwindow.advance hstep.le
  · have hahead := htop.ahead
    show ((m.topUp chunks).frames.length : ℚ) ≤ (m.topUp chunks).resampleCursor + step + _
    linarith

private theorem Reads.renderFrames (hstep : 0 < step) (framesNeeded : Nat)
    (h : m.Reads pcm chunks step written) :
    ∃ m' outs, m.renderFrames pcm chunks step framesNeeded = some (m', outs) ∧
      outs.length = framesNeeded ∧ m'.Reads pcm chunks step (written ++ outs) := by
  induction framesNeeded generalizing m written with
  | zero =>
    refine ⟨m, [], rfl, rfl, ?_⟩
    rw [List.append_nil]
    exact h
  | succ framesNeeded ih =>
    obtain ⟨m', y, hframe, hreads⟩ := h.renderFrame hstep
    obtain ⟨last, outs, hrest, hlength, hlast⟩ := ih hreads
    refine ⟨last, y :: outs, ?_, congrArg Nat.succ hlength, ?_⟩
    · simp [MixBuffer.renderFrames, hframe, hrest]
    · rw [← List.singleton_append, ← List.append_assoc]
      exact hlast

private theorem Reads.trim (h : m.Reads pcm chunks step written) :
    m.trim.Reads pcm chunks step written := by
  obtain ⟨dropped, hwindow⟩ := h.window
  have heven := h.even
  have hlength := m.length_frames
  by_cases hconsumed : 0 < ⌊m.resampleCursor⌋₊ ∧
      ⌊m.resampleCursor⌋₊ * 2 ≤ m.mixed48k.length
  · have hdrop : dropConsumed m.frames m.resampleCursor =
        (m.frames.drop ⌊m.resampleCursor⌋₊,
          m.resampleCursor - (⌊m.resampleCursor⌋₊ : ℚ)) := by
      rw [dropConsumed, if_pos ⟨hconsumed.1, by omega⟩]
    obtain ⟨dropped', hwindow'⟩ := hwindow.dropConsumed
    rw [hdrop] at hwindow'
    rw [MixBuffer.trim, if_pos hconsumed]
    refine ⟨⟨dropped', ?_⟩, h.soFar, ?_, ?_⟩
    · rw [frames, stereoFrames_drop]
      exact hwindow'
    · show (m.mixed48k.drop (⌊m.resampleCursor⌋₊ * 2)).length % 2 = 0
      rw [List.length_drop]
      omega
    · have hahead := h.ahead
      have hle : ⌊m.resampleCursor⌋₊ ≤ m.frames.length := by omega
      rw [frames, stereoFrames_drop, List.length_drop]
      show ((m.frames.length - ⌊m.resampleCursor⌋₊ : Nat) : ℚ) ≤
        m.resampleCursor - (⌊m.resampleCursor⌋₊ : ℚ) + _
      rw [Nat.cast_sub hle]
      linarith
  · rw [MixBuffer.trim, if_neg hconsumed]
    exact h

variable {format : DeviceFormat α ω}

theorem Reads.callback (framesNeeded : Nat)
    (h : m.Reads pcm chunks (playbackStep format.sampleRate) written) :
    ∃ m' outs, m.callback pcm chunks format framesNeeded = some (m', outs.map format.write) ∧
      outs.length = framesNeeded ∧
      m'.Reads pcm chunks (playbackStep format.sampleRate) (written ++ outs) := by
  rcases Nat.eq_zero_or_pos framesNeeded with rfl | hpos
  · refine ⟨m, [], rfl, rfl, ?_⟩
    rw [List.append_nil]
    exact h
  · obtain ⟨m', outs, hframes, hlength, hreads⟩ :=
      h.renderFrames (playbackStep_pos format.sampleRate) framesNeeded
    refine ⟨m'.trim, outs, ?_, hlength, hreads.trim⟩
    simp [MixBuffer.callback, hpos, hframes]

theorem Reads.session (callbacks : List Nat)
    (h : m.Reads pcm chunks (playbackStep format.sampleRate) written) :
    ∃ m' outs, m.session pcm chunks format callbacks = some (m', outs.map format.write) ∧
      outs.length = callbacks.sum ∧
      m'.Reads pcm chunks (playbackStep format.sampleRate) (written ++ outs) := by
  induction callbacks generalizing m written with
  | nil =>
    refine ⟨m, [], rfl, rfl, ?_⟩
    rw [List.append_nil]
    exact h
  | cons framesNeeded later ih =>
    obtain ⟨m', outs, hcallback, hlength, hreads⟩ := h.callback framesNeeded
    obtain ⟨last, rest, hrest, hlengths, hlast⟩ := ih hreads
    refine ⟨last, outs ++ rest, ?_, ?_, ?_⟩
    · simp [MixBuffer.session, hcallback, hrest]
    · rw [List.length_append, List.sum_cons, hlength, hlengths]
    · rw [← List.append_assoc]
      exact hlast

private theorem chunkStream_prefix (chunks : Nat → MixChunk α) {k n : Nat} (h : k ≤ n) :
    ∃ more, chunkStream chunks n = chunkStream chunks k ++ more := by
  induction n, h using Nat.le_induction with
  | base => exact ⟨[], (List.append_nil _).symm⟩
  | succ n _ ih =>
    obtain ⟨more, hmore⟩ := ih
    exact ⟨more ++ stereoFrames (chunks n).samples,
      by rw [chunkStream_succ, hmore, List.append_assoc]⟩

/-- Sessions that wrote the same number of frames wrote the same frames. -/
theorem Reads.unique {m' : MixBuffer α} {written' : List (α × α)}
    (h : m.Reads pcm chunks step written) (h' : m'.Reads pcm chunks step written')
    (hlength : written.length = written'.length) :
    written = written' := by
  rcases Nat.le_total m.generated m'.generated with hle | hge
  · obtain ⟨more, hmore⟩ := chunkStream_prefix chunks hle
    have hfar := h.soFar.append more
    rw [← hmore] at hfar
    exact resampledSoFar_unique hfar h'.soFar hlength
  · obtain ⟨more, hmore⟩ := chunkStream_prefix chunks hge
    have hfar := h'.soFar.append more
    rw [← hmore] at hfar
    exact (resampledSoFar_unique hfar h.soFar hlength.symm).symm

/-- The frames that a session writes are interpolated from the chunks in the order they were
generated, at the positions of the device rate, however the callbacks group them. No index is out
of range, and the mix holds at most a chunk and a frame ahead of the cursor. -/
theorem session_seamless (pcm : Pcm α) (chunks : Nat → MixChunk α) (format : DeviceFormat α ω)
    (callbacks : List Nat) :
    ∃ (m : MixBuffer α) (outs : List (α × α)),
      MixBuffer.session pcm chunks format callbacks {} = some (m, outs.map format.write) ∧
      outs.length = callbacks.sum ∧
      (∀ (f : Nat) (out : α × α), outs[f]? = some out →
        sampleAt pcm.interpolateStereo (chunkStream chunks m.generated)
          (f * playbackStep format.sampleRate) = some out) ∧
      ((stereoFrames m.mixed48k).length : ℚ) ≤ m.resampleCursor + (kChunkFrames + 1) ∧
      ∀ grouped : List Nat, grouped.sum = callbacks.sum →
        ∃ m',
          MixBuffer.session pcm chunks format grouped {} = some (m', outs.map format.write) := by
  have hstart := reads_start pcm chunks (playbackStep format.sampleRate)
  obtain ⟨m, outs, hsession, hlength, hreads⟩ := hstart.session callbacks
  refine ⟨m, outs, hsession, hlength, hreads.soFar, hreads.ahead, ?_⟩
  intro grouped hsum
  obtain ⟨m', outs', hsession', hlength', hreads'⟩ := hstart.session grouped
  have hsame : outs = outs' :=
    hreads.unique hreads' (hlength.trans (hsum.symm.trans hlength'.symm))
  exact ⟨m', by rw [hsession', hsame]⟩

end MixBuffer

end Playback

end TaskForceRadio.Voice
