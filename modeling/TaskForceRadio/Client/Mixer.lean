import TaskForceRadio.Client.PlaybackResampler
import TaskForceRadio.Client.Render
import TaskForceRadio.Foundation.Execution
import TaskForceRadio.Foundation.Rounding

/-!
# The mix

`PlaybackMixer` with its samples: the sources are rendered and summed, the local beep is laid over
the sum, and the limiter brings it back into range. The decoder and the effect chains stay
parameters, the arithmetic is that of singles. The chunks of a run are what the render loop of the
device interpolates.
-/

set_option autoImplicit false

namespace TaskForceRadio.Voice

open Single

/-- `Panning::compute` -/
def panning (azimuthRadians : Float32) : Float32 × Float32 :=
  let s := azimuthRadians.sin
  (-0.37525 * s + 0.625, 0.37525 * s + 0.625)

/-- A 16-bit sample as a number from -1 to 1. -/
def ofShort (sample : Int16) : Float32 := Float32.ofInt sample.toInt / 32768

/-- What the arithmetic does not say. -/
structure Effects (δ χ : Type) where
  decode : δ → Bytes → δ × Frame Int16
  decodePacketLoss : δ → δ × Frame Int16
  newChain : SourceEffect → χ
  process : χ → Frame Float32 → Float32 → χ × Frame Float32

def Effects.dsp {δ χ : Type} (effects : Effects δ χ) : Dsp Float32 δ χ where
  zero := 0
  add := (· + ·)
  mul := (· * ·)
  clamp := fun x => clamp x (-1) 1
  ofShort := ofShort
  ofGain := id
  boost := 1.5
  pan := panning
  decode := effects.decode
  decodePacketLoss := effects.decodePacketLoss
  newChain := effects.newChain
  process := effects.process

abbrev StereoPair := Float32 × Float32

/-- The sources are in the order in which the map is walked. -/
structure RenderingMixer (δ χ : Type) where
  sources : List (UInt32 × RenderedSource Float32 δ χ) := []
  localBeepSamples : List Int16 := []
  localBeepPos : Nat := 0
  masterVolume : Float32 := 1
  muted : Bool := false
  debugForceAudible : Bool := false

/-- The soft clip. -/
def limit (volume : Float32) (muted : Bool) (sample : Float32) : Float32 :=
  let sample := sample * volume
  let sample := sample / (1 + sample.abs)
  if muted then 0 else sample

section Mixing
variable {δ χ : Type} (effects : Effects δ χ)

/-- The loop over the sources. -/
def mixSources (frameCount : Nat) :
    List (UInt32 × RenderedSource Float32 δ χ) → List StereoPair →
      List (UInt32 × RenderedSource Float32 δ χ) × List StereoPair
  | [], mix => ([], mix)
  | (sessionId, source) :: rest, mix =>
      let (source, scratch) := source.render effects.dsp frameCount
      let (rest, mix) := mixSources frameCount rest
        (List.zipWith (fun p q => (p.1 + q.1, p.2 + q.2)) mix scratch)
      ((sessionId, source) :: rest, mix)

namespace RenderingMixer

variable (m : RenderingMixer δ χ)

/-- Centered, at plain gain. -/
def overlayLocal (pair : StereoPair) (sample : Int16) : StereoPair :=
  (pair.1 + ofShort sample, pair.2 + ofShort sample)

def mixLocalBeep (mix : List StereoPair) : RenderingMixer δ χ × List StereoPair :=
  if m.localBeepPos < m.localBeepSamples.length then
    let toMix := min mix.length (m.localBeepSamples.length - m.localBeepPos)
    let mixed := List.zipWith overlayLocal (mix.take toMix)
      ((m.localBeepSamples.drop m.localBeepPos).take toMix)
    ({ m with localBeepPos := m.localBeepPos + toMix }, mixed ++ mix.drop toMix)
  else (m, mix)

/-- `generateChunkLocked`, for a chunk of any size. -/
def generate (frameCount : Nat) : RenderingMixer δ χ × List StereoPair :=
  let (sources, mix) := mixSources effects frameCount m.sources (List.replicate frameCount (0, 0))
  let (m, mix) := { m with sources }.mixLocalBeep mix
  (m, mix.map fun pair =>
    (limit m.masterVolume m.muted pair.1, limit m.masterVolume m.muted pair.2))

/-- A chunk, and the mix it appends to. -/
def generateChunks : Nat → RenderingMixer δ χ → RenderingMixer δ χ × List StereoPair
  | 0, m => (m, [])
  | count + 1, m =>
      let (m, first) := m.generate effects kFrameSamples
      let (m, later) := generateChunks count m
      (m, first ++ later)

end RenderingMixer

end Mixing

section Chunks
variable {δ χ : Type} {effects : Effects δ χ}

private theorem length_overlaid {α : Type} (f : α × α → Int16 → α × α) (out : List (α × α))
    (samples : List Int16) :
    (BeepPart.overlaid f out samples).length = out.length := by
  simp only [BeepPart.overlaid, List.length_append, List.length_zipWith, List.length_drop]
  omega

private theorem length_mixInto (b : BeepPart) (states : RemoteSourcePaths) (out : List StereoPair) :
    (b.mixInto effects.dsp states out).2.length = out.length := by
  cases hpath : BeepPart.radioPath states with
  | none => rw [BeepPart.mixInto_off hpath]
  | some state => rw [BeepPart.mixInto_on hpath, length_overlaid]

private theorem length_pulls {σ α : Type} (pull : σ → σ × α) (n : Nat) (s : σ) :
    (pulls pull n s).2.length = n := by
  induction n generalizing s with
  | zero => rfl
  | succ n ih => rw [pulls_succ, List.length_cons, ih]

private theorem length_render (frameCount : Nat) (r : RenderedSource Float32 δ χ) :
    (r.render effects.dsp frameCount).2.length = frameCount := by
  rw [RenderedSource.render_eq, length_mixInto, length_pulls]

private theorem stereoFrames_interleaved {α : Type} (frames : List (α × α)) :
    stereoFrames (frames.flatMap fun pair => [pair.1, pair.2]) = frames := by
  induction frames with
  | nil => rfl
  | cons pair rest ih =>
    rw [List.flatMap_cons]
    show pair :: stereoFrames (rest.flatMap fun pair => [pair.1, pair.2]) = pair :: rest
    rw [ih]

private theorem mixSources_add (first second : Nat)
    (sources : List (UInt32 × RenderedSource Float32 δ χ))
    {mix mix' : List StereoPair} (hmix : mix.length = first) :
    mixSources effects (first + second) sources (mix ++ mix') =
      ((mixSources effects second (mixSources effects first sources mix).1 mix').1,
        (mixSources effects first sources mix).2 ++
          (mixSources effects second (mixSources effects first sources mix).1 mix').2) := by
  induction sources generalizing mix mix' with
  | nil => rfl
  | cons entry rest ih =>
    obtain ⟨sessionId, source⟩ := entry
    have hscratch : (source.render effects.dsp first).2.length = first :=
      length_render first source
    simp only [mixSources, RenderedSource.render_add]
    rw [List.zipWith_append (by rw [hmix, hscratch]), ih (by simp [hmix, hscratch])]

private theorem length_mixSources (frameCount : Nat)
    (sources : List (UInt32 × RenderedSource Float32 δ χ)) {mix : List StereoPair}
    (hmix : mix.length = frameCount) :
    (mixSources effects frameCount sources mix).2.length = frameCount := by
  induction sources generalizing mix with
  | nil => exact hmix
  | cons entry rest ih =>
    simp only [mixSources]
    exact ih (by simp [hmix, length_render])

namespace RenderingMixer

private theorem mixLocalBeep_eq (m : RenderingMixer δ χ) (mix : List StereoPair) :
    m.mixLocalBeep mix =
      ({ m with
          localBeepPos := m.localBeepPos +
            min mix.length (m.localBeepSamples.length - m.localBeepPos) },
        BeepPart.overlaid overlayLocal mix (m.localBeepSamples.drop m.localBeepPos)) := by
  unfold mixLocalBeep
  split
  · rw [← List.length_drop]
    simp only [BeepPart.overlaid_take]
  · rename_i hended
    have hnone : m.localBeepSamples.drop m.localBeepPos = [] := List.drop_eq_nil_of_le (by omega)
    have hrest : m.localBeepSamples.length - m.localBeepPos = 0 := by omega
    rw [hnone, hrest]
    simp [BeepPart.overlaid]

private theorem mixLocalBeep_append (m : RenderingMixer δ χ) (first second : List StereoPair) :
    m.mixLocalBeep (first ++ second) =
      (((m.mixLocalBeep first).1.mixLocalBeep second).1,
        (m.mixLocalBeep first).2 ++ ((m.mixLocalBeep first).1.mixLocalBeep second).2) := by
  simp only [mixLocalBeep_eq, BeepPart.overlaid_append, List.length_append]
  have hpos : m.localBeepPos + min (first.length + second.length)
        (m.localBeepSamples.length - m.localBeepPos) =
      m.localBeepPos + min first.length (m.localBeepSamples.length - m.localBeepPos) +
        min second.length (m.localBeepSamples.length -
          (m.localBeepPos + min first.length
            (m.localBeepSamples.length - m.localBeepPos))) := by
    omega
  have hrest : (m.localBeepSamples.drop m.localBeepPos).drop first.length =
      m.localBeepSamples.drop (m.localBeepPos +
        min first.length (m.localBeepSamples.length - m.localBeepPos)) := by
    rw [List.drop_drop]
    rcases Nat.le_total first.length (m.localBeepSamples.length - m.localBeepPos) with hle | hge
    · rw [Nat.min_eq_left hle]
    · rw [Nat.min_eq_right hge, List.drop_eq_nil_of_le (by omega),
        List.drop_eq_nil_of_le (by omega)]
  rw [← hpos, ← hrest]

private theorem generate_add (first second : Nat) (m : RenderingMixer δ χ) :
    m.generate effects (first + second) =
      (((m.generate effects first).1.generate effects second).1,
        (m.generate effects first).2 ++
          ((m.generate effects first).1.generate effects second).2) := by
  have hmix : (List.replicate first ((0, 0) : StereoPair)).length = first := by simp
  simp only [generate, List.replicate_add]
  rw [mixSources_add first second m.sources hmix, mixLocalBeep_append, List.map_append]
  simp only [mixLocalBeep_eq]

private theorem length_generate (frameCount : Nat) (m : RenderingMixer δ χ) :
    (m.generate effects frameCount).2.length = frameCount := by
  have hsilence : (List.replicate frameCount ((0, 0) : StereoPair)).length = frameCount :=
    List.length_replicate
  simp only [generate, mixLocalBeep_eq, List.length_map]
  rw [length_overlaid, length_mixSources frameCount m.sources hsilence]

variable (effects) in
/-- What a call appends to the mix: the pairs, interleaved. -/
def chunk (m : RenderingMixer δ χ) : MixChunk Float32 where
  samples := (m.generate effects kFrameSamples).2.flatMap fun pair => [pair.1, pair.2]
  full := by
    have hpairs : ∀ pair ∈ (m.generate effects kFrameSamples).2, [pair.1, pair.2].length = 2 :=
      fun _ _ => rfl
    rw [List.length_flatMap, List.map_congr_left hpairs, List.map_const', List.sum_replicate,
      length_generate]
    rfl

private theorem stereoFrames_chunk (m : RenderingMixer δ χ) :
    stereoFrames (m.chunk effects).samples = (m.generate effects kFrameSamples).2 :=
  stereoFrames_interleaved _

/-- The mix does not depend on where its chunks end: any number of chunks in a row is one pass over
every source, the local beep and the limiter. -/
theorem chunks_are_one_pass (count : Nat) (m : RenderingMixer δ χ) :
    m.generateChunks effects (count + 1) = m.generate effects ((count + 1) * kFrameSamples) := by
  induction count generalizing m with
  | zero => simp [generateChunks]
  | succ count ih =>
    have hsplit : (count + 1 + 1) * kFrameSamples =
        kFrameSamples + (count + 1) * kFrameSamples := by ring
    rw [hsplit, generate_add, generateChunks]
    simp only [ih]

end RenderingMixer

end Chunks

/-- From -1 to 1, unless it is NaN. -/
def InRange (x : Float32) : Prop := IsNumber x → x.isFinite = true ∧ |value x| ≤ 1

def PairInRange (p : StereoPair) : Prop := InRange p.1 ∧ InRange p.2

private theorem inRange_clamp (x : Float32) : InRange (clamp x (-1) 1) := by
  intro hnumber
  by_cases hx : IsNumber x
  · exact clamp_unit hx
  · rw [clamp_of_nan hx] at hnumber
    exact absurd hnumber hx

private theorem inRange_zero : InRange 0 := by
  intro _
  exact ⟨rfl, by rw [value_zero]; norm_num⟩

private theorem forall_mem_zipWith {α β γ : Type} {f : α → β → γ} {P : γ → Prop} {xs : List α}
    {ys : List β}
    (h : ∀ x ∈ xs, ∀ y ∈ ys, P (f x y)) :
    ∀ z ∈ List.zipWith f xs ys, P z := by
  induction xs generalizing ys with
  | nil => simp
  | cons x xs ih =>
    cases ys with
    | nil => simp
    | cons y ys =>
      intro z hz
      rcases List.mem_cons.mp hz with rfl | hlater
      · exact h x List.mem_cons_self y List.mem_cons_self
      · refine ih ?_ z hlater
        intro x' hx' y' hy'
        exact h x' (List.mem_cons_of_mem x hx') y' (List.mem_cons_of_mem y hy')

private theorem forall_mem_overlaid {f : StereoPair → Int16 → StereoPair} {P : StereoPair → Prop}
    {out : List StereoPair} {samples : List Int16} (hkeep : ∀ p ∈ out, P p)
    (hmix : ∀ p ∈ out, ∀ s ∈ samples, P (f p s)) :
    ∀ p ∈ BeepPart.overlaid f out samples, P p := by
  intro p hp
  rcases List.mem_append.mp hp with hmixed | hkept
  · exact forall_mem_zipWith hmix p hmixed
  · exact hkeep p (List.mem_of_mem_drop hkept)

section Sources
variable {δ χ : Type} {effects : Effects δ χ} {P : StereoPair → Prop}

/-- What is true of every frame that these paths mix. -/
def Mixes (effects : Effects δ χ) (states : RemoteSourcePaths) (P : StereoPair → Prop) : Prop :=
  ∀ (v : VoicePart Float32 δ χ) decoder decodedShorts i,
    P ((v.mix effects.dsp (states.filter RemoteSourceState.audible) decoder
      decodedShorts).stereoFrame i)

def VoicePart.Holds (P : StereoPair → Prop) (v : VoicePart Float32 δ χ) : Prop :=
  ∀ i, P (v.stereoFrame i)

private theorem holds_tryProduceNextFrame {v : VoicePart Float32 δ χ}
    (hmixes : Mixes effects v.states P) (h : v.Holds P) :
    (v.tryProduceNextFrame effects.dsp).1.Holds P := by
  unfold VoicePart.tryProduceNextFrame
  dsimp only
  split
  · exact h
  · split
    · exact h
    · split
      · exact h
      · split
        · exact h
        · exact hmixes _ _ _
    · exact hmixes _ _ _

private theorem holds_refill {v : VoicePart Float32 δ χ} (hmixes : Mixes effects v.states P)
    (h : v.Holds P) :
    (v.refill effects.dsp).1.Holds P := by
  have hproduced : (v.tryProduceNextFrame effects.dsp).1.Holds P :=
    holds_tryProduceNextFrame hmixes h
  unfold VoicePart.refill
  split
  · split
    · rename_i hcall
      rw [hcall] at hproduced
      exact hproduced
    · rename_i hcall
      rw [hcall] at hproduced
      exact hproduced
  · exact h

private theorem holds_nextPair {v : VoicePart Float32 δ χ} (hsilence : P (0, 0))
    (hmixes : Mixes effects v.states P) (h : v.Holds P) :
    (v.nextPair effects.dsp).1.Holds P ∧ P (v.nextPair effects.dsp).2 := by
  have hrefilled : (v.refill effects.dsp).1.Holds P := holds_refill hmixes h
  cases hrefill : v.refill effects.dsp with
  | mk v' success =>
    rw [hrefill] at hrefilled
    cases success with
    | false =>
      rw [VoicePart.nextPair_failed hrefill]
      exact ⟨hrefilled, hsilence⟩
    | true =>
      rw [VoicePart.nextPair_refilled hrefill]
      exact ⟨hrefilled, hrefilled _⟩

private theorem holds_pulls {v : VoicePart Float32 δ χ} (hsilence : P (0, 0))
    (hmixes : Mixes effects v.states P) (h : v.Holds P) (n : Nat) :
    (pulls (VoicePart.nextPair effects.dsp) n v).1.Holds P ∧
      ∀ p ∈ (pulls (VoicePart.nextPair effects.dsp) n v).2, P p := by
  induction n generalizing v with
  | zero => exact ⟨h, by simp [pulls]⟩
  | succ n ih =>
    obtain ⟨hnext, hpair⟩ := holds_nextPair hsilence hmixes h
    have hstates : (v.nextPair effects.dsp).1.states = v.states := VoicePart.states_nextPair v
    obtain ⟨hlast, hpairs⟩ := ih (by rw [hstates]; exact hmixes) hnext
    rw [pulls_succ]
    refine ⟨hlast, ?_⟩
    intro p hp
    rcases List.mem_cons.mp hp with rfl | hlater
    · exact hpair
    · exact hpairs p hlater

/-- The frame that a source holds is in range. -/
def VoicePart.Clean (v : VoicePart Float32 δ χ) : Prop := v.Holds PairInRange

private theorem mixes_inRange (effects : Effects δ χ) (states : RemoteSourcePaths) :
    Mixes effects states PairInRange :=
  fun _ _ _ _ => ⟨inRange_clamp _, inRange_clamp _⟩

private theorem inRange_mixInto (b : BeepPart) (states : RemoteSourcePaths) {out : List StereoPair}
    (h : ∀ p ∈ out, PairInRange p) :
    ∀ p ∈ (b.mixInto effects.dsp states out).2, PairInRange p := by
  cases hpath : BeepPart.radioPath states with
  | none =>
    rw [BeepPart.mixInto_off hpath]
    exact h
  | some state =>
    rw [BeepPart.mixInto_on hpath]
    exact forall_mem_overlaid h fun p hp s hs => ⟨inRange_clamp _, inRange_clamp _⟩

private theorem clean_render {r : RenderedSource Float32 δ χ} (h : r.voice.Clean)
    (frameCount : Nat) :
    (r.render effects.dsp frameCount).1.voice.Clean ∧
      ∀ p ∈ (r.render effects.dsp frameCount).2, PairInRange p := by
  obtain ⟨hvoice, hpairs⟩ := holds_pulls (P := PairInRange) ⟨inRange_zero, inRange_zero⟩
    (mixes_inRange effects r.voice.states) h frameCount
  rw [RenderedSource.render_eq]
  exact ⟨hvoice, inRange_mixInto _ _ hpairs⟩

end Sources

def Bounded (bound : Nat) (x : Float32) : Prop := x.isFinite = true ∧ |value x| ≤ bound

def Within (bound : Nat) (p : StereoPair) : Prop := Bounded bound p.1 ∧ Bounded bound p.2

def Numeric (p : StereoPair) : Prop := IsNumber p.1 ∧ IsNumber p.2

private theorem bounded_add {bound : Nat} {x y : Float32} (hx : Bounded bound x) (hy : Bounded 1 y)
    (hroom : bound + 1 < 2 ^ 24) :
    Bounded (bound + 1) (x + y) := by
  have hsum : |value x + value y| ≤ (bound + 1 : Nat) := by
    apply (abs_add_le _ _).trans
    have hone := hy.2
    push_cast at hone ⊢
    linarith [hx.2]
  have hrounds : Rounds (value x + value y) (x + y) := by
    have hlarge : ((bound + 1 : Nat) : ℚ) ≤ 2 ^ 24 := by exact_mod_cast hroom.le
    exact rounds_add hx.1 hy.1 (le_greatest (by linarith))
  exact ⟨hrounds.finite, hrounds.abs_value_le (representable_nat hroom) hsum⟩

private theorem bounded_ofShort (sample : Int16) : Bounded 1 (ofShort sample) := by
  have hlow := Int16.le_toInt sample
  have hhigh := Int16.toInt_lt sample
  obtain ⟨hfinite, hvalue⟩ := @value_ofInt sample.toInt (by omega)
  have hscale : value (32768 : Float32) = 32768 := by
    exact_mod_cast value_ofNat (n := 32768) (by decide)
  have hsample : |(sample.toInt : ℚ)| ≤ 32768 := by
    rw [abs_le]
    constructor
    · exact_mod_cast (by omega : -32768 ≤ sample.toInt)
    · exact_mod_cast (by omega : sample.toInt ≤ 32768)
  have hquotient : |value (Float32.ofInt sample.toInt) / value (32768 : Float32)| ≤ (1 : Nat) := by
    rw [hvalue, hscale, abs_div]
    norm_num
    rw [div_le_one (by norm_num)]
    exact hsample
  have hrounds : Rounds (value (Float32.ofInt sample.toInt) / value (32768 : Float32))
      (ofShort sample) := by
    exact rounds_div hfinite rfl (by rw [hscale]; norm_num)
      (le_greatest (hquotient.trans (by norm_num)))
  exact ⟨hrounds.finite, hrounds.abs_value_le (representable_nat (by decide)) hquotient⟩

private theorem bounded_limit {bound : Nat} {volume sample : Float32} (hvolume : Bounded 2 volume)
    (hsample : Bounded bound sample) (hroom : bound < 2 ^ 24) (muted : Bool) :
    Bounded 1 (limit volume muted sample) := by
  have hlarge : (bound : ℚ) ≤ 2 ^ 24 := by exact_mod_cast hroom.le
  have hscaled : |value sample * value volume| ≤ 2 ^ (25 : Int) := by
    rw [abs_mul]
    calc |value sample| * |value volume| ≤ 2 ^ 24 * 2 :=
          mul_le_mul (hsample.2.trans hlarge) (by exact_mod_cast hvolume.2) (abs_nonneg _)
            (by norm_num)
      _ = 2 ^ (25 : Int) := by norm_num
  have hproduct : Rounds (value sample * value volume) (sample * volume) := by
    exact rounds_mul hsample.1 hvolume.1 (le_greatest (hscaled.trans (by norm_num)))
  have hpower : Representable |(2 : ℚ) ^ (25 : Int)| := by
    rw [abs_of_pos (by positivity)]
    simpa using representable_dyadic (n := 1) (e := 25) (by decide) (by decide) (by decide)
  have hloud := hproduct.abs_value_le hpower hscaled
  obtain ⟨habs, hvalue⟩ := unpack_abs hproduct.finite
  have hdivisor : Rounds (value 1 + value (sample * volume).abs) (1 + (sample * volume).abs) := by
    refine rounds_add rfl habs (le_greatest ?_)
    rw [value_one, hvalue, abs_of_nonneg (by positivity)]
    norm_num at hloud ⊢
    linarith
  have hone : 1 ≤ value (1 + (sample * volume).abs) := by
    have h := hdivisor.value_le (z := 1) rfl
      (by rw [hvalue]; linarith [abs_nonneg (value (sample * volume))])
    rwa [value_one] at h
  have hmore : |value (sample * volume)| ≤ value (1 + (sample * volume).abs) := by
    have h := hdivisor.value_le habs (by rw [value_one]; linarith)
    rwa [hvalue] at h
  have hquotient : |value (sample * volume) / value (1 + (sample * volume).abs)| ≤ (1 : Nat) := by
    rw [abs_div, abs_of_pos (by linarith : 0 < value (1 + (sample * volume).abs)),
      div_le_iff₀ (by linarith)]
    push_cast
    linarith
  have hlimited : Rounds (value (sample * volume) / value (1 + (sample * volume).abs))
      (sample * volume / (1 + (sample * volume).abs)) := by
    exact rounds_div hproduct.finite hdivisor.finite (by linarith)
      (le_greatest (hquotient.trans (by norm_num)))
  unfold limit
  dsimp only
  split
  · obtain ⟨hfinite, hzero⟩ := inRange_zero (isNumber_of_isFinite rfl)
    exact ⟨hfinite, by exact_mod_cast hzero⟩
  · exact ⟨hlimited.finite, hlimited.abs_value_le (representable_nat (by decide)) hquotient⟩

private theorem within_of_inRange {p : StereoPair} (h : PairInRange p) (hnumber : Numeric p) :
    Within 1 p := by
  obtain ⟨hleft, hleftbound⟩ := h.1 hnumber.1
  obtain ⟨hright, hrightbound⟩ := h.2 hnumber.2
  exact ⟨⟨hleft, by exact_mod_cast hleftbound⟩, ⟨hright, by exact_mod_cast hrightbound⟩⟩

section Sums
variable {δ χ : Type} {effects : Effects δ χ}

private theorem within_mixSources {frameCount bound : Nat}
    {sources : List (UInt32 × RenderedSource Float32 δ χ)} {mix : List StereoPair}
    (hscratch : ∀ entry ∈ sources, ∀ p ∈ (entry.2.render effects.dsp frameCount).2, Within 1 p)
    (hmix : ∀ p ∈ mix, Within bound p) (hroom : bound + sources.length < 2 ^ 24) :
    ∀ p ∈ (mixSources effects frameCount sources mix).2, Within (bound + sources.length) p := by
  induction sources generalizing mix bound with
  | nil => exact hmix
  | cons entry rest ih =>
    rw [List.length_cons] at hroom ⊢
    have hadd : bound + (rest.length + 1) = bound + 1 + rest.length := by omega
    rw [hadd] at hroom ⊢
    simp only [mixSources]
    refine ih (fun e he => hscratch e (List.mem_cons_of_mem entry he)) ?_ hroom
    apply forall_mem_zipWith
    intro p hp q hq
    have hpast := hmix p hp
    have hnew := hscratch entry List.mem_cons_self q hq
    exact ⟨bounded_add hpast.1 hnew.1 (by omega), bounded_add hpast.2 hnew.2 (by omega)⟩

private theorem clean_mixSources {frameCount : Nat}
    {sources : List (UInt32 × RenderedSource Float32 δ χ)}
    (h : ∀ entry ∈ sources, entry.2.voice.Clean) (mix : List StereoPair) :
    ∀ entry ∈ (mixSources effects frameCount sources mix).1, entry.2.voice.Clean := by
  induction sources generalizing mix with
  | nil => exact h
  | cons entry rest ih =>
    simp only [mixSources]
    intro e he
    rcases List.mem_cons.mp he with rfl | hlater
    · exact (clean_render (h entry List.mem_cons_self) frameCount).1
    · exact ih (fun e he => h e (List.mem_cons_of_mem entry he)) _ e hlater

private theorem within_mono {small large : Nat} (hle : small ≤ large) {p : StereoPair}
    (h : Within small p) : Within large p := by
  have hcast : (small : ℚ) ≤ large := by exact_mod_cast hle
  exact ⟨⟨h.1.1, h.1.2.trans hcast⟩, ⟨h.2.1, h.2.2.trans hcast⟩⟩

private theorem within_mixLocalBeep {m : RenderingMixer δ χ} {bound : Nat} {mix : List StereoPair}
    (h : ∀ p ∈ mix, Within bound p) (hroom : bound + 1 < 2 ^ 24) :
    ∀ p ∈ (m.mixLocalBeep mix).2, Within (bound + 1) p := by
  rw [RenderingMixer.mixLocalBeep_eq]
  apply forall_mem_overlaid (fun p hp => within_mono (Nat.le_succ bound) (h p hp))
  intro p hp s _
  exact ⟨bounded_add (h p hp).1 (bounded_ofShort s) hroom,
    bounded_add (h p hp).2 (bounded_ofShort s) hroom⟩

private theorem within_generate {m : RenderingMixer δ χ} {frameCount : Nat}
    (hscratch : ∀ entry ∈ m.sources, ∀ p ∈ (entry.2.render effects.dsp frameCount).2, Within 1 p)
    (hvolume : Bounded 2 m.masterVolume) (hroom : m.sources.length + 1 < 2 ^ 24) :
    ∀ p ∈ (m.generate effects frameCount).2, Within 1 p := by
  have hsilence : ∀ p ∈ List.replicate frameCount ((0, 0) : StereoPair), Within 0 p := by
    intro p hp
    have hzero : Bounded 0 (0 : Float32) := ⟨rfl, by rw [value_zero]; norm_num⟩
    rw [List.eq_of_mem_replicate hp]
    exact ⟨hzero, hzero⟩
  have hsum := within_mixSources hscratch hsilence (by omega)
  have hmix := within_mixLocalBeep
    (m := { m with sources := (mixSources effects frameCount m.sources
      (List.replicate frameCount (0, 0))).1 }) hsum (by omega)
  intro p hp
  simp only [RenderingMixer.generate, List.mem_map, RenderingMixer.mixLocalBeep_eq] at hp
  obtain ⟨q, hq, rfl⟩ := hp
  rw [RenderingMixer.mixLocalBeep_eq] at hmix
  exact ⟨bounded_limit hvolume (hmix q hq).1 (by omega) _,
    bounded_limit hvolume (hmix q hq).2 (by omega) _⟩

end Sums

namespace VoicePart

variable {δ χ : Type} (v : VoicePart Float32 δ χ)

def enqueueOpusFrame (opus : Bytes) (isLast : Bool) : VoicePart Float32 δ χ :=
  { v with pending := popOverflow (v.pending ++ [{ data := opus, isLast }]) }

def setStates (states : RemoteSourcePaths) : VoicePart Float32 δ χ :=
  { v with toRemoteVoiceSource := { v.toRemoteVoiceSource with states } }

end VoicePart

/-- A call of the session, or a chunk for the device. A clip is what `findBeepClip` has found. -/
inductive MixerEvent (δ χ : Type) where
  | setDebugForceAudible (enabled : Bool)
  | addSource (sessionId : UInt32) (uid : Bytes)
      (order : IterationOrder (UInt32 × RenderedSource Float32 δ χ))
  | setSourceStates (sessionId : UInt32) (states : RemoteSourcePaths)
  | enqueueOpusFrame (sessionId : UInt32) (opus : Bytes) (isLast : Bool)
  | removeSource (sessionId : UInt32)
  | removeAllSources
  | triggerRemoteBeep (sessionId : UInt32) (clip : Option (List Int16))
  | triggerLocalBeep (clip : Option (List Int16))
  | setMasterVolume (volume : Float32)
  | setMuted (muted : Bool)
  | generateChunk

section Runs
variable {δ χ : Type}

def MixerEvent.NumericVolume : MixerEvent δ χ → Prop
  | .setMasterVolume volume => IsNumber volume
  | _ => True

namespace RenderingMixer

variable (m : RenderingMixer δ χ)

/-- A source that exists is left as it is. -/
def addSource (decoder : δ) (sessionId : UInt32) (uid : Bytes)
    (order : IterationOrder (UInt32 × RenderedSource Float32 δ χ)) : RenderingMixer δ χ :=
  if m.sources.any (fun entry => entry.1 = sessionId) then m
  else
    let states := if m.debugForceAudible then [{ gain := 1 }] else []
    let voice : VoicePart Float32 δ χ :=
      { sessionId, uid, states, decoder, stereoFrame := fun _ => (0, 0) }
    { m with sources := order.arrange ((sessionId, { voice }) :: m.sources) }

def modifySource (sessionId : UInt32)
    (change : RenderedSource Float32 δ χ → RenderedSource Float32 δ χ) : RenderingMixer δ χ :=
  { m with
    sources := m.sources.map fun entry =>
      if entry.1 = sessionId then (entry.1, change entry.2) else entry }

/-- The calls; the decoder is the one of a new source. -/
def apply (decoder : δ) : MixerEvent δ χ → RenderingMixer δ χ
  | .setDebugForceAudible enabled => { m with debugForceAudible := enabled }
  | .addSource sessionId uid order => m.addSource decoder sessionId uid order
  | .setSourceStates sessionId states =>
      m.modifySource sessionId fun r => { r with voice := r.voice.setStates states }
  | .enqueueOpusFrame sessionId opus isLast =>
      m.modifySource sessionId fun r => { r with voice := r.voice.enqueueOpusFrame opus isLast }
  | .removeSource sessionId =>
      { m with sources := m.sources.filter fun entry => entry.1 ≠ sessionId }
  | .removeAllSources => { m with sources := [] }
  | .triggerRemoteBeep sessionId clip =>
      match clip with
      | none => m
      | some samples =>
          m.modifySource sessionId fun r =>
            { r with beep := { r.beep with pendingSamples := some samples } }
  | .triggerLocalBeep clip =>
      match clip with
      | none => m
      | some samples =>
          { m with
            localBeepSamples := samples
            localBeepPos := 0 }
  | .setMasterVolume volume => { m with masterVolume := clamp volume 0 2 }
  | .setMuted muted => { m with muted }
  | .generateChunk => m

/-- No source plays what is out of range, and neither does the volume amplify beyond 2. -/
structure Calm : Prop where
  clean : ∀ entry ∈ m.sources, entry.2.voice.Clean
  volume : Bounded 2 m.masterVolume

variable {m}

private theorem Calm.modifySource (h : m.Calm) (sessionId : UInt32)
    {change : RenderedSource Float32 δ χ → RenderedSource Float32 δ χ}
    (hchange : ∀ r, r.voice.Clean → (change r).voice.Clean) :
    (m.modifySource sessionId change).Calm := by
  refine ⟨?_, h.volume⟩
  intro entry hentry
  obtain ⟨before, hbefore, rfl⟩ := List.mem_map.mp hentry
  split
  · exact hchange _ (h.clean before hbefore)
  · exact h.clean before hbefore

theorem Calm.addSource (h : m.Calm) (decoder : δ) (sessionId : UInt32) (uid : Bytes)
    (order : IterationOrder (UInt32 × RenderedSource Float32 δ χ)) :
    (m.addSource decoder sessionId uid order).Calm := by
  unfold RenderingMixer.addSource
  split
  · exact h
  · refine ⟨?_, h.volume⟩
    intro entry hentry
    rw [IterationOrder.mem_arrange] at hentry
    rcases List.mem_cons.mp hentry with rfl | holder
    · exact fun i => ⟨inRange_zero, inRange_zero⟩
    · exact h.clean entry holder

theorem Calm.apply (h : m.Calm) (decoder : δ) {e : MixerEvent δ χ}
    (hvolume : e.NumericVolume) :
    (m.apply decoder e).Calm := by
  cases e with
  | addSource sessionId uid order => exact h.addSource decoder sessionId uid order
  | setSourceStates sessionId states =>
    simp only [RenderingMixer.apply]
    exact h.modifySource sessionId fun r hr => hr
  | enqueueOpusFrame sessionId opus isLast =>
    simp only [RenderingMixer.apply]
    exact h.modifySource sessionId fun r hr => hr
  | removeSource sessionId =>
    exact ⟨fun entry hentry => h.clean entry (List.mem_of_mem_filter hentry), h.volume⟩
  | removeAllSources => exact ⟨fun entry hentry => (List.not_mem_nil hentry).elim, h.volume⟩
  | triggerRemoteBeep sessionId clip =>
    cases clip with
    | none => exact h
    | some samples =>
      simp only [RenderingMixer.apply]
      exact h.modifySource sessionId fun r hr => hr
  | triggerLocalBeep clip => cases clip <;> exact ⟨h.clean, h.volume⟩
  | setMasterVolume volume =>
    have htwo : value (2 : Float32) = 2 := by exact_mod_cast value_ofNat (n := 2) (by decide)
    obtain ⟨hfinite, hlow, hhigh⟩ := @clamp_bounds volume 0 2 hvolume rfl rfl
      (by rw [value_zero, htwo]; norm_num)
    rw [value_zero] at hlow
    rw [htwo] at hhigh
    have hclamped : Bounded 2 (clamp volume 0 2) :=
      ⟨hfinite, by rw [abs_of_nonneg hlow]; exact_mod_cast hhigh⟩
    exact ⟨h.clean, hclamped⟩
  | setDebugForceAudible enabled => exact ⟨h.clean, h.volume⟩
  | setMuted muted => exact ⟨h.clean, h.volume⟩
  | generateChunk => exact h

private theorem calm_empty : ({} : RenderingMixer δ χ).Calm := by
  have hone : Bounded 2 (1 : Float32) := ⟨rfl, by rw [value_one]; norm_num⟩
  exact ⟨fun entry hentry => (List.not_mem_nil hentry).elim, hone⟩

private theorem Calm.generate (h : m.Calm) (effects : Effects δ χ) (frameCount : Nat) :
    (m.generate effects frameCount).1.Calm := by
  simp only [RenderingMixer.generate, mixLocalBeep_eq]
  exact ⟨clean_mixSources h.clean _, h.volume⟩

end RenderingMixer

/-- The mixer, and the mix so far: 48 kHz, before the device interpolates it. -/
structure MixRun (δ χ : Type) where
  mixer : RenderingMixer δ χ := {}
  mixed48k : List StereoPair := []

namespace MixRun

variable (effects : Effects δ χ) (decoder : δ)

def step (run : MixRun δ χ) : MixerEvent δ χ → MixRun δ χ
  | .generateChunk =>
      { mixer := (run.mixer.generate effects kFrameSamples).1
        mixed48k := run.mixed48k ++ (run.mixer.generate effects kFrameSamples).2 }
  | e => { run with mixer := run.mixer.apply decoder e }

/-- The chunks of a run, oldest first. -/
def chunks : List (MixerEvent δ χ) → List (MixChunk Float32)
  | [] => []
  | .generateChunk :: earlier =>
      chunks earlier ++ [(runHistory (step effects decoder) {} earlier).mixer.chunk effects]
  | _ :: earlier => chunks earlier

variable {effects decoder}

private theorem mixed48k_eq_chunks (history : List (MixerEvent δ χ)) :
    (runHistory (step effects decoder) {} history).mixed48k =
      (chunks effects decoder history).flatMap fun c => stereoFrames c.samples := by
  induction history with
  | nil => rfl
  | cons e earlier ih =>
    rw [runHistory_cons]
    cases e with
    | generateChunk =>
      simp only [chunks, step, List.flatMap_append, List.flatMap_singleton, ih,
        RenderingMixer.stereoFrames_chunk]
    | _ => simp only [chunks, step, ih]

private theorem chunkStream_eq_mixed48k {history : List (MixerEvent δ χ)}
    {taken : Nat → MixChunk Float32}
    (htaken : chunks effects decoder history =
      (List.range (chunks effects decoder history).length).map taken) :
    chunkStream taken (chunks effects decoder history).length =
      (runHistory (step effects decoder) {} history).mixed48k := by
  rw [mixed48k_eq_chunks]
  conv_rhs => rw [htaken]
  rw [List.flatMap_map, chunkStream]

/-- What a session of the device writes is interpolated from the mix of the run, whatever calls
came between the chunks. -/
theorem session_reads_mix {history : List (MixerEvent δ χ)} {taken : Nat → MixChunk Float32}
    (htaken : chunks effects decoder history =
      (List.range (chunks effects decoder history).length).map taken)
    {ω : Type} (pcm : Pcm Float32) (format : DeviceFormat Float32 ω) (callbacks : List Nat) :
    ∃ (m : MixBuffer Float32) (outs : List StereoPair),
      MixBuffer.session pcm taken format callbacks {} = some (m, outs.map format.write) ∧
      outs.length = callbacks.sum ∧
      (m.generated = (chunks effects decoder history).length →
        ∀ (f : Nat) (out : StereoPair), outs[f]? = some out →
          sampleAt pcm.interpolateStereo (runHistory (step effects decoder) {} history).mixed48k
            (f * playbackStep format.sampleRate) = some out) := by
  have hstart := MixBuffer.reads_start pcm taken (playbackStep format.sampleRate)
  obtain ⟨m, outs, hsession, hlength, hreads⟩ := hstart.session callbacks
  refine ⟨m, outs, hsession, hlength, ?_⟩
  intro hgenerated f out hout
  rw [← chunkStream_eq_mixed48k htaken, ← hgenerated]
  exact hreads.soFar f out hout

variable (effects decoder)

/-- The volume is a number, and no source renders NaN. -/
def Sane (run : MixRun δ χ) : MixerEvent δ χ → Prop
  | .generateChunk =>
      run.mixer.sources.length + 1 < 2 ^ 24 ∧ ∀ entry ∈ run.mixer.sources,
        ∀ p ∈ (entry.2.render effects.dsp kFrameSamples).2, Numeric p
  | e => e.NumericVolume

/-- In every run, whatever sources come and go and whatever they play, no sample of the mix exceeds
1. -/
theorem mix_never_clips (history : List (MixerEvent δ χ))
    (hsane : Guarded (step effects decoder) (Sane effects) {} history) :
    ∀ p ∈ (runHistory (step effects decoder) {} history).mixed48k, Within 1 p := by
  refine (throughout_of_guarded (I := fun run : MixRun δ χ =>
    run.mixer.Calm ∧ ∀ p ∈ run.mixed48k, Within 1 p) ?_ ?_ hsane).last.2
  · exact ⟨RenderingMixer.calm_empty, fun p hp => (List.not_mem_nil hp).elim⟩
  · intro run e h hguard
    obtain ⟨hcalm, hmixed⟩ := h
    cases e with
    | generateChunk =>
      obtain ⟨hroom, hnumeric⟩ := hguard
      refine ⟨hcalm.generate effects kFrameSamples, ?_⟩
      intro p hp
      rcases List.mem_append.mp hp with hearlier | hchunk
      · exact hmixed p hearlier
      · refine within_generate ?_ hcalm.volume hroom p hchunk
        intro entry hentry q hq
        exact within_of_inRange ((clean_render (hcalm.clean entry hentry) kFrameSamples).2 q hq)
          (hnumeric entry hentry q hq)
    | _ =>
      refine ⟨?_, hmixed⟩
      simp only [step]
      exact hcalm.apply decoder hguard

/-- No decoder and no effects. -/
def plain : Effects Unit Unit where
  decode := fun decoder _ => (decoder, fun _ => 0)
  decodePacketLoss := fun decoder => (decoder, fun _ => 0)
  newChain := fun _ => ()
  process := fun chain mono _ => (chain, mono)

/-- One path, heard directly in the left ear. -/
def leftEar : RemoteSourcePaths := [{ gain := 1, stereoMode := 1 }]

private theorem numeric_clamp {x : Float32} (hx : IsNumber x) : IsNumber (clamp x (-1) 1) :=
  isNumber_of_isFinite (clamp_unit hx).1

private theorem isNumber_scaled {gain : Float32} (hgain : Bounded 2 gain) (sample : Int16) :
    IsNumber (0 + ofShort sample * gain) := by
  obtain ⟨hfinite, hsample⟩ := bounded_ofShort sample
  have hproduct : |value (ofShort sample) * value gain| ≤ 2 := by
    rw [abs_mul]
    have h := mul_le_mul hsample hgain.2 (abs_nonneg _) (by norm_num)
    norm_num at h
    exact h
  have hscaled : Rounds (value (ofShort sample) * value gain) (ofShort sample * gain) := by
    exact rounds_mul hfinite hgain.1 (le_greatest (hproduct.trans (by norm_num)))
  have hbound := hscaled.abs_value_le (representable_nat (n := 2) (by decide))
    (by exact_mod_cast hproduct)
  refine isNumber_of_isFinite (rounds_add rfl hscaled.finite (le_greatest ?_)).finite
  rw [value_zero, zero_add]
  exact hbound.trans (by norm_num)

private theorem mixes_leftEar : Mixes plain leftEar Numeric := by
  intro v decoder decodedShorts i
  have hleft : Bounded 2 ((1 : Float32) * 1.5) := by
    have hvalue : value ((1 : Float32) * 1.5) = 12582912 * 2 ^ (-23 : Int) := rfl
    exact ⟨rfl, by rw [hvalue]; norm_num⟩
  have hright : Bounded 2 (0 : Float32) := ⟨rfl, by rw [value_zero]; norm_num⟩
  exact ⟨numeric_clamp (isNumber_scaled hleft _), numeric_clamp (isNumber_scaled hright _)⟩

private theorem numeric_render {r : RenderedSource Float32 Unit Unit}
    (hstates : r.voice.states = leftEar)
    (hvoice : r.voice.Holds Numeric) (frameCount : Nat) :
    ∀ p ∈ (r.render plain.dsp frameCount).2, Numeric p := by
  have hsilence : Numeric (0, 0) := ⟨isNumber_of_isFinite rfl, isNumber_of_isFinite rfl⟩
  have hradio : BeepPart.radioPath r.voice.states = none := by
    rw [hstates]
    rfl
  obtain ⟨-, hpairs⟩ :=
    holds_pulls hsilence (by rw [hstates]; exact mixes_leftEar) hvoice frameCount
  rw [RenderedSource.render_eq, BeepPart.mixInto_off hradio]
  exact hpairs

theorem beep_never_clips :
    List.Forall (Within 1) (runHistory (step plain ()) {}
      [.generateChunk, .triggerLocalBeep (some [32767, -32768]), .enqueueOpusFrame 7 [1, 2, 3] true,
        .setSourceStates 7 leftEar, .addSource 7 [65] .stored, .setMasterVolume 1.5]).mixed48k := by
  rw [List.forall_iff_forall_mem]
  refine mix_never_clips plain () _ ⟨⟨⟨⟨⟨⟨trivial, ?_⟩, trivial⟩, trivial⟩, trivial⟩, trivial⟩, ?_⟩
  · exact isNumber_of_isFinite rfl
  · refine ⟨by decide, ?_⟩
    intro entry hentry
    rcases List.mem_singleton.mp hentry with rfl
    refine numeric_render rfl ?_ _
    intro i
    show Numeric (0, 0)
    exact ⟨isNumber_of_isFinite rfl, isNumber_of_isFinite rfl⟩

end MixRun

end Runs

end TaskForceRadio.Voice
