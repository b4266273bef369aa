import TaskForceRadio.Client.RemoteVoiceSource
import TaskForceRadio.Foundation.Pulling

/-!
# Rendering of a remote voice source

`render` with its samples: the frames that `tryProduceNextFrame` decodes and mixes, the leftover
of the last frame, and the beep on top. The decoder and the effect chains are machines that the
model does not look into, and so is the arithmetic of the samples.
-/

set_option autoImplicit false

namespace TaskForceRadio.Voice

/-- What one frame holds, sample by sample. -/
abbrev Frame (α : Type) := Fin kFrameSamples → α

/-- Samples of type `α`, decoders of type `δ`, effect chains of type `χ`. -/
structure Dsp (α δ χ : Type) where
  zero : α
  add : α → α → α
  mul : α → α → α
  /-- To the range from -1 to 1. -/
  clamp : α → α
  /-- A 16-bit sample over 32768. -/
  ofShort : Int16 → α
  ofGain : Float32 → α
  /-- The level of the only ear that is left. -/
  boost : α
  /-- `Panning::compute`. -/
  pan : Float32 → α × α
  decode : δ → Bytes → δ × Frame Int16
  decodePacketLoss : δ → δ × Frame Int16
  newChain : SourceEffect → χ
  process : χ → Frame α → Float32 → χ × Frame α

structure PathChain (χ : Type) where
  effect : SourceEffect := .direct
  chain : Option χ := none

def isRadioReception (effect : SourceEffect) : Bool :=
  effect != .direct && effect != .intercom

/-- The part of a source that speaks. The position counts samples, two for each stereo pair. -/
structure VoicePart (α δ χ : Type) extends RemoteVoiceSource where
  pending : List PendingFrame := []
  decoder : δ
  stereoFrame : Frame (α × α)
  stereoFramePos : Nat := StereoFrame.size
  aligned : stereoFramePos % 2 = 0 := by decide
  isPlaying : Bool := false
  concealmentCount : Nat := 0
  concealmentExhaustedCount : Nat := 0
  chains : List (PathChain χ) := []

/-- The beep of a source: the clip that was triggered, and the one that plays. -/
structure BeepPart where
  pendingSamples : Option (List Int16) := none
  samples : List Int16 := []
  pos : Nat := 0
  deriving DecidableEq, Repr

structure RenderedSource (α δ χ : Type) where
  voice : VoicePart α δ χ
  beep : BeepPart := {}

section Rendering
variable {α δ χ : Type} (dsp : Dsp α δ χ)

namespace Dsp

def silence : α × α := (dsp.zero, dsp.zero)

def channelGains (state : RemoteSourceState) : α × α :=
  if state.stereoMode = 1 then (dsp.mul (dsp.ofGain state.gain) dsp.boost, dsp.zero)
  else if state.stereoMode = 2 then (dsp.zero, dsp.mul (dsp.ofGain state.gain) dsp.boost)
  else
    let (left, right) := dsp.pan state.azimuthRadians
    (dsp.mul left (dsp.ofGain state.gain), dsp.mul right (dsp.ofGain state.gain))

/-- The chain of a slot, made new when the slot carries another effect. -/
def chainForPath (chains : List (PathChain χ)) (index : Nat) (effect : SourceEffect) :
    List (PathChain χ) × χ :=
  let chains := chains ++ List.replicate (index + 1 - chains.length) ({} : PathChain χ)
  let slot := chains.getD index {}
  match slot.chain with
  | some chain =>
      if slot.effect = effect then (chains, chain) else (chains, dsp.newChain effect)
  | none => (chains, dsp.newChain effect)

/-- One round of the loop over the paths. -/
def mixPath (mono : Frame α) (mixed : List (PathChain χ) × Frame (α × α))
    (path : RemoteSourceState × Nat) : List (PathChain χ) × Frame (α × α) :=
  let (state, p) := path
  let (chains, chain) := dsp.chainForPath mixed.1 p state.effect
  let (chain, scratch) := dsp.process chain mono state.errorLevel
  let (leftGain, rightGain) := dsp.channelGains state
  (chains.set p { effect := state.effect, chain := some chain },
    fun i => (dsp.add (mixed.2 i).1 (dsp.mul (scratch i) leftGain),
      dsp.add (mixed.2 i).2 (dsp.mul (scratch i) rightGain)))

end Dsp

namespace VoicePart

/-- A decoded frame over every path, and the chains of the paths that exist. -/
def mix (v : VoicePart α δ χ) (renderStates : RemoteSourcePaths) (decoder : δ)
    (decodedShorts : Frame Int16) : VoicePart α δ χ :=
  let mono : Frame α := fun i => dsp.ofShort (decodedShorts i)
  let (chains, mixed) := renderStates.zipIdx.foldl (dsp.mixPath mono)
    (v.chains, fun _ => dsp.silence)
  { v with
    decoder
    stereoFrame := fun i => (dsp.clamp (mixed i).1, dsp.clamp (mixed i).2)
    chains := chains.take renderStates.length }

def tryProduceNextFrame (v : VoicePart α δ χ) : VoicePart α δ χ × Bool :=
  let renderStates := v.states.filter RemoteSourceState.audible
  if renderStates = [] then
    ({ v with isPlaying := false, concealmentCount := 0, pending := [] }, false)
  else
    match readQueue v.isPlaying v.pending with
    | .notEnoughBuffered => (v, false)
    | .dry =>
        if !v.isPlaying then (v, false)
        else if v.concealmentCount ≥ kMaxConcealmentFrames then
          ({ v with
              isPlaying := false
              concealmentCount := 0
              concealmentExhaustedCount := v.concealmentExhaustedCount + 1 }, false)
        else
          let (decoder, decodedShorts) := dsp.decodePacketLoss v.decoder
          (mix dsp { v with concealmentCount := v.concealmentCount + 1 } renderStates decoder
            decodedShorts, true)
    | .packet frame rest =>
        let (decoder, decodedShorts) := dsp.decode v.decoder frame.data
        ({ v with
            pending := rest
            isPlaying := !frame.isLast
            concealmentCount := 0 }.mix dsp renderStates decoder decodedShorts, true)

/-- A frame that starts over. -/
def rewind (v : VoicePart α δ χ) : VoicePart α δ χ :=
  { v with stereoFramePos := 0, aligned := rfl }

def availableFrames (v : VoicePart α δ χ) : Nat := (StereoFrame.size - v.stereoFramePos) / 2

/-- The pairs that are copied, and the source behind them. -/
def copyFrames (v : VoicePart α δ χ) (toCopy : Nat) : VoicePart α δ χ × List (α × α) :=
  ({ v with
      stereoFramePos := v.stereoFramePos + toCopy * 2
      aligned := by have h := v.aligned; omega },
    ((List.ofFn v.stereoFrame).drop (v.stereoFramePos / 2)).take toCopy)

/-- A frame that is consumed takes the next one, if there is one. -/
def refill (v : VoicePart α δ χ) : VoicePart α δ χ × Bool :=
  if StereoFrame.size ≤ v.stereoFramePos then
    match v.tryProduceNextFrame dsp with
    | (v, true) => (v.rewind, true)
    | (v, false) => (v, false)
  else (v, true)

variable {dsp} {v : VoicePart α δ χ}

private theorem availableFrames_pos (h : ¬StereoFrame.size ≤ v.stereoFramePos) :
    0 < v.availableFrames := by
  have hsize : StereoFrame.size = 1920 := rfl
  have heven := v.aligned
  rw [hsize] at h
  rw [availableFrames, hsize]
  omega

private theorem refill_of_available (h : 0 < v.availableFrames) : v.refill dsp = (v, true) := by
  rw [availableFrames] at h
  rw [refill, if_neg (by omega)]

private theorem available_of_refill {v' : VoicePart α δ χ} (h : v.refill dsp = (v', true)) :
    0 < v'.availableFrames := by
  by_cases hconsumed : StereoFrame.size ≤ v.stereoFramePos
  · rw [refill, if_pos hconsumed] at h
    cases hcall : v.tryProduceNextFrame dsp with
    | mk produced success =>
      rw [hcall] at h
      cases success with
      | false => simp at h
      | true =>
        rw [← (Prod.mk.inj h).1]
        show 0 < (StereoFrame.size - 0) / 2
        decide
  · rw [refill, if_neg hconsumed] at h
    rw [← (Prod.mk.inj h).1]
    exact availableFrames_pos hconsumed

variable (dsp)

/-- The loop of `render`: leftovers first, then one frame after the other, then silence. -/
def renderLoop (v : VoicePart α δ χ) (remaining : Nat) : VoicePart α δ χ × List (α × α) :=
  if _hdone : remaining = 0 then (v, [])
  else
    match _hrefill : v.refill dsp with
    | (v, false) => (v, List.replicate remaining dsp.silence)
    | (v, true) =>
        let toCopy := min v.availableFrames remaining
        let (v', copied) := v.copyFrames toCopy
        let (later, samples) := renderLoop v' (remaining - toCopy)
        (later, copied ++ samples)
termination_by remaining
decreasing_by
  have havailable := available_of_refill _hrefill
  omega

end VoicePart

namespace BeepPart

/-- A trigger replaces what plays. -/
def pickUp (b : BeepPart) : BeepPart :=
  match b.pendingSamples with
  | some samples => { pendingSamples := none, samples, pos := 0 }
  | none => b

/-- The first path that is heard by radio. -/
def radioPath (states : RemoteSourcePaths) : Option RemoteSourceState :=
  states.find? (fun candidate => candidate.audible && isRadioReception candidate.effect)

/-- A sample of the beep on top of a pair. -/
def overlay (gains : α × α) (out : α × α) (sample : Int16) : α × α :=
  let s := dsp.ofShort sample
  (dsp.clamp (dsp.add out.1 (dsp.mul s gains.1)), dsp.clamp (dsp.add out.2 (dsp.mul s gains.2)))

def mixInto (b : BeepPart) (states : RemoteSourcePaths) (out : List (α × α)) :
    BeepPart × List (α × α) :=
  if b.samples.length ≤ b.pos then (b, out)
  else
    match radioPath states with
    | none => (b, out)
    | some state =>
        let toMix := min out.length (b.samples.length - b.pos)
        let mixed := List.zipWith (overlay dsp (dsp.channelGains state)) (out.take toMix)
          ((b.samples.drop b.pos).take toMix)
        ({ b with pos := b.pos + toMix }, mixed ++ out.drop toMix)

end BeepPart

namespace RenderedSource

def render (r : RenderedSource α δ χ) (frameCount : Nat) : RenderedSource α δ χ × List (α × α) :=
  let (voice, out) := r.voice.renderLoop dsp frameCount
  let (beep, out) := r.beep.pickUp.mixInto dsp voice.states out
  ({ voice, beep }, out)

/-- Several callbacks in a row, with nothing in between. -/
def renderBlocks (r : RenderedSource α δ χ) : List Nat → RenderedSource α δ χ × List (α × α)
  | [] => (r, [])
  | frameCount :: rest =>
      let (next, out) := r.render dsp frameCount
      let (last, outs) := renderBlocks next rest
      (last, out ++ outs)

end RenderedSource

namespace VoicePart

variable {dsp} {v : VoicePart α δ χ}

private theorem tryProduceNextFrame_failed {v' : VoicePart α δ χ}
    (h : v.tryProduceNextFrame dsp = (v', false)) :
    v'.stereoFramePos = v.stereoFramePos ∧ v'.tryProduceNextFrame dsp = (v', false) := by
  by_cases hsilent : v.states.filter RemoteSourceState.audible = []
  · -- drained: the queue is empty now
    rw [tryProduceNextFrame, if_pos hsilent] at h
    obtain ⟨rfl, -⟩ := Prod.mk.inj h
    exact ⟨rfl, by simp [tryProduceNextFrame, hsilent]⟩
  · cases hread : readQueue v.isPlaying v.pending with
    | notEnoughBuffered =>
      rw [tryProduceNextFrame, if_neg hsilent, hread] at h
      obtain ⟨rfl, -⟩ := Prod.mk.inj h
      exact ⟨rfl, by simp [tryProduceNextFrame, hsilent, hread]⟩
    | packet frame rest => simp [tryProduceNextFrame, hsilent, hread] at h
    | dry =>
      have hempty : v.pending = [] := by
        cases hpending : v.pending with
        | nil => rfl
        | cons frame rest =>
          rw [hpending, readQueue] at hread
          split at hread <;> cases hread
      cases hplaying : v.isPlaying with
      | false =>
        simp [tryProduceNextFrame, hsilent, hplaying, hempty, readQueue] at h
        rw [← h]
        exact ⟨rfl, by simp [tryProduceNextFrame, hsilent, hplaying, hempty, readQueue]⟩
      | true =>
        by_cases hexhausted : v.concealmentCount ≥ kMaxConcealmentFrames
        · -- the concealment is over: the source does not play any more
          simp [tryProduceNextFrame, hsilent, hplaying, hempty, hexhausted, readQueue] at h
          rw [← h]
          exact ⟨rfl, by simp [tryProduceNextFrame, hsilent, readQueue]⟩
        · simp [tryProduceNextFrame, hsilent, hplaying, hempty, hexhausted, readQueue] at h

private theorem refill_failed {v' : VoicePart α δ χ} (h : v.refill dsp = (v', false)) :
    v'.refill dsp = (v', false) := by
  by_cases hconsumed : StereoFrame.size ≤ v.stereoFramePos
  · rw [refill, if_pos hconsumed] at h
    cases hcall : v.tryProduceNextFrame dsp with
    | mk produced success =>
      rw [hcall] at h
      cases success with
      | true => simp at h
      | false =>
        obtain ⟨rfl, -⟩ := Prod.mk.inj h
        obtain ⟨hpos, hagain⟩ := tryProduceNextFrame_failed hcall
        rw [refill, if_pos (by rw [hpos]; exact hconsumed), hagain]
  · rw [refill, if_neg hconsumed] at h
    cases (Prod.mk.inj h).2

private theorem pos_lt_of_available (h : 0 < v.availableFrames) :
    v.stereoFramePos / 2 < kFrameSamples := by
  have hsize : StereoFrame.size = 1920 := rfl
  have hframe : kFrameSamples = 960 := rfl
  rw [availableFrames, hsize] at h
  omega

variable (dsp) in
/-- The next pair of a source, and the source behind it. -/
def nextPair (v : VoicePart α δ χ) : VoicePart α δ χ × (α × α) :=
  match h : v.refill dsp with
  | (v, false) => (v, dsp.silence)
  | (v, true) =>
      ({ v with
          stereoFramePos := v.stereoFramePos + 2
          aligned := by have h := v.aligned; omega },
        v.stereoFrame ⟨v.stereoFramePos / 2, pos_lt_of_available (available_of_refill h)⟩)

theorem nextPair_failed {v' : VoicePart α δ χ} (h : v.refill dsp = (v', false)) :
    v.nextPair dsp = (v', dsp.silence) := by
  rw [nextPair]
  split
  · rename_i hsame
    rw [h] at hsame
    rw [(Prod.mk.inj hsame).1]
  · rename_i hsame
    rw [h] at hsame
    cases (Prod.mk.inj hsame).2

theorem nextPair_refilled {v' : VoicePart α δ χ} (h : v.refill dsp = (v', true)) :
    v.nextPair dsp =
      ({ v' with
          stereoFramePos := v'.stereoFramePos + 2
          aligned := by have h := v'.aligned; omega },
        v'.stereoFrame ⟨v'.stereoFramePos / 2, pos_lt_of_available (available_of_refill h)⟩) := by
  rw [nextPair]
  split
  · rename_i hsame
    rw [h] at hsame
    cases (Prod.mk.inj hsame).2
  · rename_i hsame
    rw [h] at hsame
    obtain ⟨rfl, -⟩ := Prod.mk.inj hsame
    rfl

private theorem pulls_copyFrames {toCopy : Nat} (h : toCopy ≤ v.availableFrames) :
    pulls (nextPair dsp) toCopy v = v.copyFrames toCopy := by
  induction toCopy generalizing v with
  | zero => rfl
  | succ toCopy ih =>
    have hpos : 0 < v.availableFrames := by omega
    have hlt := pos_lt_of_available hpos
    have hrefill : v.refill dsp = (v, true) := refill_of_available hpos
    have hnext := nextPair_refilled hrefill
    rw [pulls_succ, hnext, ih]
    · have hhalf : (v.stereoFramePos + 2) / 2 = v.stereoFramePos / 2 + 1 := by omega
      have hread : v.stereoFramePos / 2 < (List.ofFn v.stereoFrame).length := by
        rw [List.length_ofFn]
        exact hlt
      simp only [copyFrames, Prod.mk.injEq, VoicePart.mk.injEq, true_and, and_true]
      refine ⟨by omega, ?_⟩
      rw [hhalf, List.drop_eq_getElem_cons hread, List.take_succ_cons, List.getElem_ofFn]
    · simp only [availableFrames] at h ⊢
      omega

private theorem renderLoop_eq (v : VoicePart α δ χ) (remaining : Nat) :
    v.renderLoop dsp remaining = pulls (nextPair dsp) remaining v := by
  induction remaining using Nat.strongRecOn generalizing v with
  | ind remaining ih =>
    rw [renderLoop]
    cases remaining with
    | zero => rfl
    | succ n =>
      rw [dif_neg (Nat.succ_ne_zero n)]
      split
      · rename_i v' hrefill
        -- nothing produced: every later pull fails like this one
        have hfixed := nextPair_failed (refill_failed hrefill)
        rw [pulls_succ, nextPair_failed hrefill, pulls_fixed hfixed, List.replicate_succ]
      · rename_i v' hrefill
        have havailable := available_of_refill hrefill
        have hnext : v.nextPair dsp = v'.nextPair dsp := by
          rw [nextPair_refilled hrefill, nextPair_refilled (refill_of_available havailable)]
        have hpulls : pulls (nextPair dsp) (n + 1) v = pulls (nextPair dsp) (n + 1) v' := by
          rw [pulls_succ, hnext, pulls_succ]
        have hsplit : n + 1 = min v'.availableFrames (n + 1) +
            (n + 1 - min v'.availableFrames (n + 1)) := by omega
        rw [hpulls]
        conv_rhs => rw [hsplit, pulls_add, pulls_copyFrames (Nat.min_le_left _ _)]
        rw [← ih (n + 1 - min v'.availableFrames (n + 1)) (by omega)]

private theorem states_refill (dsp : Dsp α δ χ) (v : VoicePart α δ χ) :
    (v.refill dsp).1.states = v.states := by
  have hcall : (v.tryProduceNextFrame dsp).1.states = v.states := by
    simp only [tryProduceNextFrame]
    split
    · rfl
    · split
      · rfl
      · split
        · rfl
        · split <;> rfl
      · rfl
  rw [refill]
  split
  · cases hproduced : v.tryProduceNextFrame dsp with
    | mk produced success =>
      rw [hproduced] at hcall
      cases success <;> exact hcall
  · rfl

theorem states_nextPair (v : VoicePart α δ χ) : (v.nextPair dsp).1.states = v.states := by
  cases hrefill : v.refill dsp with
  | mk v' success =>
    have hstates := v.states_refill dsp
    rw [hrefill] at hstates
    cases success with
    | false => rw [nextPair_failed hrefill, hstates]
    | true => rw [nextPair_refilled hrefill, ← hstates]

private theorem states_pulls (v : VoicePart α δ χ) (n : Nat) :
    (pulls (nextPair dsp) n v).1.states = v.states := by
  induction n generalizing v with
  | zero => rfl
  | succ n ih => rw [pulls_succ, ih, states_nextPair]

end VoicePart

namespace BeepPart

variable {dsp}

private theorem pickUp_mixInto (b : BeepPart) (states : RemoteSourcePaths) (out : List (α × α)) :
    (b.pickUp.mixInto dsp states out).1.pickUp = (b.pickUp.mixInto dsp states out).1 := by
  have hnone : b.pickUp.pendingSamples = none := by
    rw [pickUp]
    split
    · rfl
    · assumption
  have hkept : (b.pickUp.mixInto dsp states out).1.pendingSamples = none := by
    rw [← hnone]
    simp only [mixInto]
    split
    · rfl
    · split <;> rfl
  rw [pickUp]
  split
  · rename_i samples hsamples
    rw [hkept] at hsamples
    cases hsamples
  · rfl

/-- Samples laid over the start of a block. -/
def overlaid (f : α × α → Int16 → α × α) (out : List (α × α)) (samples : List Int16) :
    List (α × α) :=
  List.zipWith f out samples ++ out.drop samples.length

theorem overlaid_append (f : α × α → Int16 → α × α) (first second : List (α × α))
    (samples : List Int16) :
    overlaid f (first ++ second) samples =
      overlaid f first samples ++ overlaid f second (samples.drop first.length) := by
  induction first generalizing samples with
  | nil => simp [overlaid]
  | cons out first ih =>
    cases samples with
    | nil => simp [overlaid]
    | cons sample samples =>
      have hlater := ih samples
      simp only [overlaid] at hlater
      simp only [overlaid, List.cons_append, List.zipWith_cons_cons, List.length_cons,
        List.drop_succ_cons, hlater]

theorem overlaid_take (f : α × α → Int16 → α × α) (out : List (α × α)) (samples : List Int16) :
    List.zipWith f (out.take (min out.length samples.length))
        (samples.take (min out.length samples.length)) ++
        out.drop (min out.length samples.length) =
      overlaid f out samples := by
  induction out generalizing samples with
  | nil => simp [overlaid]
  | cons pair out ih =>
    cases samples with
    | nil => simp [overlaid]
    | cons sample samples =>
      have hlater := ih samples
      simp only [overlaid] at hlater
      simp only [overlaid, List.length_cons, Nat.add_min_add_right, List.take_succ_cons,
        List.drop_succ_cons, List.zipWith_cons_cons, List.cons_append, hlater]

theorem mixInto_off {b : BeepPart} {states : RemoteSourcePaths} (h : radioPath states = none)
    (out : List (α × α)) :
    b.mixInto dsp states out = (b, out) := by
  rw [mixInto, h]
  split <;> rfl

theorem mixInto_on {b : BeepPart} {states : RemoteSourcePaths} {state : RemoteSourceState}
    (h : radioPath states = some state) (out : List (α × α)) :
    b.mixInto dsp states out =
      ({ b with pos := b.pos + min out.length (b.samples.length - b.pos) },
        overlaid (overlay dsp (dsp.channelGains state)) out (b.samples.drop b.pos)) := by
  rw [mixInto, h]
  split
  · rename_i hended
    have hnone : b.samples.drop b.pos = [] := List.drop_eq_nil_of_le hended
    have hrest : b.samples.length - b.pos = 0 := by omega
    rw [hnone, hrest]
    simp [overlaid]
  · have hlen : b.samples.length - b.pos = (b.samples.drop b.pos).length :=
      List.length_drop.symm
    rw [hlen]
    simp only [overlaid_take]

private theorem mixInto_append (b : BeepPart) (states : RemoteSourcePaths)
    (first second : List (α × α)) :
    b.mixInto dsp states (first ++ second) =
      (((b.mixInto dsp states first).1.mixInto dsp states second).1,
        (b.mixInto dsp states first).2 ++
          ((b.mixInto dsp states first).1.mixInto dsp states second).2) := by
  cases hpath : radioPath states with
  | none => simp [mixInto_off hpath]
  | some state =>
    rw [mixInto_on hpath, mixInto_on hpath, mixInto_on hpath, List.length_append, overlaid_append]
    dsimp only
    have hpos : b.pos + min (first.length + second.length) (b.samples.length - b.pos) =
        b.pos + min first.length (b.samples.length - b.pos) +
          min second.length
            (b.samples.length - (b.pos + min first.length (b.samples.length - b.pos))) := by
      omega
    have hrest : (b.samples.drop b.pos).drop first.length =
        b.samples.drop (b.pos + min first.length (b.samples.length - b.pos)) := by
      rw [List.drop_drop]
      rcases Nat.le_total first.length (b.samples.length - b.pos) with hle | hge
      · rw [Nat.min_eq_left hle]
      · rw [Nat.min_eq_right hge, List.drop_eq_nil_of_le (by omega),
          List.drop_eq_nil_of_le (by omega)]
    rw [hpos, hrest]

end BeepPart

namespace RenderedSource

variable {dsp}

theorem render_eq (frameCount : Nat) (r : RenderedSource α δ χ) :
    r.render dsp frameCount =
      ({ voice := (pulls (VoicePart.nextPair dsp) frameCount r.voice).1
         beep := (r.beep.pickUp.mixInto dsp r.voice.states
            (pulls (VoicePart.nextPair dsp) frameCount r.voice).2).1 },
        (r.beep.pickUp.mixInto dsp r.voice.states
          (pulls (VoicePart.nextPair dsp) frameCount r.voice).2).2) := by
  rw [render, VoicePart.renderLoop_eq]
  simp only [VoicePart.states_pulls]

/-- Two callbacks in a row are one callback of their common size. -/
theorem render_add (first second : Nat) (r : RenderedSource α δ χ) :
    r.render dsp (first + second) =
      (((r.render dsp first).1.render dsp second).1,
        (r.render dsp first).2 ++ ((r.render dsp first).1.render dsp second).2) := by
  simp only [render_eq, pulls_add, VoicePart.states_pulls, BeepPart.mixInto_append,
    BeepPart.pickUp_mixInto]

private theorem renderBlocks_eq (frameCount : Nat) (rest : List Nat) (r : RenderedSource α δ χ) :
    r.renderBlocks dsp (frameCount :: rest) = r.render dsp (frameCount + rest.sum) := by
  induction rest generalizing frameCount r with
  | nil => simp [renderBlocks]
  | cons next rest ih =>
    have hlater := ih next (r.render dsp frameCount).1
    rw [List.sum_cons, render_add, ← hlater]
    rfl

/-- What a source plays, and what is left of it, does not depend on the sizes of the
callbacks. -/
theorem render_partition (r : RenderedSource α δ χ) :
    (∀ first second, r.render dsp (first + second) =
      (((r.render dsp first).1.render dsp second).1,
        (r.render dsp first).2 ++ ((r.render dsp first).1.render dsp second).2)) ∧
    ∀ frameCount rest,
      r.renderBlocks dsp (frameCount :: rest) = r.render dsp (frameCount + rest.sum) :=
  ⟨fun first second => render_add first second r,
    fun frameCount rest => renderBlocks_eq frameCount rest r⟩

end RenderedSource

namespace VoicePart

variable {dsp} {v : VoicePart α δ χ} {b : BufferedVoiceSource}

/-- The same queue and the same counters. -/
structure Tracks (v : VoicePart α δ χ) (b : BufferedVoiceSource) : Prop where
  states : v.states = b.states
  pending : v.pending = b.pending
  stereoFramePos : v.stereoFramePos = b.stereoFramePos
  isPlaying : v.isPlaying = b.isPlaying
  concealmentCount : v.concealmentCount = b.concealmentCount
  exhausted : v.concealmentExhaustedCount = b.concealmentExhaustedCount

/-- Decoding and mixing do not decide what is played when. -/
theorem Tracks.tryProduceNextFrame (h : v.Tracks b) :
    (v.tryProduceNextFrame dsp).2 = (b.tryProduceNextFrame b.states).2 ∧
      (v.tryProduceNextFrame dsp).1.Tracks (b.tryProduceNextFrame b.states).1 := by
  rw [VoicePart.tryProduceNextFrame, BufferedVoiceSource.tryProduceNextFrame, h.states, h.pending,
    h.isPlaying, h.concealmentCount]
  by_cases hsilent : b.states.filter RemoteSourceState.audible = []
  · rw [if_pos hsilent, if_pos hsilent]
    exact ⟨rfl, h.states, rfl, h.stereoFramePos, rfl, rfl, h.exhausted⟩
  · rw [if_neg hsilent, if_neg hsilent]
    cases hread : readQueue b.isPlaying b.pending with
    | notEnoughBuffered => exact ⟨rfl, h⟩
    | packet frame rest => exact ⟨rfl, h.states, rfl, h.stereoFramePos, rfl, rfl, h.exhausted⟩
    | dry =>
      cases hplaying : b.isPlaying with
      | false => exact ⟨rfl, h⟩
      | true =>
        by_cases hexhausted : b.concealmentCount ≥ kMaxConcealmentFrames
        · simp only [hexhausted]
          exact ⟨rfl, h.states, rfl, h.stereoFramePos, rfl, rfl,
            congrArg (· + 1) h.exhausted⟩
        · simp only [hexhausted]
          exact ⟨rfl, h.states, rfl, h.stereoFramePos, rfl, rfl, h.exhausted⟩

end VoicePart

end Rendering

end TaskForceRadio.Voice
