import TaskForceRadio.Client.VoiceSession
import TaskForceRadio.Foundation.Execution
import Mathlib.Data.List.Nodup
import Mathlib.Data.List.Range

/-!
# Jitter buffer of a remote voice source

The queue, the playing flag and the partially consumed frame of `RemoteVoiceSource`. The Opus
decoder is the history of its calls, a stereo frame is named by the call that produced it. The
beep overlay of `render` adds to finished samples and is left out.
-/

set_option autoImplicit false

namespace TaskForceRadio.Voice

def kFrameSamples : Nat := 960

/-- Frames buffered before playback of a talkspurt starts. -/
def kJitterTargetFrames : Nat := 4

def kMaxConcealmentFrames : Nat := 10

def kMaxQueuedFrames : Nat := 10

structure PendingFrame where
  data : Bytes
  isLast : Bool := false
  deriving DecidableEq, Repr

inductive DecoderCall where
  | decode (frame : PendingFrame)
  | decodePacketLoss
  deriving DecidableEq, Repr

def DecoderCall.frame : DecoderCall → Option PendingFrame
  | .decode frame => some frame
  | .decodePacketLoss => none

/-- What the decoder knows: its calls, newest first. -/
structure OpusVoiceDecoder where
  calls : List DecoderCall := []
  deriving DecidableEq, Repr

/-- The packets decoded so far, in order. -/
def OpusVoiceDecoder.decoded (d : OpusVoiceDecoder) : List PendingFrame :=
  d.calls.reverse.filterMap DecoderCall.frame

/-- A mixed frame: the number of the decoder call it comes from, and the paths it was run over. -/
structure StereoFrame where
  serial : Nat := 0
  paths : RemoteSourcePaths := []
  deriving DecidableEq, Repr

def StereoFrame.size : Nat := kFrameSamples * 2

/-- A pair of samples written by `render`. -/
inductive OutputSample where
  | silence
  | sample (serial position : Nat)
  deriving DecidableEq, Repr

def OutputSample.origin : OutputSample → Option (Nat × Nat)
  | .silence => none
  | .sample serial position => some (serial, position)

structure BufferedVoiceSource extends RemoteVoiceSource where
  pending : List PendingFrame := []
  decoder : OpusVoiceDecoder := {}
  stereoFrame : StereoFrame := {}
  stereoFramePos : Nat := StereoFrame.size
  isPlaying : Bool := false
  concealmentCount : Nat := 0
  concealmentExhaustedCount : Nat := 0
  deriving DecidableEq, Repr

/-- A path that carries something. -/
def RemoteSourceState.audible (s : RemoteSourceState) : Bool := !(s.muted || !decide (s.gain > 0))

/-- The loop that pops the oldest frames until the queue fits. -/
def popOverflow : List PendingFrame → List PendingFrame
  | [] => []
  | frame :: rest =>
      if (frame :: rest).length > kMaxQueuedFrames then popOverflow rest else frame :: rest

/-- What the render thread finds in the queue. -/
inductive QueueRead where
  | dry
  | notEnoughBuffered
  | packet (frame : PendingFrame) (rest : List PendingFrame)

def haveWholeTalkspurt (frame : PendingFrame) (rest : List PendingFrame) : Bool :=
  frame.isLast || rest.any PendingFrame.isLast

def readQueue (isPlaying : Bool) : List PendingFrame → QueueRead
  | [] => .dry
  | frame :: rest =>
      if !isPlaying && rest.length < kJitterTargetFrames - 1 && !haveWholeTalkspurt frame rest then
        .notEnoughBuffered
      else .packet frame rest

namespace BufferedVoiceSource

def enqueueOpusFrame (b : BufferedVoiceSource) (opus : Bytes) (isLast : Bool) :
    BufferedVoiceSource :=
  { b with pending := popOverflow (b.pending ++ [{ data := opus, isLast }]) }

def setStates (b : BufferedVoiceSource) (states : RemoteSourcePaths) : BufferedVoiceSource :=
  { b with states }

/-- One call of the decoder, mixed over the paths. -/
def produce (b : BufferedVoiceSource) (renderStates : RemoteSourcePaths) (call : DecoderCall) :
    BufferedVoiceSource :=
  let decoder : OpusVoiceDecoder := ⟨call :: b.decoder.calls⟩
  { b with decoder, stereoFrame := ⟨decoder.calls.length, renderStates⟩ }

/-- What `tryProduceNextFrame` does once it holds a copy of the paths, and whether it produced a
frame. -/
def tryProduceNextFrame (b : BufferedVoiceSource) (copied : RemoteSourcePaths) :
    BufferedVoiceSource × Bool :=
  let renderStates := copied.filter RemoteSourceState.audible
  if renderStates = [] then
    ({ b with isPlaying := false, concealmentCount := 0, pending := [] }, false)
  else
    match readQueue b.isPlaying b.pending with
    | .notEnoughBuffered => (b, false)
    | .dry =>
        if !b.isPlaying then (b, false)
        else if b.concealmentCount ≥ kMaxConcealmentFrames then
          ({ b with
              isPlaying := false
              concealmentCount := 0
              concealmentExhaustedCount := b.concealmentExhaustedCount + 1 }, false)
        else
          ({ b with concealmentCount := b.concealmentCount + 1 }.produce renderStates
            .decodePacketLoss, true)
    | .packet frame rest =>
        ({ b with
            pending := rest
            isPlaying := !frame.isLast
            concealmentCount := 0 }.produce renderStates (.decode frame), true)

end BufferedVoiceSource

/-- Where the render thread stands: between two calls, at the top of the loop of `render`, or
inside `tryProduceNextFrame` with its copy of the paths. -/
inductive RenderThread where
  | idle
  | looping (frameCount written : Nat)
  | producing (frameCount written : Nat) (copied : RemoteSourcePaths)
  deriving DecidableEq, Repr

/-- Why a packet has left the queue. -/
inductive Fate where
  | decoded
  | exceeded
  | inaudible (copied : RemoteSourcePaths)
  deriving DecidableEq, Repr

/-- A source with its render thread, and the record of what was queued, what became of it, the
paths that were set, and what was played. -/
structure Playback where
  source : BufferedVoiceSource
  thread : RenderThread := .idle
  enqueued : List PendingFrame := []
  left : List (PendingFrame × Fate) := []
  heldStates : List RemoteSourcePaths := [[]]
  out : List OutputSample := []

inductive PlaybackEvent where
  | enqueueOpusFrame (opus : Bytes) (isLast : Bool)
  | setStates (states : RemoteSourcePaths)
  | render (frameCount : Nat)
  /-- The render thread goes on to its next lock or to its next copy. -/
  | advance
  deriving DecidableEq, Repr

namespace Playback

def start (sessionId : UInt32) (uid : Bytes) : Playback where
  source := { sessionId, uid }

def enqueue (w : Playback) (opus : Bytes) (isLast : Bool) : Playback :=
  let frame : PendingFrame := { data := opus, isLast }
  let source := w.source.enqueueOpusFrame opus isLast
  let dropped := (w.source.pending ++ [frame]).take
    (w.source.pending.length + 1 - source.pending.length)
  { w with
    source
    enqueued := w.enqueued ++ [frame]
    left := w.left ++ dropped.map (fun f => (f, Fate.exceeded)) }

/-- The frames that one call of `tryProduceNextFrame` takes out of the queue. -/
def taken (b b' : BufferedVoiceSource) (copied : RemoteSourcePaths) (produced : Bool) :
    List (PendingFrame × Fate) :=
  let gone := b.pending.take (b.pending.length - b'.pending.length)
  gone.map (fun f => (f, if produced then Fate.decoded else Fate.inaudible copied))

def finishProducing (w : Playback) (frameCount written : Nat) (copied : RemoteSourcePaths) :
    Playback :=
  let (source, produced) := w.source.tryProduceNextFrame copied
  let left := w.left ++ taken w.source source copied produced
  if produced then
    { w with
      source := { source with stereoFramePos := 0 }
      left
      thread := .looping frameCount written }
  else
    { w with
      source
      left
      out := w.out ++ List.replicate (frameCount - written) .silence
      thread := .idle }

def copySamples (w : Playback) (frameCount written : Nat) : Playback :=
  let availableFrames := (StereoFrame.size - w.source.stereoFramePos) / 2
  let toCopy := min availableFrames (frameCount - written)
  let samples := (List.range' (w.source.stereoFramePos / 2) toCopy).map
    (OutputSample.sample w.source.stereoFrame.serial)
  { w with
    source := { w.source with stereoFramePos := w.source.stereoFramePos + toCopy * 2 }
    out := w.out ++ samples
    thread := .looping frameCount (written + toCopy) }

def advance (w : Playback) : Playback :=
  match w.thread with
  | .idle => w
  | .looping frameCount written =>
      if written < frameCount then
        if w.source.stereoFramePos ≥ StereoFrame.size then
          { w with thread := .producing frameCount written w.source.states }
        else w.copySamples frameCount written
      else { w with thread := .idle }
  | .producing frameCount written copied => w.finishProducing frameCount written copied

def step (w : Playback) : PlaybackEvent → Playback
  | .enqueueOpusFrame opus isLast => w.enqueue opus isLast
  | .setStates states =>
      { w with source := w.source.setStates states, heldStates := states :: w.heldStates }
  | .render frameCount =>
      match w.thread with
      | .idle => { w with thread := .looping frameCount 0 }
      | _ => w
  | .advance => w.advance

end Playback

private theorem popOverflow_suffix (frames : List PendingFrame) :
    popOverflow frames = frames.drop (frames.length - kMaxQueuedFrames) := by
  induction frames with
  | nil => rfl
  | cons frame rest ih =>
    by_cases h : (frame :: rest).length > kMaxQueuedFrames
    · have hlength : (frame :: rest).length - kMaxQueuedFrames =
          (rest.length - kMaxQueuedFrames) + 1 := by
        simp only [List.length_cons] at h ⊢
        omega
      rw [popOverflow, if_pos h, ih, hlength, List.drop_succ_cons]
    · have hlength : (frame :: rest).length - kMaxQueuedFrames = 0 := by omega
      rw [popOverflow, if_neg h, hlength, List.drop_zero]

private theorem length_popOverflow (frames : List PendingFrame) :
    (popOverflow frames).length = min frames.length kMaxQueuedFrames := by
  rw [popOverflow_suffix, List.length_drop]
  omega

private theorem take_popOverflow (frames : List PendingFrame) :
    frames.take (frames.length - (popOverflow frames).length) ++ popOverflow frames = frames := by
  have hlength :
      frames.length - (popOverflow frames).length = frames.length - kMaxQueuedFrames := by
    rw [length_popOverflow]
    omega
  rw [hlength, popOverflow_suffix, List.take_append_drop]

private theorem readQueue_packet {isPlaying : Bool} {pending rest : List PendingFrame}
    {frame : PendingFrame} (h : readQueue isPlaying pending = .packet frame rest) :
    pending = frame :: rest := by
  cases pending with
  | nil => cases h
  | cons f fs =>
    simp only [readQueue] at h
    split at h
    · cases h
    · cases h
      rfl

namespace BufferedVoiceSource

/-- Everything that one call of `tryProduceNextFrame` can do. -/
inductive Production (b : BufferedVoiceSource) (copied : RemoteSourcePaths) :
    BufferedVoiceSource × Bool → Prop where
  | drained (h : copied.filter RemoteSourceState.audible = []) :
      Production b copied
        ({ b with isPlaying := false, concealmentCount := 0, pending := [] }, false)
  | waiting : Production b copied (b, false)
  | exhausted (exhaustedCount : Nat) :
      Production b copied
        ({ b with
            isPlaying := false
            concealmentCount := 0
            concealmentExhaustedCount := exhaustedCount }, false)
  | concealed (hplaying : b.isPlaying = true) (hcount : b.concealmentCount < kMaxConcealmentFrames)
      (paths : RemoteSourcePaths) :
      Production b copied
        ({ b with concealmentCount := b.concealmentCount + 1 }.produce paths .decodePacketLoss,
          true)
  | decoded (frame : PendingFrame) (rest : List PendingFrame) (hpending : b.pending = frame :: rest)
      (paths : RemoteSourcePaths) :
      Production b copied
        ({ b with
            pending := rest
            isPlaying := !frame.isLast
            concealmentCount := 0 }.produce paths (.decode frame), true)

theorem tryProduceNextFrame_production (b : BufferedVoiceSource) (copied : RemoteSourcePaths) :
    Production b copied (b.tryProduceNextFrame copied) := by
  simp only [tryProduceNextFrame]
  split
  · rename_i hsilent
    exact .drained hsilent
  · split
    · exact .waiting
    · split
      · exact .waiting
      · rename_i hplaying
        split
        · exact .exhausted _
        · rename_i hcount
          exact .concealed (by simpa using hplaying) (Nat.lt_of_not_le hcount) _
    · rename_i frame rest hread
      exact .decoded frame rest (readQueue_packet hread) _

end BufferedVoiceSource

/-- The decoder was last given a packet that is not the end of a talkspurt, and has concealed
`n` frames since. -/
def OpusVoiceDecoder.Concealing (calls : List DecoderCall) (n : Nat) : Prop :=
  ∃ frame earlier, calls = List.replicate n .decodePacketLoss ++ .decode frame :: earlier ∧
    frame.isLast = false

/-- Every concealment of the history continues a talkspurt that is still open, and is within its
budget. -/
def OpusVoiceDecoder.ConcealsOpen (calls : List DecoderCall) : Prop :=
  ∀ later earlier, calls = later ++ .decodePacketLoss :: earlier →
    ∃ n, n < kMaxConcealmentFrames ∧ OpusVoiceDecoder.Concealing earlier n

def Fate.isDecoded : Fate → Bool
  | .decoded => true
  | _ => false

/-- The packets among those that left the queue that went to the decoder. -/
def handedOver (left : List (PendingFrame × Fate)) : List PendingFrame :=
  (left.filter (fun entry => entry.2.isDecoded)).map Prod.fst

private theorem handedOver_append (left more : List (PendingFrame × Fate)) :
    handedOver (left ++ more) = handedOver left ++ handedOver more := by
  rw [handedOver, List.filter_append, List.map_append]
  rfl

private theorem handedOver_fate (frames : List PendingFrame) (fate : Fate) :
    handedOver (frames.map (fun f => (f, fate))) = if fate.isDecoded then frames else [] := by
  induction frames with
  | nil => simp [handedOver]
  | cons frame rest ih =>
    rw [List.map_cons, handedOver, List.filter_cons]
    rw [handedOver] at ih
    cases hfate : fate.isDecoded with
    | true => simpa [hfate] using ih
    | false => simp [hfate]

private theorem map_fst_fate (frames : List PendingFrame) (fate : Fate) :
    (frames.map (fun f => (f, fate))).map Prod.fst = frames := by
  rw [List.map_map]
  exact List.map_id _

private theorem OpusVoiceDecoder.concealsOpen_cons {call : DecoderCall} {calls : List DecoderCall}
    (hcalls : OpusVoiceDecoder.ConcealsOpen calls)
    (hcall : call = .decodePacketLoss →
      ∃ n, n < kMaxConcealmentFrames ∧ OpusVoiceDecoder.Concealing calls n) :
    OpusVoiceDecoder.ConcealsOpen (call :: calls) := by
  intro later earlier h
  cases later with
  | nil =>
    obtain ⟨hhead, htail⟩ := List.cons.inj h
    rw [← htail]
    exact hcall hhead
  | cons newest later => exact hcalls later earlier (List.cons.inj h).2

theorem OpusVoiceDecoder.decoded_cons (call : DecoderCall) (calls : List DecoderCall) :
    OpusVoiceDecoder.decoded ⟨call :: calls⟩ =
      OpusVoiceDecoder.decoded ⟨calls⟩ ++ call.frame.toList := by
  simp only [OpusVoiceDecoder.decoded, List.reverse_cons, List.filterMap_append]
  cases call <;> rfl

namespace Playback

/-- What was played, as frame and position. -/
def heard (w : Playback) : List (Nat × Nat) := w.out.filterMap OutputSample.origin

structure Consistent (w : Playback) : Prop where
  accounted : w.enqueued = w.left.map Prod.fst ++ w.source.pending
  handed : w.source.decoder.decoded = handedOver w.left
  overtaken : ∀ i frame, w.left[i]? = some (frame, .exceeded) →
    i + kMaxQueuedFrames < w.enqueued.length
  silenced : ∀ frame copied, (frame, Fate.inaudible copied) ∈ w.left →
    copied ∈ w.heldStates ∧ copied.filter RemoteSourceState.audible = []
  held : w.source.states ∈ w.heldStates
  copied : ∀ frameCount written copied, w.thread = .producing frameCount written copied →
    copied ∈ w.heldStates
  bounded : w.source.pending.length ≤ kMaxQueuedFrames
  talking : w.source.isPlaying = true →
    OpusVoiceDecoder.Concealing w.source.decoder.calls w.source.concealmentCount
  conceals : OpusVoiceDecoder.ConcealsOpen w.source.decoder.calls
  current : w.source.stereoFrame.serial = w.source.decoder.calls.length
  even : w.source.stereoFramePos % 2 = 0
  past : ∀ serial position, (serial, position) ∈ w.heard →
    serial < w.source.stereoFrame.serial ∨
      serial = w.source.stereoFrame.serial ∧ position < w.source.stereoFramePos / 2
  once : w.heard.Nodup

private theorem enqueue_consistent {w : Playback} (opus : Bytes) (isLast : Bool)
    (h : w.Consistent) :
    (w.enqueue opus isLast).Consistent := by
  have hsplit := take_popOverflow (w.source.pending ++ [{ data := opus, isLast }])
  have hlength := length_popOverflow (w.source.pending ++ [{ data := opus, isLast }])
  rw [List.length_append, List.length_singleton] at hsplit hlength
  exact
    { accounted := by
        simp only [enqueue, BufferedVoiceSource.enqueueOpusFrame, List.map_append, map_fst_fate]
        rw [List.append_assoc, hsplit, h.accounted, List.append_assoc]
      handed := by
        simp only [enqueue, BufferedVoiceSource.enqueueOpusFrame, handedOver_append,
          handedOver_fate]
        simpa [Fate.isDecoded] using h.handed
      overtaken := by
        intro i frame hi
        have htotal := congrArg List.length h.accounted
        simp only [List.length_append, List.length_map] at htotal
        simp only [enqueue, BufferedVoiceSource.enqueueOpusFrame, List.length_append,
          List.length_singleton] at hi ⊢
        rw [List.getElem?_append] at hi
        split at hi
        · have := h.overtaken i frame hi
          omega
        · obtain ⟨hbound, -⟩ := List.getElem?_eq_some_iff.mp hi
          simp only [List.length_map, List.length_take, List.length_append,
            List.length_singleton] at hbound
          omega
      silenced := by
        intro frame copied hmem
        rcases List.mem_append.mp hmem with hmem | hmem
        · exact h.silenced frame copied hmem
        · obtain ⟨f, -, heq⟩ := List.mem_map.mp hmem
          cases heq
      held := h.held
      copied := h.copied
      bounded := by
        simp only [enqueue, BufferedVoiceSource.enqueueOpusFrame]
        omega
      talking := h.talking
      conceals := h.conceals
      current := h.current
      even := h.even
      past := h.past
      once := h.once }

private theorem setStates_consistent {w : Playback} (states : RemoteSourcePaths)
    (h : w.Consistent) :
    (w.step (.setStates states)).Consistent :=
  { h with
    silenced := fun frame copied hmem =>
      ⟨List.mem_cons_of_mem _ (h.silenced frame copied hmem).1, (h.silenced frame copied hmem).2⟩
    held := List.mem_cons_self
    copied := fun frameCount written copied hthread =>
      List.mem_cons_of_mem _ (h.copied frameCount written copied hthread) }

private theorem Consistent.onThread {w : Playback} (h : w.Consistent) (thread : RenderThread)
    (hthread : ∀ frameCount written copied, thread = .producing frameCount written copied →
      copied ∈ w.heldStates) :
    ({ w with thread } : Playback).Consistent :=
  { h with copied := hthread }

private theorem mem_copied_samples (first count serial : Nat) (entry : Nat × Nat) :
    entry ∈ ((List.range' first count).map (OutputSample.sample serial)).filterMap
        OutputSample.origin ↔
      entry.1 = serial ∧ first ≤ entry.2 ∧ entry.2 < first + count := by
  obtain ⟨s, p⟩ := entry
  simp only [List.mem_filterMap, List.mem_map, List.mem_range'_1]
  constructor
  · rintro ⟨sample, ⟨position, hposition, rfl⟩, heq⟩
    cases heq
    exact ⟨rfl, hposition⟩
  · rintro ⟨rfl, hposition⟩
    exact ⟨_, ⟨p, hposition, rfl⟩, rfl⟩

private theorem nodup_copied_samples (first count serial : Nat) :
    (((List.range' first count).map (OutputSample.sample serial)).filterMap
      OutputSample.origin).Nodup := by
  have hpairs : ((List.range' first count).map (OutputSample.sample serial)).filterMap
      OutputSample.origin = (List.range' first count).map (fun position => (serial, position)) := by
    rw [List.filterMap_map, ← List.filterMap_eq_map]
    rfl
  rw [hpairs]
  exact List.Nodup.map (fun p q hpq => (Prod.mk.inj hpq).2) List.nodup_range'

private theorem copySamples_consistent {w : Playback} (frameCount written : Nat)
    (h : w.Consistent) :
    (w.copySamples frameCount written).Consistent := by
  have heven := h.even
  exact
    { h with
      copied := by
        intro frameCount' written' copied hthread
        cases hthread
      even := by
        simp only [copySamples]
        omega
      past := by
        intro serial position hmem
        simp only [heard, copySamples, List.filterMap_append, List.mem_append,
          mem_copied_samples] at hmem ⊢
        rcases hmem with hmem | ⟨rfl, -, hlt⟩
        · rcases h.past serial position hmem with hold | ⟨hserial, hlt⟩
          · exact Or.inl hold
          · right
            exact ⟨hserial, by omega⟩
        · right
          exact ⟨rfl, by omega⟩
      once := by
        simp only [heard, copySamples, List.filterMap_append]
        refine List.nodup_append'.mpr ⟨h.once, nodup_copied_samples _ _ _, ?_⟩
        rintro ⟨serial, position⟩ hold hnew
        obtain ⟨hserial, hfirst, -⟩ := (mem_copied_samples _ _ _ _).mp hnew
        rcases h.past serial position hold with hlt | ⟨-, hlt⟩
        · exact absurd hserial (Nat.ne_of_lt hlt)
        · exact absurd hlt (Nat.not_lt.mpr hfirst) }

private theorem heard_silence (out : List OutputSample) (count : Nat) :
    (out ++ List.replicate count OutputSample.silence).filterMap OutputSample.origin =
      out.filterMap OutputSample.origin := by
  rw [List.filterMap_append]
  have hsilence :
      (List.replicate count OutputSample.silence).filterMap OutputSample.origin = [] := by
    apply List.filterMap_eq_nil_iff.mpr
    intro sample hsample
    rw [List.eq_of_mem_replicate hsample]
    rfl
  rw [hsilence, List.append_nil]

private theorem Consistent.onSilence {w : Playback} (h : w.Consistent)
    {source : BufferedVoiceSource}
    {gone : List PendingFrame} {copied : RemoteSourcePaths} (count : Nat)
    (hqueue : w.source.pending = gone ++ source.pending)
    (hcopied : copied ∈ w.heldStates)
    (hgone : gone ≠ [] → copied.filter RemoteSourceState.audible = [])
    (htalking : source.isPlaying = true → source.isPlaying = w.source.isPlaying ∧
      source.concealmentCount = w.source.concealmentCount)
    (hdecoder : source.decoder = w.source.decoder)
    (hframe : source.stereoFrame = w.source.stereoFrame)
    (hpos : source.stereoFramePos = w.source.stereoFramePos)
    (hstates : source.states = w.source.states) :
    ({ w with
        source
        left := w.left ++ gone.map (fun f => (f, Fate.inaudible copied))
        out := w.out ++ List.replicate count .silence
        thread := .idle } : Playback).Consistent where
  accounted := by
    simp only [List.map_append, map_fst_fate]
    rw [h.accounted, hqueue, List.append_assoc]
  handed := by
    simp only [handedOver_append, handedOver_fate, hdecoder]
    simpa [Fate.isDecoded] using h.handed
  overtaken := by
    intro i frame hi
    simp only [List.getElem?_append] at hi
    split at hi
    · exact h.overtaken i frame hi
    · obtain ⟨f, -, heq⟩ := List.mem_map.mp (List.mem_of_getElem? hi)
      cases heq
  silenced := by
    intro frame copied' hmem
    rcases List.mem_append.mp hmem with hmem | hmem
    · exact h.silenced frame copied' hmem
    · obtain ⟨f, hf, heq⟩ := List.mem_map.mp hmem
      cases heq
      exact ⟨hcopied, hgone (List.ne_nil_of_mem hf)⟩
  held := by
    simp only [hstates]
    exact h.held
  copied := by
    intro frameCount written copied' hthread
    cases hthread
  bounded := by
    have hbounded := h.bounded
    rw [hqueue, List.length_append] at hbounded
    simp only
    omega
  talking := by
    intro hplaying
    obtain ⟨hsame, hcount⟩ := htalking hplaying
    simp only [hdecoder, hcount]
    exact h.talking (hsame ▸ hplaying)
  conceals := by
    simp only [hdecoder]
    exact h.conceals
  current := by
    simp only [hdecoder, hframe]
    exact h.current
  even := by
    simp only [hpos]
    exact h.even
  past := by
    intro serial position hmem
    simp only [heard, heard_silence] at hmem
    simp only [hframe, hpos]
    exact h.past serial position hmem
  once := by
    simp only [heard, heard_silence]
    exact h.once

private theorem Consistent.onFrame {w : Playback} (h : w.Consistent) {source : BufferedVoiceSource}
    {gone : List PendingFrame} {call : DecoderCall} (paths : RemoteSourcePaths)
    (frameCount written : Nat)
    (hqueue : w.source.pending = gone ++ source.pending)
    (hgone : gone = call.frame.toList)
    (hloss : call = .decodePacketLoss →
      ∃ n, n < kMaxConcealmentFrames ∧ OpusVoiceDecoder.Concealing w.source.decoder.calls n)
    (htalking : source.isPlaying = true →
      OpusVoiceDecoder.Concealing (call :: w.source.decoder.calls) source.concealmentCount)
    (hdecoder : source.decoder = w.source.decoder)
    (hstates : source.states = w.source.states) :
    ({ w with
        source := { source.produce paths call with stereoFramePos := 0 }
        left := w.left ++ gone.map (fun f => (f, Fate.decoded))
        thread := .looping frameCount written } : Playback).Consistent where
  accounted := by
    simp only [List.map_append, map_fst_fate, BufferedVoiceSource.produce]
    rw [h.accounted, hqueue, List.append_assoc]
  handed := by
    simp only [handedOver_append, handedOver_fate, BufferedVoiceSource.produce, hdecoder,
      OpusVoiceDecoder.decoded_cons, hgone]
    rw [← h.handed]
    rfl
  overtaken := by
    intro i frame hi
    simp only [List.getElem?_append] at hi
    split at hi
    · exact h.overtaken i frame hi
    · obtain ⟨f, -, heq⟩ := List.mem_map.mp (List.mem_of_getElem? hi)
      cases heq
  silenced := by
    intro frame copied hmem
    rcases List.mem_append.mp hmem with hmem | hmem
    · exact h.silenced frame copied hmem
    · obtain ⟨f, -, heq⟩ := List.mem_map.mp hmem
      cases heq
  held := by
    simp only [BufferedVoiceSource.produce, hstates]
    exact h.held
  copied := by
    intro frameCount' written' copied hthread
    cases hthread
  bounded := by
    have hbounded := h.bounded
    rw [hqueue, List.length_append] at hbounded
    simp only [BufferedVoiceSource.produce]
    omega
  talking := by
    simp only [BufferedVoiceSource.produce, hdecoder]
    exact htalking
  conceals := by
    simp only [BufferedVoiceSource.produce, hdecoder]
    exact OpusVoiceDecoder.concealsOpen_cons h.conceals hloss
  current := rfl
  even := rfl
  past := by
    intro serial position hmem
    have hcurrent := h.current
    simp only [BufferedVoiceSource.produce, hdecoder, List.length_cons]
    rcases h.past serial position hmem with hlt | ⟨rfl, -⟩
    · left
      omega
    · left
      omega
  once := h.once

private theorem taken_eq {b b' : BufferedVoiceSource} {gone : List PendingFrame}
    (copied : RemoteSourcePaths) (produced : Bool) (h : b.pending = gone ++ b'.pending) :
    taken b b' copied produced =
      gone.map (fun f => (f, if produced then Fate.decoded else Fate.inaudible copied)) := by
  have hlength : b.pending.length - b'.pending.length = gone.length := by
    rw [h, List.length_append]
    omega
  rw [taken, hlength, h, List.take_left']
  rfl

private theorem finishProducing_consistent {w : Playback} (frameCount written : Nat)
    {copied : RemoteSourcePaths} (h : w.Consistent) (hcopied : copied ∈ w.heldStates) :
    (w.finishProducing frameCount written copied).Consistent := by
  have hproduction := w.source.tryProduceNextFrame_production copied
  simp only [finishProducing]
  generalize w.source.tryProduceNextFrame copied = produced at hproduction
  cases hproduction with
  | drained hsilent =>
    have hall : w.source.pending = w.source.pending ++ ({ w.source with
        isPlaying := false
        concealmentCount := 0
        pending := [] } : BufferedVoiceSource).pending := (List.append_nil _).symm
    rw [taken_eq copied false hall]
    exact h.onSilence _ hall hcopied (fun _ => hsilent) (fun hplaying => nomatch hplaying)
      rfl rfl rfl rfl
  | waiting =>
    have hnone := (List.nil_append w.source.pending).symm
    rw [taken_eq copied false hnone]
    exact h.onSilence _ hnone hcopied (fun hne => absurd rfl hne) (fun _ => ⟨rfl, rfl⟩)
      rfl rfl rfl rfl
  | exhausted exhaustedCount =>
    have hnone : w.source.pending = [] ++ ({ w.source with
        isPlaying := false
        concealmentCount := 0
        concealmentExhaustedCount := exhaustedCount } : BufferedVoiceSource).pending := rfl
    rw [taken_eq copied false hnone]
    exact h.onSilence _ hnone hcopied (fun hne => absurd rfl hne)
      (fun hplaying => nomatch hplaying) rfl rfl rfl rfl
  | concealed hplaying hcount paths =>
    have hnone : w.source.pending = [] ++ (BufferedVoiceSource.produce { w.source with
        concealmentCount := w.source.concealmentCount + 1 } paths .decodePacketLoss).pending := rfl
    rw [taken_eq copied true hnone]
    have hopen := h.talking hplaying
    refine h.onFrame paths frameCount written hnone rfl (fun _ => ⟨_, hcount, hopen⟩) (fun _ => ?_)
      rfl rfl
    obtain ⟨frame, earlier, hcalls, hlast⟩ := hopen
    exact ⟨frame, earlier, by rw [hcalls]; rfl, hlast⟩
  | decoded frame rest hpending paths =>
    have hfront : w.source.pending = [frame] ++ (BufferedVoiceSource.produce { w.source with
        pending := rest
        isPlaying := !frame.isLast
        concealmentCount := 0 } paths (.decode frame)).pending := hpending
    rw [taken_eq copied true hfront]
    refine h.onFrame paths frameCount written hfront rfl (fun hloss => nomatch hloss)
      (fun hplaying => ?_) rfl rfl
    exact ⟨frame, w.source.decoder.calls, rfl, by simpa using hplaying⟩

private theorem advance_consistent {w : Playback} (h : w.Consistent) : w.advance.Consistent := by
  simp only [advance]
  split
  · exact h
  · split
    · split
      · refine h.onThread _ (fun frameCount written copied hthread => ?_)
        cases hthread
        exact h.held
      · exact copySamples_consistent _ _ h
    · exact h.onThread _ (fun frameCount written copied hthread => nomatch hthread)
  · rename_i frameCount written copied hthread
    exact finishProducing_consistent frameCount written h (h.copied _ _ _ hthread)

theorem step_consistent {w : Playback} (e : PlaybackEvent) (h : w.Consistent) :
    (w.step e).Consistent := by
  cases e with
  | enqueueOpusFrame opus isLast => exact enqueue_consistent opus isLast h
  | setStates states => exact setStates_consistent states h
  | render frameCount =>
    simp only [step]
    split
    · exact h.onThread _ (fun frameCount written copied hthread => nomatch hthread)
    · exact h
  | advance => exact advance_consistent h

end Playback

end TaskForceRadio.Voice
