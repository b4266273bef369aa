import TaskForceRadio.Client.RemoteVoiceSource
import TaskForceRadio.Foundation.Pulling

/-!
# Talkspurts in the jitter buffer

What the decoder gets from a queue to which nothing is added. The end of a talkspurt in the
queue is enough for everything before it; what comes after the last end waits for the cushion.
-/

set_option autoImplicit false

namespace TaskForceRadio.Voice

private theorem readQueue_end {isPlaying : Bool} {frame : PendingFrame} {rest : List PendingFrame}
    (h : ∃ f ∈ frame :: rest, f.isLast = true) :
    readQueue isPlaying (frame :: rest) = .packet frame rest := by
  have hwhole : haveWholeTalkspurt frame rest = true := by
    obtain ⟨f, hf, hlast⟩ := h
    rw [haveWholeTalkspurt, Bool.or_eq_true, List.any_eq_true]
    rcases List.mem_cons.mp hf with rfl | hf
    · exact Or.inl hlast
    · exact Or.inr ⟨f, hf, hlast⟩
  simp [readQueue, hwhole]

private theorem readQueue_playing (frame : PendingFrame) (rest : List PendingFrame) :
    readQueue true (frame :: rest) = .packet frame rest := by
  simp [readQueue]

private theorem readQueue_cushion {isPlaying : Bool} {frame : PendingFrame}
    {rest : List PendingFrame}
    (h : kJitterTargetFrames ≤ (frame :: rest).length) :
    readQueue isPlaying (frame :: rest) = .packet frame rest := by
  have hlen : ¬rest.length < kJitterTargetFrames - 1 := by
    rw [List.length_cons] at h
    omega
  simp [readQueue, hlen]

private theorem readQueue_waiting {frame : PendingFrame} {rest : List PendingFrame}
    (hlen : (frame :: rest).length < kJitterTargetFrames)
    (hopen : ∀ f ∈ frame :: rest, f.isLast = false) :
    readQueue false (frame :: rest) = .notEnoughBuffered := by
  have hshort : rest.length < kJitterTargetFrames - 1 := by
    rw [List.length_cons] at hlen
    omega
  have hwhole : haveWholeTalkspurt frame rest = false := by
    rw [haveWholeTalkspurt, Bool.or_eq_false_iff]
    refine ⟨hopen frame List.mem_cons_self, List.any_eq_false.mpr ?_⟩
    intro f hf
    rw [hopen f (List.mem_cons_of_mem _ hf)]
    exact Bool.false_ne_true
  simp [readQueue, hshort, hwhole]

namespace BufferedVoiceSource

variable {b : BufferedVoiceSource}

/-- One of the paths carries something. -/
def Audible (b : BufferedVoiceSource) : Prop := ∃ path ∈ b.states, path.audible = true

/-- `tryProduceNextFrame` while nobody sets the paths. -/
def produceNext (b : BufferedVoiceSource) : BufferedVoiceSource × Bool :=
  b.tryProduceNextFrame b.states

/-- The source after some calls of `tryProduceNextFrame`, and what they returned. -/
def produceCalls (n : Nat) (b : BufferedVoiceSource) : BufferedVoiceSource × List Bool :=
  pulls produceNext n b

private theorem filter_audible (h : b.Audible) : b.states.filter RemoteSourceState.audible ≠
    [] := by
  obtain ⟨path, hmem, haudible⟩ := h
  intro hnil
  have hin := List.mem_filter.mpr ⟨hmem, haudible⟩
  rw [hnil] at hin
  exact List.not_mem_nil hin

private theorem produceNext_states (b : BufferedVoiceSource) :
    b.produceNext.1.states = b.states := by
  have h := b.tryProduceNextFrame_production b.states
  rw [produceNext]
  generalize b.tryProduceNextFrame b.states = outcome at h ⊢
  cases h <;> rfl

private theorem Audible.produceNext (h : b.Audible) : b.produceNext.1.Audible := by
  rw [Audible, produceNext_states]
  exact h

/-- A call that finds a packet to play. -/
structure Plays (b : BufferedVoiceSource) (frame : PendingFrame) (rest : List PendingFrame) :
    Prop where
  produced : b.produceNext.2 = true
  decoded : b.produceNext.1.decoder.decoded = b.decoder.decoded ++ [frame]
  pending : b.produceNext.1.pending = rest
  isPlaying : b.produceNext.1.isPlaying = !frame.isLast

private theorem plays_of_packet (haudible : b.Audible) {frame : PendingFrame}
    {rest : List PendingFrame}
    (h : readQueue b.isPlaying b.pending = .packet frame rest) :
    b.Plays frame rest := by
  have hpath := filter_audible haudible
  constructor
  · simp [produceNext, tryProduceNextFrame, hpath, h]
  · simp only [produceNext, tryProduceNextFrame, hpath, h, if_false, produce]
    exact OpusVoiceDecoder.decoded_cons _ _
  · simp [produceNext, tryProduceNextFrame, hpath, h, produce]
  · simp [produceNext, tryProduceNextFrame, hpath, h, produce]

/-- The calls that take the packets of a list off the queue, one after the other. -/
structure Drains (b : BufferedVoiceSource) (taken rest : List PendingFrame) : Prop where
  produced : (b.produceCalls taken.length).2 = List.replicate taken.length true
  decoded : (b.produceCalls taken.length).1.decoder.decoded = b.decoder.decoded ++ taken
  pending : (b.produceCalls taken.length).1.pending = rest
  isPlaying : (b.produceCalls taken.length).1.isPlaying =
    (taken.getLast?.map (fun frame => !frame.isLast)).getD b.isPlaying
  audible : (b.produceCalls taken.length).1.Audible

private theorem drains_nil (haudible : b.Audible) : b.Drains [] b.pending :=
  ⟨rfl, (List.append_nil _).symm, rfl, rfl, haudible⟩

theorem Drains.cons {frame : PendingFrame} {taken rest : List PendingFrame}
    (hplays : b.Plays frame (taken ++ rest)) (hlater : b.produceNext.1.Drains taken rest) :
    b.Drains (frame :: taken) rest := by
  have hcalls : b.produceCalls (frame :: taken).length =
      ((b.produceNext.1.produceCalls taken.length).1,
        true :: (b.produceNext.1.produceCalls taken.length).2) := by
    rw [List.length_cons, produceCalls, pulls_succ, hplays.produced]
    rfl
  constructor
  · rw [hcalls, hlater.produced, List.length_cons, List.replicate_succ]
  · rw [hcalls, hlater.decoded, hplays.decoded, List.append_assoc, List.singleton_append]
  · rw [hcalls]
    exact hlater.pending
  · rw [hcalls, hlater.isPlaying, hplays.isPlaying]
    cases taken with
    | nil => rfl
    | cons f fs =>
      rw [List.getLast?_cons_cons, List.getLast?_eq_some_getLast (List.cons_ne_nil f fs)]
      rfl
  · rw [hcalls]
    exact hlater.audible

private theorem produceCalls_add (b : BufferedVoiceSource) (m n : Nat) :
    b.produceCalls (m + n) = (((b.produceCalls m).1.produceCalls n).1,
      (b.produceCalls m).2 ++ ((b.produceCalls m).1.produceCalls n).2) :=
  pulls_add m n b

theorem Drains.append {taken taken' mid rest : List PendingFrame} (h : b.Drains taken mid)
    (hlater : (b.produceCalls taken.length).1.Drains taken' rest) :
    b.Drains (taken ++ taken') rest := by
  have hcalls := b.produceCalls_add taken.length taken'.length
  rw [← List.length_append] at hcalls
  constructor
  · rw [hcalls, h.produced, hlater.produced, List.replicate_append_replicate, List.length_append]
  · rw [hcalls, hlater.decoded, h.decoded, List.append_assoc]
  · rw [hcalls]
    exact hlater.pending
  · rw [hcalls, hlater.isPlaying, h.isPlaying, List.getLast?_append]
    cases taken'.getLast? with
    | none => rfl
    | some frame => rfl
  · rw [hcalls]
    exact hlater.audible

private theorem drains_to_end (haudible : b.Audible) {head tail : List PendingFrame}
    {last : PendingFrame}
    (hpending : b.pending = head ++ last :: tail) (hlast : last.isLast = true)
    {taken rest : List PendingFrame} (hsplit : head ++ [last] = taken ++ rest) :
    b.Drains taken (rest ++ tail) := by
  induction taken generalizing b head with
  | nil =>
    have hrest : rest ++ tail = b.pending := by
      rw [hpending, ← List.nil_append rest, ← hsplit]
      simp
    rw [hrest]
    exact drains_nil haudible
  | cons frame taken ih =>
    have hqueue : b.pending = frame :: (taken ++ (rest ++ tail)) := by
      rw [hpending, ← List.append_assoc, ← List.cons_append, ← List.cons_append, ← hsplit]
      simp
    have hend : ∃ f ∈ frame :: (taken ++ (rest ++ tail)), f.isLast = true := by
      refine ⟨last, ?_, hlast⟩
      rw [← hqueue, hpending]
      simp
    have hplays : b.Plays frame (taken ++ (rest ++ tail)) := by
      apply plays_of_packet haudible
      rw [hqueue]
      exact readQueue_end hend
    apply Drains.cons hplays
    cases head with
    | nil =>
      -- the marker was the only packet in front of the tail
      obtain ⟨rfl, hnil⟩ := List.cons_eq_cons.mp hsplit
      obtain ⟨rfl, rfl⟩ := List.append_eq_nil_iff.mp hnil.symm
      have hnext := drains_nil haudible.produceNext
      rw [hplays.pending] at hnext
      exact hnext
    | cons f head =>
      obtain ⟨rfl, hrest⟩ := List.cons_eq_cons.mp hsplit
      have hrest : head ++ [last] = taken ++ rest := hrest
      have hnext : b.produceNext.1.pending = head ++ last :: tail := by
        rw [hplays.pending, ← List.append_assoc, ← hrest]
        simp
      exact ih haudible.produceNext hnext hrest

private theorem drains_playing (haudible : b.Audible) (hplaying : b.isPlaying = true)
    {taken rest : List PendingFrame} (hpending : b.pending = taken ++ rest)
    (hopen : ∀ f ∈ taken, f.isLast = false) :
    b.Drains taken rest := by
  induction taken generalizing b with
  | nil =>
    rw [← List.nil_append rest, ← hpending]
    exact drains_nil haudible
  | cons frame taken ih =>
    have hplays : b.Plays frame (taken ++ rest) := by
      apply plays_of_packet haudible
      rw [hpending, hplaying]
      exact readQueue_playing frame _
    apply Drains.cons hplays
    apply ih haudible.produceNext
    · rw [hplays.isPlaying, hopen frame List.mem_cons_self]
      rfl
    · exact hplays.pending
    · exact fun f hf => hopen f (List.mem_cons_of_mem _ hf)

private theorem drains_cushion (haudible : b.Audible) {taken rest : List PendingFrame}
    (hpending : b.pending = taken ++ rest) (hcushion : kJitterTargetFrames ≤ b.pending.length)
    (hopen : ∀ f ∈ taken, f.isLast = false) :
    b.Drains taken rest := by
  cases taken with
  | nil =>
    rw [← List.nil_append rest, ← hpending]
    exact drains_nil haudible
  | cons frame taken =>
    have hplays : b.Plays frame (taken ++ rest) := by
      apply plays_of_packet haudible
      rw [hpending] at hcushion ⊢
      exact readQueue_cushion hcushion
    apply Drains.cons hplays
    apply drains_playing haudible.produceNext
    · rw [hplays.isPlaying, hopen frame List.mem_cons_self]
      rfl
    · exact hplays.pending
    · exact fun f hf => hopen f (List.mem_cons_of_mem _ hf)

private theorem produceCalls_waiting (h : b.produceNext = (b, false)) (n : Nat) :
    b.produceCalls n = (b, List.replicate n false) := pulls_fixed h n

private theorem produceNext_waiting (haudible : b.Audible) (hstopped : b.isPlaying = false)
    (hopen : ∀ f ∈ b.pending, f.isLast = false) (hshort : b.pending.length < kJitterTargetFrames) :
    b.produceNext = (b, false) := by
  have hpath := filter_audible haudible
  cases hpending : b.pending with
  | nil => simp [produceNext, tryProduceNextFrame, hpath, hpending, readQueue, hstopped]
  | cons frame rest =>
    rw [hpending] at hopen hshort
    have hread := readQueue_waiting hshort hopen
    simp [produceNext, tryProduceNextFrame, hpath, hpending, hread, hstopped]

private theorem exists_last_end {frames : List PendingFrame} (h : ∃ f ∈ frames, f.isLast = true) :
    ∃ head last tail, frames = head ++ last :: tail ∧ last.isLast = true ∧
      ∀ f ∈ tail, f.isLast = false := by
  induction frames with
  | nil =>
    obtain ⟨f, hf, -⟩ := h
    exact absurd hf List.not_mem_nil
  | cons frame rest ih =>
    by_cases hlater : ∃ f ∈ rest, f.isLast = true
    · obtain ⟨head, last, tail, hsplit, hlast, htail⟩ := ih hlater
      exact ⟨frame :: head, last, tail, by rw [hsplit, List.cons_append], hlast, htail⟩
    · have htail : ∀ f ∈ rest, f.isLast = false := by
        intro f hf
        by_contra hend
        exact hlater ⟨f, hf, by simpa using hend⟩
      obtain ⟨f, hf, hend⟩ := h
      rcases List.mem_cons.mp hf with rfl | hf
      · exact ⟨[], f, rest, rfl, hend, htail⟩
      · exact absurd ⟨f, hf, hend⟩ hlater

/-- After `n` calls the decoder has got the first `n` packets of the queue, one a call. -/
def PlaysFirst (b : BufferedVoiceSource) (n : Nat) : Prop :=
  (b.produceCalls n).2 = List.replicate n true ∧
    (b.produceCalls n).1.decoder.decoded = b.decoder.decoded ++ b.pending.take n

private theorem Drains.playsFirst {taken rest : List PendingFrame} (h : b.Drains taken rest)
    (hpending : b.pending = taken ++ rest) :
    b.PlaysFirst taken.length := by
  refine ⟨h.produced, ?_⟩
  rw [h.decoded, hpending, List.take_left]

/-- Nothing up to the last end of a talkspurt in the queue is withheld. The packets after that
end are played as well when they fill the cushion, and otherwise stay in the queue. -/
theorem talkspurt_not_withheld (haudible : b.Audible) (h : ∃ f ∈ b.pending, f.isLast = true) :
    ∃ head last tail, b.pending = head ++ last :: tail ∧ last.isLast = true ∧
      (∀ f ∈ tail, f.isLast = false) ∧
      (∀ n ≤ head.length + 1, b.PlaysFirst n) ∧
      (kJitterTargetFrames ≤ tail.length → ∀ n ≤ b.pending.length, b.PlaysFirst n) ∧
      (tail.length < kJitterTargetFrames → ∀ n,
        (b.produceCalls (head.length + 1 + n)).2 =
          List.replicate (head.length + 1) true ++ List.replicate n false ∧
        (b.produceCalls (head.length + 1 + n)).1.decoder.decoded =
          b.decoder.decoded ++ (head ++ [last]) ∧
        (b.produceCalls (head.length + 1 + n)).1.pending = tail) := by
  obtain ⟨head, last, tail, hpending, hlast, htail⟩ := exists_last_end h
  have hwhole : b.pending = (head ++ [last]) ++ tail := by rw [hpending]; simp
  have hlen : (head ++ [last]).length = head.length + 1 := by simp
  have hend : b.Drains (head ++ [last]) tail := by
    have hdrains : b.Drains (head ++ [last]) ([] ++ tail) :=
      drains_to_end haudible hpending hlast (List.append_nil _).symm
    exact hdrains
  have hsplit : ∀ n ≤ head.length + 1, b.PlaysFirst n := by
    intro n hn
    have hdrains : b.Drains ((head ++ [last]).take n) ((head ++ [last]).drop n ++ tail) :=
      drains_to_end haudible hpending hlast (List.take_append_drop n _).symm
    have hplays := hdrains.playsFirst
      (by rw [← List.append_assoc, List.take_append_drop]; exact hwhole)
    rwa [List.length_take, hlen, Nat.min_eq_left hn] at hplays
  have hrest := hend.pending
  refine ⟨head, last, tail, hpending, hlast, htail, hsplit, ?_, ?_⟩
  · intro hcushion n hn
    rcases Nat.le_total n (head.length + 1) with hle | hge
    · exact hsplit n hle
    · -- the rest of the calls drain the tail
      obtain ⟨k, rfl⟩ := Nat.exists_eq_add_of_le hge
      have hk : k ≤ tail.length := by
        rw [hwhole, List.length_append, hlen] at hn
        omega
      have hlater : (b.produceCalls (head ++ [last]).length).1.Drains (tail.take k)
          (tail.drop k) :=
        drains_cushion hend.audible (by rw [List.take_append_drop]; exact hrest)
          (by rw [hrest]; exact hcushion) (fun f hf => htail f (List.mem_of_mem_take hf))
      have hplays := (hend.append hlater).playsFirst
        (by rw [List.append_assoc, List.take_append_drop]; exact hwhole)
      rwa [List.length_append, hlen, List.length_take, Nat.min_eq_left hk] at hplays
  · intro hshort n
    have hstopped : (b.produceCalls (head ++ [last]).length).1.isPlaying = false := by
      have hplaying := hend.isPlaying
      simpa [hlast] using hplaying
    have hwait := produceNext_waiting hend.audible hstopped (by rw [hrest]; exact htail)
      (by rw [hrest]; exact hshort)
    rw [← hlen, produceCalls_add, produceCalls_waiting hwait, hend.produced, hend.decoded, hrest]
    exact ⟨rfl, rfl, rfl⟩

/-- Two packets and the start of the next talkspurt, heard directly. -/
def shortTalkspurt : BufferedVoiceSource where
  sessionId := 7
  uid := ascii "76561198000000007"
  states := [{ gain := 1 }]
  pending := [⟨[1], false⟩, ⟨[2], true⟩, ⟨[3], false⟩]

theorem talkspurt_not_withheld_short :
    ∃ head last tail, shortTalkspurt.pending = head ++ last :: tail ∧ last.isLast = true ∧
      ∀ n ≤ head.length + 1, shortTalkspurt.PlaysFirst n := by
  have haudible : shortTalkspurt.Audible := ⟨{ gain := 1 }, by decide, by decide⟩
  obtain ⟨head, last, tail, hpending, hlast, -, hplays, -⟩ :=
    talkspurt_not_withheld haudible ⟨⟨[2], true⟩, by decide, rfl⟩
  exact ⟨head, last, tail, hpending, hlast, hplays⟩

end BufferedVoiceSource

end TaskForceRadio.Voice
