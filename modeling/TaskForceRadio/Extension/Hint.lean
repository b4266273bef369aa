import Mathlib.Tactic.Linarith
import TaskForceRadio.Extension.Command
import TaskForceRadio.Foundation.Execution

/-!
# The hint about a lost connection

A POS is answered with the hint once the connection has been down for ten seconds, as far as the
POS commands have seen. The connection goes up and down between them.
-/

set_option autoImplicit false

namespace TaskForceRadio.Extension

open Voice (Time milliseconds seconds)

/-- The connection comes up or goes down, or SQF calls. -/
inductive LinkEvent where
  | link (time : Time) (up : Bool)
  | call (time : Time) (opusVersion input : Bytes)

namespace LinkEvent

def time : LinkEvent → Time
  | .link time _ => time
  | .call time _ _ => time

/-- The relay accepts the client, or the socket is given up. -/
def setConnected (g : Globals) (up : Bool) : Globals :=
  { g with voice := { g.voice with network := { g.voice.network with connected := up } } }

def step (g : Globals) : LinkEvent → Globals
  | .link _ up => setConnected g up
  | .call time opusVersion input => (g.process time opusVersion input).1

def after (history : List LinkEvent) : Globals := runHistory step {} history

/-- The steady clock has started and does not go back. -/
def Clocked : List LinkEvent → Prop
  | [] => True
  | e :: earlier => Clocked earlier ∧ 0 < e.time ∧ ∀ e' ∈ earlier, e'.time ≤ e.time

/-- Whether the connection was up at a time that is over. -/
def linkAt (time : Time) : List LinkEvent → Bool
  | [] => false
  | .link at' up :: earlier => if at' ≤ time then up else linkAt time earlier
  | .call _ _ _ :: earlier => linkAt time earlier

/-- Whether the connection is up after the history. -/
def linkNow : List LinkEvent → Bool
  | [] => false
  | .link _ up :: _ => up
  | .call _ _ _ :: earlier => linkNow earlier

def IsPos (input : Bytes) : Prop :=
  input.getLast? = some tilde ∧ firstToken input.dropLast = ascii "POS"

instance (input : Bytes) : Decidable (IsPos input) := by
  unfold IsPos
  infer_instance

/-- When the POS commands came, newest first, and whether they found the connection up. -/
def sightings : List LinkEvent → List (Time × Bool)
  | [] => []
  | .link _ _ :: earlier => sightings earlier
  | .call time _ input :: earlier =>
      if IsPos input then (time, linkNow earlier) :: sightings earlier else sightings earlier

/-- A statement about every POS of a run and the history before it. -/
def EveryPos (P : List LinkEvent → Time → Bytes → Bytes → Prop) : List LinkEvent → Prop
  | [] => True
  | .link _ _ :: earlier => EveryPos P earlier
  | .call time opusVersion input :: earlier =>
      EveryPos P earlier ∧ (IsPos input → P earlier time opusVersion input)

/-- The hint is given only if the connection was down for the last ten seconds. -/
def Honest (earlier : List LinkEvent) (time : Time) (opusVersion input : Bytes) : Prop :=
  ((after earlier).process time opusVersion input).2 = kNotConnected →
    ∀ t, time - kNotConnectedGrace ≤ t → t ≤ time → linkAt t earlier = false

/-- A POS of the last ten seconds found the connection up, or the last one before them did, if
there is one at all. -/
def SeenUp (earlier : List LinkEvent) (time : Time) : Prop :=
  linkNow earlier = true ∨
    (∃ s ∈ sightings earlier, time - kNotConnectedGrace < s.1 ∧ s.2 = true) ∨
    ∀ s, (sightings earlier).find? (fun s => s.1 ≤ time - kNotConnectedGrace) = some s →
      s.2 = true

/-- A connection of the last ten seconds did not go unnoticed. -/
def Observed (earlier : List LinkEvent) (time : Time) (_opusVersion _input : Bytes) : Prop :=
  (∃ t, time - kNotConnectedGrace ≤ t ∧ t ≤ time ∧ linkAt t earlier = true) → SeenUp earlier time

/-- When the first of the last POS commands that found the connection down came. -/
def outageSince : List (Time × Bool) → Time
  | [] => 0
  | (time, up) :: older =>
      if up then 0 else if outageSince older = 0 then time else outageSince older

private theorem process_connected (g : Globals) (time : Time) (opusVersion input : Bytes) :
    (g.process time opusVersion input).1.voice.network.connected = g.voice.network.connected := by
  obtain ⟨since, requestedAt, heq⟩ := Globals.process_eq g time opusVersion input
  rw [heq]
  cases inputCommand input with
  | none => rfl
  | some c => cases c <;> rfl

private theorem disconnectedSince_processAsync (g : Globals) (time : Time)
    (command payload : Bytes) :
    (g.processAsync time command payload).disconnectedSince = g.disconnectedSince := by
  rw [Globals.processAsync_eq]
  rfl

private theorem connected_processAsync (g : Globals) (time : Time) (command payload : Bytes) :
    (g.processAsync time command payload).voice.network.connected =
      g.voice.network.connected := by
  rw [Globals.processAsync_eq]
  cases parseCommand command payload <;> rfl

private theorem disconnectedSince_process {input : Bytes} (h : ¬ IsPos input) (g : Globals)
    (time : Time)
    (opusVersion : Bytes) :
    (g.process time opusVersion input).1.disconnectedSince = g.disconnectedSince := by
  rw [Globals.process]
  split
  · rfl
  · split
    · rfl
    · rename_i hasync
      have hpos : firstToken input.dropLast ≠ ascii "POS" :=
        fun hcommand => h ⟨not_not.mp hasync, hcommand⟩
      dsimp only
      split
      · exact disconnectedSince_processAsync _ _ _ _
      · split
        · exact disconnectedSince_processAsync _ _ _ _
        · exact disconnectedSince_processAsync _ _ _ _

private theorem process_pos {input : Bytes} (h : IsPos input) (g : Globals) (time : Time)
    (opusVersion : Bytes) :
    g.process time opusVersion input =
      (g.processAsync time (ascii "POS") input.dropLast).answerPos time := by
  obtain ⟨hlast, hcommand⟩ := h
  have hsome : input ≠ [] := by
    rintro rfl
    cases hlast
  rw [Globals.process, if_neg hsome, if_neg (not_not.mpr hlast)]
  dsimp only
  rw [hcommand, if_neg (by decide), if_neg (by decide), if_pos rfl]

/-- The stored time and the connection, after every history. -/
structure Tracked (history : List LinkEvent) (g : Globals) : Prop where
  since : g.disconnectedSince = outageSince (sightings history)
  connected : g.voice.network.connected = linkNow history

private theorem disconnectedSince_answerPos (g : Globals) (time : Time) :
    (g.answerPos time).1.disconnectedSince =
      if g.voice.network.connected then 0
      else if g.disconnectedSince = 0 then time else g.disconnectedSince := by
  simp only [Globals.answerPos]
  split
  · rfl
  · split
    · rfl
    · split <;> rfl

private theorem tracked_after (history : List LinkEvent) : Tracked history (after history) := by
  induction history with
  | nil => exact ⟨rfl, rfl⟩
  | cons e earlier ih =>
    cases e with
    | link time up => exact ⟨ih.since, rfl⟩
    | call time opusVersion input =>
      refine ⟨?_, (process_connected _ _ _ _).trans ih.connected⟩
      show ((after earlier).process time opusVersion input).1.disconnectedSince = _
      rw [sightings]
      by_cases hpos : IsPos input
      · rw [if_pos hpos, process_pos hpos, disconnectedSince_answerPos, connected_processAsync,
          disconnectedSince_processAsync, ih.connected, ih.since, outageSince]
      · rw [if_neg hpos, disconnectedSince_process hpos]
        exact ih.since

/-- Newest first, after the clock has started. -/
def Ordered : List (Time × Bool) → Prop
  | [] => True
  | s :: older => Ordered older ∧ 0 < s.1 ∧ ∀ s' ∈ older, s'.1 ≤ s.1

private theorem mem_sightings {history : List LinkEvent} {s : Time × Bool}
    (h : s ∈ sightings history) :
    ∃ e ∈ history, e.time = s.1 := by
  induction history with
  | nil => cases h
  | cons e earlier ih =>
    have hearlier : s ∈ sightings earlier → ∃ e' ∈ e :: earlier, e'.time = s.1 := by
      intro hmem
      obtain ⟨e', he', htime⟩ := ih hmem
      exact ⟨e', List.mem_cons_of_mem _ he', htime⟩
    cases e with
    | link time up => exact hearlier h
    | call time opusVersion input =>
      rw [sightings] at h
      split at h
      · rcases List.mem_cons.mp h with rfl | hmem
        · exact ⟨_, List.mem_cons_self, rfl⟩
        · exact hearlier hmem
      · exact hearlier h

private theorem ordered_sightings {history : List LinkEvent} (h : Clocked history) :
    Ordered (sightings history) := by
  induction history with
  | nil => trivial
  | cons e earlier ih =>
    cases e with
    | link time up => exact ih h.1
    | call time opusVersion input =>
      rw [sightings]
      split
      · refine ⟨ih h.1, h.2.1, ?_⟩
        intro s hs
        obtain ⟨e', he', htime⟩ := mem_sightings hs
        rw [← htime]
        exact h.2.2 e' he'
      · exact ih h.1

private theorem outageSince_nonneg {seen : List (Time × Bool)} (h : Ordered seen) :
    0 ≤ outageSince seen := by
  induction seen with
  | nil => exact Int.le_refl 0
  | cons s older ih =>
    obtain ⟨holder, hpos, _⟩ := h
    rw [outageSince]
    split
    · exact Int.le_refl 0
    · split
      · exact Int.le_of_lt hpos
      · exact ih holder

private theorem outageSince_le {seen : List (Time × Bool)} {limit : Time}
    (h : ∀ s ∈ seen, s.1 ≤ limit) (hlimit : 0 ≤ limit) : outageSince seen ≤ limit := by
  induction seen with
  | nil => exact hlimit
  | cons s older ih =>
    rw [outageSince]
    split
    · exact hlimit
    · split
      · exact h s List.mem_cons_self
      · exact ih (fun s' hs' => h s' (List.mem_cons_of_mem _ hs'))

private theorem outageSince_le_iff {seen : List (Time × Bool)} (h : Ordered seen) (limit : Time) :
    outageSince seen ≠ 0 ∧ outageSince seen ≤ limit ↔
      (∀ s ∈ seen, limit < s.1 → s.2 = false) ∧
        ∃ s, seen.find? (fun s => s.1 ≤ limit) = some s ∧ s.2 = false := by
  induction seen with
  | nil => simp [outageSince]
  | cons s older ih =>
    obtain ⟨time, up⟩ := s
    obtain ⟨holder, hpos, hnewest⟩ := h
    have hih := ih holder
    have hnonneg := outageSince_nonneg holder
    have hle := outageSince_le hnewest (Int.le_of_lt hpos)
    by_cases htime : time ≤ limit
    · -- everything is older than the limit, so the newest sighting decides
      have hfind : ((time, up) :: older).find? (fun s => s.1 ≤ limit) = some (time, up) :=
        List.find?_cons_of_pos (decide_eq_true htime)
      rw [hfind]
      cases up with
      | true => simp [outageSince]
      | false =>
        have hstored : outageSince ((time, false) :: older) ≠ 0 ∧
            outageSince ((time, false) :: older) ≤ limit := by
          simp only [outageSince, Bool.false_eq_true, if_false]
          split
          · exact ⟨ne_of_gt hpos, htime⟩
          · rename_i hsome
            exact ⟨hsome, hle.trans htime⟩
        refine iff_of_true hstored ⟨?_, _, rfl, rfl⟩
        intro s hs hlater
        have hs' : s.1 ≤ time := by
          rcases List.mem_cons.mp hs with rfl | hs
          · exact Int.le_refl _
          · exact hnewest s hs
        exact absurd (lt_of_lt_of_le hlater (hs'.trans htime)) (lt_irrefl _)
    · have hfind : ((time, up) :: older).find? (fun s => s.1 ≤ limit) =
          older.find? (fun s => s.1 ≤ limit) := by
        apply List.find?_cons_of_neg
        simpa using htime
      rw [hfind, List.forall_mem_cons]
      cases up with
      | true => simp [outageSince, not_le.mp htime]
      | false =>
        simp only [outageSince, Bool.false_eq_true, if_false, implies_true, true_and]
        rw [← hih]
        split
        · rename_i hnone
          simp [hnone, htime]
        · rfl

private theorem reported_iff {earlier : List LinkEvent} (h : Clocked earlier) (time : Time)
    (opusVersion : Bytes) {input : Bytes} (hpos : IsPos input) :
    ((after earlier).process time opusVersion input).2 = kNotConnected ↔
      ¬ SeenUp earlier time := by
  obtain ⟨hsince, hconnected⟩ := tracked_after earlier
  have hok : ascii "OK" ≠ kNotConnected := by decide
  have hstored := outageSince_le_iff (ordered_sightings h) (time - kNotConnectedGrace)
  have hseen : SeenUp earlier time ↔ linkNow earlier = true ∨
      ¬ (outageSince (sightings earlier) ≠ 0 ∧
        outageSince (sightings earlier) ≤ time - kNotConnectedGrace) := by
    rw [hstored, SeenUp, not_and_or]
    apply or_congr Iff.rfl
    apply or_congr
    · simp only [not_forall, exists_prop, Bool.not_eq_false]
    · simp only [not_exists, not_and, Bool.not_eq_false]
  rw [process_pos hpos, hseen]
  simp only [Globals.answerPos, connected_processAsync, disconnectedSince_processAsync, hsince,
    hconnected]
  generalize outageSince (sightings earlier) = since
  split
  · rename_i hup
    exact iff_of_false hok (not_not.mpr (Or.inl hup))
  · rename_i hdown
    split
    · rename_i hnone
      exact iff_of_false hok (not_not.mpr (Or.inr (fun h => h.1 hnone)))
    · rename_i hsome
      split
      · rename_i hlong
        apply iff_of_true rfl
        rintro (hup | hshort)
        · exact hdown hup
        · exact hshort ⟨hsome, by linarith⟩
      · rename_i hshort
        refine iff_of_false hok (not_not.mpr (Or.inr ?_))
        rintro ⟨_, hlong⟩
        exact hshort (by linarith)

private theorem honest_iff_observed {earlier : List LinkEvent} (h : Clocked earlier) (time : Time)
    (opusVersion : Bytes) {input : Bytes} (hpos : IsPos input) :
    Honest earlier time opusVersion input ↔ Observed earlier time opusVersion input := by
  rw [Honest, Observed, reported_iff h time opusVersion hpos]
  constructor
  · rintro hhonest ⟨t, hafter, hbefore, hup⟩
    by_contra hunseen
    rw [hhonest hunseen t hafter hbefore] at hup
    cases hup
  · intro hobserved hunseen t hafter hbefore
    cases hup : linkAt t earlier with
    | false => rfl
    | true => exact absurd (hobserved ⟨t, hafter, hbefore, hup⟩) hunseen

/-- The hint is honest exactly as long as no connection of the last ten seconds slips between two
POS commands. -/
theorem hint_honest_iff {history : List LinkEvent} (h : Clocked history) :
    EveryPos Honest history ↔ EveryPos Observed history := by
  induction history with
  | nil => exact Iff.rfl
  | cons e earlier ih =>
    cases e with
    | link time up => exact ih h.1
    | call time opusVersion input =>
      apply and_congr (ih h.1)
      exact forall_congr' (fun hpos => honest_iff_observed h.1 time opusVersion hpos)

def posCall : Bytes := ascii "POS\tAnn~"

/-- A connection of five seconds that a POS sees. -/
theorem seen_recovery_honest :
    let history : List LinkEvent :=
      [.call (seconds 9) [] posCall, .link (seconds 8) false, .call (seconds 6) [] posCall,
        .link (seconds 3) true, .call (seconds 1) [] posCall]
    EveryPos Honest history ↔ EveryPos Observed history := by
  intro history
  have hclock : Clocked history := by
    simp only [history, Clocked]
    decide
  exact hint_honest_iff hclock

/-- Between two missions no POS comes. The connection was there for most of that time, and the
first POS of the second mission reports an outage of a tenth of a second. -/
theorem unseen_recovery_reported :
    ¬ ∀ history : List LinkEvent, Clocked history → EveryPos Honest history := by
  intro hclaim
  let history : List LinkEvent :=
    [.call (seconds 20) [] posCall, .link (milliseconds 19900) false, .link (seconds 2) true,
      .call (seconds 1) [] posCall]
  have hclock : Clocked history := by
    simp only [history, Clocked]
    decide
  have hpos : IsPos posCall := by decide
  have hhonest := (hclaim history hclock).2 hpos
  have hreported : ((after history.tail).process (seconds 20) [] posCall).2 = kNotConnected := by
    decide
  have hdown := hhonest hreported (seconds 12) (by decide) (by decide)
  exact absurd hdown (by decide)

end LinkEvent

end TaskForceRadio.Extension
