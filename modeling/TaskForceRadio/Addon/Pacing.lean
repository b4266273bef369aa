import TaskForceRadio.Addon.Positions
import Mathlib.Tactic.Linarith

/-!
# How long a player waits

Between two positions of one player lie at most two rounds of the near players, two of the far ones
and the rest between them. What has been promised to a player is a deadline; every call keeps it or
sends his position.
-/

set_option autoImplicit false

namespace TaskForceRadio.Addon

open Voice (Time milliseconds seconds)

/-- The calls that send so many players, one of them if there is nobody to send. -/
def callsFor (batch players : Nat) : Nat := max 1 ((players + (batch - 1)) / batch)

private theorem callsFor_pos (batch players : Nat) : 1 ≤ callsFor batch players := le_max_left _ _

private theorem callsFor_mono {batch few many : Nat} (h : few ≤ many) :
    callsFor batch few ≤ callsFor batch many :=
  max_le_max_left 1 (Nat.div_le_div_right (by omega))

private theorem place_lt_callsFor {batch place players : Nat} (hbatch : 0 < batch)
    (h : place < players) : place / batch + 1 ≤ callsFor batch players := by
  refine le_trans ?_ (le_max_right _ _)
  rw [← Nat.add_div_right _ hbatch]
  exact Nat.div_le_div_right (by omega)

private theorem callsFor_sub {batch players : Nat} (hbatch : 0 < batch) (h : batch < players) :
    callsFor batch (players - batch) + 1 = callsFor batch players := by
  have hquotient : (players + (batch - 1)) / batch =
      (players - batch + (batch - 1)) / batch + 1 := by
    rw [← Nat.add_div_right _ hbatch]
    congr 1
    omega
  have hrest : 1 ≤ (players - batch + (batch - 1)) / batch :=
    (Nat.one_le_div_iff hbatch).mpr (by omega)
  rw [callsFor, callsFor, hquotient, max_eq_right hrest, max_eq_right (by omega)]

/-- How often the function is called, and how many players there are. -/
structure Limits where
  pace : Time
  nearMax : Nat
  farMax : Nat

namespace Limits
variable (limits : Limits)

/-- The calls from one copy of the near players to the next. -/
def nearRound : Nat := callsFor nearBatch limits.nearMax + 1

/-- The calls that send a copy of the far players, with a round of the near ones for each. -/
def farRound : Nat := callsFor farBatch limits.farMax * limits.nearRound

def after (now : Time) (calls : Nat) : Time := now + calls * limits.pace

/-- The longest that a far player waits for the next copy. -/
def farWait (now : Time) (calls : Nat) : Time :=
  limits.after now (calls + limits.nearRound + limits.farRound + 1) + TFAR_FAR_PLAYER_UPDATE_TIME

/-- The longest that a player waits. -/
def patience : Time :=
  limits.farWait 0 (limits.nearRound + limits.farRound)

variable {limits}

private theorem after_mono (hpace : 0 ≤ limits.pace) (now : Time) {few many : Nat}
    (h : few ≤ many) :
    limits.after now few ≤ limits.after now many := by
  have hcast : (few : Int) ≤ many := by exact_mod_cast h
  exact Int.add_le_add_left (Int.mul_le_mul_of_nonneg_right hcast hpace) now

private theorem after_step (hpace : 0 ≤ limits.pace) {now next : Time}
    (hnext : next ≤ now + limits.pace)
    {calls fewer : Nat} (h : fewer + 1 ≤ calls) :
    limits.after next fewer ≤ limits.after now calls := by
  refine le_trans ?_ (after_mono hpace now h)
  simp only [after, Nat.cast_add, Nat.cast_one, add_mul, one_mul]
  linarith

private theorem farWait_step (hpace : 0 ≤ limits.pace) {now next : Time}
    (hnext : next ≤ now + limits.pace)
    {calls fewer : Nat} (h : fewer + 1 ≤ calls) :
    limits.farWait next fewer ≤ limits.farWait now calls :=
  Int.add_le_add_right (after_step hpace hnext (by omega)) _

private theorem after_le_farWait (hpace : 0 ≤ limits.pace) (now : Time) {few calls : Nat}
    (h : few ≤ calls + limits.nearRound + limits.farRound + 1) :
    limits.after now few ≤ limits.farWait now calls :=
  (after_mono hpace now h).trans (le_add_of_nonneg_right (by decide))

private theorem nearRound_le_farRound : limits.nearRound ≤ limits.farRound :=
  Nat.le_mul_of_pos_left _ (callsFor_pos _ _)

private theorem two_le_nearRound : 2 ≤ limits.nearRound := Nat.succ_le_succ (callsFor_pos _ _)

end Limits

namespace PlayerQueues

section Progress
variable {Player : Type} (q : PlayerQueues Player) (limits : Limits)

/-- The calls until the near players are copied again, with one that is cut short. -/
def callsToCopy : Nat :=
  if q.currentNearPlayersProcessed then 1
  else callsFor nearBatch q.currentNearPlayersProcessing.length + 1

/-- The calls until that many batches of far players have been sent, one in a round. -/
def callsToFar (batches : Nat) : Nat := q.callsToCopy + (batches - 1) * limits.nearRound

/-- The batches of far players that are still to be sent. -/
def farBatches : Nat := callsFor farBatch q.currentFarPlayersProcessing.length

/-- The lists are as long as the limits say, and the far players have not been processed after the
last call was over. -/
structure Within (last : Time) : Prop where
  nearWaiting : q.currentNearPlayersProcessing.length ≤ limits.nearMax
  near : q.currentNearPlayers.length ≤ limits.nearMax
  farWaiting : q.currentFarPlayersProcessing.length ≤ limits.farMax
  far : q.currentFarPlayers.length ≤ limits.farMax
  farTime : ∀ processed, q.lastFarPlayerProcessTime = some processed →
    processed ≤ last + limits.pace

/-- A promise that the player's position is sent until the deadline, by what becomes of him. -/
inductive Due (now : Time) (player : Player) (deadline : Time) : Prop
  | nearWaiting (place : Nat) (waits : q.currentNearPlayersProcessed = false)
      (here : q.currentNearPlayersProcessing[place]? = some player)
      (soon : limits.after now (place / nearBatch + 1) ≤ deadline)
  | farWaiting (place : Nat) (waits : q.currentFarPlayersProcessed = false)
      (here : q.currentFarPlayersProcessing[place]? = some player)
      (soon : limits.after now (q.callsToFar limits (place / farBatch + 1)) ≤ deadline)
  | nearNext (listed : player ∈ q.currentNearPlayers ∨ q.lastPlayerScanTime = 0)
      (soon : limits.farWait now (q.callsToCopy + limits.farRound) ≤ deadline)
  | farRunning (listed : player ∈ q.currentFarPlayers)
      (waits : q.currentFarPlayersProcessed = false)
      (soon : limits.farWait now (q.callsToFar limits q.farBatches) ≤ deadline)
  | farNext (listed : player ∈ q.currentFarPlayers)
      (done : q.currentFarPlayersProcessed = true)
      (soon : limits.after now (q.callsToCopy + limits.farRound) ≤ deadline)
      (rested : ∀ processed, q.lastFarPlayerProcessTime = some processed →
        limits.after processed (limits.nearRound + limits.farRound) +
          TFAR_FAR_PLAYER_UPDATE_TIME ≤ deadline)

/-- The last scan has found the player, or there has been none. -/
def Listed (player : Player) : Prop :=
  player ∈ q.currentNearPlayers ∨ player ∈ q.currentFarPlayers ∨ q.lastPlayerScanTime = 0

variable {q limits}

private theorem callsToCopy_pos : 1 ≤ q.callsToCopy := by
  unfold callsToCopy
  split <;> omega

private theorem Within.callsToCopy_le {last : Time} (h : q.Within limits last) :
    q.callsToCopy ≤ limits.nearRound := by
  unfold callsToCopy
  split
  · exact le_trans one_le_two Limits.two_le_nearRound
  · exact Nat.succ_le_succ (callsFor_mono h.nearWaiting)

private theorem callsToCopy_batch (hwaits : q.currentNearPlayersProcessed = false) :
    q.processNearPlayers.1.callsToCopy + 1 ≤ q.callsToCopy := by
  rw [processNearPlayers_fst, callsToCopy, callsToCopy, hwaits]
  simp only [Bool.false_eq_true, if_false, List.isEmpty_iff, List.length_drop]
  split
  · exact Nat.succ_le_succ (callsFor_pos _ _)
  · rename_i hmore
    have hlonger : nearBatch < q.currentNearPlayersProcessing.length := by
      by_contra hshort
      exact hmore (List.drop_eq_nil_of_le (not_lt.mp hshort))
    rw [← callsFor_sub (by decide) hlonger]

private theorem callsToFar_of_callsToCopy {q' : PlayerQueues Player}
    (h : q'.callsToCopy + 1 ≤ q.callsToCopy) (batches : Nat) :
    q'.callsToFar limits batches + 1 ≤ q.callsToFar limits batches := by
  unfold callsToFar
  omega

private theorem callsToFar_batch {q' : PlayerQueues Player} (h : q'.callsToCopy ≤ limits.nearRound)
    (batches : Nat) :
    q'.callsToFar limits (batches + 1) + 1 ≤ q.callsToFar limits (batches + 2) := by
  have hpos := q.callsToCopy_pos
  simp only [callsToFar, Nat.add_one_sub_one, Nat.succ_mul]
  omega

private theorem callsToFar_le {last : Time} (h : q.Within limits last) {batches : Nat}
    (hsome : 1 ≤ batches) (hbatches : batches ≤ callsFor farBatch limits.farMax) :
    q.callsToFar limits batches ≤ limits.farRound := by
  have hcopy := h.callsToCopy_le
  calc q.callsToFar limits batches
      ≤ limits.nearRound + (batches - 1) * limits.nearRound :=
        Nat.add_le_add_right hcopy _
    _ = batches * limits.nearRound := by
        rw [Nat.add_comm, ← Nat.succ_mul, Nat.succ_eq_add_one, Nat.sub_add_cancel hsome]
    _ ≤ limits.farRound := Nat.mul_le_mul_right _ hbatches

private theorem Due.weaken {now deadline later : Time} {player : Player}
    (h : q.Due limits now player deadline) (hlater : deadline ≤ later) :
    q.Due limits now player later := by
  cases h with
  | nearWaiting place waits here soon => exact .nearWaiting place waits here (soon.trans hlater)
  | farWaiting place waits here soon => exact .farWaiting place waits here (soon.trans hlater)
  | nearNext listed soon => exact .nearNext listed (soon.trans hlater)
  | farRunning listed waits soon => exact .farRunning listed waits (soon.trans hlater)
  | farNext listed done soon rested =>
    exact .farNext listed done (soon.trans hlater)
      (fun processed h => (rested processed h).trans hlater)

section Promises
variable {last : Time} {player : Player}

private theorem Due.of_nearCopy (h : q.Within limits last) (hpace : 0 ≤ limits.pace)
    (waits : q.currentNearPlayersProcessed = false)
    (hcopy : q.currentNearPlayersProcessing = q.currentNearPlayers)
    (listed : player ∈ q.currentNearPlayers) :
    q.Due limits last player (limits.after last limits.nearRound) := by
  obtain ⟨place, here⟩ := List.mem_iff_getElem?.mp listed
  have hplace : place < limits.nearMax :=
    lt_of_lt_of_le (List.getElem?_eq_some_iff.mp here).1 h.near
  refine .nearWaiting place waits (hcopy.symm ▸ here) (Limits.after_mono hpace last ?_)
  exact le_trans (place_lt_callsFor (by decide) hplace) (Nat.le_succ _)

private theorem Due.of_farCopy (h : q.Within limits last) (hpace : 0 ≤ limits.pace)
    (waits : q.currentFarPlayersProcessed = false)
    (hcopy : q.currentFarPlayersProcessing = q.currentFarPlayers)
    (listed : player ∈ q.currentFarPlayers) :
    q.Due limits last player (limits.after last limits.farRound) := by
  obtain ⟨place, here⟩ := List.mem_iff_getElem?.mp listed
  have hplace : place < limits.farMax :=
    lt_of_lt_of_le (List.getElem?_eq_some_iff.mp here).1 h.far
  refine .farWaiting place waits (hcopy.symm ▸ here) (Limits.after_mono hpace last ?_)
  exact callsToFar_le h (Nat.le_add_left 1 _) (place_lt_callsFor (by decide) hplace)

private theorem Due.of_farRest (h : q.Within limits last) (hpace : 0 ≤ limits.pace)
    (listed : player ∈ q.currentFarPlayers) (done : q.currentFarPlayersProcessed = true)
    (calls : Nat) : q.Due limits last player (limits.farWait last calls) := by
  have hcopy := h.callsToCopy_le
  refine .farNext listed done ?_ ?_
  · exact Limits.after_le_farWait hpace last (by omega)
  · intro processed hprocessed
    refine Int.add_le_add_right (Limits.after_step hpace (h.farTime processed hprocessed) ?_) _
    omega

private theorem Due.of_far (h : q.Within limits last) (hpace : 0 ≤ limits.pace)
    (listed : player ∈ q.currentFarPlayers) :
    q.Due limits last player (limits.farWait last limits.farRound) := by
  cases hwaits : q.currentFarPlayersProcessed with
  | true => exact .of_farRest h hpace listed hwaits _
  | false =>
    refine .farRunning listed hwaits ?_
    have hbatches : q.callsToFar limits q.farBatches ≤ limits.farRound :=
      callsToFar_le h (callsFor_pos _ _) (callsFor_mono h.farWaiting)
    exact Int.add_le_add_right (Limits.after_mono hpace last (by omega)) _

/-- A player who is listed anywhere is sent within the longest wait. -/
theorem Due.of_listed (h : q.Within limits last) (hpace : 0 ≤ limits.pace)
    (listed : q.Listed player) :
    q.Due limits last player (last + limits.patience) := by
  have hwait : limits.farWait last (limits.nearRound + limits.farRound) =
      last + limits.patience := by
    simp only [Limits.patience, Limits.farWait, Limits.after]
    rw [zero_add, add_assoc]
  have hnear : player ∈ q.currentNearPlayers ∨ q.lastPlayerScanTime = 0 →
      q.Due limits last player (last + limits.patience) := by
    intro hnear
    refine .nearNext hnear ?_
    have hcopy := h.callsToCopy_le
    rw [← hwait]
    exact Int.add_le_add_right (Limits.after_mono hpace last (by omega)) _
  rcases listed with hlisted | hlisted | hunscanned
  · exact hnear (Or.inl hlisted)
  · apply (Due.of_far h hpace hlisted).weaken
    rw [← hwait]
    exact Int.add_le_add_right (Limits.after_mono hpace last (by omega)) _
  · exact hnear (Or.inr hunscanned)

private theorem nearWaiting_next (waits : q.currentNearPlayersProcessed = false) {place : Nat}
    (here : q.currentNearPlayersProcessing[place]? = some player) (hlater : nearBatch ≤ place) :
    q.processNearPlayers.1.currentNearPlayersProcessed = false ∧
      q.processNearPlayers.1.currentNearPlayersProcessing[place - nearBatch]? = some player := by
  have hmoved : (q.currentNearPlayersProcessing.drop nearBatch)[place - nearBatch]? =
      some player := by
    rw [List.getElem?_drop, Nat.add_sub_cancel' hlater]
    exact here
  rw [processNearPlayers_fst, waits]
  refine ⟨?_, hmoved⟩
  have hsome := List.ne_nil_of_mem (List.mem_of_getElem? hmoved)
  simpa using hsome

private theorem place_step {batch place : Nat} (hbatch : 0 < batch) (hlater : batch ≤ place) :
    (place - batch) / batch + 1 = place / batch := (Nat.div_eq_sub_div hbatch hlater).symm

/-- A deadline is at least one call away. -/
theorem Due.next_call (hpace : 0 ≤ limits.pace) {deadline : Time}
    (h : q.Due limits last player deadline) :
    last + limits.pace ≤ deadline := by
  have hone : last + limits.pace = limits.after last 1 := by
    rw [Limits.after, Nat.cast_one, one_mul]
  have hpos := q.callsToCopy_pos
  rw [hone]
  cases h with
  | nearWaiting place waits here soon =>
    exact (Limits.after_mono hpace last (Nat.le_add_left 1 _)).trans soon
  | farWaiting place waits here soon =>
    exact (Limits.after_mono hpace last (hpos.trans (Nat.le_add_right _ _))).trans soon
  | nearNext listed soon => exact (Limits.after_le_farWait hpace last (by omega)).trans soon
  | farRunning listed waits soon => exact (Limits.after_le_farWait hpace last (by omega)).trans soon
  | farNext listed done soon rested =>
    exact (Limits.after_mono hpace last (by omega)).trans soon

end Promises

variable [DecidableEq Player]

/-- The call comes in time, and the game is within the limits. Without near players to send, a call
has nothing to block for. -/
structure Timely (q : PlayerQueues Player) (limits : Limits) (last : Time)
    (c : PositionCall Player) : Prop where
  active : c.clientState = 10
  inOrder : last ≤ c.startTime
  onPace : c.startTime ≤ last + limits.pace
  short : c.farTime ≤ c.startTime + limits.pace
  clock : c.startTime ≤ c.queueTime
  running : TFAR_PLAYER_RESCAN_TIME < c.rescanTime
  idle : q.currentNearPlayersProcessed = true → ¬ c.CutShort
  nearFits : c.near.length ≤ limits.nearMax
  farFits : c.far.length ≤ limits.farMax

private theorem timely_iff (q : PlayerQueues Player) (limits : Limits) (last : Time)
    (c : PositionCall Player) :
    q.Timely limits last c ↔
      (c.clientState = 10 ∧ last ≤ c.startTime ∧ c.startTime ≤ last + limits.pace ∧
        c.farTime ≤ c.startTime + limits.pace ∧ c.startTime ≤ c.queueTime) ∧
      TFAR_PLAYER_RESCAN_TIME < c.rescanTime ∧
      (q.currentNearPlayersProcessed = true → ¬ c.CutShort) ∧
      c.near.length ≤ limits.nearMax ∧ c.far.length ≤ limits.farMax :=
  ⟨fun ⟨h1, h2, h3, h4, h5, h6, h7, h8, h9⟩ => ⟨⟨h1, h2, h3, h4, h5⟩, h6, h7, h8, h9⟩,
    fun ⟨⟨h1, h2, h3, h4, h5⟩, h6, h7, h8, h9⟩ => ⟨h1, h2, h3, h4, h5, h6, h7, h8, h9⟩⟩

instance (q : PlayerQueues Player) (limits : Limits) (last : Time) (c : PositionCall Player) :
    Decidable (q.Timely limits last c) :=
  decidable_of_iff _ (timely_iff q limits last c).symm

/-- The player is one of the players. -/
def Seen (c : PositionCall Player) (player : Player) : Prop := player ∈ c.near ∨ player ∈ c.far

instance (c : PositionCall Player) (player : Player) : Decidable (Seen c player) :=
  inferInstanceAs (Decidable (_ ∨ _))

/-- The call sends the player's position. -/
def Sends (q : PlayerQueues Player) (c : PositionCall Player) (player : Player) : Prop :=
  ∃ near, player ∈ sent near (q.processPlayerPositions c).2

variable {c : PositionCall Player} {last : Time}

theorem Timely.pace_nonneg (h : q.Timely limits last c) : 0 ≤ limits.pace := by
  have horder := h.inOrder
  have hpace := h.onPace
  linarith

private theorem sends_near (hactive : c.clientState = 10)
    (hwaits : q.currentNearPlayersProcessed = false)
    {player : Player} {place : Nat} (here : q.currentNearPlayersProcessing[place]? = some player)
    (hfirst : place < nearBatch) : q.Sends c player := by
  refine ⟨true, ?_⟩
  rw [sent_processPlayerPositions hactive, sent_processNearPlayers, hwaits]
  refine List.mem_append_left _ (List.mem_of_getElem? (i := place) ?_)
  rw [if_pos (by decide), List.getElem?_take_of_lt hfirst]
  exact here

private theorem sends_far (hactive : c.clientState = 10) (hpass : ¬ c.CutShort)
    (hwaits : q.currentFarPlayersProcessed = false) {player : Player} {place : Nat}
    (here : q.currentFarPlayersProcessing[place]? = some player) (hfirst : place < farBatch) :
    q.Sends c player := by
  obtain ⟨-, hprocessed, hprocessing, -⟩ := processNearPlayers_frame (q := q)
  refine ⟨false, ?_⟩
  rw [sent_processPlayerPositions hactive, if_neg hpass, sent_processFarPlayers, hprocessed,
    hprocessing, hwaits]
  refine List.mem_append_right _ (List.mem_of_getElem? (i := place) ?_)
  rw [if_pos (by decide), List.getElem?_take_of_lt hfirst]
  exact here

theorem Within.cutShort (h : q.Within limits last) (ht : q.Timely limits last c)
    (hcut : c.CutShort) : (q.processPlayerPositions c).1.Within limits c.startTime := by
  obtain ⟨⟨hnear, hfar, -⟩, -, hprocessing, hlast⟩ := processNearPlayers_frame (q := q)
  rw [processPlayerPositions_cutShort ht.active hcut]
  refine ⟨?_, hnear ▸ h.near, hprocessing ▸ h.farWaiting, hfar ▸ h.far, ?_⟩
  · rw [processNearPlayers_fst]
    split
    · exact h.nearWaiting
    · exact le_trans (List.drop_sublist _ _).length_le h.nearWaiting
  · rw [hlast]
    intro processed hprocessed
    exact le_trans (h.farTime processed hprocessed) (Int.add_le_add_right ht.inOrder _)

theorem Within.passes (h : q.Within limits last) (ht : q.Timely limits last c)
    (hpass : ¬ c.CutShort) : (q.processPlayerPositions c).1.Within limits c.startTime := by
  have hlists : (q.processPlayerPositions c).1.currentNearPlayers.length ≤ limits.nearMax ∧
      (q.processPlayerPositions c).1.currentFarPlayers.length ≤ limits.farMax := by
    have hsame : q.SameScan (q.processPlayerPositions c).1 →
        (q.processPlayerPositions c).1.currentNearPlayers.length ≤ limits.nearMax ∧
          (q.processPlayerPositions c).1.currentFarPlayers.length ≤ limits.farMax :=
      fun hscan => ⟨hscan.1 ▸ h.near, hscan.2.1 ▸ h.far⟩
    rcases passes_near ht.active hpass with ⟨-, -, -, hscan⟩ | ⟨-, -, -, hscan⟩
    · exact hsame hscan
    · rcases hscan with ⟨hnear, hfar⟩ | ⟨-, hscan⟩
      · exact ⟨hnear ▸ ht.nearFits, hfar ▸ ht.farFits⟩
      · exact hsame hscan
  obtain ⟨hlast, hfar⟩ := passes_far (q := q) ht.active hpass
  refine ⟨?_, hlists.1, ?_, hlists.2, ?_⟩
  · rcases passes_near ht.active hpass with ⟨-, -, hprocessing, -⟩ | ⟨-, -, hprocessing, -⟩
    · rw [hprocessing, processNearPlayers_fst]
      split
      · exact h.nearWaiting
      · exact le_trans (List.drop_sublist _ _).length_le h.nearWaiting
    · exact hprocessing ▸ hlists.1
  · rcases hfar with ⟨-, hprocessing, -⟩ | ⟨-, -, hprocessing⟩
    · rw [hprocessing]
      rcases processFarPlayers_cases (q := q) c.farTime with ⟨-, -, hsame, -⟩ | ⟨-, -, hrest, -⟩
      · exact hsame ▸ h.farWaiting
      · exact hrest ▸ le_trans (List.drop_sublist _ _).length_le h.farWaiting
    · exact hprocessing ▸ hlists.2
  · intro processed hprocessed
    have hearlier : ∀ processed, q.lastFarPlayerProcessTime = some processed →
        processed ≤ c.startTime + limits.pace := fun processed hprocessed =>
      le_trans (h.farTime processed hprocessed) (Int.add_le_add_right ht.inOrder _)
    rw [hlast] at hprocessed
    rcases processFarPlayers_cases (q := q) c.farTime with
      ⟨-, -, -, hsame⟩ | ⟨-, -, -, hnew⟩
    · exact hearlier processed (hsame ▸ hprocessed)
    · rw [hnew] at hprocessed
      split at hprocessed
      · exact Option.some.inj hprocessed ▸ ht.short
      · exact hearlier processed hprocessed

theorem Within.step (h : q.Within limits last) (ht : q.Timely limits last c) :
    (q.processPlayerPositions c).1.Within limits c.startTime := by
  by_cases hcut : c.CutShort
  · exact h.cutShort ht hcut
  · exact h.passes ht hcut

section Keeping
variable {player : Player} {deadline : Time}

theorem Due.cutShort (ht : q.Timely limits last c) (hcut : c.CutShort)
    (h : q.Due limits last player deadline) :
    q.Sends c player ∨ (q.processPlayerPositions c).1.Due limits c.startTime player deadline := by
  have hpace := ht.pace_nonneg
  have waits : q.currentNearPlayersProcessed = false := by
    cases hprocessed : q.currentNearPlayersProcessed with
    | false => rfl
    | true => exact absurd hcut (ht.idle hprocessed)
  have hcloser := callsToCopy_batch waits
  obtain ⟨⟨hnear, hfar, hscan⟩, hprocessed, hprocessing, hlast⟩ :=
    processNearPlayers_frame (q := q)
  rw [processPlayerPositions_cutShort ht.active hcut]
  cases h with
  | nearWaiting place waits here soon =>
    by_cases hfirst : place < nearBatch
    · exact Or.inl (sends_near ht.active waits here hfirst)
    · obtain ⟨hwaits, hmoved⟩ := nearWaiting_next waits here (not_lt.mp hfirst)
      refine Or.inr (.nearWaiting _ hwaits hmoved (le_trans ?_ soon))
      apply Limits.after_step hpace ht.onPace
      rw [place_step (by decide) (not_lt.mp hfirst)]
  | farWaiting place waits here soon =>
    refine Or.inr (.farWaiting place (hprocessed.trans waits) (hprocessing.symm ▸ here) ?_)
    exact (Limits.after_step hpace ht.onPace (callsToFar_of_callsToCopy hcloser _)).trans soon
  | nearNext listed soon =>
    refine Or.inr (.nearNext (by rw [hnear, hscan]; exact listed) ?_)
    exact (Limits.farWait_step hpace ht.onPace (by omega)).trans soon
  | farRunning listed waits soon =>
    refine Or.inr (.farRunning (hfar.symm ▸ listed) (hprocessed.trans waits) ?_)
    have hbatches : q.processNearPlayers.1.farBatches = q.farBatches := by
      rw [farBatches, hprocessing, farBatches]
    rw [hbatches]
    exact (Limits.farWait_step hpace ht.onPace (callsToFar_of_callsToCopy hcloser _)).trans soon
  | farNext listed done soon rested =>
    refine Or.inr (.farNext (hfar.symm ▸ listed) (hprocessed.trans done) ?_ (hlast.symm ▸ rested))
    exact (Limits.after_step hpace ht.onPace (by omega)).trans soon

private theorem Timely.lists_far (ht : q.Timely limits last c) (hpass : ¬ c.CutShort)
    (hseen : Seen c player) (listed : player ∈ q.currentFarPlayers) :
    player ∈ (q.processPlayerPositions c).1.currentFarPlayers ∨
      (q.processPlayerPositions c).1.currentNearPlayersProcessed = false ∧
        (q.processPlayerPositions c).1.currentNearPlayersProcessing =
          (q.processPlayerPositions c).1.currentNearPlayers ∧
        player ∈ (q.processPlayerPositions c).1.currentNearPlayers := by
  rcases passes_near (q := q) ht.active hpass with
    ⟨-, -, -, hscan⟩ | ⟨-, hprocessed, hcopy, hscan⟩
  · exact Or.inl (hscan.2.1.symm ▸ listed)
  · rcases hscan with ⟨hnear, hfar⟩ | ⟨-, hscan⟩
    · rcases hseen with hseen | hseen
      · exact Or.inr ⟨hprocessed, hcopy, hnear.symm ▸ hseen⟩
      · exact Or.inl (hfar.symm ▸ hseen)
    · exact Or.inl (hscan.2.1.symm ▸ listed)

private theorem Due.passes_nearWaiting (ht : q.Timely limits last c) (hpass : ¬ c.CutShort)
    {place : Nat}
    (waits : q.currentNearPlayersProcessed = false)
    (here : q.currentNearPlayersProcessing[place]? = some player)
    (soon : limits.after last (place / nearBatch + 1) ≤ deadline) :
    q.Sends c player ∨ (q.processPlayerPositions c).1.Due limits c.startTime player deadline := by
  by_cases hfirst : place < nearBatch
  · exact Or.inl (sends_near ht.active waits here hfirst)
  · obtain ⟨hwaits, hmoved⟩ := nearWaiting_next waits here (not_lt.mp hfirst)
    rcases passes_near (q := q) ht.active hpass with
      ⟨-, hprocessed, hprocessing, -⟩ | ⟨hdone, -⟩
    · refine Or.inr (.nearWaiting _ hprocessed (hprocessing.symm ▸ hmoved) (le_trans ?_ soon))
      apply Limits.after_step ht.pace_nonneg ht.onPace
      rw [place_step (by decide) (not_lt.mp hfirst)]
    · rw [hwaits] at hdone
      exact absurd hdone Bool.false_ne_true

private theorem Due.passes_farWaiting (hw : q.Within limits last) (ht : q.Timely limits last c)
    (hpass : ¬ c.CutShort) {place : Nat} (waits : q.currentFarPlayersProcessed = false)
    (here : q.currentFarPlayersProcessing[place]? = some player)
    (soon : limits.after last (q.callsToFar limits (place / farBatch + 1)) ≤ deadline) :
    q.Sends c player ∨ (q.processPlayerPositions c).1.Due limits c.startTime player deadline := by
  by_cases hfirst : place < farBatch
  · exact Or.inl (sends_far ht.active hpass waits here hfirst)
  · have hlater := not_lt.mp hfirst
    have hmoved : (q.currentFarPlayersProcessing.drop farBatch)[place - farBatch]? =
        some player := by
      rw [List.getElem?_drop, Nat.add_sub_cancel' hlater]
      exact here
    have hsome := List.ne_nil_of_mem (List.mem_of_getElem? hmoved)
    rcases processFarPlayers_cases (q := q) c.farTime with
      ⟨hdone, -⟩ | ⟨-, hprocessed, hprocessing, -⟩
    · rw [waits] at hdone
      exact absurd hdone Bool.false_ne_true
    · have hwaits : (q.currentFarPlayersProcessing.drop farBatch).isEmpty = false := by
        simpa using hsome
      rw [hwaits] at hprocessed
      rcases (passes_far (q := q) ht.active hpass).2 with
        ⟨hprocessed', hprocessing', -⟩ | ⟨hdone, -⟩
      · refine Or.inr (.farWaiting (place - farBatch) (hprocessed'.trans hprocessed) ?_ ?_)
        · rw [hprocessing', hprocessing]
          exact hmoved
        · refine le_trans (Limits.after_step ht.pace_nonneg ht.onPace ?_) soon
          rw [← place_step (by decide) hlater]
          exact callsToFar_batch (hw.passes ht hpass).callsToCopy_le _
      · rw [hprocessed] at hdone
        exact absurd hdone Bool.false_ne_true

private theorem Due.passes_nearNext (hw : q.Within limits last) (ht : q.Timely limits last c)
    (hpass : ¬ c.CutShort) (hseen : Seen c player)
    (listed : player ∈ q.currentNearPlayers ∨ q.lastPlayerScanTime = 0)
    (soon : limits.farWait last (q.callsToCopy + limits.farRound) ≤ deadline) :
    (q.processPlayerPositions c).1.Due limits c.startTime player deadline := by
  have hpace := ht.pace_nonneg
  have hw' := hw.passes ht hpass
  have hpos := q.callsToCopy_pos
  rcases passes_near (q := q) ht.active hpass with
    ⟨hwaits, hprocessed, hprocessing, hscan⟩ | ⟨-, hprocessed, hcopy, hscan⟩
  · have hcloser : (q.processPlayerPositions c).1.callsToCopy + 1 ≤ q.callsToCopy := by
      cases hbefore : q.currentNearPlayersProcessed with
      | true =>
        rw [processNearPlayers_fst, if_pos hbefore, hbefore] at hwaits
        exact absurd hwaits.symm Bool.false_ne_true
      | false =>
        have hbatch := callsToCopy_batch hbefore
        rw [callsToCopy, hwaits] at hbatch
        rw [callsToCopy, hprocessed, hprocessing]
        exact hbatch
    refine .nearNext (by rw [hscan.1, hscan.2.2]; exact listed) ?_
    exact (Limits.farWait_step hpace ht.onPace (by omega)).trans soon
  · -- a copy: whoever is near is in it, and whoever has gone far waits with the far players
    have hnear : player ∈ (q.processPlayerPositions c).1.currentNearPlayers →
        (q.processPlayerPositions c).1.Due limits c.startTime player deadline := by
      intro hlisted
      refine (Due.of_nearCopy hw' hpace hprocessed hcopy hlisted).weaken (le_trans ?_ soon)
      apply (Limits.after_step hpace ht.onPace (le_refl (limits.nearRound + 1))).trans
      exact Limits.after_le_farWait hpace last (by omega)
    rcases hscan with ⟨hnew, hfar⟩ | ⟨hrecent, hscan⟩
    · rcases hseen with hseen | hseen
      · exact hnear (hnew.symm ▸ hseen)
      · refine (Due.of_far hw' hpace (hfar.symm ▸ hseen)).weaken (le_trans ?_ soon)
        exact Limits.farWait_step hpace ht.onPace (by omega)
    · rcases listed with hlisted | hunscanned
      · exact hnear (hscan.1.symm ▸ hlisted)
      · rw [hunscanned, sub_zero] at hrecent
        exact absurd ht.running (not_lt.mpr hrecent)

private theorem Due.passes_farRunning (hw : q.Within limits last) (ht : q.Timely limits last c)
    (hpass : ¬ c.CutShort) (waits : q.currentFarPlayersProcessed = false)
    (listed : player ∈ (q.processPlayerPositions c).1.currentFarPlayers)
    (soon : limits.farWait last (q.callsToFar limits q.farBatches) ≤ deadline) :
    (q.processPlayerPositions c).1.Due limits c.startTime player deadline := by
  have hpace := ht.pace_nonneg
  have hw' := hw.passes ht hpass
  rcases processFarPlayers_cases (q := q) c.farTime with
    ⟨hdone, -⟩ | ⟨-, hprocessed, hprocessing, -⟩
  · rw [waits] at hdone
    exact absurd hdone Bool.false_ne_true
  · rcases (passes_far (q := q) ht.active hpass).2 with
      ⟨hprocessed', hprocessing', -⟩ | ⟨-, hprocessed', hcopy⟩
    · cases hlast : (q.currentFarPlayersProcessing.drop farBatch).isEmpty with
      | true =>
        rw [hprocessed, hlast] at hprocessed'
        refine (Due.of_farRest hw' hpace listed hprocessed' 0).weaken (le_trans ?_ soon)
        have hpos := q.callsToCopy_pos
        exact Limits.farWait_step hpace ht.onPace (le_trans hpos (Nat.le_add_right _ _))
      | false =>
        rw [hprocessed, hlast] at hprocessed'
        refine .farRunning listed hprocessed' (le_trans ?_ soon)
        apply Limits.farWait_step hpace ht.onPace
        have hlonger : farBatch < q.currentFarPlayersProcessing.length := by
          by_contra hshort
          rw [List.drop_eq_nil_of_le (not_lt.mp hshort)] at hlast
          exact absurd hlast (by simp)
        have hfewer : (q.processPlayerPositions c).1.farBatches + 1 = q.farBatches := by
          rw [farBatches, hprocessing', hprocessing, List.length_drop, farBatches]
          exact callsFor_sub (by decide) hlonger
        obtain ⟨rest, hrest⟩ := Nat.exists_eq_add_of_le'
          (callsFor_pos farBatch (q.processPlayerPositions c).1.currentFarPlayersProcessing.length)
        rw [← hfewer, farBatches, hrest]
        exact callsToFar_batch hw'.callsToCopy_le rest
    · refine (Due.of_farCopy hw' hpace hprocessed' hcopy listed).weaken (le_trans ?_ soon)
      apply (Limits.after_step hpace ht.onPace (le_refl (limits.farRound + 1))).trans
      exact Limits.after_le_farWait hpace last (by omega)

private theorem Due.passes_farNext (hw : q.Within limits last) (ht : q.Timely limits last c)
    (hpass : ¬ c.CutShort) (done : q.currentFarPlayersProcessed = true)
    (listed : player ∈ (q.processPlayerPositions c).1.currentFarPlayers)
    (soon : limits.after last (q.callsToCopy + limits.farRound) ≤ deadline)
    (rested : ∀ processed, q.lastFarPlayerProcessTime = some processed →
      limits.after processed (limits.nearRound + limits.farRound) +
        TFAR_FAR_PLAYER_UPDATE_TIME ≤ deadline) :
    (q.processPlayerPositions c).1.Due limits c.startTime player deadline := by
  have hpace := ht.pace_nonneg
  have hw' := hw.passes ht hpass
  have hcopyCalls := hw'.callsToCopy_le
  have hpos := q.callsToCopy_pos
  rcases processFarPlayers_cases (q := q) c.farTime with
    ⟨-, hprocessed, -, hlast⟩ | ⟨hwaits, -⟩
  · obtain ⟨hlast', hcases⟩ := passes_far (q := q) ht.active hpass
    rcases hcases with ⟨hprocessed', -, hrests⟩ | ⟨-, hprocessed', hcopy⟩
    · refine .farNext listed (hprocessed'.trans hprocessed) ?_ (by rw [hlast', hlast]; exact rested)
      have hrest := hrests hprocessed
      simp only [RestsFarPlayers, hlast] at hrest
      -- the rest is not over, so the deadline is still a round and more away
      cases hbefore : q.lastFarPlayerProcessTime with
      | none =>
        rw [hbefore] at hrest
        exact hrest.elim
      | some processed =>
        rw [hbefore] at hrest
        refine le_trans ?_ (rested processed hbefore)
        refine (Limits.after_mono hpace c.startTime
          (Nat.add_le_add_right hcopyCalls limits.farRound)).trans ?_
        have hclock := ht.clock
        simp only [Limits.after]
        linarith
    · refine (Due.of_farCopy hw' hpace hprocessed' hcopy listed).weaken (le_trans ?_ soon)
      exact Limits.after_step hpace ht.onPace (by omega)
  · rw [done] at hwaits
    exact absurd hwaits.symm Bool.false_ne_true

/-- A call keeps what has been promised to a player, or sends his position. -/
theorem Due.step (hw : q.Within limits last) (ht : q.Timely limits last c) (hseen : Seen c player)
    (h : q.Due limits last player deadline) :
    q.Sends c player ∨ (q.processPlayerPositions c).1.Due limits c.startTime player deadline := by
  by_cases hcut : c.CutShort
  · exact h.cutShort ht hcut
  · have hpace := ht.pace_nonneg
    have hw' := hw.passes ht hcut
    have hpos := q.callsToCopy_pos
    -- a far player who has come near is in the copy of the near players
    have hcome : limits.after last (limits.nearRound + 1) ≤ deadline →
        (q.processPlayerPositions c).1.currentNearPlayersProcessed = false ∧
          (q.processPlayerPositions c).1.currentNearPlayersProcessing =
            (q.processPlayerPositions c).1.currentNearPlayers ∧
          player ∈ (q.processPlayerPositions c).1.currentNearPlayers →
        (q.processPlayerPositions c).1.Due limits c.startTime player deadline := by
      rintro hsoon ⟨hwaits, hcopy, hlisted⟩
      refine (Due.of_nearCopy hw' hpace hwaits hcopy hlisted).weaken (le_trans ?_ hsoon)
      exact Limits.after_step hpace ht.onPace le_rfl
    cases h with
    | nearWaiting place waits here soon => exact Due.passes_nearWaiting ht hcut waits here soon
    | farWaiting place waits here soon => exact Due.passes_farWaiting hw ht hcut waits here soon
    | nearNext listed soon => exact Or.inr (Due.passes_nearNext hw ht hcut hseen listed soon)
    | farRunning listed waits soon =>
      rcases ht.lists_far hcut hseen listed with hlisted | hnear
      · exact Or.inr (Due.passes_farRunning hw ht hcut waits hlisted soon)
      · refine Or.inr (hcome (le_trans ?_ soon) hnear)
        exact Limits.after_le_farWait hpace last (by omega)
    | farNext listed done soon rested =>
      rcases ht.lists_far hcut hseen listed with hlisted | hnear
      · exact Or.inr (Due.passes_farNext hw ht hcut done hlisted soon rested)
      · refine Or.inr (hcome (le_trans ?_ soon) hnear)
        have hround : limits.nearRound ≤ limits.farRound := Limits.nearRound_le_farRound
        exact Limits.after_mono hpace last (by omega)

/-- Whoever is listed stays listed. -/
theorem Timely.listed (ht : q.Timely limits last c) (hseen : Seen c player)
    (h : q.Listed player) : (q.processPlayerPositions c).1.Listed player := by
  have hsame : q.SameScan (q.processPlayerPositions c).1 →
      (q.processPlayerPositions c).1.Listed player := by
    rintro ⟨hnear, hfar, hscan⟩
    rw [Listed, hnear, hfar, hscan]
    exact h
  by_cases hcut : c.CutShort
  · apply hsame
    rw [processPlayerPositions_cutShort ht.active hcut]
    exact processNearPlayers_frame.1
  · rcases passes_near (q := q) ht.active hcut with ⟨-, -, -, hscan⟩ | ⟨-, -, -, hscan⟩
    · exact hsame hscan
    · rcases hscan with ⟨hnear, hfar⟩ | ⟨-, hscan⟩
      · rw [Listed, hnear, hfar]
        rcases hseen with hseen | hseen
        · exact Or.inl hseen
        · exact Or.inr (Or.inl hseen)
      · exact hsame hscan

end Keeping

end Progress

end PlayerQueues

end TaskForceRadio.Addon
