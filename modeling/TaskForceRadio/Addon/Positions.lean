import TaskForceRadio.Addon.ExternalIntercom
import TaskForceRadio.Client.VoiceNetworkClient
import TaskForceRadio.Foundation.Execution

/-!
# The positions of the players

`TFAR_fnc_processPlayerPositions` sends the positions of all players a few at a time: it works off
a copy of the near players and a copy of the far ones, and takes a new copy when one is used up.
The players themselves, and what is sent of them, stay abstract here.
-/

set_option autoImplicit false

namespace TaskForceRadio.Addon

open Voice (Time milliseconds seconds)

def TFAR_PLAYER_RESCAN_TIME : Time := seconds 1
def TFAR_FAR_PLAYER_UPDATE_TIME : Time := milliseconds 3500

/-- How long one call may block before it leaves the rest to the next. -/
def blockedTooLong : Time := milliseconds 5

/-- The near players of one call. -/
def nearBatch : Nat := 30

/-- The far players of one call. -/
def farBatch : Nat := 50

/-- What goes to the extension. -/
inductive PositionMessage (Player : Type) where
  | sendPlayerInfo (player : Player) (near : Bool)
  | isSpeakingBulk (players : List Player)
  | sendSpeakerRadios
  | nextDataFrame
  deriving DecidableEq, Repr

/-- What `TFAR_fnc_getNearPlayers` sees around the current unit. -/
structure Surroundings (Player : Type) where
  currentUnit : Player
  unitsInPlayerGroup : List Player
  nearMen : List Player
  nearCrews : List (List Player)
  isPlayer : Player → Bool
  alive : Player → Bool
  forceSpectator : Player → Bool

/-- What one call reads: the clock, each time it looks at it, and the players. -/
structure PositionCall (Player : Type) where
  clientState : Nat
  startTime : Time
  checkTime : Time
  farTime : Time
  rescanTime : Time
  scanTime : Time
  queueTime : Time
  surroundings : Surroundings Player
  curators : List Player
  allPlayers : List Player

/-- The `TFAR_` variables of the function. -/
structure PlayerQueues (Player : Type) where
  currentNearPlayers : List Player := []
  currentFarPlayers : List Player := []
  currentNearPlayersProcessing : List Player := []
  currentFarPlayersProcessing : List Player := []
  currentNearPlayersProcessed : Bool := true
  currentFarPlayersProcessed : Bool := true
  lastPlayerScanTime : Time := 0
  lastFarPlayerProcessTime : Option Time := none
  deriving DecidableEq, Repr

section Scan
variable {Player : Type} [DecidableEq Player]

/-- `pushBackUnique` -/
def pushBackUnique (players : List Player) (player : Player) : List Player :=
  if player ∈ players then players else players ++ [player]

def getNearPlayers (s : Surroundings Player) : List Player :=
  if !s.alive s.currentUnit && !s.forceSpectator s.currentUnit then []
  else
    let allUnits :=
      if s.unitsInPlayerGroup.length < 10 then
        s.nearMen ++ s.unitsInPlayerGroup.filter (fun unit => unit ∉ s.nearMen)
      else s.nearMen
    let allUnits := pushBackUnique allUnits s.currentUnit ++ s.nearCrews.flatten
    allUnits.filter (fun unit => (s.isPlayer unit && s.alive unit) || s.forceSpectator unit)

namespace PositionCall

/-- The near players and the curators, without duplicates. -/
def near (c : PositionCall Player) : List Player :=
  arrayIntersectSelf (getNearPlayers c.surroundings ++ c.curators)

def far (c : PositionCall Player) : List Player :=
  (c.allPlayers.filter (fun player => player ∉ c.near)).filter c.surroundings.isPlayer

/-- The call has blocked too long to go on after the near players. -/
def CutShort (c : PositionCall Player) : Prop := blockedTooLong < c.checkTime - c.startTime

instance (c : PositionCall Player) : Decidable c.CutShort := inferInstanceAs (Decidable (_ < _))

end PositionCall

end Scan

/-- The players whose positions are among the messages, as near or as far ones. -/
def sent {Player : Type} (near : Bool) (messages : List (PositionMessage Player)) : List Player :=
  messages.filterMap fun message =>
    match message with
    | .sendPlayerInfo player asNear => if asNear = near then some player else none
    | _ => none

private theorem sent_append {Player : Type} (near : Bool)
    (first later : List (PositionMessage Player)) :
    sent near (first ++ later) = sent near first ++ sent near later :=
  List.filterMap_append

private theorem sent_players {Player : Type} (near asNear : Bool) (players : List Player) :
    sent near (players.map (PositionMessage.sendPlayerInfo · asNear)) =
      if asNear = near then players else [] := by
  induction players with
  | nil => exact (ite_self []).symm
  | cons player players ih =>
    rw [List.map_cons, sent, List.filterMap_cons, ← sent, ih]
    by_cases h : asNear = near
    · simp only [if_pos h]
    · simp only [if_neg h]

namespace PlayerQueues

variable {Player : Type} (q : PlayerQueues Player)

def processNearPlayers : PlayerQueues Player × List (PositionMessage Player) :=
  if q.currentNearPlayersProcessed then (q, [])
  else if q.currentNearPlayersProcessing.length = 0 then
    ({ q with currentNearPlayersProcessed := true }, [])
  else
    let playersToProcess := q.currentNearPlayersProcessing.take nearBatch
    let remaining := q.currentNearPlayersProcessing.drop nearBatch
    ({ q with
        currentNearPlayersProcessing := remaining
        currentNearPlayersProcessed := remaining.isEmpty },
      playersToProcess.map (PositionMessage.sendPlayerInfo · true) ++
        [.isSpeakingBulk playersToProcess])

def processFarPlayers (farTime : Time) : PlayerQueues Player × List (PositionMessage Player) :=
  if q.currentFarPlayersProcessed then (q, [])
  else if q.currentFarPlayersProcessing.length = 0 then
    ({ q with lastFarPlayerProcessTime := some farTime, currentFarPlayersProcessed := true }, [])
  else
    let playersToProcess := q.currentFarPlayersProcessing.take farBatch
    let remaining := q.currentFarPlayersProcessing.drop farBatch
    ({ q with
        currentFarPlayersProcessing := remaining
        lastFarPlayerProcessTime :=
          if remaining.isEmpty then some farTime else q.lastFarPlayerProcessTime
        currentFarPlayersProcessed := remaining.isEmpty },
      playersToProcess.map (PositionMessage.sendPlayerInfo · false))

def rescanPlayers [DecidableEq Player] (c : PositionCall Player) : PlayerQueues Player :=
  if q.currentNearPlayersProcessed && decide (TFAR_PLAYER_RESCAN_TIME <
      c.rescanTime - q.lastPlayerScanTime) then
    { q with
      currentNearPlayers := c.near
      currentFarPlayers := c.far
      lastPlayerScanTime := c.scanTime }
  else q

def queueNearPlayers : PlayerQueues Player × List (PositionMessage Player) :=
  if q.currentNearPlayersProcessed then
    ({ q with
        currentNearPlayersProcessing := q.currentNearPlayers
        currentNearPlayersProcessed := false },
      [.sendSpeakerRadios])
  else (q, [])

/-- The far players were processed a moment ago. Before they have been for the first time the
variable is undefined, and so is the comparison. -/
def RestsFarPlayers (queueTime : Time) : Prop :=
  match q.lastFarPlayerProcessTime with
  | none => False
  | some last => queueTime - last < TFAR_FAR_PLAYER_UPDATE_TIME

instance (queueTime : Time) : Decidable (q.RestsFarPlayers queueTime) := by
  unfold RestsFarPlayers
  cases q.lastFarPlayerProcessTime <;> infer_instance

def queueFarPlayers : PlayerQueues Player × List (PositionMessage Player) :=
  if q.currentFarPlayersProcessed then
    ({ q with
        currentFarPlayersProcessing := q.currentFarPlayers
        currentFarPlayersProcessed := false },
      [.nextDataFrame])
  else (q, [])

/-- From the second cut-off on. -/
def queuePlayers (queueTime : Time) (forceSpectator : Bool) :
    PlayerQueues Player × List (PositionMessage Player) :=
  let (q, radios) := q.queueNearPlayers
  if q.RestsFarPlayers queueTime ∧ forceSpectator = false then (q, radios)
  else
    let (q, frame) := q.queueFarPlayers
    (q, radios ++ frame)

def processPlayerPositions [DecidableEq Player] (c : PositionCall Player) :
    PlayerQueues Player × List (PositionMessage Player) :=
  if c.clientState ≠ 10 then (q, [])
  else
    let (q, near) := q.processNearPlayers
    if c.CutShort then (q, near)
    else
      let (q, far) := q.processFarPlayers c.farTime
      let (q, queued) := (q.rescanPlayers c).queuePlayers c.queueTime
        (c.surroundings.forceSpectator c.surroundings.currentUnit)
      (q, near ++ far ++ queued)

section Calls
variable {q}

theorem processNearPlayers_fst :
    q.processNearPlayers.1 =
      if q.currentNearPlayersProcessed then q
      else
        { q with
          currentNearPlayersProcessing := q.currentNearPlayersProcessing.drop nearBatch
          currentNearPlayersProcessed :=
            (q.currentNearPlayersProcessing.drop nearBatch).isEmpty } := by
  unfold processNearPlayers
  split
  · rfl
  · split
    · rename_i hempty
      rw [List.eq_nil_of_length_eq_zero hempty]
      rfl
    · rfl

private theorem processFarPlayers_fst (farTime : Time) :
    (q.processFarPlayers farTime).1 =
      if q.currentFarPlayersProcessed then q
      else
        { q with
          currentFarPlayersProcessing := q.currentFarPlayersProcessing.drop farBatch
          lastFarPlayerProcessTime :=
            if (q.currentFarPlayersProcessing.drop farBatch).isEmpty then some farTime
            else q.lastFarPlayerProcessTime
          currentFarPlayersProcessed :=
            (q.currentFarPlayersProcessing.drop farBatch).isEmpty } := by
  unfold processFarPlayers
  split
  · rfl
  · split
    · rename_i hempty
      rw [List.eq_nil_of_length_eq_zero hempty]
      rfl
    · rfl

theorem sent_processNearPlayers (near : Bool) :
    sent near q.processNearPlayers.2 =
      if near && !q.currentNearPlayersProcessed then q.currentNearPlayersProcessing.take nearBatch
      else [] := by
  unfold processNearPlayers
  split
  · rename_i hprocessed
    simp [hprocessed, sent]
  · rename_i hwaiting
    split
    · rename_i hempty
      simp [List.eq_nil_of_length_eq_zero hempty, sent]
    · rw [sent_append, sent_players]
      cases near <;> simp [hwaiting, sent]

theorem sent_processFarPlayers (near : Bool) (farTime : Time) :
    sent near (q.processFarPlayers farTime).2 =
      if !near && !q.currentFarPlayersProcessed then q.currentFarPlayersProcessing.take farBatch
      else [] := by
  unfold processFarPlayers
  split
  · rename_i hprocessed
    simp [hprocessed, sent]
  · rename_i hwaiting
    split
    · rename_i hempty
      simp [List.eq_nil_of_length_eq_zero hempty, sent]
    · rw [sent_players]
      cases near <;> simp [hwaiting]

private theorem sent_queueNearPlayers (near : Bool) : sent near q.queueNearPlayers.2 = [] := by
  unfold queueNearPlayers
  split <;> rfl

private theorem sent_queueFarPlayers (near : Bool) : sent near q.queueFarPlayers.2 = [] := by
  unfold queueFarPlayers
  split <;> rfl

private theorem sent_queuePlayers (near : Bool) (queueTime : Time) (forceSpectator : Bool) :
    sent near (q.queuePlayers queueTime forceSpectator).2 = [] := by
  simp only [queuePlayers]
  split
  · exact sent_queueNearPlayers near
  · rw [sent_append, sent_queueNearPlayers, sent_queueFarPlayers, List.append_nil]

/-- The lists of the last scan, and when it was, are those of `q`. -/
def SameScan (q q' : PlayerQueues Player) : Prop :=
  q'.currentNearPlayers = q.currentNearPlayers ∧ q'.currentFarPlayers = q.currentFarPlayers ∧
    q'.lastPlayerScanTime = q.lastPlayerScanTime

theorem processNearPlayers_frame :
    q.SameScan q.processNearPlayers.1 ∧
      q.processNearPlayers.1.currentFarPlayersProcessed = q.currentFarPlayersProcessed ∧
      q.processNearPlayers.1.currentFarPlayersProcessing = q.currentFarPlayersProcessing ∧
      q.processNearPlayers.1.lastFarPlayerProcessTime = q.lastFarPlayerProcessTime := by
  rw [processNearPlayers_fst]
  split <;> exact ⟨⟨rfl, rfl, rfl⟩, rfl, rfl, rfl⟩

private theorem processFarPlayers_frame (farTime : Time) :
    q.SameScan (q.processFarPlayers farTime).1 ∧
      (q.processFarPlayers farTime).1.currentNearPlayersProcessed =
        q.currentNearPlayersProcessed ∧
      (q.processFarPlayers farTime).1.currentNearPlayersProcessing =
        q.currentNearPlayersProcessing := by
  rw [processFarPlayers_fst]
  split <;> exact ⟨⟨rfl, rfl, rfl⟩, rfl, rfl⟩

private theorem queueNearPlayers_frame :
    q.SameScan q.queueNearPlayers.1 ∧
      q.queueNearPlayers.1.currentFarPlayersProcessed = q.currentFarPlayersProcessed ∧
      q.queueNearPlayers.1.currentFarPlayersProcessing = q.currentFarPlayersProcessing ∧
      q.queueNearPlayers.1.lastFarPlayerProcessTime = q.lastFarPlayerProcessTime := by
  unfold queueNearPlayers
  split <;> exact ⟨⟨rfl, rfl, rfl⟩, rfl, rfl, rfl⟩

private theorem queueFarPlayers_frame :
    q.SameScan q.queueFarPlayers.1 ∧
      q.queueFarPlayers.1.currentNearPlayersProcessed = q.currentNearPlayersProcessed ∧
      q.queueFarPlayers.1.currentNearPlayersProcessing = q.currentNearPlayersProcessing ∧
      q.queueFarPlayers.1.lastFarPlayerProcessTime = q.lastFarPlayerProcessTime := by
  unfold queueFarPlayers
  split <;> exact ⟨⟨rfl, rfl, rfl⟩, rfl, rfl, rfl⟩

theorem SameScan.trans {q' q'' : PlayerQueues Player} (h : q.SameScan q') (h' : q'.SameScan q'') :
    q.SameScan q'' :=
  ⟨h'.1.trans h.1, h'.2.1.trans h.2.1, h'.2.2.trans h.2.2⟩

private theorem queueNearPlayers_near :
    q.queueNearPlayers.1.currentNearPlayersProcessed = false ∧
      q.queueNearPlayers.1.currentNearPlayersProcessing =
        if q.currentNearPlayersProcessed then q.currentNearPlayers
        else q.currentNearPlayersProcessing := by
  unfold queueNearPlayers
  split
  · exact ⟨rfl, rfl⟩
  · rename_i hwaiting
    exact ⟨Bool.eq_false_of_not_eq_true hwaiting, rfl⟩

private theorem queuePlayers_near (queueTime : Time) (forceSpectator : Bool) :
    q.SameScan (q.queuePlayers queueTime forceSpectator).1 ∧
      (q.queuePlayers queueTime forceSpectator).1.currentNearPlayersProcessed = false ∧
      (q.queuePlayers queueTime forceSpectator).1.currentNearPlayersProcessing =
        if q.currentNearPlayersProcessed then q.currentNearPlayers
        else q.currentNearPlayersProcessing := by
  obtain ⟨hscan, -⟩ := queueNearPlayers_frame (q := q)
  obtain ⟨hprocessed, hprocessing⟩ := queueNearPlayers_near (q := q)
  obtain ⟨hscan', hprocessed', hprocessing', -⟩ :=
    queueFarPlayers_frame (q := q.queueNearPlayers.1)
  simp only [queuePlayers]
  split
  · exact ⟨hscan, hprocessed, hprocessing⟩
  · exact ⟨hscan.trans hscan', hprocessed'.trans hprocessed, hprocessing'.trans hprocessing⟩

private theorem queuePlayers_far (queueTime : Time) (forceSpectator : Bool) :
    (q.queuePlayers queueTime forceSpectator).1.lastFarPlayerProcessTime =
        q.lastFarPlayerProcessTime ∧
      ((q.queuePlayers queueTime forceSpectator).1.currentFarPlayersProcessed =
            q.currentFarPlayersProcessed ∧
          (q.queuePlayers queueTime forceSpectator).1.currentFarPlayersProcessing =
            q.currentFarPlayersProcessing ∧
          (q.currentFarPlayersProcessed = true → q.RestsFarPlayers queueTime) ∨
        q.currentFarPlayersProcessed = true ∧
          (q.queuePlayers queueTime forceSpectator).1.currentFarPlayersProcessed = false ∧
          (q.queuePlayers queueTime forceSpectator).1.currentFarPlayersProcessing =
            q.currentFarPlayers) := by
  obtain ⟨⟨-, hcurrent, -⟩, hprocessed, hprocessing, hlast⟩ := queueNearPlayers_frame (q := q)
  have hrests : q.queueNearPlayers.1.RestsFarPlayers queueTime ↔ q.RestsFarPlayers queueTime := by
    simp only [RestsFarPlayers, hlast]
  simp only [queuePlayers]
  split
  · rename_i hrest
    exact ⟨hlast, Or.inl ⟨hprocessed, hprocessing, fun _ => hrests.mp hrest.1⟩⟩
  · simp only [queueFarPlayers]
    split
    · rename_i hdone
      exact ⟨hlast, Or.inr ⟨hprocessed.symm.trans hdone, rfl, hcurrent⟩⟩
    · rename_i hrunning
      refine ⟨hlast, Or.inl ⟨hprocessed, hprocessing, ?_⟩⟩
      intro hdone
      exact absurd (hprocessed.trans hdone) hrunning

/-- The far players are untouched, a batch of them is sent, or the last batch is. -/
theorem processFarPlayers_cases (farTime : Time) :
    q.currentFarPlayersProcessed = true ∧
        (q.processNearPlayers.1.processFarPlayers farTime).1.currentFarPlayersProcessed = true ∧
        (q.processNearPlayers.1.processFarPlayers farTime).1.currentFarPlayersProcessing =
          q.currentFarPlayersProcessing ∧
        (q.processNearPlayers.1.processFarPlayers farTime).1.lastFarPlayerProcessTime =
          q.lastFarPlayerProcessTime ∨
      q.currentFarPlayersProcessed = false ∧
        (q.processNearPlayers.1.processFarPlayers farTime).1.currentFarPlayersProcessed =
          (q.currentFarPlayersProcessing.drop farBatch).isEmpty ∧
        (q.processNearPlayers.1.processFarPlayers farTime).1.currentFarPlayersProcessing =
          q.currentFarPlayersProcessing.drop farBatch ∧
        (q.processNearPlayers.1.processFarPlayers farTime).1.lastFarPlayerProcessTime =
          if (q.currentFarPlayersProcessing.drop farBatch).isEmpty then some farTime
          else q.lastFarPlayerProcessTime := by
  obtain ⟨-, hprocessed, hprocessing, hlast⟩ := processNearPlayers_frame (q := q)
  rw [processFarPlayers_fst, hprocessed]
  cases hdone : q.currentFarPlayersProcessed with
  | true => exact Or.inl ⟨rfl, hprocessed.trans hdone, hprocessing, hlast⟩
  | false =>
    refine Or.inr ⟨rfl, ?_, ?_, ?_⟩
    · exact congrArg (fun waiting => (waiting.drop farBatch).isEmpty) hprocessing
    · exact congrArg (List.drop farBatch) hprocessing
    · rw [← hprocessing, ← hlast]
      rfl

private theorem mark_not_mem (farTime : Time) :
    (.sendSpeakerRadios ∉ q.processNearPlayers.2 ∧ .nextDataFrame ∉ q.processNearPlayers.2) ∧
      .sendSpeakerRadios ∉ (q.processFarPlayers farTime).2 ∧
      .nextDataFrame ∉ (q.processFarPlayers farTime).2 := by
  unfold processNearPlayers processFarPlayers
  constructor
  · split
    · simp
    · split <;> simp [-List.map_take]
  · split
    · simp
    · split <;> simp [-List.map_take]

private theorem mark_mem_queuePlayers (queueTime : Time) (forceSpectator : Bool) :
    (.sendSpeakerRadios ∈ (q.queuePlayers queueTime forceSpectator).2 ↔
        q.currentNearPlayersProcessed = true) ∧
      (.nextDataFrame ∈ (q.queuePlayers queueTime forceSpectator).2 ↔
        q.currentFarPlayersProcessed = true ∧
          (q.queuePlayers queueTime forceSpectator).1.currentFarPlayersProcessed = false) := by
  obtain ⟨-, hprocessed, -⟩ := queueNearPlayers_frame (q := q)
  have hnear : q.queueNearPlayers.2 =
      if q.currentNearPlayersProcessed then [.sendSpeakerRadios] else [] := by
    unfold queueNearPlayers
    split <;> rfl
  simp only [queuePlayers]
  split
  · rw [hnear]
    split <;> simp_all
  · simp only [queueFarPlayers, hnear]
    split <;> split <;> simp_all

variable [DecidableEq Player] {c : PositionCall Player}

theorem processPlayerPositions_cutShort (hactive : c.clientState = 10) (hcut : c.CutShort) :
    q.processPlayerPositions c = q.processNearPlayers := by
  simp only [processPlayerPositions]
  rw [if_neg (not_not.mpr hactive), if_pos hcut]

private theorem processPlayerPositions_passes (hactive : c.clientState = 10)
    (hpass : ¬ c.CutShort) :
    (q.processPlayerPositions c).1 =
      (((q.processNearPlayers.1.processFarPlayers c.farTime).1.rescanPlayers c).queuePlayers
        c.queueTime (c.surroundings.forceSpectator c.surroundings.currentUnit)).1 := by
  simp only [processPlayerPositions]
  rw [if_neg (not_not.mpr hactive), if_neg hpass]

/-- The players whose positions a call sends. -/
theorem sent_processPlayerPositions (hactive : c.clientState = 10) (near : Bool) :
    sent near (q.processPlayerPositions c).2 =
      sent near q.processNearPlayers.2 ++
        if c.CutShort then []
        else sent near (q.processNearPlayers.1.processFarPlayers c.farTime).2 := by
  by_cases hcut : c.CutShort
  · rw [processPlayerPositions_cutShort hactive hcut, if_pos hcut, List.append_nil]
  · simp only [processPlayerPositions]
    rw [if_neg (not_not.mpr hactive), if_neg hcut, if_neg hcut, sent_append, sent_append,
      sent_queuePlayers, List.append_nil]

/-- The lists are those of a new scan, or the last one is recent. -/
def Rescanned (q : PlayerQueues Player) (c : PositionCall Player) (q' : PlayerQueues Player) :
    Prop :=
  q'.currentNearPlayers = c.near ∧ q'.currentFarPlayers = c.far ∨
    c.rescanTime - q.lastPlayerScanTime ≤ TFAR_PLAYER_RESCAN_TIME ∧ q.SameScan q'

private theorem rescanPlayers_cases (q : PlayerQueues Player) (c : PositionCall Player) :
    (q.currentNearPlayersProcessed = false → q.rescanPlayers c = q) ∧
      (q.currentNearPlayersProcessed = true → q.Rescanned c (q.rescanPlayers c)) := by
  unfold rescanPlayers
  constructor
  · intro hwaiting
    rw [hwaiting]
    rfl
  · intro hprocessed
    by_cases hold : TFAR_PLAYER_RESCAN_TIME < c.rescanTime - q.lastPlayerScanTime
    · rw [hprocessed, decide_eq_true hold]
      exact Or.inl ⟨rfl, rfl⟩
    · rw [hprocessed, decide_eq_false hold]
      exact Or.inr ⟨not_lt.mp hold, rfl, rfl, rfl⟩

private theorem rescanPlayers_frame :
    (q.rescanPlayers c).currentNearPlayersProcessed = q.currentNearPlayersProcessed ∧
      (q.rescanPlayers c).currentNearPlayersProcessing = q.currentNearPlayersProcessing ∧
      (q.rescanPlayers c).currentFarPlayersProcessed = q.currentFarPlayersProcessed ∧
      (q.rescanPlayers c).currentFarPlayersProcessing = q.currentFarPlayersProcessing ∧
      (q.rescanPlayers c).lastFarPlayerProcessTime = q.lastFarPlayerProcessTime := by
  unfold rescanPlayers
  split <;> exact ⟨rfl, rfl, rfl, rfl, rfl⟩

/-- What a call that is not cut short does to the near players. -/
theorem passes_near (hactive : c.clientState = 10) (hpass : ¬ c.CutShort) :
    (q.processNearPlayers.1.currentNearPlayersProcessed = false ∧
        (q.processPlayerPositions c).1.currentNearPlayersProcessed = false ∧
        (q.processPlayerPositions c).1.currentNearPlayersProcessing =
          q.processNearPlayers.1.currentNearPlayersProcessing ∧
        q.SameScan (q.processPlayerPositions c).1) ∨
      (q.processNearPlayers.1.currentNearPlayersProcessed = true ∧
        (q.processPlayerPositions c).1.currentNearPlayersProcessed = false ∧
        (q.processPlayerPositions c).1.currentNearPlayersProcessing =
          (q.processPlayerPositions c).1.currentNearPlayers ∧
        q.Rescanned c (q.processPlayerPositions c).1) := by
  rw [processPlayerPositions_passes hactive hpass]
  obtain ⟨hscan, -⟩ := processNearPlayers_frame (q := q)
  obtain ⟨hscan', hprocessed', hprocessing'⟩ :=
    processFarPlayers_frame (q := q.processNearPlayers.1) c.farTime
  obtain ⟨hkept, hscanned⟩ :=
    rescanPlayers_cases (q.processNearPlayers.1.processFarPlayers c.farTime).1 c
  obtain ⟨hqueued, hprocessed, hprocessing⟩ := queuePlayers_near
    (q := (q.processNearPlayers.1.processFarPlayers c.farTime).1.rescanPlayers c)
    c.queueTime (c.surroundings.forceSpectator c.surroundings.currentUnit)
  obtain ⟨hsame, hsameProcessing, -⟩ := rescanPlayers_frame (c := c)
    (q := (q.processNearPlayers.1.processFarPlayers c.farTime).1)
  rw [hsame, hprocessed', hsameProcessing, hprocessing'] at hprocessing
  rw [hprocessed'] at hkept hscanned
  cases hdone : q.processNearPlayers.1.currentNearPlayersProcessed with
  | false =>
    have hnone := hkept hdone
    rw [hdone, if_neg Bool.false_ne_true] at hprocessing
    rw [hnone] at hqueued hprocessed hprocessing ⊢
    exact Or.inl ⟨rfl, hprocessed, hprocessing, (hscan.trans hscan').trans hqueued⟩
  | true =>
    rw [hdone, if_pos rfl] at hprocessing
    refine Or.inr ⟨rfl, hprocessed, hprocessing.trans hqueued.1.symm, ?_⟩
    rcases hscanned hdone with ⟨hnear, hfar⟩ | ⟨hrecent, hsameScan⟩
    · exact Or.inl ⟨hqueued.1.trans hnear, hqueued.2.1.trans hfar⟩
    · have hbefore := hscan.trans hscan'
      rw [hbefore.2.2] at hrecent
      exact Or.inr ⟨hrecent, (hbefore.trans hsameScan).trans hqueued⟩

/-- What a call that is not cut short does to the far players. -/
theorem passes_far (hactive : c.clientState = 10) (hpass : ¬ c.CutShort) :
    (q.processPlayerPositions c).1.lastFarPlayerProcessTime =
        (q.processNearPlayers.1.processFarPlayers c.farTime).1.lastFarPlayerProcessTime ∧
      ((q.processPlayerPositions c).1.currentFarPlayersProcessed =
            (q.processNearPlayers.1.processFarPlayers c.farTime).1.currentFarPlayersProcessed ∧
          (q.processPlayerPositions c).1.currentFarPlayersProcessing =
            (q.processNearPlayers.1.processFarPlayers c.farTime).1.currentFarPlayersProcessing ∧
          ((q.processNearPlayers.1.processFarPlayers c.farTime).1.currentFarPlayersProcessed =
              true →
            (q.processNearPlayers.1.processFarPlayers c.farTime).1.RestsFarPlayers c.queueTime) ∨
        (q.processNearPlayers.1.processFarPlayers c.farTime).1.currentFarPlayersProcessed =
            true ∧
          (q.processPlayerPositions c).1.currentFarPlayersProcessed = false ∧
          (q.processPlayerPositions c).1.currentFarPlayersProcessing =
            (q.processPlayerPositions c).1.currentFarPlayers) := by
  rw [processPlayerPositions_passes hactive hpass]
  obtain ⟨-, -, hprocessed, hprocessing, hlast⟩ := rescanPlayers_frame (c := c)
    (q := (q.processNearPlayers.1.processFarPlayers c.farTime).1)
  obtain ⟨hlast', hcases⟩ := queuePlayers_far
    (q := (q.processNearPlayers.1.processFarPlayers c.farTime).1.rescanPlayers c)
    c.queueTime (c.surroundings.forceSpectator c.surroundings.currentUnit)
  obtain ⟨hqueued, -⟩ := queuePlayers_near
    (q := (q.processNearPlayers.1.processFarPlayers c.farTime).1.rescanPlayers c)
    c.queueTime (c.surroundings.forceSpectator c.surroundings.currentUnit)
  simp only [RestsFarPlayers, hprocessed, hprocessing, hlast] at hcases hlast'
  rw [hqueued.2.1]
  exact ⟨hlast', hcases⟩

private theorem mark_mem (hactive : c.clientState = 10) (hpass : ¬ c.CutShort) :
    (.sendSpeakerRadios ∈ (q.processPlayerPositions c).2 ↔
        q.processNearPlayers.1.currentNearPlayersProcessed = true) ∧
      (.nextDataFrame ∈ (q.processPlayerPositions c).2 ↔
        (q.processNearPlayers.1.processFarPlayers c.farTime).1.currentFarPlayersProcessed =
            true ∧
          (q.processPlayerPositions c).1.currentFarPlayersProcessed = false) := by
  obtain ⟨hsame, -, hdone, -⟩ := rescanPlayers_frame (c := c)
    (q := (q.processNearPlayers.1.processFarPlayers c.farTime).1)
  obtain ⟨-, hnear, -⟩ := processFarPlayers_frame (q := q.processNearPlayers.1) c.farTime
  obtain ⟨hradios, hframe⟩ := mark_mem_queuePlayers
    (q := (q.processNearPlayers.1.processFarPlayers c.farTime).1.rescanPlayers c)
    c.queueTime (c.surroundings.forceSpectator c.surroundings.currentUnit)
  obtain ⟨⟨hradios', hframe'⟩, -⟩ := mark_not_mem (q := q) c.farTime
  obtain ⟨-, hradios'', hframe''⟩ := mark_not_mem (q := q.processNearPlayers.1) c.farTime
  rw [hsame, hnear] at hradios
  rw [hdone, ← processPlayerPositions_passes hactive hpass] at hframe
  simp only [processPlayerPositions] at hframe ⊢
  rw [if_neg (not_not.mpr hactive), if_neg hpass] at hframe ⊢
  simp only [List.mem_append, hradios', hradios'', hframe', hframe'', false_or]
  exact ⟨hradios, hframe⟩

end Calls

end PlayerQueues

section Rounds
variable {Player : Type}

private theorem nodup_arrayIntersectSelf [DecidableEq Player] (players : List Player) :
    (arrayIntersectSelf players).Nodup := by
  unfold arrayIntersectSelf
  generalize hlength : players.length = n
  induction n using Nat.strong_induction_on generalizing players with
  | _ n ih =>
    cases players with
    | nil => exact List.nodup_nil
    | cons player rest =>
      rw [List.eraseDups_cons, List.nodup_cons, List.mem_eraseDups]
      refine ⟨by simp, ih _ ?_ _ rfl⟩
      have hshorter := List.length_filter_le (fun other => !other == player) rest
      rw [← hlength, List.length_cons]
      omega

/-- Of the copies, newest first, all but the newest have been sent completely, and of that one
everything but what still waits. -/
def InRounds (sentPlayers waiting : List Player) : List (List Player) → Prop
  | [] => sentPlayers = [] ∧ waiting = []
  | copy :: earlier =>
      ∃ done, sentPlayers = earlier.reverse.flatten ++ done ∧ done ++ waiting = copy

theorem InRounds.batch {sentPlayers waiting : List Player} {copies : List (List Player)}
    (h : InRounds sentPlayers waiting copies) (size : Nat) :
    InRounds (sentPlayers ++ waiting.take size) (waiting.drop size) copies := by
  cases copies with
  | nil =>
    obtain ⟨rfl, rfl⟩ := h
    exact ⟨by simp, by simp⟩
  | cons copy earlier =>
    obtain ⟨done, hsent, hcopy⟩ := h
    refine ⟨done ++ waiting.take size, ?_, ?_⟩
    · rw [hsent, List.append_assoc]
    · rw [List.append_assoc, List.take_append_drop, hcopy]

theorem InRounds.next {sentPlayers : List Player} {copies : List (List Player)}
    (h : InRounds sentPlayers [] copies) (copy : List Player) :
    InRounds sentPlayers copy (copy :: copies) := by
  refine ⟨[], ?_, List.nil_append copy⟩
  cases copies with
  | nil =>
    obtain ⟨rfl, -⟩ := h
    rfl
  | cons last earlier =>
    obtain ⟨done, hsent, hlast⟩ := h
    rw [List.append_nil] at hlast
    rw [hsent, hlast, List.reverse_cons, List.flatten_append, List.append_nil]
    simp

/-- The queues, with all messages in order and all copies that were taken, newest first. -/
structure PositionRun (Player : Type) where
  queues : PlayerQueues Player := {}
  messages : List (PositionMessage Player) := []
  nearCopies : List (List Player) := []
  farCopies : List (List Player) := []

namespace PositionRun

def step [DecidableEq Player] (run : PositionRun Player) (c : PositionCall Player) :
    PositionRun Player :=
  let (queues, messages) := run.queues.processPlayerPositions c
  { queues
    messages := run.messages ++ messages
    nearCopies :=
      if .sendSpeakerRadios ∈ messages then queues.currentNearPlayersProcessing :: run.nearCopies
      else run.nearCopies
    farCopies :=
      if .nextDataFrame ∈ messages then queues.currentFarPlayersProcessing :: run.farCopies
      else run.farCopies }

/-- A queue that counts as processed is empty, and what left it left in rounds. -/
structure Orderly (run : PositionRun Player) : Prop where
  nearDone : run.queues.currentNearPlayersProcessed = true →
    run.queues.currentNearPlayersProcessing = []
  farDone : run.queues.currentFarPlayersProcessed = true →
    run.queues.currentFarPlayersProcessing = []
  near : InRounds (sent true run.messages) run.queues.currentNearPlayersProcessing run.nearCopies
  far : InRounds (sent false run.messages) run.queues.currentFarPlayersProcessing run.farCopies
  scanned : run.queues.currentNearPlayers.Nodup
  distinct : ∀ copy ∈ run.nearCopies, copy.Nodup

variable {run : PositionRun Player}

private theorem Orderly.nearWork (h : run.Orderly) :
    InRounds (sent true run.messages ++ sent true run.queues.processNearPlayers.2)
        run.queues.processNearPlayers.1.currentNearPlayersProcessing run.nearCopies ∧
      (run.queues.processNearPlayers.1.currentNearPlayersProcessed = true →
        run.queues.processNearPlayers.1.currentNearPlayersProcessing = []) := by
  rw [PlayerQueues.sent_processNearPlayers, PlayerQueues.processNearPlayers_fst]
  cases hdone : run.queues.currentNearPlayersProcessed with
  | true =>
    rw [if_neg (by decide), if_pos rfl, List.append_nil]
    exact ⟨h.near, fun _ => h.nearDone hdone⟩
  | false =>
    rw [if_pos (by decide), if_neg (by decide)]
    exact ⟨h.near.batch nearBatch, List.isEmpty_iff.mp⟩

private theorem Orderly.farWork (h : run.Orderly) (farTime : Time) :
    InRounds (sent false run.messages ++
          sent false (run.queues.processNearPlayers.1.processFarPlayers farTime).2)
        (run.queues.processNearPlayers.1.processFarPlayers
          farTime).1.currentFarPlayersProcessing run.farCopies ∧
      ((run.queues.processNearPlayers.1.processFarPlayers
          farTime).1.currentFarPlayersProcessed = true →
        (run.queues.processNearPlayers.1.processFarPlayers
          farTime).1.currentFarPlayersProcessing = []) := by
  obtain ⟨-, hprocessed, hprocessing, -⟩ :=
    PlayerQueues.processNearPlayers_frame (q := run.queues)
  rw [PlayerQueues.sent_processFarPlayers, PlayerQueues.processFarPlayers_fst, hprocessed,
    hprocessing]
  cases hdone : run.queues.currentFarPlayersProcessed with
  | true =>
    rw [if_neg (by decide), if_pos rfl, List.append_nil, hprocessing]
    exact ⟨h.far, fun _ => h.farDone hdone⟩
  | false =>
    rw [if_pos (by decide), if_neg (by decide)]
    exact ⟨h.far.batch farBatch, List.isEmpty_iff.mp⟩

variable [DecidableEq Player] {c : PositionCall Player}

theorem Orderly.idle (h : run.Orderly) (hinactive : c.clientState ≠ 10) :
    (run.step c).Orderly := by
  have hnone : run.queues.processPlayerPositions c = (run.queues, []) := if_pos hinactive
  simp only [step, hnone, List.append_nil]
  exact h

theorem Orderly.cutShort (h : run.Orderly) (hactive : c.clientState = 10) (hcut : c.CutShort) :
    (run.step c).Orderly := by
  obtain ⟨⟨hradios, hframe⟩, -⟩ := PlayerQueues.mark_not_mem (q := run.queues) c.farTime
  obtain ⟨hscan, hprocessed, hprocessing, -⟩ :=
    PlayerQueues.processNearPlayers_frame (q := run.queues)
  simp only [step, PlayerQueues.processPlayerPositions_cutShort hactive hcut, if_neg hradios,
    if_neg hframe]
  refine ⟨h.nearWork.2, ?_, ?_, ?_, ?_, h.distinct⟩
  · rw [hprocessed, hprocessing]
    exact h.farDone
  · rw [sent_append]
    exact h.nearWork.1
  · rw [sent_append, PlayerQueues.sent_processNearPlayers, hprocessing]
    simpa using h.far
  · rw [hscan.1]
    exact h.scanned

theorem Orderly.passes (h : run.Orderly) (hactive : c.clientState = 10)
    (hpass : ¬ c.CutShort) : (run.step c).Orderly := by
  obtain ⟨hnear, hnearDone⟩ := h.nearWork
  obtain ⟨hfar, hfarDone⟩ := h.farWork c.farTime
  obtain ⟨hradios, hframe⟩ := PlayerQueues.mark_mem (q := run.queues) hactive hpass
  have hsent := fun near => PlayerQueues.sent_processPlayerPositions (q := run.queues) hactive near
  simp only [if_neg hpass] at hsent
  -- only the near stage sends near players, and only the far stage far ones
  have hsentNear : sent true (run.queues.processPlayerPositions c).2 =
      sent true run.queues.processNearPlayers.2 := by
    rw [hsent true, PlayerQueues.sent_processFarPlayers]
    simp
  have hsentFar : sent false (run.queues.processPlayerPositions c).2 =
      sent false (run.queues.processNearPlayers.1.processFarPlayers c.farTime).2 := by
    rw [hsent false, PlayerQueues.sent_processNearPlayers]
    simp
  have hfarStep : InRounds (sent false (run.step c).messages)
        (run.step c).queues.currentFarPlayersProcessing (run.step c).farCopies ∧
      ((run.step c).queues.currentFarPlayersProcessed = true →
        (run.step c).queues.currentFarPlayersProcessing = []) := by
    simp only [step, sent_append, hsentFar, hframe]
    rcases (PlayerQueues.passes_far (q := run.queues) hactive hpass).2 with
      ⟨hprocessed, hprocessing, -⟩ | ⟨hdone, hprocessed, hprocessing⟩
    · rw [hprocessed, hprocessing, if_neg (by simp)]
      exact ⟨hfar, hfarDone⟩
    · rw [if_pos ⟨hdone, hprocessed⟩, hprocessed]
      rw [hfarDone hdone] at hfar
      exact ⟨hfar.next _, fun hfalse => absurd hfalse Bool.false_ne_true⟩
  rcases PlayerQueues.passes_near (q := run.queues) hactive hpass with
    ⟨hwaiting, hprocessed, hprocessing, hscan⟩ | ⟨hdone, hprocessed, hprocessing, hscan⟩
  · have hcopies : (run.step c).nearCopies = run.nearCopies := by
      simp only [step, hradios, hwaiting, Bool.false_eq_true, if_false]
    refine ⟨?_, hfarStep.2, ?_, hfarStep.1, ?_, ?_⟩
    · exact fun hfalse => absurd (hprocessed.symm.trans hfalse) Bool.false_ne_true
    · rw [hcopies]
      simp only [step, sent_append, hsentNear, hprocessing]
      exact hnear
    · exact hscan.1 ▸ h.scanned
    · rw [hcopies]
      exact h.distinct
  · have hcopies : (run.step c).nearCopies =
        (run.step c).queues.currentNearPlayers :: run.nearCopies := by
      simp only [step, hradios, hdone, if_true, hprocessing]
    have hnodup : (run.step c).queues.currentNearPlayers.Nodup := by
      rcases hscan with ⟨hnew, -⟩ | ⟨-, hold⟩
      · exact hnew ▸ nodup_arrayIntersectSelf _
      · exact hold.1 ▸ h.scanned
    refine ⟨?_, hfarStep.2, ?_, hfarStep.1, hnodup, ?_⟩
    · exact fun hfalse => absurd (hprocessed.symm.trans hfalse) Bool.false_ne_true
    · rw [hcopies]
      rw [hnearDone hdone] at hnear
      simp only [step, sent_append, hsentNear, hprocessing]
      exact hnear.next _
    · rw [hcopies]
      intro copy hcopy
      rcases List.mem_cons.mp hcopy with rfl | hearlier
      · exact hnodup
      · exact h.distinct copy hearlier

/-- In every run, whatever the calls see and however long they block: the positions sent of near
players are the copies in the order in which they were taken, each of them sent once and completely
before the next is taken, and nobody twice in one copy. So are those of far players. -/
theorem rounds_are_complete (history : List (PositionCall Player)) :
    InRounds (sent true (runHistory step {} history).messages)
        (runHistory step {} history).queues.currentNearPlayersProcessing
        (runHistory step {} history).nearCopies ∧
      InRounds (sent false (runHistory step {} history).messages)
        (runHistory step {} history).queues.currentFarPlayersProcessing
        (runHistory step {} history).farCopies ∧
      ∀ copy ∈ (runHistory step {} history).nearCopies, copy.Nodup := by
  have horderly := @invariant_runHistory _ _ step Orderly {}
    ⟨fun _ => rfl, fun _ => rfl, ⟨rfl, rfl⟩, ⟨rfl, rfl⟩, List.nodup_nil, by simp⟩ ?_ history
  · exact ⟨horderly.near, horderly.far, horderly.distinct⟩
  · intro run c h
    by_cases hactive : c.clientState = 10
    · by_cases hcut : c.CutShort
      · exact h.cutShort hactive hcut
      · exact h.passes hactive hcut
    · exact h.idle hactive

end PositionRun

end Rounds

end TaskForceRadio.Addon
