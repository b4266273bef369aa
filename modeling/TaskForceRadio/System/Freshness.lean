import TaskForceRadio.Addon.Pacing
import TaskForceRadio.Addon.SpeakingQuery
import TaskForceRadio.System.Identity
import TaskForceRadio.System.Mute
import TaskForceRadio.System.Records
import Mathlib.Data.Fintype.Basic

/-!
# Nobody who is there is forgotten

The extension forgets a player whose position it has not been sent for `kClientExpiry`. The addon
sends the positions in rounds. Together: as long as the calls come at their pace and the player is
one of the players, the solver sees him.
-/

set_option autoImplicit false

namespace TaskForceRadio

open Voice (Time milliseconds)
open Extension Addon

/-- The state has the record of a position under this name that is not older than `time`. -/
def Fresh (s : State) (name : Bytes) (time : Time) : Prop :=
  ∃ client, s.clients.lookup name = some client ∧ client.nickname = name ∧
    time ≤ client.lastUpdate

section Records
variable {s s' : State} {name : Bytes} {time : Time}

private theorem Fresh.of_same (h : Fresh s name time) (hclients : s'.clients = s.clients) :
    Fresh s' name time := by
  rw [Fresh, hclients]
  exact h

theorem Fresh.insert {key : Bytes} {client : RemoteClient} (h : Fresh s name time)
    (hnew : key = name → client.nickname = name ∧ time ≤ client.lastUpdate) :
    Fresh { s with clients := s.clients.insert key client } name time := by
  rw [Fresh]
  simp only [Dictionary.lookup_insert_ite]
  split
  · rename_i hkey
    obtain ⟨hname, htime⟩ := hnew hkey.symm
    exact ⟨client, rfl, hname, htime⟩
  · exact h

theorem Fresh.markDead (h : Fresh s name time) (dead : Bytes) :
    Fresh (s.markDead dead) name time := by
  unfold State.markDead
  split
  · exact h
  · rename_i client hclient
    apply h.insert
    rintro rfl
    obtain ⟨found, hfound, hname, htime⟩ := h
    rw [hclient] at hfound
    cases hfound
    exact ⟨hname, htime⟩

/-- Only the end of the mission forgets a player before his time. -/
theorem Fresh.execute (h : Fresh s name time) {now : Time} (hnow : time ≤ now) {c : Command}
    (hc : c ≠ .missionEnd) : Fresh (s.execute now c) name time := by
  cases c with
  | pos tokens =>
    show Fresh (s.handlePos now tokens) name time
    unfold State.handlePos
    split
    · exact h
    · dsimp only
      split
      · exact h
      · exact h.insert fun hkey => ⟨hkey, hnow⟩
  | freq tokens =>
    show Fresh (s.handleFreq tokens) name time
    rw [State.handleFreq_frame]
    exact h
  | tangent tokens =>
    show Fresh (s.handleTangent tokens) name time
    rw [State.handleTangent_frame]
    exact h
  | speakers tokens =>
    show Fresh (s.handleSpeakers tokens) name time
    rw [State.handleSpeakers_frame]
    exact h
  | setCfg tokens =>
    show Fresh (s.handleSetCfg tokens) name time
    rw [State.handleSetCfg_frame]
    exact h
  | killed nickname =>
    have hdead := h.markDead (convertNickname nickname)
    show Fresh (s.handleKilled nickname) name time
    simp only [State.handleKilled]
    split <;> exact hdead
  | uid nickname uid =>
    show Fresh (s.handleUid nickname uid) name time
    rw [State.handleUid_frame]
    exact h
  | releaseAllTangents nickname =>
    show Fresh (s.handleReleaseAllTangents nickname) name time
    rw [State.handleReleaseAllTangents_frame]
    exact h
  | addRadioTowers payload =>
    show Fresh (s.handleAddRadioTowers payload) name time
    rw [State.handleAddRadioTowers_frame]
    exact h
  | delRadioTowers payload =>
    show Fresh (s.handleDelRadioTowers payload) name time
    rw [State.handleDelRadioTowers_frame]
    exact h
  | missionEnd => exact absurd rfl hc
  | dataFrame => exact h
  | micPtt held => exact h
  | micMute => exact h
  | speakerMute => exact h
  | ignored => exact h

private theorem clients_process (g : Globals) (now : Time) (opusVersion input : Bytes) :
    (g.process now opusVersion input).1.state.clients =
      (Records.callExtension g.state now input).clients := by
  obtain ⟨requestedAt, heq⟩ := Records.state_process g now opusVersion input
  rw [heq]

theorem Fresh.process {g : Globals} (h : Fresh g.state name time) {now : Time}
    (hnow : time ≤ now) {opusVersion input : Bytes}
    (hinput : inputCommand input ≠ some .missionEnd) :
    Fresh (g.process now opusVersion input).1.state name time := by
  have hcall : Fresh (Records.callExtension g.state now input) name time := by
    unfold Records.callExtension
    split
    · rename_i c hc
      exact h.execute hnow fun hend => hinput (hend ▸ hc)
    · exact h
  exact hcall.of_same (clients_process g now opusVersion input)

private theorem exists_sender {now : Time} {me other : Bytes} (hself : s.myNickname = me)
    (hme : me ≠ [])
    (hmine : Fresh s me time) (hother : Fresh s other time) (hne : other ≠ me)
    (hnow : now - time < kClientExpiry) (orders : State.SolverOrders) :
    ∃ r ∈ s.senders now orders, r.other.nickname = other := by
  obtain ⟨mine, hlookup, -, hmineTime⟩ := hmine
  obtain ⟨his, hhis, hnickname, hhisTime⟩ := hother
  have hlive : ∀ update : Time, time ≤ update → now - update < kClientExpiry :=
    fun update hupdate => lt_of_le_of_lt (Int.sub_le_sub_left hupdate now) hnow
  refine ⟨{ me := mine, other := his, now }, ?_, hnickname⟩
  rw [State.senders, if_neg (by rw [hself]; exact hme), State.findClient, hself, hlookup]
  dsimp only
  rw [if_pos (hlive _ hmineTime), List.mem_filterMap]
  refine ⟨(other, his), ?_, ?_⟩
  · rw [IterationOrder.mem_arrange, Dictionary.mem_pairs]
    exact hhis
  · apply if_neg
    rintro (hsame | hold)
    · exact hne (hnickname.symm.trans hsame)
    · exact absurd (hlive _ hhisTime) (not_lt.mpr hold)

theorem Fresh.tick {g : Globals} (h : Fresh g.state name time) (now : Time)
    (orders : TickOrders) : Fresh (g.tick now orders).state name time :=
  h.of_same (g.tick_frame now orders).2.1

end Records

private theorem mem_sent {Player : Type} {player : Player} {near : Bool}
    {messages : List (PositionMessage Player)} :
    player ∈ sent near messages ↔ .sendPlayerInfo player near ∈ messages := by
  unfold sent
  rw [List.mem_filterMap]
  constructor
  · rintro ⟨message, hmessage, hplayer⟩
    cases message with
    | sendPlayerInfo other asNear =>
      simp only at hplayer
      split at hplayer
      · rename_i hnear
        cases hplayer
        exact hnear ▸ hmessage
      · cases hplayer
    | _ => cases hplayer
  · intro hmessage
    exact ⟨_, hmessage, if_pos rfl⟩

/-- What the addon reads to put a message into words, and how long after the start of the call each
message is processed. -/
structure Readings (Player : Type) where
  view : Player → Bool → UnitView
  unitName : Player → Bytes
  speakers : Option Bytes
  delay : Nat → Nat
  opusVersion : Bytes

section Calls
variable {Player : Type} (r : Readings Player)

def Readings.text : PositionMessage Player → Option Bytes
  | .sendPlayerInfo player near => some (preparePositionCoordinates (r.view player near))
  | .isSpeakingBulk players => some (bulkRequest (players.map r.unitName))
  | .sendSpeakerRadios => r.speakers
  | .nextDataFrame => some (ascii "DFRAME~")

/-- The messages of a call, from the one with this number on. -/
def Readings.deliver (startTime : Time) :
    List (PositionMessage Player) → Nat → Globals → Globals
  | [], _, g => g
  | message :: later, number, g =>
      deliver startTime later (number + 1)
        (match r.text message with
        | some text => (g.process (startTime + r.delay number) r.opusVersion text).1
        | none => g)

/-- The text of the speakers is not the end of the mission. -/
def Readings.KeepsMission : Prop := r.speakers.bind inputCommand ≠ some .missionEnd

instance : Decidable r.KeepsMission := inferInstanceAs (Decidable (_ ≠ _))

private theorem inputCommand_position (u : UnitView) :
    inputCommand (preparePositionCoordinates u) ≠ some .missionEnd := by
  have hcommand : firstToken (joinTokens tab (ascii "POS" :: u.fields)) = ascii "POS" :=
    firstToken_joinTokens (by decide) _
  rw [preparePositionCoordinates, request, inputCommand_append, hcommand]
  simp [parseCommand]

private theorem inputCommand_bulkRequest (names : List Bytes) :
    inputCommand (bulkRequest names) ≠ some .missionEnd := by
  have hignored : ∀ payload, parseCommand bulkCommand payload = .ignored := fun _ => rfl
  unfold inputCommand
  split
  · rename_i hlast
    have hcommand : firstToken (bulkRequest names).dropLast = bulkCommand := by
      rcases List.eq_nil_or_concat names with rfl | ⟨front, last, rfl⟩
      · exact absurd hlast (by decide)
      · rw [List.concat_eq_append] at hlast ⊢
        obtain ⟨name, rfl⟩ :=
          List.getLast?_eq_some_iff.mp ((getLast?_bulkRequest front last).mp hlast)
        have hpayload : (bulkRequest (front ++ [name ++ [tilde]])).dropLast =
            bulkRequest (front ++ [name]) := by
          rw [bulkRequest_concat, bulkRequest_concat, ← List.cons_append, ← List.append_assoc,
            List.dropLast_concat]
        rw [hpayload]
        exact firstToken_bulkRequest front name
    rw [hcommand, hignored]
    decide
  · exact Option.some_ne_none _ ∘ Eq.symm

variable {r} {name : Bytes} {time : Time}

private theorem Readings.text_keepsMission (hr : r.KeepsMission) {message : PositionMessage Player}
    {text : Bytes} (h : r.text message = some text) : inputCommand text ≠ some .missionEnd := by
  cases message with
  | sendPlayerInfo player near =>
    cases h
    exact inputCommand_position _
  | isSpeakingBulk players =>
    cases h
    exact inputCommand_bulkRequest _
  | sendSpeakerRadios =>
    intro hend
    apply hr
    rw [show r.speakers = some text from h]
    exact hend
  | nextDataFrame =>
    cases h
    decide

theorem Fresh.deliver (hr : r.KeepsMission) {startTime : Time} (htime : time ≤ startTime)
    (messages : List (PositionMessage Player)) {number : Nat} {g : Globals}
    (h : Fresh g.state name time) :
    Fresh (r.deliver startTime messages number g).state name time := by
  induction messages generalizing number g with
  | nil => exact h
  | cons message later ih =>
    apply ih
    cases htext : r.text message with
    | none => exact h
    | some text =>
      refine h.process (htime.trans ?_) (Readings.text_keepsMission hr htext)
      exact le_add_of_nonneg_right (Int.natCast_nonneg _)

private theorem fresh_of_sent (hr : r.KeepsMission) {startTime : Time} {player : Player}
    {near : Bool}
    (hname : (r.view player near).unitName.text ≠ [])
    {messages : List (PositionMessage Player)} (hsent : .sendPlayerInfo player near ∈ messages)
    {number : Nat} {g : Globals} :
    Fresh (r.deliver startTime messages number g).state
      (convertNickname (r.view player near).unitName.text) startTime := by
  induction messages generalizing number g with
  | nil => exact (List.not_mem_nil hsent).elim
  | cons message later ih =>
    rcases List.mem_cons.mp hsent with rfl | hlater
    · refine Fresh.deliver hr le_rfl later (Fresh.of_same ?_ (clients_process _ _ _ _))
      rw [Records.receive_position, if_neg hname]
      refine ⟨Records.remoteClient (r.view player near) (startTime + r.delay number), ?_, rfl, ?_⟩
      · exact AList.lookup_insert _
      · exact le_add_of_nonneg_right (Int.natCast_nonneg _)
    · exact ih hlater

end Calls

section World
variable {Player : Type} [DecidableEq Player]

structure PositionWorld (Player : Type) where
  queues : PlayerQueues Player := {}
  globals : Globals := {}
  lastCall : Time

/-- A call of the position handler, or whatever else the extension does in the meantime. -/
inductive PositionEvent (Player : Type) where
  | positions (c : PositionCall Player) (r : Readings Player)
  | addon (e : AddonEvent)

def AddonEvent.time : AddonEvent → Time
  | .call now _ _ => now
  | .tick now _ => now

namespace PositionWorld

def step (w : PositionWorld Player) : PositionEvent Player → PositionWorld Player
  | .positions c r =>
      { queues := (w.queues.processPlayerPositions c).1
        globals := r.deliver c.startTime (w.queues.processPlayerPositions c).2 0 w.globals
        lastCall := c.startTime }
  | .addon e => { w with globals := e.step w.globals }

/-- The calls come at their pace and see the players who are there, under their names; the mission
goes on. -/
def Playing (limits : Limits) (present : Player → Prop) (name : Player → Bytes)
    (w : PositionWorld Player) : PositionEvent Player → Prop
  | .positions c r =>
      w.queues.Timely limits w.lastCall c ∧ r.KeepsMission ∧
        ∀ player, present player → PlayerQueues.Seen c player ∧
          ∀ near, (r.view player near).unitName.text = name player
  | .addon e => w.lastCall ≤ e.time ∧ e.command ≠ some .missionEnd

instance (limits : Limits) (present : Player → Prop) [DecidablePred present] [Fintype Player]
    (name : Player → Bytes) (w : PositionWorld Player) (e : PositionEvent Player) :
    Decidable (w.Playing limits present name e) := by
  unfold Playing
  cases e <;> infer_instance

/-- There is a deadline for the player's next position, and his last one is recent enough for it. -/
structure Remembered (limits : Limits) (player : Player) (name : Bytes) (first : Time)
    (w : PositionWorld Player) : Prop where
  within : w.queues.Within limits w.lastCall
  listed : w.queues.Listed player
  promised : ∃ deadline, w.queues.Due limits w.lastCall player deadline ∧
    deadline ≤ w.lastCall + limits.patience ∧
    (deadline ≤ first ∨ Fresh w.globals.state name (deadline - limits.patience))

section Steps
variable {limits : Limits} {present : Player → Prop} {name : Player → Bytes} {first : Time}
  {w : PositionWorld Player} {player : Player}

theorem Remembered.positions (hpresent : present player) (hname : name player ≠ [])
    (h : w.Remembered limits player (convertNickname (name player)) first)
    {c : PositionCall Player} {r : Readings Player}
    (hplaying : w.Playing limits present name (.positions c r)) :
    (w.step (.positions c r)).Remembered limits player (convertNickname (name player)) first := by
  obtain ⟨ht, hr, hplayers⟩ := hplaying
  obtain ⟨hseen, hview⟩ := hplayers player hpresent
  obtain ⟨deadline, hdue, hsoon, hfresh⟩ := h.promised
  have hwithin := h.within.step ht
  have hlisted := ht.listed hseen h.listed
  refine ⟨hwithin, hlisted, ?_⟩
  rcases hdue.step h.within ht hseen with ⟨near, hsent⟩ | hkept
  · refine ⟨c.startTime + limits.patience, .of_listed hwithin ht.pace_nonneg hlisted, le_rfl,
      Or.inr ?_⟩
    rw [add_sub_cancel_right, ← hview near]
    exact fresh_of_sent hr (by rw [hview]; exact hname) (mem_sent.mp hsent)
  · have horder := ht.inOrder
    refine ⟨deadline, hkept, hsoon.trans (Int.add_le_add_right horder _), ?_⟩
    refine hfresh.imp_right fun hfresh => Fresh.deliver hr ?_ _ hfresh
    exact (sub_le_iff_le_add.mpr hsoon).trans horder

theorem Remembered.addon {n : Bytes} (h : w.Remembered limits player n first) {e : AddonEvent}
    (hplaying : w.Playing limits present name (.addon e)) :
    (w.step (.addon e)).Remembered limits player n first := by
  obtain ⟨hlater, hmission⟩ := hplaying
  obtain ⟨deadline, hdue, hsoon, hfresh⟩ := h.promised
  refine ⟨h.within, h.listed, deadline, hdue, hsoon, hfresh.imp_right fun hfresh => ?_⟩
  cases e with
  | call now opusVersion input =>
    exact hfresh.process ((sub_le_iff_le_add.mpr hsoon).trans hlater) hmission
  | tick now orders => exact hfresh.tick now orders

omit [DecidableEq Player] in
private theorem remembered_start (limits : Limits) (hpace : 0 ≤ limits.pace) (player : Player)
    (n : Bytes)
    (lastCall : Time) (globals : Globals) :
    ({ globals, lastCall } : PositionWorld Player).Remembered limits player n
      (lastCall + limits.patience) := by
  have hwithin : ({} : PlayerQueues Player).Within limits lastCall :=
    ⟨Nat.zero_le _, Nat.zero_le _, Nat.zero_le _, Nat.zero_le _, fun _ h =>
      (Option.some_ne_none _ h.symm).elim⟩
  have hlisted : ({} : PlayerQueues Player).Listed player := Or.inr (Or.inr rfl)
  exact ⟨hwithin, hlisted, _, .of_listed hwithin hpace hlisted, le_rfl, Or.inl le_rfl⟩

end Steps

/-- In every run in which the calls come at their pace and the mission goes on, everybody who is
there is in view once the longest wait has passed: his record is live, and the solver considers
him. -/
theorem nobody_is_forgotten {limits : Limits} (hpace : 0 ≤ limits.pace)
    (hpatience : limits.patience < kClientExpiry) {present : Player → Prop}
    {name : Player → Bytes} {globals : Globals} {lastCall : Time}
    {history : List (PositionEvent Player)}
    (hplaying : Guarded step (Playing limits present name) { globals, lastCall } history)
    {now : Time} (hlong : lastCall + limits.patience < now)
    (hnow : now ≤ (runHistory step { globals, lastCall } history).lastCall + limits.pace) :
    (∀ player, present player → name player ≠ [] →
      ListenerEvent.LiveNickname (runHistory step { globals, lastCall } history).globals.state now
        (convertNickname (name player))) ∧
    ∀ me other, present me → present other → name me ≠ [] → name other ≠ [] →
      (runHistory step { globals, lastCall } history).globals.state.myNickname =
        convertNickname (name me) →
      convertNickname (name other) ≠ convertNickname (name me) →
      ∀ orders, ∃ r ∈
        (runHistory step { globals, lastCall } history).globals.state.senders now orders,
        r.other.nickname = convertNickname (name other) := by
  have hremembered : ∀ player, present player → name player ≠ [] →
      (runHistory step { globals, lastCall } history).Remembered limits player
        (convertNickname (name player)) (lastCall + limits.patience) := by
    intro player hpresent hname
    refine (throughout_of_guarded (remembered_start limits hpace player _ lastCall globals)
      ?_ hplaying).last
    intro w e h hguard
    cases e with
    | positions c r => exact h.positions hpresent hname hguard
    | addon e => exact h.addon hguard
  have hfresh : ∀ player, present player → name player ≠ [] →
      Fresh (runHistory step { globals, lastCall } history).globals.state
        (convertNickname (name player)) (now - limits.patience) := by
    intro player hpresent hname
    obtain ⟨deadline, hdue, -, hcase⟩ := (hremembered player hpresent hname).promised
    have hdeadline : now ≤ deadline := hnow.trans (hdue.next_call hpace)
    rcases hcase with hfirst | ⟨client, hlookup, hnickname, htime⟩
    · exact absurd (hlong.trans_le (hdeadline.trans hfirst)) (lt_irrefl _)
    · exact ⟨client, hlookup, hnickname, (Int.sub_le_sub_right hdeadline _).trans htime⟩
  have hlive : now - (now - limits.patience) < kClientExpiry := by
    rw [sub_sub_cancel]
    exact hpatience
  constructor
  · intro player hpresent hname
    obtain ⟨client, hlookup, -, htime⟩ := hfresh player hpresent hname
    exact ⟨client, hlookup, lt_of_le_of_lt (Int.sub_le_sub_left htime now) hlive⟩
  · intro me other hme hother hmyName hhisName hself hne orders
    have hnamed := mt (Records.convertNickname_eq_nil (name me)).mp hmyName
    exact exists_sender hself hnamed (hfresh me hme hmyName) (hfresh other hother hhisName) hne
      hlive orders

end PositionWorld

end World

namespace PositionWorld

def oneNearOneFar : Limits where
  pace := milliseconds 250
  nearMax := 1
  farMax := 1

def ann : PlainText := ⟨ascii "Ann", by decide⟩

def annAndBob : Bool → PlainText
  | true => ann
  | false => Records.bob

def readings : Readings Bool where
  view := fun player _ => Records.distantUnit (annAndBob player)
  unitName := fun player => (annAndBob player).text
  speakers := none
  delay := fun _ => 0
  opusVersion := []

/-- Bob is far away. -/
def annAlone : Surroundings Bool where
  currentUnit := true
  unitsInPlayerGroup := [true]
  nearMen := [true]
  nearCrews := []
  isPlayer := fun _ => true
  alive := fun _ => true
  forceSpectator := fun _ => false

def callAt (now : Time) : PositionCall Bool where
  clientState := 10
  startTime := now
  checkTime := now
  farTime := now
  rescanTime := now
  scanTime := now
  queueTime := now
  surroundings := annAlone
  curators := []
  allPlayers := [true, false]

/-- So many calls, a quarter of a second apart, from 10 s on, each with a snapshot after it. -/
def calls : Nat → List (PositionEvent Bool)
  | 0 => [.addon (.call (milliseconds 10000) [] (ascii "KILLED\tBob~"))]
  | n + 1 =>
      let now := milliseconds (10000 + 250 * (n + 1))
      .addon (.tick now {}) :: .positions (callAt now) readings :: calls n

private theorem playing_calls :
    Guarded step (Playing oneNearOneFar (fun _ => True) (fun player => (annAndBob player).text))
      { lastCall := milliseconds 10000 } (calls 24) := by
  decide +kernel

theorem bob_is_remembered :
    ListenerEvent.LiveNickname
      (runHistory step { lastCall := milliseconds 10000 } (calls 24)).globals.state
      (milliseconds 16000) (convertNickname (ascii "Bob")) :=
  (@nobody_is_forgotten _ _ oneNearOneFar (by decide) (by decide) _ _ {} (milliseconds 10000)
    (calls 24) playing_calls (milliseconds 16000) (by decide) (by decide +kernel)).1 false trivial
    (by decide)

end PositionWorld

end TaskForceRadio
