import TaskForceRadio.Extension.Command
import TaskForceRadio.Extension.RemoteTx
import TaskForceRadio.Foundation.Execution

/-!
# The mute of a dead player

KILLED blocks the transmission of the local player. The block is a value in a slot that other
handlers write too, and TANGENT writes it whether the player is alive or not.
-/

set_option autoImplicit false

namespace TaskForceRadio

open Voice (Time)

namespace Extension

namespace Command

/-- The command lifts the mute by design. -/
def LiftsMute : Command → Prop
  | .freq tokens => 11 ≤ tokens.length ∧ tokens.getD 3 [] = ascii "true"
  | .releaseAllTangents _ => True
  | .missionEnd => True
  | _ => False

/-- The command is no TANGENT, or one that names no frequency and presses nothing. -/
def LeavesTangent : Command → Prop
  | .tangent tokens =>
      5 ≤ tokens.length → tokens.getD 1 [] ≠ ascii "PRESSED" ∧ tokens.getD 2 [] = []
  | _ => True

instance (c : Command) : Decidable c.LiftsMute := by
  unfold LiftsMute
  split <;> infer_instance

instance (c : Command) : Decidable c.LeavesTangent := by
  unfold LeavesTangent
  split <;> infer_instance

end Command

end Extension

open Extension

/-- What happens to the extension: a call from SQF, or a tick. -/
inductive AddonEvent where
  | call (now : Time) (opusVersion input : Bytes)
  | tick (now : Time) (orders : TickOrders)

namespace AddonEvent

def step (g : Globals) : AddonEvent → Globals
  | .call now opusVersion input => (g.process now opusVersion input).1
  | .tick now orders => g.tick now orders

/-- The command of the event, if it is a call with one. -/
def command : AddonEvent → Option Command
  | .call _ _ input => inputCommand input
  | .tick _ _ => none

/-- The event is a call whose command lifts the mute. -/
def LiftsMute (e : AddonEvent) : Prop :=
  match e.command with
  | some c => c.LiftsMute
  | none => False

/-- The event leaves the tangent released and its frequency cleared. -/
def LeavesTangent (e : AddonEvent) : Prop :=
  match e.command with
  | some c => c.LeavesTangent
  | none => True

instance (e : AddonEvent) : Decidable e.LiftsMute := by
  unfold LiftsMute
  split <;> infer_instance

instance (e : AddonEvent) : Decidable e.LeavesTangent := by
  unfold LeavesTangent
  split <;> infer_instance

/-- The override that counts: the one that waits for the next tick, else the one that the
transmit gate has. -/
def effectiveOverride (g : Globals) : Option Bool :=
  match g.state.pendingTransmitOverride with
  | some newOverride => newOverride
  | none =>
      if g.voice.transmit.hasAddonOverride then some g.voice.transmit.addonOverrideValue else none

structure Muted (g : Globals) : Prop where
  blocked : effectiveOverride g = some false
  released : g.state.tangentPressed = false

/-- The slot and the tangent, as far as they decide about the mute. -/
structure SameTangent (s s' : State) : Prop where
  pending : s'.pendingTransmitOverride = s.pendingTransmitOverride
  pressed : s'.tangentPressed = s.tangentPressed
  frequency : s'.txFrequency = s.txFrequency

/-- What KILLED leaves. -/
structure Blocked (s : State) : Prop where
  pending : s.pendingTransmitOverride = some (some false)
  pressed : s.tangentPressed = false
  frequency : s.txFrequency = []

private theorem handleKilled_cases (s : State) (nickname : Bytes) :
    SameTangent s (s.handleKilled nickname) ∨ Blocked (s.handleKilled nickname) := by
  have hdead : ∀ name, SameTangent s (s.markDead name) := by
    intro name
    rw [State.markDead_frame]
    exact ⟨rfl, rfl, rfl⟩
  simp only [State.handleKilled]
  split
  · exact Or.inr ⟨rfl, rfl, rfl⟩
  · exact Or.inl (hdead _)

private theorem execute_cases (s : State) (now : Time) {c : Command} (hlift : ¬ c.LiftsMute)
    (hleaves : (∃ tokens, c = .tangent tokens) → False) :
    SameTangent s (s.execute now c) ∨ Blocked (s.execute now c) := by
  cases c with
  | pos tokens =>
    apply Or.inl
    show SameTangent s (s.handlePos now tokens)
    rw [State.handlePos_frame]
    exact ⟨rfl, rfl, rfl⟩
  | freq tokens =>
    apply Or.inl
    show SameTangent s (s.handleFreq tokens)
    unfold State.handleFreq
    split
    · exact ⟨rfl, rfl, rfl⟩
    · rename_i hlength
      have hdead : (s.readFreq tokens).alive = false := by
        have halive : tokens.getD 3 [] ≠ ascii "true" := by
          intro h
          exact hlift ⟨not_lt.mp hlength, h⟩
        show (tokens.getD 3 [] == ascii "true") = false
        simpa using halive
      dsimp only
      rw [hdead, Bool.and_false, if_neg Bool.false_ne_true]
      exact ⟨rfl, rfl, rfl⟩
  | tangent tokens => exact (hleaves ⟨tokens, rfl⟩).elim
  | speakers tokens =>
    apply Or.inl
    show SameTangent s (s.handleSpeakers tokens)
    rw [State.handleSpeakers_frame]
    exact ⟨rfl, rfl, rfl⟩
  | setCfg tokens =>
    apply Or.inl
    show SameTangent s (s.handleSetCfg tokens)
    rw [State.handleSetCfg_frame]
    exact ⟨rfl, rfl, rfl⟩
  | killed nickname => exact handleKilled_cases s nickname
  | uid nickname uid =>
    apply Or.inl
    show SameTangent s (s.handleUid nickname uid)
    rw [State.handleUid_frame]
    exact ⟨rfl, rfl, rfl⟩
  | releaseAllTangents nickname => exact (hlift trivial).elim
  | addRadioTowers payload =>
    apply Or.inl
    show SameTangent s (s.handleAddRadioTowers payload)
    rw [State.handleAddRadioTowers_frame]
    exact ⟨rfl, rfl, rfl⟩
  | delRadioTowers payload =>
    apply Or.inl
    show SameTangent s (s.handleDelRadioTowers payload)
    rw [State.handleDelRadioTowers_frame]
    exact ⟨rfl, rfl, rfl⟩
  | dataFrame => exact Or.inl ⟨rfl, rfl, rfl⟩
  | missionEnd => exact (hlift trivial).elim
  | micPtt held => exact Or.inl ⟨rfl, rfl, rfl⟩
  | micMute => exact Or.inl ⟨rfl, rfl, rfl⟩
  | speakerMute => exact Or.inl ⟨rfl, rfl, rfl⟩
  | ignored => exact Or.inl ⟨rfl, rfl, rfl⟩

private theorem handleTangent_cases {s : State} (hpressed : s.tangentPressed = false)
    (hfrequency : s.txFrequency = []) (tokens : List Bytes) :
    (Command.LeavesTangent (.tangent tokens) ∧ s.handleTangent tokens = s) ∨
    (¬ Command.LeavesTangent (.tangent tokens) ∧ ∃ newOverride, newOverride ≠ some false ∧
      (s.handleTangent tokens).pendingTransmitOverride = some newOverride) := by
  unfold State.handleTangent Command.LeavesTangent
  by_cases hlength : tokens.length < 5
  · rw [if_pos hlength]
    exact Or.inl ⟨fun h => absurd hlength (not_lt.mpr h), rfl⟩
  · rw [if_neg hlength]
    dsimp only
    rw [hpressed, hfrequency]
    by_cases hkept : (tokens.getD 1 [] == ascii "PRESSED") = false ∧ [] = tokens.getD 2 []
    · rw [if_pos hkept]
      refine Or.inl ⟨fun _ => ⟨?_, hkept.2.symm⟩, rfl⟩
      simpa using hkept.1
    · rw [if_neg hkept]
      refine Or.inr ⟨?_, _, ?_, rfl⟩
      · intro h
        obtain ⟨hne, hempty⟩ := h (not_lt.mp hlength)
        exact hkept ⟨by simpa using hne, hempty.symm⟩
      · split
        · simp
        · simp

/-- The mute with the frequency that KILLED cleared. -/
structure MutedClear (g : Globals) : Prop where
  muted : Muted g
  frequency : g.state.txFrequency = []

private theorem effectiveOverride_congr {g g' : Globals}
    (hpending : g'.state.pendingTransmitOverride = g.state.pendingTransmitOverride)
    (htransmit : g'.voice.transmit.hasAddonOverride = g.voice.transmit.hasAddonOverride ∧
      g'.voice.transmit.addonOverrideValue = g.voice.transmit.addonOverrideValue) :
    effectiveOverride g' = effectiveOverride g := by
  simp only [effectiveOverride]
  rw [hpending, htransmit.1, htransmit.2]

private theorem mutedClear_of_cases {g g' : Globals} (h : MutedClear g)
    (htransmit : g'.voice.transmit.hasAddonOverride = g.voice.transmit.hasAddonOverride ∧
      g'.voice.transmit.addonOverrideValue = g.voice.transmit.addonOverrideValue)
    (hcases : SameTangent g.state g'.state ∨ Blocked g'.state) :
    MutedClear g' := by
  rcases hcases with hsame | hblocked
  · refine ⟨⟨?_, hsame.pressed.trans h.muted.released⟩, hsame.frequency.trans h.frequency⟩
    rw [effectiveOverride_congr hsame.pending htransmit]
    exact h.muted.blocked
  · refine ⟨⟨?_, hblocked.pressed⟩, hblocked.frequency⟩
    simp only [effectiveOverride]
    rw [hblocked.pending]

private theorem effectiveOverride_applyOverride (g : Globals) :
    effectiveOverride g.applyOverride = effectiveOverride g := by
  unfold effectiveOverride Globals.applyOverride State.takeTransmitOverride
  cases g.state.pendingTransmitOverride with
  | none => rfl
  | some newOverride => cases newOverride <;> rfl

private theorem executeVoice_override (v : Voice.VoiceSession) (c : Command) :
    (executeVoice v c).transmit.hasAddonOverride = v.transmit.hasAddonOverride ∧
      (executeVoice v c).transmit.addonOverrideValue = v.transmit.addonOverrideValue := by
  cases c <;> exact ⟨rfl, rfl⟩

private theorem tick_mutedClear {g : Globals} (h : MutedClear g) (now : Time)
    (orders : TickOrders) :
    MutedClear (g.tick now orders) := by
  have hstate : ∀ s, (g.beforeSolver now orders).state = s →
      (g.tick now orders).state.tangentPressed = s.tangentPressed ∧
        (g.tick now orders).state.txFrequency = s.txFrequency := by
    intro s hs
    rw [← hs]
    exact ⟨rfl, rfl⟩
  obtain ⟨hpressed, hfrequency⟩ := hstate _ (g.beforeSolver_state now orders)
  have hqueued : (((g.applySettings.applyIdentity.announceLocalTx now).1.relayRemoteTx now
      orders).localBeep.1).state.pendingTransmitOverride = g.state.pendingTransmitOverride := by
    show ((g.voice.currentRadioTx now orders.txCache).foldl
      (Globals.pushRemoteTx now orders.nameToUid)
      g.applySettings.applyIdentity.state).pendingTransmitOverride = _
    rw [Globals.pushAll_frame]
    rfl
  have hgate : (g.tick now orders).voice.transmit = (g.beforeSolver now orders).voice.transmit := by
    show (Voice.VoiceSession.applyAudibility _ _ _).transmit = _
    simp only [Voice.VoiceSession.applyAudibility]
    split <;> rfl
  refine ⟨⟨?_, hpressed.trans h.muted.released⟩, hfrequency.trans h.frequency⟩
  calc effectiveOverride (g.tick now orders)
      = effectiveOverride (g.beforeSolver now orders) :=
        effectiveOverride_congr rfl (by rw [hgate]; exact ⟨rfl, rfl⟩)
    _ = effectiveOverride
          ((g.applySettings.applyIdentity.announceLocalTx now).1.relayRemoteTx now
            orders).localBeep.1 := effectiveOverride_applyOverride _
    _ = effectiveOverride g := effectiveOverride_congr hqueued ⟨rfl, rfl⟩
    _ = some false := h.muted.blocked

private theorem step_muted {g : Globals} (h : MutedClear g) {e : AddonEvent}
    (hlift : ¬ e.LiftsMute) :
    (e.LeavesTangent → MutedClear (step g e)) ∧ (Muted (step g e) → e.LeavesTangent) := by
  cases e with
  | tick now orders => exact ⟨fun _ => tick_mutedClear h now orders, fun _ => trivial⟩
  | call now opusVersion input =>
    obtain ⟨since, requestedAt, heq⟩ := g.process_eq now opusVersion input
    have hstep : step g (.call now opusVersion input) = (g.process now opusVersion input).1 := rfl
    simp only [LiftsMute] at hlift
    simp only [LeavesTangent]
    dsimp only [command] at hlift ⊢
    rw [hstep, heq]
    cases hc : inputCommand input with
    | none => exact ⟨fun _ => h, fun _ => trivial⟩
    | some c =>
      rw [hc] at hlift
      have hvoice := executeVoice_override g.voice c
      dsimp only at hlift ⊢
      by_cases htangent : ∃ tokens, c = .tangent tokens
      · obtain ⟨tokens, rfl⟩ := htangent
        rcases handleTangent_cases h.muted.released h.frequency tokens with
          ⟨hleaves, hsame⟩ | ⟨hpresses, newOverride, hne, hpending⟩
        · refine ⟨fun _ => mutedClear_of_cases h hvoice (Or.inl ?_), fun _ => hleaves⟩
          show SameTangent g.state
            { g.state.handleTangent tokens with configRequestedAt := requestedAt }
          rw [hsame]
          exact ⟨rfl, rfl, rfl⟩
        · refine ⟨fun hleaves => absurd hleaves hpresses, ?_⟩
          intro hmuted
          have hblocked := hmuted.blocked
          have hslot : (g.execute now (.tangent tokens)).state.pendingTransmitOverride =
              some newOverride := hpending
          simp only [effectiveOverride] at hblocked
          rw [hslot] at hblocked
          exact absurd hblocked hne
      · have hcases := execute_cases g.state now hlift (fun hex => htangent hex)
        have hleaves : c.LeavesTangent := by
          cases c with
          | tangent tokens => exact absurd ⟨tokens, rfl⟩ htangent
          | _ => trivial
        refine ⟨fun _ => mutedClear_of_cases h hvoice ?_, fun _ => hleaves⟩
        rcases hcases with hsame | hblocked
        · exact Or.inl ⟨hsame.pending, hsame.pressed, hsame.frequency⟩
        · exact Or.inr ⟨hblocked.pending, hblocked.pressed, hblocked.frequency⟩

private theorem mutedClear_of_killed {g : Globals} (now : Time) (opusVersion : Bytes)
    {input nickname : Bytes} (hcommand : inputCommand input = some (.killed nickname))
    (hname : g.state.myNickname ≠ []) (hlocal : convertNickname nickname = g.state.myNickname) :
    MutedClear (step g (.call now opusVersion input)) := by
  obtain ⟨since, requestedAt, heq⟩ := g.process_eq now opusVersion input
  have hstep : step g (.call now opusVersion input) = (g.process now opusVersion input).1 := rfl
  rw [hstep, heq, hcommand]
  have hsame : (g.state.markDead (convertNickname nickname)).myNickname = g.state.myNickname := by
    rw [State.markDead_frame]
  have hblocked : Blocked (g.state.handleKilled nickname) := by
    simp only [State.handleKilled]
    rw [hsame, if_pos ⟨hlocal ▸ hname, hlocal⟩]
    exact ⟨rfl, rfl, rfl⟩
  refine ⟨⟨?_, hblocked.pressed⟩, hblocked.frequency⟩
  have hpending : (g.execute now (.killed nickname)).state.pendingTransmitOverride =
      some (some false) := hblocked.pending
  simp only [effectiveOverride]
  rw [hpending]

/-- From the death of the local player, and as long as nothing lifts the mute by design, the
player stays muted exactly if no TANGENT presses something or names a frequency. -/
theorem throughout_muted_iff {g : Globals} (now : Time) (opusVersion : Bytes)
    {input nickname : Bytes} (hcommand : inputCommand input = some (.killed nickname))
    (hname : g.state.myNickname ≠ []) (hlocal : convertNickname nickname = g.state.myNickname)
    (history : List AddonEvent) (hlift : ∀ e ∈ history, ¬ e.LiftsMute) :
    Throughout step Muted (step g (.call now opusVersion input)) history ↔
      ∀ e ∈ history, e.LeavesTangent := by
  have hstart := mutedClear_of_killed now opusVersion hcommand hname hlocal
  have hboth : (Throughout step Muted (step g (.call now opusVersion input)) history →
      ∀ e ∈ history, e.LeavesTangent) ∧
      ((∀ e ∈ history, e.LeavesTangent) →
        Throughout step MutedClear (step g (.call now opusVersion input)) history) := by
    induction history with
    | nil => exact ⟨fun _ e he => absurd he List.not_mem_nil, fun _ => hstart⟩
    | cons e earlier ih =>
      obtain ⟨ihLeaves, ihMuted⟩ := ih (fun e' he' => hlift e' (List.mem_cons_of_mem _ he'))
      have hliftE := hlift e List.mem_cons_self
      constructor
      · intro h
        have hearlier := ihLeaves h.1
        have hclear := (ihMuted hearlier).last
        intro e' he'
        rcases List.mem_cons.mp he' with rfl | he'
        · exact (step_muted hclear hliftE).2 h.2
        · exact hearlier e' he'
      · intro h
        have hearlier := ihMuted (fun e' he' => h e' (List.mem_cons_of_mem _ he'))
        exact ⟨hearlier, (step_muted hearlier.last hliftE).1 (h e List.mem_cons_self)⟩
  exact ⟨hboth.1, fun h => (hboth.2 h).imp fun g' hg' => hg'.muted⟩

/-- Bob is the local player and alive. -/
def bobAlive : Globals :=
  step {} (.call 0 [] (ascii "FREQ\t[]\t[]\ttrue\t20\tBob\t0\t7\t1\t1\t20~"))

/-- Releasing the voice modifier key, as its handler reports it, lifts the mute of the dead
player. -/
theorem voice_modifier_lifts_mute :
    ¬ Throughout step Muted (step bobAlive (.call 0 [] (ascii "KILLED\tBob~")))
      [.call 1 [] (ascii "TANGENT\tRELEASED\tdirectSpeechFreq\t0\tdirectSpeech~")] := by
  intro h
  exact absurd h.last.blocked (by decide)

/-- Through other commands and ticks the dead player stays muted. -/
theorem dead_player_stays_muted :
    Throughout step Muted (step bobAlive (.call 0 [] (ascii "KILLED\tBob~")))
      [.tick 3 {},
        .call 2 [] (ascii "FREQ\t[]\t[]\tfalse\t20\tBob\t0\t7\t1\t1\t20~"),
        .call 1 [] (ascii "UID\tBob\tB~"),
        .tick 1 {}] :=
  (@throughout_muted_iff bobAlive 0 [] (ascii "KILLED\tBob~") (ascii "Bob") (by decide) (by decide)
    (by decide) _ (by decide)).mpr (by decide)

end AddonEvent

end TaskForceRadio
