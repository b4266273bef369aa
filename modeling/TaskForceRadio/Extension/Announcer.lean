import TaskForceRadio.Foundation.Execution
import TaskForceRadio.Extension.Tick

/-!
# The schedule of the radio announcements

Every tick compares the local transmission with what was announced last. Receivers forget a
transmission they stop hearing about, so an active one is repeated and the end of one is said
on three ticks. The log of a run keeps what was announced and when.
-/

set_option autoImplicit false

namespace TaskForceRadio.Extension

open Voice (Time milliseconds seconds)

/-- What one tick of `senderMain` reads: the clock and the local transmission. -/
structure TxTick where
  now : Time
  tx : State.LocalTxState

/-- One call of `sendRadioTx`. -/
structure TxAnnouncement where
  sentAt : Time
  active : Bool
  freq : Bytes
  range : UInt16
  subtype : Bytes
  deriving DecidableEq, Repr

namespace TxTick

def announcement (t : TxTick) : TxAnnouncement where
  sentAt := t.now
  active := t.tx.active
  freq := t.tx.freq
  range := Globals.clampedRange t.tx.range
  subtype := t.tx.subtype

/-- The state of the newest tick; before the first one nothing is transmitted. -/
def activeAfter : List TxTick → Bool
  | [] => false
  | t :: _ => t.tx.active

/-- The tick that comes after `earlier` ends a transmission. -/
def Stops (t : TxTick) (earlier : List TxTick) : Prop :=
  t.tx.active = false ∧ activeAfter earlier = true

instance (t : TxTick) (earlier : List TxTick) : Decidable (t.Stops earlier) := by
  unfold Stops
  infer_instance

/-- How often a transmission ended. -/
def stops : List TxTick → Nat
  | [] => 0
  | t :: earlier => stops earlier + if t.Stops earlier then 1 else 0

/-- The newest tick ends a transmission or follows such a tick at a distance of at most
`repeats`, with nothing transmitted since. -/
def StopsWithin (repeats : Nat) (history : List TxTick) : Prop :=
  ∃ quiet stop earlier, history = quiet ++ stop :: earlier ∧ quiet.length ≤ repeats ∧
    (∀ t ∈ quiet, t.tx.active = false) ∧ Stops stop earlier

end TxTick

/-- The announcer and what it sent, newest first. -/
structure AnnouncerRun where
  announcer : RadioTxAnnouncer := {}
  sent : List TxAnnouncement := []

namespace AnnouncerRun

def sends (r : AnnouncerRun) (t : TxTick) : Bool :=
  (r.announcer.announce t.now t.tx (Globals.clampedRange t.tx.range)).2

def step (r : AnnouncerRun) (t : TxTick) : AnnouncerRun where
  announcer := (r.announcer.announce t.now t.tx (Globals.clampedRange t.tx.range)).1
  sent := if r.sends t then t.announcement :: r.sent else r.sent

/-- The run of the ticks, newest first, from the start of the extension. -/
def after (history : List TxTick) : AnnouncerRun := runHistory step {} history

/-- How many of the announcements say that nothing is transmitted. -/
def inactiveSent (r : AnnouncerRun) : Nat := r.sent.countP (fun a => !a.active)

@[simp] theorem after_nil : after [] = {} := rfl

@[simp] theorem after_cons (t : TxTick) (earlier : List TxTick) :
    after (t :: earlier) = (after earlier).step t := rfl

end AnnouncerRun

namespace RadioTxAnnouncer

variable {a : RadioTxAnnouncer} {now : Time} {tx : State.LocalTxState} {range : UInt16}

private theorem announce_sent (h : (a.announce now tx range).2 = true) :
    (a.announce now tx range).1 =
      { sentActive := tx.active
        sentFreq := tx.freq
        sentSubtype := tx.subtype
        sentRange := range
        lastSend := now
        inactiveRepeatsLeft := (a.schedule now tx range).2 } := by
  simp only [announce] at h ⊢
  cases hsend : (a.schedule now tx range).1 with
  | false => simp [hsend] at h
  | true => simp

private theorem announce_silent (h : (a.announce now tx range).2 = false) :
    (a.announce now tx range).1 =
      { a with inactiveRepeatsLeft := (a.schedule now tx range).2 } := by
  simp only [announce] at h ⊢
  cases hsend : (a.schedule now tx range).1 with
  | false => simp
  | true => simp [hsend] at h

private theorem announce_snd : (a.announce now tx range).2 = (a.schedule now tx range).1 := by
  simp only [announce]
  split <;> simp_all

private theorem announce_repeats :
    (a.announce now tx range).1.inactiveRepeatsLeft = (a.schedule now tx range).2 := by
  simp only [announce]
  split <;> rfl

private theorem unchanged_of_silent (h : (a.announce now tx range).2 = false) :
    a.changed tx range = false := by
  rw [announce_snd] at h
  cases hchanged : a.changed tx range with
  | false => rfl
  | true => simp [schedule, hchanged] at h

private theorem changed_false (h : a.changed tx range = false) :
    tx.active = a.sentActive ∧
      (tx.active = true → tx.freq = a.sentFreq ∧ range = a.sentRange ∧
        tx.subtype = a.sentSubtype) := by
  simp only [changed, Bool.or_eq_false_iff, bne_eq_false_iff_eq, Bool.and_eq_false_iff] at h
  obtain ⟨hactive, hdata⟩ := h
  refine ⟨hactive, fun hon => ?_⟩
  rcases hdata with hoff | ⟨⟨hfreq, hrange⟩, hsubtype⟩
  · rw [hon] at hoff
    cases hoff
  · exact ⟨hfreq, hrange, hsubtype⟩

private theorem changed_of_inactive (h : tx.active = false) :
    a.changed tx range = a.sentActive := by
  cases hsent : a.sentActive <;> simp [changed, h, hsent]

private theorem schedule_inactive (h : tx.active = false) :
    a.schedule now tx range =
      if a.sentActive then (true, 2)
      else (decide (0 < a.inactiveRepeatsLeft), a.inactiveRepeatsLeft - 1) := by
  rw [schedule, changed_of_inactive h]
  cases hsent : a.sentActive with
  | true => simp [h]
  | false =>
    rcases Nat.eq_zero_or_pos a.inactiveRepeatsLeft with hzero | hpos
    · simp [h, hzero]
    · simp [h, hpos]

private theorem schedule_active (h : tx.active = true) :
    a.schedule now tx range =
      (a.changed tx range || decide (now - a.lastSend ≥ milliseconds 500),
        a.inactiveRepeatsLeft) := by
  cases hchanged : a.changed tx range with
  | true => simp [schedule, hchanged, h]
  | false => simp [schedule, hchanged, h]

end RadioTxAnnouncer

namespace Globals

theorem announcer_tick (g : Globals) (now : Time) (orders : TickOrders) :
    (g.tick now orders).announcer =
      (g.announcer.announce now g.state.localTxState
        (clampedRange g.state.localTxState.range)).1 := by
  have hsolver : ∀ g' : Globals, (g'.applySolver now orders).announcer = g'.announcer :=
    fun _ => rfl
  have hoverride : ∀ g' : Globals, g'.applyOverride.announcer = g'.announcer := by
    intro g'
    simp only [applyOverride]
    split <;> rfl
  rw [tick, hsolver, beforeSolver, hoverride]
  rfl

theorem tickSends_eq (g : Globals) (now : Time) :
    g.tickSends now =
      if (g.announcer.announce now g.state.localTxState
          (clampedRange g.state.localTxState.range)).2 then
        g.applySettings.applyIdentity.voice.network.sendRadioTx g.state.localTxState.active
          g.state.localTxState.freq (clampedRange g.state.localTxState.range)
          g.state.localTxState.subtype
      else [] := rfl

end Globals

namespace TxTick

variable {t : TxTick} {earlier : List TxTick}

private theorem stopsWithin_zero : StopsWithin 0 (t :: earlier) ↔ t.Stops earlier := by
  constructor
  · rintro ⟨quiet, stop, before, hsplit, hlen, -, hstop⟩
    cases quiet with
    | nil =>
      obtain ⟨rfl, rfl⟩ := List.cons_eq_cons.mp hsplit
      exact hstop
    | cons q quiet => exact absurd hlen (Nat.not_succ_le_zero _)
  · intro hstop
    exact ⟨[], t, earlier, rfl, le_refl 0, by simp, hstop⟩

private theorem stopsWithin_succ (repeats : Nat) :
    StopsWithin (repeats + 1) (t :: earlier) ↔
      t.Stops earlier ∨ (t.tx.active = false ∧ StopsWithin repeats earlier) := by
  constructor
  · rintro ⟨quiet, stop, before, hsplit, hlen, hquiet, hstop⟩
    cases quiet with
    | nil =>
      obtain ⟨rfl, rfl⟩ := List.cons_eq_cons.mp hsplit
      exact Or.inl hstop
    | cons q quiet =>
      obtain ⟨rfl, rfl⟩ := List.cons_eq_cons.mp hsplit
      refine Or.inr ⟨hquiet t List.mem_cons_self, quiet, stop, before, rfl, ?_, ?_, hstop⟩
      · exact Nat.le_of_succ_le_succ hlen
      · exact fun u hu => hquiet u (List.mem_cons_of_mem _ hu)
  · rintro (hstop | ⟨hoff, quiet, stop, before, rfl, hlen, hquiet, hstop⟩)
    · exact ⟨[], t, earlier, rfl, Nat.zero_le _, by simp, hstop⟩
    · refine ⟨t :: quiet, stop, before, rfl, Nat.succ_le_succ hlen, ?_, hstop⟩
      intro u hu
      rcases List.mem_cons.mp hu with rfl | hu
      · exact hoff
      · exact hquiet u hu

end TxTick

namespace AnnouncerRun

open TxTick

/-- The announcement that the statics remember. -/
def remembered (a : RadioTxAnnouncer) : TxAnnouncement where
  sentAt := a.lastSend
  active := a.sentActive
  freq := a.sentFreq
  range := a.sentRange
  subtype := a.sentSubtype

/-- What the statics say after the ticks of a history. -/
structure UpToDate (history : List TxTick) (r : AnnouncerRun) : Prop where
  edge : r.announcer.sentActive = activeAfter history
  logged : (r.sent = [] ∧ r.announcer.sentActive = false) ∨
    r.sent.head? = some (remembered r.announcer)
  few : r.announcer.inactiveRepeatsLeft ≤ 2
  one : activeAfter history = false →
    (1 ≤ r.announcer.inactiveRepeatsLeft ↔ StopsWithin 1 history)
  two : activeAfter history = false →
    (2 ≤ r.announcer.inactiveRepeatsLeft ↔ StopsWithin 0 history)
  counted : r.inactiveSent +
      (if activeAfter history then 0 else r.announcer.inactiveRepeatsLeft) ≤ 3 * stops history

private theorem sentActive_step (r : AnnouncerRun) (t : TxTick) :
    (r.step t).announcer.sentActive = t.tx.active := by
  cases hsends : r.sends t with
  | true => simp only [step, RadioTxAnnouncer.announce_sent hsends]
  | false =>
    have hkept := RadioTxAnnouncer.changed_false (RadioTxAnnouncer.unchanged_of_silent hsends)
    simp only [step, RadioTxAnnouncer.announce_silent hsends]
    exact hkept.1.symm

private theorem sent_step (r : AnnouncerRun) (t : TxTick) :
    (r.step t).sent = if r.sends t then t.announcement :: r.sent else r.sent := rfl

private theorem logged_step {r : AnnouncerRun} (t : TxTick)
    (h : (r.sent = [] ∧ r.announcer.sentActive = false) ∨
      r.sent.head? = some (remembered r.announcer)) :
    ((r.step t).sent = [] ∧ (r.step t).announcer.sentActive = false) ∨
      (r.step t).sent.head? = some (remembered (r.step t).announcer) := by
  cases hsends : r.sends t with
  | true =>
    apply Or.inr
    rw [sent_step, hsends, if_pos rfl, List.head?_cons]
    simp only [step, RadioTxAnnouncer.announce_sent hsends]
    rfl
  | false =>
    simp only [step, hsends, RadioTxAnnouncer.announce_silent hsends]
    exact h

private theorem sends_inactive {r : AnnouncerRun} {t : TxTick} (h : t.tx.active = false) :
    r.sends t = true ↔
      r.announcer.sentActive = true ∨ 1 ≤ r.announcer.inactiveRepeatsLeft := by
  rw [sends, RadioTxAnnouncer.announce_snd, RadioTxAnnouncer.schedule_inactive h]
  cases hsent : r.announcer.sentActive with
  | true => simp
  | false => simp [Nat.pos_iff_ne_zero, Nat.one_le_iff_ne_zero]

private theorem repeats_inactive {r : AnnouncerRun} {t : TxTick} (h : t.tx.active = false) :
    (r.step t).announcer.inactiveRepeatsLeft =
      if r.announcer.sentActive then 2 else r.announcer.inactiveRepeatsLeft - 1 := by
  simp only [step, RadioTxAnnouncer.announce_repeats, RadioTxAnnouncer.schedule_inactive h]
  cases r.announcer.sentActive <;> rfl

private theorem repeats_active {r : AnnouncerRun} {t : TxTick} (h : t.tx.active = true) :
    (r.step t).announcer.inactiveRepeatsLeft = r.announcer.inactiveRepeatsLeft := by
  simp only [step, RadioTxAnnouncer.announce_repeats, RadioTxAnnouncer.schedule_active h]

private theorem inactiveSent_step (r : AnnouncerRun) (t : TxTick) :
    (r.step t).inactiveSent =
      r.inactiveSent + if r.sends t = true ∧ t.tx.active = false then 1 else 0 := by
  rw [inactiveSent, sent_step]
  cases hsends : r.sends t with
  | false => simp [inactiveSent]
  | true =>
    have hactive : t.announcement.active = t.tx.active := rfl
    cases h : t.tx.active <;> simp [inactiveSent, hactive, h]

private theorem stops_iff {r : AnnouncerRun} {t : TxTick} {earlier : List TxTick}
    (hedge : r.announcer.sentActive = activeAfter earlier) (h : t.tx.active = false) :
    t.Stops earlier ↔ r.announcer.sentActive = true := by
  rw [hedge]
  exact ⟨fun hstop => hstop.2, fun hsent => ⟨h, hsent⟩⟩

theorem UpToDate.step {earlier : List TxTick} {r : AnnouncerRun} (h : UpToDate earlier r)
    (t : TxTick) :
    UpToDate (t :: earlier) (r.step t) := by
  have hedge := h.edge
  have hfew := h.few
  have hcounted := h.counted
  cases hon : t.tx.active with
  | true =>
    have hleft := repeats_active (r := r) hon
    have hnostop : ¬t.Stops earlier := by simp [Stops, hon]
    refine ⟨sentActive_step r t, logged_step t h.logged, by rw [hleft]; exact hfew, ?_, ?_, ?_⟩
    · intro hoff
      simp [activeAfter, hon] at hoff
    · intro hoff
      simp [activeAfter, hon] at hoff
    · rw [inactiveSent_step]
      simp only [activeAfter, stops, hon, hnostop]
      split at hcounted <;> simp <;> omega
  | false =>
    have hleft := repeats_inactive (r := r) hon
    have hstops := stops_iff (t := t) hedge hon
    have hsends := sends_inactive (r := r) hon
    have hactive : activeAfter (t :: earlier) = false := hon
    cases hsent : r.announcer.sentActive with
    | true =>
      -- the end of a transmission: two repeats are left
      have hstop := hstops.mpr hsent
      rw [hsent, if_pos rfl] at hleft
      rw [hsent] at hedge
      rw [← hedge] at hcounted
      refine ⟨sentActive_step r t, logged_step t h.logged, by rw [hleft],
        fun _ => ?_, fun _ => ?_, ?_⟩
      · rw [hleft, stopsWithin_succ]
        exact ⟨fun _ => Or.inl hstop, fun _ => by decide⟩
      · rw [hleft, stopsWithin_zero]
        exact ⟨fun _ => hstop, fun _ => by decide⟩
      · rw [inactiveSent_step, hleft, hactive]
        simp only [stops, hstop, hsends.mpr (Or.inl hsent), hon]
        simp at hcounted ⊢
        omega
    | false =>
      -- a repeat of an earlier end, if one is left
      have hnostop : ¬t.Stops earlier := by rw [hstops, hsent]; exact Bool.false_ne_true
      rw [hsent] at hedge hleft hsends
      have hquiet := hedge.symm
      have hone := h.one hquiet
      rw [hquiet] at hcounted
      simp only [Bool.false_eq_true, if_false, false_or] at hleft hsends hcounted
      refine ⟨sentActive_step r t, logged_step t h.logged, by rw [hleft]; omega,
        fun _ => ?_, fun _ => ?_, ?_⟩
      · rw [hleft, stopsWithin_succ, ← h.two hquiet]
        constructor
        · intro hle
          exact Or.inr ⟨hon, by omega⟩
        · rintro (hstop | ⟨-, hle⟩)
          · exact absurd hstop hnostop
          · omega
      · rw [hleft, stopsWithin_zero]
        exact ⟨fun hle => by omega, fun hstop => absurd hstop hnostop⟩
      · rw [inactiveSent_step, hleft, hactive]
        simp only [stops, hnostop, hsends, hon]
        simp
        split <;> omega

private theorem upToDate_after (history : List TxTick) : UpToDate history (after history) := by
  induction history with
  | nil =>
    refine ⟨rfl, Or.inl ⟨rfl, rfl⟩, Nat.zero_le _, fun _ => ?_, fun _ => ?_, Nat.zero_le _⟩
    · constructor
      · intro hle
        exact absurd hle (by decide)
      · rintro ⟨quiet, stop, before, hsplit, -⟩
        simp at hsplit
    · constructor
      · intro hle
        exact absurd hle (by decide)
      · rintro ⟨quiet, stop, before, hsplit, -⟩
        simp at hsplit
  | cons t earlier ih => exact ih.step t

/-- The last announcement is about the transmission of this tick. Where there is none, none was
needed so far. -/
def Announces (r : AnnouncerRun) (t : TxTick) : Prop :=
  match r.sent with
  | [] => t.tx.active = false
  | a :: _ => a.active = t.tx.active ∧
      (t.tx.active = true → a.freq = t.tx.freq ∧ a.range = Globals.clampedRange t.tx.range ∧
        a.subtype = t.tx.subtype)

private theorem announces_step {r : AnnouncerRun} (t : TxTick)
    (hlogged : (r.sent = [] ∧ r.announcer.sentActive = false) ∨
      r.sent.head? = some (remembered r.announcer)) :
    (r.step t).Announces t := by
  cases hsends : r.sends t with
  | true =>
    have hsent : (r.step t).sent = t.announcement :: r.sent := by rw [sent_step, hsends, if_pos rfl]
    rw [Announces, hsent]
    exact ⟨rfl, fun _ => ⟨rfl, rfl, rfl⟩⟩
  | false =>
    have hsent : (r.step t).sent = r.sent := by rw [sent_step, hsends]; rfl
    obtain ⟨hactive, hdata⟩ :=
      RadioTxAnnouncer.changed_false (RadioTxAnnouncer.unchanged_of_silent hsends)
    rcases hlogged with ⟨hnone, hoff⟩ | hhead
    · rw [Announces, hsent, hnone]
      exact hactive.trans hoff
    · obtain ⟨rest, hcons⟩ := List.head?_eq_some_iff.mp hhead
      rw [Announces, hsent, hcons]
      refine ⟨hactive.symm, fun hon => ?_⟩
      obtain ⟨hfreq, hrange, hsubtype⟩ := hdata hon
      exact ⟨hfreq.symm, hrange.symm, hsubtype.symm⟩

private theorem sends_refresh {r : AnnouncerRun} {t : TxTick} (hon : t.tx.active = true)
    (hdue : r.announcer.lastSend + milliseconds 500 ≤ t.now) :
    r.sends t = true := by
  rw [sends, RadioTxAnnouncer.announce_snd, RadioTxAnnouncer.schedule_active hon]
  have helapsed : milliseconds 500 ≤ t.now - r.announcer.lastSend :=
    Int.le_sub_left_of_add_le hdue
  simp [helapsed]

/-- After every tick the last announcement is about the current transmission; an active one is
repeated after 500 ms, an end is announced on its tick and the next two, and nothing else is
sent while nothing is transmitted. -/
theorem announcements_on_schedule (t : TxTick) (earlier : List TxTick) :
    (after (t :: earlier)).Announces t ∧
      (∀ a rest, t.tx.active = true → (after earlier).sent = a :: rest →
        a.sentAt + milliseconds 500 ≤ t.now → (after earlier).sends t = true) ∧
      (t.tx.active = false →
        ((after earlier).sends t = true ↔ StopsWithin 2 (t :: earlier))) ∧
      (after (t :: earlier)).inactiveSent ≤ 3 * stops (t :: earlier) := by
  have hearlier := upToDate_after earlier
  refine ⟨announces_step t hearlier.logged, ?_, ?_, ?_⟩
  · intro a rest hon hsent hdue
    rcases hearlier.logged with ⟨hnone, -⟩ | hhead
    · rw [hnone] at hsent
      cases hsent
    · rw [hsent, List.head?_cons, Option.some.injEq] at hhead
      subst hhead
      exact sends_refresh hon hdue
  · intro hoff
    rw [sends_inactive hoff, stopsWithin_succ]
    cases hactive : activeAfter earlier with
    | true =>
      have hsent := hearlier.edge.trans hactive
      exact ⟨fun _ => Or.inl ⟨hoff, hactive⟩, fun _ => Or.inl hsent⟩
    | false =>
      have hsent := hearlier.edge.trans hactive
      rw [hearlier.one hactive, hsent]
      simp [Stops, hactive, hoff]
  · exact le_trans (Nat.le_add_right _ _) (upToDate_after (t :: earlier)).counted

end AnnouncerRun

end TaskForceRadio.Extension
