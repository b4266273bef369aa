import TaskForceRadio.Extension.RemoteTx
import TaskForceRadio.Foundation.Execution

/-!
# Who is transmitting

Two caches are chained: the voice session drops a transmission that ended or is not refreshed
for 1.5 s, and the state keeps what the last tick pushed for another 1.5 s. The end of a
transmission is never pushed, so the state still treats the sender as transmitting after it.
-/

set_option autoImplicit false

namespace TaskForceRadio

open Voice (Time milliseconds RosterOrders RadioTxInfo TxCacheEntry VoiceSession)
open Extension

/-- A delivered RadioTxBroadcast. -/
structure RadioBroadcast where
  receivedAt : Time
  orders : RosterOrders := {}
  sender : UInt32
  active : Bool
  freq : Bytes
  range : UInt16 := 0
  sub : Bytes

inductive RadioEvent where
  | broadcast (b : RadioBroadcast)
  | tick (now : Time) (orders : TickOrders)

namespace RadioEvent

def step (g : Globals) : RadioEvent → Globals
  | .broadcast b =>
      let voice := g.voice.onRadioTx b.receivedAt b.orders b.sender b.active b.freq b.range b.sub
      { g with voice }
  | .tick now orders => g.tick now orders

def lastBroadcast (sessionId : UInt32) : List RadioEvent → Option RadioBroadcast
  | [] => none
  | .broadcast b :: earlier =>
      if b.sender = sessionId then some b else lastBroadcast sessionId earlier
  | .tick _ _ :: earlier => lastBroadcast sessionId earlier

/-- The last broadcast of the session is active and less than 1.5 s old. -/
def Live (sessionId : UInt32) (history : List RadioEvent) (now : Time) : Prop :=
  match lastBroadcast sessionId history with
  | some b => b.active = true ∧ now - b.receivedAt < milliseconds 1500
  | none => False

instance (sessionId : UInt32) (history : List RadioEvent) (now : Time) :
    Decidable (Live sessionId history now) := by
  unfold Live
  split <;> infer_instance

/-- The time of the last tick that found the transmission live. -/
def lastLiveTick (sessionId : UInt32) : List RadioEvent → Option Time
  | [] => none
  | .broadcast _ :: earlier => lastLiveTick sessionId earlier
  | .tick now _ :: earlier =>
      if Live sessionId earlier now then some now else lastLiveTick sessionId earlier

/-- A statement about every tick of a run and the history before it. -/
def EveryTick (P : List RadioEvent → Time → TickOrders → Prop) : List RadioEvent → Prop
  | [] => True
  | .broadcast _ :: earlier => EveryTick P earlier
  | .tick now orders :: earlier => EveryTick P earlier ∧ P earlier now orders

/-- The tick treats `n` as transmitting exactly while the transmission is live, and has no radio
or speaker row for `n` otherwise. -/
structure Agrees (n : Bytes) (sessionId : UInt32) (g : Globals) (history : List RadioEvent)
    (now : Time) (orders : TickOrders) : Prop where
  treated : ((g.beforeSolver now orders).state.liveTx now n).isSome ∧
    n ∈ (g.tick now orders).state.talkingNames ↔ Live sessionId history now
  silent : ¬ Live sessionId history now →
    ∀ unit ∈ ((g.beforeSolver now orders).state.computeAudibleUnits now orders.solver).2,
      unit.nickname = n → unit.fx = .direct ∨ unit.fx = .intercom

/-- A live transmission names a frequency, and after its end no tick comes within 1.5 s of the
last one that found it live. -/
structure Crisp (sessionId : UInt32) (history : List RadioEvent) (now : Time) : Prop where
  named : ∀ b, lastBroadcast sessionId history = some b → Live sessionId history now →
    b.freq ≠ []
  ended : ¬ Live sessionId history now →
    ∀ t, lastLiveTick sessionId history = some t → milliseconds 1500 ≤ now - t

/-- The cache entry that a broadcast leaves. -/
def cached (uid : Bytes) (b : RadioBroadcast) : Option TxCacheEntry :=
  if b.active then
    let info : RadioTxInfo :=
      { uid, active := true, freq := b.freq, range := b.range, subtype := b.sub }
    some { info, receivedAt := b.receivedAt }
  else none

/-- What a run from `start` keeps: the two maps, and in the cache what the last broadcast of
every listed session left. -/
structure Tracked (start g : Globals) (history : List RadioEvent) : Prop where
  names : g.state.nameToUid = start.state.nameToUid
  roster : g.voice.uidToSession = start.voice.uidToSession
  listed : ∀ u k, start.voice.uidToSession.lookup u = some k →
    g.voice.txCache.lookup k = (lastBroadcast k history).bind (cached u)
  unlisted : ∀ k entry, g.voice.txCache.lookup k = some entry →
    ∃ u, start.voice.uidToSession.lookup u = some k

private theorem treated_iff (g : Globals) (n : Bytes) (now : Time) (orders : TickOrders) :
    ((g.beforeSolver now orders).state.liveTx now n).isSome ∧
        n ∈ (g.tick now orders).state.talkingNames ↔
      ∃ tx, (g.tick now orders).state.remoteTx.lookup n = some tx ∧
        now - tx.received < kTxExpiry := by
  -- the solver of the tick sees what the tick filed
  have hsolver : (g.beforeSolver now orders).state.remoteTx = (g.tick now orders).state.remoteTx :=
    rfl
  have htalking : n ∈ (g.tick now orders).state.talkingNames ↔
      ((g.beforeSolver now orders).state.liveTx now n).isSome :=
    State.mem_talkingNames _ now orders.solver n
  rw [htalking, and_self_iff, Option.isSome_iff_exists]
  apply exists_congr
  intro tx
  rw [State.liveTx_eq_some, hsolver]

private theorem cached_active {uid : Bytes} {b : RadioBroadcast} {entry : TxCacheEntry}
    (h : cached uid b = some entry) :
    entry.info.active = true ∧ entry.info.freq = b.freq := by
  simp only [cached] at h
  split at h
  · rw [← Option.some.inj h]
    exact ⟨rfl, rfl⟩
  · cases h

section Runs
variable {start : Globals} (hid : start.Identified)
include hid

private theorem Tracked.identified {g : Globals} {history : List RadioEvent}
    (h : Tracked start g history) : g.Identified where
  uidNonempty := by
    rw [h.roster]
    exact hid.uidNonempty
  oneUid := by
    rw [h.roster]
    exact hid.oneUid
  named := by
    rw [h.roster, h.names]
    exact hid.named
  oneName := by
    rw [h.names]
    exact hid.oneName

private theorem tracked_broadcast {g : Globals} {history : List RadioEvent}
    (h : Tracked start g history)
    (b : RadioBroadcast) :
    Tracked start (step g (.broadcast b)) (.broadcast b :: history) := by
  have hidG := h.identified hid
  have hcache : ∀ k, (step g (.broadcast b)).voice.txCache.lookup k = _ :=
    lookup_onRadioTx g.voice b.receivedAt b.orders b.sender b.active b.freq b.range b.sub
  refine ⟨h.names, (onRadioTx_roster _ _ _ _ _ _ _ _).trans h.roster, ?_, ?_⟩
  · intro u k hu
    have hu' := hu
    rw [← h.roster] at hu'
    rw [hcache k, lastBroadcast]
    by_cases hk : b.sender = k
    · have huid := hidG.uidOf hu' b.orders
      rw [hk, huid, if_pos ⟨rfl, hidG.uidNonempty u k hu'⟩, if_pos rfl]
      rfl
    · rw [if_neg (fun hand => hk hand.1.symm), if_neg hk]
      exact h.listed u k hu
  · intro k entry hentry
    rw [hcache k] at hentry
    split at hentry
    · rename_i hsender
      rw [hsender.1, ← h.roster]
      cases hfirst : Dictionary.firstKeyOf b.orders.uids g.voice.uidToSession b.sender with
      | none =>
        have hempty : g.voice.uidOf b.orders b.sender = [] := by
          simp only [VoiceSession.uidOf]
          rw [hfirst]
          rfl
        exact absurd hempty hsender.2
      | some u => exact ⟨u, Dictionary.firstKeyOf_lookup hfirst⟩
    · exact h.unlisted k entry hentry

omit hid in
private theorem tracked_tick {g : Globals} {history : List RadioEvent} (h : Tracked start g history)
    (now : Time) (orders : TickOrders) :
    Tracked start (step g (.tick now orders)) (.tick now orders :: history) := by
  obtain ⟨hnames, _, hcache, hroster⟩ := g.tick_frame now orders
  refine ⟨hnames.trans h.names, hroster.trans h.roster, ?_, ?_⟩
  · intro u k hu
    show (g.tick now orders).voice.txCache.lookup k = (lastBroadcast k history).bind (cached u)
    rw [hcache]
    exact h.listed u k hu
  · intro k entry hentry
    have hentry' : (g.tick now orders).voice.txCache.lookup k = some entry := hentry
    rw [hcache] at hentry'
    exact h.unlisted k entry hentry'

private theorem tracked_run (hcache : start.voice.txCache = ∅) (history : List RadioEvent) :
    Tracked start (runHistory step start history) history := by
  induction history with
  | nil =>
    refine ⟨rfl, rfl, ?_, ?_⟩
    · intro u k _
      rw [runHistory_nil, hcache]
      rfl
    · intro k entry hentry
      rw [runHistory_nil, hcache] at hentry
      cases hentry
  | cons e earlier ih =>
    cases e with
    | broadcast b => exact tracked_broadcast hid ih b
    | tick now orders => exact tracked_tick ih now orders

section Sender
variable {n u : Bytes} {sessionId : UInt32} (hname : start.state.nameToUid.lookup n = some u)
  (hsession : start.voice.uidToSession.lookup u = some sessionId)
include hname hsession

private theorem only_sender {g : Globals} {history : List RadioEvent} (h : Tracked start g history)
    {now : Time} {orders : TickOrders} {tx : RadioTxInfo}
    (hmem : tx ∈ g.voice.currentRadioTx now orders.txCache)
    (hattributed : g.state.attributed orders.nameToUid tx.uid = some n) :
    ∃ b, lastBroadcast sessionId history = some b ∧ Live sessionId history now ∧
      ∃ entry, cached u b = some entry ∧ entry.info = tx := by
  obtain ⟨k, entry, hentry, hfresh, rfl⟩ := mem_currentRadioTx.mp hmem
  obtain ⟨u', hu'⟩ := h.unlisted k entry hentry
  rw [h.listed u' k hu'] at hentry
  obtain ⟨b, hb, hcached⟩ := Option.bind_eq_some_iff.mp hentry
  have hinfo := hcached
  simp only [cached] at hinfo
  split at hinfo
  · rename_i hactive
    have hentryEq := (Option.some.inj hinfo).symm
    -- the entry carries the uid of its session, which has one nickname
    have huid : entry.info.uid = u' := by rw [hentryEq]
    obtain ⟨n', _, hn'⟩ := hid.named u' k hu'
    have hidG := h.identified hid
    have hattr := hidG.attributed (u := u') (n := n') (k := k) (by rw [h.roster]; exact hu')
      (by rw [h.names]; exact hn') orders.nameToUid
    rw [huid, hattr] at hattributed
    rw [Option.some.inj hattributed, hname] at hn'
    have hu : u = u' := Option.some.inj hn'
    rw [← hu, hsession] at hu'
    have hk : sessionId = k := Option.some.inj hu'
    rw [hk, hu]
    refine ⟨b, hb, ?_, entry, hcached, rfl⟩
    simp only [Live]
    rw [hb]
    refine ⟨hactive, ?_⟩
    rw [hentryEq] at hfresh
    exact hfresh
  · cases hinfo

private theorem lookup_tick {g : Globals} {history : List RadioEvent} (h : Tracked start g history)
    (now : Time) (orders : TickOrders) :
    (Live sessionId history now → ∃ b entry, lastBroadcast sessionId history = some b ∧
      cached u b = some entry ∧
        (g.tick now orders).state.remoteTx.lookup n = State.filed now n entry.info) ∧
    (¬ Live sessionId history now →
      (g.tick now orders).state.remoteTx.lookup n = g.state.remoteTx.lookup n) := by
  constructor
  · intro hlive
    cases hb : lastBroadcast sessionId history with
    | none =>
      simp only [Live] at hlive
      rw [hb] at hlive
      exact hlive.elim
    | some b =>
      simp only [Live] at hlive
      rw [hb] at hlive
      obtain ⟨hactive, hfresh⟩ := hlive
      have hcached : ∃ entry, cached u b = some entry ∧ entry.receivedAt = b.receivedAt ∧
          entry.info.uid = u := by
        simp only [cached]
        rw [if_pos hactive]
        exact ⟨_, rfl, rfl, rfl⟩
      obtain ⟨entry, hentry, hreceived, huid⟩ := hcached
      refine ⟨b, entry, rfl, hentry, ?_⟩
      apply Globals.lookup_tick_of_attributed
      · apply mem_currentRadioTx.mpr
        refine ⟨sessionId, entry, ?_, ?_, rfl⟩
        · rw [h.listed u sessionId hsession, hb]
          exact hentry
        · rw [hreceived]
          exact hfresh
      · rw [huid]
        apply (h.identified hid).attributed (k := sessionId)
        · rw [h.roster]
          exact hsession
        · rw [h.names]
          exact hname
      · intro tx htx hattr
        obtain ⟨b', hb', _, entry', hentry', rfl⟩ := only_sender hid hname hsession h htx hattr
        rw [hb] at hb'
        rw [← Option.some.inj hb', hentry] at hentry'
        rw [Option.some.inj hentry']
  · intro hdead
    apply Globals.lookup_tick_of_not_attributed
    intro tx htx hattr
    obtain ⟨_, _, hlive, _⟩ := only_sender hid hname hsession h htx hattr
    exact hdead hlive

private theorem agrees_iff_crisp_of_live {g : Globals} {history : List RadioEvent}
    (h : Tracked start g history) {now : Time} (hlive : Live sessionId history now)
    (orders : TickOrders) :
    Agrees n sessionId g history now orders ↔ Crisp sessionId history now := by
  have htreated := treated_iff g n now orders
  obtain ⟨b, entry, hb, hentry, hlookup⟩ :=
    (lookup_tick hid hname hsession h now orders).1 hlive
  obtain ⟨hactive, hfreq⟩ := cached_active hentry
  constructor
  · intro hagrees
    refine ⟨?_, fun hdead => absurd hlive hdead⟩
    intro b' hb' _
    obtain ⟨tx, htx, _⟩ := htreated.mp (hagrees.treated.mpr hlive)
    rw [hb] at hb'
    rw [← Option.some.inj hb', ← hfreq]
    intro hempty
    rw [hlookup, State.filed, if_pos (Or.inr hempty)] at htx
    cases htx
  · intro hcrisp
    have hnamed := hcrisp.named b hb hlive
    rw [← hfreq] at hnamed
    refine ⟨⟨fun _ => hlive, fun _ => htreated.mpr ?_⟩, fun hdead => absurd hlive hdead⟩
    rw [hlookup, State.filed, if_neg (by simp [hactive, hnamed])]
    refine ⟨_, rfl, ?_⟩
    show now - now < milliseconds 1500
    rw [sub_self]
    decide

private theorem agrees_iff_crisp_of_dead {g : Globals} {history : List RadioEvent}
    (h : Tracked start g history)
    (hstamp : (g.state.remoteTx.lookup n).map RemoteTx.received = lastLiveTick sessionId history)
    {now : Time} (hdead : ¬ Live sessionId history now) (orders : TickOrders) :
    Agrees n sessionId g history now orders ↔ Crisp sessionId history now := by
  have htreated := treated_iff g n now orders
  rw [(lookup_tick hid hname hsession h now orders).2 hdead] at htreated
  constructor
  · intro hagrees
    refine ⟨fun _ _ hlive => absurd hlive hdead, ?_⟩
    intro _ t ht
    rw [← hstamp] at ht
    obtain ⟨tx, htx, rfl⟩ := Option.map_eq_some_iff.mp ht
    by_contra hrecent
    exact hdead (hagrees.treated.mp (htreated.mpr ⟨tx, htx, not_le.mp hrecent⟩))
  · intro hcrisp
    have hexpired : ¬ ∃ tx, g.state.remoteTx.lookup n = some tx ∧
        now - tx.received < kTxExpiry := by
      rintro ⟨tx, hlookup, hrecent⟩
      have ht : lastLiveTick sessionId history = some tx.received := by
        rw [← hstamp, hlookup]
        rfl
      exact absurd hrecent (not_lt.mpr (hcrisp.ended hdead _ ht))
    have hnone : (g.beforeSolver now orders).state.liveTx now n = none := by
      rw [← Option.not_isSome_iff_eq_none]
      intro hsome
      refine hexpired (htreated.mp ⟨hsome, ?_⟩)
      exact (State.mem_talkingNames _ now orders.solver n).mpr hsome
    refine ⟨⟨fun htalks => absurd (htreated.mp htalks) hexpired,
      fun hlive => absurd hlive hdead⟩, ?_⟩
    intro _ unit hunit hunitName
    apply State.fx_of_not_live hunit
    rw [hunitName]
    exact hnone

private theorem agrees_iff_crisp {g : Globals} {history : List RadioEvent}
    (h : Tracked start g history)
    (hstamp : (g.state.remoteTx.lookup n).map RemoteTx.received = lastLiveTick sessionId history)
    (now : Time) (orders : TickOrders) :
    Agrees n sessionId g history now orders ↔ Crisp sessionId history now := by
  by_cases hlive : Live sessionId history now
  · exact agrees_iff_crisp_of_live hid hname hsession h hlive orders
  · exact agrees_iff_crisp_of_dead hid hname hsession h hstamp hlive orders

private theorem stamped (hcache : start.voice.txCache = ∅) (htx : start.state.remoteTx = ∅)
    {history : List RadioEvent}
    (hcrisp : EveryTick (fun earlier now _ => Crisp sessionId earlier now) history) :
    ((runHistory step start history).state.remoteTx.lookup n).map RemoteTx.received =
      lastLiveTick sessionId history := by
  induction history with
  | nil =>
    rw [runHistory_nil, htx]
    rfl
  | cons e earlier ih =>
    cases e with
    | broadcast b => exact ih hcrisp
    | tick now orders =>
      have htracked := tracked_run hid hcache earlier
      obtain ⟨hfiled, hkept⟩ := lookup_tick hid hname hsession htracked now orders
      show (((runHistory step start earlier).tick now orders).state.remoteTx.lookup n).map
        RemoteTx.received = _
      rw [lastLiveTick]
      by_cases hlive : Live sessionId earlier now
      · obtain ⟨b, entry, hb, hentry, hlookup⟩ := hfiled hlive
        have hfreq := hcrisp.2.named b hb hlive
        have hinfo : entry.info.active = true ∧ entry.info.freq = b.freq := by
          simp only [cached] at hentry
          split at hentry
          · rw [← Option.some.inj hentry]
            exact ⟨rfl, rfl⟩
          · cases hentry
        rw [if_pos hlive, hlookup, State.filed, if_neg (by simp [hinfo, hfreq])]
        rfl
      · rw [if_neg hlive, hkept hlive]
        exact ih hcrisp.1

end Sender

end Runs

/-- From an empty start, all ticks of a run agree with the broadcasts exactly if all ticks are
crisp. -/
theorem everyTick_agrees_iff {start : Globals} (hid : start.Identified)
    (hcache : start.voice.txCache = ∅) (htx : start.state.remoteTx = ∅) {n u : Bytes}
    {sessionId : UInt32} (hname : start.state.nameToUid.lookup n = some u)
    (hsession : start.voice.uidToSession.lookup u = some sessionId)
    (history : List RadioEvent) :
    EveryTick (fun earlier now orders =>
        Agrees n sessionId (runHistory step start earlier) earlier now orders) history ↔
      EveryTick (fun earlier now _ => Crisp sessionId earlier now) history := by
  induction history with
  | nil => exact Iff.rfl
  | cons e earlier ih =>
    cases e with
    | broadcast b => exact ih
    | tick now orders =>
      have hstep : EveryTick (fun earlier now _ => Crisp sessionId earlier now) earlier →
          (Agrees n sessionId (runHistory step start earlier) earlier now orders ↔
            Crisp sessionId earlier now) := by
        intro hcrisp
        exact agrees_iff_crisp hid hname hsession (tracked_run hid hcache earlier)
          (stamped hid hname hsession hcache htx hcrisp) now orders
      constructor
      · intro h
        have hcrisp := ih.mp h.1
        exact ⟨hcrisp, (hstep hcrisp).mp h.2⟩
      · intro h
        exact ⟨ih.mpr h.1, (hstep h.1).mpr h.2⟩

/-- A listener that knows Bob: `B` is his uid and 2 his session. -/
def knowsBob : Globals :=
  let g := (Globals.process {} 0 [] (ascii "UID\tBob\tB~")).1
  { g with voice := g.voice.onRemoteJoined 2 (ascii "B") (ascii "Bob") }

private theorem identified_knowsBob : knowsBob.Identified :=
  Globals.identified_single (u := ascii "B") (n := ascii "Bob") (k := 2) (by decide) (by decide)
    rfl rfl

/-- Bob transmits for 100 ms. -/
def shortCall : List RadioEvent :=
  [.broadcast
      { receivedAt := milliseconds 100, sender := 2, active := false, freq := [], sub := [] },
    .tick (milliseconds 66) {},
    .broadcast
      { receivedAt := 0, sender := 2, active := true, freq := ascii "50", sub := ascii "digital" }]

/-- 32 ms after the stop was received, Bob is still treated as transmitting. -/
theorem stopped_call_stays_treated :
    ¬ EveryTick (fun earlier now orders =>
      Agrees (ascii "Bob") 2 (runHistory step knowsBob earlier) earlier now orders)
      (.tick (milliseconds 132) {} :: shortCall) := by
  intro h
  have hlive := h.2.treated.mp (by decide)
  exact absurd hlive (by decide)

/-- The same call when the next tick comes 1.5 s after the last live one. -/
theorem crisp_call_agrees :
    EveryTick (fun earlier now orders =>
      Agrees (ascii "Bob") 2 (runHistory step knowsBob earlier) earlier now orders)
      (.tick (milliseconds 1566) {} :: shortCall) := by
  apply (everyTick_agrees_iff identified_knowsBob rfl rfl (u := ascii "B") (by decide)
    (by decide) _).mpr
  refine ⟨⟨trivial, ⟨?_, fun hdead => absurd (by decide) hdead⟩⟩,
    ⟨fun _ _ hlive => absurd hlive (by decide), ?_⟩⟩
  · intro b hb _
    injection hb with hb
    rw [← hb]
    decide
  · intro _ t ht
    have hlast : some (milliseconds 66) = some t := ht
    rw [← Option.some.inj hlast]
    decide

end RadioEvent

end TaskForceRadio
