import TaskForceRadio.Foundation.Execution
import TaskForceRadio.Client.VoiceSession

/-!
# The start cue of a remote transmission

`onRadioTx` takes a session for transmitting as long as it is in the cache. `currentRadioTx`
passes over entries that are too old but leaves them there, so an old entry still counts for
the cue.
-/

set_option autoImplicit false

namespace TaskForceRadio.Voice

/-- A delivered RadioTxBroadcast. -/
structure TxBroadcast where
  receivedAt : Time
  sender : UInt32
  active : Bool
  freq : Bytes := []
  range : UInt16 := 0
  sub : Bytes := []
  orders : RosterOrders := {}

namespace TxBroadcast

/-- The broadcast of a session that was delivered last, in a history with the newest first. -/
def lastOf (s : UInt32) (history : List TxBroadcast) : Option TxBroadcast :=
  history.find? (fun p => p.sender = s)

/-- Receivers still take the broadcast for a running transmission. -/
def Running (p : TxBroadcast) (now : Time) : Prop :=
  p.active = true ∧ now - p.receivedAt < VoiceSession.kTxExpiry

/-- The broadcast announced a transmission whose end was never delivered and that expired. -/
def Expired (p : TxBroadcast) (now : Time) : Prop :=
  p.active = true ∧ VoiceSession.kTxExpiry ≤ now - p.receivedAt

/-- The session transmits at `now` as far as its delivered broadcasts tell. -/
def Transmitting (s : UInt32) (history : List TxBroadcast) (now : Time) : Prop :=
  ∃ p ∈ lastOf s history, p.Running now

private theorem lastOf_cons (s : UInt32) (p : TxBroadcast) (earlier : List TxBroadcast) :
    lastOf s (p :: earlier) = if p.sender = s then some p else lastOf s earlier := by
  rw [lastOf, List.find?_cons]
  by_cases h : p.sender = s <;> simp [h, lastOf]

end TxBroadcast

namespace VoiceSession

open TxBroadcast

def onBroadcast (v : VoiceSession) (p : TxBroadcast) : VoiceSession :=
  v.onRadioTx p.receivedAt p.orders p.sender p.active p.freq p.range p.sub

/-- Whether the broadcast makes `onRadioTx` trigger the start cue of its sender. -/
def cuesStart (v : VoiceSession) (p : TxBroadcast) : Prop :=
  ∃ beep ∈ v.radioTxBeep p.orders p.sender p.active p.sub,
    beep.sessionId = p.sender ∧ beep.start = true

/-- The roster lists the session, in whatever order it is walked. -/
def Rosters (v : VoiceSession) (s : UInt32) : Prop := ∀ orders, v.uidOf orders s ≠ []

private theorem onBroadcast_uidToSession (v : VoiceSession) (p : TxBroadcast) :
    (v.onBroadcast p).uidToSession = v.uidToSession := by
  simp only [onBroadcast, onRadioTx]
  split
  · rfl
  · split <;> rfl

private theorem uidOf_runHistory (v : VoiceSession) (history : List TxBroadcast)
    (orders : RosterOrders)
    (s : UInt32) :
    (runHistory onBroadcast v history).uidOf orders s = v.uidOf orders s := by
  have hkept : (runHistory onBroadcast v history).uidToSession = v.uidToSession := by
    induction history with
    | nil => rfl
    | cons p earlier ih =>
      rw [runHistory_cons, onBroadcast_uidToSession]
      exact ih
  rw [uidOf, hkept, uidOf]

private theorem lookup_onBroadcast {v : VoiceSession} {s : UInt32} (hroster : v.Rosters s)
    (p : TxBroadcast) :
    ((v.onBroadcast p).txCache.lookup s).map TxCacheEntry.receivedAt =
      if p.sender = s then (if p.active then some p.receivedAt else none)
      else (v.txCache.lookup s).map TxCacheEntry.receivedAt := by
  by_cases hsender : p.sender = s
  · have huid : v.uidOf p.orders p.sender ≠ [] := by
      rw [hsender]
      exact hroster p.orders
    rw [if_pos hsender, onBroadcast, onRadioTx, if_neg huid, ← hsender]
    cases p.active with
    | true => simp
    | false => simp
  · have hother : s ≠ p.sender := fun h => hsender h.symm
    rw [if_neg hsender, onBroadcast, onRadioTx]
    split
    · rfl
    · split
      · rw [AList.lookup_insert_ne hother]
      · rw [AList.lookup_erase_ne hother]

private theorem lookup_txCache {v : VoiceSession} {s : UInt32} (hroster : v.Rosters s)
    (hnew : v.txCache.lookup s = none) (history : List TxBroadcast) :
    ((runHistory onBroadcast v history).txCache.lookup s).map TxCacheEntry.receivedAt =
      ((lastOf s history).filter TxBroadcast.active).map TxBroadcast.receivedAt := by
  induction history with
  | nil =>
    rw [runHistory_nil, hnew]
    rfl
  | cons p earlier ih =>
    have hkept : (runHistory onBroadcast v earlier).Rosters s := by
      intro orders
      rw [uidOf_runHistory]
      exact hroster orders
    rw [runHistory_cons, lookup_onBroadcast hkept, lastOf_cons, ih]
    by_cases hsender : p.sender = s
    · cases hactive : p.active <;> simp [hsender, hactive]
    · simp [hsender]

private theorem cuesStart_iff {v : VoiceSession} {p : TxBroadcast} (hroster : v.Rosters p.sender)
    (hactive : p.active = true) :
    v.cuesStart p ↔ v.txCache.lookup p.sender = none := by
  have huid := hroster p.orders
  cases hcached : v.txCache.lookup p.sender with
  | none => simp [cuesStart, radioTxBeep, huid, hactive, hcached]
  | some entry => simp [cuesStart, radioTxBeep, huid, hactive, hcached]

private theorem cuesStart_after {v : VoiceSession} {p : TxBroadcast} (hroster : v.Rosters p.sender)
    (hnew : v.txCache.lookup p.sender = none) (earlier : List TxBroadcast)
    (hactive : p.active = true) :
    (runHistory onBroadcast v earlier).cuesStart p ↔
      ∀ q ∈ lastOf p.sender earlier, q.active = false := by
  have hkept : (runHistory onBroadcast v earlier).Rosters p.sender := by
    intro orders
    rw [uidOf_runHistory]
    exact hroster orders
  have hcache := lookup_txCache hroster hnew earlier
  rw [cuesStart_iff hkept hactive]
  cases hlast : lastOf p.sender earlier with
  | none =>
    rw [hlast] at hcache
    simpa using hcache
  | some q =>
    rw [hlast] at hcache
    cases hq : q.active with
    | true =>
      simp only [Option.filter, hq, if_true, Option.map_some, Option.map_eq_some_iff] at hcache
      obtain ⟨entry, hentry, -⟩ := hcache
      simp [hentry, hq]
    | false =>
      simp only [Option.filter, hq, Bool.false_eq_true, if_false, Option.map_none,
        Option.map_eq_none_iff] at hcache
      simp [hcache, hq]

/-- The start cue follows the transmissions, except for one that comes after an expired one. -/
theorem startCue_iff {v : VoiceSession} {p : TxBroadcast} (hroster : v.Rosters p.sender)
    (hnew : v.txCache.lookup p.sender = none) (earlier : List TxBroadcast)
    (hactive : p.active = true) :
    ((runHistory onBroadcast v earlier).cuesStart p ↔
        ¬Transmitting p.sender earlier p.receivedAt) ↔
      ∀ q ∈ lastOf p.sender earlier, ¬q.Expired p.receivedAt := by
  rw [cuesStart_after hroster hnew earlier hactive]
  simp only [Transmitting]
  cases lastOf p.sender earlier with
  | none => simp
  | some q =>
    simp only [Option.mem_def, Option.some.injEq, forall_eq', exists_eq_left', Running, Expired,
      not_and, not_lt, not_le]
    cases q.active with
    | true =>
      constructor
      · intro h _
        by_contra hold
        exact absurd (h.mpr (fun _ => not_lt.mp hold)) (by decide)
      · intro h
        refine ⟨fun hoff => absurd hoff (by decide), fun hold => ?_⟩
        exact absurd (hold rfl) (not_le.mpr (h rfl))
    | false => simp

/-- A session that was just announced. -/
def rosterOfOne : VoiceSession :=
  ({} : VoiceSession).onRemoteJoined 1 (ascii "76561198000000001") (ascii "Ida")

private theorem rosters_rosterOfOne : rosterOfOne.Rosters 1 := by
  intro orders
  have hlookup : rosterOfOne.uidToSession.lookup (ascii "76561198000000001") = some 1 := by
    decide
  have honly : ∀ uid, rosterOfOne.uidToSession.lookup uid = some 1 →
      uid = ascii "76561198000000001" := by
    intro uid huid
    have hinsert : (rosterOfOne.uidToSession).lookup uid =
        if uid = ascii "76561198000000001" then some 1
        else (∅ : Dictionary Bytes UInt32).lookup uid :=
      Dictionary.lookup_insert_ite _ _ _ _
    rw [hinsert] at huid
    by_contra hne
    rw [if_neg hne] at huid
    simp at huid
  rw [uidOf, Dictionary.firstKeyOf_unique hlookup honly]
  decide

/-- A refresh within the expiry gets no second cue. -/
theorem startCue_iff_refresh :
    ((runHistory onBroadcast rosterOfOne
          [{ receivedAt := 0, sender := 1, active := true }]).cuesStart
          { receivedAt := milliseconds 500, sender := 1, active := true } ↔
        ¬Transmitting 1 [{ receivedAt := 0, sender := 1, active := true }] (milliseconds 500)) ↔
      ∀ q ∈ lastOf 1 [{ receivedAt := 0, sender := 1, active := true }],
        ¬q.Expired (milliseconds 500) :=
  startCue_iff (p := { receivedAt := milliseconds 500, sender := 1, active := true })
    rosters_rosterOfOne rfl _ rfl

/-- Ten seconds after a transmission whose end was lost, the next one starts without a cue. -/
theorem startCue_suppressed :
    ¬∀ (v : VoiceSession) (p : TxBroadcast) (earlier : List TxBroadcast),
      v.Rosters p.sender → v.txCache.lookup p.sender = none → p.active = true →
      ((runHistory onBroadcast v earlier).cuesStart p ↔
        ¬Transmitting p.sender earlier p.receivedAt) := by
  intro h
  have hcue := h rosterOfOne { receivedAt := seconds 10, sender := 1, active := true }
    [{ receivedAt := 0, sender := 1, active := true }] rosters_rosterOfOne rfl rfl
  have hsilent : ¬Transmitting 1 [{ receivedAt := 0, sender := 1, active := true }]
      (seconds 10) := by
    rintro ⟨q, hq, -, hfresh⟩
    obtain rfl : ({ receivedAt := 0, sender := 1, active := true } : TxBroadcast) = q := by
      simpa [lastOf] using hq
    exact absurd hfresh (by decide)
  have hnone := (cuesStart_after rosters_rosterOfOne rfl _ rfl).mp (hcue.mpr hsilent)
  exact absurd (hnone { receivedAt := 0, sender := 1, active := true } rfl) (by decide)

end VoiceSession

end TaskForceRadio.Voice
