import Mathlib.Tactic.Linarith
import Mathlib.Tactic.Ring
import TaskForceRadio.Client.ConnectionLoop
import TaskForceRadio.Relay.Server

/-!
# How long a receive pump keeps the client from its ping

`pumpReceive` reads a bounded number of datagrams, and each `recv` may block until the timeout
of the socket. The clock here is virtual: it runs while `recv` blocks and stands still while a
datagram is handled.
-/

set_option autoImplicit false

namespace TaskForceRadio.Voice

def kSocketRecvTimeout : Time := milliseconds 300

/-- The size of the buffer that `recv` fills. -/
def kRecvBufferSize : Nat := 2048

/-- What the socket reports next, and how long after the report before it. -/
structure Arrival where
  gap : Nat
  /-- A datagram, or an error of the socket. -/
  packet : Option Bytes
  deriving DecidableEq, Repr

namespace Arrival

/-- The bytes for which `recv` answers a positive number. -/
def readable (a : Arrival) : Option Bytes :=
  a.packet.filter (fun data => 0 < data.length && data.length ≤ kRecvBufferSize)

/-- The time until the last of the arrivals. -/
def total (arrivals : List Arrival) : Time := (arrivals.map (fun a => (a.gap : Int))).sum

@[simp] theorem total_nil : total [] = 0 := rfl

@[simp] theorem total_cons (a : Arrival) (later : List Arrival) :
    total (a :: later) = a.gap + total later := rfl

private theorem total_nonneg (arrivals : List Arrival) : 0 ≤ total arrivals := by
  induction arrivals with
  | nil => exact le_refl 0
  | cons a later ih =>
    rw [total_cons]
    exact Int.add_nonneg (Int.natCast_nonneg a.gap) ih

end Arrival

/-- The clock after a pump, the datagrams it read with their times, and what is still to come. -/
structure PumpResult where
  finished : Time
  received : List (Time × Bytes) := []
  rest : List Arrival

/-- `pumpReceive` with `budget` reads left. -/
def pumpFor : Nat → Time → List Arrival → PumpResult
  | 0, now, arrivals => { finished := now, rest := arrivals }
  | _ + 1, now, [] => { finished := now + kSocketRecvTimeout, rest := [] }
  | budget + 1, now, a :: later =>
      if (a.gap : Int) < kSocketRecvTimeout then
        match a.readable with
        | none => { finished := now + a.gap, rest := later }
        | some data =>
            let result := pumpFor budget (now + a.gap) later
            { result with received := (now + a.gap, data) :: result.received }
      else
        { finished := now + kSocketRecvTimeout
          rest := { a with gap := a.gap - kSocketRecvTimeout.toNat } :: later }

def pump (now : Time) (arrivals : List Arrival) : PumpResult :=
  pumpFor kMaxPacketsPerPump now arrivals

/-- The default of the relay: how long it keeps a session it does not hear. -/
def kSessionTimeout : Time := seconds ({} : VoiceServer.ServerOptions).timeoutSeconds

/-- Before `limit` the socket has delivered `budget` datagrams, or stayed quiet until `recv` gave
up, or reported something that `recv` answers with no bytes. -/
def YieldsBefore (budget : Nat) (limit : Time) (arrivals : List Arrival) : Prop :=
  (budget ≤ arrivals.length ∧ Arrival.total (arrivals.take budget) < limit) ∨
  (∃ n < budget, n ≤ arrivals.length ∧
    (∀ a ∈ arrivals[n]?, kSocketRecvTimeout ≤ (a.gap : Int)) ∧
    Arrival.total (arrivals.take n) + kSocketRecvTimeout < limit) ∨
  (∃ n < budget, ∃ a ∈ arrivals[n]?, a.readable = none ∧
    Arrival.total (arrivals.take (n + 1)) < limit)

private theorem length_received (budget : Nat) (now : Time) (arrivals : List Arrival) :
    (pumpFor budget now arrivals).received.length ≤ budget := by
  induction budget generalizing now arrivals with
  | zero => exact Nat.le_refl 0
  | succ budget ih =>
    cases arrivals with
    | nil => exact Nat.zero_le _
    | cons a later =>
      rw [pumpFor]
      split
      · split
        · exact Nat.zero_le _
        · exact Nat.succ_le_succ (ih _ _)
      · exact Nat.zero_le _

/-- What an iteration of `threadMain` makes of the datagrams of a pump. -/
theorem pumpReceive_received (o : LoopOutcome) (io : LoopIo) (now : Time)
    (arrivals : List Arrival) (h : io.received = (pump now arrivals).received) :
    o.pumpReceive io =
      (pump now arrivals).received.foldl (fun o r => o.receive r.1 r.2) o := by
  have hlen : (pump now arrivals).received.length ≤ kMaxPacketsPerPump :=
    length_received kMaxPacketsPerPump now arrivals
  rw [LoopOutcome.pumpReceive, h, List.take_of_length_le hlen]

private theorem yieldsBefore_nil (budget : Nat) (limit : Time) :
    YieldsBefore (budget + 1) limit [] ↔ kSocketRecvTimeout < limit := by
  constructor
  · rintro (⟨hlen, -⟩ | ⟨n, -, -, -, hlt⟩ | ⟨n, -, a, ha, -⟩)
    · exact absurd hlen (Nat.not_succ_le_zero budget)
    · simpa using hlt
    · simp at ha
  · intro hlt
    refine Or.inr (Or.inl ⟨0, Nat.succ_pos budget, le_refl 0, ?_, ?_⟩)
    · intro a ha
      simp at ha
    · simpa using hlt

private theorem lt_of_yieldsBefore {budget : Nat} {limit : Time} {a : Arrival}
    {later : List Arrival}
    (h : YieldsBefore (budget + 1) limit (a :: later)) :
    (a.gap : Int) < limit ∨ (kSocketRecvTimeout ≤ (a.gap : Int) ∧ kSocketRecvTimeout < limit) := by
  rcases h with ⟨-, hlt⟩ | ⟨n, -, -, hquiet, hlt⟩ | ⟨n, -, b, hb, -, hlt⟩
  · rw [List.take_succ_cons, Arrival.total_cons] at hlt
    have hlater := Arrival.total_nonneg (later.take budget)
    exact Or.inl (by linarith)
  · cases n with
    | zero =>
      refine Or.inr ⟨hquiet a (by simp), ?_⟩
      simpa using hlt
    | succ n =>
      rw [List.take_succ_cons, Arrival.total_cons] at hlt
      have hlater := Arrival.total_nonneg (later.take n)
      have htimeout : 0 ≤ kSocketRecvTimeout := by decide
      exact Or.inl (by linarith)
  · rw [List.take_succ_cons, Arrival.total_cons] at hlt
    have hlater := Arrival.total_nonneg (later.take n)
    exact Or.inl (by linarith)

private theorem yieldsBefore_read {budget : Nat} {limit : Time} {a : Arrival} {later : List Arrival}
    {data : Bytes} (hgap : (a.gap : Int) < kSocketRecvTimeout) (hread : a.readable = some data) :
    YieldsBefore (budget + 1) limit (a :: later) ↔ YieldsBefore budget (limit - a.gap) later := by
  constructor
  · rintro (⟨hlen, hlt⟩ | ⟨n, hn, hlen, hquiet, hlt⟩ | ⟨n, hn, b, hb, hnone, hlt⟩)
    · rw [List.take_succ_cons, Arrival.total_cons] at hlt
      exact Or.inl ⟨Nat.le_of_succ_le_succ hlen, by linarith⟩
    · cases n with
      | zero => exact absurd (hquiet a (by simp)) (by linarith)
      | succ n =>
        rw [List.take_succ_cons, Arrival.total_cons] at hlt
        refine Or.inr (Or.inl ⟨n, Nat.lt_of_succ_lt_succ hn, Nat.le_of_succ_le_succ hlen, ?_, ?_⟩)
        · exact fun b hb => hquiet b (by simpa using hb)
        · linarith
    · cases n with
      | zero =>
        obtain rfl : a = b := by simpa using hb
        rw [hread] at hnone
        cases hnone
      | succ n =>
        rw [List.take_succ_cons, Arrival.total_cons] at hlt
        refine Or.inr (Or.inr ⟨n, Nat.lt_of_succ_lt_succ hn, b, by simpa using hb, hnone, ?_⟩)
        linarith
  · rintro (⟨hlen, hlt⟩ | ⟨n, hn, hlen, hquiet, hlt⟩ | ⟨n, hn, b, hb, hnone, hlt⟩)
    · refine Or.inl ⟨Nat.succ_le_succ hlen, ?_⟩
      rw [List.take_succ_cons, Arrival.total_cons]
      linarith
    · refine Or.inr (Or.inl ⟨n + 1, Nat.succ_lt_succ hn, Nat.succ_le_succ hlen, ?_, ?_⟩)
      · exact fun b hb => hquiet b (by simpa using hb)
      · rw [List.take_succ_cons, Arrival.total_cons]
        linarith
    · refine Or.inr (Or.inr ⟨n + 1, Nat.succ_lt_succ hn, b, by simpa using hb, hnone, ?_⟩)
      rw [List.take_succ_cons, Arrival.total_cons]
      linarith

private theorem finished_lt_iff (budget : Nat) (now limit : Time) (arrivals : List Arrival) :
    (pumpFor budget now arrivals).finished < now + limit ↔ YieldsBefore budget limit arrivals := by
  induction budget generalizing now limit arrivals with
  | zero =>
    constructor
    · intro hlt
      exact Or.inl ⟨Nat.zero_le _, by simpa [pumpFor] using hlt⟩
    · rintro (⟨-, hlt⟩ | ⟨n, hn, -⟩ | ⟨n, hn, -⟩)
      · simpa [pumpFor] using hlt
      · exact absurd hn (Nat.not_lt_zero n)
      · exact absurd hn (Nat.not_lt_zero n)
  | succ budget ih =>
    cases arrivals with
    | nil =>
      rw [yieldsBefore_nil, pumpFor]
      exact Int.add_lt_add_iff_left now
    | cons a later =>
      by_cases hgap : (a.gap : Int) < kSocketRecvTimeout
      · cases hread : a.readable with
        | none =>
          -- the pump ends with this report
          simp only [pumpFor, hgap, if_true, hread]
          rw [Int.add_lt_add_iff_left]
          constructor
          · intro hlt
            refine Or.inr (Or.inr ⟨0, Nat.succ_pos budget, a, by simp, hread, ?_⟩)
            simpa using hlt
          · intro h
            rcases lt_of_yieldsBefore h with hlt | ⟨hle, -⟩
            · exact hlt
            · linarith
        | some data =>
          simp only [pumpFor, hgap, if_true, hread]
          rw [yieldsBefore_read hgap hread, ← ih (now + a.gap) (limit - a.gap) later]
          constructor <;> intro hlt <;> linarith
      · simp only [pumpFor, hgap, if_false]
        rw [Int.add_lt_add_iff_left]
        constructor
        · intro hlt
          refine Or.inr (Or.inl ⟨0, Nat.succ_pos budget, Nat.zero_le _, ?_, by simpa using hlt⟩)
          intro b hb
          obtain rfl : a = b := by simpa using hb
          linarith
        · intro h
          rcases lt_of_yieldsBefore h with hlt | ⟨-, hlt⟩
          · linarith
          · exact hlt

/-- The bound on the reads is no bound on the time: a pump is back before the relay gives up a
silent session exactly when the traffic lets it. -/
theorem pump_in_time_iff (start : Time) (arrivals : List Arrival) :
    (pump start arrivals).finished < start + kSessionTimeout ↔
      YieldsBefore kMaxPacketsPerPump kSessionTimeout arrivals :=
  finished_lt_iff kMaxPacketsPerPump start kSessionTimeout arrivals

private theorem finished_steady {a : Arrival} {data : Bytes} (budget : Nat) (now : Time)
    (hgap : (a.gap : Int) < kSocketRecvTimeout) (hread : a.readable = some data) :
    (pumpFor budget now (List.replicate budget a)).finished = now + budget * a.gap := by
  induction budget generalizing now with
  | zero => simp [pumpFor]
  | succ budget ih =>
    rw [List.replicate_succ]
    simp only [pumpFor, hgap, if_true, hread, ih]
    push_cast
    ring

/-- A datagram every 299 ms holds the pump for more than 76 s. -/
theorem pump_starves_housekeeping :
    ¬∀ (start : Time) (arrivals : List Arrival),
      (pump start arrivals).finished < start + kSessionTimeout := by
  intro h
  have hsteady := finished_steady (a := ⟨299000000, some [0]⟩) kMaxPacketsPerPump 0
    (by decide) rfl
  have hfinished := h 0 (List.replicate kMaxPacketsPerPump ⟨299000000, some [0]⟩)
  rw [pump, hsteady] at hfinished
  exact absurd hfinished (by decide)

end TaskForceRadio.Voice
