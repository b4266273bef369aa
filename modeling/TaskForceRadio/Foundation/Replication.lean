import Mathlib.Data.List.Basic
import Mathlib.Logic.Function.Basic

/-!
# Replicated variables

Every machine holds a replica of every variable. A write replaces the writer's replica and is sent
to all the others. The messages from one writer to one reader arrive in the order they were sent;
messages of different writers arrive in any order. Writes that do not overlap leave all replicas
with one value.
-/

set_option autoImplicit false

namespace TaskForceRadio

/-- Replicas and messages under way; a channel lists its messages oldest first. -/
structure Replicated (M K A : Type) where
  replica : M → K → A
  channel : M → M → List (K × A)

namespace Replicated
variable {M K A : Type}

/-- No message about the variable is under way. -/
def Quiet (r : Replicated M K A) (k : K) : Prop :=
  ∀ writer reader, ∀ message ∈ r.channel writer reader, message.1 ≠ k

/-- No message about the variable is under way, except the machine's own. -/
def FreeFor (r : Replicated M K A) (k : K) (machine : M) : Prop :=
  ∀ writer reader, writer ≠ machine → ∀ message ∈ r.channel writer reader, message.1 ≠ k

section Settling
variable [DecidableEq K]

/-- The value of a variable after these messages. -/
def settle (k : K) (a : A) : List (K × A) → A
  | [] => a
  | message :: rest => settle k (if message.1 = k then message.2 else a) rest

theorem settle_append (k : K) (a : A) (first second : List (K × A)) :
    settle k a (first ++ second) = settle k (settle k a first) second := by
  induction first generalizing a with
  | nil => rfl
  | cons message rest ih => exact ih _

theorem settle_of_absent {k : K} {a : A} {messages : List (K × A)}
    (h : ∀ message ∈ messages, message.1 ≠ k) : settle k a messages = a := by
  induction messages with
  | nil => rfl
  | cons message rest ih =>
    rw [settle, if_neg (h message List.mem_cons_self)]
    exact ih (fun later hlater => h later (List.mem_cons_of_mem _ hlater))

/-- One writer is behind all messages about the variable, and they leave every replica with one
value. -/
structure Settling (r : Replicated M K A) (k : K) (writer : M) (a : A) : Prop where
  others : ∀ s m, s ≠ writer → ∀ message ∈ r.channel s m, message.1 ≠ k
  own : ∀ message ∈ r.channel writer writer, message.1 ≠ k
  value : ∀ m, settle k (r.replica m k) (r.channel writer m) = a

variable {r : Replicated M K A} {k : K} {writer : M} {a : A}

theorem Settling.replica_of_quiet (h : Settling r k writer a) (hq : r.Quiet k) (m : M) :
    r.replica m k = a := by
  have hvalue := h.value m
  rw [settle_of_absent (hq writer m)] at hvalue
  exact hvalue

theorem Settling.own_replica (h : Settling r k writer a) : r.replica writer k = a := by
  have hvalue := h.value writer
  rw [settle_of_absent h.own] at hvalue
  exact hvalue

/-- A variable that is free for a machine may be written by it. -/
theorem Settling.of_freeFor (h : Settling r k writer a) {machine : M}
    (hfree : r.FreeFor k machine) :
    Settling r k machine a := by
  by_cases hsame : writer = machine
  · rw [← hsame]
    exact h
  · have hquiet : r.Quiet k := by
      intro s m
      by_cases hs : s = writer
      · rw [hs]
        exact hfree writer m hsame
      · exact h.others s m hs
    constructor
    · exact fun s m _ => hquiet s m
    · exact hquiet machine machine
    · intro m
      rw [settle_of_absent (hquiet machine m)]
      exact h.replica_of_quiet hquiet m

end Settling

variable [DecidableEq M] [DecidableEq K]

/-- Write a variable and send the value to all the others. -/
def publish (r : Replicated M K A) (writer : M) (k : K) (a : A) : Replicated M K A where
  replica := Function.update r.replica writer (Function.update (r.replica writer) k a)
  channel := fun s m =>
    if s = writer ∧ m ≠ writer then r.channel s m ++ [(k, a)] else r.channel s m

/-- The oldest message of a channel arrives. -/
def deliver (r : Replicated M K A) (writer reader : M) : Replicated M K A :=
  match r.channel writer reader with
  | [] => r
  | (k, a) :: rest =>
      { replica := Function.update r.replica reader (Function.update (r.replica reader) k a)
        channel := Function.update r.channel writer
          (Function.update (r.channel writer) reader rest) }

section Rules
variable {r : Replicated M K A} {k : K} {writer : M} {a : A}

theorem channel_publish_to {m : M} (hm : m ≠ writer) (b : A) :
    (r.publish writer k b).channel writer m = r.channel writer m ++ [(k, b)] :=
  if_pos ⟨rfl, hm⟩

theorem channel_publish_self (b : A) :
    (r.publish writer k b).channel writer writer = r.channel writer writer :=
  if_neg (fun hand => hand.2 rfl)

theorem channel_publish_of_ne {s : M} (hs : s ≠ writer) (m : M) (b : A) :
    (r.publish writer k b).channel s m = r.channel s m :=
  if_neg (fun hand => hs hand.1)

theorem replica_publish_self (b : A) : (r.publish writer k b).replica writer k = b := by
  simp only [publish, Function.update_self]

theorem replica_publish_of_ne {k' : K} (hk : k' ≠ k) (m : M) (b : A) :
    (r.publish writer k b).replica m k' = r.replica m k' := by
  by_cases hm : m = writer
  · rw [hm]
    simp only [publish, Function.update_self, Function.update_of_ne hk]
  · simp only [publish, Function.update_of_ne hm]

theorem Settling.publish_same (h : Settling r k writer a) (b : A) :
    Settling (r.publish writer k b) k writer b where
  others := by
    intro s m hs
    rw [channel_publish_of_ne hs]
    exact h.others s m hs
  own := by
    rw [channel_publish_self]
    exact h.own
  value := by
    intro m
    by_cases hm : m = writer
    · rw [hm, channel_publish_self, replica_publish_self]
      exact settle_of_absent h.own
    · rw [channel_publish_to hm, settle_append, settle, if_pos rfl, settle]

theorem Settling.publish_other (h : Settling r k writer a) {k' : K} (hk : k' ≠ k) (s' : M) (b : A) :
    Settling (r.publish s' k' b) k writer a := by
  -- what is new in a channel is about the other variable
  have hchannel : ∀ s m, ∃ news, (r.publish s' k' b).channel s m = r.channel s m ++ news ∧
      ∀ message ∈ news, message.1 ≠ k := by
    intro s m
    by_cases hs : s = s' ∧ m ≠ s'
    · refine ⟨[(k', b)], if_pos hs, ?_⟩
      intro message hmessage
      rw [List.mem_singleton.mp hmessage]
      exact hk
    · refine ⟨[], ?_, fun message hmessage => nomatch hmessage⟩
      rw [List.append_nil]
      exact if_neg hs
  have habsent : ∀ s m, (∀ message ∈ r.channel s m, message.1 ≠ k) →
      ∀ message ∈ (r.publish s' k' b).channel s m, message.1 ≠ k := by
    intro s m hold message hmessage
    obtain ⟨news, heq, hnews⟩ := hchannel s m
    rw [heq] at hmessage
    rcases List.mem_append.mp hmessage with hmem | hmem
    · exact hold message hmem
    · exact hnews message hmem
  constructor
  · exact fun s m hs => habsent s m (h.others s m hs)
  · exact habsent writer writer h.own
  · intro m
    obtain ⟨news, heq, hnews⟩ := hchannel writer m
    rw [heq, settle_append, replica_publish_of_ne hk.symm, h.value, settle_of_absent hnews]

theorem Settling.deliver (h : Settling r k writer a) (s' m' : M) :
    Settling (r.deliver s' m') k writer a := by
  cases hchannel : r.channel s' m' with
  | nil =>
    simp only [Replicated.deliver, hchannel]
    exact h
  | cons message rest =>
    obtain ⟨k', b⟩ := message
    have hnew : r.deliver s' m' =
        { replica := Function.update r.replica m' (Function.update (r.replica m') k' b)
          channel := Function.update r.channel s'
            (Function.update (r.channel s') m' rest) } := by
      simp only [Replicated.deliver, hchannel]
    have hsub : ∀ s m, ∀ message ∈ (r.deliver s' m').channel s m, message ∈ r.channel s m := by
      intro s m message hmessage
      rw [hnew] at hmessage
      by_cases hs : s = s'
      · rw [hs] at hmessage ⊢
        by_cases hm : m = m'
        · rw [hm, hchannel]
          simp only [hm, Function.update_self] at hmessage
          exact List.mem_cons_of_mem _ hmessage
        · simpa only [Function.update_self, Function.update_of_ne hm] using hmessage
      · simpa only [Function.update_of_ne hs] using hmessage
    constructor
    · exact fun s m hs message hmessage => h.others s m hs message (hsub s m message hmessage)
    · exact fun message hmessage => h.own message (hsub writer writer message hmessage)
    · intro m
      have hvalue := h.value m
      rw [hnew]
      by_cases hm : m = m'
      · by_cases hs : s' = writer
        · -- the message leaves the channel and enters the replica
          rw [hm, ← hs, hchannel] at hvalue
          rw [hm, hs]
          simp only [Function.update_self]
          rw [← hvalue, settle]
          by_cases hk : k' = k
          · rw [hk, if_pos rfl, Function.update_self]
          · rw [if_neg hk, Function.update_of_ne (Ne.symm hk)]
        · -- another writer's message is about another variable
          have hk : k' ≠ k := h.others s' m' hs (k', b) (by rw [hchannel]; exact List.mem_cons_self)
          rw [hm] at hvalue ⊢
          simp only [Function.update_of_ne (Ne.symm hs), Function.update_self,
            Function.update_of_ne hk.symm]
          exact hvalue
      · have hsame :
            Function.update r.channel s' (Function.update (r.channel s') m' rest) writer m =
              r.channel writer m := by
          by_cases hs : writer = s'
          · rw [hs, Function.update_self, Function.update_of_ne hm]
          · rw [Function.update_of_ne hs]
        simp only [Function.update_of_ne hm, hsame]
        exact hvalue

end Rules

/-- Every variable settles on its value. -/
def Converging (r : Replicated M K A) (truth : K → A) : Prop :=
  ∀ k, ∃ writer, Settling r k writer (truth k)

theorem Converging.deliver {r : Replicated M K A} {truth : K → A} (h : Converging r truth)
    (s m : M) : Converging (r.deliver s m) truth := by
  intro k
  obtain ⟨writer, hk⟩ := h k
  exact ⟨writer, hk.deliver s m⟩

/-- A machine that may write a variable writes it, and may still write what it could before. -/
theorem Converging.publish {r : Replicated M K A} {truth : K → A} (h : Converging r truth)
    {writer : M} {k : K} (hk : Settling r k writer (truth k)) (b : A) :
    Converging (r.publish writer k b) (Function.update truth k b) ∧
      ∀ k', Settling r k' writer (truth k') →
        Settling (r.publish writer k b) k' writer (Function.update truth k b k') := by
  have hstep : ∀ k' s, Settling r k' s (truth k') → k' ≠ k →
      Settling (r.publish writer k b) k' s (Function.update truth k b k') := by
    intro k' s hs hne
    rw [Function.update_of_ne hne]
    exact hs.publish_other hne.symm writer b
  have hwritten : Settling (r.publish writer k b) k writer (Function.update truth k b k) := by
    rw [Function.update_self]
    exact hk.publish_same b
  constructor
  · intro k'
    by_cases hne : k' = k
    · rw [hne]
      exact ⟨writer, hwritten⟩
    · obtain ⟨s, hs⟩ := h k'
      exact ⟨s, hstep k' s hs hne⟩
  · intro k' hk'
    by_cases hne : k' = k
    · rw [hne]
      exact hwritten
    · exact hstep k' writer hk' hne

end Replicated

end TaskForceRadio
