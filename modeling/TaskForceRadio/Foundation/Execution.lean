import Mathlib.Data.List.Infix

/-!
# Histories, guards and invariants

A machine is a step function. A history lists the events it has processed, newest first, so an
induction on the history is an induction on the run. The rules below lift facts about one step
to facts about whole runs.
-/

set_option autoImplicit false

namespace TaskForceRadio

section Histories
variable {σ ε : Type}

/-- The state after a history, newest event first. -/
def runHistory (step : σ → ε → σ) (start : σ) : List ε → σ
  | [] => start
  | e :: earlier => step (runHistory step start earlier) e

/-- Every event met the guard in the state it was applied to. -/
def Guarded (step : σ → ε → σ) (guard : σ → ε → Prop) (start : σ) : List ε → Prop
  | [] => True
  | e :: earlier => Guarded step guard start earlier ∧ guard (runHistory step start earlier) e

/-- The predicate holds in every state the run passes through. -/
def Throughout (step : σ → ε → σ) (P : σ → Prop) (start : σ) : List ε → Prop
  | [] => P start
  | e :: earlier =>
      Throughout step P start earlier ∧ P (step (runHistory step start earlier) e)

variable {step : σ → ε → σ} {guard : σ → ε → Prop} {I P : σ → Prop} {start : σ}

instance decidableGuarded [∀ s e, Decidable (guard s e)] :
    ∀ history, Decidable (Guarded step guard start history)
  | [] => inferInstanceAs (Decidable True)
  | e :: earlier =>
      have := decidableGuarded earlier
      inferInstanceAs (Decidable (_ ∧ guard (runHistory step start earlier) e))

@[simp] theorem runHistory_nil : runHistory step start [] = start := rfl

@[simp] theorem runHistory_cons (e : ε) (earlier : List ε) :
    runHistory step start (e :: earlier) = step (runHistory step start earlier) e := rfl

theorem Throughout.last {history : List ε} (h : Throughout step P start history) :
    P (runHistory step start history) := by
  cases history with
  | nil => exact h
  | cons e earlier => exact h.2

/-- An invariant that every step keeps holds after every history. -/
theorem invariant_runHistory (h0 : I start) (hstep : ∀ s e, I s → I (step s e))
    (history : List ε) : I (runHistory step start history) := by
  induction history with
  | nil => exact h0
  | cons e earlier ih => exact hstep _ e ih

/-- An invariant that every step keeps holds throughout every run. -/
theorem throughout_of_invariant (h0 : I start) (hstep : ∀ s e, I s → I (step s e))
    (history : List ε) : Throughout step I start history := by
  induction history with
  | nil => exact h0
  | cons e earlier ih => exact ⟨ih, hstep _ e ih.last⟩

/-- An invariant that guarded steps keep holds throughout a guarded run. -/
theorem throughout_of_guarded (h0 : I start) (hstep : ∀ s e, I s → guard s e → I (step s e))
    {history : List ε} (hg : Guarded step guard start history) :
    Throughout step I start history := by
  induction history with
  | nil => exact h0
  | cons e earlier ih =>
    have hi := ih hg.1
    exact ⟨hi, hstep _ e hi.last hg.2⟩

/-- When a step keeps the predicate exactly if its guard holds, a run stays inside the
predicate exactly if all of its steps are guarded. `I` collects what every step keeps. -/
theorem throughout_iff_guarded (hI : I start) (hP : P start)
    (hkeep : ∀ s e, I s → I (step s e))
    (hexact : ∀ s e, I s → P s → (P (step s e) ↔ guard s e)) (history : List ε) :
    Throughout step P start history ↔ Guarded step guard start history := by
  induction history with
  | nil => exact ⟨fun _ => trivial, fun _ => hP⟩
  | cons e earlier ih =>
    have hIe := invariant_runHistory hI hkeep earlier
    constructor
    · rintro ⟨hearlier, hnow⟩
      exact ⟨ih.mp hearlier, (hexact _ e hIe hearlier.last).mp hnow⟩
    · rintro ⟨hearlier, hnow⟩
      have hthrough := ih.mpr hearlier
      exact ⟨hthrough, (hexact _ e hIe hthrough.last).mpr hnow⟩

theorem guarded_of_forall (h : ∀ s e, guard s e) (history : List ε) :
    Guarded step guard start history := by
  induction history with
  | nil => trivial
  | cons e earlier ih => exact ⟨ih, h _ e⟩

/-- Two guards that agree wherever the invariant holds accept the same runs. -/
theorem guarded_congr {guard' : σ → ε → Prop} (h0 : I start) (hstep : ∀ s e, I s → I (step s e))
    (hguard : ∀ s e, I s → (guard s e ↔ guard' s e)) (history : List ε) :
    Guarded step guard start history ↔ Guarded step guard' start history := by
  induction history with
  | nil => exact Iff.rfl
  | cons e earlier ih =>
    exact and_congr ih (hguard _ e (invariant_runHistory h0 hstep earlier))

theorem Throughout.imp {Q : σ → Prop} (hPQ : ∀ s, P s → Q s) {history : List ε}
    (h : Throughout step P start history) : Throughout step Q start history := by
  induction history with
  | nil => exact hPQ _ h
  | cons e earlier ih => exact ⟨ih h.1, hPQ _ h.2⟩

end Histories

section Answers
variable {σ ι ω : Type}

/-- The answers to a list of calls, oldest call first. -/
def answers (call : σ → ι → σ × ω) : σ → List ι → List ω
  | _, [] => []
  | s, i :: later => (call s i).2 :: answers call (call s i).1 later

/-- Every call met the guard in the state it was made in. -/
def CallsGuarded (call : σ → ι → σ × ω) (guard : σ → ι → Prop) : σ → List ι → Prop
  | _, [] => True
  | s, i :: later => guard s i ∧ CallsGuarded call guard (call s i).1 later

/-- A relation that guarded calls keep, and under which their answers match, matches the answers
of whole runs. -/
theorem forall₂_answers {call : σ → ι → σ × ω} {guard : σ → ι → Prop} {R : σ → σ → Prop}
    {Q : ι → ι → Prop} {A : ω → ω → Prop}
    (hcall : ∀ s s' i i', R s s' → Q i i' → guard s i →
      R (call s i).1 (call s' i').1 ∧ A (call s i).2 (call s' i').2)
    {s s' : σ} (hstates : R s s') {calls calls' : List ι} (hcalls : List.Forall₂ Q calls calls')
    (hguarded : CallsGuarded call guard s calls) :
    List.Forall₂ A (answers call s calls) (answers call s' calls') := by
  induction hcalls generalizing s s' with
  | nil => exact List.Forall₂.nil
  | cons hfirst _ ih =>
    obtain ⟨hnext, hanswer⟩ := hcall _ _ _ _ hstates hfirst hguarded.1
    exact List.Forall₂.cons hanswer (ih hnext hguarded.2)

end Answers

end TaskForceRadio
