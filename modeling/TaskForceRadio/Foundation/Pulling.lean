import Mathlib.Data.List.Basic

/-!
# Machines that are pulled

Every pull moves the state on and yields one output. What a number of pulls yields is the same
however they are grouped, so a consumer that takes outputs block by block sees one stream.
-/

set_option autoImplicit false

namespace TaskForceRadio

section Pulling
variable {σ α : Type} (pull : σ → σ × α)

/-- The state after a number of pulls, and their outputs in order. -/
def pulls : Nat → σ → σ × List α
  | 0, s => (s, [])
  | n + 1, s =>
      let later := pulls n (pull s).1
      (later.1, (pull s).2 :: later.2)

variable {pull}

theorem pulls_succ (n : Nat) (s : σ) :
    pulls pull (n + 1) s =
      ((pulls pull n (pull s).1).1, (pull s).2 :: (pulls pull n (pull s).1).2) := rfl

theorem pulls_add (m n : Nat) (s : σ) :
    pulls pull (m + n) s =
      ((pulls pull n (pulls pull m s).1).1,
        (pulls pull m s).2 ++ (pulls pull n (pulls pull m s).1).2) := by
  induction m generalizing s with
  | zero =>
    rw [Nat.zero_add]
    rfl
  | succ m ih =>
    rw [Nat.succ_add, pulls_succ, ih, pulls_succ]
    rfl

/-- A machine that stands still repeats its output. -/
theorem pulls_fixed {s : σ} {a : α} (h : pull s = (s, a)) (n : Nat) :
    pulls pull n s = (s, List.replicate n a) := by
  induction n with
  | zero => rfl
  | succ n ih => rw [pulls_succ, h, ih, List.replicate_succ]

end Pulling

end TaskForceRadio
