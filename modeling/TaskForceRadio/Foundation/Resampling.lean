import Mathlib.Algebra.Order.Floor.Semiring
import Mathlib.Tactic.Linarith
import Mathlib.Tactic.Ring

/-!
# Resampling with a cursor over a window of the stream

The output with number `k` of a resampled stream is interpolated at position `k * step`, between
the two neighbours of that position. A resampler holds a window of the stream and a cursor into
it; what it drops at the front and what arrives at the back leave the interpolated values as
they are.
-/

set_option autoImplicit false
set_option linter.unusedSectionVars false

namespace TaskForceRadio

section Resampling
variable {K : Type} [Field K] [LinearOrder K] [IsStrictOrderedRing K] [FloorSemiring K]
variable {α β : Type}

/-- The value between the two neighbours of a position, if the stream has both. -/
def sampleAt (interpolate : α → α → K → β) (stream : List α) (position : K) : Option β :=
  match stream[⌊position⌋₊]?, stream[⌊position⌋₊ + 1]? with
  | some x, some y => some (interpolate x y (position - (⌊position⌋₊ : K)))
  | _, _ => none

/-- The outputs are the interpolated values at all the positions that the stream reaches. -/
def Resampled (interpolate : α → α → K → β) (step : K) (stream : List α) (outputs : List β) :
    Prop :=
  ∀ k : Nat, outputs[k]? = sampleAt interpolate stream (k * step)

/-- The outputs are the first ones of the resampled stream. -/
def ResampledSoFar (interpolate : α → α → K → β) (step : K) (stream : List α)
    (outputs : List β) : Prop :=
  ∀ (k : Nat) (y : β), outputs[k]? = some y → sampleAt interpolate stream (k * step) = some y

/-- The buffer is the stream without its first samples, and the cursor is the position in it. -/
structure WindowAt (stream buffer : List α) (cursor position : K) (dropped : Nat) : Prop where
  buffer_eq : buffer = stream.drop dropped
  within : dropped ≤ stream.length
  position_eq : position = dropped + cursor
  nonneg : 0 ≤ cursor

/-- Drop the samples in front of the cursor, unless the cursor is past the end. -/
def dropConsumed (buffer : List α) (cursor : K) : List α × K :=
  let consumed := ⌊cursor⌋₊
  if 0 < consumed ∧ consumed ≤ buffer.length then (buffer.drop consumed, cursor - (consumed : K))
  else (buffer, cursor)

variable {interpolate : α → α → K → β} {stream buffer : List α} {step cursor position : K}
variable {dropped : Nat}

theorem sampleAt_of_lt (h : ⌊position⌋₊ + 1 < stream.length) :
    sampleAt interpolate stream position =
      some (interpolate stream[⌊position⌋₊] stream[⌊position⌋₊ + 1]
        (position - (⌊position⌋₊ : K))) := by
  have hfirst : ⌊position⌋₊ < stream.length := Nat.lt_of_succ_lt h
  rw [sampleAt, List.getElem?_eq_getElem hfirst, List.getElem?_eq_getElem h]

theorem sampleAt_of_le (h : stream.length ≤ ⌊position⌋₊ + 1) :
    sampleAt interpolate stream position = none := by
  rw [sampleAt, List.getElem?_eq_none h]
  split
  · rename_i hnone
    cases hnone
  · rfl

theorem sampleAt_append (h : ⌊position⌋₊ + 1 < stream.length) (more : List α) :
    sampleAt interpolate (stream ++ more) position = sampleAt interpolate stream position := by
  rw [sampleAt, sampleAt, List.getElem?_append_left h,
    List.getElem?_append_left (Nat.lt_of_succ_lt h)]

theorem sampleAt_drop (hcursor : 0 ≤ cursor) :
    sampleAt interpolate (stream.drop dropped) cursor =
      sampleAt interpolate stream (dropped + cursor) := by
  have hfloor : ⌊(dropped : K) + cursor⌋₊ = dropped + ⌊cursor⌋₊ := by
    rw [add_comm, Nat.floor_add_natCast hcursor, Nat.add_comm]
  have hfrac : (dropped : K) + cursor - ((dropped + ⌊cursor⌋₊ : Nat) : K) =
      cursor - (⌊cursor⌋₊ : K) := by
    push_cast
    ring
  rw [sampleAt, sampleAt, hfloor, hfrac, List.getElem?_drop, List.getElem?_drop, Nat.add_assoc]

theorem floor_succ_lt_iff {n : Nat} (hposition : 0 ≤ position) :
    ⌊position⌋₊ + 1 < n ↔ position < (n : K) - 1 := by
  constructor
  · intro h
    have hlt : position < ((n - 1 : Nat) : K) := (Nat.floor_lt hposition).mp (by omega)
    rwa [Nat.cast_sub (by omega), Nat.cast_one] at hlt
  · intro h
    have hone : (1 : K) < n := by linarith
    have hn : 1 < n := by exact_mod_cast hone
    have hlt : position < ((n - 1 : Nat) : K) := by
      rwa [Nat.cast_sub (by omega), Nat.cast_one]
    have hfloor := (Nat.floor_lt hposition).mpr hlt
    omega

/-- How many outputs a stream of `n` samples allows. -/
def arrivedOutputs (step : K) (n : Nat) : Nat := ⌈((n : K) - 1) / step⌉₊

theorem lt_arrivedOutputs (hstep : 0 < step) (k n : Nat) :
    k < arrivedOutputs step n ↔ ⌊(k : K) * step⌋₊ + 1 < n := by
  have hposition : (0 : K) ≤ k * step := mul_nonneg (Nat.cast_nonneg k) hstep.le
  rw [arrivedOutputs, Nat.lt_ceil, lt_div_iff₀ hstep, floor_succ_lt_iff hposition]

/-- Steps that a cursor may take in front of the end get fewer with every step. -/
theorem ceil_advance_lt (hstep : 0 < step) {n : Nat} (h : cursor < n) :
    ⌈((n : K) - (cursor + step)) / step⌉₊ < ⌈((n : K) - cursor) / step⌉₊ := by
  have hpos : 0 < ((n : K) - cursor) / step := div_pos (sub_pos.mpr h) hstep
  have hone : ((n : K) - (cursor + step)) / step = ((n : K) - cursor) / step - 1 := by
    rw [← sub_sub, sub_div, div_self hstep.ne']
  rw [hone, Nat.lt_ceil]
  rcases le_or_gt (((n : K) - cursor) / step - 1) 0 with hle | hgt
  · rw [Nat.ceil_eq_zero.mpr hle, Nat.cast_zero]
    exact hpos
  · have hlt := Nat.ceil_lt_add_one hgt.le
    linarith

/-- Outputs that stop where the stream stops are as many as the stream allows. -/
theorem length_of_stopped {outputs : List β} (hstep : 0 < step)
    (hfar : ResampledSoFar interpolate step stream outputs)
    (hstop : ¬⌊(outputs.length : K) * step⌋₊ + 1 < stream.length) :
    outputs.length = arrivedOutputs step stream.length := by
  apply Nat.le_antisymm
  · by_contra hlt
    have hk : arrivedOutputs step stream.length < outputs.length := Nat.lt_of_not_le hlt
    obtain ⟨y, hy⟩ : ∃ y, outputs[arrivedOutputs step stream.length]? = some y :=
      ⟨_, List.getElem?_eq_getElem hk⟩
    have hsome := hfar _ y hy
    have hnot : ¬⌊(arrivedOutputs step stream.length : K) * step⌋₊ + 1 < stream.length := by
      rw [← lt_arrivedOutputs hstep]
      exact Nat.lt_irrefl _
    rw [sampleAt_of_le (Nat.le_of_not_lt hnot)] at hsome
    cases hsome
  · by_contra hlt
    exact hstop ((lt_arrivedOutputs hstep _ _).mp (Nat.lt_of_not_le hlt))

/-- Outputs that stop where the stream stops are the resampled stream. -/
theorem resampled_of_stopped {outputs : List β} (hstep : 0 < step)
    (hfar : ResampledSoFar interpolate step stream outputs)
    (hstop : ¬⌊(outputs.length : K) * step⌋₊ + 1 < stream.length) :
    Resampled interpolate step stream outputs := by
  intro k
  by_cases hk : k < outputs.length
  · rw [List.getElem?_eq_getElem hk]
    exact (hfar k _ (List.getElem?_eq_getElem hk)).symm
  · have hlen := length_of_stopped hstep hfar hstop
    have hnot : ¬⌊(k : K) * step⌋₊ + 1 < stream.length := by
      rw [← lt_arrivedOutputs hstep, ← hlen]
      exact hk
    rw [List.getElem?_eq_none (Nat.le_of_not_lt hk), sampleAt_of_le (Nat.le_of_not_lt hnot)]

theorem ResampledSoFar.append {outputs : List β}
    (hfar : ResampledSoFar interpolate step stream outputs)
    (more : List α) :
    ResampledSoFar interpolate step (stream ++ more) outputs := by
  intro k y hy
  have hsome := hfar k y hy
  by_cases hlt : ⌊(k : K) * step⌋₊ + 1 < stream.length
  · rw [sampleAt_append hlt]
    exact hsome
  · rw [sampleAt_of_le (Nat.le_of_not_lt hlt)] at hsome
    cases hsome

theorem ResampledSoFar.snoc {outputs : List β} {y : β}
    (hfar : ResampledSoFar interpolate step stream outputs)
    (hnext : sampleAt interpolate stream (outputs.length * step) = some y) :
    ResampledSoFar interpolate step stream (outputs ++ [y]) := by
  intro k z hz
  rcases Nat.lt_or_ge k outputs.length with hlt | hge
  · rw [List.getElem?_append_left hlt] at hz
    exact hfar k z hz
  · have hk : k < (outputs ++ [y]).length := by
      by_contra hout
      rw [List.getElem?_eq_none (Nat.le_of_not_lt hout)] at hz
      cases hz
    rw [List.length_append, List.length_singleton] at hk
    obtain rfl : k = outputs.length := by omega
    rw [List.getElem?_append_right (le_refl _), Nat.sub_self] at hz
    rw [hnext]
    exact hz

theorem resampledSoFar_unique {first second : List β}
    (hfirst : ResampledSoFar interpolate step stream first)
    (hsecond : ResampledSoFar interpolate step stream second)
    (hlength : first.length = second.length) :
    first = second := by
  apply List.ext_getElem hlength
  intro k hk hk'
  have hleft := hfirst k _ (List.getElem?_eq_getElem hk)
  have hright := hsecond k _ (List.getElem?_eq_getElem hk')
  exact Option.some.inj (hleft.symm.trans hright)

theorem windowAt_start : WindowAt ([] : List α) [] (0 : K) 0 0 :=
  ⟨rfl, le_refl 0, by simp, le_refl 0⟩

namespace WindowAt

theorem append (h : WindowAt stream buffer cursor position dropped) (more : List α) :
    WindowAt (stream ++ more) (buffer ++ more) cursor position dropped := by
  refine ⟨?_, ?_, h.position_eq, h.nonneg⟩
  · rw [h.buffer_eq, List.drop_append_of_le_length h.within]
  · rw [List.length_append]
    exact Nat.le_trans h.within (Nat.le_add_right _ _)

theorem advance (h : WindowAt stream buffer cursor position dropped) (hstep : 0 ≤ step) :
    WindowAt stream buffer (cursor + step) (position + step) dropped := by
  refine ⟨h.buffer_eq, h.within, ?_, add_nonneg h.nonneg hstep⟩
  rw [h.position_eq, add_assoc]

theorem length (h : WindowAt stream buffer cursor position dropped) :
    buffer.length + dropped = stream.length := by
  have hwithin := h.within
  rw [h.buffer_eq, List.length_drop]
  omega

theorem floor_position (h : WindowAt stream buffer cursor position dropped) :
    ⌊position⌋₊ = dropped + ⌊cursor⌋₊ := by
  rw [h.position_eq, add_comm, Nat.floor_add_natCast h.nonneg, Nat.add_comm]

theorem arrived_iff (h : WindowAt stream buffer cursor position dropped) :
    ⌊cursor⌋₊ + 1 < buffer.length ↔ ⌊position⌋₊ + 1 < stream.length := by
  have hlength := h.length
  rw [h.floor_position]
  omega

/-- What the resampler reads at its cursor is what the stream has at the position. -/
theorem sampleAt_eq (h : WindowAt stream buffer cursor position dropped) :
    sampleAt interpolate buffer cursor = sampleAt interpolate stream position := by
  rw [h.buffer_eq, sampleAt_drop h.nonneg, h.position_eq]

theorem dropConsumed (h : WindowAt stream buffer cursor position dropped) :
    ∃ dropped', WindowAt stream (dropConsumed buffer cursor).1 (dropConsumed buffer cursor).2
      position dropped' := by
  rw [TaskForceRadio.dropConsumed]
  split
  · rename_i hconsumed
    have hfloor : (⌊cursor⌋₊ : K) ≤ cursor := Nat.floor_le h.nonneg
    have hlength := h.length
    refine ⟨dropped + ⌊cursor⌋₊, ?_, by omega, ?_, sub_nonneg.mpr hfloor⟩
    · rw [h.buffer_eq, List.drop_drop]
    · rw [h.position_eq]
      push_cast
      ring
  · exact ⟨dropped, h⟩

end WindowAt

/-- A cursor that is not past the end leaves nothing in front of it. -/
theorem length_dropConsumed (h : ⌊cursor⌋₊ ≤ buffer.length) :
    (dropConsumed buffer cursor).1.length = buffer.length - ⌊cursor⌋₊ := by
  rw [dropConsumed]
  split
  · exact List.length_drop
  · rename_i hkept
    have hzero : ⌊cursor⌋₊ = 0 := by
      by_contra hpos
      exact hkept ⟨Nat.pos_of_ne_zero hpos, h⟩
    rw [hzero, Nat.sub_zero]

/-- A cursor past the end keeps everything. -/
theorem dropConsumed_overshot (h : buffer.length < ⌊cursor⌋₊) :
    dropConsumed buffer cursor = (buffer, cursor) := by
  rw [dropConsumed, if_neg]
  rintro ⟨-, hle⟩
  exact absurd hle (Nat.not_le_of_lt h)

end Resampling

end TaskForceRadio
