import TaskForceRadio.Foundation.Single

/-!
# Rounding to the IEEE single format

The sum, the difference, the product and the quotient of two singles are the exact results,
rounded. All that is said of rounding is that it never crosses a single: bounds that are singles
themselves survive every operation.
-/

set_option autoImplicit false

namespace TaskForceRadio.Single

open Float.Model Float.Model.UnpackedFloat

/-- The magnitudes of the finite singles. -/
def Representable (t : ℚ) : Prop := t = 0 ∨ ∃ m e, Fits m e ∧ t = m * (2 : ℚ) ^ e

theorem Representable.nonneg {t : ℚ} (h : Representable t) : 0 ≤ t := by
  rcases h with rfl | ⟨m, e, -, rfl⟩
  · exact le_refl 0
  · positivity

/-- A mantissa cut off a number, with the two bits that tell whether anything is lost. -/
structure Cut (em : ExtendedMantissa) (q : ℚ) : Prop where
  low : (em.mantissa : ℚ) ≤ q
  high : q < em.mantissa + 1
  exact : (em.roundBit || em.stickyBit) = false ↔ q = em.mantissa

theorem cut_exact (m : Nat) : Cut (.ofMantissaAndAccuracy m .exact) m :=
  ⟨le_refl _, lt_add_one _, by simp [ExtendedMantissa.ofMantissaAndAccuracy]⟩

section Mantissas
variable {em : ExtendedMantissa} {q : ℚ}

theorem Cut.shiftRightOne (h : Cut em q) : Cut em.shiftRightOne (q / 2) := by
  obtain ⟨hlow, hhigh, hexact⟩ := h
  have hsplit : 2 * (em.mantissa / 2) + em.mantissa % 2 = em.mantissa := Nat.div_add_mod _ 2
  have hvalue : (em.mantissa : ℚ) = 2 * (em.mantissa / 2 : Nat) + (em.mantissa % 2 : Nat) := by
    exact_mod_cast hsplit.symm
  rcases Nat.mod_two_eq_zero_or_one em.mantissa with heven | hodd
  · rw [heven] at hvalue
    have hsame : q / 2 = (em.mantissa / 2 : Nat) ↔ q = em.mantissa := by
      constructor <;> intro heq <;> push_cast at * <;> linarith
    refine ⟨?_, ?_, ?_⟩
    · simp only [ExtendedMantissa.shiftRightOne]
      push_cast at hvalue ⊢
      linarith
    · simp only [ExtendedMantissa.shiftRightOne]
      push_cast at hvalue ⊢
      linarith
    · simp only [ExtendedMantissa.shiftRightOne]
      rw [hsame, ← hexact, heven]
      simp
  · rw [hodd] at hvalue
    refine ⟨?_, ?_, ?_⟩
    · simp only [ExtendedMantissa.shiftRightOne]
      push_cast at hvalue ⊢
      linarith
    · simp only [ExtendedMantissa.shiftRightOne]
      push_cast at hvalue ⊢
      linarith
    · simp only [ExtendedMantissa.shiftRightOne]
      rw [hodd]
      -- the bit that falls out is lost
      constructor
      · intro hbits
        simp at hbits
      · intro heq
        push_cast at hvalue heq
        linarith

theorem Cut.shiftRight (h : Cut em q) (k : Nat) : Cut (em >>> k) (q / 2 ^ k) := by
  change Cut (Nat.repeat ExtendedMantissa.shiftRightOne k em) _
  induction k with
  | zero => simpa [Nat.repeat] using h
  | succ k ih =>
    have hstep := ih.shiftRightOne
    rw [div_div, ← pow_succ] at hstep
    exact hstep

theorem roundedMantissa_bounds (em : ExtendedMantissa) :
    em.mantissa ≤ em.roundedMantissa ∧ em.roundedMantissa ≤ em.mantissa + 1 ∧
      ((em.roundBit || em.stickyBit) = false → em.roundedMantissa = em.mantissa) := by
  obtain ⟨m, roundBit, stickyBit⟩ := em
  cases roundBit <;> cases stickyBit <;>
    simp only [ExtendedMantissa.roundedMantissa, ExtendedMantissa.accuracy,
      Accuracy.roundToNearestEven] <;>
    refine ⟨by omega, by omega, ?_⟩ <;> simp

theorem Cut.le_rounded (h : Cut em q) {n : Nat} (hn : (n : ℚ) ≤ q) : n ≤ em.roundedMantissa := by
  have hlt : (n : ℚ) < (em.mantissa + 1 : Nat) := by
    push_cast
    exact lt_of_le_of_lt hn h.high
  have hle : n < em.mantissa + 1 := by exact_mod_cast hlt
  have := (roundedMantissa_bounds em).1
  omega

theorem Cut.rounded_le (h : Cut em q) {n : Nat} (hn : q ≤ n) : em.roundedMantissa ≤ n := by
  obtain ⟨-, hup, hkept⟩ := roundedMantissa_bounds em
  have hle : em.mantissa ≤ n := by exact_mod_cast h.low.trans hn
  by_cases hlost : (em.roundBit || em.stickyBit) = false
  · rw [hkept hlost]
    exact hle
  · have hne : em.mantissa ≠ n := by
      intro heq
      refine hlost (h.exact.mpr (le_antisymm ?_ h.low))
      rw [heq]
      exact hn
    omega

end Mantissas

section Grid
variable {em : ExtendedMantissa} {q t : ℚ} {m : Nat} {e E : Int}

theorem exists_multiple (m : Nat) (hle : E ≤ e) : ∃ n : Nat, (m : ℚ) * 2 ^ e = n * 2 ^ E := by
  obtain ⟨k, rfl⟩ := Int.le.dest hle
  refine ⟨m * 2 ^ k, ?_⟩
  push_cast
  rw [zpow_add₀ (by norm_num), zpow_natCast]
  ring

theorem magnitude_below (h : Fits m e) (hlt : e < E) : (m : ℚ) * 2 ^ e < 2 ^ 23 * 2 ^ E := by
  have hstep : (2 : ℚ) ^ (e + 1) ≤ 2 ^ E := zpow_le_zpow_right₀ (by norm_num) hlt
  have hshort : (m : ℚ) < 2 ^ 24 := by exact_mod_cast h.short
  have hpow : (0 : ℚ) < 2 ^ e := by positivity
  calc (m : ℚ) * 2 ^ e < 2 ^ 24 * 2 ^ e := mul_lt_mul_of_pos_right hshort hpow
    _ = 2 ^ 23 * 2 ^ (e + 1) := by
        rw [zpow_add_one₀ (by norm_num)]
        ring
    _ ≤ 2 ^ 23 * 2 ^ E := mul_le_mul_of_nonneg_left hstep (by positivity)

/-- The exponent of the mantissa `q`: 24 bits before the point, or the lowest exponent. -/
structure OnGrid (q : ℚ) (E : Int) : Prop where
  low : -149 ≤ E
  short : q < 2 ^ 24
  normal : 2 ^ 23 ≤ q ∨ E = -149

theorem Cut.le_grid (h : Cut em q) (hgrid : OnGrid q E) (ht : Representable t)
    (hle : t ≤ q * 2 ^ E) :
    t ≤ em.roundedMantissa * 2 ^ E := by
  have hpow : (0 : ℚ) < 2 ^ E := by positivity
  rcases ht with rfl | ⟨m, e, hfits, rfl⟩
  · positivity
  · by_cases hexponent : E ≤ e
    · obtain ⟨n, hn⟩ := exists_multiple m hexponent
      rw [hn] at hle ⊢
      have hmantissa : n ≤ em.roundedMantissa := h.le_rounded (le_of_mul_le_mul_right hle hpow)
      exact mul_le_mul_of_nonneg_right (by exact_mod_cast hmantissa) hpow.le
    · have hfull : (2 : ℚ) ^ 23 ≤ q := by
        rcases hgrid.normal with hfull | hlowest
        · exact hfull
        · have := hfits.low
          omega
      have hmantissa : 2 ^ 23 ≤ em.roundedMantissa := h.le_rounded (by exact_mod_cast hfull)
      calc (m : ℚ) * 2 ^ e ≤ 2 ^ 23 * 2 ^ E := (magnitude_below hfits (by omega)).le
        _ ≤ em.roundedMantissa * 2 ^ E :=
            mul_le_mul_of_nonneg_right (by exact_mod_cast hmantissa) hpow.le

theorem Cut.grid_le (h : Cut em q) (hgrid : OnGrid q E) (ht : Representable t)
    (hle : q * 2 ^ E ≤ t) :
    em.roundedMantissa * 2 ^ E ≤ t := by
  have hpow : (0 : ℚ) < 2 ^ E := by positivity
  rcases ht with rfl | ⟨m, e, hfits, rfl⟩
  · have hzero : q ≤ (0 : Nat) := by
      push_cast
      exact nonpos_of_mul_nonpos_left hle hpow
    have hmantissa : em.roundedMantissa = 0 := Nat.le_zero.mp (h.rounded_le hzero)
    simp [hmantissa]
  · by_cases hexponent : E ≤ e
    · obtain ⟨n, hn⟩ := exists_multiple m hexponent
      rw [hn] at hle ⊢
      have hmantissa : em.roundedMantissa ≤ n := h.rounded_le (le_of_mul_le_mul_right hle hpow)
      exact mul_le_mul_of_nonneg_right (by exact_mod_cast hmantissa) hpow.le
    · have hfull : (2 : ℚ) ^ 23 ≤ q := by
        rcases hgrid.normal with hfull | hlowest
        · exact hfull
        · have := hfits.low
          omega
      have hbelow := magnitude_below hfits (by omega : e < E)
      have habove := mul_le_mul_of_nonneg_right hfull hpow.le
      linarith

end Grid

/-- The greatest finite single. -/
def greatest : ℚ := (2 ^ 24 - 1) * 2 ^ (104 : Int)

theorem representable_greatest : Representable greatest := by
  refine Or.inr ⟨2 ^ 24 - 1, 104,
    ⟨by decide, by decide, by decide, by decide, Or.inl (by decide)⟩, ?_⟩
  rw [greatest]
  push_cast
  norm_num

theorem greatest_lt : greatest < 2 ^ (128 : Int) := by
  rw [greatest]
  norm_num

theorem le_greatest {q : ℚ} (h : q ≤ 2 ^ 104) : q ≤ greatest := by
  apply h.trans
  rw [greatest]
  norm_num

/-- A finite number with the sign `s`, whose magnitude is `q` rounded. -/
structure Nearby (s : Sign) (q : ℚ) (u : UnpackedFloat) : Prop where
  canonical : Canonical u
  shape : u = .zero s ∨ ∃ m e h, u = .finite s m e h
  below : ∀ t, Representable t → t ≤ q → t ≤ |unpackedValue u|
  above : ∀ t, Representable t → q ≤ t → |unpackedValue u| ≤ t

section Magnitudes
variable {m : Nat} {e : Int} {q : ℚ} {acc : Accuracy}

theorem targetExponent_eq (m : Nat) (e : Int) :
    Format.binary32.targetExponent (totalExponent m e) =
      max ((m.log2 : Int) + 1 + e - 24) (-149) := by
  rfl

theorem le_targetExponent (hbits : 2 ^ 23 ≤ m ∨ e ≤ -149) :
    e ≤ Format.binary32.targetExponent (totalExponent m e) := by
  rw [targetExponent_eq]
  rcases hbits with hfull | hlow
  · have hlog : 23 ≤ m.log2 := (Nat.le_log2 (by omega)).mpr hfull
    omega
  · omega

theorem onGrid_target (hcut : Cut (.ofMantissaAndAccuracy m acc) q)
    (hbits : 2 ^ 23 ≤ m ∨ e ≤ -149) {k : Nat}
    (hk : e + k = Format.binary32.targetExponent (totalExponent m e)) :
    OnGrid (q / 2 ^ k) (e + k) := by
  rw [targetExponent_eq] at hk
  have hmantissa : (ExtendedMantissa.ofMantissaAndAccuracy m acc).mantissa = m := by
    cases acc with
    | exact => rfl
    | inexact o => cases o <;> rfl
  have hlow := hcut.low
  have hhigh := hcut.high
  rw [hmantissa] at hlow hhigh
  have hpow : (0 : ℚ) < 2 ^ k := by positivity
  refine ⟨by omega, ?_, ?_⟩
  · have hlog : m + 1 ≤ 2 ^ (m.log2 + 1) := Nat.lt_log2_self
    have htop : m + 1 ≤ 2 ^ (24 + k) :=
      hlog.trans (Nat.pow_le_pow_right (by decide) (by omega))
    rw [div_lt_iff₀ hpow, ← pow_add]
    exact lt_of_lt_of_le hhigh (by exact_mod_cast htop)
  · by_cases hlowest : e + k = -149
    · exact Or.inr hlowest
    · apply Or.inl
      have hpos : m ≠ 0 := by
        rintro rfl
        simp at hk
        omega
      have hlog : 2 ^ m.log2 ≤ m := Nat.log2_self_le hpos
      have hbottom : 2 ^ (23 + k) ≤ m := by
        have hexponent : 23 + k = m.log2 := by omega
        rw [hexponent]
        exact hlog
      rw [le_div_iff₀ hpow, ← pow_add]
      exact le_trans (by exact_mod_cast hbottom) hlow

theorem fits_rounded {r : Nat} {E : Int} (hpos : 0 < r) (hshort : r ≤ 2 ^ 24) (hlow : -149 ≤ E)
    (hnormal : 2 ^ 23 ≤ r ∨ E = -149) (hbound : r * (2 : ℚ) ^ E ≤ greatest) :
    ∃ m e k, Fits m e ∧ r = m * 2 ^ k ∧ E = e - (k : Nat) := by
  have hexponent : ∀ n : Nat, 2 ^ n ≤ r → n + E < 128 := by
    intro n hn
    have hpow : (2 : ℚ) ^ (n + E) < 2 ^ (128 : Int) := by
      calc (2 : ℚ) ^ (n + E) = (2 ^ n : Nat) * 2 ^ E := by
            rw [zpow_add₀ (by norm_num), zpow_natCast]
            push_cast
            rfl
        _ ≤ r * 2 ^ E := mul_le_mul_of_nonneg_right (by exact_mod_cast hn) (by positivity)
        _ ≤ greatest := hbound
        _ < 2 ^ (128 : Int) := greatest_lt
    exact (zpow_lt_zpow_iff_right₀ (by norm_num)).mp hpow
  rcases Nat.lt_or_ge r (2 ^ 24) with hlt | hge
  · refine ⟨r, E, 0, ⟨hpos, hlt, hlow, ?_, hnormal⟩, by simp, by simp⟩
    rcases hnormal with hfull | hlowest
    · have := hexponent 23 hfull
      omega
    · omega
  · have hcarry : r = 2 ^ 24 := le_antisymm hshort hge
    have := hexponent 24 hge
    refine ⟨2 ^ 23, E + 1, 1, ⟨by decide, by decide, by omega, by omega, Or.inl (le_refl _)⟩,
      ?_, ?_⟩
    · rw [hcarry]
      norm_num
    · push_cast
      ring

theorem shiftToTargetExponent_rounded {r : Nat} {E : Int} (hshort : r ≤ 2 ^ 24) (hlow : -149 ≤ E)
    (hnormal : 2 ^ 23 ≤ r ∨ E = -149) (hbound : r * (2 : ℚ) ^ E ≤ greatest) :
    ∃ m e, shiftToTargetExponent Format.binary32 r E .exact = (⟨m, false, false⟩, e) ∧
      (m = 0 ∨ Fits m e) ∧ (m : ℚ) * 2 ^ e = r * 2 ^ E := by
  rcases Nat.eq_zero_or_pos r with rfl | hpos
  · refine ⟨0, E, ?_, Or.inl rfl, rfl⟩
    have hshift : (Format.binary32.targetExponent (totalExponent 0 E) - E).toNat = 0 := by
      rw [targetExponent_eq]
      simp
      omega
    simp only [shiftToTargetExponent, shiftToExponent]
    rw [hshift]
    simp
    rfl
  · obtain ⟨m, e, k, hfits, rfl, rfl⟩ := fits_rounded hpos hshort hlow hnormal hbound
    refine ⟨m, e, shiftToTargetExponent_scaled hfits k, Or.inr hfits, ?_⟩
    rw [zpow_sub₀ (by norm_num), zpow_natCast]
    push_cast
    field_simp

theorem abs_unpackedValue {m : Nat} {e : Int} (s : Sign) (h : 0 < m) :
    |unpackedValue (.finite s m e h)| = m * 2 ^ e := by
  have hnonneg : (0 : ℚ) ≤ m * 2 ^ e := by positivity
  cases s with
  | positive => exact abs_of_nonneg hnonneg
  | negative =>
    show |-((m : ℚ) * 2 ^ e)| = _
    rw [abs_neg, abs_of_nonneg hnonneg]

theorem nearby_roundWithAccuracy (s : Sign) (hcut : Cut (.ofMantissaAndAccuracy m acc) q)
    (hbits : 2 ^ 23 ≤ m ∨ e ≤ -149) (hbound : q * 2 ^ e ≤ greatest) :
    Nearby s (q * 2 ^ e) (roundWithAccuracy Format.binary32 s m e acc) := by
  obtain ⟨k, hk⟩ := Int.le.dest (le_targetExponent hbits)
  have hgrid := onGrid_target hcut hbits hk
  have hcut := hcut.shiftRight k
  have hfirst : shiftToTargetExponent Format.binary32 m e acc =
      (ExtendedMantissa.ofMantissaAndAccuracy m acc >>> k, e + k) := by
    have hshift : (Format.binary32.targetExponent (totalExponent m e) - e).toNat = k := by omega
    simp only [shiftToTargetExponent, shiftToExponent]
    rw [hshift]
  generalize ExtendedMantissa.ofMantissaAndAccuracy m acc >>> k = em at hfirst hcut
  have hvalue : q * 2 ^ e = q / 2 ^ k * 2 ^ (e + k) := by
    rw [zpow_add₀ (by norm_num), zpow_natCast]
    field_simp
  rw [hvalue] at hbound ⊢
  have hshort : em.roundedMantissa ≤ 2 ^ 24 :=
    hcut.rounded_le (by exact_mod_cast hgrid.short.le)
  have hnormal : 2 ^ 23 ≤ em.roundedMantissa ∨ e + k = -149 := by
    rcases hgrid.normal with hfull | hlowest
    · exact Or.inl (hcut.le_rounded (by exact_mod_cast hfull))
    · exact Or.inr hlowest
  obtain ⟨m', e', hsecond, hfinal, hsame⟩ := shiftToTargetExponent_rounded hshort hgrid.low hnormal
    (hcut.grid_le hgrid representable_greatest hbound)
  simp only [roundWithAccuracy, hfirst, hsecond]
  rcases hfinal with rfl | hfits
  · rw [dif_pos rfl]
    have hzero : |unpackedValue (.zero s)| = em.roundedMantissa * 2 ^ (e + k) := by
      rw [← hsame]
      simp [unpackedValue]
    refine ⟨trivial, Or.inl rfl, ?_, ?_⟩ <;> intro t ht hle <;> rw [hzero]
    · exact hcut.le_grid hgrid ht hle
    · exact hcut.grid_le hgrid ht hle
  · rw [dif_neg hfits.pos.ne']
    refine ⟨hfits, Or.inr ⟨m', e', hfits.pos, rfl⟩, ?_, ?_⟩ <;> intro t ht hle <;>
      rw [abs_unpackedValue, hsame]
    · exact hcut.le_grid hgrid ht hle
    · exact hcut.grid_le hgrid ht hle

end Magnitudes

def signed : Sign → ℚ → ℚ
  | .positive, q => q
  | .negative, q => -q

/-- The single `x` is `q` rounded: no single lies between them. -/
structure Rounds (q : ℚ) (x : Float32) : Prop where
  finite : x.isFinite = true
  below : ∀ t, Representable |t| → t ≤ q → t ≤ value x
  above : ∀ t, Representable |t| → q ≤ t → value x ≤ t

/-- The same for what is not packed yet. -/
def RoundsTo (q : ℚ) (u : UnpackedFloat) : Prop :=
  ∃ s p, 0 ≤ p ∧ signed s p = q ∧ Nearby s p u

theorem Nearby.unpack_pack {s : Sign} {q : ℚ} {u : UnpackedFloat} (h : Nearby s q u) :
    UnpackedFloat.unpack Format.binary32 (UnpackedFloat.pack Format.binary32 u) = u := by
  rcases h.shape with rfl | ⟨m, e, hpos, rfl⟩
  · cases s <;> rfl
  · exact Single.unpack_pack h.canonical s

theorem Nearby.value_eq {s : Sign} {q : ℚ} {u : UnpackedFloat} (h : Nearby s q u) :
    unpackedValue u = signed s |unpackedValue u| := by
  rcases h.shape with rfl | ⟨m, e, hpos, rfl⟩
  · cases s <;> simp [unpackedValue, signed]
  · rw [abs_unpackedValue]
    cases s <;> rfl

theorem RoundsTo.rounds {q : ℚ} {u : UnpackedFloat} (h : RoundsTo q u) {x : Float32}
    (hx : x.toModel.unpack =
      UnpackedFloat.unpack Format.binary32 (UnpackedFloat.pack Format.binary32 u)) :
    Rounds q x := by
  obtain ⟨s, p, hnonneg, rfl, hnear⟩ := h
  rw [hnear.unpack_pack] at hx
  have hvalue : value x = signed s |unpackedValue u| := by
    rw [value, hx]
    exact hnear.value_eq
  refine ⟨?_, ?_, ?_⟩
  · show x.toModel.unpack.isFinite = true
    rw [hx]
    rcases hnear.shape with rfl | ⟨m, e, hpos, rfl⟩ <;> rfl
  all_goals
    intro t ht hle
    rw [hvalue]
    have habs := abs_nonneg (unpackedValue u)
    have hbelow := hnear.below |t| ht
    have habove := hnear.above |t| ht
  · cases s with
    | positive =>
      simp only [signed] at hle ⊢
      rcases le_total 0 t with hpos | hneg
      · rw [abs_of_nonneg hpos] at hbelow
        exact hbelow hle
      · exact hneg.trans habs
    | negative =>
      simp only [signed] at hle ⊢
      rw [abs_of_nonpos (by linarith)] at habove
      linarith [habove (by linarith)]
  · cases s with
    | positive =>
      simp only [signed] at hle ⊢
      rw [abs_of_nonneg (by linarith)] at habove
      exact habove hle
    | negative =>
      simp only [signed] at hle ⊢
      rcases le_total 0 t with hpos | hneg
      · linarith
      · rw [abs_of_nonpos hneg] at hbelow
        linarith [hbelow (by linarith)]

theorem roundsTo_zero (s : Sign) : RoundsTo 0 (.zero s) := by
  refine ⟨s, 0, le_refl 0, by cases s <;> simp [signed], trivial, Or.inl rfl, ?_, ?_⟩
  · intro t ht hle
    simpa [unpackedValue] using hle
  · intro t ht hle
    simpa [unpackedValue] using hle

theorem roundsTo_self {s : Sign} {m : Nat} {e : Int} (h : Fits m e) :
    RoundsTo (signed s (m * 2 ^ e)) (.finite s m e h.pos) := by
  refine ⟨s, m * 2 ^ e, by positivity, rfl, h, Or.inr ⟨m, e, h.pos, rfl⟩, ?_, ?_⟩ <;>
    intro t ht hle <;> rwa [abs_unpackedValue]

theorem value_finite {s : Sign} {m : Nat} {e : Int} (h : 0 < m) :
    unpackedValue (.finite s m e h) = signed s (m * 2 ^ e) := by
  cases s <;> rfl

theorem signed_mul (s₁ s₂ : Sign) (p q : ℚ) :
    signed (s₁ * s₂) (p * q) = signed s₁ p * signed s₂ q := by
  cases s₁ with
  | positive =>
    cases s₂ with
    | positive => rfl
    | negative => exact (mul_neg p q).symm
  | negative =>
    cases s₂ with
    | positive => exact (neg_mul p q).symm
    | negative => exact (neg_mul_neg p q).symm

theorem signed_div (s₁ s₂ : Sign) (p q : ℚ) :
    signed (s₁ / s₂) (p / q) = signed s₁ p / signed s₂ q := by
  cases s₁ with
  | positive =>
    cases s₂ with
    | positive => rfl
    | negative => exact (div_neg p).symm
  | negative =>
    cases s₂ with
    | positive => exact (neg_div q p).symm
    | negative => exact (neg_div_neg_eq p q).symm

theorem signed_neg (s : Sign) (p : ℚ) : signed (-s) p = -signed s p := by
  cases s with
  | positive => rfl
  | negative => exact (neg_neg p).symm

theorem abs_signed (s : Sign) (p : ℚ) : |signed s p| = |p| := by
  cases s with
  | positive => rfl
  | negative => exact abs_neg p

section Sums
variable {m : Nat} {e E : Int}

theorem decreaseExponent_value (m : Nat) (hle : E ≤ e) :
    ((decreaseExponent m e E).1 : ℚ) * 2 ^ E = m * 2 ^ e := by
  obtain ⟨k, rfl⟩ := Int.le.dest hle
  have hshift : (E + k - E).toNat = k := by omega
  simp only [decreaseExponent]
  rw [hshift, Nat.shiftLeft_eq, zpow_add₀ (by norm_num), zpow_natCast]
  push_cast
  ring

theorem nearby_round (s : Sign) (hpos : 0 < m) (hbound : (m : ℚ) * 2 ^ e ≤ greatest) :
    Nearby s (m * 2 ^ e) (UnpackedFloat.round Format.binary32 s m e) := by
  simp only [UnpackedFloat.round, decreaseExponent]
  have htarget := targetExponent_eq m e
  generalize Format.binary32.targetExponent (totalExponent m e) = T at htarget
  obtain ⟨k, hk⟩ : ∃ k, (e - T).toNat = k := ⟨_, rfl⟩
  have hvalue : ((m * 2 ^ k : Nat) : ℚ) * 2 ^ (e - k) = m * 2 ^ e := by
    rw [zpow_sub₀ (by norm_num), zpow_natCast]
    push_cast
    field_simp
  rw [hk, Nat.shiftLeft_eq, ← hvalue]
  refine nearby_roundWithAccuracy s (cut_exact _) ?_ (hvalue.symm ▸ hbound)
  by_cases hlow : e - k ≤ -149
  · exact Or.inr hlow
  · refine Or.inl ((Nat.le_log2 (by positivity)).mp ?_)
    rw [log2_scaled hpos]
    omega

theorem roundsTo_normalize (n : Int) (s : Sign) (hbound : |(n : ℚ) * 2 ^ e| ≤ greatest) :
    RoundsTo (n * 2 ^ e) (UnpackedFloat.normalize Format.binary32 n e s) := by
  have hpow : (0 : ℚ) < 2 ^ e := by positivity
  rcases Int.lt_trichotomy n 0 with hneg | rfl | hpos
  · obtain ⟨m, hm⟩ : ∃ m : Nat, n = -(m : Int) := ⟨(-n).toNat, by omega⟩
    subst hm
    have hcompare : compare (-(m : Int)) 0 = .lt := compare_lt_iff_lt.mpr hneg
    simp only [UnpackedFloat.normalize, hcompare]
    have hmantissa : (- -(m : Int)).toNat = m := by omega
    rw [hmantissa]
    push_cast at hbound ⊢
    rw [neg_mul, abs_neg, abs_of_nonneg (by positivity)] at hbound
    refine ⟨.negative, m * 2 ^ e, by positivity, by simp [signed], ?_⟩
    exact nearby_round _ (by omega) hbound
  · have hcompare : compare (0 : Int) 0 = .eq := rfl
    simp only [UnpackedFloat.normalize, hcompare]
    simpa using roundsTo_zero s
  · obtain ⟨m, rfl⟩ := Int.eq_ofNat_of_zero_le hpos.le
    have hcompare : compare (m : Int) 0 = .gt := compare_gt_iff_gt.mpr hpos
    simp only [UnpackedFloat.normalize, hcompare]
    rw [Int.toNat_natCast]
    push_cast at hbound ⊢
    rw [abs_of_nonneg (by positivity)] at hbound
    exact ⟨.positive, m * 2 ^ e, by positivity, rfl, nearby_round _ (by omega) hbound⟩

theorem apply_value (s : Sign) (m : Nat) (hle : E ≤ e) :
    (s.apply (decreaseExponent m e E).1 : ℚ) * 2 ^ E = signed s (m * 2 ^ e) := by
  rw [← decreaseExponent_value m hle]
  cases s with
  | positive => simp [Sign.apply, signed]
  | negative => simp [Sign.apply, signed]

end Sums

section Operations
variable {x y : Float32} (hx : x.isFinite = true) (hy : y.isFinite = true)
include hx hy

theorem rounds_add (hbound : |value x + value y| ≤ greatest) :
    Rounds (value x + value y) (x + y) := by
  have hcx := canonical_model x
  have hcy := canonical_model y
  refine RoundsTo.rounds (u := UnpackedFloat.add Format.binary32 x.toModel.unpack y.toModel.unpack)
    ?_ rfl
  change x.toModel.unpack.isFinite = true at hx
  change y.toModel.unpack.isFinite = true at hy
  rw [value, value] at *
  generalize x.toModel.unpack = a at *
  generalize y.toModel.unpack = b at *
  cases a with
  | infinity s => cases hx
  | notANumber => cases hx
  | zero s₁ =>
    cases b with
    | infinity s => cases hy
    | notANumber => cases hy
    | zero s₂ =>
      simp only [UnpackedFloat.add, unpackedValue, add_zero]
      split <;> exact roundsTo_zero _
    | finite s₂ m₂ e₂ h₂ =>
      simp only [UnpackedFloat.add, value_finite]
      simpa [unpackedValue] using roundsTo_self hcy
  | finite s₁ m₁ e₁ h₁ =>
    cases b with
    | infinity s => cases hy
    | notANumber => cases hy
    | zero s₂ =>
      simp only [UnpackedFloat.add, value_finite]
      simpa [unpackedValue] using roundsTo_self hcx
    | finite s₂ m₂ e₂ h₂ =>
      simp only [UnpackedFloat.add, value_finite] at hbound ⊢
      rw [← apply_value s₁ m₁ (min_le_left e₁ e₂), ← apply_value s₂ m₂ (min_le_right e₁ e₂),
        ← add_mul, ← Int.cast_add] at hbound ⊢
      exact roundsTo_normalize _ _ hbound

theorem rounds_sub (hbound : |value x - value y| ≤ greatest) :
    Rounds (value x - value y) (x - y) := by
  have hcx := canonical_model x
  have hcy := canonical_model y
  refine RoundsTo.rounds (u := UnpackedFloat.sub Format.binary32 x.toModel.unpack y.toModel.unpack)
    ?_ rfl
  change x.toModel.unpack.isFinite = true at hx
  change y.toModel.unpack.isFinite = true at hy
  rw [value, value] at *
  generalize x.toModel.unpack = a at *
  generalize y.toModel.unpack = b at *
  cases a with
  | infinity s => cases hx
  | notANumber => cases hx
  | zero s₁ =>
    cases b with
    | infinity s => cases hy
    | notANumber => cases hy
    | zero s₂ =>
      simp only [UnpackedFloat.sub, unpackedValue, sub_zero]
      split <;> exact roundsTo_zero _
    | finite s₂ m₂ e₂ h₂ =>
      have hzero : unpackedValue (.zero s₁) = 0 := rfl
      simp only [UnpackedFloat.sub, value_finite]
      rw [hzero, zero_sub, ← signed_neg]
      exact roundsTo_self hcy
  | finite s₁ m₁ e₁ h₁ =>
    cases b with
    | infinity s => cases hy
    | notANumber => cases hy
    | zero s₂ =>
      simp only [UnpackedFloat.sub, value_finite]
      simpa [unpackedValue] using roundsTo_self hcx
    | finite s₂ m₂ e₂ h₂ =>
      simp only [UnpackedFloat.sub, value_finite] at hbound ⊢
      rw [← apply_value s₁ m₁ (min_le_left e₁ e₂), ← apply_value s₂ m₂ (min_le_right e₁ e₂),
        ← sub_mul, ← Int.cast_sub] at hbound ⊢
      exact roundsTo_normalize _ _ hbound

theorem rounds_mul (hbound : |value x * value y| ≤ greatest) :
    Rounds (value x * value y) (x * y) := by
  have hcx := canonical_model x
  have hcy := canonical_model y
  refine RoundsTo.rounds (u := UnpackedFloat.mul Format.binary32 x.toModel.unpack y.toModel.unpack)
    ?_ rfl
  change x.toModel.unpack.isFinite = true at hx
  change y.toModel.unpack.isFinite = true at hy
  rw [value, value] at *
  generalize x.toModel.unpack = a at *
  generalize y.toModel.unpack = b at *
  cases a with
  | infinity s => cases hx
  | notANumber => cases hx
  | zero s₁ =>
    cases b with
    | infinity s => cases hy
    | notANumber => cases hy
    | zero s₂ =>
      simp only [UnpackedFloat.mul, unpackedValue, zero_mul]
      exact roundsTo_zero _
    | finite s₂ m₂ e₂ h₂ =>
      simp only [UnpackedFloat.mul, unpackedValue, zero_mul]
      exact roundsTo_zero _
  | finite s₁ m₁ e₁ h₁ =>
    cases b with
    | infinity s => cases hy
    | notANumber => cases hy
    | zero s₂ =>
      simp only [UnpackedFloat.mul, unpackedValue, mul_zero]
      exact roundsTo_zero _
    | finite s₂ m₂ e₂ h₂ =>
      simp only [UnpackedFloat.mul, value_finite, ← signed_mul, abs_signed] at hbound ⊢
      have hvalue : (m₁ * 2 ^ e₁ * (m₂ * 2 ^ e₂) : ℚ) = (m₁ * m₂ : Nat) * 2 ^ (e₁ + e₂) := by
        rw [zpow_add₀ (by norm_num)]
        push_cast
        ring
      rw [hvalue, abs_of_nonneg (by positivity)] at hbound
      rw [hvalue]
      refine ⟨s₁ * s₂, _, by positivity, rfl, nearby_roundWithAccuracy _ (cut_exact _) ?_ hbound⟩
      -- only two numbers of the lowest exponent have a short product
      obtain ⟨hpos₁, -, -, -, hnormal₁⟩ := hcx
      obtain ⟨hpos₂, -, -, -, hnormal₂⟩ := hcy
      rcases hnormal₁ with hfull | hlow₁
      · exact Or.inl (hfull.trans (Nat.le_mul_of_pos_right m₁ hpos₂))
      · rcases hnormal₂ with hfull | hlow₂
        · exact Or.inl (hfull.trans (Nat.le_mul_of_pos_left m₂ hpos₁))
        · exact Or.inr (by omega)

end Operations

section Quotients
variable {m₁ m₂ : Nat} {e₁ e₂ : Int}

theorem cut_quotient (m : Nat) {d : Nat} (hd : 0 < d) :
    Cut (.ofMantissaAndAccuracy (m / d) (accuracyOfFraction (m % d) d)) ((m : ℚ) / d) := by
  have hpos : (0 : ℚ) < d := by exact_mod_cast hd
  have hmantissa : ∀ acc : Accuracy,
      (ExtendedMantissa.ofMantissaAndAccuracy (m / d) acc).mantissa = m / d := by
    intro acc
    cases acc with
    | exact => rfl
    | inexact o => cases o <;> rfl
  refine ⟨?_, ?_, ?_⟩
  · rw [hmantissa]
    exact Nat.cast_div_le
  · rw [hmantissa, div_lt_iff₀ hpos]
    exact_mod_cast (Nat.div_lt_iff_lt_mul hd).mp (Nat.lt_succ_self (m / d))
  · rw [hmantissa, div_eq_iff hpos.ne']
    by_cases hrest : m % d = 0
    · have hmul : m = m / d * d := (Nat.div_mul_cancel (Nat.dvd_of_mod_eq_zero hrest)).symm
      simp only [accuracyOfFraction, hrest, if_true, ExtendedMantissa.ofMantissaAndAccuracy]
      exact ⟨fun _ => by exact_mod_cast hmul, fun _ => rfl⟩
    · simp only [accuracyOfFraction, hrest, if_false]
      constructor
      · intro hbits
        generalize compare (2 * (m % d)) d = o at hbits
        cases o <;> cases hbits
      · intro hmul
        refine absurd ?_ hrest
        have hmul : m = m / d * d := by exact_mod_cast hmul
        rw [hmul, Nat.mul_mod_left]

theorem quotient_bits (h₁ : 0 < m₁) (h₂ : 0 < m₂) {k : Nat} {E : Int} (hE : E = e₁ - e₂ - k)
    (hle : E ≤ max ((m₁.log2 : Int) + 1 + e₁ - (m₂.log2 + 1 + e₂) - 24) (-149)) :
    2 ^ 23 ≤ m₁ * 2 ^ k / m₂ ∨ E ≤ -149 := by
  by_cases hlow : E ≤ -149
  · exact Or.inr hlow
  · refine Or.inl ((Nat.le_div_iff_mul_le h₂).mpr ?_)
    have hshift : m₂.log2 + 1 + 23 ≤ m₁.log2 + k := by omega
    calc 2 ^ 23 * m₂ ≤ 2 ^ 23 * 2 ^ (m₂.log2 + 1) :=
          Nat.mul_le_mul_left _ Nat.lt_log2_self.le
      _ = 2 ^ (m₂.log2 + 1 + 23) := by ring
      _ ≤ 2 ^ (m₁.log2 + k) := Nat.pow_le_pow_right (by decide) hshift
      _ = 2 ^ m₁.log2 * 2 ^ k := by ring
      _ ≤ m₁ * 2 ^ k := Nat.mul_le_mul_right _ (Nat.log2_self_le h₁.ne')

theorem nearby_divCore (s : Sign) (h₁ : 0 < m₁) (h₂ : 0 < m₂)
    (hbound : (m₁ * 2 ^ e₁ / (m₂ * 2 ^ e₂) : ℚ) ≤ greatest) :
    Nearby s (m₁ * 2 ^ e₁ / (m₂ * 2 ^ e₂))
      (roundWithAccuracy Format.binary32 s (divCore Format.binary32 m₁ e₁ m₂ e₂).1
        (divCore Format.binary32 m₁ e₁ m₂ e₂).2.1 (divCore Format.binary32 m₁ e₁ m₂ e₂).2.2) := by
  have hpos : (m₂ : ℚ) ≠ 0 := by exact_mod_cast h₂.ne'
  obtain ⟨E, hE⟩ : ∃ E, min (e₁ - e₂) (Format.binary32.targetExponent
      (totalExponent m₁ e₁ - totalExponent m₂ e₂)) = E := ⟨_, rfl⟩
  obtain ⟨k, hk⟩ := Int.le.dest (hE ▸ min_le_left _ _ : E ≤ e₁ - e₂)
  have hshift : (e₁ - e₂ - E).toNat = k := by omega
  simp only [divCore, hE, hshift, Nat.shiftLeft_eq]
  have hvalue : (m₁ * 2 ^ e₁ / (m₂ * 2 ^ e₂) : ℚ) = (m₁ * 2 ^ k : Nat) / m₂ * 2 ^ E := by
    have hexponent : e₁ = e₂ + (E + k) := by omega
    rw [hexponent, zpow_add₀ (by norm_num), zpow_add₀ (by norm_num), zpow_natCast]
    push_cast
    field_simp
  rw [hvalue] at hbound ⊢
  exact nearby_roundWithAccuracy s (cut_quotient _ h₂)
    (quotient_bits h₁ h₂ (by omega) (hE ▸ min_le_right _ _)) hbound

theorem rounds_div {x y : Float32} (hx : x.isFinite = true) (hy : y.isFinite = true)
    (hzero : value y ≠ 0) (hbound : |value x / value y| ≤ greatest) :
    Rounds (value x / value y) (x / y) := by
  refine RoundsTo.rounds (u := UnpackedFloat.div Format.binary32 x.toModel.unpack y.toModel.unpack)
    ?_ rfl
  change x.toModel.unpack.isFinite = true at hx
  change y.toModel.unpack.isFinite = true at hy
  rw [value] at hzero
  rw [value, value] at *
  generalize x.toModel.unpack = a at *
  generalize y.toModel.unpack = b at *
  cases b with
  | infinity s => cases hy
  | notANumber => cases hy
  | zero s₂ => exact absurd rfl hzero
  | finite s₂ m₂ e₂ h₂ =>
    cases a with
    | infinity s => cases hx
    | notANumber => cases hx
    | zero s₁ =>
      simp only [UnpackedFloat.div, unpackedValue, zero_div]
      exact roundsTo_zero _
    | finite s₁ m₁ e₁ h₁ =>
      simp only [UnpackedFloat.div, value_finite, ← signed_div, abs_signed] at hbound ⊢
      rw [abs_of_nonneg (by positivity)] at hbound
      exact ⟨s₁ / s₂, _, by positivity, rfl, nearby_divCore _ h₁ h₂ hbound⟩

end Quotients

theorem representable_value {z : Float32} (hz : z.isFinite = true) : Representable |value z| := by
  have hcanonical := canonical_model z
  change z.toModel.unpack.isFinite = true at hz
  rw [value]
  generalize z.toModel.unpack = a at hz hcanonical ⊢
  cases a with
  | infinity s => cases hz
  | notANumber => cases hz
  | zero s => exact Or.inl (by simp [unpackedValue])
  | finite s m e h => exact Or.inr ⟨m, e, hcanonical, abs_unpackedValue s h⟩

/-- Short mantissas need no leading bit. -/
theorem representable_dyadic {n : Nat} {e : Int} (hshort : n < 2 ^ 24) (hlow : -149 ≤ e)
    (hhigh : e ≤ 104) :
    Representable (n * (2 : ℚ) ^ e) := by
  rcases Nat.eq_zero_or_pos n with rfl | hpos
  · exact Or.inl (by simp)
  · have hlog : n.log2 < 24 := (Nat.log2_lt hpos.ne').mpr hshort
    obtain ⟨k, hk⟩ : ∃ k, min (23 - n.log2) (e + 149).toNat = k := ⟨_, rfl⟩
    refine Or.inr ⟨n * 2 ^ k, e - k, ⟨by positivity, ?_, by omega, by omega, ?_⟩, ?_⟩
    · apply (Nat.log2_lt (by positivity)).mp
      rw [log2_scaled hpos]
      omega
    · by_cases hlowest : e - k = -149
      · exact Or.inr hlowest
      · refine Or.inl ((Nat.le_log2 (by positivity)).mp ?_)
        rw [log2_scaled hpos]
        omega
    · rw [zpow_sub₀ (by norm_num), zpow_natCast]
      push_cast
      field_simp

theorem representable_nat {n : Nat} (hshort : n < 2 ^ 24) : Representable |(n : ℚ)| := by
  rw [abs_of_nonneg (by positivity)]
  simpa using representable_dyadic (e := 0) hshort (by decide) (by decide)

theorem representable_neg {t : ℚ} (h : Representable |t|) : Representable |-t| := by
  rwa [abs_neg]

namespace Rounds

variable {q : ℚ} {x z : Float32} (h : Rounds q x)
include h

theorem le_value (hz : z.isFinite = true) (hle : q ≤ value z) : value x ≤ value z :=
  h.above _ (representable_value hz) hle

theorem value_le (hz : z.isFinite = true) (hle : value z ≤ q) : value z ≤ value x :=
  h.below _ (representable_value hz) hle

theorem nonneg (hq : 0 ≤ q) : 0 ≤ value x := h.below 0 (Or.inl abs_zero) hq

theorem nonpos (hq : q ≤ 0) : value x ≤ 0 := h.above 0 (Or.inl abs_zero) hq

theorem abs_value_le {t : ℚ} (ht : Representable |t|) (hle : |q| ≤ t) : |value x| ≤ t := by
  rw [abs_le] at hle ⊢
  exact ⟨h.below (-t) (representable_neg ht) hle.1, h.above t ht hle.2⟩

end Rounds

theorem exists_mantissa {x : Float32} (hx : x.isFinite = true) (hone : 1 ≤ value x) :
    ∃ m e, Fits m e ∧ -23 ≤ e ∧ value x = m * (2 : ℚ) ^ e := by
  have hcanonical := canonical_model x
  change x.toModel.unpack.isFinite = true at hx
  rw [value] at hone ⊢
  generalize x.toModel.unpack = a at hx hone hcanonical ⊢
  cases a with
  | infinity s => cases hx
  | notANumber => cases hx
  | zero s => norm_num [unpackedValue] at hone
  | finite s m e h =>
    have hpos : (0 : ℚ) < m * 2 ^ e := magnitude_pos hcanonical
    cases s with
    | negative =>
      simp only [unpackedValue] at hone
      linarith
    | positive =>
      refine ⟨m, e, hcanonical, ?_, rfl⟩
      by_contra hlow
      have hbelow := magnitude_below hcanonical (by omega : e < -23)
      simp only [unpackedValue] at hone
      norm_num at hbelow
      linarith

theorem representable_sub_one {x : Float32} (hx : x.isFinite = true) (hone : 1 ≤ value x)
    (hlarge : value x < 2 ^ 23) :
    Representable |value x - 1| := by
  obtain ⟨m, e, hfits, hlow, hvalue⟩ := exists_mantissa hx hone
  have hsmall : e ≤ 0 := by
    by_contra hpos
    have hfull : 2 ^ 23 ≤ m := by
      rcases hfits.normal with hfull | hlowest
      · exact hfull
      · omega
    have hpow : (1 : ℚ) ≤ 2 ^ e := one_le_zpow₀ (by norm_num) (by omega)
    have hfull : (2 : ℚ) ^ 23 ≤ m := by exact_mod_cast hfull
    have hproduct : (2 : ℚ) ^ 23 * 1 ≤ m * 2 ^ e :=
      mul_le_mul hfull hpow (by norm_num) (by positivity)
    linarith
  obtain ⟨k, rfl⟩ : ∃ k : Nat, e = -(k : Int) := ⟨(-e).toNat, by omega⟩
  have hunit : (2 ^ k : Nat) * (2 : ℚ) ^ (-(k : Int)) = 1 := by
    rw [zpow_neg, zpow_natCast]
    push_cast
    exact mul_inv_cancel₀ (by positivity)
  have hpow : (0 : ℚ) < 2 ^ (-(k : Int)) := by positivity
  have hle : 2 ^ k ≤ m := by
    rw [hvalue, ← hunit] at hone
    exact_mod_cast le_of_mul_le_mul_right hone hpow
  have hdiff : value x - 1 = (m - 2 ^ k : Nat) * 2 ^ (-(k : Int)) := by
    rw [hvalue, Nat.cast_sub hle, sub_mul, hunit]
  rw [abs_of_nonneg (by linarith), hdiff]
  exact representable_dyadic (Nat.lt_of_le_of_lt (Nat.sub_le m (2 ^ k)) hfits.short) (by omega)
    (by omega)

/-- Two singles from 1 on differ by a bit of the coarser one. -/
theorem unit_le_sub {x y : Float32} (hx : x.isFinite = true) (hy : y.isFinite = true)
    (hone : 1 ≤ value x) (hlt : value x < value y) :
    2 ^ (-23 : Int) ≤ value y - value x := by
  obtain ⟨m, e, -, hlow, hvalue⟩ := exists_mantissa hx hone
  obtain ⟨m', e', -, hlow', hvalue'⟩ := exists_mantissa hy (hone.trans hlt.le)
  obtain ⟨n, hn⟩ := exists_multiple m hlow
  obtain ⟨n', hn'⟩ := exists_multiple m' hlow'
  rw [hvalue, hvalue', hn, hn'] at hlt ⊢
  have hless : n < n' := by
    exact_mod_cast lt_of_mul_lt_mul_right hlt (by positivity)
  have hless : (n : ℚ) + 1 ≤ n' := by exact_mod_cast hless
  rw [← sub_mul]
  exact le_mul_of_one_le_left (by positivity) (by linarith)

/-- Rounding at most doubles. -/
theorem Rounds.le_two_mul {q : ℚ} {x : Float32} (h : Rounds q x) (hlow : 2 ^ (-149 : Int) ≤ q)
    (hhigh : q ≤ 2 ^ (104 : Int)) :
    value x ≤ 2 * q := by
  have hpos : 0 < q := lt_of_lt_of_le (by positivity) hlow
  have hup : q ≤ 2 ^ Int.clog 2 q := by exact_mod_cast Int.self_le_zpow_clog (by decide : 1 < 2) q
  have hdown : (2 : ℚ) ^ (Int.clog 2 q - 1) < q := by
    exact_mod_cast Int.zpow_pred_clog_lt_self (by decide : 1 < 2) hpos
  have hleast : -149 ≤ Int.clog 2 q :=
    (zpow_le_zpow_iff_right₀ (by norm_num : (1 : ℚ) < 2)).mp (hlow.trans hup)
  have hmost : Int.clog 2 q - 1 < 104 :=
    (zpow_lt_zpow_iff_right₀ (by norm_num : (1 : ℚ) < 2)).mp (lt_of_lt_of_le hdown hhigh)
  have hpower : Representable |(2 : ℚ) ^ Int.clog 2 q| := by
    rw [abs_of_pos (by positivity)]
    simpa using representable_dyadic (n := 1) (by decide) hleast (by omega)
  have htwice : (2 : ℚ) ^ Int.clog 2 q = 2 * 2 ^ (Int.clog 2 q - 1) := by
    rw [zpow_sub_one₀ (by norm_num)]
    ring
  calc value x ≤ 2 ^ Int.clog 2 q := h.above _ hpower hup
    _ = 2 * 2 ^ (Int.clog 2 q - 1) := htwice
    _ ≤ 2 * q := by linarith

/-- A positive number divided by anything that is not below a positive number. -/
theorem isFinite_div {x y low : Float32} (hx : x.isFinite = true) (hlow : low.isFinite = true)
    (hpos : 0 < value low) (hnonneg : 0 ≤ value x) (hbound : value x / value low ≤ greatest)
    (hle : low ≤ y) :
    (x / y).isFinite = true := by
  by_cases hy : y.isFinite = true
  · rw [le_iff hlow hy] at hle
    have hquotient : value x / value y ≤ value x / value low :=
      div_le_div_of_nonneg_left hnonneg hpos hle
    refine (rounds_div hx hy (by linarith) ?_).finite
    rw [abs_of_nonneg (div_nonneg hnonneg (by linarith))]
    exact hquotient.trans hbound
  · rw [le_def] at hle
    show (UnpackedFloat.unpack Format.binary32 (UnpackedFloat.pack Format.binary32
      (UnpackedFloat.div Format.binary32 x.toModel.unpack y.toModel.unpack))).isFinite = true
    change ¬ y.toModel.unpack.isFinite = true at hy
    change x.toModel.unpack.isFinite = true at hx
    change low.toModel.unpack.isFinite = true at hlow
    generalize x.toModel.unpack = a at hx ⊢
    generalize y.toModel.unpack = b at hy hle ⊢
    generalize low.toModel.unpack = c at hlow hle
    cases b with
    | zero s => exact absurd rfl hy
    | finite s m e h => exact absurd rfl hy
    | notANumber => cases c <;> cases hle
    | infinity s =>
      cases a with
      | infinity s => cases hx
      | notANumber => cases hx
      | zero s' =>
        simp only [UnpackedFloat.div]
        generalize s' / s = t
        cases t <;> rfl
      | finite s' m e h =>
        simp only [UnpackedFloat.div]
        generalize s' / s = t
        cases t <;> rfl

/-- Everything but NaN. -/
def IsNumber (x : Float32) : Prop := x.toModel.unpack ≠ .notANumber

theorem isNumber_of_isFinite {x : Float32} (hx : x.isFinite = true) : IsNumber x := by
  intro hnan
  change x.toModel.unpack.isFinite = true at hx
  rw [hnan] at hx
  cases hx

theorem unpack_neg {x : Float32} (hx : x.isFinite = true) :
    (-x).isFinite = true ∧ value (-x) = -value x := by
  have hcanonical := canonical_model x
  change x.toModel.unpack.isFinite = true at hx
  rw [value, value]
  show (UnpackedFloat.unpack Format.binary32 (UnpackedFloat.pack Format.binary32
      x.toModel.unpack.neg)).isFinite = true ∧
    unpackedValue (UnpackedFloat.unpack Format.binary32 (UnpackedFloat.pack Format.binary32
      x.toModel.unpack.neg)) = _
  generalize x.toModel.unpack = a at hx hcanonical ⊢
  cases a with
  | infinity s => cases hx
  | notANumber => cases hx
  | zero s => cases s <;> exact ⟨rfl, neg_zero.symm⟩
  | finite s m e h =>
    simp only [UnpackedFloat.neg]
    rw [unpack_pack hcanonical, value_finite, value_finite, signed_neg]
    exact ⟨rfl, rfl⟩

theorem unpack_abs {x : Float32} (hx : x.isFinite = true) :
    x.abs.isFinite = true ∧ value x.abs = |value x| := by
  have hcanonical := canonical_model x
  change x.toModel.unpack.isFinite = true at hx
  rw [value, value]
  show (UnpackedFloat.unpack Format.binary32 (UnpackedFloat.pack Format.binary32
      x.toModel.unpack.abs)).isFinite = true ∧
    unpackedValue (UnpackedFloat.unpack Format.binary32 (UnpackedFloat.pack Format.binary32
      x.toModel.unpack.abs)) = _
  generalize x.toModel.unpack = a at hx hcanonical ⊢
  cases a with
  | infinity s => cases hx
  | notANumber => cases hx
  | zero s => cases s <;> exact ⟨rfl, abs_zero.symm⟩
  | finite s m e h =>
    simp only [UnpackedFloat.abs]
    rw [unpack_pack hcanonical, abs_unpackedValue]
    exact ⟨rfl, rfl⟩

theorem value_ofInt {n : Int} (hsmall : n.natAbs < 2 ^ 23) :
    (Float32.ofInt n).isFinite = true ∧ value (Float32.ofInt n) = n := by
  cases n with
  | ofNat n => exact ⟨isFinite_ofNat hsmall, value_ofNat hsmall⟩
  | negSucc n =>
    have hsmall : n + 1 < 2 ^ 23 := hsmall
    obtain ⟨hfinite, hvalue⟩ := @unpack_neg (Float32.ofNat (n + 1)) (isFinite_ofNat hsmall)
    refine ⟨hfinite, hvalue.trans ?_⟩
    rw [value_ofNat hsmall]
    push_cast
    ring

/-- `std::clamp` -/
def clamp (v low high : Float32) : Float32 := if v < low then low else if high < v then high else v

/-- What is not NaN is clamped to a number between the limits, infinities included. -/
theorem clamp_bounds {v low high : Float32} (hv : IsNumber v) (hl : low.isFinite = true)
    (hh : high.isFinite = true) (hle : value low ≤ value high) :
    (clamp v low high).isFinite = true ∧ value low ≤ value (clamp v low high) ∧
      value (clamp v low high) ≤ value high := by
  unfold clamp
  split
  · exact ⟨hl, le_refl _, hle⟩
  · rename_i hlow
    split
    · exact ⟨hh, hle, le_refl _⟩
    · rename_i hhigh
      have hfinite : v.isFinite = true := by
        rw [lt_def] at hlow hhigh
        change low.toModel.unpack.isFinite = true at hl
        change high.toModel.unpack.isFinite = true at hh
        show v.toModel.unpack.isFinite = true
        rw [IsNumber] at hv
        generalize low.toModel.unpack = a at hl hlow
        generalize high.toModel.unpack = b at hh hhigh
        generalize v.toModel.unpack = u at hv hlow hhigh ⊢
        cases u with
        | notANumber => exact absurd rfl hv
        | zero s => rfl
        | finite s m e h => rfl
        | infinity s =>
          cases s with
          | positive =>
            cases b with
            | infinity s => cases hh
            | notANumber => cases hh
            | zero s => exact absurd rfl hhigh
            | finite s m e h => cases s <;> exact absurd rfl hhigh
          | negative =>
            cases a with
            | infinity s => cases hl
            | notANumber => cases hl
            | zero s => exact absurd rfl hlow
            | finite s m e h => cases s <;> exact absurd rfl hlow
      rw [lt_iff hfinite hl, not_lt] at hlow
      rw [lt_iff hh hfinite, not_lt] at hhigh
      exact ⟨hfinite, hlow, hhigh⟩

theorem value_zero : value (0 : Float32) = 0 := by
  exact_mod_cast value_ofNat (n := 0) (by decide)

theorem value_one : value (1 : Float32) = 1 := by
  exact_mod_cast value_ofNat (n := 1) (by decide)

theorem value_neg_one : value (-1 : Float32) = -1 := by
  rw [(@unpack_neg 1 rfl).2, value_one]

theorem clamp_unit {v : Float32} (hv : IsNumber v) :
    (clamp v (-1) 1).isFinite = true ∧ |value (clamp v (-1) 1)| ≤ 1 := by
  obtain ⟨hfinite, hlow, hhigh⟩ := @clamp_bounds v (-1) 1 hv rfl rfl
    (by rw [value_one, value_neg_one]; norm_num)
  rw [value_neg_one] at hlow
  rw [value_one] at hhigh
  exact ⟨hfinite, abs_le.mpr ⟨hlow, hhigh⟩⟩

/-- NaN passes every limit. -/
theorem clamp_of_nan {v : Float32} (hv : ¬ IsNumber v) (low high : Float32) :
    clamp v low high = v := by
  have hnan : v.toModel.unpack = .notANumber := not_not.mp hv
  unfold clamp
  rw [if_neg, if_neg]
  · rw [lt_def, hnan]
    cases high.toModel.unpack with
    | infinity s => exact fun h => by cases h
    | notANumber => exact fun h => by cases h
    | zero s => exact fun h => by cases h
    | finite s m e h => cases s <;> exact fun h => by cases h
  · rw [lt_def, hnan]
    exact fun h => by cases h

/-- The same number in another format, rounded. -/
def reformat (spec : Format) : UnpackedFloat → UnpackedFloat
  | .finite s m e _ => UnpackedFloat.round spec s m e
  | u => u

/-- `static_cast<double>` -/
def toDouble (x : Float32) : Float :=
  .ofModel (Float.Model.pack (reformat Format.binary64 x.toModel.unpack))

/-- `static_cast<float>` -/
def ofDouble (x : Float) : Float32 :=
  .ofModel (Float32.Model.pack (reformat Format.binary32 x.toModel.unpack))

/-- `static_cast<int16_t>`, for what fits. -/
def toInt16 (x : Float32) : Int16 := x.toModel.toInt16

/-- Towards zero. -/
def truncate (q : ℚ) : Int := if 0 ≤ q then ⌊q⌋ else ⌈q⌉

end TaskForceRadio.Single
