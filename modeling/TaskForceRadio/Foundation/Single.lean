import Mathlib

/-!
# The exact values of the IEEE single format

A finite single is a signed integer times a power of two. Its comparisons are those of the
values, its conversion to an unsigned integer truncates the value, and small natural numbers are
singles exactly.
-/

set_option autoImplicit false

namespace TaskForceRadio.Single

open Float.Model Float.Model.UnpackedFloat

/-- Infinities and NaN count as 0. -/
def unpackedValue : UnpackedFloat → ℚ
  | .finite .positive m e _ => m * (2 : ℚ) ^ e
  | .finite .negative m e _ => -(m * (2 : ℚ) ^ e)
  | _ => 0

def value (x : Float32) : ℚ := unpackedValue x.toModel.unpack

/-- A mantissa of 24 bits without leading zeros, or the lowest exponent. -/
structure Fits (m : Nat) (e : Int) : Prop where
  pos : 0 < m
  short : m < 2 ^ 24
  low : -149 ≤ e
  high : e ≤ 104
  normal : 2 ^ 23 ≤ m ∨ e = -149

def Canonical : UnpackedFloat → Prop
  | .finite _ m e _ => Fits m e
  | _ => True

theorem implicit_append (m : BitVec 23) : (1#1 ++ m).toNat = 2 ^ 23 + m.toNat := by
  rw [BitVec.toNat_append, ← Nat.shiftLeft_add_eq_or_of_lt m.isLt]
  simp [Nat.shiftLeft_eq]

theorem canonical_unpack (b : BitVec 32) :
    Canonical (UnpackedFloat.unpack Format.binary32 b) := by
  have hexponent : (@unpackExponent Format.binary32 b).toNat < 2 ^ 8 :=
    (@unpackExponent Format.binary32 b).isLt
  have hmantissa : (@unpackMantissa Format.binary32 b).toNat < 2 ^ 23 :=
    (@unpackMantissa Format.binary32 b).isLt
  have hbias : Format.binary32.exponentBias = 127 := rfl
  simp only [UnpackedFloat.unpack]
  split
  · split <;> trivial
  · rename_i hspecial
    have htop : (@unpackExponent Format.binary32 b).toNat ≠ 2 ^ 8 - 1 :=
      fun h => hspecial (BitVec.eq_of_toNat_eq h)
    split
    · rename_i hzero
      have hlowest : (@unpackExponent Format.binary32 b).toNat = 0 :=
        congrArg BitVec.toNat hzero
      split
      · trivial
      · rename_i hsome
        have hpos : (@unpackMantissa Format.binary32 b).toNat ≠ 0 :=
          fun h => hsome (BitVec.eq_of_toNat_eq h)
        refine ⟨by omega, by omega, ?_, ?_, Or.inr ?_⟩ <;>
          rw [hbias, hlowest] <;> decide
    · rename_i hnormal
      have hleast : (@unpackExponent Format.binary32 b).toNat ≠ 0 :=
        fun h => hnormal (BitVec.eq_of_toNat_eq h)
      have hvalue := implicit_append (@unpackMantissa Format.binary32 b)
      refine ⟨by omega, by omega, ?_, ?_, Or.inl (by omega)⟩ <;>
        rw [hbias] <;> push_cast <;> omega

theorem canonical_model (x : Float32) : Canonical x.toModel.unpack :=
  canonical_unpack x.toModel.toBits.toBitVec

theorem unpack_components (s : Sign) (e : BitVec 8) (m : BitVec 23) :
    UnpackedFloat.unpack Format.binary32 (packComponents Format.binary32 s e m) =
      if e = -1#8 then if m = 0#23 then .infinity s else .notANumber
      else if e = 0#8 then
        if h : m = 0#23 then .zero s
        else .finite s m.toNat (e.toNat - 150 + 1) (by
          rw [Nat.pos_iff_ne_zero]
          exact fun hzero => h (BitVec.eq_of_toNat_eq hzero))
      else .finite s (1#1 ++ m).toNat (e.toNat - 150) (by
        rw [implicit_append]
        exact Nat.add_pos_left (by decide) _) := by
  simp only [UnpackedFloat.unpack]
  simp only [unpackMantissa_packComponents, unpackExponent_packComponents,
    unpackSign_packComponents, Sign.ofBitVec_toBitVec]
  rfl

theorem ofNat_ne_ofNat {w n k : Nat} (hn : n < 2 ^ w) (hk : k < 2 ^ w) (hne : n ≠ k) :
    BitVec.ofNat w n ≠ BitVec.ofNat w k := by
  intro heq
  have hvalue := congrArg BitVec.toNat heq
  rw [BitVec.toNat_ofNat, BitVec.toNat_ofNat, Nat.mod_eq_of_lt hn, Nat.mod_eq_of_lt hk] at hvalue
  exact hne hvalue

/-- A canonical number is packed without loss. -/
theorem unpack_pack {m : Nat} {e : Int} (h : Fits m e) (s : Sign) :
    UnpackedFloat.unpack Format.binary32
        (UnpackedFloat.pack Format.binary32 (.finite s m e h.pos)) =
      .finite s m e h.pos := by
  obtain ⟨hpos, hshort, hlow, hhigh, hnormal⟩ := h
  have hbiased : (e + Format.binary32.exponentBias + Format.binary32.mantissaBitsWithoutImplicit)
      = e + 150 := by
    show e + 127 + 23 = e + 150
    ring
  have hexponent : (BitVec.ofNat 8 (e + 150).toNat).toNat = (e + 150).toNat := by
    rw [BitVec.toNat_ofNat, Nat.mod_eq_of_lt]
    omega
  simp only [UnpackedFloat.pack]
  rw [hbiased, if_neg (by omega)]
  by_cases hfull : 2 ^ 23 ≤ m
  · have hlog : m.log2 = 23 :=
      (Nat.log2_eq_iff hpos.ne').mpr ⟨hfull, hshort⟩
    have hmantissa : (1#1 ++ BitVec.ofNat 23 m).toNat = m := by
      rw [implicit_append, BitVec.toNat_ofNat]
      omega
    have hsubnormal : BitVec.ofNat 8 (e + 150).toNat ≠ 0#8 :=
      ofNat_ne_ofNat (by omega) (by decide) (by omega)
    have hspecial : BitVec.ofNat 8 (e + 150).toNat ≠ -1#8 :=
      @ofNat_ne_ofNat 8 _ 255 (by omega) (by decide) (by omega)
    rw [if_pos (by rw [hlog]; rfl), unpack_components, if_neg hspecial, if_neg hsubnormal]
    congr 1
    omega
  · have hlog : m.log2 < 23 := (Nat.log2_lt hpos.ne').mpr (by omega)
    have hmantissa : (BitVec.ofNat 23 m).toNat = m := by
      rw [BitVec.toNat_ofNat, Nat.mod_eq_of_lt (by omega)]
    have hsome : BitVec.ofNat 23 m ≠ 0#23 :=
      ofNat_ne_ofNat (by omega) (by decide) hpos.ne'
    rw [if_neg (by show m.log2 + 1 ≠ 24; omega), unpack_components, if_neg (by decide),
      if_pos rfl, dif_neg hsome]
    congr 1
    rw [hnormal.resolve_left hfull]
    rfl

theorem shiftRight_scaled (m k : Nat) :
    (⟨m * 2 ^ k, false, false⟩ : ExtendedMantissa) >>> k = ⟨m, false, false⟩ := by
  show Nat.repeat ExtendedMantissa.shiftRightOne k ⟨m * 2 ^ k, false, false⟩ = _
  induction k generalizing m with
  | zero => simp [Nat.repeat]
  | succ k ih =>
    have hstep := ih (2 * m)
    have hpow : m * 2 ^ (k + 1) = 2 * m * 2 ^ k := by ring
    simp only [Nat.repeat]
    rw [hpow, hstep]
    simp [ExtendedMantissa.shiftRightOne]

theorem log2_scaled {m : Nat} (hpos : 0 < m) (k : Nat) : (m * 2 ^ k).log2 = m.log2 + k := by
  rw [Nat.log2_eq_iff (by positivity)]
  have hlog := (Nat.log2_eq_iff (k := m.log2) hpos.ne').mp rfl
  constructor
  · rw [pow_add]
    exact Nat.mul_le_mul_right _ hlog.1
  · rw [show m.log2 + k + 1 = (m.log2 + 1) + k by ring, pow_add]
    exact Nat.mul_lt_mul_of_pos_right hlog.2 (by positivity)

section Rounding
variable {m : Nat} {e : Int}

theorem targetExponent_scaled (h : Fits m e) (k : Nat) :
    Format.binary32.targetExponent (totalExponent (m * 2 ^ k) (e - k)) = e := by
  have htop : m.log2 < 24 := (Nat.log2_lt h.pos.ne').mpr h.short
  have hleast : Format.binary32.minExponent = -149 := rfl
  have hbits : Format.binary32.mantissaBits = 24 := rfl
  simp only [Format.targetExponent, totalExponent]
  rw [log2_scaled h.pos, hleast, hbits]
  rcases h.normal with hfull | hlowest
  · have hfull := (Nat.le_log2 h.pos.ne').mpr hfull
    have hlow := h.low
    push_cast
    omega
  · push_cast
    omega

theorem shiftToTargetExponent_scaled (h : Fits m e) (k : Nat) :
    shiftToTargetExponent Format.binary32 (m * 2 ^ k) (e - k) .exact =
      (⟨m, false, false⟩, e) := by
  have hshift : (e - (e - k)).toNat = k := by omega
  simp only [shiftToTargetExponent, shiftToExponent]
  rw [targetExponent_scaled h k, hshift]
  apply Prod.ext
  · exact shiftRight_scaled m k
  · show e - k + k = e
    ring

theorem roundWithAccuracy_scaled (h : Fits m e) (s : Sign) (k : Nat) :
    roundWithAccuracy Format.binary32 s (m * 2 ^ k) (e - k) .exact = .finite s m e h.pos := by
  have hagain := shiftToTargetExponent_scaled h 0
  simp only [pow_zero, mul_one, Nat.cast_zero, sub_zero] at hagain
  have hrounded : (⟨m, false, false⟩ : ExtendedMantissa).roundedMantissa = m := rfl
  simp only [roundWithAccuracy, shiftToTargetExponent_scaled h k, hrounded, hagain]
  exact dif_neg h.pos.ne'

end Rounding

theorem fits_nat {n : Nat} (hpos : 0 < n) (hsmall : n < 2 ^ 23) :
    Fits (n * 2 ^ (23 - n.log2)) ((n.log2 : Int) - 23) := by
  have hlog := (Nat.log2_eq_iff (k := n.log2) hpos.ne').mp rfl
  have htop : n.log2 < 23 := (Nat.log2_lt hpos.ne').mpr hsmall
  have hfull : 2 ^ n.log2 * 2 ^ (23 - n.log2) = 2 ^ 23 := by
    rw [← pow_add]
    congr 1
    omega
  have hpow : 0 < 2 ^ (23 - n.log2) := by positivity
  refine ⟨by positivity, ?_, by omega, by omega, Or.inl ?_⟩
  · calc n * 2 ^ (23 - n.log2) < 2 ^ (n.log2 + 1) * 2 ^ (23 - n.log2) :=
          Nat.mul_lt_mul_of_pos_right hlog.2 hpow
      _ = 2 * (2 ^ n.log2 * 2 ^ (23 - n.log2)) := by ring
      _ = 2 ^ 24 := by rw [hfull]; norm_num
  · rw [← hfull]
    exact Nat.mul_le_mul_right _ hlog.1

theorem ofNat_eq {n : Nat} (hpos : 0 < n) (hsmall : n < 2 ^ 23) :
    UnpackedFloat.ofNat Format.binary32 n =
      .finite .positive (n * 2 ^ (23 - n.log2)) ((n.log2 : Int) - 23)
        (fits_nat hpos hsmall).pos := by
  have hfits := fits_nat hpos hsmall
  have htop : n.log2 < 23 := (Nat.log2_lt hpos.ne').mpr hsmall
  have htarget : Format.binary32.targetExponent (totalExponent n 0) = (n.log2 : Int) - 23 := by
    have hleast : Format.binary32.minExponent = -149 := rfl
    have hbits : Format.binary32.mantissaBits = 24 := rfl
    simp only [Format.targetExponent, totalExponent]
    rw [hleast, hbits]
    omega
  have hcompare : compare (n : Int) 0 = .gt := by
    rw [compare_gt_iff_gt]
    omega
  simp only [UnpackedFloat.ofNat, UnpackedFloat.ofInt, UnpackedFloat.normalize]
  rw [hcompare]
  simp only [UnpackedFloat.round, decreaseExponent]
  rw [Int.toNat_natCast, htarget]
  have hshift : (0 - ((n.log2 : Int) - 23)).toNat = 23 - n.log2 := by omega
  have hback : (0 : Int) - ((23 - n.log2 : Nat) : Int) = (n.log2 : Int) - 23 := by omega
  rw [hshift, hback, Nat.shiftLeft_eq]
  have hround := roundWithAccuracy_scaled hfits .positive 0
  simp only [pow_zero, mul_one, Nat.cast_zero, sub_zero] at hround
  exact hround

theorem unpack_one :
    (Float32.ofBits 0x3F800000).toModel.unpack =
      .finite .positive (2 ^ 23) (-23) (by decide) := by
  rfl

theorem unpack_ofNat {n : Nat} (hpos : 0 < n) (hsmall : n < 2 ^ 23) :
    (Float32.ofNat n).toModel.unpack =
      .finite .positive (n * 2 ^ (23 - n.log2)) ((n.log2 : Int) - 23)
        (fits_nat hpos hsmall).pos := by
  have hfits := fits_nat hpos hsmall
  have hword : (n.toUInt64).toNat = n :=
    (UInt64.toNat_ofNat).trans (Nat.mod_eq_of_lt (by omega))
  have hleft : (n.toUInt64.toFloat32).toModel.unpack =
      .finite .positive (n * 2 ^ (23 - n.log2)) ((n.log2 : Int) - 23) hfits.pos := by
    show UnpackedFloat.unpack Format.binary32 (UnpackedFloat.pack Format.binary32
      (UnpackedFloat.ofNat Format.binary32 (n.toUInt64).toNat)) = _
    rw [hword, ofNat_eq hpos hsmall]
    exact unpack_pack hfits .positive
  have hproduct : Float32.ofNat n = n.toUInt64.toFloat32 * Float32.ofBits 0x3F800000 := by
    show Float32.ofScientific n false 0 = _
    unfold Float32.ofScientific
    rw [dif_pos ⟨hsmall, by decide⟩]
    rfl
  rw [hproduct]
  show UnpackedFloat.unpack Format.binary32 (UnpackedFloat.pack Format.binary32
    (UnpackedFloat.mul Format.binary32 (n.toUInt64.toFloat32).toModel.unpack
      (Float32.ofBits 0x3F800000).toModel.unpack)) = _
  rw [hleft, unpack_one]
  have hround := roundWithAccuracy_scaled hfits .positive 23
  simp only [UnpackedFloat.mul]
  show UnpackedFloat.unpack Format.binary32 (UnpackedFloat.pack Format.binary32
    (roundWithAccuracy Format.binary32 .positive (n * 2 ^ (23 - n.log2) * 2 ^ 23)
      ((n.log2 : Int) - 23 - (23 : Nat)) .exact)) = _
  rw [hround]
  exact unpack_pack hfits .positive

/-- Natural numbers below `2 ^ 23` are singles. -/
theorem value_ofNat {n : Nat} (hsmall : n < 2 ^ 23) : value (Float32.ofNat n) = n := by
  rcases Nat.eq_zero_or_pos n with rfl | hpos
  · rfl
  · have htop : n.log2 < 23 := (Nat.log2_lt hpos.ne').mpr hsmall
    simp only [value]
    rw [unpack_ofNat hpos hsmall]
    simp only [unpackedValue]
    have hexponent : ((n.log2 : Int) - 23) = -((23 - n.log2 : Nat) : Int) := by omega
    rw [hexponent, zpow_neg, zpow_natCast]
    push_cast
    have hpow : (2 : ℚ) ^ (23 - n.log2) ≠ 0 := by positivity
    field_simp

theorem isFinite_ofNat {n : Nat} (hsmall : n < 2 ^ 23) : (Float32.ofNat n).isFinite = true := by
  rcases Nat.eq_zero_or_pos n with rfl | hpos
  · rfl
  · show (Float32.ofNat n).toModel.unpack.isFinite = true
    rw [unpack_ofNat hpos hsmall]
    rfl

section Comparisons
variable {m₁ m₂ : Nat} {e₁ e₂ : Int}

theorem magnitude_lt (h₁ : Fits m₁ e₁) (h₂ : Fits m₂ e₂) (hlt : e₁ < e₂) :
    (m₁ : ℚ) * 2 ^ e₁ < m₂ * 2 ^ e₂ := by
  have hfull : 2 ^ 23 ≤ m₂ := by
    rcases h₂.normal with hfull | hlowest
    · exact hfull
    · have := h₁.low
      omega
  have hstep : (2 : ℚ) ^ (e₁ + 1) ≤ 2 ^ e₂ := zpow_le_zpow_right₀ (by norm_num) hlt
  have hshort : (m₁ : ℚ) < 2 ^ 24 := by exact_mod_cast h₁.short
  have hfull : (2 : ℚ) ^ 23 ≤ m₂ := by exact_mod_cast hfull
  have hpow : (0 : ℚ) < 2 ^ e₁ := by positivity
  calc (m₁ : ℚ) * 2 ^ e₁ < 2 ^ 24 * 2 ^ e₁ := mul_lt_mul_of_pos_right hshort hpow
    _ = 2 ^ 23 * 2 ^ (e₁ + 1) := by
        rw [zpow_add_one₀ (by norm_num)]
        ring
    _ ≤ m₂ * 2 ^ e₂ := mul_le_mul hfull hstep (by positivity) (by positivity)

theorem compare_magnitude (h₁ : Fits m₁ e₁) (h₂ : Fits m₂ e₂) :
    (compare e₁ e₂).then (compare m₁ m₂) = compare ((m₁ : ℚ) * 2 ^ e₁) (m₂ * 2 ^ e₂) := by
  rcases lt_trichotomy e₁ e₂ with hlt | heq | hgt
  · rw [compare_lt_iff_lt.mpr hlt, compare_lt_iff_lt.mpr (magnitude_lt h₁ h₂ hlt)]
    rfl
  · subst heq
    have hpow : (0 : ℚ) < 2 ^ e₁ := by positivity
    rw [compare_eq_iff_eq.mpr rfl]
    rcases lt_trichotomy m₁ m₂ with hlt | heq | hgt
    · have hcast : (m₁ : ℚ) < m₂ := by exact_mod_cast hlt
      rw [compare_lt_iff_lt.mpr hlt, compare_lt_iff_lt.mpr (mul_lt_mul_of_pos_right hcast hpow)]
      rfl
    · subst heq
      rw [compare_eq_iff_eq.mpr rfl, compare_eq_iff_eq.mpr rfl]
      rfl
    · have hcast : (m₂ : ℚ) < m₁ := by exact_mod_cast hgt
      rw [compare_gt_iff_gt.mpr hgt, compare_gt_iff_gt.mpr (mul_lt_mul_of_pos_right hcast hpow)]
      rfl
  · rw [compare_gt_iff_gt.mpr hgt, compare_gt_iff_gt.mpr (magnitude_lt h₂ h₁ hgt)]
    rfl

theorem swap_compare_neg (p q : ℚ) : (compare p q).swap = compare (-p) (-q) := by
  rcases lt_trichotomy p q with hlt | heq | hgt
  · rw [compare_lt_iff_lt.mpr hlt, compare_gt_iff_gt.mpr (neg_lt_neg hlt)]
    rfl
  · rw [compare_eq_iff_eq.mpr heq, compare_eq_iff_eq.mpr (congrArg Neg.neg heq)]
    rfl
  · rw [compare_gt_iff_gt.mpr hgt, compare_lt_iff_lt.mpr (neg_lt_neg hgt)]
    rfl

theorem magnitude_pos (h : Fits m₁ e₁) : (0 : ℚ) < m₁ * 2 ^ e₁ := by
  have hpos : (0 : ℚ) < m₁ := by exact_mod_cast h.pos
  positivity

end Comparisons

theorem compare_unpacked {a b : UnpackedFloat} (ha : Canonical a) (hb : Canonical b)
    (hafinite : a.isFinite = true) (hbfinite : b.isFinite = true) :
    a.compare b = some (compare (unpackedValue a) (unpackedValue b)) := by
  cases a with
  | infinity s => cases hafinite
  | notANumber => cases hafinite
  | zero s =>
    cases b with
    | infinity s => cases hbfinite
    | notANumber => cases hbfinite
    | zero s' =>
      simp only [UnpackedFloat.compare, unpackedValue]
      rw [compare_eq_iff_eq.mpr rfl]
    | finite s' m e hm =>
      have hpos := magnitude_pos hb
      cases s' with
      | negative =>
        simp only [UnpackedFloat.compare, unpackedValue]
        rw [compare_gt_iff_gt.mpr (by linarith)]
      | positive =>
        simp only [UnpackedFloat.compare, unpackedValue]
        rw [compare_lt_iff_lt.mpr hpos]
  | finite s m e hm =>
    have hpos := magnitude_pos ha
    cases b with
    | infinity s => cases hbfinite
    | notANumber => cases hbfinite
    | zero s' =>
      cases s with
      | negative =>
        simp only [UnpackedFloat.compare, unpackedValue]
        rw [compare_lt_iff_lt.mpr (by linarith)]
      | positive =>
        simp only [UnpackedFloat.compare, unpackedValue]
        rw [compare_gt_iff_gt.mpr hpos]
    | finite s' m' e' hm' =>
      have hpos' := magnitude_pos hb
      cases s with
      | negative =>
        cases s' with
        | negative =>
          simp only [UnpackedFloat.compare, unpackedValue]
          rw [compare_magnitude ha hb, swap_compare_neg]
        | positive =>
          simp only [UnpackedFloat.compare, unpackedValue]
          rw [compare_lt_iff_lt.mpr (by linarith)]
      | positive =>
        cases s' with
        | negative =>
          simp only [UnpackedFloat.compare, unpackedValue]
          rw [compare_gt_iff_gt.mpr (by linarith)]
        | positive =>
          simp only [UnpackedFloat.compare, unpackedValue]
          rw [compare_magnitude ha hb]

theorem lt_def (x y : Float32) :
    x < y ↔ x.toModel.unpack.compare y.toModel.unpack = some .lt := by
  show decide (x.toModel < y.toModel) = true ↔ _
  rw [decide_eq_true_iff]
  show (x.toModel.unpack.compare y.toModel.unpack == some .lt) = true ↔ _
  exact beq_iff_eq

theorem le_def (x y : Float32) :
    x ≤ y ↔ (x.toModel.unpack.compare y.toModel.unpack).any Ordering.isLE = true := by
  show decide (x.toModel ≤ y.toModel) = true ↔ _
  rw [decide_eq_true_iff]
  rfl

section Ordered
variable {x y : Float32} (hx : x.isFinite = true) (hy : y.isFinite = true)
include hx hy

theorem compare_value : x.toModel.unpack.compare y.toModel.unpack =
    some (compare (value x) (value y)) :=
  compare_unpacked (canonical_model x) (canonical_model y) hx hy

theorem lt_iff : x < y ↔ value x < value y := by
  rw [lt_def, compare_value hx hy, ← compare_lt_iff_lt]
  exact Option.some_inj

theorem le_iff : x ≤ y ↔ value x ≤ value y := by
  rw [le_def, compare_value hx hy, ← compare_le_iff_le]
  exact Ordering.ne_gt_iff_isLE.symm

end Ordered

theorem le_of_lt {x y : Float32} (h : x < y) : x ≤ y := by
  rw [lt_def] at h
  rw [le_def, h]
  rfl

/-- What is above a number is above every smaller number. -/
theorem lt_of_value_le {x y z : Float32} (hx : x.isFinite = true) (hy : y.isFinite = true)
    (hle : value x ≤ value y) (h : y < z) :
    x < z := by
  by_cases hz : z.isFinite = true
  · rw [lt_iff hy hz] at h
    rw [lt_iff hx hz]
    exact lt_of_le_of_lt hle h
  · rw [lt_def] at h ⊢
    change ¬ z.toModel.unpack.isFinite = true at hz
    change x.toModel.unpack.isFinite = true at hx
    change y.toModel.unpack.isFinite = true at hy
    generalize x.toModel.unpack = a at hx ⊢
    generalize y.toModel.unpack = b at hy h
    generalize z.toModel.unpack = c at hz h ⊢
    cases c with
    | zero s => exact absurd rfl hz
    | finite s m e hm => exact absurd rfl hz
    | notANumber => cases b <;> cases h
    | infinity s =>
      cases s with
      | negative =>
        cases b with
        | infinity s => cases hy
        | notANumber => cases hy
        | zero s => cases h
        | finite s m e hm => cases s <;> cases h
      | positive => cases a <;> first | rfl | cases hx

/-- Only numbers and infinity are not below 0. -/
theorem isFinite_of_between {x y : Float32} (hlow : (0 : Float32) ≤ x) (hhigh : ¬ y < x)
    (hy : y.isFinite = true) :
    x.isFinite = true := by
  rw [le_def] at hlow
  rw [lt_def] at hhigh
  change y.toModel.unpack.isFinite = true at hy
  show x.toModel.unpack.isFinite = true
  have hzero : (0 : Float32).toModel.unpack = .zero .positive := rfl
  rw [hzero] at hlow
  generalize x.toModel.unpack = a at hlow hhigh ⊢
  generalize y.toModel.unpack = b at hy hhigh
  cases a with
  | infinity s =>
    cases s with
    | negative => cases hlow
    | positive =>
      cases b with
      | infinity s => cases hy
      | notANumber => cases hy
      | zero s => exact absurd rfl hhigh
      | finite s m e hm => cases s <;> exact absurd rfl hhigh
  | notANumber => cases hlow
  | zero s => rfl
  | finite s m e hm => rfl

theorem shiftRight_mantissa (em : ExtendedMantissa) (k : Nat) :
    (em >>> k).mantissa = em.mantissa / 2 ^ k := by
  show (Nat.repeat ExtendedMantissa.shiftRightOne k em).mantissa = _
  induction k with
  | zero => simp [Nat.repeat]
  | succ k ih =>
    simp only [Nat.repeat, ExtendedMantissa.shiftRightOne]
    rw [ih, Nat.div_div_eq_div_mul, pow_succ]

theorem roundToInt_positive (m : Nat) (e : Int) :
    (roundToInt .positive m e).toNat = ⌊(m : ℚ) * 2 ^ e⌋₊ := by
  simp only [roundToInt, decreaseExponent, shiftToExponent, Sign.apply]
  rw [shiftRight_mantissa, Int.toNat_natCast, sub_zero, Nat.shiftLeft_eq]
  show m * 2 ^ e.toNat / 2 ^ (0 - (e - e.toNat)).toNat = _
  rcases Int.le_total 0 e with hnonneg | hneg
  · obtain ⟨k, rfl⟩ := Int.eq_ofNat_of_zero_le hnonneg
    have hinteger : (m : ℚ) * 2 ^ (k : Int) = ((m * 2 ^ k : Nat) : ℚ) := by
      push_cast
      rw [zpow_natCast]
    rw [hinteger, Nat.floor_natCast]
    simp
  · obtain ⟨k, hk⟩ := Int.eq_ofNat_of_zero_le (Int.neg_nonneg.mpr hneg)
    have he : e = -(k : Int) := by omega
    subst he
    have hquotient : (m : ℚ) * 2 ^ (-(k : Int)) = (m : ℚ) / ((2 ^ k : Nat) : ℚ) := by
      rw [zpow_neg, zpow_natCast]
      push_cast
      rw [div_eq_mul_inv]
    rw [hquotient, Nat.floor_div_eq_div]
    have hleft : (-(k : Int)).toNat = 0 := by omega
    have hright : (0 - (-(k : Int) - (0 : Nat))).toNat = k := by omega
    rw [hleft, hright, pow_zero, mul_one]

/-- The conversion to 16 bits drops the fraction. -/
theorem toUInt16_toNat {x : Float32} (hfinite : x.isFinite = true) (hlow : 0 ≤ value x)
    (hhigh : value x < 65536) :
    x.toUInt16.toNat = ⌊value x⌋₊ := by
  have hcanonical := canonical_model x
  change x.toModel.unpack.isFinite = true at hfinite
  simp only [value] at hlow hhigh ⊢
  show (x.toModel.unpack.toUInt16).toNat = _
  generalize x.toModel.unpack = a at hfinite hlow hhigh hcanonical ⊢
  cases a with
  | infinity s => cases hfinite
  | notANumber => cases hfinite
  | zero s => rfl
  | finite s m e hm =>
    cases s with
    | negative =>
      have hpos := magnitude_pos hcanonical
      simp only [unpackedValue] at hlow
      linarith
    | positive =>
      simp only [UnpackedFloat.toUInt16, UnpackedFloat.toInt, unpackedValue] at hhigh ⊢
      rw [roundToInt_positive]
      have hfit : ⌊(m : ℚ) * 2 ^ e⌋₊ < 65536 := by
        rw [Nat.floor_lt (by positivity)]
        exact_mod_cast hhigh
      generalize ⌊(m : ℚ) * 2 ^ e⌋₊ = n at hfit
      show (UInt16.ofNatClamp n).toNat = n
      unfold UInt16.ofNatClamp
      rw [dif_pos hfit]
      rfl

end TaskForceRadio.Single
