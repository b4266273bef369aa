import Mathlib.MeasureTheory.Measure.Hausdorff
import Mathlib.Analysis.Normed.Lp.MeasurableSpace
import TaskForceRadio.Extension.Arithmetic

/-!
# The distance under water

`distanceUnderwater` looks for the point where the way of a diver's transmission meets the
surface. In exact arithmetic its result is the length of the submerged part of the way.
-/

set_option autoImplicit false

namespace TaskForceRadio.Extension

open MeasureTheory

namespace Point

section Operations
variable {K : Type} [OfNat K 0] [OfNat K 1] [Neg K] [Add K] [Sub K] [Mul K] [Div K] [LT K]
variable [DecidableLT K] [BEq K] [SquareRoot K]

def distanceUnderwater (a b : Point K) : K :=
  if a.z > 0 ∧ b.z > 0 then 0
  else if a.z < 0 ∧ b.z < 0 then a.distanceTo b
  else
    let lower := if a.z < b.z then a else b
    let upper := if a.z > b.z then a else b
    let diff := upper.sub lower
    if diff.z == 0 || lower.z == 0 then 0
    else
      let divisor := diff.z / (lower.z * -1)
      if divisor == 0 then 0
      else
        let toWater : Point K := ⟨diff.x / divisor, diff.y / divisor, diff.z / divisor⟩
        let waterLineIntersect := lower.add toWater
        if a.z < 0 then a.distanceTo waterLineIntersect else b.distanceTo waterLineIntersect

/-- A division with a nonzero divisor. -/
def divide (x y : K) : Option K := if y == 0 then none else some (x / y)

/-- `distanceUnderwater`, given up at a division by zero. -/
def distanceUnderwaterChecked (a b : Point K) : Option K :=
  if a.z > 0 ∧ b.z > 0 then some 0
  else if a.z < 0 ∧ b.z < 0 then some (a.distanceTo b)
  else
    let lower := if a.z < b.z then a else b
    let upper := if a.z > b.z then a else b
    let diff := upper.sub lower
    if diff.z == 0 || lower.z == 0 then some 0
    else do
      let divisor ← divide diff.z (lower.z * -1)
      if divisor == 0 then some 0
      else
        let x ← divide diff.x divisor
        let y ← divide diff.y divisor
        let z ← divide diff.z divisor
        let waterLineIntersect := lower.add ⟨x, y, z⟩
        some
          (if a.z < 0 then a.distanceTo waterLineIntersect else b.distanceTo waterLineIntersect)

/-- The error of a diver's radio before it is limited. -/
def ddError (minDistance maxDistance wavesLevel txRange uwDist normalDist : K) : K :=
  let underwaterRange := minDistance + (maxDistance - minDistance) * (1 - wavesLevel)
  let range := if txRange > 1 then txRange else 1
  (uwDist * (range / (if underwaterRange > 0 then underwaterRange else 1)) +
    (normalDist - uwDist)) / range

/-- `ddError`, given up at a division by zero. -/
def ddErrorChecked (minDistance maxDistance wavesLevel txRange uwDist normalDist : K) :
    Option K := do
  let underwaterRange := minDistance + (maxDistance - minDistance) * (1 - wavesLevel)
  let range := if txRange > 1 then txRange else 1
  let factor ← divide range (if underwaterRange > 0 then underwaterRange else 1)
  divide (uwDist * factor + (normalDist - uwDist)) range

end Operations

private theorem ofVec3_ite (c : Prop) [Decidable c] (v w : Vec3) :
    (if c then ofVec3 v else ofVec3 w) = ofVec3 (if c then v else w) := by
  split <;> rfl

private theorem distanceUnderwater_ofVec3 (a b : Vec3) :
    (ofVec3 a).distanceUnderwater (ofVec3 b) = Extension.distanceUnderwater a b := by
  simp only [distanceUnderwater]
  rw [ofVec3_ite, ofVec3_ite]
  rfl

/-- Over singles this is what `ddError` limits. -/
theorem ddError_ofVec3 (s : State) (r : State.Reception) (reach : State.TxReach) (tx : RemoteTx) :
    s.ddError r reach tx =
      (let error := ddError kDdMinDistance kDdMaxDistance s.wavesLevel tx.range
        ((ofVec3 r.myPos).distanceUnderwater (ofVec3 r.hisPos))
        ((ofVec3 r.myPos).distanceTo (ofVec3 r.hisPos))
      clampf (if error < reach.loss then error else reach.loss) 0 1) := by
  rw [distanceUnderwater_ofVec3, distanceTo_ofVec3]
  rfl

section Signs
variable {a b : Point ℝ}

private theorem distanceUnderwater_above (ha : 0 ≤ a.z) (hb : 0 ≤ b.z) :
    a.distanceUnderwaterChecked b = some 0 ∧ a.distanceUnderwater b = 0 := by
  simp only [distanceUnderwaterChecked, distanceUnderwater]
  by_cases hboth : a.z > 0 ∧ b.z > 0
  · rw [if_pos hboth, if_pos hboth]
    exact ⟨rfl, rfl⟩
  · have hnot : ¬ (a.z < 0 ∧ b.z < 0) := fun h => absurd h.1 (not_lt.mpr ha)
    -- one of the two is on the surface, and it is the lower one
    have hlower : (if a.z < b.z then a else b).z = 0 := by
      rw [not_and, not_lt] at hboth
      split
      · rename_i hlt
        by_contra hne
        exact absurd (hboth (lt_of_le_of_ne ha (Ne.symm hne))) (by linarith)
      · rename_i hge
        by_contra hne
        have hb' := lt_of_le_of_ne hb (Ne.symm hne)
        exact absurd (hboth (by linarith)) (by linarith)
    have hdegenerate : (((if a.z > b.z then a else b).sub (if a.z < b.z then a else b)).z == 0 ||
        (if a.z < b.z then a else b).z == 0) = true := by
      rw [Bool.or_eq_true, beq_iff_eq, beq_iff_eq]
      exact Or.inr hlower
    rw [if_neg hboth, if_neg hboth, if_neg hnot, if_neg hnot, if_pos hdegenerate,
      if_pos hdegenerate]
    exact ⟨rfl, rfl⟩

private theorem distanceUnderwater_below (ha : a.z < 0) (hb : b.z < 0) :
    a.distanceUnderwaterChecked b = some (a.distanceTo b) ∧
      a.distanceUnderwater b = a.distanceTo b := by
  have hnot : ¬ (a.z > 0 ∧ b.z > 0) := fun h => absurd h.1 (not_lt.mpr ha.le)
  simp only [distanceUnderwaterChecked, distanceUnderwater]
  rw [if_neg hnot, if_neg hnot, if_pos ⟨ha, hb⟩, if_pos ⟨ha, hb⟩]
  exact ⟨rfl, rfl⟩

/-- The part of the way from `a` at which it meets the surface. -/
noncomputable def waterline (a b : Point ℝ) : ℝ := -a.z / (b.z - a.z)

private theorem distanceTo_add (a : Point ℝ) {x y z divisor : ℝ} (hpos : 0 < divisor) :
    a.distanceTo (a.add ⟨x / divisor, y / divisor, z / divisor⟩) =
      Real.sqrt (x * x + y * y + z * z) / divisor := by
  show Real.sqrt ((a.x - (a.x + x / divisor)) * (a.x - (a.x + x / divisor)) +
    (a.y - (a.y + y / divisor)) * (a.y - (a.y + y / divisor)) +
      (a.z - (a.z + z / divisor)) * (a.z - (a.z + z / divisor))) = _
  have hsquare : (a.x - (a.x + x / divisor)) * (a.x - (a.x + x / divisor)) +
      (a.y - (a.y + y / divisor)) * (a.y - (a.y + y / divisor)) +
        (a.z - (a.z + z / divisor)) * (a.z - (a.z + z / divisor)) =
      (x * x + y * y + z * z) / divisor ^ 2 := by
    field_simp
    ring
  rw [hsquare, Real.sqrt_div' _ (by positivity), Real.sqrt_sq hpos.le]

private theorem divide_eq {x y : ℝ} (h : y ≠ 0) : divide x y = some (x / y) :=
  if_neg (fun hzero => h (beq_iff_eq.mp hzero))

/-- The lower end is under water, the upper one is not. -/
structure Crosses (lower upper : Point ℝ) : Prop where
  below : lower.z < 0
  above : 0 ≤ upper.z

namespace Crosses
variable {lower upper : Point ℝ} (h : Crosses lower upper)
include h

private theorem rise : 0 < upper.z - lower.z := by
  linarith [h.below, h.above]

private theorem divisor_pos : 0 < (upper.sub lower).z / (lower.z * -1) :=
  div_pos h.rise (by linarith [h.below])

private theorem not_degenerate : ¬ ((upper.sub lower).z == 0 || lower.z == 0) = true := by
  rw [Bool.or_eq_true, beq_iff_eq, beq_iff_eq, not_or]
  exact ⟨h.rise.ne', h.below.ne⟩

private theorem divisor_ne : ¬ ((upper.sub lower).z / (lower.z * -1) == 0) = true :=
  fun hzero => h.divisor_pos.ne' (beq_iff_eq.mp hzero)

theorem length :
    lower.distanceTo (lower.add
        ⟨(upper.sub lower).x / ((upper.sub lower).z / (lower.z * -1)),
          (upper.sub lower).y / ((upper.sub lower).z / (lower.z * -1)),
          (upper.sub lower).z / ((upper.sub lower).z / (lower.z * -1))⟩) =
      waterline lower upper * lower.distanceTo upper := by
  have hrise := h.rise.ne'
  have hbelow := h.below.ne
  rw [distanceTo_add lower h.divisor_pos, distanceTo_comm lower upper]
  show upper.distanceTo lower / ((upper.z - lower.z) / (lower.z * -1)) = _
  rw [waterline]
  field_simp

end Crosses

private theorem distanceUnderwater_leaving (ha : a.z < 0) (hb : 0 ≤ b.z) :
    a.distanceUnderwaterChecked b = some (waterline a b * a.distanceTo b) ∧
      a.distanceUnderwater b = waterline a b * a.distanceTo b := by
  have hcrosses : Crosses a b := ⟨ha, hb⟩
  have hboth : ¬ (a.z > 0 ∧ b.z > 0) := fun h => absurd h.1 (not_lt.mpr ha.le)
  have hnot : ¬ (a.z < 0 ∧ b.z < 0) := fun h => absurd h.2 (not_lt.mpr hb)
  have hlt : a.z < b.z := lt_of_lt_of_le ha hb
  have hsurface : a.z * -1 ≠ 0 := by linarith
  have hdivisor := hcrosses.divisor_pos.ne'
  simp only [distanceUnderwaterChecked, distanceUnderwater, if_neg hboth, if_neg hnot, if_pos hlt,
    if_neg (not_lt.mpr hlt.le), if_neg hcrosses.not_degenerate, if_neg hcrosses.divisor_ne,
    if_pos ha, hcrosses.length, divide_eq hsurface, divide_eq hdivisor, Option.bind_eq_bind,
    Option.bind_some, and_self]

private theorem distanceUnderwater_entering (ha : 0 ≤ a.z) (hb : b.z < 0) :
    a.distanceUnderwaterChecked b = some (waterline b a * a.distanceTo b) ∧
      a.distanceUnderwater b = waterline b a * a.distanceTo b := by
  have hcrosses : Crosses b a := ⟨hb, ha⟩
  have hboth : ¬ (a.z > 0 ∧ b.z > 0) := fun h => absurd h.2 (not_lt.mpr hb.le)
  have hnot : ¬ (a.z < 0 ∧ b.z < 0) := fun h => absurd h.1 (not_lt.mpr ha)
  have hgt : b.z < a.z := lt_of_lt_of_le hb ha
  have hsurface : b.z * -1 ≠ 0 := by linarith
  have hdivisor := hcrosses.divisor_pos.ne'
  rw [distanceTo_comm a b]
  simp only [distanceUnderwaterChecked, distanceUnderwater, if_neg hboth, if_neg hnot,
    if_neg (not_lt.mpr hgt.le), gt_iff_lt, if_pos hgt, if_neg hcrosses.not_degenerate,
    if_neg hcrosses.divisor_ne, if_neg (not_lt.mpr ha), hcrosses.length, divide_eq hsurface,
    divide_eq hdivisor, Option.bind_eq_bind, Option.bind_some, and_self]

end Signs

/-- The part of the segment that is under water. -/
def submerged (a b : Point ℝ) : Set (EuclideanSpace ℝ (Fin 3)) :=
  {p ∈ segment ℝ a.toSpace b.toSpace | p 2 < 0}

/-- The positions on the line through two points that are under water. -/
def submergedAt (a b : Point ℝ) : Set ℝ := {t | a.z + t * (b.z - a.z) < 0}

private theorem lineMap_depth (a b : Point ℝ) (t : ℝ) :
    (AffineMap.lineMap a.toSpace b.toSpace t : EuclideanSpace ℝ (Fin 3)) 2 =
      a.z + t * (b.z - a.z) := by
  simp only [AffineMap.lineMap_apply, toSpace]
  simp
  ring

private theorem submerged_eq_image {a b p q : Point ℝ} {u v : ℝ} (huv : u ≤ v)
    (hp : AffineMap.lineMap a.toSpace b.toSpace u = p.toSpace)
    (hq : AffineMap.lineMap a.toSpace b.toSpace v = q.toSpace) :
    submerged p q = AffineMap.lineMap a.toSpace b.toSpace '' (submergedAt a b ∩ Set.Icc u v) := by
  ext r
  simp only [submerged, ← hp, ← hq, ← image_segment, segment_eq_Icc huv, Set.mem_ofPred_eq]
  constructor
  · intro hall
    obtain ⟨⟨t, ht, rfl⟩, hdepth⟩ := hall
    rw [lineMap_depth] at hdepth
    exact ⟨t, ⟨hdepth, ht⟩, rfl⟩
  · intro hall
    obtain ⟨t, ⟨hdepth, ht⟩, rfl⟩ := hall
    refine ⟨⟨t, ht, rfl⟩, ?_⟩
    rw [lineMap_depth]
    exact hdepth

private theorem submerged_comm (a b : Point ℝ) : submerged a b = submerged b a := by
  rw [submerged, submerged, segment_symm]

private theorem hausdorffMeasure_between {a b p q : Point ℝ} {u v : ℝ} (huv : u ≤ v)
    (hp : AffineMap.lineMap a.toSpace b.toSpace u = p.toSpace)
    (hq : AffineMap.lineMap a.toSpace b.toSpace v = q.toSpace) :
    Measure.hausdorffMeasure 1 (submerged p q) =
      ENNReal.ofReal (a.distanceTo b) * volume (submergedAt a b ∩ Set.Icc u v) := by
  rw [submerged_eq_image huv hp hq, hausdorffMeasure_lineMap_image, hausdorffMeasure_real,
    ← dist_toSpace, ENNReal.smul_def, smul_eq_mul, ← edist_nndist, edist_dist]

private theorem hausdorffMeasure_submerged (a b : Point ℝ) :
    Measure.hausdorffMeasure 1 (submerged a b) =
      ENNReal.ofReal (a.distanceTo b) * volume (submergedAt a b ∩ Set.Icc 0 1) :=
  hausdorffMeasure_between zero_le_one (AffineMap.lineMap_apply_zero _ _)
    (AffineMap.lineMap_apply_one _ _)

section Length
variable {a b : Point ℝ}

private theorem submergedAt_above (ha : 0 ≤ a.z) (hb : 0 ≤ b.z) :
    submergedAt a b ∩ Set.Icc 0 1 = ∅ := by
  ext t
  simp only [submergedAt, Set.mem_inter_iff, Set.mem_ofPred_eq, Set.mem_Icc,
    Set.mem_empty_iff_false, iff_false]
  intro hall
  obtain ⟨hdepth, ht0, ht1⟩ := hall
  have hfirst := mul_nonneg (sub_nonneg.mpr ht1) ha
  have hsecond := mul_nonneg ht0 hb
  nlinarith

private theorem submergedAt_below (ha : a.z < 0) (hb : b.z < 0) :
    submergedAt a b ∩ Set.Icc 0 1 = Set.Icc 0 1 := by
  ext t
  simp only [submergedAt, Set.mem_inter_iff, Set.mem_ofPred_eq, Set.mem_Icc, and_iff_right_iff_imp]
  intro hall
  obtain ⟨ht0, ht1⟩ := hall
  have hmax : max a.z b.z < 0 := max_lt ha hb
  have hfirst := mul_nonneg (sub_nonneg.mpr ht1) (sub_nonneg.mpr (le_max_left a.z b.z))
  have hsecond := mul_nonneg ht0 (sub_nonneg.mpr (le_max_right a.z b.z))
  nlinarith

private theorem submergedAt_leaving (ha : a.z < 0) (hb : 0 ≤ b.z) :
    submergedAt a b ∩ Set.Icc 0 1 = Set.Ico 0 (waterline a b) := by
  have hrise : 0 < b.z - a.z := by linarith
  ext t
  simp only [submergedAt, Set.mem_inter_iff, Set.mem_ofPred_eq, Set.mem_Icc, Set.mem_Ico,
    waterline, lt_div_iff₀ hrise]
  constructor
  · intro hall
    obtain ⟨hdepth, ht0, _⟩ := hall
    exact ⟨ht0, by linarith⟩
  · intro hall
    obtain ⟨ht0, hbefore⟩ := hall
    refine ⟨by linarith, ht0, ?_⟩
    by_contra hlate
    have hwhole := mul_le_mul_of_nonneg_right (not_le.mp hlate).le hrise.le
    linarith

end Length

private theorem hausdorffMeasure_submerged_eq (a b : Point ℝ) :
    Measure.hausdorffMeasure 1 (submerged a b) = ENNReal.ofReal (a.distanceUnderwater b) := by
  rcases lt_or_ge a.z 0 with ha | ha
  · rcases lt_or_ge b.z 0 with hb | hb
    · rw [hausdorffMeasure_submerged, submergedAt_below ha hb, (distanceUnderwater_below ha hb).2,
        Real.volume_Icc, sub_zero, ENNReal.ofReal_one, mul_one]
    · rw [hausdorffMeasure_submerged, submergedAt_leaving ha hb,
        (distanceUnderwater_leaving ha hb).2, Real.volume_Ico, sub_zero,
        ← ENNReal.ofReal_mul (distanceTo_nonneg a b), mul_comm]
  · rcases lt_or_ge b.z 0 with hb | hb
    · rw [submerged_comm, hausdorffMeasure_submerged, submergedAt_leaving hb ha,
        (distanceUnderwater_entering ha hb).2, Real.volume_Ico, sub_zero,
        ← ENNReal.ofReal_mul (distanceTo_nonneg b a), mul_comm, distanceTo_comm]
    · rw [hausdorffMeasure_submerged, submergedAt_above ha hb, (distanceUnderwater_above ha hb).2,
        measure_empty, mul_zero, ENNReal.ofReal_zero]

private theorem waterline_bounds {a b : Point ℝ} (ha : a.z < 0) (hb : 0 ≤ b.z) :
    0 ≤ waterline a b ∧ waterline a b ≤ 1 := by
  have hrise : 0 < b.z - a.z := by linarith
  constructor
  · exact div_nonneg (by linarith) hrise.le
  · rw [waterline, div_le_one hrise]
    linarith

private theorem distanceUnderwater_bounds (a b : Point ℝ) :
    0 ≤ a.distanceUnderwater b ∧ a.distanceUnderwater b ≤ a.distanceTo b := by
  have hdist := distanceTo_nonneg a b
  rcases lt_or_ge a.z 0 with ha | ha
  · rcases lt_or_ge b.z 0 with hb | hb
    · rw [(distanceUnderwater_below ha hb).2]
      exact ⟨hdist, le_refl _⟩
    · obtain ⟨hlow, hhigh⟩ := waterline_bounds ha hb
      rw [(distanceUnderwater_leaving ha hb).2]
      exact ⟨mul_nonneg hlow hdist, mul_le_of_le_one_left hdist hhigh⟩
  · rcases lt_or_ge b.z 0 with hb | hb
    · obtain ⟨hlow, hhigh⟩ := waterline_bounds hb ha
      rw [(distanceUnderwater_entering ha hb).2]
      exact ⟨mul_nonneg hlow hdist, mul_le_of_le_one_left hdist hhigh⟩
    · rw [(distanceUnderwater_above ha hb).2]
      exact ⟨le_refl _, hdist⟩

private theorem distanceUnderwater_comm (a b : Point ℝ) :
    a.distanceUnderwater b = b.distanceUnderwater a := by
  rw [← ENNReal.ofReal_eq_ofReal_iff (distanceUnderwater_bounds a b).1
    (distanceUnderwater_bounds b a).1, ← hausdorffMeasure_submerged_eq,
    ← hausdorffMeasure_submerged_eq, submerged_comm]

private theorem distanceUnderwaterChecked_eq (a b : Point ℝ) :
    a.distanceUnderwaterChecked b = some (a.distanceUnderwater b) := by
  rcases lt_or_ge a.z 0 with ha | ha
  · rcases lt_or_ge b.z 0 with hb | hb
    · rw [(distanceUnderwater_below ha hb).1, (distanceUnderwater_below ha hb).2]
    · rw [(distanceUnderwater_leaving ha hb).1, (distanceUnderwater_leaving ha hb).2]
  · rcases lt_or_ge b.z 0 with hb | hb
    · rw [(distanceUnderwater_entering ha hb).1, (distanceUnderwater_entering ha hb).2]
    · rw [(distanceUnderwater_above ha hb).1, (distanceUnderwater_above ha hb).2]

private theorem volume_inter_Icc_add (positions : Set ℝ) {u : ℝ} (hu0 : 0 ≤ u) (hu1 : u ≤ 1) :
    volume (positions ∩ Set.Icc 0 u) + volume (positions ∩ Set.Icc u 1) =
      volume (positions ∩ Set.Icc 0 1) := by
  have hbefore : positions ∩ Set.Icc 0 1 ∩ Set.Iic u = positions ∩ Set.Icc 0 u := by
    ext t
    simp only [Set.mem_inter_iff, Set.mem_Icc, Set.mem_Iic]
    constructor
    · intro hall
      obtain ⟨⟨hmem, ht0, _⟩, htu⟩ := hall
      exact ⟨hmem, ht0, htu⟩
    · intro hall
      obtain ⟨hmem, ht0, htu⟩ := hall
      exact ⟨⟨hmem, ht0, htu.trans hu1⟩, htu⟩
  have hopen : (positions ∩ Set.Icc 0 1) \ Set.Iic u = positions ∩ Set.Ioc u 1 := by
    ext t
    simp only [Set.mem_sdiff, Set.mem_inter_iff, Set.mem_Icc, Set.mem_Iic, Set.mem_Ioc, not_le]
    constructor
    · intro hall
      obtain ⟨⟨hmem, _, ht1⟩, htu⟩ := hall
      exact ⟨hmem, htu, ht1⟩
    · intro hall
      obtain ⟨hmem, htu, ht1⟩ := hall
      exact ⟨⟨hmem, hu0.trans htu.le, ht1⟩, htu⟩
  have hafter : volume (positions ∩ Set.Ioc u 1) = volume (positions ∩ Set.Icc u 1) :=
    measure_congr (Filter.EventuallyEq.rfl.inter Ioc_ae_eq_Icc)
  rw [← measure_inter_add_sdiff (positions ∩ Set.Icc 0 1) (measurableSet_Iic (a := u)), hbefore,
    hopen, hafter]

private theorem distanceUnderwater_add {a b c : Point ℝ}
    (hc : c.toSpace ∈ segment ℝ a.toSpace b.toSpace) :
    a.distanceUnderwater c + c.distanceUnderwater b = a.distanceUnderwater b := by
  rw [segment_eq_image_lineMap] at hc
  obtain ⟨u, ⟨hu0, hu1⟩, hu⟩ := hc
  have hstart : AffineMap.lineMap a.toSpace b.toSpace (0 : ℝ) = a.toSpace :=
    AffineMap.lineMap_apply_zero _ _
  have hend : AffineMap.lineMap a.toSpace b.toSpace (1 : ℝ) = b.toSpace :=
    AffineMap.lineMap_apply_one _ _
  have hfirst := hausdorffMeasure_between hu0 hstart hu
  have hsecond := hausdorffMeasure_between hu1 hu hend
  have hwhole := hausdorffMeasure_submerged a b
  have hsplit := volume_inter_Icc_add (submergedAt a b) hu0 hu1
  rw [hausdorffMeasure_submerged_eq] at hfirst hsecond hwhole
  rw [← ENNReal.ofReal_eq_ofReal_iff, ENNReal.ofReal_add, hfirst, hsecond, hwhole, ← mul_add,
    hsplit]
  · exact (distanceUnderwater_bounds a c).1
  · exact (distanceUnderwater_bounds c b).1
  · exact add_nonneg (distanceUnderwater_bounds a c).1 (distanceUnderwater_bounds c b).1
  · exact (distanceUnderwater_bounds a b).1

private theorem ddError_nonneg {uwDist normalDist : ℝ} (hlow : 0 ≤ uwDist)
    (hhigh : uwDist ≤ normalDist)
    (minDistance maxDistance wavesLevel txRange : ℝ) :
    ddErrorChecked minDistance maxDistance wavesLevel txRange uwDist normalDist =
        some (ddError minDistance maxDistance wavesLevel txRange uwDist normalDist) ∧
      0 ≤ ddError minDistance maxDistance wavesLevel txRange uwDist normalDist := by
  have hrange : 0 < if txRange > 1 then txRange else 1 := by
    split <;> linarith
  simp only [ddErrorChecked, ddError]
  generalize minDistance + (maxDistance - minDistance) * (1 - wavesLevel) = underwaterRange
  have hunderwater : 0 < if underwaterRange > 0 then underwaterRange else 1 := by
    split
    · assumption
    · exact one_pos
  generalize (if txRange > 1 then txRange else 1) = range at hrange
  generalize (if underwaterRange > 0 then underwaterRange else 1) = divisor at hunderwater
  constructor
  · rw [divide_eq hunderwater.ne', Option.bind_eq_bind, Option.bind_some, divide_eq hrange.ne']
  · have hfactor := mul_nonneg hlow (div_pos hrange hunderwater).le
    exact div_nonneg (by linarith) hrange.le

/-- In exact arithmetic `distanceUnderwater` is the length of the submerged part of the segment.
So it is symmetric, at most the distance, and additive; it never divides by zero, and neither does
the error computed from it, which is not negative. -/
theorem distanceUnderwater_laws (a b : Point ℝ) :
    Measure.hausdorffMeasure 1 (submerged a b) = ENNReal.ofReal (a.distanceUnderwater b) ∧
      a.distanceUnderwater b = b.distanceUnderwater a ∧
      (0 ≤ a.distanceUnderwater b ∧ a.distanceUnderwater b ≤ a.distanceTo b) ∧
      (∀ c : Point ℝ, c.toSpace ∈ segment ℝ a.toSpace b.toSpace →
        a.distanceUnderwater c + c.distanceUnderwater b = a.distanceUnderwater b) ∧
      a.distanceUnderwaterChecked b = some (a.distanceUnderwater b) ∧
      ∀ minDistance maxDistance wavesLevel txRange : ℝ,
        let error := ddError minDistance maxDistance wavesLevel txRange (a.distanceUnderwater b)
          (a.distanceTo b)
        ddErrorChecked minDistance maxDistance wavesLevel txRange (a.distanceUnderwater b)
            (a.distanceTo b) = some error ∧
          0 ≤ error := by
  obtain ⟨hlow, hhigh⟩ := distanceUnderwater_bounds a b
  refine ⟨hausdorffMeasure_submerged_eq a b, distanceUnderwater_comm a b, ⟨hlow, hhigh⟩, ?_,
    distanceUnderwaterChecked_eq a b, ?_⟩
  · intro c hc
    exact distanceUnderwater_add hc
  · intro minDistance maxDistance wavesLevel txRange
    exact ddError_nonneg hlow hhigh minDistance maxDistance wavesLevel txRange

end Point

end TaskForceRadio.Extension
