import Mathlib.Analysis.InnerProductSpace.PiL2
import TaskForceRadio.Extension.Solver

/-!
# The vector arithmetic over any numbers

The distances of `Util.cpp` with the number type as a parameter. Over singles they are the
functions of the extension; over the reals they are what these approximate.
-/

set_option autoImplicit false

namespace TaskForceRadio.Extension

class SquareRoot (K : Type) where
  sqrt : K → K

instance : SquareRoot Float32 := ⟨Float32.sqrt⟩

noncomputable instance : SquareRoot ℝ := ⟨Real.sqrt⟩

structure Point (K : Type) where
  x : K
  y : K
  z : K

namespace Point

section Operations
variable {K : Type} [Add K] [Sub K] [Mul K] [SquareRoot K]

def add (v w : Point K) : Point K := ⟨v.x + w.x, v.y + w.y, v.z + w.z⟩

def sub (v w : Point K) : Point K := ⟨v.x - w.x, v.y - w.y, v.z - w.z⟩

def distanceTo (v w : Point K) : K :=
  let d := v.sub w
  SquareRoot.sqrt (d.x * d.x + d.y * d.y + d.z * d.z)

end Operations

/-- A position of the extension. -/
def ofVec3 (v : Vec3) : Point Float32 := ⟨v.x, v.y, v.z⟩

theorem distanceTo_ofVec3 (v w : Vec3) : (ofVec3 v).distanceTo (ofVec3 w) = v.distanceTo w := rfl

/-- The point in Euclidean space. -/
noncomputable def toSpace (p : Point ℝ) : EuclideanSpace ℝ (Fin 3) := !₂[p.x, p.y, p.z]

theorem dist_toSpace (p q : Point ℝ) : dist p.toSpace q.toSpace = p.distanceTo q := by
  rw [EuclideanSpace.dist_eq, Fin.sum_univ_three]
  simp only [Real.dist_eq, sq_abs]
  show Real.sqrt ((p.x - q.x) ^ 2 + (p.y - q.y) ^ 2 + (p.z - q.z) ^ 2) =
    Real.sqrt ((p.x - q.x) * (p.x - q.x) + (p.y - q.y) * (p.y - q.y) + (p.z - q.z) * (p.z - q.z))
  congr 1
  ring

theorem distanceTo_nonneg (p q : Point ℝ) : 0 ≤ p.distanceTo q := Real.sqrt_nonneg _

theorem distanceTo_comm (p q : Point ℝ) : p.distanceTo q = q.distanceTo p := by
  rw [← dist_toSpace, ← dist_toSpace, dist_comm]

end Point

end TaskForceRadio.Extension
