import Mathlib.Algebra.Group.MinimalAxioms
import Mathlib.Tactic.LinearCombination
/-!
# Roadway — exact planar rigid motions

A concrete group of the rigid transforms the environment worker composes.
The rotation is one about `z` by a quarter turn, the matrix `[[c, -s], [s, c]]`
with `c² + s² = 1` over `ℤ`, and the translation is by whole metres, so
composition is exact and decidable. Under composition these motions form a
group, standing for `Transform.multiply` and `invert`. The group is not
commutative, and that is the property which separates the drift correction
of `updateMapAndOdomTFs` from a correction applied on the other side.
-/

namespace CarmaPlatform

namespace Roadway

/-- A planar rigid motion: rotation `[[c, -s], [s, c]]`, then translation
`(x, y)`. -/
@[ext]
structure Motion where
  c : ℤ
  s : ℤ
  x : ℤ
  y : ℤ
  unit : c * c + s * s = 1
  deriving DecidableEq

namespace Motion

instance : Mul Motion :=
  ⟨fun a b => ⟨a.c * b.c - a.s * b.s, a.s * b.c + a.c * b.s, a.x + a.c * b.x - a.s * b.y,
    a.y + a.s * b.x + a.c * b.y, by linear_combination (b.c * b.c + b.s * b.s) * a.unit + b.unit⟩⟩

instance : One Motion := ⟨⟨1, 0, 0, 0, by norm_num⟩⟩

instance : Inv Motion :=
  ⟨fun a => ⟨a.c, -a.s, -(a.c * a.x + a.s * a.y), a.s * a.x - a.c * a.y, by linear_combination a.unit⟩⟩

@[simp] theorem mul_c (a b : Motion) : (a * b).c = a.c * b.c - a.s * b.s := rfl
@[simp] theorem mul_s (a b : Motion) : (a * b).s = a.s * b.c + a.c * b.s := rfl
@[simp] theorem mul_x (a b : Motion) : (a * b).x = a.x + a.c * b.x - a.s * b.y := rfl
@[simp] theorem mul_y (a b : Motion) : (a * b).y = a.y + a.s * b.x + a.c * b.y := rfl
@[simp] theorem one_c : (1 : Motion).c = 1 := rfl
@[simp] theorem one_s : (1 : Motion).s = 0 := rfl
@[simp] theorem one_x : (1 : Motion).x = 0 := rfl
@[simp] theorem one_y : (1 : Motion).y = 0 := rfl
@[simp] theorem inv_c (a : Motion) : a⁻¹.c = a.c := rfl
@[simp] theorem inv_s (a : Motion) : a⁻¹.s = -a.s := rfl
@[simp] theorem inv_x (a : Motion) : a⁻¹.x = -(a.c * a.x + a.s * a.y) := rfl
@[simp] theorem inv_y (a : Motion) : a⁻¹.y = a.s * a.x - a.c * a.y := rfl

instance : Group Motion :=
  Group.ofLeftAxioms (fun a b c => by ext <;> simp <;> ring) (fun a => by ext <;> simp)
    (fun a => by
      ext <;> simp
      · linear_combination a.unit
      all_goals ring)

/-- The quarter turn about `z` that takes `x` onto `y`. -/
def quarterTurn : Motion := ⟨0, 1, 0, 0, by norm_num⟩

/-- The translation by `(x, y)`. -/
def shift (x y : ℤ) : Motion := ⟨1, 0, x, y, by norm_num⟩

/-- The rotation about `z` by a heading in degrees, in whole quarter turns:
`90` turns `x` (north) onto `y` (east). A heading between two quarter turns
is taken down to the lower one. -/
def headingTurn (heading : ℤ) : Motion :=
  match (heading / 90 % 4).toNat with
  | 1 => quarterTurn
  | 2 => quarterTurn * quarterTurn
  | 3 => quarterTurn⁻¹
  | _ => 1

end Motion

end Roadway

end CarmaPlatform
