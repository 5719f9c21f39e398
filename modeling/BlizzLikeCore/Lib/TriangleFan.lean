import Mathlib.Algebra.Order.Field.Basic
import Mathlib.Algebra.Order.Floor.Semiring
import Mathlib.Tactic.Linarith
import Mathlib.Tactic.LinearCombination
import Mathlib.Tactic.Ring

/-!
# Surfaces of triangle fans

A square with heights at its corners and at its centre is a fan of four triangles, each on a side of
the square and the centre, and the surface over it is the plane on each of them.  Squares that share
their corners make one surface (`onSurface_iff`): on an edge of two triangles or of two squares each
of them has the same height.

    height_of_onTriangle : every triangle that has a point has the same height there
    height_right, height_top : squares side by side agree on the edge between them
-/

namespace Fan

variable {k : Type*} [Field k] [LinearOrder k] [IsStrictOrderedRing k]

/-- The heights at the corners `(0, 0)`, `(1, 0)`, `(0, 1)`, `(1, 1)` and at the centre. -/
structure Square (k : Type*) where
  h1 : k
  h2 : k
  h3 : k
  h4 : k
  h5 : k

/-- The triangles of a fan, each with the two corners it has. -/
inductive Triangle where
  | h1h2
  | h1h3
  | h2h4
  | h3h4

namespace Square

variable (s : Square k)

/-- A triangle's corners, each with its position and its height. -/
def corners : Triangle → (k × k × k) × (k × k × k)
  | .h1h2 => ((0, 0, s.h1), (1, 0, s.h2))
  | .h1h3 => ((0, 0, s.h1), (0, 1, s.h3))
  | .h2h4 => ((1, 0, s.h2), (1, 1, s.h4))
  | .h3h4 => ((0, 1, s.h3), (1, 1, s.h4))

/-- The linear interpolation on a triangle: a point is a mean of the corners and the centre, and its
height is the mean of theirs. -/
def OnTriangle (t : Triangle) (x y z : k) : Prop :=
  ∃ p q r : k, 0 ≤ p ∧ 0 ≤ q ∧ 0 ≤ r ∧ p + q + r = 1 ∧
    x = p * (s.corners t).1.1 + q * (s.corners t).2.1 + r * (1 / 2) ∧
    y = p * (s.corners t).1.2.1 + q * (s.corners t).2.2.1 + r * (1 / 2) ∧
    z = p * (s.corners t).1.2.2 + q * (s.corners t).2.2.2 + r * s.h5

/-- The height at a point. -/
def height (x y : k) : k :=
  if x + y < 1 then
    if y < x then s.h1 * (1 - x - y) + s.h2 * (x - y) + s.h5 * (2 * y)
    else s.h1 * (1 - x - y) + s.h3 * (y - x) + s.h5 * (2 * x)
  else
    if y < x then s.h2 * (x - y) + s.h4 * (x + y - 1) + s.h5 * (2 - 2 * x)
    else s.h3 * (y - x) + s.h4 * (x + y - 1) + s.h5 * (2 - 2 * y)

/-! ## The planes

Where two triangles meet, the planes differ by a multiple of what is 0 there. -/

theorem height_h1h2 {x y : k} (hxy : y ≤ x) (hsum : x + y ≤ 1) :
    s.height x y = s.h1 * (1 - x - y) + s.h2 * (x - y) + s.h5 * (2 * y) := by
  unfold height
  split
  · split
    · rfl
    · next hge =>
      have heq : x = y := le_antisymm (not_lt.1 hge) hxy
      linear_combination (2 * s.h5 - s.h2 - s.h3) * heq
  · next hge =>
    have hone : x + y = 1 := le_antisymm hsum (not_lt.1 hge)
    split
    · linear_combination (s.h4 + s.h1 - 2 * s.h5) * hone
    · next hge' =>
      have heq : x = y := le_antisymm (not_lt.1 hge') hxy
      linear_combination (s.h4 + s.h1 - 2 * s.h5) * hone + (2 * s.h5 - s.h2 - s.h3) * heq

theorem height_h1h3 {x y : k} (hxy : x ≤ y) (hsum : x + y ≤ 1) :
    s.height x y = s.h1 * (1 - x - y) + s.h3 * (y - x) + s.h5 * (2 * x) := by
  unfold height
  rw [if_neg (not_lt.2 hxy), if_neg (not_lt.2 hxy)]
  split
  · rfl
  · next hge =>
    have hone : x + y = 1 := le_antisymm hsum (not_lt.1 hge)
    linear_combination (s.h4 + s.h1 - 2 * s.h5) * hone

theorem height_h2h4 {x y : k} (hxy : y ≤ x) (hsum : 1 ≤ x + y) :
    s.height x y = s.h2 * (x - y) + s.h4 * (x + y - 1) + s.h5 * (2 - 2 * x) := by
  unfold height
  rw [if_neg (not_lt.2 hsum)]
  split
  · rfl
  · next hge =>
    have heq : x = y := le_antisymm (not_lt.1 hge) hxy
    linear_combination (2 * s.h5 - s.h2 - s.h3) * heq

omit [IsStrictOrderedRing k] in
theorem height_h3h4 {x y : k} (hxy : x ≤ y) (hsum : 1 ≤ x + y) :
    s.height x y = s.h3 * (y - x) + s.h4 * (x + y - 1) + s.h5 * (2 - 2 * y) := by
  unfold height
  rw [if_neg (not_lt.2 hsum), if_neg (not_lt.2 hxy)]

/-- **Every triangle** that has a point has the same height there. -/
theorem height_of_onTriangle {t : Triangle} {x y z : k} (h : s.OnTriangle t x y z) : z = s.height x y := by
  obtain ⟨p, q, r, hp, hq, hr, hsum, rfl, rfl, rfl⟩ := h
  obtain rfl : p = 1 - q - r := by linear_combination hsum
  cases t <;> simp only [corners]
  · rw [s.height_h1h2 (by linarith) (by linarith)]
    ring
  · rw [s.height_h1h3 (by linarith) (by linarith)]
    ring
  · rw [s.height_h2h4 (by linarith) (by linarith)]
    ring
  · rw [s.height_h3h4 (by linarith) (by linarith)]
    ring

theorem mem_of_onTriangle {t : Triangle} {x y z : k} (h : s.OnTriangle t x y z) :
    (0 ≤ x ∧ x ≤ 1) ∧ 0 ≤ y ∧ y ≤ 1 := by
  obtain ⟨p, q, r, hp, hq, hr, hsum, rfl, rfl, rfl⟩ := h
  cases t <;> simp only [corners] <;> refine ⟨⟨?_, ?_⟩, ?_, ?_⟩ <;> linarith

/-- **Every point** of the square is on a triangle. -/
theorem exists_onTriangle {x y : k} (hx0 : 0 ≤ x) (hx1 : x ≤ 1) (hy0 : 0 ≤ y) (hy1 : y ≤ 1) :
    ∃ t, s.OnTriangle t x y (s.height x y) := by
  rcases le_total y x with hxy | hxy <;> rcases le_total (x + y) 1 with hsum | hsum
  · refine ⟨.h1h2, 1 - x - y, x - y, 2 * y, by linarith, by linarith, by linarith, by ring, ?_, ?_, ?_⟩
    · simp only [corners]
      ring
    · simp only [corners]
      ring
    · rw [s.height_h1h2 hxy hsum]
      simp only [corners]
      ring
  · refine ⟨.h2h4, x - y, x + y - 1, 2 - 2 * x, by linarith, by linarith, by linarith, by ring, ?_, ?_, ?_⟩
    · simp only [corners]
      ring
    · simp only [corners]
      ring
    · rw [s.height_h2h4 hxy hsum]
      simp only [corners]
      ring
  · refine ⟨.h1h3, 1 - x - y, y - x, 2 * x, by linarith, by linarith, by linarith, by ring, ?_, ?_, ?_⟩
    · simp only [corners]
      ring
    · simp only [corners]
      ring
    · rw [s.height_h1h3 hxy hsum]
      simp only [corners]
      ring
  · refine ⟨.h3h4, y - x, x + y - 1, 2 - 2 * y, by linarith, by linarith, by linarith, by ring, ?_, ?_, ?_⟩
    · simp only [corners]
      ring
    · simp only [corners]
      ring
    · rw [s.height_h3h4 hxy hsum]
      simp only [corners]
      ring

omit [IsStrictOrderedRing k] in
theorem height_affine (m c : k) (x y : k) :
    (⟨s.h1 * m + c, s.h2 * m + c, s.h3 * m + c, s.h4 * m + c, s.h5 * m + c⟩ : Square k).height x y =
      s.height x y * m + c := by
  unfold height
  simp only
  split <;> split <;> ring

end Square

/-! ## The surface -/

/-- The square with its first corner at `i`, `j`. -/
def square (corner centre : ℕ → ℕ → k) (i j : ℕ) : Square k :=
  ⟨corner i j, corner (i + 1) j, corner i (j + 1), corner (i + 1) (j + 1), centre i j⟩

/-- A point of the surface over `n` times `n` squares: one that is on a triangle of one of them. -/
def OnSurface (n : ℕ) (corner centre : ℕ → ℕ → k) (x y z : k) : Prop :=
  ∃ i j : ℕ, i < n ∧ j < n ∧ ∃ t, (square corner centre i j).OnTriangle t (x - i) (y - j) z

variable {corner centre : ℕ → ℕ → k}

theorem height_right {i j : ℕ} {y : k} (h0 : 0 ≤ y) (h1 : y ≤ 1) :
    (square corner centre i j).height 1 y = (square corner centre (i + 1) j).height 0 y := by
  rw [Square.height_h2h4 _ h1 (by linarith), Square.height_h1h3 _ h0 (by linarith)]
  simp only [square]
  ring

theorem height_top {i j : ℕ} {x : k} (h0 : 0 ≤ x) (h1 : x ≤ 1) :
    (square corner centre i j).height x 1 = (square corner centre i (j + 1)).height x 0 := by
  rw [Square.height_h3h4 _ h1 (by linarith), Square.height_h1h2 _ h0 (by linarith)]
  simp only [square]
  ring

variable [FloorSemiring k]

/-- A number that is between two others next to each other is in one cell or at its end. -/
theorem floor_cases {x : k} {i : ℕ} (h0 : 0 ≤ x - i) (h1 : x - i ≤ 1) :
    ⌊x⌋₊ = i ∨ ⌊x⌋₊ = i + 1 ∧ x - i = 1 := by
  rcases h1.lt_or_eq with hlt | heq
  · left
    exact (Nat.floor_eq_iff (by linarith [i.cast_nonneg (α := k)])).2 ⟨by linarith, by linarith⟩
  · right
    have hx : x = (i + 1 : ℕ) := by
      push_cast
      linarith
    exact ⟨by rw [hx, Nat.floor_natCast], heq⟩

/-- **The surface is a function**: over a point there is one height, that of the square it is in. -/
theorem onSurface_iff {n : ℕ} {x y : k} (hx0 : 0 ≤ x) (hxn : x < n) (hy0 : 0 ≤ y) (hyn : y < n) (z : k) :
    OnSurface n corner centre x y z ↔
      z = (square corner centre ⌊x⌋₊ ⌊y⌋₊).height (x - ⌊x⌋₊) (y - ⌊y⌋₊) := by
  constructor
  · rintro ⟨i, j, -, -, t, ht⟩
    obtain ⟨⟨hu0, hu1⟩, hv0, hv1⟩ := Square.mem_of_onTriangle _ ht
    rw [Square.height_of_onTriangle _ ht]
    have hright : (square corner centre i j).height (x - i) (y - j) =
        (square corner centre ⌊x⌋₊ j).height (x - ⌊x⌋₊) (y - j) := by
      rcases floor_cases hu0 hu1 with heq | ⟨heq, hone⟩
      · rw [heq]
      · rw [heq, hone, height_right hv0 hv1]
        congr 1
        push_cast
        linarith
    have hu0' : 0 ≤ x - ⌊x⌋₊ := sub_nonneg.2 (Nat.floor_le hx0)
    have hu1' : x - ⌊x⌋₊ ≤ 1 := by linarith [Nat.lt_floor_add_one x]
    rw [hright]
    rcases floor_cases hv0 hv1 with heq | ⟨heq, hone⟩
    · rw [heq]
    · rw [heq, hone, height_top hu0' hu1']
      congr 1
      push_cast
      linarith
  · rintro rfl
    refine ⟨⌊x⌋₊, ⌊y⌋₊, (Nat.floor_lt hx0).2 hxn, (Nat.floor_lt hy0).2 hyn, ?_⟩
    exact Square.exists_onTriangle _ (sub_nonneg.2 (Nat.floor_le hx0)) (by linarith [Nat.lt_floor_add_one x])
      (sub_nonneg.2 (Nat.floor_le hy0)) (by linarith [Nat.lt_floor_add_one y])

end Fan
