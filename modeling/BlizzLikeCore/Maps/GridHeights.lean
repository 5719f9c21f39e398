import BlizzLikeCore.Lib.TriangleFan
import Mathlib.Data.Rat.Floor

/-!
# Heights of a grid

A `GridMap` has the heights of its grid in one of three forms, each with a reader of its own: numbers,
or 8-bit or 16-bit steps above the lowest height.  A reader finds the square a position is in and the
triangle of the square, and solves a linear equation for it.  Positions and heights are exact here.

Every reader stays inside its arrays.  What it returns is the one point of the surface over the
squares that is above the position, so that readers of the same heights agree and there is no step
between triangles or squares (`getHeight_surface`).
-/

namespace BlizzLike.GridHeights

/-! ## The data -/

def sizeOfGrids : ℚ := 53333333 / 100000

def mapResolution : Nat := 128

/-- `V9`, the corners of the squares, and `V8`, their centres. -/
structure Heights (α : Type) where
  V9 : Vector α (129 * 129)
  V8 : Vector α (128 * 128)

/-- The form of a grid's heights, as the file of the grid tells it. -/
inductive HeightForm where
  | flat
  | float (heights : Heights ℚ)
  | uint8 (heights : Heights UInt8)
  | uint16 (heights : Heights UInt16)

structure GridMap where
  gridHeight : ℚ
  gridIntHeightMultiplier : ℚ
  form : HeightForm

/-! ## The readers

The result is `none` where a reader leaves an array. -/

/-- A conversion to `int`, which drops the fraction. -/
def toInt (x : ℚ) : Int := if 0 ≤ x then ⌊x⌋ else ⌈x⌉

/-- A coordinate of a position in squares. -/
def inSquares (x : ℚ) : ℚ := mapResolution * (32 - x / sizeOfGrids)

/-- `x_int`, masked. -/
def squareOf (x : ℚ) : Nat := (toInt (inSquares x) % mapResolution).toNat

/-- `x`, the part of it within the square. -/
def partOf (x : ℚ) : ℚ := inSquares x - toInt (inSquares x)

def getHeightFromFlat (m : GridMap) : Option ℚ := some m.gridHeight

def getHeightFromFloat (heights : Heights ℚ) (posX posY : ℚ) : Option ℚ := do
  let x_int := squareOf posX
  let y_int := squareOf posY
  let x := partOf posX
  let y := partOf posY
  let (a, b, c) ← (
    if x + y < 1 then
      if x > y then do
        let h1 ← heights.V9[x_int * 129 + y_int]?
        let h2 ← heights.V9[(x_int + 1) * 129 + y_int]?
        let h5 ← heights.V8[x_int * 128 + y_int]?.map (2 * ·)
        some (h2 - h1, h5 - h1 - h2, h1)
      else do
        let h1 ← heights.V9[x_int * 129 + y_int]?
        let h3 ← heights.V9[x_int * 129 + y_int + 1]?
        let h5 ← heights.V8[x_int * 128 + y_int]?.map (2 * ·)
        some (h5 - h1 - h3, h3 - h1, h1)
    else
      if x > y then do
        let h2 ← heights.V9[(x_int + 1) * 129 + y_int]?
        let h4 ← heights.V9[(x_int + 1) * 129 + y_int + 1]?
        let h5 ← heights.V8[x_int * 128 + y_int]?.map (2 * ·)
        some (h2 + h4 - h5, h4 - h2, h5 - h4)
      else do
        let h3 ← heights.V9[x_int * 129 + y_int + 1]?
        let h4 ← heights.V9[(x_int + 1) * 129 + y_int + 1]?
        let h5 ← heights.V8[x_int * 128 + y_int]?.map (2 * ·)
        some (h4 - h3, h3 + h4 - h5, h5 - h4) : Option (ℚ × ℚ × ℚ))
  some (a * x + b * y + c)

/-- The body that the readers of steps share, for the `int32` of a step; sums of a few steps of 16
bits stay far within an `int32`. -/
def getHeightFromSteps {α : Type} (step : α → Int) (m : GridMap) (heights : Heights α) (posX posY : ℚ) :
    Option ℚ := do
  let x_int := squareOf posX
  let y_int := squareOf posY
  let x := partOf posX
  let y := partOf posY
  let V9_h1_ptr := x_int * 128 + x_int + y_int
  let (a, b, c) ← (
    if x + y < 1 then
      if x > y then do
        let h1 ← heights.V9[V9_h1_ptr]?.map step
        let h2 ← heights.V9[V9_h1_ptr + 129]?.map step
        let h5 ← heights.V8[x_int * 128 + y_int]?.map (2 * step ·)
        some (h2 - h1, h5 - h1 - h2, h1)
      else do
        let h1 ← heights.V9[V9_h1_ptr]?.map step
        let h3 ← heights.V9[V9_h1_ptr + 1]?.map step
        let h5 ← heights.V8[x_int * 128 + y_int]?.map (2 * step ·)
        some (h5 - h1 - h3, h3 - h1, h1)
    else
      if x > y then do
        let h2 ← heights.V9[V9_h1_ptr + 129]?.map step
        let h4 ← heights.V9[V9_h1_ptr + 130]?.map step
        let h5 ← heights.V8[x_int * 128 + y_int]?.map (2 * step ·)
        some (h2 + h4 - h5, h4 - h2, h5 - h4)
      else do
        let h3 ← heights.V9[V9_h1_ptr + 1]?.map step
        let h4 ← heights.V9[V9_h1_ptr + 130]?.map step
        let h5 ← heights.V8[x_int * 128 + y_int]?.map (2 * step ·)
        some (h4 - h3, h3 + h4 - h5, h5 - h4) : Option (Int × Int × Int))
  some ((a * x + b * y + c) * m.gridIntHeightMultiplier + m.gridHeight)

def getHeightFromUint8 : GridMap → Heights UInt8 → ℚ → ℚ → Option ℚ :=
  getHeightFromSteps fun v => (v.toNat : Int)

def getHeightFromUint16 : GridMap → Heights UInt16 → ℚ → ℚ → Option ℚ :=
  getHeightFromSteps fun v => (v.toNat : Int)

/-- `getHeight`, through the reader that was chosen when the grid was loaded. -/
def getHeight (m : GridMap) (x y : ℚ) : Option ℚ :=
  match m.form with
  | .flat => getHeightFromFlat m
  | .float heights => getHeightFromFloat heights x y
  | .uint8 heights => getHeightFromUint8 m heights x y
  | .uint16 heights => getHeightFromUint16 m heights x y

/-! ## Positions -/

/-- A coordinate of a position inside a grid, the one with this number along the axis. -/
def InGrid (grid : Nat) (x : ℚ) : Prop := grid ≤ 32 - x / sizeOfGrids ∧ 32 - x / sizeOfGrids < grid + 1

/-- A coordinate of a position in the squares of a grid. -/
def inGrid (grid : Nat) (x : ℚ) : ℚ := inSquares x - mapResolution * grid

variable {grid : Nat} {x : ℚ}

theorem inGrid_nonneg (h : InGrid grid x) : 0 ≤ inGrid grid x := by
  unfold inGrid inSquares mapResolution
  push_cast
  linarith [h.1]

theorem inGrid_lt (h : InGrid grid x) : inGrid grid x < (128 : Nat) := by
  unfold inGrid inSquares mapResolution
  push_cast
  linarith [h.2]

theorem toInt_inSquares (h : InGrid grid x) : toInt (inSquares x) = 128 * grid + ⌊inGrid grid x⌋₊ := by
  have hnonneg := inGrid_nonneg h
  have hsplit : inSquares x = inGrid grid x + (128 * grid : ℤ) := by
    unfold inGrid mapResolution
    push_cast
    ring
  unfold toInt
  rw [if_pos (by rw [hsplit]; positivity), hsplit, Int.floor_add_intCast, ← Int.natCast_floor_eq_floor hnonneg]
  ring

theorem squareOf_eq (h : InGrid grid x) : squareOf x = ⌊inGrid grid x⌋₊ := by
  have hlt : ⌊inGrid grid x⌋₊ < 128 := (Nat.floor_lt (inGrid_nonneg h)).2 (inGrid_lt h)
  unfold squareOf mapResolution
  rw [toInt_inSquares h]
  omega

theorem squareOf_lt (h : InGrid grid x) : squareOf x < 128 := by
  rw [squareOf_eq h]
  exact (Nat.floor_lt (inGrid_nonneg h)).2 (inGrid_lt h)

theorem partOf_eq (h : InGrid grid x) : partOf x = inGrid grid x - ⌊inGrid grid x⌋₊ := by
  unfold partOf
  rw [toInt_inSquares h]
  unfold inGrid mapResolution
  push_cast
  ring

/-! ## The surface -/

namespace Heights

variable {α : Type}

def map {β : Type} (f : α → β) (h : Heights α) : Heights β := ⟨h.V9.map f, h.V8.map f⟩

def corner (h : Heights ℚ) (i j : Nat) : ℚ := (h.V9[i * 129 + j]?).getD 0

def centre (h : Heights ℚ) (i j : Nat) : ℚ := (h.V8[i * 128 + j]?).getD 0

variable (h : Heights α) (f : α → ℚ)

theorem exists_corner (i j n : Nat) (hi : i ≤ 128) (hj : j ≤ 128) (hn : n = i * 129 + j) :
    ∃ v, h.V9[n]? = some v ∧ (h.map f).corner i j = f v := by
  subst hn
  have hlt : i * 129 + j < 129 * 129 := by omega
  refine ⟨h.V9[i * 129 + j], Vector.getElem?_eq_getElem hlt, ?_⟩
  unfold corner map
  rw [Vector.getElem?_map, Vector.getElem?_eq_getElem hlt]
  rfl

theorem exists_centre {i j : Nat} (hi : i < 128) (hj : j < 128) :
    ∃ v, h.V8[i * 128 + j]? = some v ∧ (h.map f).centre i j = f v := by
  have hlt : i * 128 + j < 128 * 128 := by omega
  refine ⟨h.V8[i * 128 + j], Vector.getElem?_eq_getElem hlt, ?_⟩
  unfold centre map
  rw [Vector.getElem?_map, Vector.getElem?_eq_getElem hlt]
  rfl

theorem map_id (h : Heights ℚ) : h.map id = h := by
  unfold map
  rw [Vector.map_id, Vector.map_id]

/-- The height over a position, by the square it is in. -/
def heightAt (h : Heights ℚ) (x y : ℚ) : ℚ :=
  (Fan.square h.corner h.centre (squareOf x) (squareOf y)).height (partOf x) (partOf y)

theorem onSurface_iff (h : Heights ℚ) {gx gy : Nat} {x y : ℚ} (hx : InGrid gx x) (hy : InGrid gy y) (z : ℚ) :
    Fan.OnSurface 128 h.corner h.centre (inGrid gx x) (inGrid gy y) z ↔ z = h.heightAt x y := by
  unfold heightAt
  rw [squareOf_eq hx, squareOf_eq hy, partOf_eq hx, partOf_eq hy]
  exact Fan.onSurface_iff (inGrid_nonneg hx) (inGrid_lt hx) (inGrid_nonneg hy) (inGrid_lt hy) z

end Heights

/-! ## What the readers return -/

variable {y : ℚ}

theorem getHeightFromFloat_eq (heights : Heights ℚ) (hx : squareOf x < 128) (hy : squareOf y < 128) :
    getHeightFromFloat heights x y = some (heights.heightAt x y) := by
  unfold getHeightFromFloat Heights.heightAt
  generalize squareOf x = i at *
  generalize squareOf y = j at *
  obtain ⟨v1, h1, e1⟩ := heights.exists_corner id i j (i * 129 + j) (by omega) (by omega) rfl
  obtain ⟨v2, h2, e2⟩ := heights.exists_corner id (i + 1) j ((i + 1) * 129 + j) (by omega) (by omega) rfl
  obtain ⟨v3, h3, e3⟩ := heights.exists_corner id i (j + 1) (i * 129 + j + 1) (by omega) (by omega) rfl
  obtain ⟨v4, h4, e4⟩ := heights.exists_corner id (i + 1) (j + 1) ((i + 1) * 129 + j + 1) (by omega) (by omega) rfl
  obtain ⟨v5, h5, e5⟩ := heights.exists_centre id hx hy
  rw [Heights.map_id] at e1 e2 e3 e4 e5
  unfold Fan.Square.height Fan.square
  simp only [h1, h2, h3, h4, h5, e1, e2, e3, e4, e5, Option.map_some, Option.bind_eq_bind, Option.bind_some, id]
  split <;> split <;> simp only [Option.bind_some, Option.some.injEq] <;> ring

theorem getHeightFromSteps_eq {α : Type} (step : α → Int) (m : GridMap) (heights : Heights α) (hx : squareOf x < 128)
    (hy : squareOf y < 128) :
    getHeightFromSteps step m heights x y =
      some ((heights.map fun v => step v * m.gridIntHeightMultiplier + m.gridHeight).heightAt x y) := by
  unfold getHeightFromSteps Heights.heightAt
  generalize squareOf x = i at *
  generalize squareOf y = j at *
  set f : α → ℚ := fun v => step v * m.gridIntHeightMultiplier + m.gridHeight with hf
  obtain ⟨v1, h1, e1⟩ := heights.exists_corner f i j (i * 128 + i + j) (by omega) (by omega) (by omega)
  obtain ⟨v2, h2, e2⟩ := heights.exists_corner f (i + 1) j (i * 128 + i + j + 129) (by omega) (by omega) (by omega)
  obtain ⟨v3, h3, e3⟩ := heights.exists_corner f i (j + 1) (i * 128 + i + j + 1) (by omega) (by omega) (by omega)
  obtain ⟨v4, h4, e4⟩ :=
    heights.exists_corner f (i + 1) (j + 1) (i * 128 + i + j + 130) (by omega) (by omega) (by omega)
  obtain ⟨v5, h5, e5⟩ := heights.exists_centre f hx hy
  have hsquare : Fan.square (heights.map f).corner (heights.map f).centre i j =
      ⟨f v1, f v2, f v3, f v4, f v5⟩ := by
    unfold Fan.square
    rw [e1, e2, e3, e4, e5]
  rw [hsquare, hf, Fan.Square.height_affine ⟨(step v1 : ℚ), step v2, step v3, step v4, step v5⟩]
  unfold Fan.Square.height
  simp only [h1, h2, h3, h4, h5, Option.map_some, Option.bind_eq_bind, Option.bind_some]
  split <;> split <;> simp only [Option.bind_some, Option.some.injEq] <;> push_cast <;> ring

/-! ## The readers agree -/

/-- The height a step stands for: the step is `(h - gridHeight) / multiplier` for it. -/
def GridMap.heightOf (m : GridMap) (step : Nat) : ℚ := step * m.gridIntHeightMultiplier + m.gridHeight

/-- A map whose arrays store these heights, in any form. -/
def GridMap.Stores (m : GridMap) (heights : Heights ℚ) : Prop :=
  match m.form with
  | .flat => False
  | .float stored => stored = heights
  | .uint8 steps => steps.map (fun v => m.heightOf v.toNat) = heights
  | .uint16 steps => steps.map (fun v => m.heightOf v.toNat) = heights

theorem getHeight_stored {m : GridMap} {heights : Heights ℚ} (h : m.Stores heights) (hx : squareOf x < 128)
    (hy : squareOf y < 128) : getHeight m x y = some (heights.heightAt x y) := by
  obtain ⟨gridHeight, multiplier, form⟩ := m
  cases form with
  | flat => exact h.elim
  | float stored =>
    obtain rfl : stored = heights := h
    exact getHeightFromFloat_eq stored hx hy
  | uint8 steps =>
    rw [← (show steps.map _ = heights from h)]
    exact getHeightFromSteps_eq (fun v : UInt8 => (v.toNat : Int)) ⟨gridHeight, multiplier, .uint8 steps⟩ steps hx hy
  | uint16 steps =>
    rw [← (show steps.map _ = heights from h)]
    exact getHeightFromSteps_eq (fun v : UInt16 => (v.toNat : Int)) ⟨gridHeight, multiplier, .uint16 steps⟩ steps hx hy

theorem exists_stores (m : GridMap) (hm : m.form ≠ .flat) : ∃ heights, m.Stores heights := by
  obtain ⟨gridHeight, multiplier, form⟩ := m
  cases form with
  | flat => exact absurd rfl hm
  | float stored => exact ⟨stored, rfl⟩
  | uint8 steps => exact ⟨_, rfl⟩
  | uint16 steps => exact ⟨_, rfl⟩

theorem getHeight_isSome (m : GridMap) (hx : squareOf x < 128) (hy : squareOf y < 128) :
    (getHeight m x y).isSome = true := by
  by_cases hm : m.form = .flat
  · unfold getHeight
    rw [hm]
    rfl
  · obtain ⟨heights, hstores⟩ := exists_stores m hm
    rw [getHeight_stored hstores hx hy]
    rfl

/-- **The height of a position** inside a grid.  Every map is read within its arrays; a map that stores
some heights, in any of the three forms, returns the one height the surface has over the position,
whichever triangle of whichever square one takes for it, and so all these maps return the same. -/
theorem getHeight_surface {gx gy : Nat} {x y : ℚ} (hx : InGrid gx x) (hy : InGrid gy y) :
    (∀ m : GridMap, (getHeight m x y).isSome = true) ∧
      ∀ heights : Heights ℚ, ∃ z,
        (∀ m : GridMap, m.Stores heights → getHeight m x y = some z) ∧
          ∀ z', Fan.OnSurface 128 heights.corner heights.centre (inGrid gx x) (inGrid gy y) z' ↔ z' = z :=
  ⟨fun m => getHeight_isSome m (squareOf_lt hx) (squareOf_lt hy), fun heights =>
    ⟨heights.heightAt x y, fun _ hm => getHeight_stored hm (squareOf_lt hx) (squareOf_lt hy),
      heights.onSurface_iff hx hy⟩⟩

theorem getHeight_surface_origin :
    (∀ m : GridMap, (getHeight m 0 (-100)).isSome = true) ∧
      ∀ heights : Heights ℚ, ∃ z,
        (∀ m : GridMap, m.Stores heights → getHeight m 0 (-100) = some z) ∧
          ∀ z', Fan.OnSurface 128 heights.corner heights.centre (inGrid 32 0) (inGrid 32 (-100)) z' ↔ z' = z := by
  refine getHeight_surface ⟨?_, ?_⟩ ⟨?_, ?_⟩ <;> unfold sizeOfGrids <;> norm_num

end BlizzLike.GridHeights
