import BlizzLikeCore.Item
import BlizzLikeCore.Maps.CreatureMoves
import Mathlib.Algebra.Order.Floor.Ring
import Mathlib.Data.Rat.Floor
import Mathlib.Tactic.Linarith
import Mathlib.Tactic.Positivity

/-!
# Which cells are visited

`Cell::Visit` with a radius visits the cells around a position.  How many there are to each side is computed from
the distances to the borders of the cell where the position is; the range is clipped at the borders of the map, and
when it is wide an octagon is visited, without the cells at the corners.  Some of these may be in reach
(`covers_iff`).  Coordinates are exact here.

    mem_range_of_near : the range has every cell in reach
    visitCircle_spec  : what an octagon is without
-/

namespace BlizzLike.CellVisits

open CreatureCells

/-! ## Sizes -/

def totalNumberOfCellsPerMap : Nat := 512

def centerGridCellId : Nat := 256

def sizeOfGridCell : ℚ := 53333333 / 100000 / 8

def centerGridCellOffset : ℚ := sizeOfGridCell / 2

/-! ## The range -/

/-- `ComputeCellPair`, for positions inside the map. -/
def computeCellPair (x y : ℚ) : CellPair where
  x_coord := ⌊(x - centerGridCellOffset) / sizeOfGridCell + centerGridCellId + 1 / 2⌋.toNat
  y_coord := ⌊(y - centerGridCellOffset) / sizeOfGridCell + centerGridCellId + 1 / 2⌋.toNat

structure CellArea where
  right : Nat
  left : Nat
  upper : Nat
  lower : Nat
  deriving DecidableEq

def cellHelper (radius : ℚ) : Nat := if radius < 1 then 0 else ⌈radius / sizeOfGridCell⌉.toNat

/-- `x_off` or `y_off` of `CalculateCellArea`. -/
def offsetIn (x : ℚ) : ℚ :=
  let offset := (x - centerGridCellOffset) / sizeOfGridCell
  let val := ⌊offset + centerGridCellId + 1 / 2⌋
  (offset - val + centerGridCellId) * sizeOfGridCell

def calculateCellArea (x y radius : ℚ) : CellArea :=
  if radius ≤ 0 then ⟨0, 0, 0, 0⟩
  else
    let diff := radius - centerGridCellOffset
    ⟨cellHelper (diff + offsetIn x), cellHelper (diff - offsetIn x), cellHelper (diff + offsetIn y),
      cellHelper (diff - offsetIn y)⟩

/-- `<<` and `-=`. -/
def lowered (coord val : Nat) : Nat := if coord > val then coord - val else 0

/-- `>>` and `+=`. -/
def raised (coord val : Nat) : Nat :=
  if coord + val < totalNumberOfCellsPerMap then coord + val else totalNumberOfCellsPerMap - 1

def CellArea.resizeBorders (area : CellArea) (standing : CellPair) : CellPair × CellPair :=
  (⟨lowered standing.x_coord area.left, lowered standing.y_coord area.lower⟩,
    ⟨raised standing.x_coord area.right, raised standing.y_coord area.upper⟩)

/-! ## Loops over `uint32` -/

/-- `for (x = first; x <= last; ++x)`, with at most `fuel` tests. -/
def upFrom : Nat → Nat → Nat → Option (List Nat)
  | 0, _, _ => none
  | fuel + 1, x, last => if x ≤ last then (upFrom fuel (u32 (x + 1)) last).map (x :: ·) else some []

/-- `for (y = first; y >= last; --y)`. -/
def downFrom : Nat → Nat → Nat → Option (List Nat)
  | 0, _, _ => none
  | fuel + 1, y, last => if y ≥ last then (downFrom fuel (sub32 y 1) last).map (y :: ·) else some []

/-- What is visited in one column after the other. -/
def overColumns (visit : Nat → Option (List CellPair)) : List Nat → Option (List CellPair)
  | [] => some []
  | x :: xs => (visit x).bind fun cells => (overColumns visit xs).map (cells ++ ·)

/-- The loops over a range. -/
def visitRange (fuel x0 x1 y0 y1 : Nat) : Option (List CellPair) :=
  (upFrom fuel x0 x1).bind (overColumns fun x => (upFrom fuel y0 y1).map (·.map fun y => ⟨x, y⟩))

/-! ## Visits -/

def xShift (d : Nat) : Nat := ⌈(d : ℚ) * (3 / 10) - 1 / 2⌉.toNat

/-- The steps at both sides of the octagon. -/
def visitSides (fuel xStart xEnd : Nat) : List Nat → Nat → Nat → Option (List CellPair)
  | [], _, _ => some []
  | step :: steps, yStart, yEnd =>
    let yEnd := u32 (yEnd + 1)
    let yStart := sub32 yStart 1
    (downFrom fuel yStart yEnd).bind fun ys =>
      (visitSides fuel xStart xEnd steps yStart yEnd).map
        ((ys.flatMap fun y => [⟨sub32 xStart step, y⟩, ⟨u32 (xEnd + step), y⟩]) ++ ·)

def visitCircle (fuel : Nat) (first last : CellPair) : Option (List CellPair) :=
  let shift := xShift (sub32 last.x_coord first.x_coord)
  let xStart := u32 (first.x_coord + shift)
  let xEnd := sub32 last.x_coord shift
  (visitRange fuel xStart xEnd first.y_coord last.y_coord).bind fun strip =>
    if shift = 0 then some strip
    else (upFrom fuel 1 (sub32 xStart first.x_coord)).bind fun steps =>
      (visitSides fuel xStart xEnd steps last.y_coord first.y_coord).map (strip ++ ·)

/-- The range is so wide that an octagon is visited. -/
def isWide (first last : CellPair) : Bool :=
  decide (sub32 last.x_coord first.x_coord > 4 ∧ sub32 last.y_coord first.y_coord > 4)

/-- `Visit` of the standing cell, with a radius. -/
def visit (fuel : Nat) (standing : CellPair) (radius x y : ℚ) : Option (List CellPair) :=
  if standing.x_coord ≥ totalNumberOfCellsPerMap ∨ standing.y_coord ≥ totalNumberOfCellsPerMap then some []
  else if radius ≤ 0 then some [standing]
  else
    let area := calculateCellArea x y (if radius > 333 then 333 else radius)
    if area = ⟨0, 0, 0, 0⟩ then some [standing]
    else
      let borders := area.resizeBorders standing
      if isWide borders.1 borders.2 then visitCircle fuel borders.1 borders.2
      else (visitRange fuel borders.1.x_coord borders.2.x_coord borders.1.y_coord borders.2.y_coord).map
        fun cells => standing :: cells.filter fun cell => cell ≠ standing

/-! ## What should be visited -/

/-- The first coordinate of a column or row of cells. -/
def borderOf (k : Nat) : ℚ := ((k : ℚ) - centerGridCellId) * sizeOfGridCell

/-- A coordinate inside the map. -/
def InMap (x : ℚ) : Prop := borderOf 0 ≤ x ∧ x < borderOf totalNumberOfCellsPerMap

/-- A cell has a point at a distance less than `d`. -/
def Near (x y d : ℚ) (cell : CellPair) : Prop :=
  ∃ px py, (borderOf cell.x_coord ≤ px ∧ px < borderOf (cell.x_coord + 1)) ∧
    (borderOf cell.y_coord ≤ py ∧ py < borderOf (cell.y_coord + 1)) ∧ (px - x) ^ 2 + (py - y) ^ 2 < d ^ 2

/-- **The law** for a visit: it comes to an end, and visits no cell twice and every cell in reach. -/
def Covers (x y r : ℚ) : Prop :=
  ∃ turns cells, (∀ fuel ≥ turns, visit fuel (computeCellPair x y) r x y = some cells) ∧ cells.Nodup ∧
    ∀ cell : CellPair, cell.inside = true → Near x y (r - 1) cell → cell ∈ cells

/-- How far a coordinate is from a column or row. -/
def axisDist (k : Nat) (x : ℚ) : ℚ := max 0 (max (borderOf k - x) (x - borderOf (k + 1)))

/-- The borders of the range around a position. -/
def bordersOf (x y r : ℚ) : CellPair × CellPair := (calculateCellArea x y r).resizeBorders (computeCellPair x y)

/-- A column and a row are too far away together. -/
def OutOfReach (x y r : ℚ) (a b : Nat) : Prop := (r - 1) ^ 2 ≤ axisDist a x ^ 2 + axisDist b y ^ 2

/-- **The condition**: no octagon is visited, or the cells that are cut off at its corners, those `i` columns and `j`
rows from a corner of the range with `i + j < x_shift`, are all out of reach. -/
def CornersFar (x y r : ℚ) : Prop :=
  let first := (bordersOf x y r).1
  let last := (bordersOf x y r).2
  isWide first last = true → ∀ i j, i + j < xShift (last.x_coord - first.x_coord) →
    OutOfReach x y r (first.x_coord + i) (first.y_coord + j) ∧ OutOfReach x y r (first.x_coord + i) (last.y_coord - j) ∧
      OutOfReach x y r (last.x_coord - i) (first.y_coord + j) ∧ OutOfReach x y r (last.x_coord - i) (last.y_coord - j)

/-! ## The loops -/

theorem upFrom_eq {fuel x last : Nat} (hlast : last + 1 < 4294967296) (hx : x ≤ last + 1) (hfuel : last + 1 - x < fuel) :
    upFrom fuel x last = some (List.range' x (last + 1 - x)) := by
  induction fuel generalizing x with
  | zero => omega
  | succ fuel ih =>
    unfold upFrom
    split
    · next hle =>
      rw [u32_eq _ (by omega), ih (by omega) (by omega), show last + 1 - x = (last + 1 - (x + 1)) + 1 by omega,
        List.range'_succ]
      rfl
    · rw [show last + 1 - x = 0 by omega]
      rfl

theorem downFrom_eq {fuel y last : Nat} (hlast : 0 < last) (hfuel : y + 1 - last < fuel) :
    downFrom fuel y last = some (List.range' last (y + 1 - last)).reverse := by
  induction fuel generalizing y with
  | zero => omega
  | succ fuel ih =>
    unfold downFrom
    split
    · next hge =>
      rw [sub32_eq y 1 (by omega), ih (by omega), show y + 1 - last = (y - 1 + 1 - last) + 1 by omega,
        List.range'_concat, List.reverse_append, Option.map_some, Nat.one_mul,
        show last + (y - 1 + 1 - last) = y by omega]
      rfl
    · rw [show y + 1 - last = 0 by omega]
      rfl

theorem overColumns_eq {f : Nat → Option (List CellPair)} {g : Nat → List CellPair} {xs : List Nat}
    (h : ∀ x ∈ xs, f x = some (g x)) : overColumns f xs = some (xs.flatMap g) := by
  induction xs with
  | nil => rfl
  | cons x xs ih =>
    unfold overColumns
    rw [h x List.mem_cons_self, ih fun x' hx' => h x' (List.mem_cons_of_mem x hx'), List.flatMap_cons]
    rfl

/-- The cells of a range. -/
def cellsOf (x0 x1 y0 y1 : Nat) : List CellPair :=
  (List.range' x0 (x1 + 1 - x0)).flatMap fun x => (List.range' y0 (y1 + 1 - y0)).map fun y => ⟨x, y⟩

theorem visitRange_eq {fuel x0 x1 y0 y1 : Nat} (hx : x0 ≤ x1 + 1) (hy : y0 ≤ y1 + 1) (hx1 : x1 < 512) (hy1 : y1 < 512)
    (hfuel : 513 < fuel) : visitRange fuel x0 x1 y0 y1 = some (cellsOf x0 x1 y0 y1) := by
  unfold visitRange
  rw [upFrom_eq (by omega) hx (by omega), upFrom_eq (by omega) hy (by omega)]
  exact overColumns_eq fun x _ => rfl

theorem mem_cellsOf {x0 x1 y0 y1 : Nat} {cell : CellPair} : cell ∈ cellsOf x0 x1 y0 y1 ↔
    (x0 ≤ cell.x_coord ∧ cell.x_coord ≤ x1) ∧ y0 ≤ cell.y_coord ∧ cell.y_coord ≤ y1 := by
  unfold cellsOf
  rw [List.mem_flatMap]
  constructor
  · rintro ⟨x, hx, hcell⟩
    obtain ⟨y, hy, rfl⟩ := List.mem_map.1 hcell
    rw [List.mem_range'_1] at hx hy
    dsimp only
    omega
  · rintro ⟨hx, hy⟩
    exact ⟨cell.x_coord, List.mem_range'_1.2 (by omega), List.mem_map.2 ⟨cell.y_coord, List.mem_range'_1.2 (by omega), rfl⟩⟩

theorem nodup_columns (place : CellPair → Nat) {xs : List Nat} (hxs : xs.Nodup) {f : Nat → List CellPair}
    (hf : ∀ x ∈ xs, (f x).Nodup) (hplace : ∀ x ∈ xs, ∀ cell ∈ f x, place cell = x) : (xs.flatMap f).Nodup := by
  rw [List.nodup_flatMap]
  refine ⟨hf, hxs.imp_of_mem fun {a b} ha hb hne => ?_⟩
  exact fun cell hca hcb => hne ((hplace a ha cell hca).symm.trans (hplace b hb cell hcb))

theorem nodup_cellsOf (x0 x1 y0 y1 : Nat) : (cellsOf x0 x1 y0 y1).Nodup := by
  refine nodup_columns CellPair.x_coord List.nodup_range' (fun x _ => ?_) fun x _ cell hcell => ?_
  · refine List.Nodup.map (fun a b h => ?_) List.nodup_range'
    exact (CellPair.mk.inj h).2
  · obtain ⟨y, -, rfl⟩ := List.mem_map.1 hcell
    rfl

/-! ## The octagon -/

/-- A row at both sides, and the rows of a step. -/
def sideRow (xStart xEnd step y : Nat) : List CellPair := [⟨xStart - step, y⟩, ⟨xEnd + step, y⟩]

def sideStep (xStart xEnd y0 y1 step : Nat) : List CellPair :=
  (List.range' (y0 + step) (y1 - step + 1 - (y0 + step))).reverse.flatMap (sideRow xStart xEnd step)

def sidesOf (xStart xEnd y0 y1 n : Nat) : List CellPair := (List.range' 1 n).flatMap (sideStep xStart xEnd y0 y1)

theorem visitSides_eq {fuel xStart xEnd y0 y1 : Nat} (hfuel : 513 < fuel) (hx : xEnd < 512) (hy : y1 < 512)
    (hy0 : y0 < 512) (n k : Nat) (hk : 0 < k) (hky : k + n ≤ y1 + 1) (hkx : k + n ≤ xStart + 1) :
    visitSides fuel xStart xEnd (List.range' k n) (y1 - (k - 1)) (y0 + (k - 1)) =
      some ((List.range' k n).flatMap (sideStep xStart xEnd y0 y1)) := by
  induction n generalizing k with
  | zero => rfl
  | succ n ih =>
    have hstart : sub32 (y1 - (k - 1)) 1 = y1 - k := by
      rw [sub32_eq _ _ (by omega)]
      omega
    have hend : u32 (y0 + (k - 1) + 1) = y0 + k := by
      rw [u32_eq _ (by omega)]
      omega
    have hnext := ih (k + 1) (by omega) (by omega) (by omega)
    rw [Nat.add_sub_cancel] at hnext
    rw [List.range'_succ, List.flatMap_cons]
    unfold visitSides
    dsimp only
    rw [hstart, hend, downFrom_eq (by omega) (by omega), Option.bind_some, hnext, Option.map_some,
      sub32_eq xStart k (by omega), u32_eq (xEnd + k) (by omega)]
    rfl

theorem mem_sidesOf {xStart xEnd y0 y1 n : Nat} (hn : n ≤ xStart) {cell : CellPair} :
    cell ∈ sidesOf xStart xEnd y0 y1 n ↔ ∃ step, (1 ≤ step ∧ step ≤ n) ∧
      (y0 + step ≤ cell.y_coord ∧ cell.y_coord + step ≤ y1) ∧
      (cell.x_coord + step = xStart ∨ cell.x_coord = xEnd + step) := by
  obtain ⟨x, y⟩ := cell
  simp only [sidesOf, sideStep, sideRow, List.mem_flatMap, List.mem_range'_1, List.mem_reverse, List.mem_cons,
    CellPair.mk.injEq, List.not_mem_nil, or_false]
  constructor
  · rintro ⟨step, hstep, y', hy', ⟨rfl, rfl⟩ | ⟨rfl, rfl⟩⟩
    · exact ⟨step, by omega, by omega, .inl (by omega)⟩
    · exact ⟨step, by omega, by omega, .inr rfl⟩
  · rintro ⟨step, hstep, hy, hx⟩
    refine ⟨step, by omega, y, by omega, ?_⟩
    rcases hx with hx | hx
    · exact .inl ⟨by omega, rfl⟩
    · exact .inr ⟨hx, rfl⟩

theorem nodup_sidesOf {xStart xEnd y0 y1 n : Nat} (hn : n ≤ xStart) (hx : xStart ≤ xEnd + 1) :
    (sidesOf xStart xEnd y0 y1 n).Nodup := by
  -- of a cell at either side, its distance from the strip tells the step
  refine nodup_columns
    (fun cell => if cell.x_coord < xStart then xStart - cell.x_coord else cell.x_coord - xEnd)
    List.nodup_range' (fun step hstep => ?_) fun step hstep cell hcell => ?_
  · rw [List.mem_range'_1] at hstep
    refine nodup_columns CellPair.y_coord (List.nodup_reverse.2 List.nodup_range') (fun y _ => ?_)
      fun y _ cell hcell => ?_
    · simp only [sideRow, List.nodup_cons, List.mem_singleton, CellPair.mk.injEq, List.not_mem_nil, not_false_eq_true,
        List.nodup_nil, and_true]
      omega
    · simp only [sideRow, List.mem_cons, List.not_mem_nil, or_false] at hcell
      rcases hcell with rfl | rfl <;> rfl
  · rw [List.mem_range'_1] at hstep
    obtain ⟨y, -, hcell⟩ := List.mem_flatMap.1 hcell
    simp only [sideRow, List.mem_cons, List.not_mem_nil, or_false] at hcell
    rcases hcell with rfl | rfl
    · dsimp only
      rw [if_pos (by omega)]
      omega
    · dsimp only
      rw [if_neg (by omega)]
      omega

theorem xShift_bounds {d : Nat} (hd : 4 < d) : 0 < xShift d ∧ 2 * xShift d ≤ d := by
  have hq : (5 : ℚ) ≤ d := by exact_mod_cast hd
  unfold xShift
  constructor
  · rw [Int.lt_toNat, Int.lt_ceil]
    push_cast
    linarith
  · have hceil : ⌈(d : ℚ) * (3 / 10) - 1 / 2⌉ ≤ ((d / 2 : Nat) : Int) := by
      rw [Int.ceil_le, Int.cast_natCast]
      have hhalf : (d : ℚ) ≤ 2 * ((d / 2 : Nat) : ℚ) + 1 := by exact_mod_cast (by omega : d ≤ 2 * (d / 2) + 1)
      linarith
    omega

theorem xShift_le {d : Nat} (hd : d ≤ 10) : xShift d ≤ 3 := by
  have hq : (d : ℚ) ≤ 10 := by exact_mod_cast hd
  have hceil : ⌈(d : ℚ) * (3 / 10) - 1 / 2⌉ ≤ 3 := by
    rw [Int.ceil_le]
    push_cast
    linarith
  unfold xShift
  omega

/-- **An octagon** is visited in finitely many turns, no cell twice, and is without those at the corners. -/
theorem visitCircle_spec {first last : CellPair} (hwide : isWide first last = true) (hx : last.x_coord < 512)
    (hy : last.y_coord < 512) (hxle : first.x_coord ≤ last.x_coord) (hyle : first.y_coord ≤ last.y_coord)
    (hten : last.x_coord - first.x_coord ≤ 10) :
    ∃ cells, (∀ fuel ≥ 514, visitCircle fuel first last = some cells) ∧ cells.Nodup ∧
      ∀ cell, cell ∈ cells ↔ cell ∈ cellsOf first.x_coord last.x_coord first.y_coord last.y_coord ∧
        ∀ i j, i + j < xShift (last.x_coord - first.x_coord) →
          ¬((cell.x_coord = first.x_coord + i ∨ cell.x_coord + i = last.x_coord) ∧
            (cell.y_coord = first.y_coord + j ∨ cell.y_coord + j = last.y_coord)) := by
  simp only [isWide, decide_eq_true_eq] at hwide
  rw [sub32_eq _ _ hxle, sub32_eq _ _ hyle] at hwide
  obtain ⟨hpos, hhalf⟩ := xShift_bounds hwide.1
  have hthree := xShift_le hten
  generalize hd : xShift (last.x_coord - first.x_coord) = d at *
  refine ⟨cellsOf (first.x_coord + d) (last.x_coord - d) first.y_coord last.y_coord ++
    sidesOf (first.x_coord + d) (last.x_coord - d) first.y_coord last.y_coord d, fun fuel hfuel => ?_, ?_, fun cell => ?_⟩
  · unfold visitCircle
    rw [sub32_eq _ _ hxle, hd]
    dsimp only
    rw [u32_eq _ (by omega), sub32_eq last.x_coord d (by omega), visitRange_eq (by omega) (by omega) (by omega) hy
      (by omega), Option.bind_some, if_neg (by omega), sub32_eq _ _ (by omega), Nat.add_sub_cancel_left,
      upFrom_eq (by omega) (by omega) (by omega), Option.bind_some, Nat.add_sub_cancel]
    have hsides := @visitSides_eq fuel (first.x_coord + d) (last.x_coord - d) first.y_coord last.y_coord
      (by omega) (by omega) hy (by omega) d 1 Nat.one_pos (by omega) (by omega)
    rw [Nat.sub_self, Nat.sub_zero, Nat.add_zero] at hsides
    rw [hsides]
    rfl
  · rw [List.nodup_append']
    refine ⟨nodup_cellsOf .., nodup_sidesOf (by omega) (by omega), fun cell hstrip hside => ?_⟩
    rw [mem_cellsOf] at hstrip
    obtain ⟨step, hstep, -, hcol⟩ := (mem_sidesOf (by omega)).1 hside
    omega
  · rw [List.mem_append, mem_cellsOf, mem_cellsOf, mem_sidesOf (by omega)]
    constructor
    · rintro (⟨hcol, hrow⟩ | ⟨step, hstep, hrow, hcol⟩)
      · exact ⟨by omega, fun i j hij => by omega⟩
      · exact ⟨by omega, fun i j hij => by omega⟩
    · rintro ⟨⟨hcol, hrow⟩, hcut⟩
      by_cases hleft : cell.x_coord < first.x_coord + d
      · have hlow := hcut (cell.x_coord - first.x_coord) (cell.y_coord - first.y_coord)
        have hhigh := hcut (cell.x_coord - first.x_coord) (last.y_coord - cell.y_coord)
        exact .inr ⟨first.x_coord + d - cell.x_coord, by omega, by omega, by omega⟩
      · by_cases hright : last.x_coord - d < cell.x_coord
        · have hlow := hcut (last.x_coord - cell.x_coord) (cell.y_coord - first.y_coord)
          have hhigh := hcut (last.x_coord - cell.x_coord) (last.y_coord - cell.y_coord)
          exact .inr ⟨cell.x_coord - (last.x_coord - d), by omega, by omega, by omega⟩
        · exact .inl ⟨by omega, hrow⟩

/-! ## Distances -/

variable {x y r : ℚ}

theorem size_pos : 0 < sizeOfGridCell := by
  unfold sizeOfGridCell
  norm_num

theorem five_cells : (333 : ℚ) ≤ 5 * sizeOfGridCell := by
  unfold sizeOfGridCell
  norm_num

theorem borderOf_add (k n : Nat) : borderOf (k + n) = borderOf k + n * sizeOfGridCell := by
  unfold borderOf
  push_cast
  ring

theorem borderOf_succ (k : Nat) : borderOf (k + 1) = borderOf k + sizeOfGridCell := by
  rw [borderOf_add, Nat.cast_one, one_mul]

theorem axisDist_nonneg (k : Nat) (x : ℚ) : 0 ≤ axisDist k x := le_max_left _ _

theorem axisDist_sq_le {k : Nat} {p : ℚ} (h : borderOf k ≤ p ∧ p < borderOf (k + 1)) :
    axisDist k x ^ 2 ≤ (p - x) ^ 2 := by
  rw [sq_le_sq, abs_of_nonneg (axisDist_nonneg k x)]
  refine max_le (abs_nonneg _) (max_le ?_ ?_)
  · exact le_trans (by linarith [h.1]) (le_abs_self (p - x))
  · exact le_trans (by linarith [h.2]) (neg_le_abs (p - x))

theorem exists_axis_point (k : Nat) (x : ℚ) {ε : ℚ} (hε : 0 < ε) (hsize : ε < sizeOfGridCell) :
    ∃ p, (borderOf k ≤ p ∧ p < borderOf (k + 1)) ∧ (p - x) ^ 2 ≤ (axisDist k x + ε) ^ 2 := by
  have hnonneg := axisDist_nonneg k x
  have hsucc := borderOf_succ k
  by_cases hbelow : x < borderOf k
  · refine ⟨borderOf k, ⟨le_refl _, by linarith⟩, ?_⟩
    have hle : borderOf k - x ≤ axisDist k x := (le_max_left _ _).trans (le_max_right _ _)
    rw [sq_le_sq, abs_of_pos (by linarith), abs_of_pos (by linarith)]
    linarith
  · by_cases habove : x < borderOf (k + 1)
    · refine ⟨x, ⟨not_lt.1 hbelow, habove⟩, ?_⟩
      rw [sub_self]
      positivity
    · refine ⟨borderOf (k + 1) - ε, ⟨by linarith, by linarith⟩, ?_⟩
      have hle : x - borderOf (k + 1) ≤ axisDist k x := (le_max_right _ _).trans (le_max_right _ _)
      rw [sq_le_sq, abs_of_neg (by linarith [not_lt.1 habove]), abs_of_pos (by linarith)]
      linarith

theorem exists_small {total room size : ℚ} (htotal : 0 ≤ total) (hroom : 0 < room) (hsize : 0 < size) :
    ∃ ε, 0 < ε ∧ ε < size ∧ ε ≤ 1 ∧ 2 * ε * (total + 1) < room := by
  have hpos : 0 < 4 * (total + 1) := by linarith
  refine ⟨min (size / 2) (min 1 (room / (4 * (total + 1)))), ?_, ?_, ?_, ?_⟩
  · exact lt_min (by linarith) (lt_min one_pos (div_pos hroom hpos))
  · exact (min_le_left _ _).trans_lt (by linarith)
  · exact (min_le_right _ _).trans (min_le_left _ _)
  · have hle : min (size / 2) (min 1 (room / (4 * (total + 1)))) ≤ room / (4 * (total + 1)) :=
      (min_le_right _ _).trans (min_le_right _ _)
    rw [le_div_iff₀ hpos] at hle
    linarith

/-- **A cell is in reach** just if its column and row are not too far together. -/
theorem near_iff {d : ℚ} {cell : CellPair} :
    Near x y d cell ↔ axisDist cell.x_coord x ^ 2 + axisDist cell.y_coord y ^ 2 < d ^ 2 := by
  constructor
  · rintro ⟨px, py, hpx, hpy, hlt⟩
    have hax := axisDist_sq_le (x := x) hpx
    have hay := axisDist_sq_le (x := y) hpy
    linarith
  · intro hlt
    have hax := axisDist_nonneg cell.x_coord x
    have hay := axisDist_nonneg cell.y_coord y
    obtain ⟨ε, hε, hsize, hone, hroom⟩ := exists_small (add_nonneg hax hay) (sub_pos.2 hlt) size_pos
    obtain ⟨px, hpx, hx⟩ := exists_axis_point cell.x_coord x hε hsize
    obtain ⟨py, hpy, hy⟩ := exists_axis_point cell.y_coord y hε hsize
    have hsq : ε ^ 2 ≤ ε := by
      rw [sq]
      exact mul_le_of_le_one_right hε.le hone
    refine ⟨px, py, hpx, hpy, ?_⟩
    calc (px - x) ^ 2 + (py - y) ^ 2
        ≤ (axisDist cell.x_coord x + ε) ^ 2 + (axisDist cell.y_coord y + ε) ^ 2 := add_le_add hx hy
      _ = axisDist cell.x_coord x ^ 2 + axisDist cell.y_coord y ^ 2 +
            (2 * ε * (axisDist cell.x_coord x + axisDist cell.y_coord y) + 2 * ε ^ 2) := by ring
      _ < d ^ 2 := by linarith

theorem axisDist_lt {a b : Nat} {d : ℚ} (hd : 0 < d) (h : axisDist a x ^ 2 + axisDist b y ^ 2 < d ^ 2) :
    axisDist a x < d ∧ axisDist b y < d := by
  have ha := sq_nonneg (axisDist a x)
  have hb := sq_nonneg (axisDist b y)
  exact ⟨lt_of_pow_lt_pow_left₀ 2 hd.le (by linarith), lt_of_pow_lt_pow_left₀ 2 hd.le (by linarith)⟩

/-! ## The range -/

/-- The column of a coordinate, as `ComputeCellPair` finds it. -/
def columnOf (x : ℚ) : Nat := ⌊(x - centerGridCellOffset) / sizeOfGridCell + centerGridCellId + 1 / 2⌋.toNat

theorem offset_eq (x : ℚ) : (x - centerGridCellOffset) / sizeOfGridCell = x / sizeOfGridCell - 1 / 2 := by
  rw [sub_div, centerGridCellOffset, div_div, mul_comm, ← div_div, div_self size_pos.ne']

theorem columnOf_spec (hx : InMap x) :
    borderOf (columnOf x) ≤ x ∧ x < borderOf (columnOf x + 1) ∧ columnOf x < 512 ∧
      (⌊(x - centerGridCellOffset) / sizeOfGridCell + centerGridCellId + 1 / 2⌋ : Int) = columnOf x := by
  obtain ⟨hlow, hhigh⟩ := hx
  have hval : (x - centerGridCellOffset) / sizeOfGridCell + centerGridCellId + 1 / 2 = x / sizeOfGridCell + 256 := by
    rw [offset_eq, centerGridCellId]
    push_cast
    ring
  have hsize := size_pos
  unfold borderOf centerGridCellId totalNumberOfCellsPerMap at *
  have hge : -256 ≤ x / sizeOfGridCell := by
    rw [le_div_iff₀ hsize]
    push_cast at hlow
    linarith
  have hlt : x / sizeOfGridCell < 256 := by
    rw [div_lt_iff₀ hsize]
    push_cast at hhigh
    linarith
  have hfloor : (0 : Int) ≤ ⌊x / sizeOfGridCell + 256⌋ := Int.floor_nonneg.2 (by linarith)
  have hcol : ((columnOf x : Nat) : Int) = ⌊x / sizeOfGridCell + 256⌋ := by
    unfold columnOf
    rw [centerGridCellId, hval]
    exact Int.toNat_of_nonneg hfloor
  have hcolq : ((columnOf x : Nat) : ℚ) = ((⌊x / sizeOfGridCell + 256⌋ : Int) : ℚ) := by
    rw [← hcol, Int.cast_natCast]
  have h1 : ((⌊x / sizeOfGridCell + 256⌋ : Int) : ℚ) ≤ x / sizeOfGridCell + 256 := Int.floor_le _
  have h2 : x / sizeOfGridCell + 256 < ((⌊x / sizeOfGridCell + 256⌋ : Int) : ℚ) + 1 := Int.lt_floor_add_one _
  refine ⟨?_, ?_, ?_, ?_⟩
  · rw [hcolq, ← le_div_iff₀ hsize]
    push_cast
    linarith
  · rw [← div_lt_iff₀ hsize]
    push_cast
    rw [hcolq]
    linarith
  · have hint : ⌊x / sizeOfGridCell + 256⌋ < 512 := by
      rw [Int.floor_lt]
      push_cast
      linarith
    omega
  · rw [hval, hcol]

theorem offsetIn_eq (hx : InMap x) : offsetIn x = x - centerGridCellOffset - borderOf (columnOf x) := by
  have hsize := size_pos.ne'
  unfold offsetIn
  dsimp only
  rw [(columnOf_spec hx).2.2.2, borderOf, Int.cast_natCast]
  field_simp
  ring

theorem le_cellHelper {q : ℚ} {n : Nat} (hone : 1 ≤ q) (hn : (n : ℚ) * sizeOfGridCell < q) : n + 1 ≤ cellHelper q := by
  unfold cellHelper
  rw [if_neg (not_lt.2 hone)]
  have hceil : (n : Int) < ⌈q / sizeOfGridCell⌉ := by
    rw [Int.lt_ceil, Int.cast_natCast, lt_div_iff₀ size_pos]
    exact hn
  omega

theorem cellHelper_le {q : ℚ} (hq : q ≤ 333) : cellHelper q ≤ 5 := by
  unfold cellHelper
  split
  · exact Nat.zero_le 5
  · have hceil : ⌈q / sizeOfGridCell⌉ ≤ 5 := by
      rw [Int.ceil_le, div_le_iff₀ size_pos]
      push_cast
      linarith [five_cells]
    omega

/-- The cells to both sides of a coordinate. -/
def leftOf (x r : ℚ) : Nat := cellHelper (r - centerGridCellOffset - offsetIn x)

def rightOf (x r : ℚ) : Nat := cellHelper (r - centerGridCellOffset + offsetIn x)

theorem sides_eq (hx : InMap x) : r - centerGridCellOffset - offsetIn x = r - (x - borderOf (columnOf x)) ∧
    r - centerGridCellOffset + offsetIn x = r - (borderOf (columnOf x + 1) - x) := by
  rw [offsetIn_eq hx, borderOf_succ, centerGridCellOffset]
  constructor
  · ring
  · ring

theorem sides_le (hx : InMap x) (hr : r ≤ 333) : leftOf x r ≤ 5 ∧ rightOf x r ≤ 5 := by
  obtain ⟨hlow, hhigh, -⟩ := columnOf_spec hx
  unfold leftOf rightOf
  rw [(sides_eq hx).1, (sides_eq hx).2]
  exact ⟨cellHelper_le (by linarith), cellHelper_le (by linarith)⟩

/-- **A column in reach** is not farther to a side than the range. -/
theorem column_in_reach (hx : InMap x) {k : Nat} (h : axisDist k x < r - 1) :
    columnOf x ≤ k + leftOf x r ∧ k ≤ columnOf x + rightOf x r := by
  obtain ⟨hlow, hhigh, -⟩ := columnOf_spec hx
  unfold leftOf rightOf
  rw [(sides_eq hx).1, (sides_eq hx).2]
  constructor
  · by_contra hfar
    obtain ⟨n, hn⟩ := Nat.exists_eq_add_of_lt (show k < columnOf x by omega)
    have hdist : x - borderOf (k + 1) < r - 1 := ((le_max_right _ _).trans (le_max_right _ _)).trans_lt h
    have hborder : borderOf (columnOf x) = borderOf (k + 1) + n * sizeOfGridCell := by
      rw [← borderOf_add, hn]
      congr 1
      omega
    have hnonneg : 0 ≤ (n : ℚ) * sizeOfGridCell := mul_nonneg (Nat.cast_nonneg n) size_pos.le
    have hle := le_cellHelper (q := r - (x - borderOf (columnOf x))) (n := n) (by linarith) (by linarith)
    omega
  · by_contra hfar
    obtain ⟨n, hn⟩ := Nat.exists_eq_add_of_lt (show columnOf x < k by omega)
    have hdist : borderOf k - x < r - 1 := ((le_max_left _ _).trans (le_max_right _ _)).trans_lt h
    have hborder : borderOf k = borderOf (columnOf x + 1) + n * sizeOfGridCell := by
      rw [← borderOf_add, hn]
      congr 1
      omega
    have hnonneg : 0 ≤ (n : ℚ) * sizeOfGridCell := mul_nonneg (Nat.cast_nonneg n) size_pos.le
    have hle := le_cellHelper (q := r - (borderOf (columnOf x + 1) - x)) (n := n) (by linarith) (by linarith)
    omega

theorem bordersOf_eq (hr : 0 < r) : bordersOf x y r =
    (⟨lowered (columnOf x) (leftOf x r), lowered (columnOf y) (leftOf y r)⟩,
      ⟨raised (columnOf x) (rightOf x r), raised (columnOf y) (rightOf y r)⟩) := by
  unfold bordersOf calculateCellArea
  rw [if_neg (not_le.2 hr)]
  rfl

theorem range_spec {c l h : Nat} (hc : c < 512) (hl : l ≤ 5) (hh : h ≤ 5) :
    lowered c l ≤ c ∧ c ≤ raised c h ∧ raised c h < 512 ∧ raised c h - lowered c l ≤ 10 ∧
      ∀ k < 512, c ≤ k + l → k ≤ c + h → lowered c l ≤ k ∧ k ≤ raised c h := by
  have hlow : lowered c l = c - l := by
    unfold lowered
    split <;> omega
  have hhigh : raised c h = min (c + h) 511 := by
    unfold raised totalNumberOfCellsPerMap
    split <;> omega
  rw [hlow, hhigh]
  exact ⟨by omega, by omega, by omega, by omega, fun k hk hkl hkh => by omega⟩

/-- **The range** has every cell in reach, and is at most ten cells wide. -/
theorem mem_range_of_near (hx : InMap x) (hy : InMap y) (h1 : 1 < r) (hr : r ≤ 333) :
    let first := (bordersOf x y r).1
    let last := (bordersOf x y r).2
    (first.x_coord ≤ columnOf x ∧ columnOf x ≤ last.x_coord ∧ first.y_coord ≤ columnOf y ∧ columnOf y ≤ last.y_coord) ∧
      (last.x_coord < 512 ∧ last.y_coord < 512 ∧ last.x_coord - first.x_coord ≤ 10) ∧
      ∀ cell : CellPair, cell.inside = true → Near x y (r - 1) cell →
        cell ∈ cellsOf first.x_coord last.x_coord first.y_coord last.y_coord := by
  obtain ⟨-, -, hcx, -⟩ := columnOf_spec hx
  obtain ⟨-, -, hcy, -⟩ := columnOf_spec hy
  obtain ⟨hlx, hrx⟩ := sides_le hx hr
  obtain ⟨hly, hry⟩ := sides_le hy hr
  obtain ⟨hx1, hx2, hx3, hx4, hx5⟩ := range_spec hcx hlx hrx
  obtain ⟨hy1, hy2, hy3, -, hy5⟩ := range_spec hcy hly hry
  rw [bordersOf_eq (by linarith)]
  refine ⟨⟨hx1, hx2, hy1, hy2⟩, ⟨hx3, hy3, hx4⟩, fun cell hin hnear => ?_⟩
  simp only [CellPair.inside, Bool.and_eq_true, decide_eq_true_eq] at hin
  obtain ⟨hnx, hny⟩ := axisDist_lt (by linarith) (near_iff.1 hnear)
  obtain ⟨hkx, hkx'⟩ := column_in_reach hx hnx
  obtain ⟨hky, hky'⟩ := column_in_reach hy hny
  exact mem_cellsOf.2 ⟨hx5 _ hin.1 hkx hkx', hy5 _ hin.2 hky hky'⟩

/-! ## A visit -/

theorem visit_eq (fuel : Nat) (hx : InMap x) (hy : InMap y) (h1 : 1 < r) (hr : r ≤ 333) :
    visit fuel (computeCellPair x y) r x y =
      if calculateCellArea x y r = ⟨0, 0, 0, 0⟩ then some [computeCellPair x y]
      else if isWide (bordersOf x y r).1 (bordersOf x y r).2 then
        visitCircle fuel (bordersOf x y r).1 (bordersOf x y r).2
      else (visitRange fuel (bordersOf x y r).1.x_coord (bordersOf x y r).2.x_coord (bordersOf x y r).1.y_coord
        (bordersOf x y r).2.y_coord).map fun cells =>
          computeCellPair x y :: cells.filter fun cell => cell ≠ computeCellPair x y := by
  have hcx : (computeCellPair x y).x_coord < 512 := (columnOf_spec hx).2.2.1
  have hcy : (computeCellPair x y).y_coord < 512 := (columnOf_spec hy).2.2.1
  unfold visit totalNumberOfCellsPerMap
  rw [if_neg (by omega), if_neg (by linarith), if_neg (show ¬ r > 333 from not_lt.2 hr)]
  rfl

theorem bordersOf_zero (hx : InMap x) (hy : InMap y) (h : calculateCellArea x y r = ⟨0, 0, 0, 0⟩) :
    bordersOf x y r = (computeCellPair x y, computeCellPair x y) := by
  have hzero : ∀ c < 512, lowered c 0 = c ∧ raised c 0 = c := by
    intro c hc
    unfold lowered raised totalNumberOfCellsPerMap
    constructor
    · split <;> omega
    · rw [if_pos (by omega), Nat.add_zero]
  obtain ⟨hxl, hxr⟩ := hzero _ (columnOf_spec hx).2.2.1
  obtain ⟨hyl, hyr⟩ := hzero _ (columnOf_spec hy).2.2.1
  unfold bordersOf CellArea.resizeBorders
  rw [h]
  change ((⟨lowered (columnOf x) 0, lowered (columnOf y) 0⟩ : CellPair),
    (⟨raised (columnOf x) 0, raised (columnOf y) 0⟩ : CellPair)) = _
  rw [hxl, hxr, hyl, hyr]
  rfl

theorem not_isWide_self (cell : CellPair) : isWide cell cell = false := by
  simp [isWide, sub32]

theorem covers_of_narrow (hx : InMap x) (hy : InMap y) (h1 : 1 < r) (hr : r ≤ 333)
    (hnarrow : isWide (bordersOf x y r).1 (bordersOf x y r).2 = false) : Covers x y r := by
  obtain ⟨hstanding, hlast, hmem⟩ := mem_range_of_near hx hy h1 hr
  by_cases hzero : calculateCellArea x y r = ⟨0, 0, 0, 0⟩
  · refine ⟨0, [computeCellPair x y], fun fuel _ => ?_, List.nodup_singleton _, fun cell hin hnear => ?_⟩
    · rw [visit_eq fuel hx hy h1 hr, if_pos hzero]
    · have hcell := mem_cellsOf.1 (hmem cell hin hnear)
      rw [bordersOf_zero hx hy hzero] at hcell
      obtain ⟨a, b⟩ := cell
      obtain rfl := Nat.le_antisymm hcell.1.2 hcell.1.1
      obtain rfl := Nat.le_antisymm hcell.2.2 hcell.2.1
      exact List.mem_singleton.2 rfl
  · refine ⟨514, computeCellPair x y :: (cellsOf (bordersOf x y r).1.x_coord (bordersOf x y r).2.x_coord
      (bordersOf x y r).1.y_coord (bordersOf x y r).2.y_coord).filter fun cell => cell ≠ computeCellPair x y,
      fun fuel hfuel => ?_, ?_, fun cell hin hnear => ?_⟩
    · rw [visit_eq fuel hx hy h1 hr, if_neg hzero, hnarrow, if_neg Bool.false_ne_true,
        visitRange_eq (by omega) (by omega) hlast.1 hlast.2.1 (by omega), Option.map_some]
    · refine List.nodup_cons.2 ⟨fun h => ?_, (nodup_cellsOf ..).filter _⟩
      have hne := (List.mem_filter.1 h).2
      simp at hne
    · by_cases heq : cell = computeCellPair x y
      · rw [heq]
        exact List.mem_cons_self
      · exact List.mem_cons_of_mem _ (List.mem_filter.2 ⟨hmem cell hin hnear, by simpa using heq⟩)

/-- **An octagon covers what is in reach** just if what it is without is not. -/
theorem covers_of_wide (hx : InMap x) (hy : InMap y) (h1 : 1 < r) (hr : r ≤ 333)
    (hwide : isWide (bordersOf x y r).1 (bordersOf x y r).2 = true) : Covers x y r ↔ CornersFar x y r := by
  obtain ⟨⟨hx1, hx2, hy1, hy2⟩, ⟨hx3, hy3, hten⟩, hmem⟩ := mem_range_of_near hx hy h1 hr
  have hzero : calculateCellArea x y r ≠ ⟨0, 0, 0, 0⟩ := by
    intro hzero
    rw [bordersOf_zero hx hy hzero, not_isWide_self] at hwide
    cases hwide
  obtain ⟨cells, hvisit, hnodup, hcells⟩ := visitCircle_spec hwide hx3 hy3 (hx1.trans hx2) (hy1.trans hy2) hten
  have hruns : ∀ fuel ≥ 514, visit fuel (computeCellPair x y) r x y = some cells := by
    intro fuel hfuel
    rw [visit_eq fuel hx hy h1 hr, if_neg hzero, if_pos hwide]
    exact hvisit fuel hfuel
  have hthree := xShift_le hten
  have hgap := hwide
  simp only [isWide, decide_eq_true_eq] at hgap
  rw [sub32_eq _ _ (hx1.trans hx2), sub32_eq _ _ (hy1.trans hy2)] at hgap
  constructor
  · rintro ⟨turns, cells', hruns', -, hcovers⟩ - i j hij
    have hsame : cells' = cells := by
      have hboth := (hruns' (max turns 514) (Nat.le_max_left _ _)).symm.trans (hruns _ (Nat.le_max_right _ _))
      exact Option.some.inj hboth
    subst hsame
    -- a cell that is cut off is not visited, so it is not near
    have hcut : ∀ a b, a < 512 → b < 512 →
        (a = (bordersOf x y r).1.x_coord + i ∨ a + i = (bordersOf x y r).2.x_coord) →
        (b = (bordersOf x y r).1.y_coord + j ∨ b + j = (bordersOf x y r).2.y_coord) → OutOfReach x y r a b := by
      intro a b ha hb hai hbj
      by_contra hnear
      have hin : (⟨a, b⟩ : CellPair).inside = true := by
        simp only [CellPair.inside, Bool.and_eq_true, decide_eq_true_eq]
        exact ⟨ha, hb⟩
      have hvisited := hcovers ⟨a, b⟩ hin (near_iff.2 (not_le.1 hnear))
      exact ((hcells ⟨a, b⟩).1 hvisited).2 i j hij ⟨hai, hbj⟩
    refine ⟨hcut _ _ ?_ ?_ (.inl rfl) (.inl rfl), hcut _ _ ?_ ?_ (.inl rfl) (.inr ?_), hcut _ _ ?_ ?_ (.inr ?_) (.inl rfl),
      hcut _ _ ?_ ?_ (.inr ?_) (.inr ?_)⟩ <;> omega
  · intro hfar
    refine ⟨514, cells, hruns, hnodup, fun cell hin hnear => (hcells cell).2 ⟨hmem cell hin hnear, ?_⟩⟩
    rintro i j hij ⟨hai, hbj⟩
    obtain ⟨hll, hlh, hhl, hhh⟩ := hfar hwide i j hij
    have hreach := not_le.2 (near_iff.1 hnear)
    obtain ⟨a, b⟩ := cell
    dsimp only at hai hbj hreach
    rcases hai with rfl | hai
    · rcases hbj with rfl | hbj
      · exact hreach hll
      · rw [show b = (bordersOf x y r).2.y_coord - j by omega] at hreach
        exact hreach hlh
    · rw [show a = (bordersOf x y r).2.x_coord - i by omega] at hreach
      rcases hbj with rfl | hbj
      · exact hreach hhl
      · rw [show b = (bordersOf x y r).2.y_coord - j by omega] at hreach
        exact hreach hhh

/-- **A visit covers what is in reach**, and comes to an end with no cell twice, just under the condition. -/
theorem covers_iff (x y r : ℚ) (hx : InMap x) (hy : InMap y) (h1 : 1 < r) (hr : r ≤ 333) :
    Covers x y r ↔ CornersFar x y r := by
  cases hwide : isWide (bordersOf x y r).1 (bordersOf x y r).2 with
  | true => exact covers_of_wide hx hy h1 hr hwide
  | false =>
    refine iff_of_true (covers_of_narrow hx hy h1 hr hwide) fun h => ?_
    rw [hwide] at h
    cases h

/-! ### The middle of the map -/

theorem inMap_zero : InMap 0 := by
  unfold InMap borderOf centerGridCellId totalNumberOfCellsPerMap sizeOfGridCell
  constructor <;> norm_num

/-- With the radius 2. -/
theorem covers_iff_sample : Covers 0 0 2 ↔ CornersFar 0 0 2 :=
  covers_iff 0 0 2 inMap_zero inMap_zero (by norm_num) (by norm_num)

/-- **A cell in reach is cut off**: the cell 252, 252 has points at less than 332, and is not visited with the radius
333. -/
theorem corner_cut : Near 0 0 (333 - 1) ⟨252, 252⟩ ∧ ¬ Covers 0 0 333 := by
  have hnear : Near 0 0 (333 - 1) ⟨252, 252⟩ := by
    refine near_iff.2 ?_
    have hdist : axisDist 252 0 = 3 * sizeOfGridCell := by decide +kernel
    rw [hdist]
    unfold sizeOfGridCell
    norm_num
  refine ⟨hnear, fun h => ?_⟩
  have hborders : bordersOf 0 0 333 = (⟨251, 251⟩, ⟨260, 260⟩) := by decide +kernel
  have hwide : isWide (bordersOf 0 0 333).1 (bordersOf 0 0 333).2 = true := by
    rw [hborders]
    decide
  have hshift : xShift (260 - 251) = 3 := by decide +kernel
  have hfar := (covers_of_wide inMap_zero inMap_zero (by norm_num) (le_refl _) hwide).1 h hwide 1 1
  rw [hborders, hshift] at hfar
  exact not_le.2 (near_iff.1 hnear) (hfar (by decide)).1

end BlizzLike.CellVisits
