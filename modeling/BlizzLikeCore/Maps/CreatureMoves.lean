import Mathlib.Data.List.InsertIdx
import Mathlib.Logic.Function.Basic

/-!
# Creatures in the cells of a map

A creature is linked in the container of a cell, and knows the cell.  A move to another cell is noted and made
later, all at once; when its grid is not loaded the creature is moved to its respawn point, or else put on the list
of the objects to be removed.
-/

namespace BlizzLike.CreatureCells

/-! ## Cells -/

structure CellPair where
  x_coord : Nat
  y_coord : Nat
  deriving DecidableEq

/-- Both coordinates are below `TOTAL_NUMBER_OF_CELLS_PER_MAP`. -/
def CellPair.inside (p : CellPair) : Bool := p.x_coord < 512 && p.y_coord < 512

structure GridPair where
  x_coord : Nat
  y_coord : Nat
  deriving DecidableEq

/-- `Cell`: 6 bits for each coordinate of the grid, and of the cell in the grid. -/
structure Cell where
  grid_x : Nat
  grid_y : Nat
  cell_x : Nat
  cell_y : Nat
  deriving DecidableEq

namespace Cell

/-- The constructor from a pair; `MAX_NUMBER_OF_CELLS` is 8. -/
def ofPair (p : CellPair) : Cell := ⟨p.x_coord / 8 % 64, p.y_coord / 8 % 64, p.x_coord % 8, p.y_coord % 8⟩

def cellPair (cell : Cell) : CellPair := ⟨cell.grid_x * 8 + cell.cell_x, cell.grid_y * 8 + cell.cell_y⟩

def grid (cell : Cell) : GridPair := ⟨cell.grid_x, cell.grid_y⟩

def diffCell (cell cell' : Cell) : Bool := cell.cell_x != cell'.cell_x || cell.cell_y != cell'.cell_y

def diffGrid (cell cell' : Cell) : Bool := cell.grid_x != cell'.grid_x || cell.grid_y != cell'.grid_y

theorem cellPair_ofPair {p : CellPair} (h : p.inside = true) : (ofPair p).cellPair = p := by
  obtain ⟨x, y⟩ := p
  unfold CellPair.inside at h
  simp only [Bool.and_eq_true, decide_eq_true_eq] at h
  simp only [ofPair, cellPair, CellPair.mk.injEq]
  omega

theorem diffGrid_eq_false {cell cell' : Cell} : cell.diffGrid cell' = false ↔ cell.grid = cell'.grid := by
  simp [diffGrid, grid]

theorem eq_of_not_diff {cell cell' : Cell} (hc : cell.diffCell cell' = false) (hg : cell.diffGrid cell' = false) :
    cell = cell' := by
  obtain ⟨a, b, c, d⟩ := cell
  simp_all [diffCell, diffGrid]

end Cell

/-! ## The map -/

/-- A creature in the database. -/
structure Spawn (Pos : Type) where
  position : Pos
  active : Bool

/-- What the map reads: the cells of coordinates, which are all inside for creatures in the database. -/
structure MapData (Pos : Type) where
  computeCellPair : Pos → CellPair
  spawns : List (Spawn Pos)
  spawns_inside : ∀ s ∈ spawns, (computeCellPair s.position).inside = true

/-- A creature.  `link` is the cell in whose container its `GridReference` is; `respawn` are the coordinates that the
database has. -/
structure Creature (Pos : Type) where
  position : Pos
  currentCell : Cell := ⟨0, 0, 0, 0⟩
  link : Option Cell := none
  inWorld : Bool := false
  active : Bool
  worldObject : Bool
  respawn : Option Pos := none

def Creature.GetRespawnCoord {Pos : Type} (c : Creature Pos) : Pos := c.respawn.getD c.position

/-- A map.  A grid is not created (`none`), created or also loaded; `Creature *` is a number, and `none` is there
after `delete`. -/
structure Map (Pos : Type) where
  grids : GridPair → Option Bool := fun _ => none
  creatures : Nat → Option (Creature Pos) := fun _ => none
  next : Nat := 0
  creaturesToMove : List (Nat × Pos) := []
  objectsToRemove : List Nat := []

namespace Map

variable {Pos : Type} (d : MapData Pos) (m : Map Pos)

def cellAt (pos : Pos) : Cell := .ofPair (d.computeCellPair pos)

def modify (id : Nat) (f : Creature Pos → Creature Pos) : Map Pos :=
  { m with creatures := Function.update m.creatures id ((m.creatures id).map f) }

def loaded (g : GridPair) : Bool := m.grids g == some true

/-- `RemoveFromGrid`: the reference is unlinked, wherever it is. -/
def removeFromGrid (id : Nat) (g : GridPair) : Option (Map Pos) :=
  if (m.grids g).isNone then none else some (m.modify id fun c => { c with link := none })

def addToGrid (id : Nat) (cell : Cell) : Option (Map Pos) :=
  if (m.grids cell.grid).isNone then none
  else some (m.modify id fun c => { c with link := some cell, currentCell := cell })

def relocate (id : Nat) (pos : Pos) : Map Pos := m.modify id fun c => { c with position := pos }

/-! ## Grids -/

def ensureGridCreated (g : GridPair) : Map Pos :=
  if (m.grids g).isSome then m else { m with grids := Function.update m.grids g (some false) }

/-- A creature of the database that is loaded. -/
def spawned (s : Spawn Pos) : Creature Pos where
  position := s.position
  currentCell := cellAt d s.position
  link := some (cellAt d s.position)
  inWorld := true
  active := s.active
  worldObject := false
  respawn := some s.position

/-- `LoadHelper` for one creature of a cell. -/
def loadCreature (s : Spawn Pos) : Map Pos :=
  { m with creatures := Function.update m.creatures m.next (some (spawned d s)), next := m.next + 1 }

/-- `EnsureGridLoaded`: the creatures of the database whose cells are in the grid. -/
def ensureGridLoaded (g : GridPair) : Map Pos :=
  let m' := m.ensureGridCreated g
  if m'.loaded g then m'
  else
    (d.spawns.filter fun s => (cellAt d s.position).grid == g).foldl (fun m s => m.loadCreature d s)
      { m' with grids := Function.update m'.grids g (some true) }

/-! ## Moves -/

def creatureCellRelocation (id : Nat) (new_cell : Cell) : Option (Map Pos × Bool) :=
  match m.creatures id with
  | none => none
  | some c =>
    let old_cell := c.currentCell
    if old_cell.diffGrid new_cell = false then
      if old_cell.diffCell new_cell then
        ((m.removeFromGrid id old_cell.grid).bind fun m => m.addToGrid id new_cell).map fun m => (m, true)
      else some (m, true)
    else if c.active then
      (((m.ensureGridLoaded d new_cell.grid).removeFromGrid id old_cell.grid).bind fun m =>
        m.addToGrid id new_cell).map fun m => (m, true)
    else if m.loaded new_cell.grid then
      ((m.removeFromGrid id old_cell.grid).bind fun m =>
        (m.ensureGridCreated new_cell.grid).addToGrid id new_cell).map fun m => (m, true)
    else some (m, false)

def creatureRespawnRelocation (id : Nat) : Option (Map Pos × Bool) :=
  match m.creatures id with
  | none => none
  | some c =>
    let resp := c.GetRespawnCoord
    (m.creatureCellRelocation d id (cellAt d resp)).map fun r => if r.2 then (r.1.relocate id resp, true) else r

/-- `AddObjectToRemoveList`; `CleanupsBeforeDelete` takes the creature out of the world. -/
def addObjectToRemoveList (id : Nat) : Map Pos :=
  { m.modify id fun c => { c with inWorld := false } with objectsToRemove := m.objectsToRemove.insert id }

/-- A turn of `MoveAllCreaturesInMoveList`, after the element has been erased. -/
def moveOne (id : Nat) (pos : Pos) : Option (Map Pos) :=
  (m.creatureCellRelocation d id (cellAt d pos)).bind fun r =>
    if r.2 then some (r.1.relocate id pos)
    else (r.1.creatureRespawnRelocation d id).map fun r' => if r'.2 then r'.1 else r'.1.addObjectToRemoveList id

/-- The turns: none puts anything on the list. -/
def moveList : List (Nat × Pos) → Map Pos → Option (Map Pos)
  | [], m => some m
  | (id, pos) :: l, m => ({ m with creaturesToMove := l }.moveOne d id pos).bind (moveList l)

def moveAllCreaturesInMoveList : Option (Map Pos) := moveList d m.creaturesToMove m

/-- `i_creaturesToMove[c] = ..`; a new element is at any place of the hash table. -/
def addCreatureToMoveList (id : Nat) (pos : Pos) (place : Nat) : Map Pos :=
  { m with
    creaturesToMove :=
      if m.creaturesToMove.any fun e => e.1 == id then
        m.creaturesToMove.map fun e => if e.1 = id then (id, pos) else e
      else m.creaturesToMove.insertIdx (min place m.creaturesToMove.length) (id, pos) }

def creatureRelocation (id : Nat) (pos : Pos) (respawnRelocationOnFail : Bool) (place : Nat) : Option (Map Pos) :=
  match m.creatures id with
  | none => none
  | some c =>
    let new_cell := cellAt d pos
    if !respawnRelocationOnFail && (m.grids new_cell.grid).isNone then some m
    -- delay creature move for grid/cell to grid/cell moves
    else if c.currentCell.diffCell new_cell || c.currentCell.diffGrid new_cell then
      some (m.addCreatureToMoveList id pos place)
    else some (m.relocate id pos)

/-! ## Adding and removing -/

/-- A creature that is made, outside the world. -/
def create (pos : Pos) (active worldObject : Bool) : Map Pos :=
  { m with
    creatures := Function.update m.creatures m.next
      (some { position := pos, active := active, worldObject := worldObject })
    next := m.next + 1 }

def add (id : Nat) : Option (Map Pos) :=
  match m.creatures id with
  | none => none
  | some c =>
    if (d.computeCellPair c.position).inside = false then some m
    else if c.inWorld then some m
    else
      let cell := cellAt d c.position
      let m' := if c.active then m.ensureGridLoaded d cell.grid else m.ensureGridCreated cell.grid
      (m'.addToGrid id cell).map fun m => m.modify id fun c => { c with inWorld := true }

/-- `Remove`, with `DeleteFromWorld` when `delete` is set. -/
def remove (id : Nat) (delete : Bool) : Option (Map Pos) :=
  match m.creatures id with
  | none => none
  | some c =>
    let m := m.modify id fun c => { c with inWorld := false }
    let m :=
      if (d.computeCellPair c.position).inside && m.loaded (cellAt d c.position).grid then
        m.modify id fun c => { c with link := none }
      else m
    some (if delete then { m with creatures := Function.update m.creatures id none } else m)

/-! ## Unloading -/

/-- A creature in a container for grid objects of a grid. -/
def gridObjectIn (g : GridPair) (c : Creature Pos) : Bool := (c.link.map Cell.grid) == some g && !c.worldObject

/-- `ObjectGridRespawnMover`, for one creature. -/
def moveToRespawn (g : GridPair) (id : Nat) : Option (Map Pos) :=
  match m.creatures id with
  | none => some m
  | some c =>
    if gridObjectIn g c && c.currentCell.diffGrid (cellAt d c.GetRespawnCoord) then
      (m.creatureRespawnRelocation d id).map Prod.fst
    else some m

/-- `RemoveAllObjectsInRemoveList`. -/
def removeList : List Nat → Map Pos → Option (Map Pos)
  | [], m => some m
  | id :: l, m => ({ m with objectsToRemove := l }.remove d id true).bind (removeList l)

def removeAllObjectsInRemoveList : Option (Map Pos) := removeList d m.objectsToRemove m

/-- `ObjectGridCleaner`: creatures of the grid leave the world. -/
def cleanN (g : GridPair) : Map Pos :=
  { m with creatures := fun id => (m.creatures id).map fun c => if gridObjectIn g c then { c with inWorld := false } else c }

/-- `UnloadN` deletes the grid objects; with the grid go its containers, of which other objects are unlinked. -/
def deleteGrid (g : GridPair) : Map Pos :=
  { m with
    creatures := fun id => (m.creatures id).bind fun c =>
      if gridObjectIn g c then none
      else if (c.link.map Cell.grid) = some g then some { c with link := none }
      else some c
    grids := Function.update m.grids g none }

/-- The moves before a grid is unloaded; `order` are the creatures as their containers are visited. -/
def finishMoves (g : GridPair) (order : List Nat) : Option (Map Pos) :=
  (m.moveAllCreaturesInMoveList d).bind fun m =>
    (order.foldlM (fun (m : Map Pos) id => m.moveToRespawn d g id) m).bind fun m => m.moveAllCreaturesInMoveList d

def unloadGrid (g : GridPair) (unloadAll activeObjectsNear : Bool) (order : List Nat) : Option (Map Pos) :=
  if (m.grids g).isNone then none
  else if !unloadAll && activeObjectsNear then some m
  else
    (if unloadAll then some m else m.finishMoves d g order).bind fun m =>
      ((m.cleanN g).removeAllObjectsInRemoveList d).map fun m => m.deleteGrid g

/-- What may happen on a map. -/
inductive Act (Pos : Type) where
  | create (pos : Pos) (active worldObject : Bool)
  | place (id : Nat) (pos : Pos)
  | add (id : Nat)
  | remove (id : Nat) (delete : Bool)
  | creatureRelocation (id : Nat) (pos : Pos) (respawnRelocationOnFail : Bool) (place : Nat)
  | moveAllCreaturesInMoveList
  | ensureGridCreated (g : GridPair)
  | ensureGridLoaded (g : GridPair)
  | unloadGrid (g : GridPair) (unloadAll activeObjectsNear : Bool) (order : List Nat)
  | removeAllObjectsInRemoveList

/-- One of these; `none` when a creature that has been deleted is used, or a grid that is not there.  `place` is a
`Relocate` of a creature outside the world. -/
def act : Act Pos → Option (Map Pos)
  | .create pos active worldObject => some (m.create pos active worldObject)
  | .place id pos => some (m.relocate id pos)
  | .add id => m.add d id
  | .remove id delete => m.remove d id delete
  | .creatureRelocation id pos onFail place => m.creatureRelocation d id pos onFail place
  | .moveAllCreaturesInMoveList => m.moveAllCreaturesInMoveList d
  | .ensureGridCreated g => some (m.ensureGridCreated g)
  | .ensureGridLoaded g => some (m.ensureGridLoaded d g)
  | .unloadGrid g unloadAll activeNear order => m.unloadGrid d g unloadAll activeNear order
  | .removeAllObjectsInRemoveList => m.removeAllObjectsInRemoveList d

end Map

end BlizzLike.CreatureCells
