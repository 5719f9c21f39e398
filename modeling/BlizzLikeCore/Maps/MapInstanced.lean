import BlizzLikeCore.Lib.FiniteMap
import Mathlib.Logic.Function.Basic

/-!
# Grid maps of a base map and its instances

Terrain is loaded once: by the base map, a `MapInstanced`.  Its instances point to the same `GridMap`, and the base
map counts them for each grid, and locks its own grid against unloading as long as the count is not 0.
-/

namespace BlizzLike.GridMaps

/-! ## Grids -/

/-- `GridPair`, of grids and (mirrored) of grid maps; both are asserted to be below `MAX_NUMBER_OF_GRIDS`. -/
structure GridPair where
  x_coord : Fin 64
  y_coord : Fin 64
  deriving DecidableEq

/-- `MAX_NUMBER_OF_GRIDS - 1 - x` for both coordinates. -/
def GridPair.mirror (p : GridPair) : GridPair := ⟨p.x_coord.rev, p.y_coord.rev⟩

@[simp] theorem GridPair.mirror_mirror (p : GridPair) : p.mirror.mirror = p := by simp [GridPair.mirror]

theorem GridPair.mirror_eq_iff {p q : GridPair} : p.mirror = q ↔ p = q.mirror := by
  constructor
  · rintro rfl
    exact p.mirror_mirror.symm
  · rintro rfl
    exact q.mirror_mirror

inductive GridState where
  | invalid | active | idle | removal
  deriving DecidableEq

/-- `NGrid` with its `GridInfo`. -/
structure NGrid where
  gridState : GridState
  unloadActiveLockCount : UInt16
  unloadExplicitLock : Bool
  unloadReferenceLock : Bool

def NGrid.getUnloadLock (grid : NGrid) : Bool :=
  grid.unloadActiveLockCount != 0 || grid.unloadExplicitLock || grid.unloadReferenceLock

/-- A map.  `GridMap *` is a number; `refManager` is the `GridRefManager`, its first grid first. -/
structure Map where
  instanceId : UInt32
  grids : GridPair → Option NGrid
  refManager : List GridPair
  gridMaps : GridPair → Option Nat

/-- A map that is new. -/
def Map.new (instanceId : UInt32) : Map := ⟨instanceId, fun _ => none, [], fun _ => none⟩

/-- `setNGrid` of a new grid, `buildNGridLinkage` and `SetGridState`; `CONFIG_GRID_UNLOAD` sets the explicit lock. -/
def Map.createGrid (m : Map) (gridUnload : Bool) (p : GridPair) : Map :=
  { m with
    grids := Function.update m.grids p (some ⟨.idle, 0, !gridUnload, false⟩)
    refManager := p :: m.refManager }

/-- `delete grid` and `setNGrid(NULL)`; the grid unlinks itself. -/
def Map.deleteGrid (m : Map) (p : GridPair) : Map :=
  { m with grids := Function.update m.grids p none, refManager := m.refManager.erase p }

def Map.setGridMap (m : Map) (g : GridPair) (ptr : Option Nat) : Map :=
  { m with gridMaps := Function.update m.gridMaps g ptr }

/-- A change of one grid. -/
def Map.modifyGrid (m : Map) (p : GridPair) (f : NGrid → NGrid) : Map :=
  { m with grids := Function.update m.grids p ((m.grids p).map f) }

/-! ## The base map -/

/-- The map that is meant: the base map or an instance. -/
inductive Target where
  | base
  | instance (id : UInt32)
  deriving DecidableEq

/-- A `MapInstanced`.  `live` are the `GridMap`s that have not been deleted, and `next` is the next to be allocated;
`unloads` notes every grid of the base map that is unloaded, with the number of instances that held its grid map. -/
structure MapInstanced where
  gridUnload : Bool
  maxInstanceId : UInt32
  base : Map := .new 0
  maps : AList fun _ : UInt32 => Map := ∅
  gridMapReference : GridPair → UInt16 := fun _ => 0
  live : List Nat := []
  next : Nat := 0
  unloads : List (GridPair × Nat) := []

namespace MapInstanced

variable (w : MapInstanced)

def find? : Target → Option Map
  | .base => some w.base
  | .instance id => w.maps.lookup id

def store (t : Target) (m : Map) : MapInstanced :=
  match t with
  | .base => { w with base := m }
  | .instance id => { w with maps := w.maps.insert id m }

/-- The number of instances that hold a grid map. -/
def holders (g : GridPair) : Nat := FiniteMap.count (fun m : Map => (m.gridMaps g).isSome) w.maps

/-- `SetUnloadReferenceLock` of the base map, where `getNGrid` is dereferenced. -/
def setUnloadReferenceLock (p : GridPair) (on : Bool) : Option MapInstanced :=
  match w.base.grids p with
  | none => none
  | some _ => some { w with base := w.base.modifyGrid p fun grid => { grid with unloadReferenceLock := on } }

def addGridMapReference (g : GridPair) : Option MapInstanced :=
  { w with gridMapReference := Function.update w.gridMapReference g (w.gridMapReference g + 1) }.setUnloadReferenceLock
    g.mirror true

def removeGridMapReference (g : GridPair) : Option MapInstanced :=
  let w' := { w with gridMapReference := Function.update w.gridMapReference g (w.gridMapReference g - 1) }
  if w'.gridMapReference g = 0 then w'.setUnloadReferenceLock g.mirror false else some w'

/-- `LoadMap` from the file: the data of the base map (`reload` is never set). -/
def loadFile (m : Map) (g : GridPair) : MapInstanced × Map :=
  if (m.gridMaps g).isSome then (w, m)
  else ({ w with live := w.next :: w.live, next := w.next + 1 }, m.setGridMap g (some w.next))

/-- `EnsureGridCreated` of the base map for an instance. -/
def ensureBaseGridCreated (p : GridPair) : MapInstanced :=
  if (w.base.grids p).isSome then w
  else
    let b := w.base.createGrid w.gridUnload p
    if (b.gridMaps p.mirror).isSome then w.store .base b
    else ((w.loadFile b p.mirror).1).store .base (w.loadFile b p.mirror).2

def loadMap (m : Map) (g : GridPair) : Option (MapInstanced × Map) :=
  if m.instanceId ≠ 0 then
    if (m.gridMaps g).isSome then some (w, m)
    else
      -- load grid map for base map
      let w' := if (w.base.gridMaps g).isSome then w else w.ensureBaseGridCreated g.mirror
      (w'.addGridMapReference g).map fun w'' => (w'', m.setGridMap g (w''.base.gridMaps g))
  else some (w.loadFile m g)

def ensureGridCreated (t : Target) (p : GridPair) : Option MapInstanced :=
  match w.find? t with
  | none => some w
  | some m =>
    if (m.grids p).isSome then some w
    else
      let m' := m.createGrid w.gridUnload p
      if (m'.gridMaps p.mirror).isSome then some (w.store t m')
      else (w.loadMap m' p.mirror).map fun r => r.1.store t r.2

/-- `EnsureGridLoadedAtEnter`, without the objects of the grid. -/
def ensureGridLoadedAtEnter (t : Target) (p : GridPair) : Option MapInstanced :=
  (w.ensureGridCreated t p).map fun w' =>
    match w'.find? t with
    | none => w'
    | some m => w'.store t (m.modifyGrid p fun grid => { grid with gridState := .active })

/-- `UnloadGrid`; the clean-up of the objects in the grid is left out.  Without the grid its assertion fails. -/
def unloadGrid (t : Target) (p : GridPair) (unloadAll activeObjectsNear : Bool) : Option MapInstanced :=
  match w.find? t with
  | none => some w
  | some m =>
    if (m.grids p).isNone then none
    else if !unloadAll && activeObjectsNear then some w
    else
      let m' := (m.deleteGrid p).setGridMap p.mirror none
      if m.instanceId = 0 then
        let live := match m.gridMaps p.mirror with
          | none => w.live
          | some ptr => w.live.erase ptr
        let unloads := if t = .base then (p, w.holders p.mirror) :: w.unloads else w.unloads
        some ({ w with live := live, unloads := unloads }.store t m')
      else (w.removeGridMapReference p.mirror).map fun w' => w'.store t m'

/-- `Map::UnloadAll`: the loop goes to the next grid before it unloads one. -/
def unloadAll (t : Target) : Option MapInstanced :=
  match w.find? t with
  | none => some w
  | some m => m.refManager.foldlM (fun w' p => w'.unloadGrid t p true false) w

/-! ## Instances -/

/-- `CreateInstance` or `CreateBattleGround`, when `_FindMap` has found nothing. -/
def createMap (id : UInt32) : MapInstanced := { w with maps := w.maps.insert id (.new id) }

/-- `CreateInstance` for a player with a save. -/
def createSaved (id : UInt32) : MapInstanced := if (w.maps.lookup id).isSome then w else w.createMap id

/-- `CreateInstance` for a player without one, under `GenerateInstanceId`. -/
def createNew : MapInstanced :=
  { w with maxInstanceId := w.maxInstanceId + 1 }.createMap (w.maxInstanceId + 1)

/-- `CreateInstance` for a player in a battleground. -/
def createBattleGround (id : UInt32) : MapInstanced := if id = 0 then w else w.createSaved id

/-- The base map is unloaded with the last instance. -/
def unloadBaseWithLast : Option MapInstanced :=
  if w.maps.keys.length ≤ 1 && w.gridUnload then w.unloadAll .base else some w

def destroyInstance (id : UInt32) (havePlayers : Bool) : Option MapInstanced :=
  if (w.maps.lookup id).isNone || havePlayers then some w
  else do
    let w ← w.unloadAll (.instance id)
    let w ← w.unloadBaseWithLast
    -- the destructor unloads once more
    let w ← w.unloadAll (.instance id)
    some { w with maps := w.maps.erase id }

/-- `MapInstanced::UnloadAll`. -/
def unloadMaps : Option MapInstanced := do
  let w ← w.maps.keys.foldlM (fun w id => w.unloadAll (.instance id)) w
  let w ← w.maps.keys.foldlM (fun w id => w.unloadAll (.instance id)) w
  { w with maps := ∅ }.unloadAll .base

/-! ## Updates of grids -/

/-- `GridStates[..]->Update` of a grid: whether its time has passed, it has active objects, or there are some near. -/
def updateGrid (t : Target) (p : GridPair) (passed activeObjectsIn activeObjectsNear : Bool) : Option MapInstanced :=
  match w.find? t with
  | none => some w
  | some m =>
    match m.grids p with
    | none => some w
    | some grid =>
      let setState (s : GridState) := w.store t (m.modifyGrid p fun grid => { grid with gridState := s })
      match grid.gridState with
      | .invalid => some w
      | .active =>
        if passed && !activeObjectsIn && !activeObjectsNear then some (setState .idle) else some w
      | .idle => some (setState .removal)
      | .removal => if !grid.getUnloadLock && passed then w.unloadGrid t p false activeObjectsNear else some w

/-- `incUnloadActiveLock` or `decUnloadActiveLock` of a grid. -/
def activeLock (t : Target) (p : GridPair) (inc : Bool) : MapInstanced :=
  match w.find? t with
  | none => w
  | some m => w.store t (m.modifyGrid p fun grid =>
      let count := grid.unloadActiveLockCount
      { grid with unloadActiveLockCount := if inc then count + 1 else if count ≠ 0 then count - 1 else count })

/-- What may happen to the maps. -/
inductive Act where
  | createSaved (id : UInt32)
  | createNew
  | createBattleGround (id : UInt32)
  | ensureGridCreated (t : Target) (p : GridPair)
  | ensureGridLoadedAtEnter (t : Target) (p : GridPair)
  | updateGrid (t : Target) (p : GridPair) (passed activeObjectsIn activeObjectsNear : Bool)
  | activeLock (t : Target) (p : GridPair) (inc : Bool)
  | destroyInstance (id : UInt32) (havePlayers : Bool)
  | unloadAll

/-- One of these; `none` when an assertion fails or a null pointer is dereferenced. -/
def act : Act → Option MapInstanced
  | .createSaved id => some (w.createSaved id)
  | .createNew => some w.createNew
  | .createBattleGround id => some (w.createBattleGround id)
  | .ensureGridCreated t p => w.ensureGridCreated t p
  | .ensureGridLoadedAtEnter t p => w.ensureGridLoadedAtEnter t p
  | .updateGrid t p passed activeIn activeNear => w.updateGrid t p passed activeIn activeNear
  | .activeLock t p inc => some (w.activeLock t p inc)
  | .destroyInstance id havePlayers => w.destroyInstance id havePlayers
  | .unloadAll => w.unloadMaps

end MapInstanced

end BlizzLike.GridMaps
