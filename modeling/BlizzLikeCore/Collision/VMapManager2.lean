import Mathlib.Data.List.AList
import Mathlib.Logic.Function.Basic

/-!
# Collision models

A tile of a map names the models that stand in it and the nodes of the map's tree that they are in.
`StaticMapTree` counts for each node how often a tile has loaded it, `VMapManager2` counts for each model how
often it has been acquired; a model that is not acquired any more is deleted.

Of a tile file we keep the spawns that are read from it, which are the same when it is read again.  Left out: what
models and trees look like, what loads return, and maps without tiles.
-/

namespace BlizzLike

/-! ## Files -/

/-- A `ModelSpawn` in a tile file, and the node after it. -/
structure TileSpawn where
  name : String
  node : Nat
  deriving DecidableEq, Repr

/-- A tile file: the spawns that can be read from it, up to the first failure. -/
structure TileFile where
  spawns : List TileSpawn

/-- The files: a map's tree has some number of nodes, which the spawns of its tiles are in; and of the models some
can be read. -/
structure VMapFiles where
  treeSize : Nat → Option Nat
  tile : Nat → Nat → Nat → Option TileFile
  readable : String → Bool
  below : ∀ m n x y f, treeSize m = some n → tile m x y = some f → ∀ s ∈ f.spawns, s.node < n

/-! ## Models -/

/-- `ManagedModel`: `model` is the address of the `WorldModel`. -/
structure ManagedModel where
  model : Nat
  refCount : Nat
  deriving DecidableEq, Repr

/-- `iLoadedModelFiles`, and the address of the next new model. -/
structure ModelFiles where
  loaded : String → Option ManagedModel := fun _ => none
  next : Nat := 0

namespace ModelFiles

variable (fs : VMapFiles) (models : ModelFiles)

def acquireModelInstance (name : String) : ModelFiles × Option Nat :=
  match models.loaded name with
  | some m => ({ models with loaded := Function.update models.loaded name (some { m with refCount := m.refCount + 1 }) },
      some m.model)
  | none =>
    if fs.readable name then
      ({ loaded := Function.update models.loaded name (some ⟨models.next, 1⟩), next := models.next + 1 },
        some models.next)
    else (models, none)

def releaseModelInstance (name : String) : ModelFiles :=
  match models.loaded name with
  | none => models
  | some m =>
    { models with
      loaded := Function.update models.loaded name
        (if m.refCount - 1 = 0 then none else some { m with refCount := m.refCount - 1 }) }

def releaseTimes (name : String) : Nat → ModelFiles
  | 0 => models
  | n + 1 => (releaseTimes name n).releaseModelInstance name

end ModelFiles

/-! ## Trees -/

/-- A node: the spawn's name, and the model unless it is not loaded. -/
structure ModelInstance where
  name : String := ""
  model : Option Nat := none
  deriving DecidableEq, Repr

/-- `StaticMapTree`: `loadedSpawns` is 0 for a node that is not in `iLoadedSpawns`. -/
structure StaticMapTree where
  nTreeValues : Nat
  treeValues : Nat → ModelInstance := fun _ => {}
  loadedTiles : AList fun _ : Nat => Bool := ∅
  loadedSpawns : Nat → Nat := fun _ => 0

def packTileID (tileX tileY : Nat) : Nat := (tileX <<< 16 ||| tileY) % 4294967296

namespace StaticMapTree

variable (fs : VMapFiles)

/-- One spawn in `LoadMapTile`. -/
def loadSpawn (x : ModelFiles × StaticMapTree) (s : TileSpawn) : ModelFiles × StaticMapTree :=
  let acquired := x.1.acquireModelInstance fs s.name
  (acquired.1,
    if x.2.loadedSpawns s.node = 0 then
      { x.2 with
        treeValues := Function.update x.2.treeValues s.node ⟨s.name, acquired.2⟩
        loadedSpawns := Function.update x.2.loadedSpawns s.node 1 }
    else { x.2 with loadedSpawns := Function.update x.2.loadedSpawns s.node (x.2.loadedSpawns s.node + 1) })

/-- `LoadMapTile` of a map with tiles. -/
def loadMapTile (m tileX tileY : Nat) (models : ModelFiles) (tree : StaticMapTree) : ModelFiles × StaticMapTree :=
  match fs.tile m tileX tileY with
  | some f =>
    let loaded := f.spawns.foldl (loadSpawn fs) (models, tree)
    (loaded.1, { loaded.2 with loadedTiles := loaded.2.loadedTiles.insert (packTileID tileX tileY) true })
  | none => (models, { tree with loadedTiles := tree.loadedTiles.insert (packTileID tileX tileY) false })

/-- One spawn in `UnloadMapTile`. -/
def unloadSpawn (x : ModelFiles × StaticMapTree) (s : TileSpawn) : ModelFiles × StaticMapTree :=
  (x.1.releaseModelInstance s.name,
    if x.2.loadedSpawns s.node = 0 then x.2
    else
      let tree : StaticMapTree :=
        { x.2 with loadedSpawns := Function.update x.2.loadedSpawns s.node (x.2.loadedSpawns s.node - 1) }
      if x.2.loadedSpawns s.node - 1 = 0 then
        { tree with treeValues := Function.update tree.treeValues s.node { tree.treeValues s.node with model := none } }
      else tree)

/-- `UnloadMapTile`, which reads the file once more. -/
def unloadMapTile (m tileX tileY : Nat) (models : ModelFiles) (tree : StaticMapTree) : ModelFiles × StaticMapTree :=
  match tree.loadedTiles.lookup (packTileID tileX tileY) with
  | none => (models, tree)
  | some withFile =>
    let unloaded :=
      match if withFile then fs.tile m tileX tileY else none with
      | some f => f.spawns.foldl unloadSpawn (models, tree)
      | none => (models, tree)
    (unloaded.1, { unloaded.2 with loadedTiles := unloaded.2.loadedTiles.erase (packTileID tileX tileY) })

/-- A node in `UnloadMap`. -/
def unloadNode (x : ModelFiles × StaticMapTree) (n : Nat) : ModelFiles × StaticMapTree :=
  if x.2.loadedSpawns n = 0 then x
  else
    (x.1.releaseTimes (x.2.treeValues n).name (x.2.loadedSpawns n),
      { x.2 with treeValues := Function.update x.2.treeValues n { x.2.treeValues n with model := none } })

/-- `UnloadMap`: the order of nodes is that of a hash map, and nothing depends on it. -/
def unloadMap (models : ModelFiles) (tree : StaticMapTree) : ModelFiles × StaticMapTree :=
  let unloaded := (List.range tree.nTreeValues).foldl unloadNode (models, tree)
  (unloaded.1, { unloaded.2 with loadedSpawns := fun _ => 0, loadedTiles := ∅ })

def numLoadedTiles (tree : StaticMapTree) : Nat := tree.loadedTiles.entries.length

end StaticMapTree

/-! ## The manager -/

structure VMapManager2 where
  models : ModelFiles := {}
  trees : AList fun _ : Nat => StaticMapTree := ∅

/-- A tile of a map; a tile's coordinates fit into 16 bits. -/
structure MapTile where
  map : Nat
  x : Nat
  y : Nat
  x_lt : x < 65536
  y_lt : y < 65536

inductive VMapStep where
  | loadTile (t : MapTile)
  | unloadTile (t : MapTile)
  | unloadMap (map : Nat)

namespace VMapManager2

variable (fs : VMapFiles) (v : VMapManager2)

/-- `_loadMap`: a map that is not there is initialized first. -/
def loadMap (t : MapTile) : VMapManager2 :=
  match (v.trees.lookup t.map).or ((fs.treeSize t.map).map fun n => { nTreeValues := n }) with
  | none => v
  | some tree =>
    let loaded := tree.loadMapTile fs t.map t.x t.y v.models
    { models := loaded.1, trees := v.trees.insert t.map loaded.2 }

/-- A tree without tiles is deleted. -/
def keepTree (map : Nat) (x : ModelFiles × StaticMapTree) : VMapManager2 where
  models := x.1
  trees := if x.2.numLoadedTiles = 0 then v.trees.erase map else v.trees.insert map x.2

/-- `unloadMap` of a map. -/
def unloadMap (map : Nat) : VMapManager2 :=
  match v.trees.lookup map with
  | none => v
  | some tree => v.keepTree map (tree.unloadMap v.models)

/-- `unloadMap` of a tile. -/
def unloadTile (t : MapTile) : VMapManager2 :=
  match v.trees.lookup t.map with
  | none => v
  | some tree => v.keepTree t.map (tree.unloadMapTile fs t.map t.x t.y v.models)

def step : VMapStep → VMapManager2
  | .loadTile t => v.loadMap fs t
  | .unloadTile t => v.unloadTile fs t
  | .unloadMap map => v.unloadMap map

end VMapManager2

end BlizzLike
