import Mathlib.Algebra.Group.Int.Defs
import Mathlib.Data.Finset.Insert
import Mathlib.Data.Rat.Defs
import Mathlib.Logic.Function.Basic

/-!
# Pools

A pool holds creatures, game objects and other pools, of which a number are spawned at a time.
`LoadFromDB` reads the tables and takes out links that close a circle; `SpawnPool`, `DespawnPool` and
`UpdatePool` are called from outside.

`SpawnPool` and `DespawnPool` call each other through the pools in a pool.  The calls that are not
over stand on a stack, and a turn does the next thing the topmost has to do: one round of the loop in
`SpawnObject`, one entry in `DespawnObject`, or what follows the return of a call.  What is rolled
and whether a spawn succeeds are arguments of the turn.
-/

namespace BlizzLike

structure PoolObject where
  guid : Nat
  chance : ℚ
  spawned : Bool := false
  deriving DecidableEq

structure PoolGroup where
  explicitlyChanced : List PoolObject := []
  equalChanced : List PoolObject := []
  spawnedPoolAmount : Nat := 0

inductive PoolStore where
  | explicitlyChanced
  | equalChanced
  deriving DecidableEq, Repr

/-- What a group is of: the argument of the template, `type` in the calls. -/
inductive PoolKind where
  | creature
  | gameObject
  | pool
  deriving DecidableEq, Repr

namespace PoolGroup

variable (g : PoolGroup)

def isEmpty : Bool := g.explicitlyChanced.isEmpty && g.equalChanced.isEmpty

def addEntry (poolitem : PoolObject) (maxentries : Nat) : PoolGroup :=
  if poolitem.chance ≠ 0 ∧ maxentries = 1 then
    { g with explicitlyChanced := g.explicitlyChanced ++ [poolitem] }
  else { g with equalChanced := g.equalChanced ++ [poolitem] }

def store : PoolStore → List PoolObject
  | .explicitlyChanced => g.explicitlyChanced
  | .equalChanced => g.equalChanced

/-- An entry not spawned, or the triggering object. -/
def mayRoll (triggerFrom : Nat) (x : PoolObject) : Prop := x.spawned = false ∨ x.guid = triggerFrom

instance (triggerFrom : Nat) (x : PoolObject) : Decidable (mayRoll triggerFrom x) :=
  inferInstanceAs (Decidable (_ ∨ _))

/-- The loop over `ExplicitlyChanced` in `RollOne`. -/
def rollExplicitly (triggerFrom : Nat) : List PoolObject → ℚ → Nat → Option Nat
  | [], _, _ => none
  | x :: l, roll, i =>
    if roll - x.chance < 0 ∧ mayRoll triggerFrom x then some i
    else rollExplicitly triggerFrom l (roll - x.chance) (i + 1)

/-- The end of `RollOne`; `pick` is the number drawn. -/
def rollEqually (triggerFrom pick : Nat) : Option (PoolStore × Nat) :=
  match g.equalChanced[pick % g.equalChanced.length]? with
  | none => none
  | some x => if mayRoll triggerFrom x then some (.equalChanced, pick % g.equalChanced.length) else none

def rollOne (roll : ℚ) (pick triggerFrom : Nat) : Option (PoolStore × Nat) :=
  match rollExplicitly triggerFrom g.explicitlyChanced roll 0 with
  | some index => some (.explicitlyChanced, index)
  | none => g.rollEqually triggerFrom pick

/-- `(*store)[index].spawned = spawned`. -/
def setSpawned (index : Nat) (spawned : Bool) : PoolStore → PoolGroup
  | .explicitlyChanced =>
    { g with explicitlyChanced := g.explicitlyChanced.modify index fun x => { x with spawned := spawned } }
  | .equalChanced =>
    { g with equalChanced := g.equalChanced.modify index fun x => { x with spawned := spawned } }

/-- `DespawnObject` matches the entry. -/
def toDespawn (guid : Nat) (x : PoolObject) : Bool := x.spawned && (guid == 0 || x.guid == guid)

/-- What follows `Despawn1Object`. -/
def despawned (st : PoolStore) (index : Nat) : PoolGroup :=
  { g.setSpawned index false st with spawnedPoolAmount := g.spawnedPoolAmount - 1 }

def countOne : PoolGroup := { g with spawnedPoolAmount := g.spawnedPoolAmount + 1 }

/-- `RemoveOneRelation`: the first entry in each list. -/
def removeOneRelation (child_pool_id : Nat) : PoolGroup :=
  { g with
    explicitlyChanced := g.explicitlyChanced.eraseP fun x => x.guid == child_pool_id
    equalChanced := g.equalChanced.eraseP fun x => x.guid == child_pool_id }

end PoolGroup

/-- The calls that are not over: a `SpawnPool` not begun, the loop of `SpawnObject` with the rounds it
has left, the same when it waits for a pool, the loops of `DespawnObject`, and these when they wait. -/
inductive PoolFrame where
  | calling (kind : PoolKind) (pool guid : Nat)
  | spawning (kind : PoolKind) (pool left triggerFrom lastDespawned : Nat)
  | marking (pool : Nat) (st : PoolStore) (index left triggerFrom lastDespawned : Nat)
  | despawning (kind : PoolKind) (pool guid : Nat) (st : PoolStore) (index : Nat)
  | unmarking (pool guid : Nat) (st : PoolStore) (index : Nat)
  deriving DecidableEq, Repr

structure PoolHandler where
  maxPoolId : Nat := 0
  maxLimit : Nat → Nat := fun _ => 0
  groups : PoolKind → Nat → PoolGroup := fun _ _ => {}
  poolSearchMap : Nat → Option Nat := fun _ => none
  stack : List PoolFrame := []

/-! ## `LoadFromDB` -/

/-- A row of `pool_creature`, `pool_gameobject` or `pool_pool`. -/
structure PoolRow where
  guid : Nat
  pool_id : Nat
  chance : ℚ
  deriving DecidableEq

/-- The tables, and which spawns exist. -/
structure PoolTables where
  pool_template : List (Nat × Nat) := []
  pool_creature : List PoolRow := []
  pool_gameobject : List PoolRow := []
  pool_pool : List PoolRow := []
  creatureData : Nat → Bool := fun _ => true
  lootableGOData : Nat → Bool := fun _ => true

namespace PoolHandler

variable (w : PoolHandler)

def setGroup (kind : PoolKind) (pool : Nat) (g : PoolGroup) : PoolHandler :=
  { w with groups := Function.update w.groups kind (Function.update (w.groups kind) pool g) }

def fabs (chance : ℚ) : ℚ := if chance < 0 then -chance else chance

def badChance (chance : ℚ) : Prop := chance < 0 ∨ 100 < chance

instance (chance : ℚ) : Decidable (badChance chance) := inferInstanceAs (Decidable (_ ∨ _))

def loadTemplate (row : Nat × Nat) : PoolHandler :=
  { w with maxLimit := Function.update w.maxLimit row.1 row.2 }

def addEntry (kind : PoolKind) (row : PoolRow) : PoolHandler :=
  w.setGroup kind row.pool_id ((w.groups kind row.pool_id).addEntry
    { guid := row.guid, chance := fabs row.chance } (w.maxLimit row.pool_id))

/-- A row of `pool_creature` or `pool_gameobject`. -/
def loadSpawn (kind : PoolKind) (valid : Nat → Bool) (w : PoolHandler) (row : PoolRow) : PoolHandler :=
  if valid row.guid = false then w
  else if row.pool_id > w.maxPoolId then w
  else if badChance row.chance then w
  else w.addEntry kind row

/-- `insert` into the search map keeps an earlier mother. -/
def insertMother (child mother : Nat) : PoolHandler :=
  match w.poolSearchMap child with
  | some _ => w
  | none => { w with poolSearchMap := Function.update w.poolSearchMap child (some mother) }

/-- A row of `pool_pool`. -/
def loadChild (row : PoolRow) : PoolHandler :=
  if row.pool_id > w.maxPoolId then w
  else if row.guid > w.maxPoolId then w
  else if row.pool_id = row.guid then w
  else if badChance row.chance then w
  else (w.addEntry .pool row).insertMother row.guid row.pool_id

/-- The inner loop of the check for circles: from child to mother, until a mother was a child before.
The result is this child and mother. -/
def followMothers (search : Nat → Option Nat) : Nat → Finset Nat → Nat → Option (Nat × Nat)
  | 0, _, _ => none
  | fuel + 1, checkedPools, child =>
    match search child with
    | none => none
    | some mother =>
      if mother ∈ insert child checkedPools then some (child, mother)
      else followMothers search fuel (insert child checkedPools) mother

def removeLink (child mother : Nat) : PoolHandler :=
  { w.setGroup .pool mother ((w.groups .pool mother).removeOneRelation child) with
    poolSearchMap := Function.update w.poolSearchMap child none }

/-- A round of the check for circles. -/
def checkCircle (i : Nat) : PoolHandler :=
  match followMothers w.poolSearchMap (w.maxPoolId + 1) ∅ i with
  | none => w
  | some (child, mother) => w.removeLink child mother

def checkCircles : PoolHandler := (List.range w.maxPoolId).foldl checkCircle w

/-- `pool_template` and the tables of spawns. -/
def loadSpawns (t : PoolTables) : PoolHandler :=
  let w0 : PoolHandler := { maxPoolId := (t.pool_template.map Prod.fst).foldr max 0 }
  let w1 := t.pool_template.foldl loadTemplate w0
  let w2 := t.pool_creature.foldl (loadSpawn .creature t.creatureData) w1
  t.pool_gameobject.foldl (loadSpawn .gameObject t.lootableGOData) w2

def loadFromDB (t : PoolTables) : PoolHandler :=
  if t.pool_template = [] then {} else (t.pool_pool.foldl loadChild (loadSpawns t)).checkCircles

end PoolHandler

/-! ## The calls -/

/-- What a call from outside asks for, and the turns. -/
inductive PoolRequest where
  | spawnPool (pool guid : Nat) (kind : PoolKind)
  | despawnPool (pool : Nat)
  | updatePool (pool guid : Nat) (kind : PoolKind)
  | turn (roll : ℚ) (pick : Nat) (answer : Bool)

/-- The conversion of a difference to `int`. -/
def int32 (n : Int) : Int := (n + 2 ^ 31) % 2 ^ 32 - 2 ^ 31

namespace PoolHandler

variable (w : PoolHandler)

/-- The rounds of the loop in `SpawnObject`. -/
def rounds (limit amount triggerFrom : Nat) : Nat :=
  let count := int32 (limit - amount)
  (if triggerFrom = 0 then count else int32 (count + 1)).toNat

/-- `SpawnPool` of a pool in a pool. -/
def spawnCalls (child : Nat) : List PoolFrame :=
  [.calling .pool child 0, .calling .gameObject child 0, .calling .creature child 0]

/-- `DespawnPool`. -/
def despawnCalls (pool : Nat) : List PoolFrame :=
  ([.creature, .gameObject, .pool].filter fun kind => !(w.groups kind pool).isEmpty).map
    fun kind => .despawning kind pool 0 .equalChanced 0

/-- A `SpawnPool` begins. -/
def beginSpawn (kind : PoolKind) (pool guid : Nat) (rest : List PoolFrame) : PoolHandler :=
  if (w.groups kind pool).isEmpty then { w with stack := rest }
  else { w with
    stack := .spawning kind pool (rounds (w.maxLimit pool) (w.groups kind pool).spawnedPoolAmount guid) guid 0 :: rest }

/-- What follows `Spawn1Object` in a round. -/
def endRound (kind : PoolKind) (pool left triggerFrom lastDespawned : Nat) (rest : List PoolFrame) :
    PoolHandler :=
  if triggerFrom ≠ 0 then
    { w with stack := .despawning kind pool triggerFrom .equalChanced 0 ::
        .spawning kind pool left 0 triggerFrom :: rest }
  else { w.setGroup kind pool (w.groups kind pool).countOne with
    stack := .spawning kind pool left 0 lastDespawned :: rest }

/-- `ReSpawn1Object` has nothing to do for a pool. -/
def reSpawn1Object (kind : PoolKind) (answer : Bool) : Bool := decide (kind = .pool) || answer

def setSpawned (kind : PoolKind) (pool : Nat) (st : PoolStore) (index : Nat) (spawned : Bool) : PoolHandler :=
  w.setGroup kind pool ((w.groups kind pool).setSpawned index spawned st)

/-- A round of the loop in `SpawnObject`, once an entry is rolled. -/
def spawnEntry (kind : PoolKind) (pool left triggerFrom lastDespawned : Nat) (rest : List PoolFrame)
    (answer : Bool) (st : PoolStore) (index : Nat) (x : PoolObject) : PoolHandler :=
  if x.guid = lastDespawned then { w with stack := .spawning kind pool left triggerFrom lastDespawned :: rest }
  else if x.guid = triggerFrom then
    { w.setSpawned kind pool st index (reSpawn1Object kind answer) with
      stack := .spawning kind pool left 0 lastDespawned :: rest }
  else if kind = .pool then
    { w with stack := spawnCalls x.guid ++ .marking pool st index left triggerFrom lastDespawned :: rest }
  else (w.setSpawned kind pool st index answer).endRound kind pool left triggerFrom lastDespawned rest

/-- The entry that is rolled. -/
def rolled (kind : PoolKind) (pool triggerFrom : Nat) (roll : ℚ) (pick : Nat) :
    Option (PoolStore × Nat × PoolObject) :=
  match (w.groups kind pool).rollOne roll pick triggerFrom with
  | none => none
  | some (st, index) => (((w.groups kind pool).store st)[index]?).map fun x => (st, index, x)

/-- A round of the loop in `SpawnObject`. -/
def spawnRound (kind : PoolKind) (pool left triggerFrom lastDespawned : Nat) (rest : List PoolFrame)
    (roll : ℚ) (pick : Nat) (answer : Bool) : PoolHandler :=
  match w.rolled kind pool triggerFrom roll pick with
  | none => { w with stack := .spawning kind pool left triggerFrom lastDespawned :: rest }
  | some (st, index, x) => w.spawnEntry kind pool left triggerFrom lastDespawned rest answer st index x

def setDespawned (kind : PoolKind) (pool : Nat) (st : PoolStore) (index : Nat) : PoolHandler :=
  w.setGroup kind pool ((w.groups kind pool).despawned st index)

/-- An entry in `DespawnObject`. -/
def despawnEntry (kind : PoolKind) (pool guid : Nat) (st : PoolStore) (index : Nat) (rest : List PoolFrame)
    (x : PoolObject) : PoolHandler :=
  if PoolGroup.toDespawn guid x = false then { w with stack := .despawning kind pool guid st (index + 1) :: rest }
  else if kind = .pool then
    { w with stack := w.despawnCalls x.guid ++ .unmarking pool guid st index :: rest }
  else { w.setDespawned kind pool st index with stack := .despawning kind pool guid st (index + 1) :: rest }

/-- `EqualChanced` comes first in `DespawnObject`. -/
def despawnTurn (kind : PoolKind) (pool guid : Nat) (st : PoolStore) (index : Nat) (rest : List PoolFrame) :
    PoolHandler :=
  match ((w.groups kind pool).store st)[index]?, st with
  | some x, _ => w.despawnEntry kind pool guid st index rest x
  | none, .equalChanced => { w with stack := .despawning kind pool guid .explicitlyChanced 0 :: rest }
  | none, .explicitlyChanced => { w with stack := rest }

def turn (roll : ℚ) (pick : Nat) (answer : Bool) : PoolHandler :=
  match w.stack with
  | [] => w
  | .calling kind pool guid :: rest => w.beginSpawn kind pool guid rest
  | .spawning _ _ 0 _ _ :: rest => { w with stack := rest }
  | .spawning kind pool (left + 1) triggerFrom lastDespawned :: rest =>
    w.spawnRound kind pool left triggerFrom lastDespawned rest roll pick answer
  | .marking pool st index left triggerFrom lastDespawned :: rest =>
    (w.setSpawned .pool pool st index true).endRound .pool pool left triggerFrom lastDespawned rest
  | .despawning kind pool guid st index :: rest => w.despawnTurn kind pool guid st index rest
  | .unmarking pool guid st index :: rest =>
    { w.setDespawned .pool pool st index with stack := .despawning .pool pool guid st (index + 1) :: rest }

/-- `UpdatePool`: the mother of the pool, when it has one, is spawned. -/
def updatePool (pool guid : Nat) (kind : PoolKind) : PoolHandler :=
  match w.poolSearchMap pool with
  | none => { w with stack := [.calling kind pool guid] }
  | some mother =>
    if mother ≠ 0 then { w with stack := [.calling .pool mother 0] }
    else { w with stack := [.calling kind pool guid] }

/-- A call from outside comes when none is on the stack. -/
def step (w : PoolHandler) (r : PoolRequest) : PoolHandler :=
  match r with
  | .turn roll pick answer => w.turn roll pick answer
  | .spawnPool pool guid kind => if w.stack = [] then { w with stack := [.calling kind pool guid] } else w
  | .despawnPool pool => if w.stack = [] then { w with stack := w.despawnCalls pool } else w
  | .updatePool pool guid kind => if w.stack = [] then w.updatePool pool guid kind else w

end PoolHandler

end BlizzLike
