import BlizzLikeCore.Loot.Loot
import BlizzLikeCore.Lib.Calls
import Mathlib.Algebra.Order.Ring.Rat

/-!
# Loot tables

The loot templates as `LoadLootTable` builds them from a table, what the checks of the loaded
tables report, and `Process`, which rolls for the rows of a template and calls itself for the
templates they refer to.  All references are looked up in `LootTemplates_Reference`, `refs` here.
-/

namespace BlizzLike

/-! ## Tables -/

/-- What `ItemPrototype` tells about a drop. -/
structure LootProto where
  quality : Nat
  partyLoot : Bool

/-- What loading and rolling read from elsewhere. -/
structure LootWorld where
  getItemPrototype : Nat → Option LootProto
  isValidCondition : Nat → Nat → Nat → Bool
  getConditionId : Nat → Nat → Nat → Nat
  rateReferenced : ℚ
  rateQuality : Nat → ℚ

/-- A row of a `*_loot_template` table. -/
structure LootRow where
  entry : Nat
  item : Nat
  chanceOrQuestChance : ℚ
  groupid : Nat
  mincountOrRef : Int
  maxcount : Nat
  lootcondition : Nat := 0
  conditionValue1 : Nat := 0
  conditionValue2 : Nat := 0

/-- A `LootStoreItem` of a template, its count not drawn yet. -/
structure LootTableItem where
  itemid : Nat
  chance : ℚ
  mincountOrRef : Int
  group : Nat
  maxcount : Nat
  conditionId : Nat
  needsQuest : Bool
  nonneg : 0 ≤ chance

structure LootGroup where
  explicitlyChanced : List LootTableItem
  equalChanced : List LootTableItem
  explicit : ∀ e ∈ explicitlyChanced, e.chance ≠ 0

structure LootTemplate where
  entries : List LootTableItem := []
  groups : List LootGroup := []

abbrev LootTemplateMap := List (Nat × LootTemplate)

/-- The lines that are logged for a table. -/
inductive LootReport where
  | invalidCondition (entry item : Nat)
  | wrongMincountOrRef (entry item : Nat) (mincountOrRef : Int)
  | noItemTemplate (entry item : Nat)
  | groupNotDefined (entry item : Nat)
  | lowChance (entry item : Nat) (chance : ℚ)
  | questChanceOfReference (entry item : Nat)
  | zeroChanceOfReference (entry item : Nat)
  | totalChance (id group : Nat) (chance : ℚ)
  | equalChancedUseless (id group : Nat) (chance : ℚ)
  | notExistedId (id : Nat)
  | unusedId (id : Nat)
  deriving DecidableEq

namespace LootTableItem

/-- The constructor of `LootStoreItem`, which takes the condition as a `uint8`. -/
def ofRow (w : LootWorld) (row : LootRow) : LootTableItem where
  itemid := row.item
  chance := |row.chanceOrQuestChance|
  mincountOrRef := row.mincountOrRef
  group := u8 row.groupid
  maxcount := u8 row.maxcount
  conditionId := u8 (w.getConditionId row.lootcondition row.conditionValue1 row.conditionValue2)
  needsQuest := decide (row.chanceOrQuestChance < 0)
  nonneg := abs_nonneg _

variable (e : LootTableItem)

/-- `IsValid`, with what it reports. -/
def isValid (w : LootWorld) (entry : Nat) : Bool × List LootReport :=
  if e.mincountOrRef = 0 then (false, [.wrongMincountOrRef entry e.itemid e.mincountOrRef])
  else if e.mincountOrRef > 0 then
    if (w.getItemPrototype e.itemid).isNone then (false, [.noItemTemplate entry e.itemid])
    else if e.chance = 0 ∧ e.group = 0 then (false, [.groupNotDefined entry e.itemid])
    else if e.chance ≠ 0 ∧ e.chance < 1 / 1000000 then (false, [.lowChance entry e.itemid e.chance])
    else (true, [])
  else if e.needsQuest then (true, [.questChanceOfReference entry e.itemid])
  else if e.chance = 0 then (false, [.zeroChanceOfReference entry e.itemid])
  else (true, [])

/-- The template a reference names. -/
def ref : Nat := (-e.mincountOrRef).toNat

end LootTableItem

namespace LootGroup

variable (grp : LootGroup)

/-- A group as `resize` creates it. -/
def empty : LootGroup where
  explicitlyChanced := []
  equalChanced := []
  explicit := fun _ h => absurd h List.not_mem_nil

def addEntry (e : LootTableItem) : LootGroup :=
  if h : e.chance ≠ 0 then
    { grp with
      explicitlyChanced := grp.explicitlyChanced ++ [e]
      explicit := by
        intro x hx
        rcases List.mem_append.1 hx with hx | hx
        · exact grp.explicit x hx
        · exact List.mem_singleton.1 hx ▸ h }
  else { grp with equalChanced := grp.equalChanced ++ [e] }

def rawTotalChance : ℚ := ((grp.explicitlyChanced.filter fun e => !e.needsQuest).map LootTableItem.chance).sum

def verify (id groupId : Nat) : List LootReport :=
  (if grp.rawTotalChance > 101 then [LootReport.totalChance id groupId grp.rawTotalChance] else []) ++
    if grp.rawTotalChance ≥ 100 ∧ grp.equalChanced ≠ [] then
      [.equalChancedUseless id groupId grp.rawTotalChance]
    else []

end LootGroup

namespace LootTemplate

variable (t : LootTemplate)

def addEntry (e : LootTableItem) : LootTemplate :=
  if e.group > 0 ∧ e.mincountOrRef > 0 then
    { t with
      groups := (t.groups ++ List.replicate (e.group - t.groups.length) LootGroup.empty).modify (e.group - 1)
        fun grp => grp.addEntry e }
  else { t with entries := t.entries ++ [e] }

def verify (id : Nat) : List LootReport := t.groups.zipIdx.flatMap fun g => g.1.verify id (g.2 + 1)

/-- The templates the rows refer to, as `CheckLootRefs` goes through them. -/
def refs : List Nat :=
  ((t.entries ++ t.groups.flatMap fun grp => grp.explicitlyChanced ++ grp.equalChanced).filter fun e =>
    e.mincountOrRef < 0).map LootTableItem.ref

end LootTemplate

namespace LootTemplateMap

/-- The row goes to the template of its entry, which it creates when it is the first. -/
def addRow (m : LootTemplateMap) (entry : Nat) (e : LootTableItem) : LootTemplateMap :=
  if (m.lookup entry).isNone then m ++ [(entry, LootTemplate.addEntry {} e)]
  else m.map fun p => if p.1 = entry then (p.1, p.2.addEntry e) else p

def verify (m : LootTemplateMap) : List LootReport := m.flatMap fun p => p.2.verify p.1

/-- A row of the table in `LoadLootTable`. -/
def loadRow (w : LootWorld) (acc : LootTemplateMap × List LootReport) (row : LootRow) :
    LootTemplateMap × List LootReport :=
  if w.isValidCondition row.lootcondition row.conditionValue1 row.conditionValue2 = false then
    (acc.1, acc.2 ++ [.invalidCondition row.entry row.item])
  else
    let (valid, reports) := (LootTableItem.ofRow w row).isValid w row.entry
    if valid then (addRow acc.1 row.entry (LootTableItem.ofRow w row), acc.2 ++ reports)
    else (acc.1, acc.2 ++ reports)

def loadLootTable (w : LootWorld) (rows : List LootRow) : LootTemplateMap × List LootReport :=
  let (m, reports) := rows.foldl (loadRow w) ([], [])
  (m, reports ++ verify m)

/-- `CheckLootRefs`: what it reports, and what it leaves of the set of ids. -/
def checkLootRefs (refs m : LootTemplateMap) (refSet : List Nat) : List Nat × List LootReport :=
  let named := m.flatMap fun p => p.2.refs
  (refSet.filter fun id => !named.contains id,
    (named.filter fun id => (refs.lookup id).isNone).map LootReport.notExistedId)

/-- The checks of `LoadLootTemplates_Reference`, over all the stores. -/
def checkReferences (refs : LootTemplateMap) (stores : List LootTemplateMap) : List LootReport :=
  let (left, reports) := (stores ++ [refs]).foldl
    (fun acc m => ((checkLootRefs refs m acc.1).1, acc.2 ++ (checkLootRefs refs m acc.1).2))
    (refs.map Prod.fst, [])
  reports ++ left.map LootReport.unusedId

end LootTemplateMap

/-! ## Rolling -/

/-- What the generator yields: for `rand_chance`, and the raw value for `irand` and `urand`. -/
structure Draw where
  randChance : ℚ
  raw : Nat
  nonneg : 0 ≤ randChance
  lt_hundred : randChance < 100

/-- All that the generator yields. -/
abbrev Dice := Nat → Draw

/-- The loot and how much has been drawn. -/
structure Looting where
  loot : Loot := {}
  drawn : Nat := 0

namespace Looting

variable (w : LootWorld) (dice : Dice) (g : Looting)

def draw : Looting := { g with drawn := g.drawn + 1 }

def rollChanceF (chance : ℚ) : Bool × Looting := (decide ((dice g.drawn).randChance < chance), g.draw)

/-- The count `urand` draws, in `uint32` arithmetic. -/
def drawCount (mincount maxcount raw : Nat) : Nat :=
  (mincount + raw % ((maxcount + (4294967296 - mincount)) % 4294967296 + 1)) % 4294967296

/-- `AddItem` of a row of a template. -/
def addItem (e : LootTableItem) : Looting :=
  { loot := g.loot.addItem
      { itemid := e.itemid, conditionId := e.conditionId, needsQuest := e.needsQuest
        count := drawCount e.mincountOrRef.toNat e.maxcount ((dice g.drawn).raw)
        partyLoot := ((w.getItemPrototype e.itemid).map LootProto.partyLoot).getD false }
    drawn := g.drawn + 1 }

def roll (e : LootTableItem) : Bool × Looting :=
  if e.chance ≥ 100 then (true, g)
  else if e.mincountOrRef < 0 then g.rollChanceF dice (e.chance * w.rateReferenced)
  else
    g.rollChanceF dice
      (e.chance * ((w.getItemPrototype e.itemid).map fun proto => w.rateQuality proto.quality).getD 1)

/-- The explicitly chanced entries, in turn. -/
def pickExplicit : List LootTableItem → ℚ → Option LootTableItem
  | [], _ => none
  | e :: es, roll =>
    if e.chance ≥ 100 then some e
    else if roll - e.chance < 0 then some e
    else pickExplicit es (roll - e.chance)

/-- `LootGroup::Roll`. -/
def rollGroup (grp : LootGroup) : Option LootTableItem × Looting :=
  let (found, g1) :=
    if grp.explicitlyChanced = [] then (none, g)
    else (pickExplicit grp.explicitlyChanced ((dice g.drawn).randChance), g.draw)
  match found with
  | some e => (some e, g1)
  | none =>
    if grp.equalChanced = [] then (none, g1)
    else (grp.equalChanced[(dice g1.drawn).raw % grp.equalChanced.length]?, g1.draw)

/-- `LootGroup::Process`. -/
def processGroup (grp : LootGroup) : Looting :=
  match g.rollGroup dice grp with
  | (none, g1) => g1
  | (some e, g1) => g1.addItem w dice e

end Looting

namespace LootTemplate

variable (w : LootWorld) (refs : LootTemplateMap)

/-- A non-grouped row in `Process`, whose references go to `call`. -/
def processEntry (call : LootTemplate × Nat → Dice → Looting → Option Looting) (dice : Dice) (g : Looting)
    (e : LootTableItem) : Option Looting :=
  let (hit, g1) := g.roll w dice e
  if hit = false then some g1
  else if e.mincountOrRef < 0 then
    match refs.lookup e.ref with
    | none => some g1
    | some referenced => (List.range e.maxcount).foldlM (fun g _ => call (referenced, e.group) dice g) g1
  else some (g1.addItem w dice e)

/-- The body of `Process`, for a template and a `groupId`. -/
def processBody (call : LootTemplate × Nat → Dice → Looting → Option Looting) :
    LootTemplate × Nat → Dice → Looting → Option Looting
  | (t, groupId), dice, g =>
    if groupId ≠ 0 then
      match t.groups[groupId - 1]? with
      | none => some g
      | some grp => some (g.processGroup w dice grp)
    else
      (t.entries.foldlM (processEntry w refs call dice) g).map fun g1 =>
        t.groups.foldl (fun g grp => g.processGroup w dice grp) g1

/-- `Process`, `none` when the calls go deeper than `depth`. -/
def process (dice : Dice) (depth : Nat) (t : LootTemplate) (groupId : Nat) (g : Looting) : Option Looting :=
  Calls.run (processBody w refs) (fun _ _ => none) depth (t, groupId) dice g

end LootTemplate

end BlizzLike
