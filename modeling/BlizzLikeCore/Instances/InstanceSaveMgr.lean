import BlizzLikeCore.Money
import BlizzLikeCore.Times
import BlizzLikeCore.Lib.TimedQueue
import Mathlib.Logic.Function.Basic
import Mathlib.Data.Int.Order.Basic
import Std.Data.TreeMap

/-!
# The reset times of instances

`InstanceSaveManager`, what it keeps of the times at which instances are reset: the next reset of every
map with a global one, and the queue of resets and warnings, each map's warnings an hour, a quarter, five
minutes and a minute before its reset, which is then made.

A time has 64 bits and is taken as a number without a bound, but for the times that are read from the
database.  What is cut to 32 bits is cut: the time that is left, the period of a map, and the hour.

Left out: the warnings that are sent, the instances that are unbound, and what is written to the
database.
-/

namespace BlizzLike

structure MapEntry where
  resetTimeHeroic : Nat
  resetTimeRaid : Nat
  instanceable : Bool

def MapEntry.hasResetTime (e : MapEntry) : Bool := e.resetTimeHeroic != 0 || e.resetTimeRaid != 0

structure InstanceTemplate where
  resetDelay : Nat

/-- The reset period of a template in seconds. -/
def InstanceTemplate.period (temp : InstanceTemplate) : Nat := u32 (temp.resetDelay * day)

/-- What the manager looks up: the maps of the client's data, of which only instances have a reset time, the
templates by their map, a number of 16 bits, and the setting `Instance.ResetTimeHour`. -/
structure InstanceData where
  maps : Nat → Option MapEntry
  templates : List (Option InstanceTemplate)
  resetTimeHour : Nat
  instanceable_of_reset : ∀ i e, maps i = some e → e.hasResetTime = true → e.instanceable = true
  templates_short : templates.length ≤ 65536

/-- What `LoadResetTimes` reads: the rows of `instance` (id, map and reset time), the last respawn in each
instance, and the rows of `instance_reset` (map and reset time). -/
structure ResetTables where
  instances : List (Nat × Nat × Nat) := []
  respawns : List (Nat × Nat) := []
  resets : List (Nat × Nat) := []

/-- `InstResetEvent`: an instance is reset (type 0), a map's warnings (1 to 3), its reset (4). -/
structure InstResetEvent where
  type : Nat
  mapid : Nat
  instanceId : Nat
  deriving DecidableEq, Repr

/-- A global reset that was made: of a map, at its reset time, when the clock stood there, with the next. -/
structure GlobalReset where
  mapid : Nat
  resetTime : Int
  clock : Nat
  next : Int
  deriving DecidableEq, Repr

/-- `InstanceSaveManager`, with the resets it made. -/
structure InstanceSaveManager where
  resetTimeByMapId : Nat → Int := fun _ => 0
  resetTimeQueue : List (Int × InstResetEvent) := []
  resets : List GlobalReset := []

/-- The clock in a call of `Update`: at its beginning, and in each turn of its loop. -/
structure Clock where
  now : Nat
  later : Nat → Nat := fun _ => now
  later_ge : ∀ i, now ≤ later i := by intro i; exact Nat.le_refl _

/-- `tim`: how long before the reset an event of a type takes place. -/
def resetLead : Nat → Int
  | 1 => 3600
  | 2 => 900
  | 3 => 300
  | 4 => 60
  | _ => 0

/-- A `uint64` as a `time_t`. -/
def timeOfU64 (n : Nat) : Int :=
  if n % 18446744073709551616 < 9223372036854775808 then (n % 18446744073709551616 : Nat)
  else (n % 18446744073709551616 : Nat) - 18446744073709551616

namespace InstanceData

variable (d : InstanceData)

def getInstanceTemplate (mapid : Nat) : Option InstanceTemplate := (d.templates[mapid]?).join

/-- The hour of resets in seconds. -/
def diff : Nat := u32 (d.resetTimeHour * hour)

def hasResetTime (mapid : Nat) : Bool := (d.maps mapid).any MapEntry.hasResetTime

def instanceable (mapid : Nat) : Bool := (d.maps mapid).any MapEntry.instanceable

end InstanceData

namespace InstanceSaveManager

variable (d : InstanceData) (w : InstanceSaveManager)

def getResetTimeFor (mapid : Nat) : Int := w.resetTimeByMapId mapid

/-- `ScheduleReset` of an event that is added. -/
def scheduleReset (time : Int) (event : InstResetEvent) : InstanceSaveManager :=
  { w with resetTimeQueue := TimedQueue.insert time event w.resetTimeQueue }

/-! ## Loading -/

/-- The reset times of normal instances by their ids, moved to two hours after the last respawn. -/
def instResetTimes (t : ResetTables) : Std.TreeMap Nat (Nat × Nat) :=
  let read := t.instances.foldl
    (fun m (r : Nat × Nat × Nat) => if r.2.2 = 0 then m else m.insert r.1 (r.2.1, r.2.2)) (∅ : Std.TreeMap Nat (Nat × Nat))
  t.respawns.foldl
    (fun m (r : Nat × Nat) =>
      match m[r.1]? with
      | none => m
      | some v => if v.2 ≠ r.2 + 2 * hour then m.insert r.1 (v.1, r.2 + 2 * hour) else m) read

/-- The loop that schedules the resets of normal instances. -/
def scheduleInstances (now : Nat) (rows : List (Nat × Nat × Nat)) : InstanceSaveManager :=
  rows.foldl
    (fun w r =>
      if r.2.2 > u32 now then w.scheduleReset (timeOfU64 r.2.2) ⟨0, r.2.1 % 65536, r.1 % 65536⟩ else w) w

/-- The loop over `instance_reset`: each time is moved to the hour of the settings. -/
def readResets (rows : List (Nat × Nat)) : InstanceSaveManager :=
  rows.foldl
    (fun w r =>
      if (d.getInstanceTemplate r.1).isNone then w
      else
        let newresettime := timeOfU64 ((r.2 % 18446744073709551616) / day * day + d.diff)
        { w with resetTimeByMapId := Function.update w.resetTimeByMapId r.1 newresettime }) w

/-- The first of the warnings and the reset that is still to come. -/
def nextType (t : Int) (now : Nat) : Nat :=
  if t - resetLead 1 > now then 1 else if t - resetLead 2 > now then 2 else if t - resetLead 3 > now then 3 else 4

/-- The reset time of a map, initialized if it was never reset, and moved on if it is over. -/
def nextReset (temp : InstanceTemplate) (now : Nat) (t : Int) : Int :=
  let today : Int := (now / day * day : Nat)
  let t1 := if t = 0 then today + temp.period + d.diff else t
  if t1 < now then
    let t2 := Int.tdiv t1 day * day
    t2 + (Int.tdiv (today - t2) (temp.period) + 1) * temp.period + d.diff
  else t1

/-- A map in the loop of `LoadResetTimes` over the templates; `none` is the failure of `ASSERT(period != 0)`. -/
def loadMap (now : Nat) (w : InstanceSaveManager) (i : Nat) : Option InstanceSaveManager :=
  match d.getInstanceTemplate i with
  | none => some w
  | some temp =>
    if d.hasResetTime i = false then some w
    else if temp.period = 0 then none
    else
      let t := nextReset d temp now (w.resetTimeByMapId i)
      let type := nextType t now
      some ({ w with resetTimeByMapId := Function.update w.resetTimeByMapId i t }.scheduleReset (t - resetLead type)
        ⟨type, i % 65536, 0⟩)

/-- `LoadResetTimes` of a new manager. -/
def loadResetTimes (tables : ResetTables) (now : Nat) : Option InstanceSaveManager :=
  let w : InstanceSaveManager := {}
  (List.range d.templates.length).foldlM (loadMap d now)
    (readResets d (w.scheduleInstances now (instResetTimes tables).toList) tables.resets)

/-! ## Updates -/

/-- `_ResetOrWarnAll`; `timeLeft` is a `uint32`, and the clock is read again. -/
def resetOrWarnAll (mapid : Nat) (warn : Bool) (timeLeft clock : Nat) : InstanceSaveManager :=
  if d.instanceable mapid = false then w
  else if warn then w
  else
    match d.getInstanceTemplate mapid with
    | none => w
    | some temp =>
      if temp.resetDelay = 0 then w
      else
        let next_reset := (clock + timeLeft + minute) / day * day + temp.period + d.diff
        let w1 : InstanceSaveManager :=
          { w with
            resetTimeByMapId := Function.update w.resetTimeByMapId mapid next_reset
            resets := w.resets ++ [⟨mapid, w.resetTimeByMapId mapid, clock, next_reset⟩] }
        w1.scheduleReset (next_reset - resetLead 1) ⟨1, mapid % 65536, 0⟩

/-- A turn of the loop in `Update`: the first event of the queue if its time is over. -/
def updateTurn (now clock : Nat) : InstanceSaveManager :=
  match w.resetTimeQueue with
  | [] => w
  | (t, event) :: q =>
    if ¬ t < now then w
    else if event.type = 0 then { w with resetTimeQueue := q }
    else
      let resetTime := w.getResetTimeFor event.mapid
      let w1 := w.resetOrWarnAll d event.mapid (event.type != 4) (u32OfInt (resetTime - now)) clock
      let w2 :=
        if event.type ≠ 4 then
          -- the type goes up in the queue, and then the event is copied into it
          let event1 := { event with type := (event.type + 1) % 256 }
          { w1 with resetTimeQueue := (t, event1) :: q }.scheduleReset (resetTime - resetLead event1.type) event1
        else w1
      { w2 with resetTimeQueue := w2.resetTimeQueue.tail }

/-- The turns of the loop in `Update`. -/
def updateTurns (c : Clock) : Nat → InstanceSaveManager
  | 0 => w
  | n + 1 => (updateTurns c n).updateTurn d c.now (c.later n)

/-- `Update`, which takes at most eight turns for each event in the queue (`update_ends`). -/
def update (c : Clock) : InstanceSaveManager := w.updateTurns d c (8 * w.resetTimeQueue.length)

end InstanceSaveManager

end BlizzLike
