import BlizzLikeCore.Item
import Mathlib.Data.Nat.Find
import Mathlib.Tactic.Common

/-!
# Transports

A transport goes round its waypoints, each with the time of the path at which it is reached.
`Update` walks from the waypoint it stands at to the one for the timer: it goes on as long as the
timer is farther from the waypoint, modulo the time of the path, than the next waypoint is.  Both
distances are taken in `uint32` first, and what is added there to a difference below 0 need not be a
multiple of the path's time.

An update comes to the right waypoint exactly if, with the distances as they are, the pair of the
right waypoint stops the walk and none on the way to it does (`update_right_iff`).  A pair stops it
also where the timer is at its end, one waypoint too early; where no pair stops it,
the walk never ends (`update_never_ends`).

    turn_spec      : a turn of the loop goes to the next waypoint
    moveLoop_stops : where the walk stops
    reached_pair   : the transport stands at a waypoint and goes to the one after it
-/

namespace BlizzLike.Transports

/-! ## The transport -/

/-- `WayPoint`, with positions of some type. -/
structure WayPoint (P : Type) where
  mapid : Nat
  pos : P
  teleport : Bool
  id : Nat

/-- The data of a transport that its updates use.  Iterators of `m_WayPoints`, a `std::map`, are places
in the list of its entries; `scripts` are the scripts that were started. -/
structure Transport (P : Type) where
  entry : Nat
  wayPoints : List (Nat × WayPoint P)
  pathTime : Nat
  period : Nat
  curr : Nat := 0
  next : Nat := 0
  timer : Nat := 0
  nextNodeTime : Nat := 0
  mapId : Nat
  pos : P
  scripts : List Nat := []

namespace Transport

variable {P : Type}

def getNextWayPoint (t : Transport P) : Nat := if t.curr + 1 = t.wayPoints.length then 0 else t.curr + 1

/-- The time of the waypoint at a place. -/
def timeAt (t : Transport P) (i : Nat) : Nat := (t.wayPoints[i]?.map Prod.fst).getD 0

def relocate (t : Transport P) (pos : P) : Transport P := { t with pos := pos }

/-- `TeleportTransport`, as far as the transport itself is concerned. -/
def teleportTransport (t : Transport P) (newMapid : Nat) (pos : P) : Transport P :=
  { t.relocate pos with mapId := newMapid }

/-- `CheckForEvent`; `eventMap` is `TransportEventMap`. -/
def checkForEvent (eventMap : Nat → Option Nat) (t : Transport P) (wp_id : Nat) : Transport P :=
  { t with scripts := t.scripts ++ (eventMap (u32 (t.entry * 100 + wp_id))).toList }

/-- The end of `GenerateWaypoints`. -/
def placed (t : Transport P) : Transport P :=
  let t := { t with curr := 0 }
  let t := { t with curr := t.getNextWayPoint }
  let t := { t with next := t.getNextWayPoint }
  { t with nextNodeTime := t.timeAt t.curr }

/-- The condition of the loop in `Update`. -/
def behind (t : Transport P) : Bool :=
  decide (sub32 t.timer (t.timeAt t.curr) % t.pathTime > sub32 (t.timeAt t.next) (t.timeAt t.curr) % t.pathTime)

/-- The iterators after a turn of the loop. -/
def turned (t : Transport P) : Transport P :=
  let t := { t with curr := t.getNextWayPoint }
  { t with next := t.getNextWayPoint }

/-- What a turn of the loop does at the waypoint it has come to. -/
def arrive (eventMap : Nat → Option Nat) (t : Transport P) : Transport P :=
  match t.wayPoints[t.curr]? with
  | none => t
  | some (time, wp) =>
    let t := if wp.mapid ≠ t.mapId ∨ wp.teleport = true then t.teleportTransport wp.mapid wp.pos else t.relocate wp.pos
    checkForEvent eventMap { t with nextNodeTime := time } wp.id

/-- The loop of `Update` with some turns at most; `none` where it would take more. -/
def moveLoop (eventMap : Nat → Option Nat) : Nat → Transport P → Option (Transport P)
  | 0, t => if t.behind then none else some t
  | n + 1, t => if t.behind then moveLoop eventMap n (arrive eventMap t.turned) else some t

/-- `Update` at a value of `getMSTime`. -/
def update (eventMap : Nat → Option Nat) (t : Transport P) (msTime : UInt32) (turns : Nat) : Option (Transport P) :=
  if t.wayPoints.length ≤ 1 then some t
  else moveLoop eventMap turns { t with timer := msTime.toNat % t.period }

/-- The states of a transport that updates lead to. -/
inductive Reached (eventMap : Nat → Option Nat) (t : Transport P) : Transport P → Prop
  | placed : Reached eventMap t t.placed
  | update {t1 t2 : Transport P} (h : Reached eventMap t t1) (msTime : UInt32) (turns : Nat)
      (hupdate : t1.update eventMap msTime turns = some t2) : Reached eventMap t t2

/-- The data of a transport: at least two waypoints, at ascending times within the path, and a period. -/
structure Route (t : Transport P) : Prop where
  two : 2 ≤ t.wayPoints.length
  ascending : (t.wayPoints.map Prod.fst).Pairwise (· < ·)
  within : ∀ time ∈ t.wayPoints.map Prod.fst, time ≤ t.pathTime
  pathTime_lt : t.pathTime < 4294967296
  period_pos : 0 < t.period

/-! ## Where an update should come to -/

/-- The last waypoint whose time is at most a time of the path; before the first one it is the last
of the round before. -/
def Last (t : Transport P) (time i : Nat) : Prop :=
  i < t.wayPoints.length ∧
    ((t.timeAt i ≤ time ∧ ∀ j, i < j → j < t.wayPoints.length → time < t.timeAt j) ∨
      i + 1 = t.wayPoints.length ∧ ∀ j, j < t.wayPoints.length → time < t.timeAt j)

/-- How far a value of the timer is from the waypoint at a place: a value before the waypoint's time
counts as one of the next round of the clock. -/
def distance (t : Transport P) (timer i : Nat) : Nat :=
  if t.timeAt i ≤ timer then timer - t.timeAt i else timer + 4294967296 - t.timeAt i

/-- How far the next waypoint is; the first one is in the next round of the clock. -/
def span (t : Transport P) (i : Nat) : Nat :=
  if i + 1 < t.wayPoints.length then t.timeAt (i + 1) - t.timeAt i else t.timeAt 0 + 4294967296 - t.timeAt i

/-- The timer is between the waypoint at a place and the next one, both included, modulo the time of
the path. -/
def Between (t : Transport P) (timer i : Nat) : Prop := t.distance timer i % t.pathTime ≤ t.span i % t.pathTime

instance (t : Transport P) (timer i : Nat) : Decidable (t.Between timer i) := inferInstanceAs (Decidable (_ ≤ _))

/-- The timer is between the right waypoint and the next one, and between no two on the way there. -/
structure Clear (t : Transport P) (timer right : Nat) : Prop where
  before : ∀ i, i < (right + t.wayPoints.length - t.curr) % t.wayPoints.length →
    ¬ t.Between timer ((t.curr + i) % t.wayPoints.length)
  right : t.Between timer right

/-! ## A turn of the loop -/

variable {eventMap : Nat → Option Nat} {t t' t0 : Transport P}

/-- A transport with the data of another one. -/
structure SameRoute (t t' : Transport P) : Prop where
  wayPoints : t'.wayPoints = t.wayPoints
  pathTime : t'.pathTime = t.pathTime
  period : t'.period = t.period

theorem SameRoute.trans {t'' : Transport P} (h : SameRoute t t') (h' : SameRoute t' t'') : SameRoute t t'' :=
  ⟨h'.wayPoints.trans h.wayPoints, h'.pathTime.trans h.pathTime, h'.period.trans h.period⟩

theorem SameRoute.route (h : SameRoute t t') (hroute : t.Route) : t'.Route := by
  obtain ⟨two, ascending, within, lt, pos⟩ := hroute
  exact ⟨h.wayPoints ▸ two, h.wayPoints ▸ ascending, h.wayPoints ▸ h.pathTime ▸ within, h.pathTime ▸ lt, h.period ▸ pos⟩

theorem SameRoute.timeAt (h : SameRoute t t') (i : Nat) : t'.timeAt i = t.timeAt i := by
  unfold Transport.timeAt
  rw [h.wayPoints]

theorem SameRoute.between (h : SameRoute t t') (timer i : Nat) : t'.Between timer i ↔ t.Between timer i := by
  unfold Between distance span
  rw [h.timeAt, h.timeAt, h.timeAt, h.wayPoints, h.pathTime]

/-- The transport stands at a waypoint, and goes to the one after it. -/
structure Pair (t : Transport P) : Prop where
  curr_lt : t.curr < t.wayPoints.length
  next_eq : t.next = t.getNextWayPoint

theorem getNextWayPoint_eq (h : t.curr < t.wayPoints.length) : t.getNextWayPoint = (t.curr + 1) % t.wayPoints.length := by
  unfold getNextWayPoint
  split
  · next heq => rw [heq, Nat.mod_self]
  · rw [Nat.mod_eq_of_lt (by omega)]

theorem arrive_same (eventMap : Nat → Option Nat) (t : Transport P) :
    SameRoute t (arrive eventMap t) ∧ (arrive eventMap t).curr = t.curr ∧ (arrive eventMap t).next = t.next ∧
      (arrive eventMap t).timer = t.timer := by
  unfold arrive
  split
  · exact ⟨⟨rfl, rfl, rfl⟩, rfl, rfl, rfl⟩
  · split <;> exact ⟨⟨rfl, rfl, rfl⟩, rfl, rfl, rfl⟩

/-- **A turn** goes to the next waypoint. -/
theorem turn_spec (eventMap : Nat → Option Nat) (h : t.Pair) :
    SameRoute t (arrive eventMap t.turned) ∧ (arrive eventMap t.turned).Pair ∧
      (arrive eventMap t.turned).curr = (t.curr + 1) % t.wayPoints.length ∧
      (arrive eventMap t.turned).timer = t.timer := by
  obtain ⟨hsame, hcurr, hnext, htimer⟩ := arrive_same eventMap t.turned
  have hturned : SameRoute t t.turned := ⟨rfl, rfl, rfl⟩
  have hsame' : SameRoute t (arrive eventMap t.turned) := hturned.trans hsame
  have hplace : (arrive eventMap t.turned).curr = (t.curr + 1) % t.wayPoints.length := by
    rw [hcurr]
    exact getNextWayPoint_eq h.curr_lt
  refine ⟨hsame', ⟨?_, ?_⟩, hplace, htimer⟩
  · rw [hplace, hsame'.wayPoints]
    exact Nat.mod_lt _ (Nat.zero_lt_of_lt h.curr_lt)
  · rw [hnext]
    unfold getNextWayPoint
    rw [hcurr, hsame'.wayPoints]
    rfl

theorem Route.timeAt_lt (h : t.Route) {i j : Nat} (hij : i < j) (hj : j < t.wayPoints.length) :
    t.timeAt i < t.timeAt j := by
  have hi : i < t.wayPoints.length := Nat.lt_trans hij hj
  have hlt := (List.pairwise_iff_getElem.1 h.ascending) i j (by simpa using hi) (by simpa using hj) hij
  simpa [timeAt, List.getElem?_eq_getElem hi, List.getElem?_eq_getElem hj] using hlt

theorem behind_iff (hroute : t.Route) (h : t.Pair) : t.behind = true ↔ ¬ t.Between t.timer t.curr := by
  have hspan : sub32 (t.timeAt t.next) (t.timeAt t.curr) = t.span t.curr := by
    rw [h.next_eq, getNextWayPoint_eq h.curr_lt]
    unfold span
    split
    · next hlt =>
      rw [Nat.mod_eq_of_lt hlt, sub32_eq _ _ (Nat.le_of_lt (hroute.timeAt_lt (Nat.lt_add_one _) hlt))]
    · next hge =>
      have hlen : t.curr + 1 = t.wayPoints.length := by
        have := h.curr_lt
        omega
      have hlt : t.timeAt 0 < t.timeAt t.curr := hroute.timeAt_lt (by have := hroute.two; omega) h.curr_lt
      rw [hlen, Nat.mod_self]
      unfold sub32
      rw [if_neg (by omega)]
  unfold behind Between
  rw [hspan, decide_eq_true_iff, Nat.not_le]
  rfl

/-! ## The walk -/

/-- **Where the walk stops**: at the first pair that has the timer. -/
theorem moveLoop_stops (eventMap : Nat → Option Nat) {n m : Nat} (hroute : t.Route) (h : t.Pair) (hm : m ≤ n)
    (hbefore : ∀ i, i < m → ¬ t.Between t.timer ((t.curr + i) % t.wayPoints.length))
    (hstop : t.Between t.timer ((t.curr + m) % t.wayPoints.length)) :
    ∃ t', moveLoop eventMap n t = some t' ∧ SameRoute t t' ∧ t'.Pair ∧
      t'.curr = (t.curr + m) % t.wayPoints.length := by
  induction m generalizing n t with
  | zero =>
    rw [Nat.add_zero, Nat.mod_eq_of_lt h.curr_lt] at hstop ⊢
    have hbehind : t.behind = false := by
      rw [← Bool.not_eq_true, behind_iff hroute h, not_not]
      exact hstop
    refine ⟨t, ?_, ⟨rfl, rfl, rfl⟩, h, rfl⟩
    cases n <;> simp [moveLoop, hbehind]
  | succ m ih =>
    obtain ⟨n, rfl⟩ : ∃ k, n = k + 1 := ⟨n - 1, by omega⟩
    have hbehind : t.behind = true := by
      rw [behind_iff hroute h]
      have := hbefore 0 (by omega)
      rwa [Nat.add_zero, Nat.mod_eq_of_lt h.curr_lt] at this
    obtain ⟨hsame, hpair, hcurr, htimer⟩ := turn_spec eventMap h
    have hplace : ∀ i, ((arrive eventMap t.turned).curr + i) % t.wayPoints.length =
        (t.curr + (i + 1)) % t.wayPoints.length := by
      intro i
      rw [hcurr, Nat.mod_add_mod]
      congr 1
      omega
    obtain ⟨t', hloop, hsame', hpair', hcurr'⟩ := ih (hsame.route hroute) hpair (n := n) (by omega)
      (fun i hi => by rw [hsame.wayPoints, htimer, hplace, hsame.between]; exact hbefore (i + 1) (by omega))
      (by rw [hsame.wayPoints, htimer, hplace, hsame.between]; exact hstop)
    refine ⟨t', ?_, hsame.trans hsame', hpair', ?_⟩
    · rw [← hloop]
      simp [moveLoop, hbehind]
    · rw [hcurr', hsame.wayPoints, hplace]

theorem moveLoop_goes_on {n : Nat} (hroute : t.Route) (h : t.Pair)
    (hnone : ∀ i, i ≤ n → ¬ t.Between t.timer ((t.curr + i) % t.wayPoints.length)) :
    moveLoop eventMap n t = none := by
  have hbehind : t.behind = true := by
    rw [behind_iff hroute h]
    have := hnone 0 (Nat.zero_le n)
    rwa [Nat.add_zero, Nat.mod_eq_of_lt h.curr_lt] at this
  induction n generalizing t with
  | zero => simp [moveLoop, hbehind]
  | succ n ih =>
    obtain ⟨hsame, hpair, hcurr, htimer⟩ := turn_spec eventMap h
    have hrest : ∀ i, i ≤ n → ¬ (arrive eventMap t.turned).Between (arrive eventMap t.turned).timer
        (((arrive eventMap t.turned).curr + i) % (arrive eventMap t.turned).wayPoints.length) := by
      intro i hi
      rw [hsame.wayPoints, htimer, hsame.between, hcurr, Nat.mod_add_mod, Nat.add_right_comm, Nat.add_assoc]
      exact hnone (i + 1) (by omega)
    have hnext := ih (hsame.route hroute) hpair hrest (by
      rw [behind_iff (hsame.route hroute) hpair]
      have := hrest 0 (Nat.zero_le n)
      rwa [Nat.add_zero, Nat.mod_eq_of_lt hpair.curr_lt] at this)
    rw [← hnext]
    simp [moveLoop, hbehind]

theorem moveLoop_cases (eventMap : Nat → Option Nat) (n : Nat) (hroute : t.Route) (h : t.Pair) :
    (∃ m t', m ≤ n ∧ (∀ i, i < m → ¬ t.Between t.timer ((t.curr + i) % t.wayPoints.length)) ∧
      t.Between t.timer ((t.curr + m) % t.wayPoints.length) ∧ moveLoop eventMap n t = some t' ∧ SameRoute t t' ∧
        t'.Pair ∧ t'.curr = (t.curr + m) % t.wayPoints.length) ∨ moveLoop eventMap n t = none := by
  classical
  by_cases hstops : ∃ m, m ≤ n ∧ t.Between t.timer ((t.curr + m) % t.wayPoints.length)
  · left
    obtain ⟨hm, hstop⟩ := Nat.find_spec hstops
    have hbefore : ∀ i, i < Nat.find hstops → ¬ t.Between t.timer ((t.curr + i) % t.wayPoints.length) :=
      fun i hi hbetween => Nat.find_min hstops hi ⟨by omega, hbetween⟩
    obtain ⟨t', hloop, hsame, hpair, hcurr⟩ := moveLoop_stops eventMap hroute h hm hbefore hstop
    exact ⟨_, t', hm, hbefore, hstop, hloop, hsame, hpair, hcurr⟩
  · exact .inr (moveLoop_goes_on hroute h fun i hi hbetween => hstops ⟨i, hi, hbetween⟩)

/-! ## Runs -/

theorem placed_pair (hroute : t0.Route) : t0.placed.Pair := by
  have hlen := hroute.two
  have hzero : 0 < t0.wayPoints.length := by omega
  have hcurr : t0.placed.curr = 1 % t0.wayPoints.length := getNextWayPoint_eq (t := { t0 with curr := 0 }) hzero
  constructor
  · rw [hcurr]
    exact Nat.mod_lt _ (by omega)
  · rfl

theorem update_pair {msTime : UInt32} {turns : Nat} (hroute : t.Route) (h : t.Pair)
    (hupdate : t.update eventMap msTime turns = some t') : SameRoute t t' ∧ t'.Pair := by
  have hlen := hroute.two
  unfold update at hupdate
  rw [if_neg (by omega)] at hupdate
  have hsame : SameRoute t { t with timer := msTime.toNat % t.period } := ⟨rfl, rfl, rfl⟩
  rcases moveLoop_cases eventMap turns (hsame.route hroute)
    (t := { t with timer := msTime.toNat % t.period }) ⟨h.curr_lt, h.next_eq⟩ with
    ⟨-, t'', -, -, -, hloop, hsame', hpair', -⟩ | hnone
  · obtain rfl : t'' = t' := Option.some.inj (hloop.symm.trans hupdate)
    exact ⟨hsame.trans hsame', hpair'⟩
  · exact nomatch hnone.symm.trans hupdate

/-- **In every state** that updates lead to, the transport stands at a waypoint and goes to the one
after it. -/
theorem reached_pair (hroute : t0.Route) (h : Reached eventMap t0 t) : t.Route ∧ t.Pair := by
  induction h with
  | placed =>
    have hsame : SameRoute t0 t0.placed := ⟨rfl, rfl, rfl⟩
    exact ⟨hsame.route hroute, placed_pair hroute⟩
  | update _ msTime turns hupdate ih =>
    obtain ⟨hsame, hpair⟩ := update_pair ih.1 ih.2 hupdate
    exact ⟨hsame.route ih.1, hpair⟩

/-! ## The right waypoint -/

/-- **The waypoint an update comes to.**  In every state that updates lead to, and at every value of the
clock, an update comes, within one round of the path, to the right waypoint and the pair it begins
exactly if the timer is between the right waypoint and the next one, and between no two of those on
the way there, with distances in the round of the clock, modulo the time of the path. -/
theorem update_right_iff (eventMap : Nat → Option Nat) (t0 t : Transport P) (hroute : t0.Route)
    (hreached : Reached eventMap t0 t) (msTime : UInt32) :
    (∃ t', t.update eventMap msTime t.wayPoints.length = some t' ∧
        t.Last (msTime.toNat % t.period % t.pathTime) t'.curr ∧ t'.next = t'.getNextWayPoint) ↔
      ∃ right, t.Last (msTime.toNat % t.period % t.pathTime) right ∧ t.Clear (msTime.toNat % t.period) right := by
  obtain ⟨hroute', hpair⟩ := reached_pair hroute hreached
  have hlen := hroute'.two
  generalize htimer : msTime.toNat % t.period = timer
  have hsame : SameRoute t { t with timer := timer } := ⟨rfl, rfl, rfl⟩
  have hpair' : Pair { t with timer := timer } := ⟨hpair.curr_lt, hpair.next_eq⟩
  have hupdate : t.update eventMap msTime t.wayPoints.length =
      moveLoop eventMap t.wayPoints.length { t with timer := timer } := by
    unfold update
    rw [if_neg (by omega), htimer]
  rw [hupdate]
  have hcurr := hpair.curr_lt
  constructor
  · rintro ⟨t', hloop, hlast, -⟩
    rcases moveLoop_cases eventMap t.wayPoints.length (hsame.route hroute') hpair' with
      ⟨m, t'', hm, hbefore, hstop, hloop', -, -, hplace⟩ | hnone
    · obtain rfl : t'' = t' := Option.some.inj (hloop'.symm.trans hloop)
      have hplace' : t''.curr = (t.curr + m) % t.wayPoints.length := hplace
      have hmlt : m < t.wayPoints.length := by
        by_contra hge
        obtain rfl : m = t.wayPoints.length := by omega
        refine hbefore 0 (by omega) ?_
        have hsame0 : (t.curr + t.wayPoints.length) % t.wayPoints.length = (t.curr + 0) % t.wayPoints.length := by
          rw [Nat.add_mod_right, Nat.add_zero]
        exact hsame0 ▸ hstop
      refine ⟨t''.curr, hlast, ⟨fun i hi => ?_, ?_⟩⟩
      · refine hbefore i (Nat.lt_of_lt_of_eq hi ?_)
        rw [hplace']
        rcases Nat.lt_or_ge (t.curr + m) t.wayPoints.length with hlt | hge
        · rw [Nat.mod_eq_of_lt hlt, show t.curr + m + t.wayPoints.length - t.curr = m + t.wayPoints.length by omega,
            Nat.add_mod_right, Nat.mod_eq_of_lt hmlt]
        · have hwrap : (t.curr + m) % t.wayPoints.length = t.curr + m - t.wayPoints.length := by
            rw [Nat.mod_eq_sub_mod hge, Nat.mod_eq_of_lt (by omega)]
          rw [hwrap, show t.curr + m - t.wayPoints.length + t.wayPoints.length - t.curr = m by omega,
            Nat.mod_eq_of_lt hmlt]
      · rw [hplace']
        exact hstop
    · exact nomatch hnone.symm.trans hloop
  · rintro ⟨right, hlast, hclear⟩
    have hright := hlast.1
    have hplace : (t.curr + (right + t.wayPoints.length - t.curr) % t.wayPoints.length) % t.wayPoints.length =
        right := by
      rw [Nat.add_mod_mod, show t.curr + (right + t.wayPoints.length - t.curr) = right + t.wayPoints.length by omega,
        Nat.add_mod_right, Nat.mod_eq_of_lt hright]
    obtain ⟨t', hloop, -, hpairt, hcurrt⟩ := moveLoop_stops eventMap (n := t.wayPoints.length)
      (m := (right + t.wayPoints.length - t.curr) % t.wayPoints.length) (hsame.route hroute') hpair'
      (Nat.le_of_lt (Nat.mod_lt _ (by omega))) hclear.before (hplace.symm ▸ hclear.right)
    refine ⟨t', hloop, ?_, hpairt.next_eq⟩
    rw [hcurrt]
    exact hplace.symm ▸ hlast

/-- Two waypoints on one map, at the times 0 and `time`. -/
def ferry (time pathTime : Nat) : Transport Int where
  entry := 1
  wayPoints := [(0, ⟨0, 0, false, 0⟩), (time, ⟨0, 100, false, 1⟩)]
  pathTime := pathTime
  period := pathTime
  mapId := 0
  pos := 0

theorem ferry_route {time pathTime : Nat} (hpos : 0 < time) (hle : time ≤ pathTime) (hlt : pathTime < 4294967296) :
    (ferry time pathTime).Route := by
  refine ⟨Nat.le_refl 2, ?_, ?_, hlt, Nat.lt_of_lt_of_le hpos hle⟩
  · simpa [ferry] using hpos
  · simpa [ferry] using hle

theorem update_right_iff_ferry :
    let t := (ferry 1000 4096).placed
    (∃ t', t.update (fun _ => none) 500 t.wayPoints.length = some t' ∧
        t.Last (500 % t.period % t.pathTime) t'.curr ∧ t'.next = t'.getNextWayPoint) ↔
      ∃ right, t.Last (500 % t.period % t.pathTime) right ∧ t.Clear (500 % t.period) right :=
  update_right_iff (fun _ => none) (ferry 1000 4096) _ (ferry_route (by decide) (by decide) (by decide)) .placed 500

/-- **A walk that never ends**: two waypoints at the times 0 and 1 of a path of 3, and the clock at 2. -/
theorem update_never_ends :
    (ferry 1 3).Route ∧ ∀ turns, (ferry 1 3).placed.update (fun _ => none) 2 turns = none := by
  have hroute : (ferry 1 3).Route := ferry_route (by decide) (by decide) (by decide)
  obtain ⟨hroute', hpair⟩ := reached_pair hroute (.placed : Reached (fun _ => none) (ferry 1 3) (ferry 1 3).placed)
  refine ⟨hroute, fun turns => ?_⟩
  have hsame : SameRoute (ferry 1 3).placed { (ferry 1 3).placed with timer := 2 } := ⟨rfl, rfl, rfl⟩
  refine moveLoop_goes_on (hsame.route hroute') ⟨hpair.curr_lt, hpair.next_eq⟩ ?_
  intro i _
  have hplace : ∀ j, j < 2 → ¬ ({ (ferry 1 3).placed with timer := 2 } : Transport Int).Between 2 j := by decide
  exact hplace _ (Nat.mod_lt _ (by decide))

end Transport

end BlizzLike.Transports
