import BlizzLikeCore.Group.Group
import BlizzLikeCore.Lib.Counting
import Mathlib.Data.List.Rotate

/-!
# Whose turn it is to loot

`UpdateLooterGuid` gives the turn to the next member who is near: it walks the member list from the one after the
looter, and then from the start up to there.  This is the list rotated, and the first who is near is found
(`looter_chosen`).  Who has the loot in question open already is shown it anew, and since `SendLoot` first
releases it, the turn may pass on once more (`looter_passes_on`).
-/

namespace BlizzLike

inductive LootMethod where
  | freeForAll | roundRobin | masterLoot | groupLoot | needBeforeGreed
  deriving DecidableEq, Repr

/-- A `Group` with its loot rules, and what its members have open (`GetLootGUID`, or 0). -/
structure LooterGroup extends Group where
  lootMethod : LootMethod := .groupLoot
  looterGuid : Nat := 0
  lootGuid : Nat → Nat := fun _ => 0

/-- What is asked about the players: who is found by `FindPlayer`, who is nearer to the object than
`CONFIG_GROUP_XP_DISTANCE`, of whom `DoLootRelease` gets to the next looter of this group, and to whom `SendLoot`
then shows the loot. -/
structure LooterView where
  object : Nat
  inWorld : Nat → Bool
  near : Nat → Bool
  /-- No object and no player has the guid 0. -/
  object_ne : object ≠ 0 := by decide
  inWorld_zero : inWorld 0 = false := by decide
  releases : Nat → Bool := fun _ => true
  opens : Nat → Bool := fun _ => true

namespace LooterGroup

open Counting

variable (v : LooterView) (w : LooterGroup)

/-- A member who can be the looter. -/
def qualifies (s : MemberSlot) : Bool := v.inWorld s.guid && v.near s.guid

/-- `guid_itr` as an index, the length for the end; `none` when the looter is to stay. -/
def nextPosition (ifneed : Bool) : Option Nat :=
  match w.memberSlots.findIdx? fun s => s.guid == w.looterGuid with
  | none => some w.memberSlots.length
  | some i => if ifneed = true ∧ (w.memberSlots[i]?).any (qualifies v) = true then none else some (i + 1)

/-- The two loops: from there to the end, and from the start to there. -/
def search (n : Nat) : Option MemberSlot :=
  match (w.memberSlots.drop n).find? (qualifies v) with
  | some s => some s
  | none => (w.memberSlots.take n).find? (qualifies v)

/-- `UpdateLooterGuid`, with a bound for the depth of its recursion. -/
def updateLooterGuidFor : Nat → LooterGroup → Bool → Option LooterGroup
  | 0, _, _ => none
  | depth + 1, w, ifneed =>
    if w.lootMethod = .masterLoot ∨ w.lootMethod = .freeForAll then some w
    else
      match w.nextPosition v ifneed with
      | none => some w
      | some n =>
        match w.search v n with
        | none => some { w with looterGuid := 0 }
        | some s =>
          let w1 := { w with looterGuid := s.guid }
          if w.lootGuid s.guid = v.object then
            -- `SendLoot`, which begins with `DoLootRelease`
            let w2 := { w1 with lootGuid := Function.update w1.lootGuid s.guid 0 }
            (if v.releases s.guid then updateLooterGuidFor depth w2 false else some w2).map fun w3 =>
              if v.opens s.guid then { w3 with lootGuid := Function.update w3.lootGuid s.guid v.object } else w3
          else some w1

/-- `UpdateLooterGuid`: each call within it closes the loot of one more member. -/
def updateLooterGuid (ifneed : Bool) : Option LooterGroup :=
  updateLooterGuidFor v (w.memberSlots.length + 1) w ifneed

/-! ## The turn -/

/-- The members from the one after the looter on, around the list. -/
def turnOrder : List MemberSlot :=
  match w.memberSlots.findIdx? fun s => s.guid == w.looterGuid with
  | none => w.memberSlots
  | some i => w.memberSlots.rotate (i + 1)

/-- The looter is in the group and can stay. -/
def CanStay : Prop := ∃ s, w.memberSlot w.looterGuid = some s ∧ qualifies v s = true

/-- The first of them who can be the looter. -/
def next : Option MemberSlot := (w.turnOrder).find? (qualifies v)

/-- In these the turn does not matter. -/
def NoTurns : Prop := w.lootMethod = .masterLoot ∨ w.lootMethod = .freeForAll

/-- **The law** for the looter. -/
structure Chosen (ifneed : Bool) (t : LooterGroup) : Prop where
  fixed : w.NoTurns → t = w
  stays : ifneed = true → w.CanStay v → t = w
  moves : ¬ w.NoTurns → ¬(ifneed = true ∧ w.CanStay v) →
    t = { w with looterGuid := ((w.next v).map MemberSlot.guid).getD 0 }
  /-- There is no looter only when nobody can be it. -/
  nobody : ¬ w.NoTurns → t.looterGuid = 0 → ∀ s ∈ w.memberSlots, qualifies v s = false

/-- The next looter does not have the loot open, if there is to be a next. -/
def Unopened (ifneed : Bool) : Prop := ¬ w.NoTurns → ¬(ifneed = true ∧ w.CanStay v) →
  ∀ s, w.next v = some s → w.lootGuid s.guid ≠ v.object

variable {v w}

/-! ## The walk -/

/-- **Two loops** make one walk around the list. -/
theorem find_drop_take (l : List MemberSlot) (q : MemberSlot → Bool) {n : Nat} (hn : n ≤ l.length) :
    (l.rotate n).find? q = match (l.drop n).find? q with
      | some s => some s
      | none => (l.take n).find? q := by
  rw [List.rotate_eq_drop_append_take hn, List.find?_append]
  cases (l.drop n).find? q with
  | some s => rfl
  | none => rfl

theorem findIdx_looter {i : Nat} (h : (w.memberSlots.findIdx? fun s => s.guid == w.looterGuid) = some i) :
    i < w.memberSlots.length ∧ w.memberSlots[i]? = w.memberSlot w.looterGuid := by
  obtain ⟨hlt, -, -⟩ := List.findIdx?_eq_some_iff_getElem.1 h
  refine ⟨hlt, ?_⟩
  unfold Group.memberSlot
  rw [List.find?_eq_bind_findIdx?_getElem?, h]
  rfl

theorem nextPosition_spec (ifneed : Bool) :
    (w.nextPosition v ifneed = none ↔ ifneed = true ∧ w.CanStay v) ∧
      ∀ n, w.nextPosition v ifneed = some n → w.search v n = w.next v := by
  unfold nextPosition CanStay next turnOrder search
  cases hi : w.memberSlots.findIdx? fun s => s.guid == w.looterGuid with
  | none =>
    have hno : w.memberSlot w.looterGuid = none := by
      unfold Group.memberSlot
      rw [List.find?_eq_bind_findIdx?_getElem?, hi]
      rfl
    refine ⟨iff_of_false (fun h => nomatch h) ?_, fun n hn => ?_⟩
    · rintro ⟨-, s, hs, -⟩
      rw [hno] at hs
      cases hs
    · cases hn
      rw [List.drop_length, List.take_length]
      rfl
  | some i =>
    obtain ⟨hlt, hat⟩ := findIdx_looter hi
    dsimp only
    rw [hat]
    have hstay : (w.memberSlot w.looterGuid).any (qualifies v) = true ↔
        ∃ s, w.memberSlot w.looterGuid = some s ∧ qualifies v s = true := Option.any_eq_true ..
    constructor
    · rw [← hstay]
      split
      · next h => exact iff_of_true rfl h
      · next h => exact iff_of_false (fun h => nomatch h) h
    · intro n hn
      split at hn
      · cases hn
      · cases hn
        exact (find_drop_take w.memberSlots (qualifies v) (Nat.succ_le_of_lt hlt)).symm

theorem mem_turnOrder (s : MemberSlot) : s ∈ w.turnOrder ↔ s ∈ w.memberSlots := by
  unfold turnOrder
  split
  · rfl
  · exact List.mem_rotate

theorem next_eq_none : w.next v = none ↔ ∀ s ∈ w.memberSlots, qualifies v s = false := by
  unfold next
  rw [List.find?_eq_none]
  simp only [mem_turnOrder, Bool.not_eq_true]

/-! ## The call -/

/-- How many members have the loot open. -/
def lookers (v : LooterView) (w : LooterGroup) : Nat := w.memberSlots.countP fun s => w.lootGuid s.guid == v.object

theorem lookers_close {s : MemberSlot} (hs : s ∈ w.memberSlots) (hopen : w.lootGuid s.guid = v.object) :
    lookers v { w with looterGuid := s.guid, lootGuid := Function.update w.lootGuid s.guid 0 } < lookers v w := by
  have hclosed : ¬ (Function.update w.lootGuid s.guid 0 s.guid == v.object) = true := by
    rw [Function.update_self, beq_iff_eq]
    exact fun h => v.object_ne h.symm
  refine countP_lt (fun x _ hx => ?_) hs hclosed (beq_iff_eq.2 hopen)
  by_cases hxs : x.guid = s.guid
  · rw [hxs] at hx
    exact absurd hx hclosed
  · change (Function.update w.lootGuid s.guid 0 x.guid == v.object) = true at hx
    rwa [Function.update_of_ne hxs] at hx

theorem next_spec {s : MemberSlot} (h : w.next v = some s) :
    s ∈ w.memberSlots ∧ v.inWorld s.guid = true ∧ v.near s.guid = true := by
  unfold next at h
  have hq : qualifies v s = true := List.find?_some h
  unfold qualifies at hq
  rw [Bool.and_eq_true] at hq
  exact ⟨(mem_turnOrder s).1 (List.mem_of_find?_eq_some h), hq⟩

theorem guid_ne_zero {s : MemberSlot} (h : w.next v = some s) : s.guid ≠ 0 := by
  intro h0
  have hin := (next_spec h).2.1
  rw [h0, v.inWorld_zero] at hin
  cases hin

/-- **One call**, with the calls within it. -/
theorem updateLooterGuidFor_succ (depth : Nat) (w : LooterGroup) (ifneed : Bool) :
    updateLooterGuidFor v (depth + 1) w ifneed =
      if w.lootMethod = .masterLoot ∨ w.lootMethod = .freeForAll then some w
      else if w.nextPosition v ifneed = none then some w
      else match w.next v with
        | none => some { w with looterGuid := 0 }
        | some s =>
          if w.lootGuid s.guid = v.object then
            let w2 := { w with looterGuid := s.guid, lootGuid := Function.update w.lootGuid s.guid 0 }
            (if v.releases s.guid then updateLooterGuidFor v depth w2 false else some w2).map fun w3 =>
              if v.opens s.guid then { w3 with lootGuid := Function.update w3.lootGuid s.guid v.object } else w3
          else some { w with looterGuid := s.guid } := by
  conv_lhs => unfold updateLooterGuidFor
  split
  · rfl
  cases hn : w.nextPosition v ifneed with
  | none => rfl
  | some n =>
    rw [if_neg (fun h => nomatch h)]
    dsimp only
    rw [(nextPosition_spec ifneed).2 n hn]

theorem updateLooterGuidFor_isSome (depth : Nat) (ifneed : Bool) (h : lookers v w < depth) :
    (updateLooterGuidFor v depth w ifneed).isSome = true := by
  induction depth generalizing w ifneed with
  | zero => exact absurd h (Nat.not_lt_zero _)
  | succ depth ih =>
    rw [updateLooterGuidFor_succ]
    split
    · rfl
    split
    · rfl
    cases hs : w.next v with
    | none => rfl
    | some s =>
      dsimp only
      split
      · next hopen =>
        have hless := lookers_close (next_spec hs).1 hopen
        rw [Option.isSome_map]
        split
        · exact ih false (by omega)
        · rfl
      · rfl

/-- **A call returns**, whatever it shows and releases. -/
theorem updateLooterGuid_isSome (ifneed : Bool) : (w.updateLooterGuid v ifneed).isSome = true :=
  updateLooterGuidFor_isSome _ ifneed (Nat.lt_succ_of_le List.countP_le_length)

/-- **The turn goes to the next who is near**, and with `ifneed` it stays with who has it and is near.  There is
none only when nobody is near, and in free for all and master loot the turn stays. -/
theorem looter_chosen (v : LooterView) (w : LooterGroup) (ifneed : Bool) (hclosed : w.Unopened v ifneed) :
    ∃ t, w.updateLooterGuid v ifneed = some t ∧ Chosen v w ifneed t := by
  unfold updateLooterGuid
  rw [updateLooterGuidFor_succ]
  have hstay := (nextPosition_spec (v := v) (w := w) ifneed).1
  by_cases hturns : w.NoTurns
  · unfold NoTurns at hturns
    rw [if_pos hturns]
    exact ⟨w, rfl, fun _ => rfl, fun _ _ => rfl, fun h => absurd hturns h, fun h => absurd hturns h⟩
  rw [if_neg (show ¬(w.lootMethod = .masterLoot ∨ w.lootMethod = .freeForAll) from hturns)]
  by_cases hkeep : ifneed = true ∧ w.CanStay v
  · rw [if_pos (hstay.2 hkeep)]
    refine ⟨w, rfl, fun _ => rfl, fun _ _ => rfl, fun _ h => absurd hkeep h, fun _ h0 => ?_⟩
    -- the looter who stays is not the player 0
    obtain ⟨-, s, hs, hq⟩ := hkeep
    unfold Group.memberSlot at hs
    have hguid := List.find?_some hs
    unfold qualifies at hq
    rw [beq_iff_eq.1 hguid, h0, v.inWorld_zero] at hq
    cases hq
  rw [if_neg (fun h => hkeep (hstay.1 h))]
  cases hs : w.next v with
  | none =>
    refine ⟨_, rfl, fun h => absurd h hturns, fun hif hcan => absurd ⟨hif, hcan⟩ hkeep, fun _ _ => ?_,
      fun _ _ => next_eq_none.1 hs⟩
    rw [hs]
    rfl
  | some s =>
    dsimp only
    rw [if_neg (hclosed hturns hkeep s hs)]
    refine ⟨_, rfl, fun h => absurd h hturns, fun hif hcan => absurd ⟨hif, hcan⟩ hkeep, fun _ _ => ?_,
      fun _ h0 => absurd h0 (guid_ne_zero hs)⟩
    rw [hs]
    rfl

/-! ## Runs -/

/-- Three members, of whom the second has the turn; the object has the guid 90. -/
def party : LooterGroup :=
  { memberSlots := [{ guid := 1 }, { guid := 2 }, { guid := 3 }], looterGuid := 2 }

/-- Everybody is there and near. -/
def here : LooterView where
  object := 90
  inWorld g := decide (1 ≤ g ∧ g ≤ 3)
  near _ := true

/-- Of the three, the third is far away: the first is next. -/
theorem looter_chosen_sample : ∃ t, party.updateLooterGuid { here with near := fun g => g != 3 } false = some t ∧
    Chosen { here with near := fun g => g != 3 } party false t :=
  looter_chosen { here with near := fun g => g != 3 } party false fun _ _ s _ h => by cases h

/-- **It is not always the next.**  In free for all nobody is.  And the next who looks at the corpse already has it
closed by `SendLoot`, which passes the turn on to the one after him. -/
theorem looter_passes_on :
    (∃ t, { party with lootMethod := .freeForAll }.updateLooterGuid here false = some t ∧ t.looterGuid = 2 ∧
      (({ party with lootMethod := .freeForAll }.next here).map MemberSlot.guid) = some 3) ∧
    ∃ t, { party with lootGuid := fun g => if g = 3 then 90 else 0 }.updateLooterGuid here false = some t ∧
      t.looterGuid = 1 ∧
      (({ party with lootGuid := fun g => if g = 3 then 90 else 0 }.next here).map MemberSlot.guid) = some 3 :=
  ⟨⟨_, rfl, rfl, by decide⟩, _, rfl, by decide, by decide⟩

end LooterGroup

end BlizzLike
