import BlizzLikeCore.Group.SubGroups

/-!
# A change of subgroup, online and offline

`ChangeMembersGroup` hands a member who is not in the world on to the overload for players, with a null pointer,
which returns at once: nobody who is offline is moved.  A member who is online is, so the two agree only where
there is nothing to do (`changesAlike_iff`).
-/

namespace BlizzLike

namespace GroupWorld

variable (w : GroupWorld) (g guid group : Nat) (G : Group)

/-- The two overloads for a member who is online. -/
def changeOnline (byPlayer : Bool) : GroupWorld :=
  if byPlayer then w.changePlayersGroup g G guid group else w.changeMembersGroup g G guid group

/-- The same world, where a player is not logged in. -/
def offline : GroupWorld := w.modifyPlayer guid fun _ => {}

/-- **What a change does** to the slots and the counters is the same for a member who is offline. -/
def ChangesAlike (byPlayer : Bool) : Prop :=
  (w.changeOnline g guid group G byPlayer).groups g = ((w.offline guid).changeMembersGroup g G guid group).groups g

/-- A raid as it is stored: its counters are bytes. -/
structure Stored (G : Group) (counts : Nat → Nat) : Prop where
  raid : G.raid = true
  counters : G.subGroupsCounts = some counts
  bytes : ∀ x, counts x < 256

variable {w g guid group G}

/-! ## Offline -/

theorem changeMembersGroup_offline (hg : w.groups g = some G) :
    ((w.offline guid).changeMembersGroup g G guid group).groups g = some G := by
  have hplayer : (w.offline guid).players guid = {} := Function.update_self ..
  have hoff : ((w.offline guid).players guid).inWorld = false := by rw [hplayer]
  unfold changeMembersGroup
  rw [if_pos hoff, ite_self]
  exact hg

/-! ## Online -/

/-- One counter, if it is in the array. -/
def bump (f : Nat → Nat) (subgroup : Nat) (counts : Nat → Nat) : Nat → Nat :=
  if subgroup < maxRaidSubGroups then Function.update counts subgroup (f (counts subgroup)) else counts

theorem bump_self (f : Nat → Nat) {a : Nat} (ha : a < maxRaidSubGroups) (counts : Nat → Nat) :
    bump f a counts a = f (counts a) := by
  unfold bump
  rw [if_pos ha, Function.update_self]

theorem bump_of_ne (f : Nat → Nat) {a x : Nat} (hx : x ≠ a) (counts : Nat → Nat) : bump f a counts x = counts x := by
  unfold bump
  split
  · exact Function.update_of_ne hx ..
  · rfl

/-- **Two changes** that undo one another leave the counters just if they are of one counter. -/
theorem bump_bump_eq_self_iff {f h : Nat → Nat} {a b : Nat} {counts : Nat → Nat} (hinv : ∀ n < 256, h (f n) = n)
    (hf : ∀ n < 256, f n ≠ n) (hh : ∀ n < 256, h n ≠ n) (hb : ∀ x, counts x < 256)
    (hlt : a < maxRaidSubGroups ∨ b < maxRaidSubGroups) : bump h b (bump f a counts) = counts ↔ a = b := by
  constructor
  · intro heq
    by_contra hne
    rcases hlt with ha | hlt
    · refine hf _ (hb a) ?_
      calc f (counts a) = bump f a counts a := (bump_self f ha counts).symm
        _ = bump h b (bump f a counts) a := (bump_of_ne h hne _).symm
        _ = counts a := congrFun heq a
    · refine hh _ (hb b) ?_
      calc h (counts b) = h (bump f a counts b) := by rw [bump_of_ne f (Ne.symm hne)]
        _ = bump h b (bump f a counts) b := (bump_self h hlt _).symm
        _ = counts b := congrFun heq b
  · rintro rfl
    have ha : a < maxRaidSubGroups := hlt.elim id id
    funext x
    by_cases hx : x = a
    · rw [hx, bump_self h ha, bump_self f ha, hinv _ (hb a)]
    · rw [bump_of_ne h hx, bump_of_ne f hx]

/-- `++` and `--` of a byte. -/
def plusOne (n : Nat) : Nat := u8 (n + 1)

def minusOne (n : Nat) : Nat := u8 (n + 255)

theorem minusOne_plusOne : ∀ n < 256, minusOne (plusOne n) = n := by
  intro n hn
  unfold minusOne plusOne u8
  omega

theorem plusOne_minusOne : ∀ n < 256, plusOne (minusOne n) = n := by
  intro n hn
  unfold minusOne plusOne u8
  omega

theorem plusOne_ne : ∀ n < 256, plusOne n ≠ n := by
  intro n hn
  unfold plusOne u8
  omega

theorem minusOne_ne : ∀ n < 256, minusOne n ≠ n := by
  intro n hn
  unfold minusOne u8
  omega

theorem moved_slots_eq_iff {i : Nat} {s : MemberSlot} (hs : G.memberSlots[i]? = some s) :
    (G.memberSlots.modify i fun s => { s with group := group }) = G.memberSlots ↔ s.group = group := by
  have hat : (G.memberSlots.modify i fun s => { s with group := group })[i]? = some { s with group := group } := by
    rw [List.getElem?_modify, hs]
    simp
  constructor
  · intro heq
    rw [heq, hs] at hat
    exact congrArg MemberSlot.group (Option.some.inj hat)
  · rintro rfl
    apply List.ext_getElem?
    intro j
    rw [List.getElem?_modify]
    by_cases hj : i = j
    · rw [← hj, hs]
      simp
    · simp [hj]

/-- **A member who is online** is moved, and with him two counters. -/
theorem changeOnline_groups (byPlayer : Bool) {counts : Nat → Nat} {s : MemberSlot} (hst : Stored G counts)
    (hs : G.memberSlot guid = some s) (hon : (w.players guid).inWorld = true) :
    ∃ i, G.memberSlots[i]? = some s ∧
      (w.changeOnline g guid group G byPlayer).groups g = some { G with
        memberSlots := G.memberSlots.modify i fun s => { s with group := group }
        subGroupsCounts := some (
          if byPlayer then bump minusOne (w.prevSubGroup g guid byPlayer) (bump plusOne group counts)
          else bump plusOne group (bump minusOne (w.prevSubGroup g guid byPlayer) counts)) } := by
  obtain ⟨i, hi, hat⟩ := Counting.findIdx?_of_find? _ _ _ hs
  have hset : ∀ H : Group, H.memberSlots = G.memberSlots → H.setMembersGroup guid group =
      some ({ H with memberSlots := H.memberSlots.modify i fun s => { s with group := group } }.subGroupCounterIncrease
        group) := by
    intro H hH
    unfold Group.setMembersGroup
    rw [hH, hi]
  have hraid : ¬ G.raid = false := by rw [hst.raid]; exact Bool.noConfusion
  have hin : ¬ (w.players guid).inWorld = false := by rw [hon]; exact Bool.noConfusion
  refine ⟨i, hat, ?_⟩
  unfold changeOnline
  cases byPlayer with
  | true =>
    unfold changePlayersGroup
    simp only [if_true]
    rw [if_neg hraid, hset G rfl]
    refine (Function.update_self ..).trans (congrArg some ?_)
    unfold Group.subGroupCounterDecrease Group.subGroupCounterIncrease Group.countSubGroup prevSubGroup
    simp only [true_or, if_true]
    rw [hst.counters]
    rfl
  | false =>
    unfold changeMembersGroup
    simp only [Bool.false_eq_true, if_false]
    rw [if_neg hraid, if_neg hin, hset (G.subGroupCounterDecrease _) rfl]
    refine (Function.update_self ..).trans (congrArg some ?_)
    unfold Group.subGroupCounterDecrease Group.subGroupCounterIncrease Group.countSubGroup prevSubGroup
    simp only [Bool.false_eq_true, false_or]
    rw [hst.counters]
    rfl

/-- **A change is the same online and offline** just if there is none: the member is in that subgroup already, in
his slot and in the reference that is read. -/
theorem changesAlike_iff (w : GroupWorld) (g guid group : Nat) (G : Group) (byPlayer : Bool) (counts : Nat → Nat)
    (s : MemberSlot) (hg : w.groups g = some G) (hst : Stored G counts) (hs : G.memberSlot guid = some s)
    (hon : (w.players guid).inWorld = true) (hlt : group < maxRaidSubGroups) :
    w.ChangesAlike g guid group G byPlayer ↔ s.group = group ∧ w.prevSubGroup g guid byPlayer = group := by
  obtain ⟨i, hat, honline⟩ := @changeOnline_groups w g guid group G byPlayer _ _ hst hs hon
  have hslots := @moved_slots_eq_iff group G _ _ hat
  have hcounts : (if byPlayer then bump minusOne (w.prevSubGroup g guid byPlayer) (bump plusOne group counts)
      else bump plusOne group (bump minusOne (w.prevSubGroup g guid byPlayer) counts)) = counts ↔
        w.prevSubGroup g guid byPlayer = group := by
    cases byPlayer with
    | true => exact (bump_bump_eq_self_iff minusOne_plusOne plusOne_ne minusOne_ne hst.bytes (Or.inl hlt)).trans eq_comm
    | false => exact bump_bump_eq_self_iff plusOne_minusOne minusOne_ne plusOne_ne hst.bytes (Or.inr hlt)
  unfold ChangesAlike
  rw [changeMembersGroup_offline hg, honline, ← hslots, ← hcounts, Option.some_inj]
  constructor
  · intro heq
    refine ⟨congrArg Group.memberSlots heq, ?_⟩
    exact Option.some.inj ((congrArg Group.subGroupsCounts heq).trans hst.counters)
  · rintro ⟨h1, h2⟩
    rw [h1, h2, ← hst.counters]

/-! ## A raid of two -/

def sampleRaid : Group where
  leaderGuid := 1
  raid := true
  memberSlots := [{ guid := 1, group := 0 }, { guid := 2, group := 1 }]
  subGroupsCounts := some fun x => if x < 2 then 1 else 0

def sampleRaiders : GroupWorld where
  groups := fun g => if g = 1 then some sampleRaid else none
  nextGroup := 2
  players := fun p =>
    if p = 1 then { loaded := true, inWorld := true, group := some 1, subGroup := 0 }
    else if p = 2 then { loaded := true, inWorld := true, group := some 1, subGroup := 1 }
    else {}

theorem sampleRaid_stored : Stored sampleRaid fun x => if x < 2 then 1 else 0 :=
  ⟨rfl, rfl, fun x => by split <;> omega⟩

theorem changesAlike_iff_sample : sampleRaiders.ChangesAlike 1 2 1 sampleRaid true :=
  (changesAlike_iff sampleRaiders 1 2 1 sampleRaid true _ { guid := 2, group := 1 } rfl sampleRaid_stored rfl rfl
    (by decide)).2 ⟨rfl, rfl⟩

/-- **A member who is offline stays where he is**: online he goes to subgroup 2. -/
theorem offline_stays :
    ((sampleRaiders.changeOnline 1 2 2 sampleRaid true).groups 1).map (Group.getMemberGroup · 2) = some 2 ∧
      (((sampleRaiders.offline 2).changeMembersGroup 1 sampleRaid 2 2).groups 1).map (Group.getMemberGroup · 2) = some 1 ∧
      ¬ sampleRaiders.ChangesAlike 1 2 2 sampleRaid true := by
  refine ⟨rfl, rfl, fun h => ?_⟩
  have hgroups := congrArg (Option.map (Group.getMemberGroup · 2)) h
  exact absurd hgroups (by decide)

end GroupWorld

end BlizzLike
