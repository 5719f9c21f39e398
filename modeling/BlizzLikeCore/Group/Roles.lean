import BlizzLikeCore.Group.Group
import BlizzLikeCore.Lib.Counting
import BlizzLikeCore.Lib.Transition
import Mathlib.Data.Fintype.Basic

/-!
# Leader, roles and target icons

What a group keeps of its members beside their slots: who leads, who is main tank and who is main
assistant, and who is marked with which icon.  `_setMainTank` takes the other role from a member
who has it by setting it to nobody, and nobody is a member, so that the call fails and he has
both; and a group that was disbanded and is not deleted takes members under no leader.  A group is
in order all along exactly as long as neither happens (`orderly_along_iff`).
-/

namespace BlizzLike

def targetIconCount : Nat := 8

inductive GroupRole where
  | mainTank
  | mainAssistant
  deriving DecidableEq, Repr

def GroupRole.other : GroupRole → GroupRole
  | .mainTank => .mainAssistant
  | .mainAssistant => .mainTank

/-- A `Group` with its roles and target icons; GUID 0 is nobody. -/
structure RoleGroup extends Group where
  mainTank : Nat := 0
  mainAssistant : Nat := 0
  targetIcons : Fin targetIconCount → Nat := fun _ => 0

namespace RoleGroup

variable (R : RoleGroup)

/-! ## Algorithm -/

def holder : GroupRole → Nat
  | .mainTank => R.mainTank
  | .mainAssistant => R.mainAssistant

def appoint (guid : Nat) : GroupRole → RoleGroup
  | .mainTank => { R with mainTank := guid }
  | .mainAssistant => { R with mainAssistant := guid }

/-- `_setMainTank` and `_setMainAssistant`, each of which calls the other with GUID 0 for a member
who has the other role; `depth` bounds how deep they nest. -/
def setRole : Nat → GroupRole → Nat → Option RoleGroup
  | 0, _, _ => none
  | depth + 1, role, guid =>
    if R.isMember guid then
      let R1 := if R.holder role.other = guid then (setRole depth role.other 0).getD R else R
      some (R1.appoint guid role)
    else none

def setMainTank (guid : Nat) : RoleGroup :=
  if R.raid = false then R else (R.setRole 2 .mainTank guid).getD R

def setMainAssistant (guid : Nat) : RoleGroup :=
  if R.raid = false then R else (R.setRole 2 .mainAssistant guid).getD R

/-- The loop of `SetTargetIcon` that cleans the icons a GUID has. -/
def cleanIcons (guid : Nat) (is : List (Fin targetIconCount)) (icons : Fin targetIconCount → Nat) :
    Fin targetIconCount → Nat :=
  is.foldl (fun icons i => if icons i = guid then Function.update icons i 0 else icons) icons

def setTargetIcon (id guid : Nat) : RoleGroup :=
  if h : id < targetIconCount then
    let icons :=
      if guid ≠ 0 then cleanIcons guid (List.finRange targetIconCount) R.targetIcons else R.targetIcons
    { R with targetIcons := Function.update icons ⟨id, h⟩ guid }
  else R

/-- `AddMember`; `none` when it fails.  In a party the target icons are reset. -/
def addMember (guid : Nat) : Option RoleGroup :=
  match R.freeSubGroup with
  | none => none
  | some subgroup =>
    if R.isFull then none
    else if guid = 0 then none
    else
      some
        { R with
          toGroup := R.pushMember { guid := guid, group := subgroup }
          targetIcons := if R.raid then R.targetIcons else fun _ => 0 }

/-- `Create` of a group, or of the raid of a battleground. -/
def create (bgGroup : Bool) (guid : Nat) : RoleGroup :=
  let R1 : RoleGroup := { toGroup := ({ bgGroup := bgGroup } : Group).setUp guid }
  (R1.addMember guid).getD R1

def disband : RoleGroup :=
  { R with toGroup := { R.toGroup with memberSlots := [], invitees := [], leaderGuid := 0 } }

def removeMember (guid : Nat) : RoleGroup :=
  if R.memberSlots.length > (if R.bgGroup then 1 else 2) then { R with toGroup := R.dropMember guid }
  else R.disband

def changeLeader (guid : Nat) : RoleGroup :=
  if R.isMember guid then { R with leaderGuid := guid } else R

def setAssistant (guid : Nat) (flag : Bool) : RoleGroup :=
  if R.raid = false then R else { R with toGroup := R.toGroup.setAssistant guid flag }

/-- `ChangeMembersGroup` for a player, from the subgroup in his reference. -/
def changePlayersGroup (guid group prevSubGroup : Nat) : RoleGroup :=
  if R.raid = false then R
  else
    match R.setMembersGroup guid group with
    | none => R
    | some G1 => { R with toGroup := G1.subGroupCounterDecrease prevSubGroup }

/-- `ChangeMembersGroup` for a GUID. -/
def changeMembersGroup (guid group prevSubGroup : Nat) : RoleGroup :=
  if R.raid = false then R
  else
    let G1 := R.subGroupCounterDecrease prevSubGroup
    { R with toGroup := (G1.setMembersGroup guid group).getD G1 }

def convertToRaid : RoleGroup := { R with toGroup := R.toGroup.convertToRaid }

end RoleGroup

/-- A row of `groups` with its rows of `group_member`. -/
structure GroupRow where
  leaderGuid : Nat
  mainTank : Nat := 0
  mainAssistant : Nat := 0
  targetIcons : Fin targetIconCount → Nat := fun _ => 0
  raid : Bool := false
  members : List MemberSlot := []

namespace GroupRow

variable (row : GroupRow) (exist : Nat → Bool)

/-- The rows of characters that exist, as `LoadMemberFromDB` checks. -/
def knownMembers : List MemberSlot := row.members.filter fun s => exist s.guid

/-- `LoadGroups` for one group; where it fails the group is disbanded. -/
def load : RoleGroup :=
  let G0 : Group := { leaderGuid := row.leaderGuid, raid := row.raid }
  let G := (row.knownMembers exist).foldl Group.pushMember (if row.raid then G0.initRaidSubGroupsCounter else G0)
  let R : RoleGroup :=
    { toGroup := G, mainTank := row.mainTank, mainAssistant := row.mainAssistant, targetIcons := row.targetIcons }
  if exist row.leaderGuid = false then R.disband
  else if R.memberSlots.length < 2 then R.disband
  else R

end GroupRow

/-- What makes a group: `Create` or the rows of the database. -/
inductive GroupStart where
  | create (bgGroup : Bool) (guid : Nat)
  | load (row : GroupRow) (exist : Nat → Bool)

def GroupStart.group : GroupStart → RoleGroup
  | .create bgGroup guid => RoleGroup.create bgGroup guid
  | .load row exist => row.load exist

/-- What is called on a group. -/
inductive GroupCall where
  | addMember (guid : Nat)
  | removeMember (guid : Nat)
  | changeLeader (guid : Nat)
  | setMainTank (guid : Nat)
  | setMainAssistant (guid : Nat)
  | setTargetIcon (id guid : Nat)
  | setAssistant (guid : Nat) (flag : Bool)
  | changePlayersGroup (guid group prevSubGroup : Nat)
  | changeMembersGroup (guid group prevSubGroup : Nat)
  | convertToRaid
  | disband

namespace RoleGroup

def call (R : RoleGroup) : GroupCall → RoleGroup
  | .addMember guid => (R.addMember guid).getD R
  | .removeMember guid => R.removeMember guid
  | .changeLeader guid => R.changeLeader guid
  | .setMainTank guid => R.setMainTank guid
  | .setMainAssistant guid => R.setMainAssistant guid
  | .setTargetIcon id guid => R.setTargetIcon id guid
  | .setAssistant guid flag => R.setAssistant guid flag
  | .changePlayersGroup guid group prevSubGroup => R.changePlayersGroup guid group prevSubGroup
  | .changeMembersGroup guid group prevSubGroup => R.changeMembersGroup guid group prevSubGroup
  | .convertToRaid => R.convertToRaid
  | .disband => R.disband

/-! ## The law -/

/-- No GUID but that of nobody has two icons. -/
def IconsApart (icons : Fin targetIconCount → Nat) : Prop := ∀ i j, icons i ≠ 0 → icons i = icons j → i = j

/-- **The law**: a member leads, no member has both roles, nobody is marked twice. -/
structure Orderly (R : RoleGroup) : Prop where
  leader : R.memberSlots ≠ [] → R.isMember R.leaderGuid = true
  roles : R.isMember R.mainTank = true → R.mainTank ≠ R.mainAssistant
  icons : IconsApart R.targetIcons

/-- A call that meets neither slip: a role is not given to the member who has the other one, and
only the leader comes into a group without members. -/
def Heedful (R : RoleGroup) : GroupCall → Prop
  | .addMember guid => R.memberSlots = [] → (R.addMember guid).isSome = true → guid = R.leaderGuid
  | .setMainTank guid => R.raid = true → R.isMember guid = true → guid ≠ R.mainAssistant
  | .setMainAssistant guid => R.raid = true → R.isMember guid = true → guid ≠ R.mainTank
  | _ => True

end RoleGroup

/-- Rows with the leader among the members, if there are enough of them, and with no two equal
roles or icons; nobody is no character. -/
structure GroupRow.Fine (row : GroupRow) (exist : Nat → Bool) : Prop where
  leader : exist row.leaderGuid = true → 2 ≤ (row.knownMembers exist).length →
    row.leaderGuid ∈ row.members.map MemberSlot.guid
  nobody : exist 0 = false
  roles : row.mainTank = row.mainAssistant → row.mainTank = 0
  icons : RoleGroup.IconsApart row.targetIcons

def GroupStart.Fine : GroupStart → Prop
  | .create _ _ => True
  | .load row exist => row.Fine exist

/-! ## Lemmas -/

namespace Group

variable {G : Group}

theorem isMember_iff {guid : Nat} : G.isMember guid = true ↔ guid ∈ G.memberSlots.map MemberSlot.guid := by
  unfold isMember memberSlot
  rw [List.find?_isSome, List.mem_map]
  simp

theorem isMember_congr {H : Group}
    (h : H.memberSlots.map MemberSlot.guid = G.memberSlots.map MemberSlot.guid) (guid : Nat) :
    H.isMember guid = G.isMember guid := by
  rw [Bool.eq_iff_iff, isMember_iff, isMember_iff, h]

theorem setMembersGroup_guids {H : Group} {guid group : Nat} (h : G.setMembersGroup guid group = some H) :
    H.memberSlots.map MemberSlot.guid = G.memberSlots.map MemberSlot.guid := by
  unfold setMembersGroup at h
  split at h
  · exact nomatch h
  next i _ =>
  cases h
  exact Counting.map_modify _ i _ MemberSlot.guid fun _ => rfl

theorem setMembersGroup_leaderGuid {H : Group} {guid group : Nat} (h : G.setMembersGroup guid group = some H) :
    H.leaderGuid = G.leaderGuid := by
  unfold setMembersGroup at h
  split at h
  · exact nomatch h
  · cases h
    rfl

theorem setAssistant_guids (G : Group) (guid : Nat) (flag : Bool) :
    (G.setAssistant guid flag).memberSlots.map MemberSlot.guid = G.memberSlots.map MemberSlot.guid := by
  unfold setAssistant
  split
  · rfl
  · exact Counting.map_modify _ _ _ MemberSlot.guid fun _ => rfl

theorem mem_eraseSlot {guid x : Nat} (hx : x ∈ G.memberSlots.map MemberSlot.guid) (hne : x ≠ guid) :
    x ∈ (G.eraseSlot guid).memberSlots.map MemberSlot.guid := by
  obtain ⟨s, hs, rfl⟩ := List.mem_map.1 hx
  refine List.mem_map_of_mem ?_
  unfold eraseSlot
  split
  · exact hs
  · exact (List.mem_eraseP_of_neg (by simpa using hne)).2 hs

theorem mem_of_eraseSlot {guid : Nat} {s : MemberSlot} (hs : s ∈ (G.eraseSlot guid).memberSlots) :
    s ∈ G.memberSlots := by
  unfold eraseSlot at hs
  split at hs
  · exact hs
  · exact List.mem_of_mem_eraseP hs

theorem eraseSlot_leaderGuid (G : Group) (guid : Nat) : (G.eraseSlot guid).leaderGuid = G.leaderGuid := by
  unfold eraseSlot
  split <;> rfl

theorem dropMember_memberSlots (G : Group) (guid : Nat) :
    (G.dropMember guid).memberSlots = (G.eraseSlot guid).memberSlots := by
  unfold dropMember
  simp only
  split <;> rfl

/-- **A member leads** after one is removed: the leader stays or is followed by a member. -/
theorem dropMember_leader (guid : Nat) (h : G.isMember G.leaderGuid = true) :
    (G.dropMember guid).memberSlots ≠ [] → (G.dropMember guid).isMember (G.dropMember guid).leaderGuid = true := by
  intro hne
  rw [dropMember_memberSlots] at hne
  rw [isMember_iff, dropMember_memberSlots]
  unfold dropMember
  simp only
  split
  · obtain ⟨s, rest, hs⟩ := List.exists_cons_of_ne_nil hne
    simp [hs]
  · next hlead =>
    rw [eraseSlot_leaderGuid] at hlead ⊢
    exact mem_eraseSlot (isMember_iff.1 h) hlead

theorem dropMember_isMember {guid x : Nat} (h : (G.dropMember guid).isMember x = true) : G.isMember x = true := by
  rw [isMember_iff, dropMember_memberSlots] at h
  obtain ⟨s, hs, rfl⟩ := List.mem_map.1 h
  exact isMember_iff.2 (List.mem_map_of_mem (mem_of_eraseSlot hs))

theorem foldl_pushMember (rows : List MemberSlot) (G : Group) :
    (rows.foldl Group.pushMember G).memberSlots = G.memberSlots ++ rows ∧
      (rows.foldl Group.pushMember G).leaderGuid = G.leaderGuid := by
  induction rows generalizing G with
  | nil => simp
  | cons s rows ih =>
    obtain ⟨h1, h2⟩ := ih (G.pushMember s)
    refine ⟨?_, h2⟩
    rw [List.foldl_cons, h1]
    simp [Group.pushMember, Group.subGroupCounterIncrease, Group.countSubGroup]

end Group

namespace RoleGroup

variable {R : RoleGroup}

/-- **A role that is taken is not given back**: the other role is set to nobody, which fails. -/
theorem setRole_eq (hnobody : R.isMember 0 = false) (depth : Nat) (role : GroupRole) (guid : Nat) :
    R.setRole (depth + 1) role guid = if R.isMember guid then some (R.appoint guid role) else none := by
  have hclear : (R.setRole depth role.other 0).getD R = R := by
    cases depth with
    | zero => rfl
    | succ depth => simp [setRole, hnobody]
  rw [setRole]
  split
  · simp only [hclear, ite_self]
  · rfl

theorem cleanIcons_apply (guid : Nat) (hguid : guid ≠ 0) (is : List (Fin targetIconCount))
    (icons : Fin targetIconCount → Nat) (j : Fin targetIconCount) :
    cleanIcons guid is icons j = if j ∈ is ∧ icons j = guid then 0 else icons j := by
  unfold cleanIcons
  induction is generalizing icons with
  | nil => simp
  | cons i is ih =>
    rw [List.foldl_cons, ih]
    by_cases hi : icons i = guid
    · rw [if_pos hi]
      by_cases hji : j = i
      · subst hji
        simp [hi, Ne.symm hguid]
      · simp [hji]
    · rw [if_neg hi]
      by_cases hji : j = i
      · subst hji
        simp [hi]
      · simp [hji]

theorem cleanIcons_all (guid : Nat) (hguid : guid ≠ 0) (icons : Fin targetIconCount → Nat) (j : Fin targetIconCount) :
    cleanIcons guid (List.finRange targetIconCount) icons j = if icons j = guid then 0 else icons j := by
  rw [cleanIcons_apply guid hguid]
  simp

/-- **Nobody is marked twice** by an icon that is set. -/
theorem setTargetIcon_apart (h : IconsApart R.targetIcons) (id guid : Nat) :
    IconsApart (R.setTargetIcon id guid).targetIcons := by
  unfold setTargetIcon
  split
  · next hid =>
    intro i j hi hij
    simp only [Function.update_apply] at hi hij
    by_cases hguid : guid = 0
    · subst hguid
      simp only [ne_eq, not_true_eq_false, if_false] at hi hij
      split at hij
      · next hx => simp [hx] at hi
      split at hij
      · next hx _ => simp [hx, hij] at hi
      · next hx _ => exact h i j (by simpa [hx] using hi) hij
    · simp only [ne_eq, hguid, not_false_eq_true, if_true, cleanIcons_all guid hguid] at hi hij
      grind [IconsApart]
  · exact h

/-! ### The invariant -/

/-- What runs keep: the law, and that nobody is no member and two equal roles are nobody's. -/
structure Settled (R : RoleGroup) : Prop extends R.Orderly where
  nobody : R.isMember 0 = false
  apart : R.mainTank = R.mainAssistant → R.mainTank = 0

/-- The law speaks of the GUIDs of the slots, the leader, the roles and the icons only. -/
theorem Settled.of_same {R' : RoleGroup} (h : R.Settled)
    (hguids : R'.memberSlots.map MemberSlot.guid = R.memberSlots.map MemberSlot.guid)
    (hleader : R'.leaderGuid = R.leaderGuid) (htank : R'.mainTank = R.mainTank)
    (hassistant : R'.mainAssistant = R.mainAssistant) (hicons : R'.targetIcons = R.targetIcons) : R'.Settled := by
  have hmember := Group.isMember_congr hguids
  refine ⟨⟨fun hne => ?_, ?_, ?_⟩, ?_, ?_⟩
  · rw [hmember, hleader]
    refine h.leader fun hnil => hne ?_
    rwa [hnil, List.map_nil, List.map_eq_nil_iff] at hguids
  · rw [hmember, htank, hassistant]
    exact h.roles
  · rw [hicons]
    exact h.icons
  · rw [hmember]
    exact h.nobody
  · rw [htank, hassistant]
    exact h.apart

theorem isMember_cons (R : RoleGroup) (s : MemberSlot) (guid : Nat) :
    (R.pushMember s).isMember guid = true ↔ R.isMember guid = true ∨ guid = s.guid := by
  rw [Group.isMember_iff, Group.isMember_iff]
  simp [Group.pushMember, Group.subGroupCounterIncrease, Group.countSubGroup, eq_comm]

theorem addMember_some {R' : RoleGroup} {guid : Nat} (h : R.addMember guid = some R') :
    ∃ sub icons, guid ≠ 0 ∧ (icons = R.targetIcons ∨ icons = fun _ => 0) ∧
      R' = { R with toGroup := R.pushMember { guid := guid, group := sub }, targetIcons := icons } := by
  unfold addMember at h
  split at h
  · exact nomatch h
  next sub _ =>
  split at h
  · exact nomatch h
  split at h
  · exact nomatch h
  next hguid =>
  refine ⟨sub, if R.raid then R.targetIcons else fun _ => 0, hguid, ?_, (Option.some.inj h).symm⟩
  split
  · exact Or.inl rfl
  · exact Or.inr rfl

theorem pushMember_ne_nil (R : RoleGroup) (s : MemberSlot) : (R.pushMember s).memberSlots ≠ [] := by
  simp [Group.pushMember, Group.subGroupCounterIncrease, Group.countSubGroup]

/-- **A new member**: into a group with members anyone may come, into one without the leader. -/
theorem addMember_settled {R' : RoleGroup} {guid : Nat} (h : R.Settled) (hadd : R.addMember guid = some R')
    (hempty : R.memberSlots = [] → guid = R.leaderGuid) : R'.Settled := by
  obtain ⟨sub, icons, hguid, hicons, rfl⟩ := addMember_some hadd
  have hmember := isMember_cons R { guid := guid, group := sub }
  refine ⟨⟨fun _ => ?_, fun htank => ?_, ?_⟩, ?_, h.apart⟩
  · refine (hmember _).2 ?_
    by_cases hnil : R.memberSlots = []
    · exact Or.inr (hempty hnil).symm
    · exact Or.inl (h.leader hnil)
  · rcases (hmember _).1 htank with hold | hnew
    · exact h.roles hold
    · exact fun heq => hguid (hnew.symm.trans (h.apart heq))
  · rcases hicons with rfl | rfl
    · exact h.icons
    · exact fun _ _ hne => absurd rfl hne
  · have := h.nobody
    rw [← Bool.not_eq_true, hmember]
    simp [this, Ne.symm hguid]

/-- **The slip of an add**: into a group without members comes one who does not lead it. -/
theorem addMember_stray {R' : RoleGroup} {guid : Nat} (hadd : R.addMember guid = some R')
    (hempty : R.memberSlots = []) (hord : R'.Orderly) : guid = R.leaderGuid := by
  obtain ⟨sub, icons, _, _, rfl⟩ := addMember_some hadd
  have hlead := (isMember_cons R _ _).1 (hord.leader (pushMember_ne_nil R _))
  rw [Group.isMember_iff, hempty] at hlead
  simpa [eq_comm, Group.pushMember, Group.subGroupCounterIncrease, Group.countSubGroup] using hlead

/-- **A role is given** to a member who has not the other one. -/
theorem appoint_settled {guid : Nat} {role : GroupRole} (h : R.Settled) (hm : R.isMember guid = true)
    (hne : guid ≠ R.holder role.other) : (R.appoint guid role).Settled := by
  have hguid : guid ≠ 0 := by
    rintro rfl
    exact Bool.false_ne_true (h.nobody.symm.trans hm)
  cases role with
  | mainTank => exact ⟨⟨h.leader, fun _ => hne, h.icons⟩, h.nobody, fun heq => absurd heq hne⟩
  | mainAssistant =>
    exact ⟨⟨h.leader, fun _ => Ne.symm hne, h.icons⟩, h.nobody, fun heq => absurd heq.symm hne⟩

/-- **The slip of a role**: a member who has the other one has both. -/
theorem appoint_both {guid : Nat} {role : GroupRole} (hm : R.isMember guid = true)
    (hord : (R.appoint guid role).Orderly) : guid ≠ R.holder role.other := by
  rintro rfl
  cases role with
  | mainTank => exact hord.roles hm rfl
  | mainAssistant => exact hord.roles hm rfl

theorem setRole_exact (h : R.Settled) (role : GroupRole) (guid : Nat) :
    let R' := if R.raid = false then R else (R.setRole 2 role guid).getD R
    let heedful := R.raid = true → R.isMember guid = true → guid ≠ R.holder role.other
    (heedful → R'.Settled) ∧ (R'.Orderly → heedful) := by
  simp only [setRole_eq h.nobody]
  refine ⟨fun hheed => ?_, fun hord hraid hm => ?_⟩
  · split
    · exact h
    next hraid =>
    split
    · next hm => exact appoint_settled h hm (hheed (by simpa using hraid) hm)
    · exact h
  · rw [if_neg (by simp [hraid]), if_pos hm] at hord
    exact appoint_both hm hord

theorem disband_settled (h : R.Settled) : R.disband.Settled :=
  ⟨⟨fun hne => absurd rfl hne, fun hm => (nomatch hm), h.icons⟩, rfl, h.apart⟩

theorem dropMember_settled (h : R.Settled) (hne : R.memberSlots ≠ []) (guid : Nat) :
    ({ R with toGroup := R.dropMember guid } : RoleGroup).Settled := by
  refine ⟨⟨Group.dropMember_leader guid (h.leader hne), fun hm => ?_, h.icons⟩, ?_, h.apart⟩
  · exact h.roles (Group.dropMember_isMember hm)
  · by_contra hm
    rw [Bool.not_eq_false] at hm
    exact Bool.false_ne_true (h.nobody.symm.trans (Group.dropMember_isMember hm))

theorem removeMember_settled (h : R.Settled) (guid : Nat) : (R.removeMember guid).Settled := by
  unfold removeMember
  by_cases hlen : R.memberSlots.length > (if R.bgGroup then 1 else 2)
  · rw [if_pos hlen]
    refine dropMember_settled h (fun hnil => ?_) guid
    rw [hnil] at hlen
    exact absurd hlen (Nat.not_lt_zero _)
  · rw [if_neg hlen]
    exact disband_settled h

theorem changeLeader_settled (h : R.Settled) (guid : Nat) : (R.changeLeader guid).Settled := by
  unfold changeLeader
  split
  · next hm => exact ⟨⟨fun _ => hm, h.roles, h.icons⟩, h.nobody, h.apart⟩
  · exact h

theorem setTargetIcon_settled (h : R.Settled) (id guid : Nat) : (R.setTargetIcon id guid).Settled := by
  have hicons := setTargetIcon_apart h.icons id guid
  unfold setTargetIcon at hicons ⊢
  split
  · next hid =>
    rw [dif_pos hid] at hicons
    exact ⟨⟨h.leader, h.roles, hicons⟩, h.nobody, h.apart⟩
  · exact h

theorem setAssistant_settled (h : R.Settled) (guid : Nat) (flag : Bool) : (R.setAssistant guid flag).Settled := by
  unfold setAssistant
  split
  · exact h
  · refine h.of_same (Group.setAssistant_guids _ _ _) ?_ rfl rfl rfl
    simp only [Group.setAssistant]
    split <;> rfl

theorem changePlayersGroup_settled (h : R.Settled) (guid group prev : Nat) :
    (R.changePlayersGroup guid group prev).Settled := by
  unfold changePlayersGroup
  split
  · exact h
  split
  · exact h
  next G1 hG1 =>
  have hguids := Group.setMembersGroup_guids hG1
  have hleader := Group.setMembersGroup_leaderGuid hG1
  exact h.of_same hguids hleader rfl rfl rfl

theorem changeMembersGroup_settled (h : R.Settled) (guid group prev : Nat) :
    (R.changeMembersGroup guid group prev).Settled := by
  unfold changeMembersGroup
  split
  · exact h
  simp only
  cases hG1 : (R.subGroupCounterDecrease prev).setMembersGroup guid group with
  | none => exact h.of_same rfl rfl rfl rfl rfl
  | some G1 =>
    have hguids := Group.setMembersGroup_guids hG1
    have hleader := Group.setMembersGroup_leaderGuid hG1
    exact h.of_same hguids hleader rfl rfl rfl

/-! ### Starts -/

theorem setUp_memberSlots (G : Group) (guid : Nat) : (G.setUp guid).memberSlots = G.memberSlots := by
  unfold Group.setUp
  simp only
  split <;> rfl

theorem setUp_leaderGuid (G : Group) (guid : Nat) : (G.setUp guid).leaderGuid = guid := by
  unfold Group.setUp
  simp only
  split <;> rfl

theorem empty_settled {G : Group} (h : G.memberSlots = []) : ({ toGroup := G } : RoleGroup).Settled := by
  have hmember : ∀ guid, G.isMember guid = false := by
    intro guid
    rw [← Bool.not_eq_true, Group.isMember_iff, h]
    exact List.not_mem_nil
  exact ⟨⟨fun hne => absurd h hne, fun hm => absurd hm (by simp [hmember]), fun _ _ hne => absurd rfl hne⟩,
    hmember 0, fun _ => rfl⟩

theorem create_settled (bgGroup : Bool) (guid : Nat) : (create bgGroup guid).Settled := by
  unfold create
  have hempty : ({ toGroup := ({ bgGroup := bgGroup } : Group).setUp guid } : RoleGroup).Settled :=
    empty_settled (setUp_memberSlots _ guid)
  simp only
  cases hadd : addMember { toGroup := ({ bgGroup := bgGroup } : Group).setUp guid } guid with
  | none => exact hempty
  | some R' => exact addMember_settled hempty hadd fun _ => (setUp_leaderGuid _ guid).symm

end RoleGroup

theorem GroupRow.load_settled {row : GroupRow} {exist : Nat → Bool} (h : row.Fine exist) :
    (row.load exist).Settled := by
  obtain ⟨hslots, hleader⟩ := Group.foldl_pushMember (row.knownMembers exist)
    (if row.raid then Group.initRaidSubGroupsCounter { leaderGuid := row.leaderGuid, raid := row.raid }
      else { leaderGuid := row.leaderGuid, raid := row.raid })
  replace hslots := hslots.trans (show _ = row.knownMembers exist by split <;> rfl)
  replace hleader := hleader.trans (show _ = row.leaderGuid by split <;> rfl)
  have hdisbanded : ∀ G : Group, RoleGroup.Settled
      (RoleGroup.disband ⟨G, row.mainTank, row.mainAssistant, row.targetIcons⟩) := fun G =>
    ⟨⟨fun hne => absurd rfl hne, fun hm => (nomatch hm), h.icons⟩, rfl, h.roles⟩
  have hknown : ∀ s ∈ row.knownMembers exist, exist s.guid = true := fun s hs => (List.mem_filter.1 hs).2
  unfold load
  simp only
  by_cases hexist : exist row.leaderGuid = false
  · rw [if_pos hexist]
    exact hdisbanded _
  rw [if_neg hexist, hslots]
  rw [Bool.not_eq_false] at hexist
  by_cases hlen : (row.knownMembers exist).length < 2
  · rw [if_pos hlen]
    exact hdisbanded _
  rw [if_neg hlen]
  have hnobody : ∀ s ∈ row.knownMembers exist, s.guid ≠ 0 := by
    intro s hs h0
    have := hknown s hs
    rw [h0, h.nobody] at this
    exact Bool.false_ne_true this
  refine ⟨⟨fun _ => ?_, fun hm heq => ?_, h.icons⟩, ?_, h.roles⟩
  · obtain ⟨s, hs, hguid⟩ := List.mem_map.1 (h.leader hexist (by omega))
    rw [Group.isMember_iff, hslots, hleader]
    exact List.mem_map.2 ⟨s, List.mem_filter.2 ⟨hs, by rw [hguid]; exact hexist⟩, hguid⟩
  · rw [Group.isMember_iff, hslots] at hm
    obtain ⟨s, hs, hguid⟩ := List.mem_map.1 hm
    exact hnobody s hs (hguid.trans (h.roles heq))
  · rw [← Bool.not_eq_true, Group.isMember_iff, hslots]
    rintro hm
    obtain ⟨s, hs, hguid⟩ := List.mem_map.1 hm
    exact hnobody s hs hguid

theorem GroupStart.group_settled {start : GroupStart} (h : start.Fine) : start.group.Settled := by
  cases start with
  | create bgGroup guid => exact RoleGroup.create_settled bgGroup guid
  | load row exist => exact GroupRow.load_settled h

namespace RoleGroup

/-! ## One call, a run -/

/-- **One call**: it keeps the group in order just if it is heedful. -/
theorem call_exact {R : RoleGroup} (h : R.Settled) (c : GroupCall) :
    (R.Heedful c → (R.call c).Settled) ∧ ((R.call c).Orderly → R.Heedful c) := by
  cases c with
  | addMember guid =>
    cases hadd : R.addMember guid with
    | none =>
      simp only [call, Heedful, hadd, Option.getD_none, Option.isSome_none]
      exact ⟨fun _ => h, fun _ _ hsome => nomatch hsome⟩
    | some R' =>
      simp only [call, Heedful, hadd, Option.getD_some, Option.isSome_some]
      exact ⟨fun hheed => addMember_settled h hadd fun hempty => hheed hempty trivial,
        fun hord hempty _ => addMember_stray hadd hempty hord⟩
  | setMainTank guid => exact setRole_exact h .mainTank guid
  | setMainAssistant guid => exact setRole_exact h .mainAssistant guid
  | removeMember guid => exact ⟨fun _ => removeMember_settled h guid, fun _ => trivial⟩
  | changeLeader guid => exact ⟨fun _ => changeLeader_settled h guid, fun _ => trivial⟩
  | setTargetIcon id guid => exact ⟨fun _ => setTargetIcon_settled h id guid, fun _ => trivial⟩
  | setAssistant guid flag => exact ⟨fun _ => setAssistant_settled h guid flag, fun _ => trivial⟩
  | changePlayersGroup guid group prev =>
    exact ⟨fun _ => changePlayersGroup_settled h guid group prev, fun _ => trivial⟩
  | changeMembersGroup guid group prev =>
    exact ⟨fun _ => changeMembersGroup_settled h guid group prev, fun _ => trivial⟩
  | convertToRaid => exact ⟨fun _ => h.of_same rfl rfl rfl rfl rfl, fun _ => trivial⟩
  | disband => exact ⟨fun _ => disband_settled h, fun _ => trivial⟩

/-- **A group is in order all along** exactly as long as no role is given to the member who has the
other one and no member comes into a group that was disbanded. -/
theorem orderly_along_iff (start : GroupStart) (hstart : start.Fine) (calls : List GroupCall) :
    (start.group.Orderly ∧ Transition.Along call (fun R c => (R.call c).Orderly) start.group calls) ↔
      Transition.Along call Heedful start.group calls := by
  have hsettled := GroupStart.group_settled hstart
  refine Iff.trans (and_iff_right hsettled.toOrderly) ?_
  exact Transition.along_iff_of_invariant (fun R c h => (call_exact h c).1)
    (fun R c h => ⟨(call_exact h c).2, fun hheed => ((call_exact h c).1 hheed).toOrderly⟩) hsettled

/-- Two calls by the leader of a raid, the second of which takes no role from player 2. -/
def bothRoles : List GroupCall := [.addMember 2, .convertToRaid, .setMainTank 2, .setMainAssistant 2]

/-- A raid whose calls are heedful. -/
theorem orderly_along_sample :
    (GroupStart.create false 1).Fine ∧
      ((GroupStart.create false 1).group.Orderly ∧
          Transition.Along call (fun R c => (R.call c).Orderly) (GroupStart.create false 1).group bothRoles ↔
        Transition.Along call Heedful (GroupStart.create false 1).group bothRoles) :=
  ⟨trivial, orderly_along_iff (.create false 1) trivial bothRoles⟩

/-- **One member has both roles.** -/
theorem both_roles : ¬ ∀ (start : GroupStart), start.Fine → ∀ calls : List GroupCall,
    (Transition.run call start.group calls).Orderly := by
  intro h
  have hroles := (h (.create false 1) trivial bothRoles).roles
  exact hroles (by decide) (by decide)

end RoleGroup

end BlizzLike
