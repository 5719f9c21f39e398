import BlizzLikeCore.BattleGround.NewMatch

/-!
# Joining the queue for an arena

`HandleBattleGroundArenaJoin` lets a player join alone, or with his group, and for a rated match with an arena team.
The group is asked for when the request says so, but its members are looked at whenever the match is rated.  And
`CanJoinBattleGroundQueue` counts all members, where only those who are online join
(`arenaJoin_sound_iff`).

    update_alike    : what waits in a queue stays there
    joinAll_players : who is in the new group
-/

namespace BlizzLike

/-- `BG_JOIN_ERR_*` -/
inductive BgJoinErr where
  | ok | offlineMember | groupTooMany | mixedFaction | mixedLevels | mixedArenaTeam | groupMemberAlreadyInQueue
  | groupDeserter | allQueuesUsed | groupNotEnough
  deriving DecidableEq, Repr

/-- A group as the queues see it: all its members, and those who are online, from `GetFirstMember` on. -/
structure ArenaGroup where
  members : List Nat
  refs : List Nat
  nodup : members.Nodup
  refs_nodup : refs.Nodup
  refs_subset : refs ⊆ members

/-- The player who asks, his group, the creature he names (and if it is a battle master), the personal ratings by
slot, and what `Update` asks the clock and the dice. -/
structure ArenaJoinView where
  player : Nat
  group : Option ArenaGroup := none
  unit : Option Bool := some true
  personalRating : Nat → Nat → Nat := fun _ _ => 0
  now : Nat := 0
  arenaNum : Nat := 0
  /-- A player is linked to his group. -/
  linked : ∀ grp, group = some grp → player ∈ grp.refs := by simp

/-- What comes of a request. -/
inductive ArenaJoinReply where
  | ignored
  | arenaJoinError (err : BgJoinErr)
  | notInArenaTeam (arenatype : Nat)
  | joined (bgQueueTypeId : Nat) (ginfo : GroupRef)
  deriving DecidableEq, Repr

def battlegroundAA : Nat := 6

/-- The arena type of a slot. -/
def arenaTypeOfSlot : Nat → Option Nat
  | 0 => some 2
  | 1 => some 3
  | 2 => some 5
  | _ => none

theorem ArenaGroup.all_online_iff (G : ArenaGroup) : G.refs.length = G.members.length ↔ G.members ⊆ G.refs := by
  constructor
  · intro hlen
    exact ((List.subperm_of_subset G.refs_nodup G.refs_subset).perm_of_length_le hlen.ge).symm.subset
  · intro hsub
    exact Nat.le_antisymm (List.subperm_of_subset G.refs_nodup G.refs_subset).length_le
      (List.subperm_of_subset G.nodup hsub).length_le

namespace BattleGroundMgr

variable (w : BattleGroundMgr) (v : ArenaJoinView)

/-! ## The checks -/

/-- One member in the loop of `CanJoinBattleGroundQueue`, compared with the first. -/
def memberErr (reference member bgTypeId bgQueueType : Nat) (isRated : Bool) (arenaSlot : Nat) : BgJoinErr :=
  let ref := w.players reference
  let player := w.players member
  if player.team ≠ ref.team then .mixedFaction
  else if player.getBattleGroundQueueIdFromLevel ≠ ref.getBattleGroundQueueIdFromLevel then .mixedLevels
  else if isRated = true ∧ player.arenaTeamId arenaSlot ≠ ref.arenaTeamId arenaSlot then .mixedArenaTeam
  else if (player.getBattleGroundQueueIndex bgQueueType).isSome then .groupMemberAlreadyInQueue
  else if bgTypeId ≠ battlegroundAA ∧ player.deserter = true then .groupDeserter
  else if player.hasFreeBattleGroundQueueId = false then .allQueuesUsed
  else .ok

/-- The first error of the loop. -/
def membersErr (reference bgTypeId bgQueueType : Nat) (isRated : Bool) (arenaSlot : Nat) : List Nat → BgJoinErr
  | [] => .ok
  | member :: refs =>
    match w.memberErr reference member bgTypeId bgQueueType isRated arenaSlot with
    | .ok => membersErr reference bgTypeId bgQueueType isRated arenaSlot refs
    | err => err

/-- `CanJoinBattleGroundQueue`; `none` where nobody is linked, so that there is no first member. -/
def canJoinBattleGroundQueue (grp : ArenaGroup) (bgTypeId bgQueueType minPlayerCount maxPlayerCount : Nat)
    (isRated : Bool) (arenaSlot : Nat) : Option BgJoinErr :=
  if grp.members.length < minPlayerCount then some .groupNotEnough
  else if grp.members.length > maxPlayerCount then some .groupTooMany
  else
    match grp.refs with
    | [] => none
    | reference :: refs =>
      some (w.membersErr reference bgTypeId bgQueueType isRated arenaSlot (reference :: refs))

/-- The end of the checks: `grp` of the source, or what is replied; `none` is a null pointer that is used. -/
def queueingConditions (bgTypeId bgQueueType arenatype arenaslot : Nat) (asGroup isRated : Bool) :
    Option (Except ArenaJoinReply (Option ArenaGroup)) :=
  if asGroup = false then
    if ((w.players v.player).getBattleGroundQueueIndex bgQueueType).isSome then some (.error .ignored)
    else if (w.players v.player).hasFreeBattleGroundQueueId = false then some (.error .ignored)
    else some (.ok none)
  else
    match v.group with
    | none => some (.error .ignored)
    | some grp =>
      match w.canJoinBattleGroundQueue grp bgTypeId bgQueueType arenatype arenatype isRated arenaslot with
      | none => none
      | some .ok => some (.ok (some grp))
      | some err => some (.error (.arenaJoinError err))

/-- The rating a team is queued with. -/
def queueRating (grp : ArenaGroup) (arenaslot arenatype teamRating : Nat) : Nat :=
  let sum := u32 ((grp.refs.map fun member => v.personalRating member arenaslot).sum)
  let avg := if arenatype ≠ 0 then sum / arenatype else sum
  if u32 (avg + 150) < teamRating then avg else teamRating

/-- For a rated match the arena team and the rating, else 0 and 0. -/
def ratedTeam (grp : Option ArenaGroup) (arenaslot arenatype : Nat) (isRated : Bool) :
    Option (Except ArenaJoinReply (Nat × Nat)) :=
  if isRated = false then some (.ok (0, 0))
  else
    let ateamId := (w.players v.player).arenaTeamId arenaslot
    match w.arenaTeam ateamId with
    | none => some (.error (.notInArenaTeam arenatype))
    | some teamRating =>
      -- `grp->GetFirstMember()`
      match grp with
      | none => none
      | some grp => some (.ok (ateamId, queueRating v grp arenaslot arenatype teamRating))

/-! ## The queue -/

/-- A member is added to the queue. -/
def joinOne (q : Nat) (ginfo : GroupRef) (w : BattleGroundMgr) (member : Nat) : BattleGroundMgr :=
  (w.modifyPlayer member (·.addBattleGroundQueueId q)).addPlayer q member ginfo

def joinAll (q : Nat) (ginfo : GroupRef) (members : List Nat) : BattleGroundMgr := members.foldl (joinOne q ginfo) w

/-- The new group in the queue, with its members.  (A player alone gets his slot before his group is made, which makes
no difference.) -/
def joinQueue (q : Nat) (members : List Nat) (bgTypeId arenatype : Nat) (isRated : Bool) (arenaRating ateamId : Nat) :
    GroupRef × BattleGroundMgr :=
  let added := w.addGroup q v.player bgTypeId arenatype isRated arenaRating ateamId v.now
  (added.1, (added.2.joinAll q added.1 members).update q
    { bgTypeId := bgTypeId
      queueId := (w.players v.player).getBattleGroundQueueIdFromLevel
      arenaType := arenatype
      isRated := isRated
      arenaRating := arenaRating
      now := v.now
      arenaNum := v.arenaNum })

/-- What is known of a request that has come to the checks: the arena type, the battleground type and the queue. -/
structure ArenaRequest where
  arenatype : Nat
  bgTypeId : Nat
  bgQueueTypeId : Nat

/-- The first checks. -/
def arenaRequest (arenaslot : Nat) : Option ArenaRequest :=
  if (w.players v.player).bgInstanceID ≠ 0 then none
  else if v.unit ≠ some true then none
  else
    match arenaTypeOfSlot arenaslot, w.template battlegroundAA with
    | some arenatype, some bg => some ⟨arenatype, bg.typeID, bgQueueTypeId bg.typeID arenatype⟩
    | _, _ => none

/-- `HandleBattleGroundArenaJoin`; `none` is a null pointer that is used. -/
def handleBattleGroundArenaJoin (arenaslot : Nat) (asGroup isRated : Bool) :
    Option (ArenaJoinReply × BattleGroundMgr) :=
  match w.arenaRequest v arenaslot with
  | none => some (.ignored, w)
  | some r =>
    match w.queueingConditions v r.bgTypeId r.bgQueueTypeId r.arenatype arenaslot asGroup isRated with
    | none => none
    | some (.error reply) => some (reply, w)
    | some (.ok grp) =>
      match w.ratedTeam v grp arenaslot r.arenatype isRated with
      | none => none
      | some (.error reply) => some (reply, w)
      | some (.ok (ateamId, arenaRating)) =>
        let members := match grp with
          | none => [v.player]
          | some grp => grp.refs
        let joined := w.joinQueue v r.bgQueueTypeId members r.bgTypeId r.arenatype isRated arenaRating ateamId
        some (.joined r.bgQueueTypeId joined.1, joined.2)

/-! ## What should come of it -/

/-- A group that waits for a rated match: as many players of his group as the slot is for, who are online and of the
arena team it is queued for. -/
structure RatedGroup (t : BattleGroundMgr) (arenaslot q : Nat) (g : GroupRef) : Prop where
  queued : ∃ bracket, g ∈ (t.queues q).queuedGroups bracket
  size : arenaTypeOfSlot arenaslot = some ((t.queues q).group g).players.length
  nodup : ((t.queues q).group g).players.Nodup
  online : ∀ p ∈ ((t.queues q).group g).players, ∃ grp, v.group = some grp ∧ p ∈ grp.refs
  team : ∀ p ∈ ((t.queues q).group g).players,
    (w.players p).arenaTeamId arenaslot = ((t.queues q).group g).arenaTeamId
  exists_team : (w.arenaTeam ((t.queues q).group g).arenaTeamId).isSome = true

/-- **The law** for a request: no null pointer is used, and either nothing changes or a group is queued, for a rated
match such a one. -/
def ArenaJoinSound (arenaslot : Nat) (asGroup isRated : Bool) : Prop :=
  ∃ reply t, w.handleBattleGroundArenaJoin v arenaslot asGroup isRated = some (reply, t) ∧
    ((∀ q g, reply ≠ .joined q g) → t = w) ∧
    ∀ q g, reply = .joined q g → isRated = true → w.RatedGroup v t arenaslot q g

/-- The request gets past the checks, and the player has an arena team. -/
def GetsThrough (arenaslot : Nat) (asGroup isRated : Bool) : Prop :=
  ∃ r grp, w.arenaRequest v arenaslot = some r ∧
    w.queueingConditions v r.bgTypeId r.bgQueueTypeId r.arenatype arenaslot asGroup isRated = some (.ok grp) ∧
    (w.arenaTeam ((w.players v.player).arenaTeamId arenaslot)).isSome = true

/-- **The condition**: who gets through for a rated match comes with his group, and everybody in it is online. -/
def InFull (arenaslot : Nat) (asGroup isRated : Bool) : Prop :=
  isRated = true → w.GetsThrough v arenaslot asGroup isRated →
    asGroup = true ∧ ∀ grp, v.group = some grp → grp.members ⊆ grp.refs

variable {w v}

/-! ## Update -/

theorem foldl_alike {α : Type*} {f : BattleGroundMgr → α → BattleGroundMgr}
    (hf : ∀ (u : BattleGroundMgr) a, u.Alike (f u a))
    (l : List α) (u : BattleGroundMgr) : u.Alike (l.foldl f u) := by
  induction l generalizing u with
  | nil => exact .refl u
  | cons a l ih => exact (hf u a).trans (ih (f u a))

theorem Alike.of_eq {α : Type*} {x : α × BattleGroundMgr} {a : α} {t : BattleGroundMgr} (h : w.Alike x.2)
    (heq : x = (a, t)) : w.Alike t := by
  subst heq
  exact h

theorem offerSlots_alike (q bgTypeId bgId : Nat) (g : GroupRef) : w.Alike (w.offerSlots q bgTypeId bgId g) := by
  unfold offerSlots
  dsimp only
  split
  · exact .refl w
  · split
    · exact inviteGroupToBG_alike ..
    · exact .refl w

theorem inviteToOne_alike (q bgTypeId queueId bgId : Nat) : w.Alike (w.inviteToOne q bgTypeId queueId bgId) := by
  have hloop : ∀ groups : List GroupRef, w.Alike (groups.foldl (fun w g => w.offerSlots q bgTypeId bgId g) w) :=
    fun groups => foldl_alike (fun u g => u.offerSlots_alike q bgTypeId bgId g) groups w
  unfold inviteToOne
  split
  · exact .refl w
  split
  · dsimp only
    split
    · split
      · exact hloop _
      · exact (hloop _).trans ⟨fun _ => .refl _, fun _ => .refl _, rfl, rfl, rfl, rfl, rfl, rfl, rfl⟩
    · exact hloop _
  · exact .refl w

theorem inviteUpTo_alike (q bgId side : Nat) (m : UInt16) (groups : List GroupRef) (c : UInt16) :
    w.Alike (inviteUpTo q bgId side m groups c w).2 := by
  induction groups generalizing c w with
  | nil => exact .refl w
  | cons g groups ih =>
    unfold inviteUpTo
    split
    · exact .refl w
    · exact (inviteGroupToBG_alike q g bgId side).trans (ih (c + 1))

theorem setOpponents_alike (q : Nat) (one two : List GroupRef) : w.Alike (w.setOpponents q one two) := by
  have hset : ∀ (u : BattleGroundMgr) g rating, u.Alike (u.modifyGroup q g (·.setOpponents rating)) := fun u g rating =>
    modifyGroup_alike q g _ fun _ => ⟨rfl, rfl, rfl, rfl, rfl, rfl, rfl⟩
  unfold setOpponents
  split
  · exact (hset ..).trans (hset ..)
  · exact .refl w

theorem inviteBothSides_alike (q bgId : Nat) (isRated : Bool) (ally enemy : List GroupRef) :
    w.Alike (w.inviteBothSides q bgId isRated ally enemy) := by
  unfold inviteBothSides
  dsimp only
  split
  · next w1 h1 => exact (inviteUpTo_alike ..).of_eq h1
  next w1 h1 =>
  have hw1 : w.Alike w1 := (inviteUpTo_alike ..).of_eq h1
  split
  · next w2 h2 => exact hw1.trans ((inviteUpTo_alike ..).of_eq h2)
  next w2 h2 =>
  have hw2 : w.Alike w2 := hw1.trans ((inviteUpTo_alike ..).of_eq h2)
  refine Alike.trans ?_ (modifyBattleGround_alike ..)
  split
  · exact hw2.trans (setOpponents_alike ..)
  · exact hw2

theorem inviteOneSide_alike (q bgId : Nat) (isRated : Bool) (one two : List GroupRef) :
    w.Alike (w.inviteOneSide q bgId isRated one two) := by
  have hall : ∀ (u : BattleGroundMgr) side groups, u.Alike (u.inviteAll q bgId side groups) := fun u side groups =>
    foldl_alike (fun u g => u.inviteGroupToBG_alike q g bgId side) groups u
  have hboth := (hall w horde one).trans (hall (w.inviteAll q bgId horde one) alliance two)
  unfold inviteOneSide
  refine Alike.trans ?_ (modifyBattleGround_alike ..)
  split
  · exact hboth.trans (setOpponents_alike ..)
  · exact hboth

theorem selectOneSide_alike (q : Nat) (call : UpdateCall) (maxPlayers : UInt32) (side other : Nat) :
    w.Alike (w.selectOneSide q call maxPlayers side other).2 := by
  unfold selectOneSide
  split
  · exact .refl w
  · exact (setTeams_alike ..).trans (setTeams_alike ..)

theorem selectSameSide_alike (q : Nat) (call : UpdateCall) (maxPlayers : UInt32) :
    w.Alike (w.selectSameSide q call maxPlayers).2 := by
  have h1 : w.Alike (w.selectOneSide q call maxPlayers horde alliance).2 := selectOneSide_alike ..
  unfold selectSameSide
  split
  · next both w1 heq => exact h1.of_eq heq
  · next w1 heq =>
    rw [heq] at h1
    exact h1.trans (selectOneSide_alike ..)

theorem makeNew_alike (q : Nat) (call : UpdateCall) : w.Alike (w.makeNew q call) := by
  unfold makeNew
  split
  · exact .refl w
  dsimp only
  split
  · split
    · exact .refl w
    · next hnew => exact (newBattleGround_creates hnew).alike.trans (inviteBothSides_alike ..)
  split
  · have hsel := w.selectSameSide_alike q call
    split
    · next heq => exact (hsel _).of_eq heq
    · next heq =>
      have hw1 := (hsel _).of_eq heq
      split
      · exact hw1
      · next hnew => exact (hw1.trans (newArena_creates hnew).alike).trans (inviteOneSide_alike ..)
  · exact .refl w

/-- **What waits in a queue stays there** as it is. -/
theorem update_alike (q : Nat) (call : UpdateCall) : w.Alike (w.update q call) := by
  unfold update
  split
  · exact .refl w
  split
  · exact .refl w
  · exact (foldl_alike (fun u bgId => u.inviteToOne_alike q _ _ bgId) _ w).trans (makeNew_alike ..)

/-! ## Who is in the new group -/

theorem addGroup_group (q leader bgTypeId arenaType : Nat) (isRated : Bool) (arenaRating arenaTeamId now : Nat) :
    let added := w.addGroup q leader bgTypeId arenaType isRated arenaRating arenaTeamId now
    ((added.2.queues q).group added.1).players = [] ∧ ((added.2.queues q).group added.1).arenaTeamId = arenaTeamId ∧
      added.1 ∈ (added.2.queues q).queuedGroups ((w.players leader).getBattleGroundQueueIdFromLevel) := by
  simp [addGroup, modifyQueue]

theorem joinOne_group (q : Nat) (g : GroupRef) (member : Nat) :
    ((joinOne q g w member).queues q).queuedGroups = (w.queues q).queuedGroups ∧
      ∃ info, ((joinOne q g w member).queues q).group g = ((w.queues q).group g).setInfo member info := by
  constructor
  · simp only [joinOne, addPlayer, modifyPlayer, modifyQueue, BattleGroundQueue.modifyGroup, Function.update_self]
  · refine ⟨((w.modifyPlayer member (·.addBattleGroundQueueId q)).queues q).queuedPlayers
      ((w.modifyPlayer member (·.addBattleGroundQueueId q)).players member).getBattleGroundQueueIdFromLevel member |>.getD
      (w.queues q).nextInfo, ?_⟩
    simp only [joinOne, addPlayer, modifyPlayer, modifyQueue, BattleGroundQueue.modifyGroup, Function.update_self]

/-- **All of them**, when nobody is in the group yet. -/
theorem joinAll_players (q : Nat) (g : GroupRef) (members : List Nat) (hnodup : ((w.queues q).group g).players.Nodup) :
    ((w.joinAll q g members).queues q).queuedGroups = (w.queues q).queuedGroups ∧
      (((w.joinAll q g members).queues q).group g).arenaTeamId = ((w.queues q).group g).arenaTeamId ∧
      (((w.joinAll q g members).queues q).group g).players.Nodup ∧
      ∀ p, p ∈ (((w.joinAll q g members).queues q).group g).players ↔
        p ∈ ((w.queues q).group g).players ∨ p ∈ members := by
  induction members generalizing w with
  | nil => exact ⟨rfl, rfl, hnodup, fun p => by simp [joinAll]⟩
  | cons member members ih =>
    obtain ⟨hqueued, info, hinfo⟩ := joinOne_group (w := w) q g member
    have hplayers : (((joinOne q g w member).queues q).group g).players =
        if member ∈ ((w.queues q).group g).players then ((w.queues q).group g).players
        else ((w.queues q).group g).players.orderedInsert (· ≤ ·) member := by
      rw [hinfo]
      rfl
    have hteam : (((joinOne q g w member).queues q).group g).arenaTeamId = ((w.queues q).group g).arenaTeamId := by
      rw [hinfo]
      rfl
    have hnodup1 : (((joinOne q g w member).queues q).group g).players.Nodup := by
      rw [hplayers]
      split
      · exact hnodup
      · next hnew => exact (List.perm_orderedInsert (· ≤ ·) member _).nodup_iff.2 (List.nodup_cons.2 ⟨hnew, hnodup⟩)
    have hmem1 : ∀ p, p ∈ (((joinOne q g w member).queues q).group g).players ↔
        p ∈ ((w.queues q).group g).players ∨ p = member := by
      intro p
      rw [hplayers]
      split
      · next hold =>
        refine ⟨Or.inl, ?_⟩
        rintro (h | rfl)
        · exact h
        · exact hold
      · rw [List.mem_orderedInsert]
        exact Or.comm
    obtain ⟨hq, ht, hn, hm⟩ := ih hnodup1
    refine ⟨hq.trans hqueued, ht.trans hteam, hn, fun p => (hm p).trans ?_⟩
    rw [hmem1, List.mem_cons, or_assoc]

theorem joinQueue_group (q : Nat) {members : List Nat} (hmembers : members.Nodup) (bgTypeId arenatype : Nat)
    (isRated : Bool) (arenaRating ateamId : Nat) :
    let joined := w.joinQueue v q members bgTypeId arenatype isRated arenaRating ateamId
    let group := (joined.2.queues q).group joined.1
    (∃ bracket, joined.1 ∈ (joined.2.queues q).queuedGroups bracket) ∧ group.arenaTeamId = ateamId ∧
      group.players.Nodup ∧ group.players.length = members.length ∧ ∀ p, p ∈ group.players ↔ p ∈ members := by
  obtain ⟨hempty, hteam, hqueued⟩ := addGroup_group (w := w) q v.player bgTypeId arenatype isRated arenaRating ateamId v.now
  dsimp only at hempty hteam hqueued ⊢
  unfold joinQueue
  dsimp only
  generalize w.addGroup q v.player bgTypeId arenatype isRated arenaRating ateamId v.now = added at *
  obtain ⟨hq, ht, hn, hm⟩ := joinAll_players (w := added.2) q added.1 members (by rw [hempty]; exact List.nodup_nil)
  have hkeep := (update_alike (w := added.2.joinAll q added.1 members) q
    { bgTypeId := bgTypeId, queueId := (w.players v.player).getBattleGroundQueueIdFromLevel, arenaType := arenatype,
      isRated := isRated, arenaRating := arenaRating, now := v.now, arenaNum := v.arenaNum }).queue q
  obtain ⟨hplayers, -, -, -, -, hateam, -⟩ := hkeep.group added.1
  have hiff : ∀ p, p ∈ (((added.2.joinAll q added.1 members).queues q).group added.1).players ↔ p ∈ members := by
    intro p
    rw [hm, hempty]
    exact ⟨fun h => h.resolve_left List.not_mem_nil, Or.inr⟩
  refine ⟨⟨(w.players v.player).getBattleGroundQueueIdFromLevel, ?_⟩, ?_, ?_, ?_, fun p => ?_⟩
  · rw [hkeep.queuedGroups, hq]
    exact hqueued
  · rw [hateam, ht, hteam]
  · rw [hplayers]
    exact hn
  · rw [hplayers]
    exact ((List.perm_ext_iff_of_nodup hn hmembers).2 hiff).length_eq
  · rw [hplayers]
    exact hiff p

/-! ## The checks -/

theorem membersErr_ok {reference bgTypeId q arenaSlot : Nat} {isRated : Bool} {refs : List Nat}
    (h : w.membersErr reference bgTypeId q isRated arenaSlot refs = .ok) (hrated : isRated = true) :
    ∀ p ∈ refs, (w.players p).arenaTeamId arenaSlot = (w.players reference).arenaTeamId arenaSlot := by
  induction refs with
  | nil => exact fun p hp => absurd hp List.not_mem_nil
  | cons member refs ih =>
    unfold membersErr at h
    split at h
    · next hok =>
      intro p hp
      rcases List.mem_cons.1 hp with rfl | hp
      · unfold memberErr at hok
        dsimp only at hok
        split at hok
        · cases hok
        split at hok
        · cases hok
        split at hok
        · cases hok
        next hteam => exact not_not.1 fun hne => hteam ⟨hrated, hne⟩
      · exact ih h p hp
    · next herr => exact absurd h herr

/-- A group that can join has the right number of members, for a rated match of one arena team. -/
theorem canJoin_ok {grp : ArenaGroup} {bgTypeId q size arenaSlot : Nat} {isRated : Bool}
    (h : w.canJoinBattleGroundQueue grp bgTypeId q size size isRated arenaSlot = some .ok) (hrated : isRated = true)
    {leader : Nat} (hleader : leader ∈ grp.refs) :
    grp.members.length = size ∧
      ∀ p ∈ grp.refs, (w.players p).arenaTeamId arenaSlot = (w.players leader).arenaTeamId arenaSlot := by
  unfold canJoinBattleGroundQueue at h
  split at h
  · cases h
  next hmin =>
  split at h
  · cases h
  next hmax =>
  refine ⟨by omega, ?_⟩
  cases hrefs : grp.refs with
  | nil =>
    rw [hrefs] at hleader
    exact absurd hleader List.not_mem_nil
  | cons reference refs =>
    rw [hrefs] at h hleader
    have hsame := membersErr_ok (Option.some.inj h) hrated
    exact fun p hp => (hsame p hp).trans (hsame leader hleader).symm

theorem canJoin_some (grp : ArenaGroup) (bgTypeId q minCount maxCount arenaSlot : Nat) (isRated : Bool)
    {leader : Nat} (hleader : leader ∈ grp.refs) :
    ∃ err, w.canJoinBattleGroundQueue grp bgTypeId q minCount maxCount isRated arenaSlot = some err := by
  unfold canJoinBattleGroundQueue
  split
  · exact ⟨_, rfl⟩
  split
  · exact ⟨_, rfl⟩
  cases hrefs : grp.refs with
  | nil =>
    rw [hrefs] at hleader
    exact absurd hleader List.not_mem_nil
  | cons reference refs => exact ⟨_, rfl⟩

/-- **The checks** use no null pointer, and what they let through is a player alone or a group that can join. -/
theorem queueingConditions_spec (bgTypeId q arenatype arenaslot : Nat) (asGroup isRated : Bool) :
    ∃ res, w.queueingConditions v bgTypeId q arenatype arenaslot asGroup isRated = some res ∧
      (∀ reply, res = .error reply → ∀ q' g, reply ≠ .joined q' g) ∧
      ∀ grp, res = .ok grp → (asGroup = false ∧ grp = none) ∨
        ∃ G, asGroup = true ∧ grp = some G ∧ v.group = some G ∧
          w.canJoinBattleGroundQueue G bgTypeId q arenatype arenatype isRated arenaslot = some .ok := by
  unfold queueingConditions
  split
  · next has =>
    split
    · exact ⟨_, rfl, fun reply h q' g => by cases h; exact nofun, fun grp h => nomatch h⟩
    split
    · exact ⟨_, rfl, fun reply h q' g => by cases h; exact nofun, fun grp h => nomatch h⟩
    · refine ⟨.ok none, rfl, fun reply h => (nomatch h), fun grp h => ?_⟩
      cases h
      exact .inl ⟨has, rfl⟩
  next has =>
  cases hgroup : v.group with
  | none => exact ⟨_, rfl, fun reply h q' g => by cases h; exact nofun, fun grp h => nomatch h⟩
  | some G =>
    obtain ⟨err, herr⟩ := canJoin_some (w := w) G bgTypeId q arenatype arenatype arenaslot isRated (v.linked G hgroup)
    dsimp only
    rw [herr]
    by_cases hok : err = .ok
    · subst hok
      refine ⟨.ok (some G), rfl, fun reply h => (nomatch h), fun grp h => ?_⟩
      cases h
      exact .inr ⟨G, Bool.of_not_eq_false has, rfl, rfl, herr⟩
    · refine ⟨.error (.arenaJoinError err), ?_, fun reply h q' g => by cases h; exact nofun, fun grp h => nomatch h⟩
      cases err with
      | ok => exact absurd rfl hok
      | _ => rfl

/-! ## Top theorems -/

/-- **The group that joins for a rated match** is right just if everybody is online. -/
theorem joinQueue_rated_iff {G : ArenaGroup} {arenaslot q bgTypeId arenatype : Nat} (arenaRating : Nat)
    (hgroup : v.group = some G) (hslot : arenaTypeOfSlot arenaslot = some arenatype)
    (hjoin : w.canJoinBattleGroundQueue G bgTypeId q arenatype arenatype true arenaslot = some .ok)
    (hteam : (w.arenaTeam ((w.players v.player).arenaTeamId arenaslot)).isSome = true) :
    let joined := w.joinQueue v q G.refs bgTypeId arenatype true arenaRating ((w.players v.player).arenaTeamId arenaslot)
    w.RatedGroup v joined.2 arenaslot q joined.1 ↔ G.members ⊆ G.refs := by
  obtain ⟨hsize, hsame⟩ := canJoin_ok hjoin rfl (v.linked G hgroup)
  obtain ⟨hqueued, hateam, hnodup, hlen, hmem⟩ := joinQueue_group (w := w) (v := v) q G.refs_nodup bgTypeId arenatype
    true arenaRating ((w.players v.player).arenaTeamId arenaslot)
  dsimp only at hqueued hateam hnodup hlen hmem ⊢
  rw [← G.all_online_iff]
  constructor
  · intro h
    have hsize' := h.size
    rw [hslot, Option.some.injEq, hlen] at hsize'
    rw [← hsize', hsize]
  · intro hfull
    refine ⟨hqueued, ?_, hnodup, fun p hp => ⟨G, hgroup, (hmem p).1 hp⟩, fun p hp => ?_, ?_⟩
    · rw [hslot, hlen, hfull, hsize]
    · rw [hateam]
      exact hsame p ((hmem p).1 hp)
    · rw [hateam]
      exact hteam

theorem arenaRequest_slot {arenaslot : Nat} {r : ArenaRequest} (h : w.arenaRequest v arenaslot = some r) :
    arenaTypeOfSlot arenaslot = some r.arenatype := by
  unfold arenaRequest at h
  split at h
  · cases h
  split at h
  · cases h
  split at h
  · next hslot _ =>
    cases h
    exact hslot
  · cases h

/-- **A request is dealt with as it should be** just under the condition. -/
theorem arenaJoin_sound_iff (w : BattleGroundMgr) (v : ArenaJoinView) (arenaslot : Nat) (asGroup isRated : Bool) :
    w.ArenaJoinSound v arenaslot asGroup isRated ↔ w.InFull v arenaslot asGroup isRated := by
  unfold ArenaJoinSound InFull GetsThrough handleBattleGroundArenaJoin
  cases hr : w.arenaRequest v arenaslot with
  | none =>
    refine iff_of_true ⟨.ignored, w, rfl, fun _ => rfl, fun q g h => nomatch h⟩ ?_
    rintro - ⟨r, grp, h, -⟩
    cases h
  | some r =>
    obtain ⟨res, hres, herror, hok⟩ := queueingConditions_spec (w := w) (v := v) r.bgTypeId r.bgQueueTypeId r.arenatype
      arenaslot asGroup isRated
    dsimp only
    rw [hres]
    cases res with
    | error reply =>
      refine iff_of_true ⟨reply, w, rfl, fun _ => rfl, fun q g h => absurd h (herror reply rfl q g)⟩ ?_
      rintro - ⟨r', grp, h, hconds, -⟩
      cases h
      rw [hres] at hconds
      cases hconds
    | ok grp =>
      dsimp only
      unfold ratedTeam
      cases isRated with
      | false =>
        rw [if_pos rfl]
        exact iff_of_true ⟨_, _, rfl, fun h => absurd rfl (h _ _), fun q g _ h => nomatch h⟩ fun h => nomatch h
      | true =>
        rw [if_neg Bool.noConfusion]
        dsimp only
        cases hteam : w.arenaTeam ((w.players v.player).arenaTeamId arenaslot) with
        | none =>
          refine iff_of_true ⟨.notInArenaTeam r.arenatype, w, rfl, fun _ => rfl, fun q g h => nomatch h⟩ ?_
          rintro - ⟨r', grp', -, -, h⟩
          cases h
        | some teamRating =>
          rcases hok grp rfl with ⟨has, rfl⟩ | ⟨G, has, rfl, hgroup, hjoin⟩
          · -- `grp` is null
            refine iff_of_false ?_ fun h => ?_
            · rintro ⟨reply, t, h, -⟩
              cases h
            · have hyes := (h rfl ⟨r, none, rfl, hres, rfl⟩).1
              rw [has] at hyes
              cases hyes
          · have hrated := joinQueue_rated_iff (queueRating v G arenaslot r.arenatype teamRating) hgroup
              (arenaRequest_slot hr) hjoin (by rw [hteam]; rfl)
            dsimp only at hrated ⊢
            constructor
            · rintro ⟨reply, t, h, -, hlaw⟩ - -
              cases h
              refine ⟨has, fun G' hG' => ?_⟩
              rw [hgroup] at hG'
              cases hG'
              exact hrated.1 (hlaw _ _ rfl rfl)
            · intro h
              have hsub := (h rfl ⟨r, some G, rfl, hres, rfl⟩).2 G hgroup
              refine ⟨_, _, rfl, fun hne => absurd rfl (hne _ _), fun q g heq _ => ?_⟩
              cases heq
              exact hrated.2 hsub

/-! ### A team of two -/

/-- Everybody has level 70 and is of the arena team 9. -/
def arenaMgr : BattleGroundMgr :=
  { sampleMgr with
    template := fun bgTypeId => if bgTypeId = 6 then some { sampleTemplate with typeID := 6, isArena := true } else none
    players := fun _ => ⟨70, horde, true, fun _ => ⟨0, 0⟩, fun _ => 9, false, 0, 0, false⟩
    arenaTeam := fun id => if id = 9 then some 1500 else none }

/-- The player 1 in a group with 2, who is offline. -/
def offlineView : ArenaJoinView where
  player := 1
  group := some ⟨[1, 2], [1], by decide, by decide, by decide⟩
  linked grp h := by
    cases h
    decide

/-- **Who asks alone for a rated match** makes the server use a null pointer; **who asks with a member offline** is
queued alone against teams of two. -/
theorem rated_join_fails :
    arenaMgr.handleBattleGroundArenaJoin { player := 1 } 0 false true = none ∧
      ¬ arenaMgr.ArenaJoinSound { player := 1 } 0 false true ∧
      (arenaMgr.handleBattleGroundArenaJoin offlineView 0 true true).map
        (fun r => (r.1, ((r.2.queues 5).group 0).players)) = some (.joined 5 0, [1]) ∧
      ¬ arenaMgr.ArenaJoinSound offlineView 0 true true := by
  have halone : arenaMgr.handleBattleGroundArenaJoin { player := 1 } 0 false true = none := by decide +kernel
  have hone : (arenaMgr.handleBattleGroundArenaJoin offlineView 0 true true).map
      (fun r => (r.1, ((r.2.queues 5).group 0).players)) = some (.joined 5 0, [1]) := by decide +kernel
  refine ⟨halone, ?_, hone, ?_⟩
  · rintro ⟨reply, t, h, -⟩
    rw [halone] at h
    cases h
  · rintro ⟨reply, t, h, -, hlaw⟩
    rw [h, Option.map_some, Option.some.injEq, Prod.mk.injEq] at hone
    have hsize := (hlaw 5 0 hone.1 rfl).size
    rw [hone.2] at hsize
    exact absurd hsize (by decide)

end BattleGroundMgr

end BlizzLike
