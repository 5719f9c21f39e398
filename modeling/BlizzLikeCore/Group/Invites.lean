import BlizzLikeCore.Group.Group
import BlizzLikeCore.Lib.Counting
import BlizzLikeCore.Lib.Transition

/-!
# Invites

An invite stands on both sides: the group has the player among its invitees, the player points to
the group.  The two sides agree exactly as long as nobody without a group invites himself and
nobody with an invite is taken into the raid of a battleground (`invites_linked`).  The first
makes `HandleGroupInviteOpcode` delete the group it has just put its leader's pointer to
(`self_invited`), the second clears the pointer alone.
-/

namespace BlizzLike

namespace Group

/-- A group that is not created yet: its leader is invited like the others. -/
structure Forming (G : Group) : Prop where
  known : G.leaderGuid ≠ 0
  invited : G.leaderGuid ∈ G.invitees
  party : G.subGroupsCounts = none

/-- What `Disband` leaves. -/
structure Ended (G : Group) : Prop where
  leader : G.leaderGuid = 0
  invitees : G.invitees = []

/-- A group without members is not created yet or disbanded; that of a battleground is a raid. -/
structure Sound (G : Group) : Prop where
  empty : G.memberSlots = [] → G.Forming ∨ G.Ended
  bgRaid : G.bgGroup = true → G.raid = true

end Group

namespace GroupWorld

/-- **The law**: the two sides of all invites agree. -/
def Linked (w : GroupWorld) : Prop :=
  ∀ p g, (w.players p).groupInvite = some g ↔ ∃ G, w.groups g = some G ∧ p ∈ G.invitees

/-- A request that does not meet one of the missing checks. -/
def InviteHeedful (w : GroupWorld) : GroupRequest → Prop
  | .invite pl player allowed => pl = player → (w.players pl).inWorld = true → allowed = true →
      w.ownGroup pl = none → (w.players pl).groupInvite ≠ none
  | .enterBattleGround pl raid => (w.players pl).inWorld = true →
      (∀ g, raid = some g → ∃ G, w.groups g = some G ∧ G.bgGroup = true ∧ G.isMember pl = false ∧
        G.isFull = false ∧ G.freeSubGroup ≠ none) → (w.players pl).groupInvite = none
  | _ => True

/-- What is always so. -/
structure Regular (w : GroupWorld) : Prop where
  fresh : ∀ g, w.nextGroup ≤ g → w.groups g = none
  nobody : (w.players 0).loaded = false ∧ (w.players 0).inWorld = false
  pointer : ∀ p g, (w.players p).groupInvite = some g →
    g < w.nextGroup ∧ ∀ G, w.groups g = some G → p ∈ G.invitees
  sound : ∀ g G, w.groups g = some G → G.Sound

/-! ## What the operations do -/

section
variable (w : GroupWorld)

@[simp] theorem setGroupAt_groups (g : Nat) (G : Group) :
    (w.setGroupAt g G).groups = Function.update w.groups g (some G) := rfl

@[simp] theorem setGroupAt_players (g : Nat) (G : Group) : (w.setGroupAt g G).players = w.players := rfl

@[simp] theorem setGroupAt_nextGroup (g : Nat) (G : Group) : (w.setGroupAt g G).nextGroup = w.nextGroup := rfl

@[simp] theorem modifyPlayer_groups (p : Nat) (f : Player → Player) : (w.modifyPlayer p f).groups = w.groups := rfl

@[simp] theorem modifyPlayer_nextGroup (p : Nat) (f : Player → Player) :
    (w.modifyPlayer p f).nextGroup = w.nextGroup := rfl

theorem modifyPlayer_players (p q : Nat) (f : Player → Player) :
    (w.modifyPlayer p f).players q = if q = p then f (w.players p) else w.players q := by
  unfold modifyPlayer
  by_cases h : q = p
  · subst h; simp
  · simp [h]

@[simp] theorem ifInWorld_groups (p : Nat) (f : Player → Player) : (w.ifInWorld p f).groups = w.groups := by
  unfold ifInWorld
  split <;> rfl

@[simp] theorem ifInWorld_nextGroup (p : Nat) (f : Player → Player) :
    (w.ifInWorld p f).nextGroup = w.nextGroup := by
  unfold ifInWorld
  split <;> rfl

theorem ifInWorld_self {p : Nat} (f : Player → Player) (h : (w.players p).inWorld = true) :
    (w.ifInWorld p f).players p = f (w.players p) := by
  unfold ifInWorld
  rw [if_pos h, modifyPlayer_players, if_pos rfl]

theorem ifInWorld_other {p q : Nat} (f : Player → Player) (h : ¬(q = p ∧ (w.players p).inWorld = true)) :
    (w.ifInWorld p f).players q = w.players q := by
  unfold ifInWorld
  split
  · next hp => rw [modifyPlayer_players, if_neg fun he => h ⟨he, hp⟩]
  · rfl

end

/-- A player whose session is the same and who is invited as before, or to nothing any more. -/
structure Eased (P Q : Player) : Prop where
  loaded : Q.loaded = P.loaded
  inWorld : Q.inWorld = P.inWorld
  invite : Q.groupInvite = P.groupInvite ∨ Q.groupInvite = none

theorem Eased.refl (P : Player) : Eased P P := ⟨rfl, rfl, Or.inl rfl⟩

theorem Eased.trans {P Q R : Player} (h : Eased P Q) (k : Eased Q R) : Eased P R := by
  refine ⟨k.loaded.trans h.loaded, k.inWorld.trans h.inWorld, ?_⟩
  rcases k.invite with h1 | h1
  · rcases h.invite with h2 | h2
    · exact Or.inl (h1.trans h2)
    · exact Or.inr (h1.trans h2)
  · exact Or.inr h1

/-- The references change and nothing else. -/
structure Moved (P Q : Player) : Prop where
  loaded : Q.loaded = P.loaded
  inWorld : Q.inWorld = P.inWorld
  invite : Q.groupInvite = P.groupInvite

theorem Moved.refl (P : Player) : Moved P P := ⟨rfl, rfl, rfl⟩

theorem Moved.trans {P Q R : Player} (h : Moved P Q) (k : Moved Q R) : Moved P R :=
  ⟨k.loaded.trans h.loaded, k.inWorld.trans h.inWorld, k.invite.trans h.invite⟩

theorem Moved.eased {P Q : Player} (h : Moved P Q) : Eased P Q := ⟨h.loaded, h.inWorld, Or.inl h.invite⟩

theorem setGroup_moved (P : Player) (g : Option Nat) (sub : Nat) : Moved P (P.setGroup g sub) := by
  unfold Player.setGroup
  split <;> exact ⟨rfl, rfl, rfl⟩

theorem setOriginalGroup_moved (P : Player) (g : Option Nat) (sub : Nat) : Moved P (P.setOriginalGroup g sub) := by
  unfold Player.setOriginalGroup
  split <;> exact ⟨rfl, rfl, rfl⟩

theorem setBattleGroundRaid_moved (P : Player) (g sub : Nat) : Moved P (P.setBattleGroundRaid g sub) := by
  have h := setOriginalGroup_moved P P.group P.subGroup
  exact ⟨h.loaded, h.inWorld, h.invite⟩

theorem part_moved (P : Player) (g : Nat) (bg : Bool) : Moved P (P.part g bg) := by
  unfold Player.part
  split
  · exact ⟨rfl, rfl, rfl⟩
  split
  · exact setOriginalGroup_moved P _ _
  · exact setGroup_moved P _ _

theorem forget_moved (P : Player) (g : Nat) : Moved P (P.forget g) := ⟨rfl, rfl, rfl⟩

theorem join_spec (P : Player) (g sub : Nat) (bg : Bool) :
    Moved { P with groupInvite := none } (P.join g sub bg) := by
  unfold Player.join
  simp only
  split
  · exact setBattleGroundRaid_moved _ _ _
  split
  · exact setOriginalGroup_moved _ _ _
  · exact setGroup_moved _ _ _

theorem partAll_spec (g : Nat) (bg : Bool) (slots : List MemberSlot) (w : GroupWorld) :
    let v := slots.foldl (fun v s => v.ifInWorld s.guid fun P => P.part g bg) w
    v.groups = w.groups ∧ v.nextGroup = w.nextGroup ∧ ∀ p, Moved (w.players p) (v.players p) := by
  induction slots generalizing w with
  | nil => exact ⟨rfl, rfl, fun p => Moved.refl _⟩
  | cons s slots ih =>
    simp only [List.foldl_cons]
    obtain ⟨h1, h2, h3⟩ := ih (w.ifInWorld s.guid fun P => P.part g bg)
    refine ⟨h1.trans (ifInWorld_groups w _ _), h2.trans (ifInWorld_nextGroup w _ _), fun p => ?_⟩
    refine Moved.trans ?_ (h3 p)
    by_cases h : p = s.guid ∧ (w.players s.guid).inWorld = true
    · obtain ⟨rfl, hin⟩ := h
      rw [ifInWorld_self _ _ hin]
      exact part_moved _ _ _
    · rw [ifInWorld_other _ _ h]
      exact Moved.refl _

/-- **`Disband`** leaves an empty group and invites nobody. -/
theorem disband_spec (w : GroupWorld) (g : Nat) (G : Group) :
    (w.disband g G).groups = Function.update w.groups g
        (some { G with memberSlots := [], leaderGuid := 0, invitees := [] }) ∧
      (w.disband g G).nextGroup = w.nextGroup ∧
      ∀ p, Moved (if p ∈ G.invitees then { w.players p with groupInvite := none } else w.players p)
        ((w.disband g G).players p) := by
  obtain ⟨h1, h2, h3⟩ := partAll_spec g G.bgGroup G.memberSlots w
  unfold disband removeAllInvites
  simp only [setGroupAt_groups, setGroupAt_nextGroup]
  refine ⟨by rw [h1], h2, fun p => ?_⟩
  by_cases hp : p ∈ G.invitees
  · rw [if_pos hp, if_pos hp]
    exact ⟨(h3 p).loaded, (h3 p).inWorld, rfl⟩
  · rw [if_neg hp, if_neg hp]
    exact h3 p

@[simp] theorem pushMember_memberSlots (G : Group) (s : MemberSlot) :
    (G.pushMember s).memberSlots = G.memberSlots ++ [s] := rfl

@[simp] theorem pushMember_invitees (G : Group) (s : MemberSlot) : (G.pushMember s).invitees = G.invitees := rfl

/-- **`AddMember`**: the group has a slot more, and a player in the world is not invited any more. -/
theorem addMember_spec {w v : GroupWorld} {g guid : Nat} (h : w.addMember g guid = some v) :
    ∃ G sub, w.groups g = some G ∧ G.isFull = false ∧ guid ≠ 0 ∧ G.freeSubGroup = some sub ∧
      v.groups = Function.update w.groups g (some (G.pushMember { guid := guid, group := sub })) ∧
      v.nextGroup = w.nextGroup ∧
      ∀ q, Moved (if q = guid ∧ (w.players guid).inWorld = true then { w.players q with groupInvite := none }
        else w.players q) (v.players q) := by
  unfold addMember at h
  split at h
  · cases h
  next G hG =>
  split at h
  · cases h
  next sub hsub =>
  unfold addMemberTo at h
  split at h
  · cases h
  next hfull =>
  split at h
  · cases h
  next h0 =>
  cases h
  refine ⟨G, sub, hG, by simpa using hfull, h0, hsub, by simp, by simp, fun q => ?_⟩
  by_cases hq : q = guid ∧ (w.players guid).inWorld = true
  · rw [if_pos hq]
    obtain ⟨rfl, hin⟩ := hq
    rw [ifInWorld_self _ _ (by exact hin)]
    exact join_spec _ _ _ _
  · rw [if_neg hq, ifInWorld_other _ _ (by exact hq)]
    exact Moved.refl _

theorem addMember_some {w : GroupWorld} {g guid sub : Nat} {G : Group} (hG : w.groups g = some G)
    (hfull : G.isFull = false) (h0 : guid ≠ 0) (hsub : G.freeSubGroup = some sub) :
    ∃ v, w.addMember g guid = some v := by
  unfold addMember addMemberTo
  simp only [hG, hsub, hfull, h0, Bool.false_eq_true, if_false]
  exact ⟨_, rfl⟩

/-- **`AddInvite`** sets both sides for a player who has neither a group nor an invite. -/
theorem addInvite_spec {w v : GroupWorld} {g p : Nat} (h : w.addInvite g p = some v) :
    ∃ G, w.groups g = some G ∧ (w.players p).groupInvite = none ∧ w.ownGroup p = none ∧
      v.groups = Function.update w.groups g
        (some { G with invitees := p :: G.invitees.filter fun q => q != p }) ∧
      v.nextGroup = w.nextGroup ∧
      ∀ q, v.players q = if q = p then { w.players p with groupInvite := some g } else w.players q := by
  unfold addInvite at h
  split at h
  · cases h
  next G hG =>
  split at h
  · cases h
  next hi =>
  split at h
  · cases h
  next ho =>
  cases h
  refine ⟨G, hG, by simpa using hi, by simpa using ho, by simp, by simp, fun q => ?_⟩
  rw [modifyPlayer_players]
  rfl

theorem addInvite_none {w : GroupWorld} {g p : Nat} {G : Group} (hG : w.groups g = some G)
    (h : w.addInvite g p = none) : (w.players p).groupInvite ≠ none ∨ w.ownGroup p ≠ none := by
  unfold addInvite at h
  simp only [hG] at h
  split at h
  · next hi => exact Or.inl (Option.isSome_iff_ne_none.1 hi)
  split at h
  · next ho => exact Or.inr (Option.isSome_iff_ne_none.1 ho)
  · cases h

section
variable {w v : GroupWorld} {g : Nat} {o : Option Group}

theorem Regular.lt (h : w.Regular) {G : Group} (hG : w.groups g = some G) : g < w.nextGroup := by
  by_contra hge
  rw [h.fresh g (by omega)] at hG
  cases hG

/-- One group is changed or deleted, and players are invited as before or not any more. -/
theorem Regular.update (h : w.Regular) (hlt : g < w.nextGroup) (hg : v.groups = Function.update w.groups g o)
    (hn : v.nextGroup = w.nextGroup) (hp : ∀ p, Eased (w.players p) (v.players p))
    (ho : ∀ G', o = some G' → G'.Sound ∧ ∀ p, (v.players p).groupInvite = some g → p ∈ G'.invitees) :
    v.Regular := by
  refine ⟨fun g' hg' => ?_, ?_, fun p g' hi => ?_, fun g' G' hG' => ?_⟩
  · rw [hn] at hg'
    rw [hg, Function.update_of_ne (by omega)]
    exact h.fresh g' hg'
  · rw [(hp 0).loaded, (hp 0).inWorld]
    exact h.nobody
  · have hold : (w.players p).groupInvite = some g' := by
      rcases (hp p).invite with he | he
      · exact he ▸ hi
      · rw [he] at hi; cases hi
    obtain ⟨h1, h2⟩ := h.pointer p g' hold
    refine ⟨by rw [hn]; exact h1, fun G hG => ?_⟩
    rw [hg] at hG
    by_cases he : g' = g
    · subst he
      rw [Function.update_self] at hG
      exact (ho G hG).2 p hi
    · rw [Function.update_of_ne he] at hG
      exact h2 G hG
  · rw [hg] at hG'
    by_cases he : g' = g
    · subst he
      rw [Function.update_self] at hG'
      exact (ho G' hG').1
    · rw [Function.update_of_ne he] at hG'
      exact h.sound g' G' hG'

theorem Linked.update (h : w.Linked) (hg : v.groups = Function.update w.groups g o)
    (hother : ∀ p g', g' ≠ g → ((v.players p).groupInvite = some g' ↔ (w.players p).groupInvite = some g'))
    (hself : ∀ p, (v.players p).groupInvite = some g ↔ ∃ G', o = some G' ∧ p ∈ G'.invitees) : v.Linked := by
  intro p g'
  rw [hg]
  by_cases he : g' = g
  · subst he
    rw [Function.update_self]
    exact hself p
  · rw [Function.update_of_ne he, hother p g' he]
    exact h p g'

theorem Linked.same (h : w.Linked) {G G' : Group} (hG : w.groups g = some G)
    (hg : v.groups = Function.update w.groups g (some G')) (hi : G'.invitees = G.invitees)
    (hp : ∀ p, (v.players p).groupInvite = (w.players p).groupInvite) : v.Linked := by
  refine h.update hg (fun p g' _ => by rw [hp]) fun p => ?_
  rw [hp, h p g]
  constructor
  · rintro ⟨G1, h1, h2⟩
    cases hG.symm.trans h1
    exact ⟨G', rfl, hi ▸ h2⟩
  · rintro ⟨G1, h1, h2⟩
    cases h1
    exact ⟨G, hG, hi ▸ h2⟩

theorem Linked.players_only (h : w.Linked) (hg : v.groups = w.groups)
    (hp : ∀ p, (v.players p).groupInvite = (w.players p).groupInvite) : v.Linked := by
  intro p g'
  rw [hg, hp]
  exact h p g'

theorem Regular.players_only (h : w.Regular) (hg : v.groups = w.groups) (hn : v.nextGroup = w.nextGroup)
    (hp : ∀ p, Eased (w.players p) (v.players p)) : v.Regular := by
  refine ⟨by rw [hg, hn]; exact h.fresh, ?_, fun p g' hi => ?_, by rw [hg]; exact h.sound⟩
  · rw [(hp 0).loaded, (hp 0).inWorld]
    exact h.nobody
  · rcases (hp p).invite with he | he
    · rw [hg, hn]; exact h.pointer p g' (he ▸ hi)
    · rw [he] at hi; cases hi

theorem Regular.fresh_group (h : w.Regular) (hg : v.groups = Function.update w.groups w.nextGroup o)
    (hn : v.nextGroup = w.nextGroup + 1) (h0 : (v.players 0).loaded = false ∧ (v.players 0).inWorld = false)
    (hp : ∀ p, (v.players p).groupInvite = (w.players p).groupInvite ∨ (v.players p).groupInvite = none ∨
      (v.players p).groupInvite = some w.nextGroup ∧ ∀ G', o = some G' → p ∈ G'.invitees)
    (ho : ∀ G', o = some G' → G'.Sound) : v.Regular := by
  refine ⟨fun g' hg' => ?_, h0, fun p g' hi => ?_, fun g' G' hG' => ?_⟩
  · rw [hn] at hg'
    rw [hg, Function.update_of_ne (by omega)]
    exact h.fresh g' (by omega)
  · rw [hn, hg]
    rcases hp p with he | he | ⟨he, hin⟩
    · obtain ⟨h1, h2⟩ := h.pointer p g' (he ▸ hi)
      rw [Function.update_of_ne (by omega)]
      exact ⟨by omega, h2⟩
    · rw [he] at hi; cases hi
    · cases he.symm.trans hi
      rw [Function.update_self]
      exact ⟨by omega, hin⟩
  · rw [hg] at hG'
    by_cases he : g' = w.nextGroup
    · subst he
      rw [Function.update_self] at hG'
      exact ho G' hG'
    · rw [Function.update_of_ne he] at hG'
      exact h.sound g' G' hG'

theorem Linked.fresh_group (h : w.Linked) (hr : w.Regular)
    (hg : v.groups = Function.update w.groups w.nextGroup o)
    (hp : ∀ p, (v.players p).groupInvite = (w.players p).groupInvite ∧ (∀ G', o = some G' → p ∉ G'.invitees) ∨
      (w.players p).groupInvite = none ∧ (v.players p).groupInvite = some w.nextGroup ∧
        ∃ G', o = some G' ∧ p ∈ G'.invitees) : v.Linked := by
  have hnew : ∀ p, (w.players p).groupInvite ≠ some w.nextGroup := by
    intro p hi
    have := (hr.pointer p _ hi).1
    omega
  refine h.update hg (fun p g' hne => ?_) fun p => ?_
  · rcases hp p with ⟨he, _⟩ | ⟨hw, hv, _⟩
    · rw [he]
    · rw [hw, hv]
      exact ⟨fun he => absurd (Option.some.inj he).symm hne, fun he => by cases he⟩
  · rcases hp p with ⟨he, hno⟩ | ⟨_, hv, hin⟩
    · rw [he]
      exact ⟨fun hi => absurd hi (hnew p), fun ⟨G', hG', hin⟩ => absurd hin (hno G' hG')⟩
    · rw [hv]
      exact ⟨fun _ => hin, fun _ => rfl⟩

end

/-! ## Calm operations -/

/-- An operation that keeps what is always so, and the law. -/
def Calm (w v : GroupWorld) : Prop := w.Regular → v.Regular ∧ (w.Linked → v.Linked)

theorem Calm.refl (w : GroupWorld) : Calm w w := fun h => ⟨h, id⟩

theorem Calm.trans {w v u : GroupWorld} (h : Calm w v) (k : Calm v u) : Calm w u := by
  intro hr
  obtain ⟨hr1, hl1⟩ := h hr
  obtain ⟨hr2, hl2⟩ := k hr1
  exact ⟨hr2, fun hl => hl2 (hl1 hl)⟩

theorem calm_getD {w w' : GroupWorld} {o : Option GroupWorld} (h : ∀ v, o = some v → Calm w v) (h' : Calm w w') :
    Calm w (o.getD w') := by
  cases o with
  | none => exact h'
  | some v => exact h v rfl

section
variable {w v : GroupWorld} {g p : Nat} {G G' : Group} {o : Option Group}

theorem calm_players (hg : v.groups = w.groups) (hn : v.nextGroup = w.nextGroup)
    (hp : ∀ p, Moved (w.players p) (v.players p)) : Calm w v := fun h =>
  ⟨h.players_only hg hn fun p => (hp p).eased, fun hl => hl.players_only hg fun p => (hp p).invite⟩

theorem calm_group (hG : w.groups g = some G) (hg : v.groups = Function.update w.groups g (some G'))
    (hn : v.nextGroup = w.nextGroup) (hp : ∀ p, Moved (w.players p) (v.players p))
    (hi : G'.invitees = G.invitees) (hs : G.Sound → G'.Sound) : Calm w v := by
  intro h
  refine ⟨h.update (h.lt hG) hg hn (fun p => (hp p).eased) fun G1 h1 => ?_,
    fun hl => hl.same hG hg hi fun p => (hp p).invite⟩
  cases h1
  refine ⟨hs (h.sound g G hG), fun p hpi => ?_⟩
  rw [hi]
  exact (h.pointer p g ((hp p).invite ▸ hpi)).2 G hG

theorem calm_end (hG : w.groups g = some G) (hg : v.groups = Function.update w.groups g o)
    (hn : v.nextGroup = w.nextGroup)
    (hp : ∀ p, Moved (if p ∈ G.invitees then { w.players p with groupInvite := none } else w.players p) (v.players p))
    (ho : ∀ G', o = some G' → (G.Sound → G'.Sound) ∧ G'.invitees = []) : Calm w v := by
  intro h
  have hin : ∀ p ∈ G.invitees, (v.players p).groupInvite = none := by
    intro p hpi
    have := (hp p).invite
    rwa [if_pos hpi] at this
  have hout : ∀ p, p ∉ G.invitees → (v.players p).groupInvite = (w.players p).groupInvite := by
    intro p hpo
    have := (hp p).invite
    rwa [if_neg hpo] at this
  have hgone : ∀ p, (v.players p).groupInvite ≠ some g := by
    intro p hpi
    by_cases hpm : p ∈ G.invitees
    · rw [hin p hpm] at hpi; cases hpi
    · exact hpm ((h.pointer p g (hout p hpm ▸ hpi)).2 G hG)
  refine ⟨h.update (h.lt hG) hg hn (fun p => ?_) fun G1 h1 =>
    ⟨(ho G1 h1).1 (h.sound g G hG), fun p hpi => absurd hpi (hgone p)⟩, fun hl => ?_⟩
  · have h1 := hp p
    by_cases hpm : p ∈ G.invitees
    · rw [if_pos hpm] at h1
      exact ⟨h1.loaded, h1.inWorld, Or.inr h1.invite⟩
    · rw [if_neg hpm] at h1
      exact h1.eased
  · refine hl.update hg (fun p g' hne => ?_) fun p => ⟨fun hpi => absurd hpi (hgone p), ?_⟩
    · by_cases hpm : p ∈ G.invitees
      · rw [hin p hpm, (hl p g).2 ⟨G, hG, hpm⟩]
        exact ⟨(fun he => by cases he), fun he => absurd (Option.some.inj he).symm hne⟩
      · rw [hout p hpm]
    · rintro ⟨G1, h1, hpi⟩
      rw [(ho G1 h1).2] at hpi
      cases hpi

theorem calm_uninvite (hG : w.groups g = some G) (hpi : p ∈ G.invitees)
    (hg : v.groups = Function.update w.groups g (some G')) (hn : v.nextGroup = w.nextGroup)
    (hp : ∀ q, Moved (if q = p then { w.players q with groupInvite := none } else w.players q) (v.players q))
    (hi : G'.invitees = G.invitees.filter fun q => q != p) (hs : G.Sound → G'.Sound) : Calm w v := by
  intro h
  have hself : (v.players p).groupInvite = none := by
    have := (hp p).invite
    rwa [if_pos rfl] at this
  have hother : ∀ q, q ≠ p → (v.players q).groupInvite = (w.players q).groupInvite := by
    intro q hq
    have := (hp q).invite
    rwa [if_neg hq] at this
  have hmem : ∀ q, q ∈ G'.invitees ↔ q ∈ G.invitees ∧ q ≠ p := by
    intro q
    rw [hi, List.mem_filter]
    simp
  refine ⟨h.update (h.lt hG) hg hn (fun q => ?_) fun G1 h1 => ?_, fun hl => ?_⟩
  · have h1 := hp q
    by_cases hq : q = p
    · rw [if_pos hq] at h1
      exact ⟨h1.loaded, h1.inWorld, Or.inr h1.invite⟩
    · rw [if_neg hq] at h1
      exact h1.eased
  · cases h1
    refine ⟨hs (h.sound g G hG), fun q hqi => ?_⟩
    by_cases hq : q = p
    · rw [hq, hself] at hqi; cases hqi
    · exact (hmem q).2 ⟨(h.pointer q g (hother q hq ▸ hqi)).2 G hG, hq⟩
  · refine hl.update hg (fun q g' hne => ?_) fun q => ?_
    · by_cases hq : q = p
      · rw [hq, hself, (hl p g).2 ⟨G, hG, hpi⟩]
        exact ⟨(fun he => by cases he), fun he => absurd (Option.some.inj he).symm hne⟩
      · rw [hother q hq]
    · by_cases hq : q = p
      · rw [hq, hself]
        refine ⟨(fun he => by cases he), fun ⟨G1, h1, h2⟩ => ?_⟩
        cases h1
        exact absurd rfl ((hmem p).1 h2).2
      · rw [hother q hq, hl q g]
        constructor
        · rintro ⟨G1, h1, h2⟩
          cases hG.symm.trans h1
          exact ⟨G', rfl, (hmem q).2 ⟨h2, hq⟩⟩
        · rintro ⟨G1, h1, h2⟩
          cases h1
          exact ⟨G, hG, ((hmem q).1 h2).1⟩

theorem calm_addInvite (h : w.addInvite g p = some v)
    (hs : ∀ G, w.groups g = some G → G.memberSlots = [] → G.Forming) : Calm w v := by
  obtain ⟨G, hG, hnone, _, hg, hn, hp⟩ := addInvite_spec h
  have hmem : ∀ q, q ∈ (p :: G.invitees.filter fun q => q != p) ↔ q = p ∨ q ∈ G.invitees := by
    intro q
    rw [List.mem_cons, List.mem_filter]
    by_cases hq : q = p <;> simp [hq]
  have hself : (v.players p).groupInvite = some g := by rw [hp, if_pos rfl]
  have hother : ∀ q, q ≠ p → v.players q = w.players q := fun q hq => by rw [hp, if_neg hq]
  intro hr
  refine ⟨⟨fun g' hg' => ?_, ?_, fun q g' hi => ?_, fun g' G' hG' => ?_⟩, fun hl => hl.update hg (fun q g' hne => ?_)
    fun q => ?_⟩
  · rw [hn] at hg'
    have := hr.lt hG
    rw [hg, Function.update_of_ne (by omega)]
    exact hr.fresh g' hg'
  · by_cases h0 : 0 = p
    · rw [hp, if_pos h0, ← h0]
      exact hr.nobody
    · rw [hother 0 h0]
      exact hr.nobody
  · rw [hn, hg]
    by_cases hq : q = p
    · rw [hq] at hi
      cases hself.symm.trans hi
      rw [Function.update_self]
      refine ⟨hr.lt hG, fun G1 h1 => ?_⟩
      rw [← Option.some.inj h1]
      exact (hmem q).2 (Or.inl hq)
    · rw [hother q hq] at hi
      obtain ⟨h1, h2⟩ := hr.pointer q g' hi
      refine ⟨h1, fun G1 hG1 => ?_⟩
      by_cases hgg : g' = g
      · subst hgg
        rw [Function.update_self] at hG1
        rw [← Option.some.inj hG1]
        exact (hmem q).2 (Or.inr (h2 G hG))
      · rw [Function.update_of_ne hgg] at hG1
        exact h2 G1 hG1
  · rw [hg] at hG'
    by_cases hgg : g' = g
    · subst hgg
      rw [Function.update_self] at hG'
      cases hG'
      refine ⟨fun hempty => Or.inl ?_, (hr.sound g' G hG).bgRaid⟩
      have hf := hs G hG hempty
      exact ⟨hf.known, (hmem _).2 (Or.inr hf.invited), hf.party⟩
    · rw [Function.update_of_ne hgg] at hG'
      exact hr.sound g' G' hG'
  · by_cases hq : q = p
    · rw [hq, hself, hnone]
      exact ⟨fun he => absurd (Option.some.inj he).symm hne, (fun he => by cases he)⟩
    · rw [hother q hq]
  · by_cases hq : q = p
    · rw [hq, hself]
      exact ⟨fun _ => ⟨_, rfl, (hmem p).2 (Or.inl rfl)⟩, fun _ => rfl⟩
    · rw [hother q hq, hl q g]
      constructor
      · rintro ⟨G1, h1, h2⟩
        cases hG.symm.trans h1
        exact ⟨_, rfl, (hmem q).2 (Or.inr h2)⟩
      · rintro ⟨G1, h1, h2⟩
        cases h1
        exact ⟨G, hG, ((hmem q).1 h2).resolve_left hq⟩

theorem calm_addMember (h : w.addMember g p = some v)
    (hp : (w.players p).inWorld = true → (w.players p).groupInvite = none) : Calm w v := by
  obtain ⟨G, sub, hG, _, _, _, hg, hn, hm⟩ := addMember_spec h
  refine calm_group hG hg hn (fun q => ?_) rfl fun hs => ⟨fun he => by simp at he, hs.bgRaid⟩
  have h1 := hm q
  by_cases hq : q = p ∧ (w.players p).inWorld = true
  · rw [if_pos hq] at h1
    obtain ⟨rfl, hin⟩ := hq
    exact ⟨h1.loaded, h1.inWorld, h1.invite.trans (hp hin).symm⟩
  · rwa [if_neg hq] at h1

theorem setUp_fields (G : Group) (guid : Nat) :
    (G.setUp guid).memberSlots = G.memberSlots ∧ (G.setUp guid).invitees = G.invitees ∧
      (G.setUp guid).bgGroup = G.bgGroup ∧ (G.setUp guid).raid = G.bgGroup := by
  unfold Group.setUp
  simp only
  split <;> exact ⟨rfl, rfl, rfl, rfl⟩

/-- **`Create`** gives the group its first member. -/
theorem create_spec (hG : w.groups g = some G) (hempty : G.memberSlots = [])
    (hc : G.bgGroup = false → G.subGroupsCounts = none) (h0 : p ≠ 0) :
    (G.setUp p).isFull = false ∧ (G.setUp p).freeSubGroup = some 0 ∧
      (w.create g p).groups = Function.update w.groups g (some ((G.setUp p).pushMember { guid := p, group := 0 })) ∧
      (w.create g p).nextGroup = w.nextGroup ∧
      ∀ q, Moved (if q = p ∧ (w.players p).inWorld = true then { w.players q with groupInvite := none }
        else w.players q) ((w.create g p).players q) := by
  have hslots : (G.setUp p).memberSlots = [] := (setUp_fields G p).1.trans hempty
  have hfull : (G.setUp p).isFull = false := by
    unfold Group.isFull
    rw [hslots]
    split <;> rfl
  have hfree : (G.setUp p).freeSubGroup = some 0 := by
    unfold Group.freeSubGroup Group.setUp Group.initRaidSubGroupsCounter
    cases hb : G.bgGroup with
    | false => simp [hc hb]
    | true => simp [Group.membersOf, hempty, u8, maxRaidSubGroups, maxGroupSize, maxRaidSize, List.range_succ_eq_map]
  have hat : (w.setGroupAt g (G.setUp p)).groups g = some (G.setUp p) := by simp
  obtain ⟨v, hv⟩ := addMember_some hat hfull h0 hfree
  obtain ⟨G1, sub, hG1, _, _, hsub, hg, hn, hp⟩ := addMember_spec hv
  cases hat.symm.trans hG1
  cases hfree.symm.trans hsub
  have hcreate : w.create g p = v := by
    unfold create
    simp only [hG, hv, Option.getD_some]
  rw [hcreate]
  refine ⟨hfull, hfree, ?_, hn, hp⟩
  rw [hg, setGroupAt_groups, Function.update_idem]

/-! ### Removal -/

theorem calm_removeInvite (hG : w.groups g = some G) (hpi : p ∈ G.invitees)
    (hs : G.Sound → ({ G with invitees := G.invitees.filter fun q => q != p } : Group).Sound) :
    Calm w (w.removeInvite g G p) := by
  refine calm_uninvite hG hpi rfl rfl (fun q => ?_) rfl hs
  unfold removeInvite
  rw [modifyPlayer_players]
  by_cases hq : q = p
  · rw [if_pos hq, if_pos hq, hq]
    exact Moved.refl _
  · rw [if_neg hq, if_neg hq]
    exact Moved.refl _

theorem sound_of_members (h : G'.memberSlots ≠ []) (hb : G'.bgGroup = G.bgGroup) (hr : G'.raid = G.raid)
    (hs : G.Sound) : G'.Sound :=
  ⟨fun he => absurd he h, fun h1 => by rw [hr]; exact hs.bgRaid (hb ▸ h1)⟩

theorem calm_disband (hG : w.groups g = some G) : Calm w (w.disband g G) := by
  obtain ⟨h1, h2, h3⟩ := disband_spec w g G
  refine calm_end hG h1 h2 h3 fun G' hG' => ?_
  cases hG'
  exact ⟨fun hs => ⟨fun _ => Or.inr ⟨rfl, rfl⟩, hs.bgRaid⟩, rfl⟩

theorem calm_disband_delete (hG : w.groups g = some G) : Calm w ((w.disband g G).deleteGroup g) := by
  obtain ⟨h1, h2, h3⟩ := disband_spec w g G
  refine calm_end hG (o := none) ?_ h2 (fun p => (h3 p).trans (forget_moved _ g)) fun G' hG' => by cases hG'
  show Function.update (w.disband g G).groups g none = _
  rw [h1, Function.update_idem]

theorem dropMember_fields (G : Group) (guid : Nat) :
    (G.dropMember guid).invitees = G.invitees ∧ (G.dropMember guid).bgGroup = G.bgGroup ∧
      (G.dropMember guid).raid = G.raid ∧ G.memberSlots.length ≤ (G.dropMember guid).memberSlots.length + 1 := by
  have h : (G.eraseSlot guid).invitees = G.invitees ∧ (G.eraseSlot guid).bgGroup = G.bgGroup ∧
      (G.eraseSlot guid).raid = G.raid ∧ G.memberSlots.length ≤ (G.eraseSlot guid).memberSlots.length + 1 := by
    unfold Group.eraseSlot
    split
    · exact ⟨rfl, rfl, rfl, Nat.le_succ _⟩
    next s hs =>
    refine ⟨rfl, rfl, rfl, ?_⟩
    have := Counting.length_eraseP_find G.memberSlots _ s hs
    show _ ≤ (G.memberSlots.eraseP _).length + 1
    omega
  unfold Group.dropMember
  simp only
  split <;> exact h

/-- **`RemoveMember`** removes one of the members or disbands the group. -/
theorem removeMember_cases (w : GroupWorld) (g : Nat) (G : Group) (guid : Nat) :
    w.removeMember g G guid = w.disband g G ∧ (w.removeMember g G guid).membersCount g = 0 ∨
      w.removeMember g G guid = w.removeMemberSlot g G guid ∧
        (if G.bgGroup then 1 else 2) < G.memberSlots.length ∧
        (if G.bgGroup then 1 else 2) ≤ (w.removeMember g G guid).membersCount g := by
  unfold removeMember
  by_cases hlen : (if G.bgGroup then 1 else 2) < G.memberSlots.length
  · rw [if_pos hlen]
    refine Or.inr ⟨rfl, hlen, ?_⟩
    have := (dropMember_fields G guid).2.2.2
    unfold membersCount removeMemberSlot
    simp only [setGroupAt_groups, Function.update_self, Option.map_some, Option.getD_some]
    omega
  · rw [if_neg hlen]
    refine Or.inl ⟨rfl, ?_⟩
    unfold membersCount
    rw [(disband_spec w g G).1, Function.update_self]
    rfl

theorem calm_removeMemberSlot (hG : w.groups g = some G) (guid : Nat)
    (hlen : (if G.bgGroup then 1 else 2) < G.memberSlots.length) : Calm w (w.removeMemberSlot g G guid) := by
  obtain ⟨h1, h2, h3, h4⟩ := dropMember_fields G guid
  refine @calm_group _ _ _ _ (G.dropMember guid) hG (by simp [removeMemberSlot]) (by simp [removeMemberSlot]) (fun q => ?_)
    h1 fun hs => ⟨fun he => ?_, fun hb => ?_⟩
  · unfold removeMemberSlot
    rw [setGroupAt_players]
    by_cases h : q = guid ∧ (w.players guid).inWorld = true
    · obtain ⟨rfl, hin⟩ := h
      rw [ifInWorld_self _ _ hin]
      exact part_moved _ _ _
    · rw [ifInWorld_other _ _ h]
      exact Moved.refl _
  · rw [he, List.length_nil] at h4
    split at hlen <;> omega
  · rw [h3]
    exact hs.bgRaid (h2 ▸ hb)

theorem calm_removeMember (hG : w.groups g = some G) (guid : Nat) : Calm w (w.removeMember g G guid) := by
  rcases removeMember_cases w g G guid with ⟨h, _⟩ | ⟨h, hlen, _⟩
  · rw [h]; exact calm_disband hG
  · rw [h]; exact calm_removeMemberSlot hG guid hlen

/-- A group of two that is not of a battleground is deleted, a greater one is not. -/
theorem calm_removeFromGroup (w : GroupWorld) (g guid : Nat) (hbg : w.isBGGroup g = false) :
    Calm w (w.removeFromGroup g guid) := by
  unfold removeFromGroup
  split
  · exact Calm.refl w
  next G hG =>
  have hb : G.bgGroup = false := by simpa [isBGGroup, hG] using hbg
  simp only
  rcases removeMember_cases w g G guid with ⟨h, hcount⟩ | ⟨h, hlen, hcount⟩
  · rw [if_pos (by omega), h]
    exact calm_disband_delete hG
  · rw [hb] at hcount
    simp only [Bool.false_eq_true, if_false] at hcount
    rw [if_neg (by omega), h]
    exact calm_removeMemberSlot hG guid hlen

theorem calm_leaveBattleGround (w : GroupWorld) (guid g : Nat) : Calm w (w.leaveBattleGround guid g) := by
  unfold leaveBattleGround
  split
  · exact Calm.refl w
  next G hG =>
  split
  · exact Calm.refl w
  next hb =>
  have hb : G.bgGroup = true := by simpa using hb
  simp only
  rcases removeMember_cases w g G guid with ⟨h, hcount⟩ | ⟨h, hlen, hcount⟩
  · rw [if_pos hcount, h]
    exact calm_disband_delete hG
  · rw [hb] at hcount
    simp only [if_true] at hcount
    rw [if_neg (by omega), h]
    exact calm_removeMemberSlot hG guid hlen

/-- Once his own invite is taken back, all the others of a group are, and it is deleted. -/
theorem calm_uninvite_all {u : GroupWorld} (hG : w.groups g = some G)
    (hu : u.groups = Function.update (w.removeInvite g G p).groups g o) (hn : u.nextGroup = w.nextGroup)
    (hq : ∀ q, Moved (if q ∈ G.invitees.filter (fun q => q != p)
      then { (w.removeInvite g G p).players q with groupInvite := none } else (w.removeInvite g G p).players q)
      (u.players q)) (hpi : p ∈ G.invitees) : Calm w (u.deleteGroup g) := by
  refine calm_end hG (o := none) ?_ hn (fun q => ?_) fun G' hG' => by cases hG'
  · show Function.update u.groups g none = _
    rw [hu, Function.update_idem]
    exact Function.update_idem _ _ _
  · refine Moved.trans ?_ (forget_moved _ g)
    have h1 := hq q
    unfold removeInvite at h1
    simp only [modifyPlayer_players, setGroupAt_players, List.mem_filter] at h1
    by_cases hqp : q = p
    · subst hqp
      rw [if_pos hpi]
      simpa using h1
    · simpa [hqp] using h1

theorem removeAllInvites_spec (w : GroupWorld) (g : Nat) (G : Group) :
    (w.removeAllInvites g G).groups = Function.update w.groups g (some { G with invitees := [] }) ∧
      (w.removeAllInvites g G).nextGroup = w.nextGroup ∧
      ∀ p, (w.removeAllInvites g G).players p =
        if p ∈ G.invitees then { w.players p with groupInvite := none } else w.players p :=
  ⟨rfl, rfl, fun _ => rfl⟩

theorem calm_uninviteFromGroup (w : GroupWorld) (p : Nat) : Calm w (w.uninviteFromGroup p) := by
  intro hr
  unfold uninviteFromGroup
  split
  · exact Calm.refl w hr
  next g hi =>
  split
  · exact Calm.refl w hr
  next G hG =>
  have hpi := (hr.pointer p g hi).2 G hG
  simp only
  split
  · split
    · obtain ⟨h1, h2, h3⟩ := disband_spec (w.removeInvite g G p) g
        { G with invitees := G.invitees.filter fun q => q != p }
      exact calm_uninvite_all hG h1 h2 h3 hpi hr
    · obtain ⟨h1, h2, h3⟩ := removeAllInvites_spec (w.removeInvite g G p) g
        { G with invitees := G.invitees.filter fun q => q != p }
      refine calm_uninvite_all hG h1 h2 (fun q => ?_) hpi hr
      rw [h3 q]
      exact Moved.refl _
  · next hlen =>
    have hne : G.memberSlots ≠ [] := fun he => hlen (by simp [he])
    exact calm_removeInvite hG hpi (sound_of_members hne rfl rfl) hr

/-! ### Accepting -/

theorem removeInvite_players (w : GroupWorld) (g : Nat) (G : Group) (p q : Nat) :
    (w.removeInvite g G p).players q =
      if q = p then { w.players p with groupInvite := none } else w.players q := by
  unfold removeInvite
  rw [modifyPlayer_players]
  rfl

theorem created_sound (G : Group) (p : Nat) : ((G.setUp p).pushMember { guid := p, group := 0 }).Sound := by
  obtain ⟨_, _, h3, h4⟩ := setUp_fields G p
  refine ⟨fun he => by simp at he, fun hb => ?_⟩
  show (G.setUp p).raid = true
  rw [h4, ← h3]
  exact hb

theorem formGroup_spec (hG : w.groups g = some G) (hempty : G.memberSlots = []) (hf : G.Forming) :
    ∃ G0 : Group, (w.formGroup g G).groups =
        Function.update w.groups g (some ((G0.setUp G.leaderGuid).pushMember { guid := G.leaderGuid, group := 0 })) ∧
      (w.formGroup g G).nextGroup = w.nextGroup ∧ G0.memberSlots = [] ∧ G0.raid = G.raid ∧
      G0.bgGroup = G.bgGroup ∧ G0.subGroupsCounts = G.subGroupsCounts ∧
      (G0.invitees = if (w.players G.leaderGuid).inWorld then G.invitees.filter (fun q => q != G.leaderGuid)
        else G.invitees) ∧
      ∀ q, Moved (if q = G.leaderGuid ∧ (w.players G.leaderGuid).inWorld = true
        then { w.players q with groupInvite := none } else w.players q) ((w.formGroup g G).players q) := by
  unfold formGroup
  by_cases hin : (w.players G.leaderGuid).inWorld = true
  · rw [if_pos hin]
    let G0 : Group := { G with invitees := G.invitees.filter fun q => q != G.leaderGuid }
    have hat : (w.removeInvite g G G.leaderGuid).groups g = some G0 := by simp [removeInvite, G0]
    obtain ⟨_, _, h1, h2, h3⟩ := create_spec (p := G.leaderGuid) hat hempty (fun _ => hf.party) hf.known
    refine ⟨G0, ?_, h2, hempty, rfl, rfl, rfl, by rw [if_pos hin], fun q => ?_⟩
    · rw [h1]
      exact Function.update_idem _ _ _
    · have hq := h3 q
      rw [removeInvite_players, removeInvite_players, if_pos rfl] at hq
      by_cases hqp : q = G.leaderGuid
      · rw [if_pos ⟨hqp, hin⟩] at hq ⊢
        rw [if_pos hqp] at hq
        rw [hqp] at hq ⊢
        exact hq
      · rw [if_neg (fun h => hqp h.1)] at hq ⊢
        rwa [if_neg hqp] at hq
  · rw [if_neg hin]
    obtain ⟨_, _, h1, h2, h3⟩ := create_spec (p := G.leaderGuid) hG hempty (fun _ => hf.party) hf.known
    exact ⟨G, h1, h2, hempty, rfl, rfl, rfl, by rw [if_neg hin], h3⟩

theorem calm_formGroup (hG : w.groups g = some G) (hempty : G.memberSlots = []) (hf : G.Forming) :
    Calm w (w.formGroup g G) := by
  obtain ⟨G0, h1, h2, _, _, _, _, h3, h4⟩ := formGroup_spec hG hempty hf
  by_cases hin : (w.players G.leaderGuid).inWorld = true
  · rw [if_pos hin] at h3
    refine calm_uninvite hG hf.invited h1 h2 (fun q => ?_) ?_ fun _ => created_sound _ _
    · have := h4 q
      by_cases hq : q = G.leaderGuid
      · rw [if_pos ⟨hq, hin⟩] at this
        rwa [if_pos hq]
      · rw [if_neg (fun h => hq h.1)] at this
        rwa [if_neg hq]
    · rw [pushMember_invitees, (setUp_fields _ _).2.1, h3]
  · rw [if_neg hin] at h3
    refine calm_group hG h1 h2 (fun q => ?_) ?_ fun _ => created_sound _ _
    · have := h4 q
      rwa [if_neg (fun h => hin h.2)] at this
    · rw [pushMember_invitees, (setUp_fields _ _).2.1, h3]

theorem calm_handleGroupAccept (w : GroupWorld) (pl : Nat) : Calm w (w.handleGroupAccept pl) := by
  intro hr
  unfold handleGroupAccept
  split
  · exact Calm.refl w hr
  next g hi =>
  split
  · exact Calm.refl w hr
  next G hG =>
  split
  · exact Calm.refl w hr
  next hleader =>
  have hpi := (hr.pointer pl g hi).2 G hG
  have hno : ((w.removeInvite g G pl).players pl).groupInvite = none := by rw [removeInvite_players, if_pos rfl]
  simp only
  split
  · next hfull =>
    have hne : G.memberSlots ≠ [] := by
      intro he
      unfold Group.isFull at hfull
      rw [he] at hfull
      split at hfull <;> simp [maxRaidSize, maxGroupSize] at hfull
    exact calm_removeInvite hG hpi (sound_of_members hne rfl rfl) hr
  split
  · next hempty =>
    -- the group is formed now: its leader is invited still
    have hf : G.Forming := by
      rcases (hr.sound g G hG).empty hempty with h | h
      · exact h
      · rw [h.invitees] at hpi; cases hpi
    let G1 : Group := { G with invitees := G.invitees.filter fun q => q != pl }
    have hf1 : G1.Forming := ⟨hf.known, List.mem_filter.2 ⟨hf.invited, by simpa using hleader⟩, hf.party⟩
    have hG1 : (w.removeInvite g G pl).groups g = some G1 := by simp [removeInvite, G1]
    have h1 : Calm w (w.removeInvite g G pl) :=
      calm_removeInvite hG hpi fun hs => ⟨fun _ => Or.inl hf1, hs.bgRaid⟩
    have h2 : Calm w ((w.removeInvite g G pl).formGroup g G1) := h1.trans (calm_formGroup hG1 hempty hf1)
    have hno2 : (((w.removeInvite g G pl).formGroup g G1).players pl).groupInvite = none := by
      obtain ⟨_, _, _, _, _, _, _, _, h4⟩ := formGroup_spec hG1 hempty hf1
      rw [(h4 pl).invite]
      split
      · rfl
      · exact hno
    exact calm_getD (fun v hv => h2.trans (calm_addMember hv fun _ => hno2)) h2 hr
  · next hne =>
    have h1 : Calm w (w.removeInvite g G pl) := calm_removeInvite hG hpi (sound_of_members hne rfl rfl)
    exact calm_getD (fun v hv => h1.trans (calm_addMember hv fun _ => hno)) h1 hr

/-! ### Inviting -/

theorem addLeaderInvite_spec (h : w.addLeaderInvite g p = some v) :
    ∃ G, w.groups g = some G ∧ (w.players p).groupInvite = none ∧ w.ownGroup p = none ∧
      v.groups = Function.update w.groups g
        (some { G with leaderGuid := p, invitees := p :: G.invitees.filter fun q => q != p }) ∧
      v.nextGroup = w.nextGroup ∧
      ∀ q, v.players q = if q = p then { w.players p with groupInvite := some g } else w.players q := by
  unfold addLeaderInvite at h
  split at h
  · cases h
  next w1 hw1 =>
  obtain ⟨G, hG, h1, h2, h3, h4, h5⟩ := addInvite_spec hw1
  rw [h3, Function.update_self] at h
  cases h
  refine ⟨G, hG, h1, h2, ?_, h4, h5⟩
  rw [setGroupAt_groups, h3, Function.update_idem]

theorem addLeaderInvite_none (hG : w.groups g = some G) (h : w.addLeaderInvite g p = none) :
    (w.players p).groupInvite ≠ none ∨ w.ownGroup p ≠ none := by
  unfold addLeaderInvite at h
  split at h
  · next h1 => exact addInvite_none hG h1
  next w1 hw1 =>
  obtain ⟨_, _, _, _, h3, _⟩ := addInvite_spec hw1
  rw [h3, Function.update_self] at h
  cases h

/-- Who has a group of his own depends on the references and on which groups are of battlegrounds. -/
theorem ownGroup_congr (hb : ∀ g, v.isBGGroup g = w.isBGGroup g) (hp : (v.players p).group = (w.players p).group)
    (ho : (v.players p).originalGroup = (w.players p).originalGroup) : v.ownGroup p = w.ownGroup p := by
  unfold ownGroup
  simp only [hp, ho, hb]

theorem isBGGroup_fresh (hr : w.Regular) {H : Group} (hg : v.groups = Function.update w.groups w.nextGroup (some H))
    (hH : H.bgGroup = false) (g : Nat) : v.isBGGroup g = w.isBGGroup g := by
  unfold isBGGroup
  rw [hg]
  by_cases h : g = w.nextGroup
  · subst h
    rw [Function.update_self, hr.fresh _ (Nat.le_refl _)]
    simp [hH]
  · rw [Function.update_of_ne h]

/-- An operation that keeps the law just if the condition `H` holds. -/
def Exact (w v : GroupWorld) (H : Prop) : Prop := w.Regular → v.Regular ∧ (w.Linked → (v.Linked ↔ H))

theorem Calm.exact {H : Prop} (h : Calm w v) (hH : H) : Exact w v H := fun hr =>
  ⟨(h hr).1, fun hl => ⟨fun _ => hH, fun _ => (h hr).2 hl⟩⟩

theorem invite_new (pl player : Nat) (hpl : pl ≠ 0) (hown : w.ownGroup pl = none) (hown' : w.ownGroup player = none)
    (hfree : (w.players player).groupInvite = none) :
    Exact w
      (match (w.newGroup {}).addLeaderInvite w.nextGroup pl with
        | none => (w.newGroup {}).deleteGroup w.nextGroup
        | some w1 =>
          match w1.addInvite w.nextGroup player with
          | none => w1.deleteGroup w.nextGroup
          | some w2 => w2)
      (pl = player → (w.players pl).groupInvite ≠ none) := by
  intro hr
  have hg0 : (w.newGroup {}).groups = Function.update w.groups w.nextGroup (some {}) := rfl
  have hown0 : ∀ p, (w.newGroup {}).ownGroup p = w.ownGroup p := fun p => ownGroup_congr (isBGGroup_fresh hr hg0 rfl) rfl rfl
  have hnew : (w.newGroup {}).groups w.nextGroup = some {} := by rw [hg0, Function.update_self]
  split
  · next h1 =>
    -- he has an invite himself: the group is gone again
    have hpt : (w.players pl).groupInvite ≠ none := by
      rcases addLeaderInvite_none hnew h1 with h | h
      · exact h
      · exact absurd ((hown0 pl).trans hown) h
    have hg : ((w.newGroup {}).deleteGroup w.nextGroup).groups = Function.update w.groups w.nextGroup none := by
      show Function.update (w.newGroup {}).groups w.nextGroup none = _
      rw [hg0, Function.update_idem]
    refine ⟨hr.fresh_group hg rfl hr.nobody (fun p => Or.inl rfl) (fun _ h => by cases h),
      fun hl => ⟨fun _ _ => hpt, fun _ => hl.fresh_group hr hg fun p => Or.inl ⟨rfl, fun _ h => by cases h⟩⟩⟩
  next w1 h1 =>
  obtain ⟨G, hG, hpt, _, h3, h4, h5⟩ := addLeaderInvite_spec h1
  cases hnew.symm.trans hG
  have h3' : w1.groups = Function.update w.groups w.nextGroup
      (some { leaderGuid := pl, invitees := [pl] }) := h3.trans (Function.update_idem _ _ _)
  have hpt' : (w.players pl).groupInvite = none := hpt
  have hself : (w1.players pl).groupInvite = some w.nextGroup := by rw [h5, if_pos rfl]
  have hrefs : ∀ p, (w1.players p).group = (w.players p).group ∧
      (w1.players p).originalGroup = (w.players p).originalGroup ∧ (w1.players p).loaded = (w.players p).loaded ∧
      (w1.players p).inWorld = (w.players p).inWorld := by
    intro p
    rw [h5]
    by_cases hp : p = pl
    · rw [if_pos hp, hp]; exact ⟨rfl, rfl, rfl, rfl⟩
    · rw [if_neg hp]; exact ⟨rfl, rfl, rfl, rfl⟩
  have hother : ∀ p, p ≠ pl → (w1.players p).groupInvite = (w.players p).groupInvite := by
    intro p hp
    rw [h5, if_neg hp]
    rfl
  have hnobody : (w1.players 0).loaded = false ∧ (w1.players 0).inWorld = false := by
    rw [(hrefs 0).2.2.1, (hrefs 0).2.2.2]
    exact hr.nobody
  have hat : w1.groups w.nextGroup = some { leaderGuid := pl, invitees := [pl] } := by
    rw [h3', Function.update_self]
  split
  · next h2 =>
    -- he invited himself: his pointer is left to the group that is deleted
    have heq : pl = player := by
      rcases addInvite_none hat h2 with h | h
      · by_contra hne
        exact h ((hother player (Ne.symm hne)).trans hfree)
      · have := ownGroup_congr (p := player) (isBGGroup_fresh hr h3' rfl) (hrefs player).1 (hrefs player).2.1
        exact absurd (this.trans hown') h
    have hg : (w1.deleteGroup w.nextGroup).groups = Function.update w.groups w.nextGroup none := by
      show Function.update w1.groups w.nextGroup none = _
      rw [h3', Function.update_idem]
    refine ⟨hr.fresh_group hg h4 hnobody (fun p => ?_) (fun _ h => by cases h), fun hl => ⟨fun hv => ?_, fun hH => ?_⟩⟩
    · by_cases hp : p = pl
      · exact Or.inr (Or.inr ⟨hp ▸ hself, fun _ h => by cases h⟩)
      · exact Or.inl (hother p hp)
    · obtain ⟨G1, hG1, _⟩ := (hv pl w.nextGroup).1 hself
      rw [hg, Function.update_self] at hG1
      cases hG1
    · exact absurd hpt' (hH heq)
  next w2 h2 =>
  obtain ⟨G1, hG1, hpt2, _, h6, h7, h8⟩ := addInvite_spec h2
  cases hat.symm.trans hG1
  have hne : pl ≠ player := by
    rintro rfl
    rw [hself] at hpt2
    cases hpt2
  have hg : w2.groups = Function.update w.groups w.nextGroup
      (some { leaderGuid := pl, invitees := [player, pl] }) := by
    rw [h6, h3', Function.update_idem]
    simp [hne]
  have hself2 : (w2.players player).groupInvite = some w.nextGroup := by rw [h8, if_pos rfl]
  have hpl2 : (w2.players pl).groupInvite = some w.nextGroup := by rw [h8, if_neg hne]; exact hself
  have hother2 : ∀ p, p ≠ pl → p ≠ player → (w2.players p).groupInvite = (w.players p).groupInvite := by
    intro p hp hq
    rw [h8, if_neg hq]
    exact hother p hp
  have hnobody2 : (w2.players 0).loaded = false ∧ (w2.players 0).inWorld = false := by
    rw [h8]
    by_cases h0 : 0 = player
    · rw [if_pos h0, ← h0]; exact hnobody
    · rw [if_neg h0]; exact hnobody
  refine ⟨hr.fresh_group hg (h7.trans h4) hnobody2 (fun p => ?_) fun G' hG' => ?_,
    fun hl => ⟨fun _ heq => absurd heq hne, fun _ => hl.fresh_group hr hg fun p => ?_⟩⟩
  · by_cases hp : p = pl
    · refine Or.inr (Or.inr ⟨hp ▸ hpl2, fun G' hG' => ?_⟩)
      rw [← Option.some.inj hG', hp]
      simp
    by_cases hq : p = player
    · refine Or.inr (Or.inr ⟨hq ▸ hself2, fun G' hG' => ?_⟩)
      rw [← Option.some.inj hG', hq]
      simp
    · exact Or.inl (hother2 p hp hq)
  · cases hG'
    exact ⟨fun _ => Or.inl ⟨hpl, by simp, rfl⟩, fun hb => by cases hb⟩
  · by_cases hp : p = pl
    · exact Or.inr ⟨hp ▸ hpt', hp ▸ hpl2, _, rfl, by simp [hp]⟩
    by_cases hq : p = player
    · exact Or.inr ⟨hq ▸ hfree, hq ▸ hself2, _, rfl, by simp [hq]⟩
    · refine Or.inl ⟨hother2 p hp hq, fun G' hG' hin => ?_⟩
      rw [← Option.some.inj hG'] at hin
      simp [hp, hq] at hin

theorem Exact.congr {H H' : Prop} (h : Exact w v H) (hH : w.Regular → (H ↔ H')) : Exact w v H' := fun hr =>
  ⟨(h hr).1, fun hl => ((h hr).2 hl).trans (hH hr)⟩

theorem Regular.ne_zero (hr : w.Regular) (hp : (w.players p).inWorld = true) : p ≠ 0 := by
  rintro rfl
  rw [hr.nobody.2] at hp
  cases hp

/-- **`HandleGroupInviteOpcode`** keeps the law unless somebody who is free invites himself. -/
theorem handleGroupInvite_exact (w : GroupWorld) (pl player : Nat) (allowed : Bool)
    (hpl : (w.players pl).inWorld = true) :
    Exact w (w.handleGroupInvite pl player allowed)
      (pl = player → allowed = true → w.ownGroup pl = none → (w.players pl).groupInvite ≠ none) := by
  unfold handleGroupInvite
  split
  · next h => exact (Calm.refl w).exact fun heq => absurd (heq ▸ hpl) (by simp [h])
  split
  · next h => exact (Calm.refl w).exact fun _ ha => by rw [h] at ha; cases ha
  split
  · next h =>
    refine (Calm.refl w).exact fun heq _ hown => ?_
    rcases h with h | h
    · rw [← heq, hown] at h; cases h
    · rw [heq]; exact Option.isSome_iff_ne_none.1 h
  next hfree =>
  simp only [not_or, Bool.not_eq_true, Option.isSome_eq_false_iff, Option.isNone_iff_eq_none] at hfree
  split
  · next g hown =>
    refine Calm.exact ?_ fun heq _ hno => absurd (hno.symm.trans hown) (by simp)
    split
    · exact Calm.refl w
    next G hG =>
    split
    · exact Calm.refl w
    next hlead =>
    split
    · exact Calm.refl w
    intro hr
    refine calm_getD (fun v hv => calm_addInvite hv fun G1 hG1 hempty => ?_) (Calm.refl w) hr
    cases hG.symm.trans hG1
    -- who may invite for a group without members is the leader of one that is not created yet
    rcases (hr.sound g G hG).empty hempty with hf | hend
    · exact hf
    · exfalso
      apply hlead
      refine ⟨?_, ?_⟩
      · simpa [Group.isLeader, hend.leader] using (hr.ne_zero hpl).symm
      · simp [Group.isAssistant, Group.memberSlot, hempty]
  · next hown =>
    intro hr
    refine Exact.congr (invite_new pl player (hr.ne_zero hpl) hown hfree.1 hfree.2) (fun _ => ?_) hr
    exact ⟨fun h heq _ _ => h heq, fun h heq => h heq (by simpa using ‹¬allowed = false›) hown⟩

theorem Linked.not_cleared {guid : Nat} (hl : w.Linked) (hno : (w.players guid).groupInvite ≠ none)
    (hself : (v.players guid).groupInvite = none)
    (hkept : ∀ g G, w.groups g = some G → ∃ G', v.groups g = some G' ∧ (guid ∈ G.invitees → guid ∈ G'.invitees)) :
    ¬ v.Linked := by
  intro hv
  obtain ⟨g0, hg0⟩ := Option.ne_none_iff_exists'.1 hno
  obtain ⟨G0, hG0, hin⟩ := (hl guid g0).1 hg0
  obtain ⟨G1, hG1, hin1⟩ := hkept g0 G0 hG0
  rw [(hv guid g0).2 ⟨G1, hG1, hin1 hin⟩] at hself
  cases hself

/-- **A player who joins** loses his pointer, so that he must not have one. -/
theorem joined_exact {guid : Nat} (hG : w.groups g = some G) (hg : v.groups = Function.update w.groups g (some G'))
    (hn : v.nextGroup = w.nextGroup) (hi : G'.invitees = G.invitees) (hs : G.Sound → G'.Sound)
    (hp : ∀ q, Moved (if q = guid then { w.players q with groupInvite := none } else w.players q) (v.players q)) :
    Exact w v ((w.players guid).groupInvite = none) := by
  have hself : (v.players guid).groupInvite = none := by
    have := (hp guid).invite
    rwa [if_pos rfl] at this
  by_cases hno : (w.players guid).groupInvite = none
  · refine (calm_group hG hg hn (fun q => ?_) hi hs).exact hno
    have h1 := hp q
    by_cases hq : q = guid
    · rw [if_pos hq] at h1
      exact ⟨h1.loaded, h1.inWorld, by rw [h1.invite, hq, hno]⟩
    · rwa [if_neg hq] at h1
  · intro hr
    have heased : ∀ q, Eased (w.players q) (v.players q) := by
      intro q
      have h1 := hp q
      by_cases hq : q = guid
      · rw [if_pos hq] at h1
        exact ⟨h1.loaded, h1.inWorld, Or.inr h1.invite⟩
      · rw [if_neg hq] at h1
        exact h1.eased
    refine ⟨hr.update (hr.lt hG) hg hn heased fun G1 h1 => ?_, fun hl => ⟨fun hv => ?_, fun h => absurd h hno⟩⟩
    · cases h1
      refine ⟨hs (hr.sound g G hG), fun q hq => ?_⟩
      rcases (heased q).invite with he | he
      · rw [hi]; exact (hr.pointer q g (he ▸ hq)).2 G hG
      · rw [he] at hq; cases hq
    · refine absurd hv (hl.not_cleared hno hself fun g0 G0 hG0 => ?_)
      rw [hg]
      by_cases he : g0 = g
      · subst he
        cases hG.symm.trans hG0
        exact ⟨G', Function.update_self _ _ _, fun hin => hi ▸ hin⟩
      · rw [Function.update_of_ne he]
        exact ⟨G0, hG0, id⟩

theorem setBattleGroundRaid_calm (w : GroupWorld) (p g sub : Nat) :
    Calm w (w.modifyPlayer p fun P => P.setBattleGroundRaid g sub) := by
  refine calm_players rfl rfl fun q => ?_
  rw [modifyPlayer_players]
  split
  · next h => rw [h]; exact setBattleGroundRaid_moved _ _ _
  · exact Moved.refl _

/-- **The raid of a battleground** takes in a player on both sides just if he is not invited. -/
theorem enterBattleGround_exact (w : GroupWorld) (pl : Nat) (raid : Option Nat) (hpl : (w.players pl).inWorld = true) :
    Exact w (w.enterBattleGround pl raid)
      ((∀ g, raid = some g → ∃ G, w.groups g = some G ∧ G.bgGroup = true ∧ G.isMember pl = false ∧
        G.isFull = false ∧ G.freeSubGroup ≠ none) → (w.players pl).groupInvite = none) := by
  unfold enterBattleGround
  intro hr
  have h0 := hr.ne_zero hpl
  split
  · -- a new raid
    have hat : (w.newGroup { bgGroup := true }).groups w.nextGroup = some { bgGroup := true } := by
      simp [newGroup]
    obtain ⟨_, _, h1, h2, h3⟩ := create_spec (p := pl) hat rfl (fun hb => by cases hb) h0
    have hg : ((w.newGroup { bgGroup := true }).create w.nextGroup pl).groups = Function.update w.groups w.nextGroup
        (some ((({ bgGroup := true } : Group).setUp pl).pushMember { guid := pl, group := 0 })) := by
      rw [h1]
      exact Function.update_idem _ _ _
    have hself : (((w.newGroup { bgGroup := true }).create w.nextGroup pl).players pl).groupInvite = none := by
      rw [(h3 pl).invite, if_pos ⟨rfl, hpl⟩]
    have hother : ∀ q, q ≠ pl →
        (((w.newGroup { bgGroup := true }).create w.nextGroup pl).players q).groupInvite =
          (w.players q).groupInvite := by
      intro q hq
      rw [(h3 q).invite, if_neg fun h => hq h.1]
      rfl
    have hnobody := h3 0
    rw [if_neg fun h => h0 h.1.symm] at hnobody
    refine ⟨hr.fresh_group hg h2 ⟨hnobody.loaded.trans hr.nobody.1, hnobody.inWorld.trans hr.nobody.2⟩ (fun q => ?_)
      fun G' hG' => ?_, fun hl => ⟨fun hv _ => ?_, fun hno => hl.fresh_group hr hg fun q => Or.inl ⟨?_, ?_⟩⟩⟩
    · by_cases hq : q = pl
      · exact Or.inr (Or.inl (hq ▸ hself))
      · exact Or.inl (hother q hq)
    · rw [← Option.some.inj hG']
      exact created_sound _ _
    · by_contra hno
      refine hl.not_cleared hno hself (fun g G hG => ⟨G, ?_, id⟩) hv
      rw [hg, Function.update_of_ne (Nat.ne_of_lt (hr.lt hG))]
      exact hG
    · by_cases hq : q = pl
      · rw [hq, hself, hno fun g hg => by cases hg]
      · exact hother q hq
    · intro G' hG' hin
      rw [← Option.some.inj hG', pushMember_invitees, (setUp_fields _ _).2.1] at hin
      cases hin
  · next g =>
    split
    · next hG =>
      refine (Calm.refl w).exact (fun h => ?_) hr
      obtain ⟨G, hG', _⟩ := h g rfl
      rw [hG] at hG'
      cases hG'
    next G hG =>
    have honly : ∀ {P : Group → Prop}, (∀ g', some g = some g' → ∃ G, w.groups g' = some G ∧ P G) → P G := by
      intro P h
      obtain ⟨G1, hG1, hP⟩ := h g rfl
      rwa [Option.some.inj (hG.symm.trans hG1)]
    split
    · next hb => exact (Calm.refl w).exact (fun h => absurd (honly h).1 (by simp [hb])) hr
    next hb =>
    split
    · next hm => exact (setBattleGroundRaid_calm w pl g _).exact (fun h => absurd (honly h).2.1 (by simp [hm])) hr
    next hm =>
    cases hadd : w.addMember g pl with
    | none =>
      refine (Calm.refl w).exact (fun h => ?_) hr
      obtain ⟨_, _, hfull, hfree⟩ := honly h
      obtain ⟨sub, hsub⟩ := Option.ne_none_iff_exists'.1 hfree
      obtain ⟨v, hv⟩ := addMember_some hG hfull h0 hsub
      rw [hadd] at hv
      cases hv
    | some v =>
      obtain ⟨G1, sub, hG1, hfull, _, hsub, hg, hn, hp⟩ := addMember_spec hadd
      cases hG.symm.trans hG1
      refine Exact.congr (@joined_exact _ _ _ _ _ pl hG hg hn rfl (fun hs => ⟨fun he => by simp at he, hs.bgRaid⟩)
        fun q => ?_) (fun _ => ⟨fun h _ => h, fun h => h fun g' hg' => ?_⟩) hr
      · have h1 := hp q
        by_cases hq : q = pl
        · rw [if_pos ⟨hq, hpl⟩] at h1
          rwa [if_pos hq]
        · rw [if_neg fun h => hq h.1] at h1
          rwa [if_neg hq]
      · cases hg'
        exact ⟨G, hG, by simpa using hb, by simpa using hm, hfull, by rw [hsub]; simp⟩

/-! ### All others -/

theorem not_inBattleGround {pl : Nat} {elsewhere : Bool} (hg : (w.players pl).group = some g)
    (h : ¬ w.inBattleGround pl elsewhere = true) : w.isBGGroup g = false := by
  unfold inBattleGround at h
  rw [hg] at h
  simp only [Option.map_some, Option.getD_some, Bool.or_eq_true, not_or] at h
  simpa using h.2

theorem calm_handleGroupUninvite (w : GroupWorld) (pl guid : Nat) (elsewhere : Bool) :
    Calm w (w.handleGroupUninvite pl guid elsewhere) := by
  unfold handleGroupUninvite
  split
  · exact Calm.refl w
  split
  · exact Calm.refl w
  next g hg =>
  split
  · exact Calm.refl w
  next G hG =>
  split
  · exact Calm.refl w
  split
  · exact Calm.refl w
  next hbg =>
  split
  · exact calm_removeFromGroup w g guid (not_inBattleGround hg hbg)
  split
  · exact calm_uninviteFromGroup w guid
  · exact Calm.refl w

theorem calm_handleGroupSetLeader (w : GroupWorld) (pl guid : Nat) : Calm w (w.handleGroupSetLeader pl guid) := by
  unfold handleGroupSetLeader
  split
  · exact Calm.refl w
  split
  · exact Calm.refl w
  next g _ _ G hG =>
  split
  · exact Calm.refl w
  split
  · next hm =>
    refine calm_group hG rfl rfl (fun _ => Moved.refl _) rfl (sound_of_members (fun he => ?_) rfl rfl)
    have hnil : G.memberSlots = [] := he
    simp [Group.isMember, Group.memberSlot, hnil] at hm
  · exact Calm.refl w

theorem calm_handleGroupLeave (w : GroupWorld) (pl : Nat) (elsewhere : Bool) :
    Calm w (w.handleGroupLeave pl elsewhere) := by
  unfold handleGroupLeave
  split
  · exact Calm.refl w
  next g hg =>
  split
  · exact Calm.refl w
  · next hbg => exact calm_removeFromGroup w g pl (not_inBattleGround hg hbg)

theorem calm_handleRaidConvert (w : GroupWorld) (pl : Nat) (elsewhere : Bool) :
    Calm w (w.handleRaidConvert pl elsewhere) := by
  unfold handleRaidConvert
  split
  · exact Calm.refl w
  split
  · exact Calm.refl w
  next g _ _ G hG =>
  split
  · exact Calm.refl w
  split
  · exact Calm.refl w
  · next hlen =>
    refine calm_group hG rfl rfl (fun _ => Moved.refl _) rfl fun hs => ⟨fun he => ?_, fun _ => rfl⟩
    have hnil : G.memberSlots = [] := he
    exact absurd (Or.inr (by rw [hnil]; decide)) hlen

theorem changePlayersGroup_calm (hG : w.groups g = some G) (p group : Nat) :
    Calm w (w.changePlayersGroup g G p group) := by
  unfold changePlayersGroup
  split
  · exact Calm.refl w
  split
  · exact Calm.refl w
  next G1 h1 =>
  unfold Group.setMembersGroup at h1
  split at h1
  · cases h1
  next i hi =>
  cases h1
  refine calm_group hG rfl rfl (fun q => ?_) rfl (sound_of_members (Counting.modify_ne_nil hi _) rfl rfl)
  rw [modifyPlayer_players]
  split
  · next h => rw [h]; exact ⟨rfl, rfl, rfl⟩
  · exact Moved.refl _

theorem changeMembersGroup_calm (hG : w.groups g = some G) (guid group : Nat) :
    Calm w (w.changeMembersGroup g G guid group) := by
  unfold changeMembersGroup
  split
  · exact Calm.refl w
  split
  · exact Calm.refl w
  simp only
  generalize (if (w.players guid).group = some g then (w.players guid).subGroup
    else (w.players guid).originalSubGroup) = prev
  have hparts : ∀ G1, G1 = ((G.subGroupCounterDecrease prev).setMembersGroup guid group).getD
      (G.subGroupCounterDecrease prev) → G1.invitees = G.invitees ∧ (G.Sound → G1.Sound) := by
    rintro G1 rfl
    have hlower : G.Sound → (G.subGroupCounterDecrease prev).Sound := by
      intro hs
      refine ⟨fun he => (hs.empty he).imp (fun hf => ⟨hf.known, hf.invited, ?_⟩) fun hd => ⟨hd.leader, hd.invitees⟩,
        hs.bgRaid⟩
      show G.subGroupsCounts.map _ = none
      rw [hf.party]
      rfl
    unfold Group.setMembersGroup
    split
    · exact ⟨rfl, hlower⟩
    · next i hi => exact ⟨rfl, sound_of_members (Counting.modify_ne_nil hi _) rfl rfl⟩
  refine calm_group hG rfl rfl (fun q => ?_) (hparts _ rfl).1 (hparts _ rfl).2
  rw [setGroupAt_players, modifyPlayer_players]
  split
  · next h =>
    rw [h]
    split <;> exact ⟨rfl, rfl, rfl⟩
  · exact Moved.refl _

theorem calm_handleGroupChangeSubGroup (w : GroupWorld) (pl guid : Nat) (exact : Bool) (groupNr : Nat)
    (heap : Nat → Nat) : Calm w (w.handleGroupChangeSubGroup pl guid exact groupNr heap) := by
  unfold handleGroupChangeSubGroup
  split
  · exact Calm.refl w
  split
  · exact Calm.refl w
  next hG =>
  split
  · exact Calm.refl w
  split
  · exact Calm.refl w
  split
  · exact changePlayersGroup_calm hG guid groupNr
  · exact changeMembersGroup_calm hG guid groupNr

theorem calm_handleGroupAssistant (w : GroupWorld) (pl guid : Nat) (flag : Bool) :
    Calm w (w.handleGroupAssistant pl guid flag) := by
  unfold handleGroupAssistant
  split
  · exact Calm.refl w
  split
  · exact Calm.refl w
  next G hG =>
  split
  · exact Calm.refl w
  · unfold Group.setAssistant
    split
    · exact calm_group hG rfl rfl (fun _ => Moved.refl _) rfl id
    · next i hi =>
      exact calm_group hG rfl rfl (fun _ => Moved.refl _) rfl (sound_of_members (Counting.modify_ne_nil hi _) rfl rfl)

theorem calm_session (f : Player → Player) (h0 : p ≠ 0) (hf : ∀ P, (f P).groupInvite = P.groupInvite) :
    Calm w (w.modifyPlayer p f) := by
  have hinv : ∀ q, ((w.modifyPlayer p f).players q).groupInvite = (w.players q).groupInvite := by
    intro q
    rw [modifyPlayer_players]
    split
    · next h => rw [h, hf]
    · rfl
  intro hr
  refine ⟨⟨hr.fresh, ?_, fun q g hi => hr.pointer q g (hinv q ▸ hi), hr.sound⟩, fun hl => hl.players_only rfl hinv⟩
  rw [modifyPlayer_players, if_neg (Ne.symm h0)]
  exact hr.nobody

theorem calm_login (w : GroupWorld) (pl : Nat) (g : Option Nat) : Calm w (w.login pl g) := by
  unfold login
  split
  · exact Calm.refl w
  next h =>
  refine calm_session _ (fun h0 => h (Or.inr h0)) fun P => ?_
  split
  · exact (setGroup_moved _ _ _).invite
  · rfl

theorem calm_teleport (w : GroupWorld) (pl : Nat) (inWorld : Bool) : Calm w (w.teleport pl inWorld) := by
  intro hr
  unfold teleport
  split
  · next h =>
    refine calm_session _ (fun h0 => ?_) (fun P => rfl) hr
    rw [h0, hr.nobody.1] at h
    cases h
  · exact Calm.refl w hr

/-- Only the references change when a member is removed, and invites are taken back. -/
theorem removeFromGroup_eased (w : GroupWorld) (g guid q : Nat) :
    Eased (w.players q) ((w.removeFromGroup g guid).players q) := by
  unfold removeFromGroup
  split
  · exact Eased.refl _
  next G hG =>
  have h : Eased (w.players q) ((w.removeMember g G guid).players q) := by
    rcases removeMember_cases w g G guid with ⟨h, _⟩ | ⟨h, _⟩
    · rw [h]
      have h1 := (disband_spec w g G).2.2 q
      split at h1
      · exact ⟨h1.loaded, h1.inWorld, Or.inr h1.invite⟩
      · exact h1.eased
    · rw [h]
      unfold removeMemberSlot
      rw [setGroupAt_players]
      by_cases hq : q = guid ∧ (w.players guid).inWorld = true
      · obtain ⟨rfl, hin⟩ := hq
        rw [ifInWorld_self _ _ hin]
        exact (part_moved _ _ _).eased
      · rw [ifInWorld_other _ _ hq]
        exact Eased.refl _
  simp only
  split
  · exact h.trans (forget_moved _ g).eased
  · exact h

theorem uninviteFromGroup_clears (hl : w.Linked) (p : Nat) :
    ((w.uninviteFromGroup p).players p).groupInvite = none := by
  unfold uninviteFromGroup
  split
  · next h => exact h
  next g hi =>
  obtain ⟨G, hG, _⟩ := (hl p g).1 hi
  have hself : ((w.removeInvite g G p).players p).groupInvite = none := by rw [removeInvite_players, if_pos rfl]
  simp only [hG]
  split
  · split
    · have h1 := (disband_spec (w.removeInvite g G p) g
        { G with invitees := G.invitees.filter fun q => q != p }).2.2 p
      rw [if_neg (by simp)] at h1
      exact ((h1.trans (forget_moved _ g)).invite).trans hself
    · have h1 := (removeAllInvites_spec (w.removeInvite g G p) g
        { G with invitees := G.invitees.filter fun q => q != p }).2.2 p
      rw [if_neg (by simp)] at h1
      refine Eq.trans ?_ hself
      rw [← h1]
      exact (forget_moved _ g).invite
  · exact hself

theorem calm_logout (w : GroupWorld) (pl : Nat) (socket : Bool) : Calm w (w.logout pl socket) := by
  have hc := calm_uninviteFromGroup w pl
  have hclear : w.Linked → _ := fun hl => uninviteFromGroup_clears hl pl
  have hforget : ∀ w2 : GroupWorld, Calm w w2 ∧ (w.Linked → (w2.players pl).groupInvite = none) →
      Calm w (w2.modifyPlayer pl fun _ => {}) := by
    rintro w2 ⟨hc2, hclear2⟩ hr
    obtain ⟨hr2, hl2⟩ := hc2 hr
    refine ⟨⟨hr2.fresh, ?_, fun q g hi => ?_, hr2.sound⟩, fun hl => (hl2 hl).players_only rfl fun q => ?_⟩
    · rw [modifyPlayer_players]
      split
      · exact ⟨rfl, rfl⟩
      · exact hr2.nobody
    · rw [modifyPlayer_players] at hi
      split at hi
      · cases hi
      · exact hr2.pointer q g hi
    · rw [modifyPlayer_players]
      split
      · next h => rw [h, hclear2 hl]
      · rfl
  unfold logout
  refine hforget _ ?_
  split
  · exact ⟨hc, hclear⟩
  split
  · exact ⟨hc, hclear⟩
  next g _ _ G hG =>
  split
  · next h =>
    refine ⟨fun hr => (hc.trans (calm_removeFromGroup _ g pl ?_)) hr, fun hl => ?_⟩
    · -- the raid of a battleground is a raid
      have := ((hc hr).1.sound g G hG).bgRaid
      rw [h.1] at this
      unfold isBGGroup
      rw [hG]
      simpa using this
    · rcases (removeFromGroup_eased (w.uninviteFromGroup pl) g pl pl).invite with h | h
      · exact h.trans (hclear hl)
      · exact h
  · exact ⟨hc, hclear⟩

theorem calm_deleteCharacter (w : GroupWorld) (guid g : Nat) : Calm w (w.deleteCharacter guid g) := by
  unfold deleteCharacter
  split
  · exact Calm.refl w
  · next h =>
    rw [not_or] at h
    exact calm_removeFromGroup w g guid (by simpa using h.2)

theorem pushMembers_fields (rows : List MemberSlot) (G : Group) :
    (rows.foldl Group.pushMember G).memberSlots = G.memberSlots ++ rows ∧
      (rows.foldl Group.pushMember G).invitees = G.invitees ∧
      (rows.foldl Group.pushMember G).bgGroup = G.bgGroup ∧ (rows.foldl Group.pushMember G).raid = G.raid := by
  induction rows generalizing G with
  | nil => simp
  | cons s rows ih =>
    obtain ⟨h1, h2, h3, h4⟩ := ih (G.pushMember s)
    rw [List.foldl_cons]
    refine ⟨?_, h2, h3, h4⟩
    rw [h1, pushMember_memberSlots, List.append_assoc, List.singleton_append]

theorem calm_load (w : GroupWorld) (leader : Nat) (raid : Bool) (rows : List MemberSlot) :
    Calm w (w.load leader raid rows) := by
  intro hr
  have hloaded : ∀ G0 : Group, G0.invitees = [] → G0.bgGroup = false → G0.memberSlots = [] →
      ∀ G, G = rows.foldl Group.pushMember G0 →
        G.invitees = [] ∧ G.bgGroup = false ∧ G.memberSlots = rows := by
    rintro G0 h1 h2 h3 G rfl
    obtain ⟨k1, k2, k3, _⟩ := pushMembers_fields rows G0
    exact ⟨k2.trans h1, k3.trans h2, by rw [k1, h3, List.nil_append]⟩
  unfold load
  simp only
  generalize hG : rows.foldl Group.pushMember (if raid = true then
    ({ leaderGuid := leader, raid := raid } : Group).initRaidSubGroupsCounter
    else { leaderGuid := leader, raid := raid }) = G
  obtain ⟨hi, hb, hm⟩ := hloaded _ (by split <;> rfl) (by split <;> rfl) (by split <;> rfl) G hG.symm
  split
  · obtain ⟨h1, h2, h3⟩ := disband_spec ({ w with nextGroup := w.nextGroup + 1 } : GroupWorld) w.nextGroup G
    have hg : (GroupWorld.deleteGroup (GroupWorld.disband { w with nextGroup := w.nextGroup + 1 } w.nextGroup G)
        w.nextGroup).groups = Function.update w.groups w.nextGroup none := by
      show Function.update (GroupWorld.disband _ w.nextGroup G).groups w.nextGroup none = _
      rw [h1]
      exact Function.update_idem _ _ _
    have hp : ∀ q, Moved (w.players q) ((GroupWorld.deleteGroup
        (GroupWorld.disband { w with nextGroup := w.nextGroup + 1 } w.nextGroup G) w.nextGroup).players q) := by
      intro q
      have := h3 q
      rw [hi, if_neg (by simp)] at this
      exact this.trans (forget_moved _ _)
    refine ⟨hr.fresh_group hg h2 ?_ (fun q => Or.inl (hp q).invite) (fun _ h => by cases h), fun hl =>
      hl.fresh_group hr hg fun q => Or.inl ⟨(hp q).invite, fun _ h => by cases h⟩⟩
    rw [(hp 0).loaded, (hp 0).inWorld]
    exact hr.nobody
  · next hlen =>
    refine ⟨hr.fresh_group (o := some G) rfl rfl hr.nobody (fun q => Or.inl rfl) fun G' hG' => ?_, fun hl =>
      hl.fresh_group (o := some G) hr rfl fun q => Or.inl ⟨rfl, fun G' hG' => ?_⟩⟩
    · cases hG'
      refine ⟨fun he => absurd ?_ hlen, fun h => by rw [hb] at h; cases h⟩
      rw [he]
      decide
    · rw [← Option.some.inj hG', hi]
      simp

end

/-! ## Every request -/

/-- **Every request** keeps what is always so, and keeps the law just if it is heedful. -/
theorem step_exact (w : GroupWorld) (r : GroupRequest) : Exact w (w.step r) (w.InviteHeedful r) := by
  have handled : ∀ {pl : Nat} {v : GroupWorld}, Calm w v → Calm w (w.handle pl v) := by
    intro pl v h
    unfold handle
    split
    · exact h
    · exact Calm.refl w
  cases r with
  | invite pl player allowed =>
    show Exact w (w.handle pl _) _
    unfold handle InviteHeedful
    split
    · next hpl =>
      exact (handleGroupInvite_exact w pl player allowed hpl).congr fun _ =>
        ⟨fun h heq _ => h heq, fun h heq => h heq hpl⟩
    · next hpl => exact (Calm.refl w).exact fun _ h => absurd h hpl
  | enterBattleGround pl raid =>
    show Exact w (w.handle pl _) _
    unfold handle InviteHeedful
    split
    · next hpl => exact (enterBattleGround_exact w pl raid hpl).congr fun _ => ⟨fun h _ => h, fun h => h hpl⟩
    · next hpl => exact (Calm.refl w).exact fun h => absurd h hpl
  | accept pl => exact (handled (calm_handleGroupAccept w pl)).exact trivial
  | decline pl => exact (handled (calm_uninviteFromGroup w pl)).exact trivial
  | uninvite pl guid elsewhere => exact (handled (calm_handleGroupUninvite w pl guid elsewhere)).exact trivial
  | setLeader pl guid => exact (handled (calm_handleGroupSetLeader w pl guid)).exact trivial
  | leave pl elsewhere => exact (handled (calm_handleGroupLeave w pl elsewhere)).exact trivial
  | convertToRaid pl elsewhere => exact (handled (calm_handleRaidConvert w pl elsewhere)).exact trivial
  | changeSubGroup pl guid spelled groupNr heap =>
    exact (handled (calm_handleGroupChangeSubGroup w pl guid spelled groupNr heap)).exact trivial
  | assistant pl guid flag => exact (handled (calm_handleGroupAssistant w pl guid flag)).exact trivial
  | leaveBattleGround guid g => exact (calm_leaveBattleGround w guid g).exact trivial
  | login pl g => exact (calm_login w pl g).exact trivial
  | teleport pl inWorld => exact (calm_teleport w pl inWorld).exact trivial
  | logout pl socket => exact (calm_logout w pl socket).exact trivial
  | deleteCharacter guid g => exact (calm_deleteCharacter w guid g).exact trivial
  | load leader raid rows => exact (calm_load w leader raid rows).exact trivial
  | disbandCommand g =>
    refine Calm.exact ?_ trivial
    show Calm w (w.disbandCommand g)
    unfold disbandCommand
    split
    · exact Calm.refl w
    · next hG => exact calm_disband hG
  | removeCommand g guid =>
    refine Calm.exact ?_ trivial
    show Calm w (w.removeCommand g guid)
    unfold removeCommand
    split
    · exact Calm.refl w
    · next hG => exact calm_removeMember hG guid

theorem regular_empty : ({} : GroupWorld).Regular :=
  ⟨fun _ _ => rfl, ⟨rfl, rfl⟩, fun _ _ h => (by cases h), fun _ _ h => (by cases h)⟩

theorem linked_empty : ({} : GroupWorld).Linked :=
  fun _ _ => ⟨fun h => (by cases h), fun ⟨_, h, _⟩ => (by cases h)⟩

/-- **The two sides of all invites** agree after every request of a run just if no request of it is
the self-invite of a player who is free, or the entry of a battleground's raid by one who is
invited. -/
theorem invites_linked (rs : List GroupRequest) :
    Transition.Along GroupWorld.step (fun w r => (w.step r).Linked) {} rs ↔
      Transition.Along GroupWorld.step GroupWorld.InviteHeedful {} rs :=
  Transition.along_iff (J := Regular) (I := Linked) (fun w r hr => (step_exact w r hr).1) (fun _ _ _ h => h)
    (fun w r hr hl => (step_exact w r hr).2 hl) regular_empty linked_empty

/-- **A dangling pointer**: a player in the world invites himself, his new group is deleted and his
pointer to it stays. -/
theorem self_invited :
    ((Transition.run GroupWorld.step {} [.login 1 none, .invite 1 1 true]).players 1).groupInvite = some 1 ∧
      (Transition.run GroupWorld.step {} [.login 1 none, .invite 1 1 true]).groups 1 = none ∧
      ¬ (Transition.run GroupWorld.step {} [.login 1 none, .invite 1 1 true]).Linked := by
  have h1 : ((Transition.run GroupWorld.step {} [.login 1 none, .invite 1 1 true]).players 1).groupInvite = some 1 := by
    decide
  have h2 : (Transition.run GroupWorld.step {} [.login 1 none, .invite 1 1 true]).groups 1 = none := rfl
  refine ⟨h1, h2, fun hl => ?_⟩
  obtain ⟨G, hG, _⟩ := (hl 1 1).1 h1
  rw [h2] at hG
  cases hG

end GroupWorld

end BlizzLike
