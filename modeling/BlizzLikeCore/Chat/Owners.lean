import BlizzLikeCore.Chat.Channel
import BlizzLikeCore.Lib.Transition

/-!
# The members and the owner of a channel

The owner hands the channel over when he goes.  When he was the last, or when he has kicked himself,
`players[newowner]` makes an entry for somebody who is not there.

    Consistent      : the members are those who came and have not gone, and the owner is one of them
    Orderly         : the owner does not leave last, nor kick himself
    channel_orderly : a run is consistent throughout just if it is orderly throughout
-/

namespace BlizzLike

open Std

/-! ## Flags -/

namespace PlayerInfo

variable (info : PlayerInfo) {flag other : BitVec 8} (state : Bool)

theorem hasFlag_putFlag (h : flag ≠ 0) : (info.putFlag flag state).hasFlag flag = state := by
  cases state with
  | true =>
    have hor : (info.flags ||| flag) &&& flag = flag := by
      ext i
      simpa using Or.inr
    simpa [hasFlag, putFlag, hor] using h
  | false =>
    have hand : (info.flags &&& ~~~flag) &&& flag = 0 := by
      ext i
      simp
    simp [hasFlag, putFlag, hand]

theorem hasFlag_putFlag_other (h : flag &&& other = 0) :
    (info.putFlag other state).hasFlag flag = info.hasFlag flag := by
  have hbit : ∀ i (hi : i < 8), flag[i] = true → other[i] = false := by
    intro i hi hf
    have hz : (flag &&& other)[i] = false := by simp [h]
    simpa [hf] using hz
  have hsame : (if state then info.flags ||| other else info.flags &&& ~~~other) &&& flag = info.flags &&& flag := by
    ext i hi
    have := hbit i hi
    cases state <;> cases hf : flag[i] <;> simp_all
  simp only [hasFlag, putFlag, hsame]

@[simp] theorem isOwner_setOwner : (info.setOwner state).isOwner = state := hasFlag_putFlag info state (by decide)

@[simp] theorem isModerator_setModerator : (info.setModerator state).isModerator = state :=
  hasFlag_putFlag info state (by decide)

@[simp] theorem isOwner_setModerator : (info.setModerator state).isOwner = info.isOwner :=
  hasFlag_putFlag_other info state (by decide)

@[simp] theorem isModerator_setOwner : (info.setOwner state).isModerator = info.isModerator :=
  hasFlag_putFlag_other info state (by decide)

@[simp] theorem isOwner_setMuted : (info.setMuted state).isOwner = info.isOwner :=
  hasFlag_putFlag_other info state (by decide)

@[simp] theorem isModerator_setMuted : (info.setMuted state).isModerator = info.isModerator :=
  hasFlag_putFlag_other info state (by decide)

end PlayerInfo

/-! ## What is kept -/

/-- The notice is about somebody who came, or went. -/
def ChannelNotice.presence : ChannelNotice → Option (Nat × Bool)
  | .userlistAdd guid _ _ _ => some (guid, true)
  | .userlistRemove guid _ _ => some (guid, false)
  | .playerKicked bad _ => some (bad, false)
  | .playerBanned bad _ => some (bad, false)
  | _ => none

namespace Channel

/-- The player came, and has not gone since. -/
def present (p : Nat) : List (Option Nat × ChannelNotice) → Bool
  | [] => false
  | (_, notice) :: sent =>
    match notice.presence with
    | some (guid, here) => if guid = p then here else present p sent
    | none => present p sent

/-- What is to be kept. -/
structure Consistent (c : Channel) : Prop where
  members : ∀ p, c.isOn p = present p c.sent
  owner : c.ownerGUID = 0 ∨ c.isOn c.ownerGUID = true
  flagged : ∀ p info, c.players[p]? = some info →
    (info.isOwner = true ↔ p = c.ownerGUID) ∧ (info.isOwner = true → info.isModerator = true)

/-- The owner does not leave last, nor kick himself. -/
def Orderly (c : Channel) (e : ChannelEvent) : Prop :=
  match e.request with
  | .leave _ => e.p = c.ownerGUID → ∃ p, p ≠ c.ownerGUID ∧ c.isOn p = true
  | .kick badname => e.p = c.ownerGUID → ∀ bad, e.world.findPlayerByName badname = some bad → bad.guid ≠ e.p
  | .ban badname => e.p = c.ownerGUID → ∀ bad, e.world.findPlayerByName badname = some bad → bad.guid ≠ e.p
  | _ => True

/-- The members without their owner. -/
structure Listed (c : Channel) : Prop where
  members : ∀ p, c.isOn p = present p c.sent
  named : ∀ p info, c.players[p]? = some info → info.player = p ∧ 0 < p
  marked : ∀ p info, c.players[p]? = some info → info.isOwner = true → p = c.ownerGUID

/-- The invariant. -/
structure Sound (c : Channel) : Prop extends Listed c where
  owner : c.ownerGUID = 0 ∨ c.isOn c.ownerGUID = true
  leads : ∀ info, c.players[c.ownerGUID]? = some info → info.isOwner = true ∧ info.isModerator = true

variable {c : Channel}

theorem Sound.consistent (h : c.Sound) : c.Consistent := by
  refine ⟨h.members, h.owner, fun p info hp => ⟨⟨h.marked p info hp, ?_⟩, fun hown => ?_⟩⟩
  · rintro rfl
    exact (h.leads info hp).1
  · have hpo := h.marked p info hp hown
    rw [hpo] at hp
    exact (h.leads info hp).2

theorem isOn_iff (p : Nat) : c.isOn p = true ↔ ∃ info, c.players[p]? = some info := by
  rw [isOn, TreeMap.contains_iff_mem, TreeMap.mem_iff_isSome_getElem?, Option.isSome_iff_exists]

/-! ## Notices -/

theorem present_skip {notice : ChannelNotice} (hn : notice.presence = none) (p : Nat) (who : Option Nat)
    (sent : List (Option Nat × ChannelNotice)) : present p ((who, notice) :: sent) = present p sent := by
  simp [present, hn]

theorem Listed.notice (h : c.Listed) {notice : ChannelNotice} (hn : notice.presence = none) (who : Option Nat) :
    Listed { c with sent := (who, notice) :: c.sent } :=
  ⟨fun p => (h.members p).trans (present_skip hn p who c.sent).symm, h.named, h.marked⟩

theorem Sound.notice (h : c.Sound) {notice : ChannelNotice} (hn : notice.presence = none) (who : Option Nat) :
    Sound { c with sent := (who, notice) :: c.sent } :=
  ⟨h.toListed.notice hn who, h.owner, h.leads⟩

theorem Sound.toOne (h : c.Sound) {notice : ChannelNotice} (hn : notice.presence = none) (p : Nat) :
    (c.sendToOne p notice).Sound := h.notice hn (some p)

theorem Sound.toAll (h : c.Sound) {notice : ChannelNotice} (hn : notice.presence = none) :
    (c.sendToAll notice).Sound := h.notice hn none

/-! ## Entries -/

theorem change_getElem? (p q : Nat) (f : PlayerInfo → PlayerInfo) :
    (c.change p f).players[q]? = if p = q then some (f (c.info p)) else c.players[q]? := by
  simp only [change, TreeMap.getElem?_insert, LawfulEqCmp.compare_eq_iff_eq]

theorem change_isOn {p : Nat} (hp : c.isOn p = true) (q : Nat) (f : PlayerInfo → PlayerInfo) :
    (c.change p f).isOn q = c.isOn q := by
  rw [Bool.eq_iff_iff, isOn_iff, isOn_iff, change_getElem?]
  split
  · next he =>
    subst he
    simpa using (isOn_iff p).1 hp
  · exact Iff.rfl

theorem info_eq {p : Nat} {info : PlayerInfo} (hp : c.players[p]? = some info) : c.info p = info := by
  simp [Channel.info, hp]

theorem Listed.change (h : c.Listed) {p : Nat} (hp : c.isOn p = true) {f : PlayerInfo → PlayerInfo}
    (hplayer : ∀ info, (f info).player = info.player)
    (hown : ∀ info, (f info).isOwner = true → info.isOwner = true) : (c.change p f).Listed := by
  obtain ⟨info, hinfo⟩ := (isOn_iff p).1 hp
  refine ⟨fun q => (change_isOn hp q f).trans (h.members q), fun q info' hq => ?_, fun q info' hq ho => ?_⟩
  · rw [change_getElem?] at hq
    split at hq
    · next he =>
      subst he
      cases hq
      rw [hplayer, info_eq hinfo]
      exact h.named p info hinfo
    · exact h.named q info' hq
  · rw [change_getElem?] at hq
    split at hq
    · next he =>
      subst he
      cases hq
      rw [info_eq hinfo] at ho
      exact h.marked p info hinfo (hown info ho)
    · exact h.marked q info' hq ho

theorem Sound.change (h : c.Sound) {p : Nat} (hp : c.isOn p = true) {f : PlayerInfo → PlayerInfo}
    (hplayer : ∀ info, (f info).player = info.player) (hown : ∀ info, (f info).isOwner = info.isOwner)
    (hmod : p = c.ownerGUID → ∀ info, info.isModerator = true → (f info).isModerator = true) :
    (c.change p f).Sound := by
  refine ⟨h.toListed.change hp hplayer fun info ho => (hown info) ▸ ho, ?_, fun info hinfo => ?_⟩
  · exact h.owner.imp_right fun ho => (change_isOn hp _ f).trans ho
  · have hset : (c.change p f).players[c.ownerGUID]? = some info := hinfo
    rw [change_getElem?] at hset
    split at hset
    · next he =>
      cases hset
      obtain ⟨old, hold⟩ := (isOn_iff p).1 hp
      rw [info_eq hold]
      obtain ⟨h1, h2⟩ := h.leads old (he ▸ hold)
      exact ⟨(hown old).trans h1, hmod he old h2⟩
    · exact h.leads info hset

/-! ## The owner -/

/-- Nobody has the flag of an owner. -/
def Ownerless (c : Channel) : Prop :=
  ∀ (p : Nat) (info : PlayerInfo), c.players[p]? = some info → info.isOwner = false

theorem unsetOwner_isOn (p : Nat) : c.unsetOwner.isOn p = c.isOn p := by
  unfold unsetOwner
  split
  · next h => exact change_isOn h.2 p _
  · rfl

theorem unsetOwner_sent : c.unsetOwner.sent = c.sent := by
  unfold unsetOwner
  split <;> rfl

theorem Listed.unsetOwner (h : c.Listed) : c.unsetOwner.Listed ∧ c.unsetOwner.Ownerless := by
  unfold Channel.unsetOwner
  split
  · next hcond =>
    have hlist : (c.change c.ownerGUID fun info => info.setOwner false).Listed :=
      h.change hcond.2 (fun _ => rfl) fun info ho => by simp at ho
    refine ⟨hlist, fun p info hp => ?_⟩
    by_contra ho
    have hpo : p = c.ownerGUID := hlist.marked p info hp (by simpa using ho)
    subst hpo
    rw [change_getElem?, if_pos rfl] at hp
    cases hp
    simp at ho
  · next hcond =>
    refine ⟨h, fun p info hp => ?_⟩
    by_contra ho
    have hpo := h.marked p info hp (by simpa using ho)
    refine hcond ⟨?_, ?_⟩
    · have := (h.named p info hp).2
      omega
    · exact hpo ▸ (isOn_iff p).2 ⟨info, hp⟩

/-- **The new owner** is one of the members. -/
theorem setOwner_sound (h : c.Listed) {guid : Nat} (hg : c.isOn guid = true) (exclaim : Bool) :
    (c.setOwner guid exclaim).Sound := by
  obtain ⟨hlist, hnone⟩ := h.unsetOwner
  obtain ⟨info, hinfo⟩ := (isOn_iff guid).1 hg
  have hpos := (h.named guid info hinfo).2
  have hon : { c.unsetOwner with ownerGUID := guid }.isOn guid = true := (unsetOwner_isOn guid).trans hg
  have hnew : Listed { c.unsetOwner with ownerGUID := guid } := by
    refine ⟨hlist.members, hlist.named, fun p info' hp ho => ?_⟩
    rw [hnone p info' hp] at ho
    cases ho
  -- the flags are set
  have hmod := hnew.change hon (f := fun info => info.setModerator true) (fun _ => rfl)
    fun info ho => by simpa using ho
  have hon' : ({ c.unsetOwner with ownerGUID := guid }.change guid fun info => info.setModerator true).isOn guid =
      true := (change_isOn hon guid _).trans hon
  have hset : Sound (({ c.unsetOwner with ownerGUID := guid }.change guid
      fun info => info.setModerator true).change guid fun info => info.setOwner true) := by
    refine ⟨⟨fun p => (change_isOn hon' p _).trans (hmod.members p), fun p info' hp => ?_, fun p info' hp ho => ?_⟩,
      .inr ((change_isOn hon' guid _).trans hon'), fun info' hp => ?_⟩
    · rw [change_getElem?] at hp
      split at hp
      · next he =>
        subst he
        cases hp
        obtain ⟨old, hold⟩ := (isOn_iff guid).1 hon'
        rw [info_eq hold]
        exact hmod.named guid old hold
      · exact hmod.named p info' hp
    · rw [change_getElem?] at hp
      split at hp
      · next he => exact he.symm
      · exact hmod.marked p info' hp ho
    · have hp : (({ c.unsetOwner with ownerGUID := guid }.change guid
          fun info => info.setModerator true).change guid fun info => info.setOwner true).players[guid]? =
          some info' := hp
      rw [change_getElem?, if_pos rfl] at hp
      cases hp
      simp [Channel.info, change_getElem?]
  unfold setOwner
  rw [if_pos (by omega)]
  dsimp only
  split
  · exact (hset.toAll rfl).toAll rfl
  · exact hset.toAll rfl

theorem handOver_sound (h : c.Listed) {guid : Nat} (hg : c.isOn guid = true) : (c.handOver guid).Sound := by
  have hmod := h.change hg (f := fun info => info.setModerator true) (fun _ => rfl) fun info ho => by simpa using ho
  exact setOwner_sound hmod ((change_isOn hg guid _).trans hg) true

theorem setOwner_isOn {guid : Nat} (hg : c.isOn guid = true) (exclaim : Bool) :
    (c.setOwner guid exclaim).isOn guid = true := by
  unfold setOwner
  dsimp only
  have hkeep : { c.unsetOwner with ownerGUID := guid }.isOn guid = true := (unsetOwner_isOn guid).trans hg
  have htwice := (change_isOn ((change_isOn hkeep guid fun info => info.setModerator true).trans hkeep) guid
    fun info => info.setOwner true).trans ((change_isOn hkeep guid fun info => info.setModerator true).trans hkeep)
  split
  · split <;> exact htwice
  · exact hkeep

theorem handOver_isOn (guid : Nat) : (c.handOver guid).isOn guid = true :=
  setOwner_isOn ((isOn_iff guid).2 ⟨_, by rw [change_getElem?, if_pos rfl]⟩) true

theorem handOver_present (guid p : Nat) : present p (c.handOver guid).sent = present p c.sent := by
  have hsent : (c.change guid fun info => info.setModerator true).unsetOwner.sent = c.sent := unsetOwner_sent
  unfold handOver setOwner
  dsimp only
  split
  · split
    · exact (present_skip rfl p none _).trans ((present_skip rfl p none _).trans (by rw [← hsent]; rfl))
    · exact (present_skip rfl p none _).trans (by rw [← hsent]; rfl)
  · exact congrArg (present p) hsent

/-! ## Coming and going -/

theorem insert_getElem? (p q : Nat) (info : PlayerInfo) :
    (c.players.insert p info)[q]? = if p = q then some info else c.players[q]? := by
  simp only [TreeMap.getElem?_insert, LawfulEqCmp.compare_eq_iff_eq]

theorem erase_getElem? (p q : Nat) :
    (c.players.erase p)[q]? = if p = q then none else c.players[q]? := by
  simp only [TreeMap.getElem?_erase, LawfulEqCmp.compare_eq_iff_eq]

theorem erase_isOn (p q : Nat) : { c with players := c.players.erase p }.isOn q = (!(p == q) && c.isOn q) := by
  rw [Bool.eq_iff_iff, isOn_iff]
  by_cases hq : p = q
  · simp [hq]
  · simp [erase_getElem?, hq, isOn_iff]

theorem Sound.come (h : c.Sound) {p : Nat} (hp : 0 < p) (hoff : c.isOn p = false) {notice : ChannelNotice}
    (hn : notice.presence = some (p, true)) (who : Option Nat) :
    Sound { c with
      players := c.players.insert p { player := p, flags := memberFlagNone }, sent := (who, notice) :: c.sent } := by
  refine ⟨⟨fun q => ?_, fun q info hq => ?_, fun q info hq ho => ?_⟩, ?_, fun info hq => ?_⟩
  · rw [Bool.eq_iff_iff, isOn_iff]
    simp only [present, hn]
    rw [insert_getElem?]
    by_cases he : p = q
    · simp [he]
    · rw [if_neg he, if_neg he, ← isOn_iff, h.members q]
  · rw [insert_getElem?] at hq
    split at hq
    · next he =>
      cases hq
      exact ⟨he, he ▸ hp⟩
    · exact h.named q info hq
  · rw [insert_getElem?] at hq
    split at hq
    · cases hq
      exact absurd ho (by simp [PlayerInfo.isOwner, PlayerInfo.hasFlag, memberFlagNone])
    · exact h.marked q info hq ho
  · refine h.owner.imp_right fun ho => ?_
    obtain ⟨info, hinfo⟩ := (isOn_iff _).1 ho
    refine (isOn_iff _).2 ⟨info, ?_⟩
    dsimp only
    rw [insert_getElem?, if_neg, hinfo]
    rintro rfl
    rw [hoff] at ho
    cases ho
  · dsimp only at hq
    rw [insert_getElem?] at hq
    split at hq
    · next he =>
      rcases h.owner with hz | ho
      · omega
      · rw [← he, hoff] at ho
        cases ho
    · exact h.leads info hq

/-- A player goes, and what is sent says so. -/
structure Goes (c c' : Channel) (p : Nat) : Prop where
  players : c'.players = c.players.erase p
  owner : c'.ownerGUID = c.ownerGUID
  sent : ∀ q, present q c'.sent = (!(p == q) && present q c.sent)

variable {c' : Channel}

theorem Goes.getElem? {p : Nat} (h : Goes c c' p) (q : Nat) :
    c'.players[q]? = if p = q then none else c.players[q]? := by
  rw [h.players, erase_getElem?]

theorem Goes.isOn {p : Nat} (h : Goes c c' p) (q : Nat) : c'.isOn q = (!(p == q) && c.isOn q) := by
  rw [← erase_isOn, Channel.isOn, Channel.isOn, h.players]

theorem Listed.go (h : c.Listed) {p : Nat} (hg : Goes c c' p) : c'.Listed := by
  refine ⟨fun q => ?_, fun q info hq => ?_, fun q info hq ho => ?_⟩
  · rw [hg.isOn, hg.sent, h.members]
  · rw [hg.getElem?] at hq
    split at hq
    · cases hq
    · exact h.named q info hq
  · rw [hg.getElem?] at hq
    rw [hg.owner]
    split at hq
    · cases hq
    · exact h.marked q info hq ho

theorem Sound.go (h : c.Sound) {p : Nat} (hg : Goes c c' p) (hp : p ≠ c.ownerGUID) : c'.Sound := by
  refine ⟨h.toListed.go hg, ?_, fun info hq => ?_⟩
  · rw [hg.owner, hg.isOn]
    exact h.owner.imp_right fun ho => by simp [hp, ho]
  · rw [hg.owner, hg.getElem?, if_neg hp] at hq
    exact h.leads info hq

theorem depart_goes (world : ChatWorld) (p : Nat) (send : Bool) : Goes c (c.depart world p send) p := by
  refine ⟨?_, ?_, fun q => ?_⟩
  · unfold depart
    dsimp only
    repeat' split
    all_goals rfl
  · unfold depart
    dsimp only
    repeat' split
    all_goals rfl
  · unfold depart
    by_cases hq : p = q
    · simp [present, sendToAll, ChannelNotice.presence, hq]
    · dsimp only
      repeat' split
      all_goals simp [present, sendToAll, sendToOne, ChannelNotice.presence, hq]

theorem remove_goes (good bad : Nat) (ban : Bool) : Goes c (c.remove good bad ban) bad := by
  refine ⟨?_, ?_, fun q => ?_⟩
  · unfold remove
    split <;> rfl
  · unfold remove
    split <;> rfl
  · unfold remove
    by_cases hq : bad = q
    · split <;> simp [present, sendToAll, ChannelNotice.presence, hq]
    · split <;> simp [present, sendToAll, ChannelNotice.presence, hq]

theorem isEmpty_iff : c.players.isEmpty = true ↔ ∀ p, c.isOn p = false := by
  exact TreeMap.isEmpty_iff_forall_contains

theorem firstPlayer_isOn (h : c.Listed) {p : Nat} (hp : c.isOn p = true) : c.isOn c.firstPlayer = true := by
  obtain ⟨info, hinfo⟩ := (isOn_iff p).1 hp
  have hmem : (p, info) ∈ c.players.toList := TreeMap.mem_toList_iff_getElem?_eq_some.2 hinfo
  unfold firstPlayer
  cases hl : c.players.toList with
  | nil =>
    rw [hl] at hmem
    cases hmem
  | cons x xs =>
    have hx : c.players[x.1]? = some x.2 :=
      TreeMap.mem_toList_iff_getElem?_eq_some.1 (by rw [hl]; exact List.mem_cons_self)
    simp only [List.head?_cons, Option.map_some, Option.getD_some]
    rw [(h.named x.1 x.2 hx).1]
    exact (isOn_iff x.1).2 ⟨x.2, hx⟩

theorem firstPlayer_none (h : ∀ p, c.isOn p = false) : c.firstPlayer = 0 := by
  unfold firstPlayer
  cases hl : c.players.toList with
  | nil => rfl
  | cons x xs =>
    have hx : c.players[x.1]? = some x.2 :=
      TreeMap.mem_toList_iff_getElem?_eq_some.1 (by rw [hl]; exact List.mem_cons_self)
    have hon := (isOn_iff x.1).2 ⟨x.2, hx⟩
    rw [h x.1] at hon
    cases hon

/-! ## Requests -/

variable {world : ChatWorld} {p : Nat}

theorem asModerator_sound (h : c.Sound) {k : Channel} (hk : k.Sound) : (c.asModerator world p k).Sound := by
  unfold asModerator
  split
  · exact h.toOne rfl p
  · split
    · exact h.toOne rfl p
    · exact hk

theorem enter_sound (h : c.Sound) (hp : 0 < p) (hoff : c.isOn p = false) :
    (c.enter world p).Sound ∧ (c.enter world p).isOn p = true := by
  have hann : (if c.announces world p = true then c.sendToAll (.joined p) else c).Sound ∧
      (if c.announces world p = true then c.sendToAll (.joined p) else c).isOn p = false := by
    split
    · exact ⟨h.toAll rfl, hoff⟩
    · exact ⟨h, hoff⟩
  refine ⟨Sound.come (hann.1.toOne rfl p) hp hann.2 rfl none, ?_⟩
  exact (isOn_iff p).2 ⟨_, by simp [enter, sendToAll, sendToOne]; rfl⟩

theorem join_sound (h : c.Sound) (hp : 0 < p) (pass : String) : (c.join world p pass).Sound := by
  unfold join
  split
  · next notice hrefuses =>
    refine h.toOne ?_ p
    unfold refuses at hrefuses
    repeat' split at hrefuses
    all_goals
      cases hrefuses
    all_goals rfl
  · exact h
  · next hrefuses =>
    have hoff : c.isOn p = false := by
      by_contra hne
      rw [refuses, if_pos (by simpa using hne)] at hrefuses
      cases hrefuses
    obtain ⟨hsound, hon⟩ : (c.enter world p).Sound ∧ _ := enter_sound h hp hoff
    dsimp only
    split
    · have hset := setOwner_sound hsound.toListed hon (decide (1 < (c.enter world p).players.size))
      exact hset.change (setOwner_isOn hon _) (fun _ => rfl) (by simp) (by simp)
    · exact hsound

theorem Sound.isOwner_iff (h : c.Sound) (hon : c.isOn p = true) : (c.info p).isOwner = true ↔ p = c.ownerGUID := by
  obtain ⟨info, hinfo⟩ := (isOn_iff p).1 hon
  rw [info_eq hinfo]
  exact (h.consistent.flagged p info hinfo).1

theorem Sound.owner_isOn (h : c.Sound) (hp : 0 < c.ownerGUID) : c.isOn c.ownerGUID = true :=
  h.owner.resolve_left (by omega)

theorem Listed.zero (h : c.Listed) : c.isOn 0 = false := by
  by_contra hne
  obtain ⟨info, hinfo⟩ := (isOn_iff 0).1 (by simpa using hne)
  exact absurd (h.named 0 info hinfo).2 (by omega)

theorem handOver_strays {guid : Nat} (hoff : present guid c.sent = false) : ¬ (c.handOver guid).Consistent := by
  intro h
  have hmem := h.members guid
  rw [handOver_isOn, handOver_present, hoff] at hmem
  cases hmem

/-- **A member leaves**: the channel is in order just if he was not the owner, or somebody else is there. -/
theorem leave_iff (h : c.Sound) (hp : 0 < p) (send : Bool) :
    ((∃ q, q ≠ c.ownerGUID ∧ c.isOn q = true) ∨ p ≠ c.ownerGUID → (c.leave world p send).Sound) ∧
      ((c.leave world p send).Consistent → p = c.ownerGUID → ∃ q, q ≠ c.ownerGUID ∧ c.isOn q = true) := by
  have hgo := depart_goes (c := c) world p send
  have hlist := h.toListed.go hgo
  cases hon : c.isOn p with
  | false =>
    have hne : p ≠ c.ownerGUID := by
      rintro rfl
      rw [h.owner_isOn hp] at hon
      cases hon
    refine ⟨fun _ => ?_, fun _ he => absurd he hne⟩
    simp only [leave, hon]
    cases send
    · exact h
    · exact h.toOne rfl p
  | true =>
    simp only [leave, hon]
    by_cases howner : p = c.ownerGUID
    · rw [show (c.info p).isOwner = true from (h.isOwner_iff hon).2 howner]
      constructor
      · rintro (⟨q, hq, hqon⟩ | hne)
        · refine handOver_sound hlist (firstPlayer_isOn hlist (p := q) ?_)
          rw [hgo.isOn, hqon, howner]
          simp [Ne.symm hq]
        · exact absurd howner hne
      · intro hcons _
        by_contra hnone
        have hempty : ∀ q, (c.depart world p send).isOn q = false := by
          intro q
          rw [hgo.isOn]
          by_cases hq : p = q
          · simp [hq]
          · by_contra hne
            refine hnone ⟨q, fun he => hq (howner.trans he.symm), ?_⟩
            simpa [hq] using hne
        refine handOver_strays ?_ hcons
        rw [firstPlayer_none hempty, ← hlist.members, hlist.zero]
    · rw [show (c.info p).isOwner = false by simpa using (h.isOwner_iff hon).not.2 howner]
      exact ⟨fun _ => h.go hgo howner, fun _ he => absurd he howner⟩

/-- **A member is removed** by one who is there: the channel is in order just if he was not the owner who
removes himself. -/
theorem kickOrBanPlayer_iff (h : c.Sound) {good bad : Nat} (hgood : c.isOn good = true) (ban : Bool) :
    (¬ (good = c.ownerGUID ∧ bad = good) → (c.kickOrBanPlayer good bad ban).Sound) ∧
      ((c.kickOrBanPlayer good bad ban).Consistent → ¬ (good = c.ownerGUID ∧ bad = good)) := by
  have hgo := remove_goes (c := c) good bad ban
  have hlist := h.toListed.go hgo
  unfold kickOrBanPlayer
  by_cases howner : c.ownerGUID = bad
  · simp only [howner, beq_self_eq_true, if_true]
    constructor
    · intro hne
      have hother : bad ≠ good := fun he => hne ⟨he.symm, he⟩
      have hon : (c.remove good bad ban).isOn good = true := by
        rw [hgo.isOn, hgood]
        simpa using hother
      have hfull : (c.remove good bad ban).players.isEmpty = false := by
        by_contra hempty
        rw [isEmpty_iff.1 (by simpa using hempty) good] at hon
        cases hon
      rw [hfull]
      exact handOver_sound hlist hon
    · rintro hcons ⟨-, hself⟩
      refine handOver_strays ?_ hcons
      rw [← hlist.members]
      split
      · exact hlist.zero
      · rw [hgo.isOn]
        simp [hself]
  · simp only [beq_eq_false_iff_ne.2 howner, Bool.false_eq_true, if_false]
    exact ⟨fun _ => h.go hgo (Ne.symm howner), fun _ hself => howner (hself.2.trans hself.1).symm⟩

theorem kickOrBan_iff (h : c.Sound) (hp : 0 < p) (badname : String) (ban : Bool) :
    ((p = c.ownerGUID → ∀ bad, world.findPlayerByName badname = some bad → bad.guid ≠ p) →
        (c.kickOrBan world p badname ban).Sound) ∧
      ((c.kickOrBan world p badname ban).Consistent →
        p = c.ownerGUID → ∀ bad, world.findPlayerByName badname = some bad → bad.guid ≠ p) := by
  constructor
  · intro hc
    unfold kickOrBan asModerator
    split
    · exact h.toOne rfl p
    · next hon =>
      split
      · exact h.toOne rfl p
      · split
        · next bad hbad =>
          split
          · exact h.toOne rfl p
          · split
            · exact h.toOne rfl p
            · refine (kickOrBanPlayer_iff h (by simpa using hon) ban).1 ?_
              rintro ⟨ho, hself⟩
              exact hc ho bad hbad hself
        · exact h.toOne rfl p
  · rintro hcons ho bad hbad hself
    have hon : c.isOn p = true := ho ▸ h.owner_isOn (ho ▸ hp)
    have hmod : (c.info p).isModerator = true := by
      obtain ⟨info, hinfo⟩ := (isOn_iff p).1 hon
      rw [info_eq hinfo]
      exact (h.leads info (ho ▸ hinfo)).2
    have hrun : c.kickOrBan world p badname ban = c.kickOrBanPlayer p bad.guid ban := by
      simp [kickOrBan, asModerator, hon, hmod, hbad, hself, ← ho]
    rw [hrun] at hcons
    exact (kickOrBanPlayer_iff h hon ban).2 hcons ⟨ho, hself⟩

theorem setModeOf_sound (h : c.Sound) (plr : Chatter) (p2n : String) (mod set : Bool) :
    (c.setModeOf world p plr p2n mod set).Sound := by
  unfold setModeOf
  split
  · exact h.toOne rfl p
  · next newp _ =>
    split
    · exact h
    · next hself =>
      split
      · exact h.toOne rfl p
      · next hon =>
        split
        · exact h.toOne rfl p
        · split
          · exact h.toOne rfl p
          · next hother =>
            have hon : c.isOn newp.guid = true := by simpa using hon
            split
            · next hmod =>
              -- a moderator who is not the owner
              have hne : newp.guid ≠ c.ownerGUID := by
                intro he
                by_cases hp : c.ownerGUID = p
                · exact hself ⟨hp.symm, he, hmod⟩
                · exact hother ⟨he.symm, hp⟩
              unfold setModerator
              split
              · have hset := h.change hon (f := fun info => info.setModerator set) (fun _ => rfl) (by simp)
                  fun he => absurd he hne
                exact hset.toAll (by simp [ChannelNotice.presence])
              · exact h
            · unfold setMute
              split
              · have hset := h.change hon (f := fun info => info.setMuted set) (fun _ => rfl) (by simp) (by simp)
                exact hset.toAll (by simp [ChannelNotice.presence])
              · exact h

theorem setMode_sound (h : c.Sound) (p2n : String) (mod set : Bool) : (c.setMode world p p2n mod set).Sound := by
  unfold setMode
  split
  · exact h
  · split
    · exact h.toOne rfl p
    · split
      · exact h.toOne rfl p
      · exact setModeOf_sound h _ p2n mod set

theorem setOwnerByName_sound (h : c.Sound) (newname : String) : (c.setOwnerByName world p newname).Sound := by
  unfold setOwnerByName
  split
  · exact h
  · split
    · exact h.toOne rfl p
    · split
      · exact h.toOne rfl p
      · split
        · exact h.toOne rfl p
        · next newp _ =>
          split
          · exact h.toOne rfl p
          · next hon =>
            split
            · exact h.toOne rfl p
            · have hon : c.isOn newp.guid = true := by simpa using hon
              have hmod := h.toListed.change hon (f := fun info => info.setModerator true) (fun _ => rfl)
                fun info ho => by simpa using ho
              exact setOwner_sound hmod ((change_isOn hon newp.guid _).trans hon) true

/-! ## Runs -/

/-- **A request** keeps the channel in order just if it is orderly. -/
theorem step_iff (h : c.Sound) (e : ChannelEvent) :
    (Orderly c e → (c.step e).Sound) ∧ ((c.step e).Consistent → Orderly c e) := by
  obtain ⟨p, hp, world, request⟩ := e
  cases request with
  | join pass => exact ⟨fun _ => join_sound h hp pass, fun _ => trivial⟩
  | leave send =>
    obtain ⟨h1, h2⟩ : ((∃ q, q ≠ c.ownerGUID ∧ c.isOn q = true) ∨ p ≠ c.ownerGUID → (c.leave world p send).Sound) ∧ _ :=
      leave_iff h hp send
    exact ⟨fun ho => h1 (or_iff_not_imp_right.2 fun hne => ho (not_not.1 hne)), h2⟩
  | kick badname => exact kickOrBan_iff h hp badname false
  | ban badname => exact kickOrBan_iff h hp badname true
  | unBan badname =>
    refine ⟨fun _ => asModerator_sound h ?_, fun _ => trivial⟩
    split
    · split
      · exact h.toOne rfl p
      · exact ⟨⟨h.members, h.named, h.marked⟩, h.owner, h.leads⟩
    · exact h.toOne rfl p
  | password pass =>
    exact ⟨fun _ => asModerator_sound h ⟨⟨h.members, h.named, h.marked⟩, h.owner, h.leads⟩, fun _ => trivial⟩
  | setModerator newname => exact ⟨fun _ => setMode_sound h newname true true, fun _ => trivial⟩
  | unsetModerator newname => exact ⟨fun _ => setMode_sound h newname true false, fun _ => trivial⟩
  | setMute newname => exact ⟨fun _ => setMode_sound h newname false true, fun _ => trivial⟩
  | unsetMute newname => exact ⟨fun _ => setMode_sound h newname false false, fun _ => trivial⟩
  | setOwner newname => exact ⟨fun _ => setOwnerByName_sound h newname, fun _ => trivial⟩
  | announce =>
    refine ⟨fun _ => asModerator_sound h ?_, fun _ => trivial⟩
    split <;> exact ⟨⟨h.members, h.named, h.marked⟩, h.owner, h.leads⟩
  | moderate =>
    refine ⟨fun _ => asModerator_sound h ?_, fun _ => trivial⟩
    split <;> exact ⟨⟨h.members, h.named, h.marked⟩, h.owner, h.leads⟩

theorem opened_sound (channelId : Nat) (entry : Option Nat) : (opened channelId entry).Sound := by
  cases entry <;>
    exact ⟨⟨fun _ => rfl, fun p info hp => by simp [opened] at hp, fun p info hp => by simp [opened] at hp⟩, .inl rfl,
      fun info hp => by simp [opened] at hp⟩

/-- **Channels in order**: of a run from a new channel, the members are in every state those who came and
have not gone, and the owner is one of them and has the flags, just if in every step the owner neither
leaves last nor kicks himself. -/
theorem channel_orderly (channelId : Nat) (entry : Option Nat) (es : List ChannelEvent) :
    (opened channelId entry).Consistent ∧
      (Transition.Along Channel.step (fun c e => (c.step e).Consistent) (opened channelId entry) es ↔
        Transition.Along Channel.step Orderly (opened channelId entry) es) := by
  have hsound := opened_sound channelId entry
  refine ⟨hsound.consistent, Transition.along_iff_of_invariant (I := Sound) (fun c e h => (step_iff h e).1)
    (fun c e h => ?_) hsound⟩
  obtain ⟨h1, h2⟩ := step_iff h e
  exact ⟨h2, fun ho => (h1 ho).consistent⟩

/-- Somebody with this guid, alone in the world. -/
def alone (guid : Nat) (h : 0 < guid) : ChatWorld where
  findPlayer := fun p => if p = guid then some { guid := guid, guid_pos := h } else none
  findPlayerByName := fun _ => some { guid := guid, guid_pos := h }

/-- A player comes, and leaves: the channel has a member 0. -/
theorem last_owner_leaves : ¬ ∀ (channelId : Nat) (entry : Option Nat) (es : List ChannelEvent),
    Transition.Along Channel.step (fun c e => (c.step e).Consistent) (opened channelId entry) es := by
  intro h
  have hrun := h 0 none [⟨1, by decide, alone 1 (by decide), .join ""⟩, ⟨1, by decide, alone 1 (by decide), .leave true⟩]
  have hzero := hrun.2.1.members 0
  revert hzero
  decide

end Channel

end BlizzLike
