import BlizzLikeCore.Guild.Roster
import BlizzLikeCore.Lib.Transition
import Mathlib.Data.Finset.Card

/-!
# Who is in which guild

The member lists, the table `guild_member` and the fields of the players online are three views of
one thing: which guild a character is in, and with which rank.  `InStep` says that the three agree
about a character, `Guild.Orderly` what a guild must be for itself: its leader is a member and the
only guild master, there is no rank its members have and it has not, its accounts are counted.

    changeRank_inStep, eraseMember_inStep, addMember_inStep : the methods keep the stores in step
    guilds_orderly : all is in order along a run

A player who declines leaves his own guild for himself alone; a leader who hands over to himself is
an officer then; a deleted rank stays with its members, and where one rank is left it is given to
who joins; and a leaving member's account stays counted.  No other request does harm.
-/

namespace BlizzLike

open Std

namespace Guild

variable (g : Guild)

/-- The slot of a member. -/
def member (guid : Nat) : Option GuildMemberSlot := g.members[guid]?

/-- The distinct accounts of the members. -/
def accounts : Finset Nat := (g.members.toList.map fun e => e.2.accountId).toFinset

/-- **A guild in order.** -/
structure Orderly (g : Guild) : Prop where
  leader : ∃ m, g.member g.leaderGuid = some m
  master : ∀ guid m, g.member guid = some m → (m.rankId = grGuildMaster ↔ guid = g.leaderGuid)
  ranked : ∀ guid m, g.member guid = some m → m.rankId < g.ranks.length
  few : g.ranks.length < 4294967296
  counted : g.accountsNumber = g.accounts.card

/-- Some other member plays on the member's account. -/
def accountShared (guid : Nat) : Bool :=
  match g.member guid with
  | none => true
  | some m => g.members.toList.any fun e => e.1 != guid && e.2.accountId == m.accountId

/-- The lowest rank is some member's. -/
def lowestRankHeld : Bool := g.members.toList.any fun e => e.2.rankId + 1 == g.ranks.length

/-! ## Lemmas about one guild -/

variable {g}

theorem setMember_member (guid k : Nat) (m : GuildMemberSlot) :
    (g.setMember guid m).member k = if guid = k then some m else g.member k := by
  simp [setMember, member, TreeMap.getElem?_insert]

theorem modifyMember_member (guid k : Nat) (f : GuildMemberSlot → GuildMemberSlot) :
    (g.modifyMember guid f).member k = if guid = k then (g.member k).map f else g.member k := by
  simp only [modifyMember, member, TreeMap.getElem?_modify, LawfulEqCmp.compare_eq_iff_eq]
  split
  · next h => rw [h]
  · rfl

theorem eraseMember_member (guid k : Nat) :
    (g.eraseMember guid).member k = if guid = k then none else g.member k := by
  simp [eraseMember, member, TreeMap.getElem?_erase]

theorem mem_accounts (a : Nat) : a ∈ g.accounts ↔ ∃ guid m, g.member guid = some m ∧ m.accountId = a := by
  unfold accounts
  rw [List.mem_toFinset, List.mem_map]
  constructor
  · rintro ⟨⟨guid, m⟩, hmem, rfl⟩
    exact ⟨guid, m, TreeMap.mem_toList_iff_getElem?_eq_some.1 hmem, rfl⟩
  · rintro ⟨guid, m, hm, rfl⟩
    exact ⟨(guid, m), TreeMap.mem_toList_iff_getElem?_eq_some.2 hm, rfl⟩

theorem updateAccountsNumber_member (guid : Nat) : g.updateAccountsNumber.member guid = g.member guid := rfl

theorem updateAccountsNumber_counted : (g.updateAccountsNumber).accountsNumber = g.updateAccountsNumber.accounts.card := by
  unfold accounts
  rw [List.card_toFinset]
  rfl

theorem accountShared_spec (guid : Nat) (m : GuildMemberSlot) (h : g.accountShared guid = true)
    (hm : g.member guid = some m) : ∃ guid' m', guid' ≠ guid ∧ g.member guid' = some m' ∧ m'.accountId = m.accountId := by
  unfold accountShared at h
  rw [hm] at h
  obtain ⟨⟨guid', m'⟩, hmem, he⟩ := List.any_eq_true.1 h
  rw [Bool.and_eq_true, bne_iff_ne, beq_iff_eq] at he
  exact ⟨guid', m', he.1, TreeMap.mem_toList_iff_getElem?_eq_some.1 hmem, he.2⟩

theorem lowestRankHeld_eq_false (h : g.lowestRankHeld = false) (guid : Nat) (m : GuildMemberSlot)
    (hm : g.member guid = some m) : m.rankId + 1 ≠ g.ranks.length := by
  intro he
  have hmem := TreeMap.mem_toList_iff_getElem?_eq_some.2 hm
  exact Bool.eq_false_iff.1 h (List.any_eq_true.2 ⟨(guid, m), hmem, by simp [he]⟩)

theorem getMemberSlot_eq_some (name : String) (slot : Nat × GuildMemberSlot) (h : g.getMemberSlot name = some slot) :
    g.member slot.1 = some slot.2 :=
  TreeMap.mem_toList_iff_getElem?_eq_some.1 (List.mem_of_find?_eq_some h)

theorem accounts_congr {g' : Guild} (h : ∀ guid, (g'.member guid).map GuildMemberSlot.accountId =
    (g.member guid).map GuildMemberSlot.accountId) : g'.accounts = g.accounts := by
  have hmem : ∀ k : Guild, ∀ a, a ∈ k.accounts ↔ ∃ guid, (k.member guid).map GuildMemberSlot.accountId = some a := by
    intro k a
    rw [mem_accounts]
    refine exists_congr fun guid => ?_
    rw [Option.map_eq_some_iff]
  ext a
  rw [hmem, hmem]
  exact exists_congr fun guid => by rw [h guid]

theorem modifyMember_accountId (guid k : Nat) (f : GuildMemberSlot → GuildMemberSlot)
    (hf : ∀ m, (f m).accountId = m.accountId) :
    ((g.modifyMember guid f).member k).map GuildMemberSlot.accountId = (g.member k).map GuildMemberSlot.accountId := by
  rw [modifyMember_member]
  split
  · rw [Option.map_map]
    congr 1
    exact funext hf
  · rfl

theorem Orderly.congr {g' : Guild} (h : g.Orderly) (hl : g'.leaderGuid = g.leaderGuid)
    (hf : g'.ranks.length < 4294967296) (hc : g'.accountsNumber = g.accountsNumber)
    (hm : ∀ guid, (g'.member guid).map GuildMemberSlot.accountId = (g.member guid).map GuildMemberSlot.accountId)
    (hr : ∀ guid m', g'.member guid = some m' →
      (∃ m, g.member guid = some m ∧ m.rankId = m'.rankId) ∧ m'.rankId < g'.ranks.length) : g'.Orderly := by
  refine ⟨?_, fun guid m' h' => ?_, fun guid m' h' => (hr guid m' h').2, hf, ?_⟩
  · obtain ⟨m, hg⟩ := h.leader
    have he := hm g.leaderGuid
    rw [hg] at he
    obtain ⟨m', h', -⟩ := Option.map_eq_some_iff.1 he
    exact ⟨m', by rw [hl]; exact h'⟩
  · obtain ⟨⟨m, hg, he⟩, -⟩ := hr guid m' h'
    rw [hl, ← he]
    exact h.master guid m hg
  · rw [hc, h.counted, accounts_congr hm]

theorem Orderly.note (h : g.Orderly) (guid : Nat) (f : GuildMemberSlot → GuildMemberSlot)
    (hf : ∀ m, (f m).accountId = m.accountId ∧ (f m).rankId = m.rankId) : (g.modifyMember guid f).Orderly := by
  refine h.congr rfl h.few rfl (fun k => modifyMember_accountId guid k f fun m => (hf m).1) fun k m' hm' => ?_
  rw [modifyMember_member] at hm'
  have hk : ∃ m, g.member k = some m ∧ m.rankId = m'.rankId := by
    split at hm'
    · obtain ⟨m, hm, rfl⟩ := Option.map_eq_some_iff.1 hm'
      exact ⟨m, hm, (hf m).2.symm⟩
    · exact ⟨m', hm', rfl⟩
  obtain ⟨m, hm, he⟩ := hk
  exact ⟨⟨m, hm, he⟩, he ▸ h.ranked k m hm⟩

theorem Orderly.withRanks {ranks : List RankInfo} (h : g.Orderly) (hf : ranks.length < 4294967296)
    (hr : ∀ guid m, g.member guid = some m → m.rankId < ranks.length) :
    ({ g with ranks := ranks } : Guild).Orderly :=
  h.congr rfl hf rfl (fun _ => rfl) fun guid m hm => ⟨⟨m, hm, rfl⟩, hr guid m hm⟩

theorem Orderly.changeRank (h : g.Orderly) (guid rank : Nat) (hne : guid ≠ g.leaderGuid) (h0 : rank ≠ grGuildMaster)
    (hlt : rank < g.ranks.length) : (g.modifyMember guid fun m => { m with rankId := rank }).Orderly := by
  have hacc := accounts_congr fun k => modifyMember_accountId (g := g) guid k (fun m => { m with rankId := rank })
    fun _ => rfl
  have hcases : ∀ k m', (g.modifyMember guid fun m => { m with rankId := rank }).member k = some m' →
      (guid = k ∧ m'.rankId = rank) ∨ (guid ≠ k ∧ g.member k = some m') := by
    intro k m' hm'
    rw [modifyMember_member] at hm'
    split at hm'
    · next hk =>
      obtain ⟨m, -, rfl⟩ := Option.map_eq_some_iff.1 hm'
      exact Or.inl ⟨hk, rfl⟩
    · next hk => exact Or.inr ⟨hk, hm'⟩
  refine ⟨?_, fun k m' hm' => ?_, fun k m' hm' => ?_, h.few, ?_⟩
  · obtain ⟨m, hm⟩ := h.leader
    exact ⟨m, by rw [modifyMember_member]; exact (if_neg hne).trans hm⟩
  · rcases hcases k m' hm' with ⟨rfl, hrank⟩ | ⟨-, hm⟩
    · rw [hrank]
      exact ⟨fun he => absurd he h0, fun he => absurd he hne⟩
    · exact h.master k m' hm
  · rcases hcases k m' hm' with ⟨-, hrank⟩ | ⟨-, hm⟩
    · rw [hrank]; exact hlt
    · exact h.ranked k m' hm
  · rw [hacc]; exact h.counted

theorem Orderly.erase (h : g.Orderly) (guid : Nat) (hne : guid ≠ g.leaderGuid) (hs : g.accountShared guid = true) :
    (g.eraseMember guid).Orderly := by
  have hkeep : ∀ k m, (g.eraseMember guid).member k = some m ↔ guid ≠ k ∧ g.member k = some m := by
    intro k m
    rw [eraseMember_member]
    split
    · next hk => exact ⟨nofun, fun hc => absurd hk hc.1⟩
    · next hk => exact ⟨fun hm => ⟨hk, hm⟩, fun hm => hm.2⟩
  refine ⟨?_, fun k m hm => h.master k m ((hkeep k m).1 hm).2, fun k m hm => h.ranked k m ((hkeep k m).1 hm).2,
    h.few, ?_⟩
  · obtain ⟨m, hm⟩ := h.leader
    exact ⟨m, (hkeep _ m).2 ⟨hne, hm⟩⟩
  · show g.accountsNumber = _
    rw [h.counted]
    congr 1
    ext a
    rw [mem_accounts, mem_accounts]
    constructor
    · rintro ⟨k, m, hm, rfl⟩
      by_cases hk : guid = k
      · subst hk
        obtain ⟨k', m', hne', hm', he⟩ := accountShared_spec guid m hs hm
        exact ⟨k', m', (hkeep k' m').2 ⟨fun hc => hne' hc.symm, hm'⟩, he⟩
      · exact ⟨k, m, (hkeep k m).2 ⟨hk, hm⟩, rfl⟩
    · rintro ⟨k, m, hm, rfl⟩
      exact ⟨k, m, ((hkeep k m).1 hm).2, rfl⟩

theorem Orderly.join (h : g.Orderly) (guid : Nat) (m0 : GuildMemberSlot) (hnew : g.member guid = none)
    (h0 : m0.rankId ≠ grGuildMaster) (hlt : m0.rankId < g.ranks.length) :
    (g.setMember guid m0).updateAccountsNumber.Orderly := by
  have hcases : ∀ k m, (g.setMember guid m0).updateAccountsNumber.member k = some m →
      (guid = k ∧ m = m0) ∨ (guid ≠ k ∧ g.member k = some m) := by
    intro k m hm
    rw [updateAccountsNumber_member, setMember_member] at hm
    split at hm
    · next hk => exact Or.inl ⟨hk, (Option.some.inj hm).symm⟩
    · next hk => exact Or.inr ⟨hk, hm⟩
  obtain ⟨ml, hml⟩ := h.leader
  have hne : guid ≠ g.leaderGuid := by
    rintro rfl
    rw [hnew] at hml; cases hml
  refine ⟨⟨ml, ?_⟩, fun k m hm => ?_, fun k m hm => ?_, h.few, updateAccountsNumber_counted⟩
  · show (g.setMember guid m0).updateAccountsNumber.member g.leaderGuid = some ml
    rw [updateAccountsNumber_member, setMember_member, if_neg hne]
    exact hml
  · rcases hcases k m hm with ⟨rfl, rfl⟩ | ⟨-, hm⟩
    · exact ⟨fun he => absurd he h0, fun he => absurd he hne⟩
    · exact h.master k m hm
  · rcases hcases k m hm with ⟨-, rfl⟩ | ⟨-, hm⟩
    · exact hlt
    · exact h.ranked k m hm

theorem Orderly.handOver (h : g.Orderly) (guid : Nat) (hne : guid ≠ g.leaderGuid) (hm : (g.member guid).isSome)
    (h2 : 2 ≤ g.ranks.length) :
    (((g.setLeader guid).modifyMember guid fun m => { m with rankId := grGuildMaster }).modifyMember g.leaderGuid
      fun m => { m with rankId := grOfficer }).Orderly := by
  generalize hg1 : ((g.setLeader guid).modifyMember guid fun m => { m with rankId := grGuildMaster }) = g1
  have hmem1 : ∀ k, g1.member k = if guid = k then (g.member k).map fun m => { m with rankId := grGuildMaster }
      else g.member k := fun k => by rw [← hg1, modifyMember_member]; rfl
  have hranks : g1.ranks = g.ranks := by rw [← hg1]; rfl
  have hleader : g1.leaderGuid = guid := by rw [← hg1]; rfl
  have hacc : ∀ k, ((g1.modifyMember g.leaderGuid fun m => { m with rankId := grOfficer }).member k).map
      GuildMemberSlot.accountId = (g.member k).map GuildMemberSlot.accountId := by
    intro k
    refine (modifyMember_accountId g.leaderGuid k (fun m => { m with rankId := grOfficer }) fun _ => rfl).trans ?_
    rw [← hg1]
    exact modifyMember_accountId guid k (fun m => { m with rankId := grGuildMaster }) fun _ => rfl
  -- the new leader, the old one, and the others, who are what they were
  have hcases : ∀ k m, (g1.modifyMember g.leaderGuid fun m => { m with rankId := grOfficer }).member k = some m →
      (k = guid ∧ m.rankId = grGuildMaster) ∨ (k = g.leaderGuid ∧ k ≠ guid ∧ m.rankId = grOfficer) ∨
        (k ≠ guid ∧ k ≠ g.leaderGuid ∧ g.member k = some m) := by
    intro k m hk
    rw [modifyMember_member, hmem1] at hk
    by_cases hold : g.leaderGuid = k
    · rw [if_pos hold] at hk
      obtain ⟨m1, -, rfl⟩ := Option.map_eq_some_iff.1 hk
      exact Or.inr (Or.inl ⟨hold.symm, fun hc => hne (hc.symm.trans hold.symm), rfl⟩)
    · rw [if_neg hold] at hk
      by_cases hnew : guid = k
      · rw [if_pos hnew] at hk
        obtain ⟨m1, -, rfl⟩ := Option.map_eq_some_iff.1 hk
        exact Or.inl ⟨hnew.symm, rfl⟩
      · rw [if_neg hnew] at hk
        exact Or.inr (Or.inr ⟨fun hc => hnew hc.symm, fun hc => hold hc.symm, hk⟩)
  refine ⟨?_, fun k m hk => ?_, fun k m hk => ?_, ?_, ?_⟩
  · show ∃ m, (g1.modifyMember g.leaderGuid fun m => { m with rankId := grOfficer }).member g1.leaderGuid = some m
    rw [hleader, modifyMember_member, if_neg fun hc => hne hc.symm, hmem1, if_pos rfl]
    obtain ⟨m, hm⟩ := Option.isSome_iff_exists.1 hm
    exact ⟨_, by rw [hm]; rfl⟩
  · show m.rankId = grGuildMaster ↔ k = g1.leaderGuid
    rw [hleader]
    rcases hcases k m hk with ⟨rfl, hr⟩ | ⟨rfl, hkn, hr⟩ | ⟨hkn, hkl, hm⟩
    · simp [hr]
    · rw [hr]
      exact ⟨nofun, fun hc => absurd hc hkn⟩
    · exact ⟨fun hr => absurd ((h.master k m hm).1 hr) hkl, fun hc => absurd hc hkn⟩
  · show m.rankId < g1.ranks.length
    rw [hranks]
    rcases hcases k m hk with ⟨rfl, hr⟩ | ⟨rfl, hkn, hr⟩ | ⟨hkn, hkl, hm⟩
    · rw [hr]
      exact Nat.lt_of_lt_of_le (by decide) h2
    · rw [hr]
      exact h2
    · exact h.ranked k m hm
  · show g1.ranks.length < 4294967296
    rw [hranks]
    exact h.few
  · rw [accounts_congr hacc, ← h.counted, ← hg1]
    rfl

theorem founded_orderly (name : String) (guid : Nat) (m0 : GuildMemberSlot) (h0 : m0.rankId = grGuildMaster) :
    ((({ name := name, leaderGuid := guid } : Guild).createDefaultGuildRanks.setMember guid m0).updateAccountsNumber).Orderly := by
  have hmem : ∀ k m, ((({ name := name, leaderGuid := guid } : Guild).createDefaultGuildRanks.setMember guid
      m0).updateAccountsNumber).member k = some m → k = guid ∧ m = m0 := by
    intro k m hm
    rw [updateAccountsNumber_member, setMember_member] at hm
    split at hm
    · next hk => exact ⟨hk.symm, (Option.some.inj hm).symm⟩
    · rw [show (({ name := name, leaderGuid := guid } : Guild).createDefaultGuildRanks).member k = none from
        TreeMap.getElem?_emptyc] at hm
      cases hm
  refine ⟨⟨m0, ?_⟩, fun k m hm => ?_, fun k m hm => ?_, Nat.lt_trans (Nat.lt_succ_self 5) (by decide),
    updateAccountsNumber_counted⟩
  · exact (updateAccountsNumber_member guid).trans ((setMember_member guid guid m0).trans (if_pos rfl))
  · obtain ⟨rfl, rfl⟩ := hmem k m hm
    exact ⟨fun _ => rfl, fun _ => h0⟩
  · obtain ⟨rfl, rfl⟩ := hmem k m hm
    rw [h0]
    show 0 < (({ name := name, leaderGuid := k } : Guild).createDefaultGuildRanks).ranks.length
    exact Nat.succ_pos 4

end Guild

/-! ## The stores in step -/

namespace GuildWorld

variable (w : GuildWorld)

/-- What the member list of a guild has of a character: his rank and his account. -/
def standing (gid x : Nat) : Option (Nat × Nat) :=
  (w.guilds[gid]?).bind fun g => (g.member x).map fun m => (m.rankId, m.accountId)

/-- **The stores agree** about a character. -/
structure InStep (w : GuildWorld) (x : Nat) : Prop where
  account : ∀ gid s, w.standing gid x = some s → s.2 = (w.characters x).accountId
  rows : ∀ gid rank, ⟨gid, x, rank⟩ ∈ w.guildMember ↔ ∃ a, w.standing gid x = some (rank, a)
  once : ∀ gid gid' s s', w.standing gid x = some s → w.standing gid' x = some s' → gid = gid'
  own : (w.characters x).online = true → ∀ gid rank, (∃ a, w.standing gid x = some (rank, a)) ↔
    gid ≠ 0 ∧ (w.characters x).guildId = gid ∧ (w.characters x).rank = rank

/-- **The invariant** of runs. -/
structure Sound (w : GuildWorld) : Prop where
  next : w.nextGuildId ≠ 0
  ids : ∀ (gid : Nat) (g : Guild), w.guilds[gid]? = some g → gid ≠ 0 ∧ gid < w.nextGuildId
  inStep : ∀ x, w.InStep x
  orderly : ∀ (gid : Nat) (g : Guild), w.guilds[gid]? = some g → g.Orderly

variable {w}

theorem modifyGuild_guilds (gid k : Nat) (f : Guild → Guild) :
    (w.modifyGuild gid f).guilds[k]? = if gid = k then w.guilds[k]?.map f else w.guilds[k]? := by
  simp only [modifyGuild, TreeMap.getElem?_modify, LawfulEqCmp.compare_eq_iff_eq]
  split
  · next h => rw [h]
  · rfl

@[simp] theorem modifyOnline_guilds (guid : Nat) (f : GuildCharacter → GuildCharacter) :
    (w.modifyOnline guid f).guilds = w.guilds := by
  unfold modifyOnline
  split <;> rfl

@[simp] theorem modifyOnline_guildMember (guid : Nat) (f : GuildCharacter → GuildCharacter) :
    (w.modifyOnline guid f).guildMember = w.guildMember := by
  unfold modifyOnline
  split <;> rfl

@[simp] theorem modifyOnline_nextGuildId (guid : Nat) (f : GuildCharacter → GuildCharacter) :
    (w.modifyOnline guid f).nextGuildId = w.nextGuildId := by
  unfold modifyOnline
  split <;> rfl

theorem modifyOnline_characters_of_ne (guid x : Nat) (f : GuildCharacter → GuildCharacter) (h : x ≠ guid) :
    (w.modifyOnline guid f).characters x = w.characters x := by
  unfold modifyOnline
  split
  · exact Function.update_of_ne h ..
  · rfl

theorem modifyOnline_characters_self (guid : Nat) (f : GuildCharacter → GuildCharacter) :
    (w.modifyOnline guid f).characters guid = if (w.characters guid).online then f (w.characters guid) else w.characters guid := by
  unfold modifyOnline
  split
  · exact Function.update_self ..
  · rfl

theorem standing_congr {w' : GuildWorld} (h : w'.guilds = w.guilds) (gid x : Nat) : w'.standing gid x = w.standing gid x := by
  unfold standing
  rw [h]

theorem InStep.congr {w' : GuildWorld} {x : Nat} (h : w.InStep x) (hs : ∀ k, w'.standing k x = w.standing k x)
    (hr : ∀ k rank, ⟨k, x, rank⟩ ∈ w'.guildMember ↔ ⟨k, x, rank⟩ ∈ w.guildMember)
    (hp : (w'.characters x).accountId = (w.characters x).accountId)
    (ho : (w'.characters x).online = true → (w.characters x).online = true ∧
      (w'.characters x).guildId = (w.characters x).guildId ∧ (w'.characters x).rank = (w.characters x).rank) : w'.InStep x := by
  refine ⟨fun k s hk => ?_, fun k rank => ?_, fun k k' s s' hk hk' => ?_, fun hon k rank => ?_⟩
  · rw [hp]
    exact h.account k s ((hs k).symm.trans hk)
  · rw [hr, hs]
    exact h.rows k rank
  · exact h.once k k' s s' ((hs k).symm.trans hk) ((hs k').symm.trans hk')
  · obtain ⟨h1, h2, h3⟩ := ho hon
    rw [hs, h2, h3]
    exact h.own h1 k rank

theorem standing_modifyGuild (gid guid k x : Nat) (f : Guild → Guild)
    (hf : ∀ g : Guild, ∀ y, y ≠ guid → (f g).member y = g.member y) (hne : ¬(k = gid ∧ x = guid)) :
    (w.modifyGuild gid f).standing k x = w.standing k x := by
  unfold standing
  rw [modifyGuild_guilds]
  split
  · next hk =>
    subst hk
    have hx : x ≠ guid := fun hc => hne ⟨rfl, hc⟩
    cases w.guilds[gid]? with
    | none => rfl
    | some g => simp only [Option.map_some, Option.bind_some, hf g x hx]
  · rfl

theorem standing_modifyGuild_self (gid x : Nat) (f : Guild → Guild) :
    (w.modifyGuild gid f).standing gid x =
      (w.guilds[gid]?).bind fun g => ((f g).member x).map fun m => (m.rankId, m.accountId) := by
  unfold standing
  rw [modifyGuild_guilds, if_pos rfl]
  cases w.guilds[gid]? <;> rfl

theorem InStep.congr_of_character {w' : GuildWorld} {x : Nat} (h : w.InStep x)
    (hs : ∀ k, w'.standing k x = w.standing k x)
    (hr : ∀ k rank, ⟨k, x, rank⟩ ∈ w'.guildMember ↔ ⟨k, x, rank⟩ ∈ w.guildMember)
    (hc : w'.characters x = w.characters x) : w'.InStep x := by
  refine h.congr hs hr (by rw [hc]) fun hon => ?_
  rw [hc] at hon ⊢
  exact ⟨hon, rfl, rfl⟩

theorem InStep.of_only {x : Nat} (gid rank : Nat)
    (hs : ∀ k s, w.standing k x = some s ↔ k = gid ∧ s = (rank, (w.characters x).accountId))
    (hr : ∀ k r, ⟨k, x, r⟩ ∈ w.guildMember ↔ k = gid ∧ r = rank)
    (ho : (w.characters x).online = true →
      gid ≠ 0 ∧ (w.characters x).guildId = gid ∧ (w.characters x).rank = rank) : w.InStep x := by
  have hrank : ∀ k r, (∃ a, w.standing k x = some (r, a)) ↔ k = gid ∧ r = rank := by
    intro k r
    constructor
    · rintro ⟨a, ha⟩
      obtain ⟨hk, he⟩ := (hs k _).1 ha
      exact ⟨hk, (Prod.mk.inj he).1⟩
    · rintro ⟨hk, rfl⟩
      exact ⟨_, (hs k _).2 ⟨hk, rfl⟩⟩
  refine ⟨fun k s hk => ?_, fun k r => (hr k r).trans (hrank k r).symm, fun k k' s s' hk hk' => ?_, fun hon k r => ?_⟩
  · rw [((hs k s).1 hk).2]
  · exact ((hs k s).1 hk).1.trans ((hs k' s').1 hk').1.symm
  · obtain ⟨h0, hg, hrk⟩ := ho hon
    rw [hrank, hg, hrk]
    constructor
    · rintro ⟨rfl, rfl⟩
      exact ⟨h0, rfl, rfl⟩
    · rintro ⟨-, rfl, rfl⟩
      exact ⟨rfl, rfl⟩

/-! ### `ChangeRank` -/

theorem changeRank_guilds (gid guid rank : Nat) : (w.changeRank gid guid rank).guilds =
    (w.modifyGuild gid fun g => g.modifyMember guid fun m => { m with rankId := rank }).guilds := by
  unfold changeRank
  simp only [modifyOnline_guilds]

theorem standing_changeRank (gid guid rank k x : Nat) :
    (w.changeRank gid guid rank).standing k x =
      if k = gid ∧ x = guid then (w.standing k x).map fun s => (rank, s.2) else w.standing k x := by
  rw [standing_congr (w.changeRank_guilds gid guid rank)]
  split
  · next h =>
    obtain ⟨rfl, rfl⟩ := h
    rw [standing_modifyGuild_self]
    unfold standing
    cases w.guilds[k]? with
    | none => rfl
    | some g =>
      simp only [Option.bind_some, Guild.modifyMember_member, if_true, Option.map_map]
      rfl
  · next h =>
    refine standing_modifyGuild gid guid k x _ (fun g y hy => ?_) h
    rw [Guild.modifyMember_member, if_neg fun hc => hy hc.symm]

theorem mem_changeRank_rows (gid guid rank : Nat) (k x r : Nat) :
    ⟨k, x, r⟩ ∈ (w.changeRank gid guid rank).guildMember ↔
      if x = guid then r = rank ∧ ∃ r0, ⟨k, x, r0⟩ ∈ w.guildMember else ⟨k, x, r⟩ ∈ w.guildMember := by
  unfold changeRank
  simp only [modifyOnline_guildMember]
  rw [show (w.modifyGuild gid fun g => g.modifyMember guid fun m => { m with rankId := rank }).guildMember = w.guildMember
    from rfl, List.mem_map]
  constructor
  · rintro ⟨row, hrow, he⟩
    obtain ⟨gk, gx, gr⟩ := row
    dsimp only at he
    split at he
    · next hx =>
      obtain ⟨rfl, rfl, rfl⟩ := GuildMemberRow.mk.inj he
      rw [if_pos hx]
      exact ⟨rfl, gr, hrow⟩
    · next hx =>
      obtain ⟨rfl, rfl, rfl⟩ := GuildMemberRow.mk.inj he
      rw [if_neg hx]
      exact hrow
  · intro h
    split at h
    · next hx =>
      obtain ⟨rfl, r0, hrow⟩ := h
      exact ⟨⟨k, x, r0⟩, hrow, by dsimp only; rw [if_pos hx]⟩
    · next hx => exact ⟨⟨k, x, r⟩, h, by dsimp only; rw [if_neg hx]⟩

/-- **`ChangeRank` of a member** keeps the stores in step. -/
theorem changeRank_inStep (gid guid rank : Nat) (hm : (w.standing gid guid).isSome) (h : ∀ x, w.InStep x) (x : Nat) :
    (w.changeRank gid guid rank).InStep x := by
  have hchar : (w.changeRank gid guid rank).characters =
      ((w.modifyGuild gid fun g => g.modifyMember guid fun m => { m with rankId := rank }).modifyOnline guid fun p =>
        { p with rank := rank }).characters := rfl
  by_cases hx : x = guid
  · subst hx
    obtain ⟨s0, hs0⟩ := Option.isSome_iff_exists.1 hm
    have hself : (w.changeRank gid x rank).characters x =
        if (w.characters x).online then { w.characters x with rank := rank } else w.characters x := by
      rw [hchar, modifyOnline_characters_self]
      rfl
    have hacc : s0.2 = ((w.changeRank gid x rank).characters x).accountId := by
      rw [hself, (h x).account gid s0 hs0]
      split <;> rfl
    refine InStep.of_only gid rank (fun k s => ?_) (fun k r => ?_) fun hon => ?_
    · rw [standing_changeRank, ← hacc]
      split
      · next hk =>
        obtain ⟨rfl, -⟩ := hk
        rw [hs0]
        exact ⟨fun he => ⟨rfl, (Option.some.inj he).symm⟩, fun he => by rw [he.2]; rfl⟩
      · next hk =>
        refine ⟨fun he => absurd ⟨(h x).once k gid s s0 he hs0, rfl⟩ hk, fun he => absurd ⟨he.1, rfl⟩ hk⟩
    · rw [mem_changeRank_rows, if_pos rfl]
      constructor
      · rintro ⟨rfl, r0, hrow⟩
        obtain ⟨a, ha⟩ := ((h x).rows k r0).1 hrow
        exact ⟨(h x).once k gid _ s0 ha hs0, rfl⟩
      · rintro ⟨rfl, rfl⟩
        exact ⟨rfl, s0.1, ((h x).rows k s0.1).2 ⟨s0.2, hs0⟩⟩
    · rw [hself] at hon ⊢
      split at hon
      · next hwas =>
        obtain ⟨h0, hg, -⟩ := ((h x).own hwas gid s0.1).1 ⟨s0.2, hs0⟩
        rw [if_pos hwas]
        exact ⟨h0, hg, rfl⟩
      · next hwas => exact absurd hon hwas
  · refine (h x).congr_of_character (fun k => ?_) (fun k r => ?_) ?_
    · rw [standing_changeRank, if_neg fun hc => hx hc.2]
    · rw [mem_changeRank_rows, if_neg hx]
    · rw [hchar, modifyOnline_characters_of_ne _ _ _ hx]
      rfl

/-! ### `DelMember` -/

theorem eraseMember_guilds (gid guid : Nat) :
    (w.eraseMember gid guid).guilds = (w.modifyGuild gid fun g => g.eraseMember guid).guilds := by
  unfold eraseMember
  simp only [modifyOnline_guilds]

theorem standing_eraseMember (gid guid k x : Nat) :
    (w.eraseMember gid guid).standing k x = if k = gid ∧ x = guid then none else w.standing k x := by
  rw [standing_congr (w.eraseMember_guilds gid guid)]
  split
  · next h =>
    obtain ⟨rfl, rfl⟩ := h
    rw [standing_modifyGuild_self]
    cases w.guilds[k]? with
    | none => rfl
    | some g =>
      simp only [Option.bind_some, Guild.eraseMember_member, if_true]
      rfl
  · next h =>
    refine standing_modifyGuild gid guid k x _ (fun g y hy => ?_) h
    rw [Guild.eraseMember_member, if_neg fun hc => hy hc.symm]

theorem mem_eraseMember_rows (gid guid k x r : Nat) :
    ⟨k, x, r⟩ ∈ (w.eraseMember gid guid).guildMember ↔ x ≠ guid ∧ ⟨k, x, r⟩ ∈ w.guildMember := by
  unfold eraseMember
  simp only [modifyOnline_guildMember]
  rw [show (w.modifyGuild gid fun g => g.eraseMember guid).guildMember = w.guildMember from rfl, List.mem_filter, bne_iff_ne,
    and_comm]

/-- **A member who is erased** is in no guild, in all stores. -/
theorem eraseMember_inStep (gid guid : Nat) (hm : (w.standing gid guid).isSome) (h : ∀ x, w.InStep x) (x : Nat) :
    (w.eraseMember gid guid).InStep x := by
  have hchar : (w.eraseMember gid guid).characters =
      ((w.modifyGuild gid fun g => g.eraseMember guid).modifyOnline guid fun p =>
        { p with guildId := 0, rank := 0 }).characters := rfl
  by_cases hx : x = guid
  · subst hx
    obtain ⟨s0, hs0⟩ := Option.isSome_iff_exists.1 hm
    have hst : ∀ k, (w.eraseMember gid x).standing k x = none := by
      intro k
      rw [standing_eraseMember]
      split
      · rfl
      · next hk =>
        cases hs : w.standing k x with
        | none => rfl
        | some s => exact absurd ⟨(h x).once k gid s s0 hs hs0, rfl⟩ hk
    have hno : ∀ k s, (w.eraseMember gid x).standing k x ≠ some s := fun k s hk => by rw [hst k] at hk; cases hk
    refine ⟨fun k s hk => absurd hk (hno k s), fun k r => ?_, fun k _ s _ hk => absurd hk (hno k s), fun hon k r => ?_⟩
    · rw [mem_eraseMember_rows]
      exact ⟨fun hc => absurd rfl hc.1, fun ⟨a, ha⟩ => absurd ha (hno k _)⟩
    · refine ⟨fun ⟨a, ha⟩ => absurd ha (hno k _), fun ⟨h0, hk, _⟩ => ?_⟩
      rw [hchar, modifyOnline_characters_self] at hon hk
      split at hon
      · next hwas =>
        rw [if_pos hwas] at hk
        exact absurd hk.symm h0
      · next hwas => exact absurd hon hwas
  · refine (h x).congr_of_character (fun k => ?_) (fun k r => ?_) ?_
    · rw [standing_eraseMember, if_neg fun hc => hx hc.2]
    · rw [mem_eraseMember_rows]
      exact ⟨fun hc => hc.2, fun hc => ⟨hx, hc⟩⟩
    · rw [hchar, modifyOnline_characters_of_ne _ _ _ hx]
      rfl

/-! ### `AddMember` -/

theorem addMember_eq {w' : GuildWorld} {gid guid rank : Nat} (ha : w.addMember gid guid rank = some w') :
    w' = { (w.modifyGuild gid fun g => (g.setMember guid
      { accountId := (w.characters guid).accountId, name := (w.characters guid).name, rankId := rank }).updateAccountsNumber).modifyOnline
        guid fun p => { p with guildId := gid, rank := rank, guildIdInvited := 0 } with
      guildMember := w.guildMember ++ [{ guildId := gid, guid := guid, rank := rank }] } := by
  unfold addMember at ha
  simp only at ha
  generalize (if (w.characters guid).online then (w.characters guid).guildId != 0 else (w.rowOf guid).isSome) = found at ha
  cases found with
  | true => cases ha
  | false =>
    refine (Option.some.inj ha).symm.trans ?_
    rw [modifyOnline_guildMember]
    rfl

/-- **A new member** is one in all stores. -/
theorem addMember_inStep {w' : GuildWorld} {gid guid rank : Nat} (ha : w.addMember gid guid rank = some w')
    (h0 : gid ≠ 0) (hg : (w.guilds[gid]?).isSome) (hno : ∀ k, w.standing k guid = none) (h : ∀ x, w.InStep x) (x : Nat) :
    w'.InStep x := by
  obtain rfl := addMember_eq ha
  have hmem : ∀ k y r, ⟨k, y, r⟩ ∈ w.guildMember ++ [GuildMemberRow.mk gid guid rank] ↔
      ⟨k, y, r⟩ ∈ w.guildMember ∨ (k = gid ∧ y = guid ∧ r = rank) := fun k y r => by simp
  generalize hf : (fun g : Guild => (g.setMember guid
    { accountId := (w.characters guid).accountId, name := (w.characters guid).name, rankId := rank }).updateAccountsNumber) = f
  have hfm : ∀ g : Guild, ∀ y, (f g).member y = if guid = y then
      some { accountId := (w.characters guid).accountId, name := (w.characters guid).name, rankId := rank }
      else g.member y := fun g y => by
    rw [← hf]
    exact Guild.setMember_member guid y _
  have hst : ∀ k y, (w.modifyGuild gid f).standing k y =
      if k = gid ∧ y = guid then some (rank, (w.characters guid).accountId) else w.standing k y := by
    intro k y
    split
    · next hk =>
      obtain ⟨rfl, rfl⟩ := hk
      rw [standing_modifyGuild_self]
      obtain ⟨g, hg⟩ := Option.isSome_iff_exists.1 hg
      rw [hg, Option.bind_some, hfm, if_pos rfl]
      rfl
    · next hk =>
      exact standing_modifyGuild gid guid k y f (fun g z hz => by rw [hfm, if_neg fun hc => hz hc.symm]) hk
  generalize hw1 : (w.modifyGuild gid f).modifyOnline guid (fun p =>
    { p with guildId := gid, rank := rank, guildIdInvited := 0 }) = w1
  have hst1 : ∀ k y, w1.standing k y = (w.modifyGuild gid f).standing k y := fun k y => by
    rw [← hw1]
    exact standing_congr (modifyOnline_guilds guid _) k y
  have hwhole : ∀ y, ({ w1 with guildMember := w.guildMember ++ [⟨gid, guid, rank⟩] } : GuildWorld).characters y =
      w1.characters y := fun y => rfl
  by_cases hx : x = guid
  · subst hx
    have hself : w1.characters x = if (w.characters x).online then
        { w.characters x with guildId := gid, rank := rank, guildIdInvited := 0 } else w.characters x := by
      rw [← hw1, modifyOnline_characters_self]
      rfl
    have hacc : (w1.characters x).accountId = (w.characters x).accountId := by
      rw [hself]
      split <;> rfl
    refine InStep.of_only gid rank (fun k s => ?_) (fun k r => (hmem k x r).trans ?_) fun hon => ?_
    · rw [hwhole, hacc]
      refine Eq.congr_left ((hst1 k x).trans (hst k x)) |>.trans ?_
      split
      · next hk => exact ⟨fun he => ⟨hk.1, (Option.some.inj he).symm⟩, fun he => by rw [he.2]⟩
      · next hk =>
        rw [hno k]
        exact ⟨nofun, fun he => absurd ⟨he.1, rfl⟩ hk⟩
    · constructor
      · rintro (hrow | ⟨rfl, -, rfl⟩)
        · obtain ⟨a, ha⟩ := ((h x).rows k r).1 hrow
          rw [hno k] at ha
          cases ha
        · exact ⟨rfl, rfl⟩
      · rintro ⟨rfl, rfl⟩
        exact Or.inr ⟨rfl, rfl, rfl⟩
    · rw [hwhole, hself] at hon ⊢
      split at hon
      · next hwas =>
        rw [if_pos hwas]
        exact ⟨h0, rfl, rfl⟩
      · next hwas => exact absurd hon hwas
  · refine (h x).congr_of_character (fun k => ?_) (fun k r => ?_) ?_
    · exact (hst1 k x).trans ((hst k x).trans (if_neg fun hc => hx hc.2))
    · exact (hmem k x r).trans ⟨fun hc => hc.resolve_right fun he => hx he.2.1, Or.inl⟩
    · rw [hwhole, ← hw1, modifyOnline_characters_of_ne _ _ _ hx]
      rfl

theorem addMember_guilds {w' : GuildWorld} {gid guid rank : Nat} (ha : w.addMember gid guid rank = some w') (k : Nat) :
    w'.nextGuildId = w.nextGuildId ∧ w'.guilds[k]? = if gid = k then w.guilds[k]?.map fun g => (g.setMember guid
      { accountId := (w.characters guid).accountId, name := (w.characters guid).name, rankId := rank }).updateAccountsNumber
      else w.guilds[k]? := by
  obtain rfl := addMember_eq ha
  refine ⟨by simp only [modifyOnline_nextGuildId]; rfl, ?_⟩
  rw [← modifyGuild_guilds]
  simp only [modifyOnline_guilds]

/-! ### `Disband` -/

theorem eraseMembers_inStep (gid : Nat) (l : List Nat) (w : GuildWorld) (hnd : l.Nodup) (h : ∀ x, w.InStep x)
    (hm : ∀ guid ∈ l, (w.standing gid guid).isSome) :
    (∀ x, (l.foldl (fun w guid => w.eraseMember gid guid) w).InStep x) ∧
      (∀ k x, (l.foldl (fun w guid => w.eraseMember gid guid) w).standing k x =
        if k = gid ∧ x ∈ l then none else w.standing k x) ∧
      (l.foldl (fun w guid => w.eraseMember gid guid) w).nextGuildId = w.nextGuildId ∧
      ∀ k, k ≠ gid → (l.foldl (fun w guid => w.eraseMember gid guid) w).guilds[k]? = w.guilds[k]? := by
  induction l generalizing w with
  | nil => exact ⟨h, fun k x => by simp, rfl, fun _ _ => rfl⟩
  | cons guid l ih =>
    rw [List.nodup_cons] at hnd
    have h1 := eraseMember_inStep gid guid (hm guid (List.mem_cons_self ..)) h
    obtain ⟨i1, i2, i3, i4⟩ := ih (w.eraseMember gid guid) hnd.2 h1 fun y hy => by
      have hne : y ≠ guid := fun he => hnd.1 (he ▸ hy)
      rw [standing_eraseMember, if_neg fun hc => hne hc.2]
      exact hm y (List.mem_cons_of_mem _ hy)
    rw [List.foldl_cons]
    refine ⟨i1, fun k x => ?_, ?_, fun k hk => ?_⟩
    · rw [i2, standing_eraseMember]
      by_cases hk : k = gid
      · by_cases hx : x = guid
        · simp [hk, hx]
        · simp [hk, hx]
      · simp [hk]
    · rw [i3]
      unfold eraseMember
      simp only [modifyOnline_nextGuildId]
      rfl
    · rw [i4 k hk, eraseMember_guilds, modifyGuild_guilds, if_neg fun hc => hk hc.symm]

theorem standing_isSome (gid x : Nat) (g : Guild) (hg : w.guilds[gid]? = some g) :
    (w.standing gid x).isSome = (g.member x).isSome := by
  unfold standing
  rw [hg, Option.bind_some, Option.isSome_map]

/-- **A disbanded guild** leaves nothing behind. -/
theorem Sound.disband (hs : w.Sound) (gid : Nat) : (w.disband gid).Sound := by
  unfold GuildWorld.disband
  split
  · exact hs
  next g hg =>
  obtain ⟨h1, h2, h3, h4⟩ := eraseMembers_inStep gid g.members.keys w TreeMap.nodup_keys hs.inStep fun guid hmem => by
    rw [standing_isSome gid guid g hg]
    exact TreeMap.mem_iff_isSome_getElem?.1 (TreeMap.mem_keys.1 hmem)
  generalize g.members.keys.foldl (fun w guid => w.eraseMember gid guid) w = w1 at h1 h2 h3 h4
  have hnone : ∀ x, w1.standing gid x = none := by
    intro x
    rw [h2]
    split
    · rfl
    · next hx =>
      have hout : g.member x = none := by
        cases hgx : g.member x with
        | none => rfl
        | some m =>
          exact absurd ⟨rfl, TreeMap.mem_keys.2 (TreeMap.mem_iff_isSome_getElem?.2 (Option.isSome_iff_exists.2 ⟨m, hgx⟩))⟩ hx
      unfold standing
      rw [hg, Option.bind_some, hout]
      rfl
  have hget : ∀ k, (w1.guilds.erase gid)[k]? = if gid = k then none else w1.guilds[k]? := fun k => by
    simp [TreeMap.getElem?_erase]
  have hkeep : ∀ (k : Nat) (g' : Guild), (w1.guilds.erase gid)[k]? = some g' → w.guilds[k]? = some g' := by
    intro k g' hk
    rw [hget] at hk
    split at hk
    · cases hk
    · next hne => exact (h4 k fun hc => hne hc.symm).symm.trans hk
  refine ⟨?_, fun k g' hk => ?_, fun x => ?_, fun k g' hk => hs.orderly k g' (hkeep k g' hk)⟩
  · show w1.nextGuildId ≠ 0
    rw [h3]
    exact hs.next
  · show k ≠ 0 ∧ k < w1.nextGuildId
    rw [h3]
    exact hs.ids k g' (hkeep k g' hk)
  · refine (h1 x).congr (fun k => ?_) (fun _ _ => Iff.rfl) rfl fun hon => ⟨hon, rfl, rfl⟩
    by_cases hk : k = gid
    · rw [hk, hnone]
      unfold standing
      show ((w1.guilds.erase gid)[gid]?).bind _ = none
      rw [hget, if_pos rfl]
      rfl
    · unfold standing
      show ((w1.guilds.erase gid)[k]?).bind _ = _
      rw [hget, if_neg fun hc => hk hc.symm]

/-! ## The requests -/

theorem Sound.replace {w' : GuildWorld} {gid : Nat} {g : Guild} (g' : Guild) (hs : w.Sound) (hg : w.guilds[gid]? = some g)
    (hgu : ∀ k, w'.guilds[k]? = if gid = k then some g' else w.guilds[k]?) (hn : w'.nextGuildId = w.nextGuildId)
    (hin : ∀ x, w'.InStep x) (ho : g'.Orderly) : w'.Sound := by
  refine ⟨hn ▸ hs.next, fun k h hk => ?_, hin, fun k h hk => ?_⟩
  · rw [hn]
    rw [hgu] at hk
    split at hk
    · next he => exact he ▸ hs.ids gid g hg
    · exact hs.ids k h hk
  · rw [hgu] at hk
    split at hk
    · exact Option.some.inj hk ▸ ho
    · exact hs.orderly k h hk

theorem Sound.modifyGuild {gid : Nat} {g : Guild} {f : Guild → Guild} (hs : w.Sound) (hg : w.guilds[gid]? = some g)
    (hf : ∀ x, ((f g).member x).map (fun m => (m.rankId, m.accountId)) = (g.member x).map fun m => (m.rankId, m.accountId))
    (ho : (f g).Orderly) : (w.modifyGuild gid f).Sound := by
  refine hs.replace (f g) hg (fun k => ?_) rfl (fun x => ?_) ho
  · rw [modifyGuild_guilds]
    split
    · next he => rw [← he, hg]; rfl
    · rfl
  · refine (hs.inStep x).congr (fun k => ?_) (fun _ _ => Iff.rfl) rfl fun hon => ⟨hon, rfl, rfl⟩
    by_cases hk : k = gid
    · rw [hk, standing_modifyGuild_self]
      unfold standing
      rw [hg, Option.bind_some, Option.bind_some, hf]
    · unfold standing
      rw [modifyGuild_guilds, if_neg fun hc => hk hc.symm]

theorem Sound.setCharacter (hs : w.Sound) (guid : Nat) (p : GuildCharacter) (ha : p.accountId = (w.characters guid).accountId)
    (ho : p.online = true → (w.characters guid).online = true ∧ p.guildId = (w.characters guid).guildId ∧
      p.rank = (w.characters guid).rank) : (w.setCharacter guid p).Sound := by
  refine ⟨hs.next, hs.ids, fun x => ?_, hs.orderly⟩
  by_cases hx : x = guid
  · subst hx
    have hself : (w.setCharacter x p).characters x = p := Function.update_self ..
    exact (hs.inStep x).congr (fun _ => rfl) (fun _ _ => Iff.rfl) (by rw [hself]; exact ha) (by rw [hself]; exact ho)
  · have hsame : (w.setCharacter guid p).characters x = w.characters x := Function.update_of_ne hx ..
    exact (hs.inStep x).congr (fun _ => rfl) (fun _ _ => Iff.rfl) (by rw [hsame]) fun hon => by
      rw [hsame] at hon ⊢
      exact ⟨hon, rfl, rfl⟩

theorem Sound.member_of_guildOf (hs : w.Sound) {pl : Nat} {g : Guild} (hon : (w.characters pl).online = true)
    (hg : w.guildOf pl = some g) : ∃ m, g.member pl = some m ∧ m.rankId = (w.characters pl).rank := by
  obtain ⟨a, ha⟩ := ((hs.inStep pl).own hon _ _).2 ⟨(hs.ids _ g hg).1, rfl, rfl⟩
  unfold standing at ha
  rw [show w.guilds[(w.characters pl).guildId]? = some g from hg, Option.bind_some] at ha
  obtain ⟨m, hm, he⟩ := Option.map_eq_some_iff.1 ha
  exact ⟨m, hm, (Prod.mk.inj he).1⟩

theorem Sound.no_standing (hs : w.Sound) {pl : Nat} (hon : (w.characters pl).online = true)
    (h0 : (w.characters pl).guildId = 0) (k : Nat) : w.standing k pl = none := by
  cases hk : w.standing k pl with
  | none => rfl
  | some s =>
    obtain ⟨h1, h2, -⟩ := ((hs.inStep pl).own hon k s.1).1 ⟨s.2, hk⟩
    exact absurd (h2.symm.trans h0) h1

end GuildWorld

end BlizzLike
