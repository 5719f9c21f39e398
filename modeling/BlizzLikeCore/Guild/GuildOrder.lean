import BlizzLikeCore.Guild.Membership

/-!
# Guilds in order

The requests about guilds, one by one: each keeps the world of guilds sound unless it is one of a
few that a player can send and no handler refuses (`heedful`).  Along a run without those, all
guilds are in order and all stores in step (`guilds_orderly`).
-/

namespace BlizzLike

namespace GuildWorld

open Std

variable (w : GuildWorld)

/-- A request of a player that does none of the harm the handlers let pass: he declines without a guild,
joins where there are two ranks, hands over to somebody else where there are two ranks, deletes a
rank nobody has, and whoever leaves or is removed leaves somebody of his account behind. -/
def heedful (w : GuildWorld) : GuildEvent → Bool
  | .request pl .decline => !(w.characters pl).online || (w.characters pl).guildId == 0
  | .request pl (.accept allowed) =>
    !(w.characters pl).online || (w.characters pl).guildId != 0 || !allowed ||
      (w.guilds[(w.characters pl).guildIdInvited]?).all fun g => 2 ≤ g.ranks.length
  | .request pl (.remove name) =>
    !(w.characters pl).online || (w.guildOf pl).all fun g =>
      !hasRankRight g.ranks (w.characters pl).rank grRightRemove ||
        (g.getMemberSlot name).all fun slot => slot.2.rankId == grGuildMaster || g.accountShared slot.1
  | .request pl .leave =>
    !(w.characters pl).online || (w.guildOf pl).all fun g => pl == g.leaderGuid || g.accountShared pl
  | .request pl (.leader name) =>
    !(w.characters pl).online || (w.guildOf pl).all fun g =>
      pl != g.leaderGuid || (g.getMemberSlot name).all fun slot => slot.1 != pl && 2 ≤ g.ranks.length
  | .request pl .delRank =>
    !(w.characters pl).online || (w.guildOf pl).all fun g => pl != g.leaderGuid || !g.lowestRankHeld
  | _ => true

/-- **The claim about a state**: every guild is in order, a player online has the guild's id exactly when he
is in its member list, and his rank is the list's. -/
structure GuildsStand (w : GuildWorld) : Prop where
  orderly : ∀ (gid : Nat) (g : Guild), w.guilds[gid]? = some g → g.Orderly
  own : ∀ (gid : Nat) (g : Guild) (pl : Nat), w.guilds[gid]? = some g → (w.characters pl).online = true →
    ((w.characters pl).guildId = gid ↔ (g.member pl).isSome) ∧
      ∀ m, g.member pl = some m → m.rankId = (w.characters pl).rank
  accounts : ∀ (gid : Nat) (g : Guild) (pl : Nat) (m : GuildMemberSlot), w.guilds[gid]? = some g →
    g.member pl = some m → m.accountId = (w.characters pl).accountId

variable {w}

theorem standing_of_member {gid pl : Nat} {g : Guild} {m : GuildMemberSlot} (hg : w.guilds[gid]? = some g)
    (hm : g.member pl = some m) : w.standing gid pl = some (m.rankId, m.accountId) := by
  unfold standing
  rw [hg, Option.bind_some, hm]
  rfl

theorem Sound.guildsStand (hs : w.Sound) : w.GuildsStand := by
  refine ⟨hs.orderly, fun gid g pl hg hon => ⟨⟨fun he => ?_, fun hm => ?_⟩, fun m hm => ?_⟩, fun gid g pl m hg hm => ?_⟩
  · have hof : w.guildOf pl = some g := by
      unfold guildOf
      rw [he]
      exact hg
    obtain ⟨m, hm, -⟩ := hs.member_of_guildOf hon hof
    rw [hm]; rfl
  · obtain ⟨m, hm⟩ := Option.isSome_iff_exists.1 hm
    exact (((hs.inStep pl).own hon gid m.rankId).1 ⟨_, standing_of_member hg hm⟩).2.1
  · exact (((hs.inStep pl).own hon gid m.rankId).1 ⟨_, standing_of_member hg hm⟩).2.2.symm
  · exact (hs.inStep pl).account gid _ (standing_of_member hg hm)

/-! ## Creating and joining -/

theorem Sound.create (hs : w.Sound) {pl : Nat} (hon : (w.characters pl).online = true) (name : String) :
    (w.handleGuildCreate pl name).1.Sound := by
  unfold handleGuildCreate
  split
  · exact hs
  next h0 =>
  split
  · exact hs
  simp only
  generalize hg0 : ({ name := name, leaderGuid := pl } : Guild).createDefaultGuildRanks = g0
  have hempty : ∀ x, g0.member x = none := fun x => by
    rw [← hg0]
    exact TreeMap.getElem?_emptyc
  generalize hw1 : ({ w with guilds := w.guilds.insert w.nextGuildId g0, nextGuildId := w.nextGuildId + 1 } : GuildWorld) = w1
  have hget : ∀ k : Nat, w1.guilds[k]? = if w.nextGuildId = k then some g0 else w.guilds[k]? := fun k => by
    rw [← hw1]
    simp [TreeMap.getElem?_insert]
  have hfree : w.guilds[w.nextGuildId]? = none := by
    cases hk : w.guilds[w.nextGuildId]? with
    | none => rfl
    | some g => exact absurd (hs.ids _ g hk).2 (Nat.lt_irrefl _)
  have hst : ∀ k x, w1.standing k x = w.standing k x := by
    intro k x
    unfold standing
    rw [hget]
    split
    · next hk =>
      rw [← hk, hfree, Option.bind_some, hempty]
      rfl
    · rfl
  have hchar : w1.characters = w.characters := by rw [← hw1]
  have hrows : w1.guildMember = w.guildMember := by rw [← hw1]
  have hin : ∀ x, w1.InStep x := fun x =>
    (hs.inStep x).congr (fun k => hst k x) (fun _ _ => by rw [hrows]) (by rw [hchar]) fun hon => by
      rw [hchar] at hon ⊢
      exact ⟨hon, rfl, rfl⟩
  have hnext : w1.nextGuildId = w.nextGuildId + 1 := by rw [← hw1]
  have hsound1 : ∀ w', w1.addMember w.nextGuildId pl grGuildMaster = some w' → w'.Sound := by
    intro w' ha
    have hself := fun k => addMember_guilds ha k
    have hgu : ∀ k, w'.guilds[k]? = if w.nextGuildId = k then some ((g0.setMember pl
        { accountId := (w.characters pl).accountId, name := (w.characters pl).name,
          rankId := grGuildMaster }).updateAccountsNumber) else w.guilds[k]? := by
      intro k
      rw [(hself k).2, hget]
      split
      · rw [hchar]; rfl
      · rfl
    refine ⟨?_, fun k g hk => ?_, fun x => ?_, fun k g hk => ?_⟩
    · rw [(hself 0).1, hnext]
      exact Nat.succ_ne_zero _
    · rw [(hself 0).1, hnext]
      rw [hgu] at hk
      split at hk
      · next he =>
        subst he
        exact ⟨hs.next, Nat.lt_succ_self _⟩
      · exact ⟨(hs.ids k g hk).1, Nat.lt_succ_of_lt (hs.ids k g hk).2⟩
    · exact addMember_inStep ha hs.next (by rw [hget, if_pos rfl]; rfl)
        (fun k => (hst k pl).trans (hs.no_standing hon (by simpa using h0) k)) hin x
    · rw [hgu] at hk
      split at hk
      · cases hk
        rw [← hg0]
        exact Guild.founded_orderly name pl _ rfl
      · exact hs.orderly k g hk
  cases ha : w1.addMember w.nextGuildId pl grGuildMaster with
  | some w' => exact hsound1 w' ha
  | none => exact ⟨Nat.succ_ne_zero _, fun k g hk => ⟨(hs.ids k g hk).1, Nat.lt_succ_of_lt (hs.ids k g hk).2⟩,
      fun x => (hs.inStep x).congr (fun _ => rfl) (fun _ _ => Iff.rfl) rfl fun hon => ⟨hon, rfl, rfl⟩, hs.orderly⟩

theorem Sound.accept (hs : w.Sound) {pl : Nat} (hon : (w.characters pl).online = true) (allowed : Bool)
    (hh : w.heedful (.request pl (.accept allowed)) = true) : (w.handleGuildAccept pl allowed).1.Sound := by
  unfold handleGuildAccept
  simp only
  split
  · exact hs
  next g hg =>
  split
  · exact hs
  next hfree =>
  rw [not_or] at hfree
  have h0 : (w.characters pl).guildId = 0 := by simpa using hfree.1
  have h2 : 2 ≤ g.ranks.length := by
    simpa [heedful, hon, h0, hg, Bool.eq_true_of_not_eq_false hfree.2] using hh
  have hno := hs.no_standing hon h0
  cases ha : w.addMember (w.characters pl).guildIdInvited pl g.getLowestRank with
  | none => exact hs
  | some w' =>
    have hself := fun k => addMember_guilds ha k
    have hlow : g.getLowestRank = g.ranks.length - 1 := sub32_eq _ _ (by omega)
    refine hs.replace _ hg (fun k => ?_) (hself 0).1
      (fun x => addMember_inStep ha (hs.ids _ g hg).1 (by rw [hg]; rfl) hno hs.inStep x)
      ((hs.orderly _ g hg).join pl
        { accountId := (w.characters pl).accountId, name := (w.characters pl).name, rankId := g.getLowestRank } ?_ ?_ ?_)
    · rw [(hself k).2]
      split
      · next he => rw [← he, hg]; rfl
      · rfl
    · cases hm : g.member pl with
      | none => rfl
      | some m =>
        have := hno (w.characters pl).guildIdInvited
        rw [standing_of_member hg hm] at this
        cases this
    · show g.getLowestRank ≠ 0
      omega
    · show g.getLowestRank < g.ranks.length
      omega

/-! ## Acting on a member -/

theorem Sound.onMember (hs : w.Sound) {pl right : Nat} {name : String}
    {act : Nat → Guild → Nat × GuildMemberSlot → Option GuildWorld}
    (h : ∀ g slot w', w.guildOf pl = some g → hasRankRight g.ranks (w.characters pl).rank right = true →
      g.getMemberSlot name = some slot → act (w.characters pl).guildId g slot = some w' → w'.Sound) :
    (w.onMember pl right name act).1.Sound := by
  unfold GuildWorld.onMember
  split
  · exact hs
  next g hg =>
  split
  · exact hs
  next hr =>
  split
  · exact hs
  next slot hslot =>
  split
  · exact hs
  next w' hact => exact h g slot w' hg (Bool.eq_true_of_not_eq_false hr) hslot hact

theorem Sound.eraseMember (hs : w.Sound) {gid guid : Nat} {g : Guild} (hg : w.guilds[gid]? = some g)
    (hm : (g.member guid).isSome) (hne : guid ≠ g.leaderGuid) (hsh : g.accountShared guid = true) :
    (w.eraseMember gid guid).Sound := by
  refine hs.replace (g.eraseMember guid) hg (fun k => ?_) ?_ (fun x => ?_) ((hs.orderly gid g hg).erase guid hne hsh)
  · rw [eraseMember_guilds, modifyGuild_guilds]
    split
    · next he => rw [← he, hg]; rfl
    · rfl
  · unfold GuildWorld.eraseMember
    simp only [modifyOnline_nextGuildId]
    rfl
  · refine eraseMember_inStep gid guid ?_ hs.inStep x
    rw [standing_isSome gid guid g hg]
    exact hm

theorem Sound.changeRank (hs : w.Sound) {gid guid rank : Nat} {g : Guild} (hg : w.guilds[gid]? = some g)
    (hm : (g.member guid).isSome) (hne : guid ≠ g.leaderGuid) (h0 : rank ≠ grGuildMaster) (hlt : rank < g.ranks.length) :
    (w.changeRank gid guid rank).Sound := by
  refine hs.replace (g.modifyMember guid fun m => { m with rankId := rank }) hg (fun k => ?_) ?_ (fun x => ?_)
    ((hs.orderly gid g hg).changeRank guid rank hne h0 hlt)
  · rw [changeRank_guilds, modifyGuild_guilds]
    split
    · next he => rw [← he, hg]; rfl
    · rfl
  · unfold GuildWorld.changeRank
    simp only [modifyOnline_nextGuildId]
    rfl
  · refine changeRank_inStep gid guid rank ?_ hs.inStep x
    rw [standing_isSome gid guid g hg]
    exact hm

theorem Sound.remove (hs : w.Sound) {pl : Nat} (hon : (w.characters pl).online = true) (name : String)
    (hh : w.heedful (.request pl (.remove name)) = true) : (w.handleGuildRemove pl name).1.Sound := by
  refine hs.onMember fun g slot w' hg hr hslot hact => ?_
  split at hact
  · cases hact
  next hmaster =>
  cases hact
  have hm := Guild.getMemberSlot_eq_some name slot hslot
  have hg' : w.guilds[(w.characters pl).guildId]? = some g := hg
  have ho := hs.orderly _ g hg'
  have hne : slot.1 ≠ g.leaderGuid := fun hc => hmaster ((ho.master _ _ hm).2 hc)
  have hsh : g.accountShared slot.1 = true := by
    simpa [heedful, hon, hg, hr, hslot, hmaster] using hh
  unfold delMember
  rw [hg']
  simp only
  rw [if_neg fun hc => hne hc.symm]
  exact hs.eraseMember hg' (by rw [hm]; rfl) hne hsh

theorem Sound.promote (hs : w.Sound) (pl : Nat) (name : String) : (w.handleGuildPromote pl name).1.Sound := by
  refine hs.onMember fun g slot w' hg hr hslot hact => ?_
  split at hact
  · cases hact
  split at hact
  · cases hact
  next hrank =>
  rw [not_or, Nat.not_lt, Nat.not_lt] at hrank
  cases hact
  have hm := Guild.getMemberSlot_eq_some name slot hslot
  have hg' : w.guilds[(w.characters pl).guildId]? = some g := hg
  have ho := hs.orderly _ g hg'
  have hlt := ho.ranked _ _ hm
  have hne : slot.1 ≠ g.leaderGuid := fun hc => by
    have := (ho.master _ _ hm).2 hc
    rw [this] at hrank
    exact absurd hrank.1 (by decide)
  rw [if_pos hlt]
  exact hs.changeRank hg' (by rw [hm]; rfl) hne (by show _ ≠ 0; omega) (by omega)

theorem Sound.demote (hs : w.Sound) (pl : Nat) (name : String) : (w.handleGuildDemote pl name).1.Sound := by
  refine hs.onMember fun g slot w' hg hr hslot hact => ?_
  split at hact
  · cases hact
  split at hact
  · cases hact
  next hrank =>
  rw [not_or, Nat.not_le, Nat.not_le] at hrank
  cases hact
  have hm := Guild.getMemberSlot_eq_some name slot hslot
  have hg' : w.guilds[(w.characters pl).guildId]? = some g := hg
  have ho := hs.orderly _ g hg'
  have hlt := ho.ranked _ _ hm
  have hfew := ho.few
  have hu : u32 (slot.2.rankId + 1) = slot.2.rankId + 1 := u32_eq _ (by omega)
  have hne : slot.1 ≠ g.leaderGuid := fun hc => by
    have := (ho.master _ _ hm).2 hc
    rw [this] at hrank
    exact absurd hrank.2 (Nat.not_lt_zero _)
  rw [hu] at hrank ⊢
  exact hs.changeRank hg' (by rw [hm]; rfl) hne (Nat.succ_ne_zero _) hrank.1

theorem Sound.note (hs : w.Sound) {gid guid : Nat} {g : Guild} (hg : w.guilds[gid]? = some g)
    (f : GuildMemberSlot → GuildMemberSlot) (hf : ∀ m, (f m).accountId = m.accountId ∧ (f m).rankId = m.rankId) :
    (w.modifyGuild gid fun g => g.modifyMember guid f).Sound := by
  refine hs.modifyGuild hg (fun x => ?_) ((hs.orderly gid g hg).note guid f hf)
  rw [Guild.modifyMember_member]
  split
  · rw [Option.map_map]
    congr 1
    funext m
    exact Prod.ext (hf m).2 (hf m).1
  · rfl

theorem Sound.setPublicNote (hs : w.Sound) (pl : Nat) (name note : String) :
    (w.handleGuildSetPublicNote pl name note).1.Sound := by
  refine hs.onMember fun g slot w' hg hr hslot hact => ?_
  cases hact
  exact hs.note hg _ fun _ => ⟨rfl, rfl⟩

theorem Sound.setOfficerNote (hs : w.Sound) (pl : Nat) (name note : String) :
    (w.handleGuildSetOfficerNote pl name note).1.Sound := by
  refine hs.onMember fun g slot w' hg hr hslot hact => ?_
  cases hact
  exact hs.note hg _ fun _ => ⟨rfl, rfl⟩

/-! ## Leaving -/

theorem Sound.leave (hs : w.Sound) {pl : Nat} (hon : (w.characters pl).online = true)
    (hh : w.heedful (.request pl .leave) = true) : (w.handleGuildLeave pl).1.Sound := by
  unfold handleGuildLeave
  split
  · exact hs
  next g hg =>
  simp only
  split
  · exact hs
  split
  · exact hs.disband _
  next hne =>
  have hg' : w.guilds[(w.characters pl).guildId]? = some g := hg
  obtain ⟨m, hm, -⟩ := hs.member_of_guildOf hon hg
  have hsh : g.accountShared pl = true := by
    simpa [heedful, hon, hg, hne] using hh
  unfold delMember
  rw [hg']
  simp only
  rw [if_neg fun hc => hne hc.symm]
  exact hs.eraseMember hg' (by rw [hm]; rfl) hne hsh

/-! ## The leader's requests -/

theorem Sound.asLeader (hs : w.Sound) {pl : Nat} {act : Nat → Guild → Option GuildWorld}
    (h : ∀ g w', w.guildOf pl = some g → pl = g.leaderGuid → act (w.characters pl).guildId g = some w' → w'.Sound) :
    (w.asLeader pl act).1.Sound := by
  unfold GuildWorld.asLeader
  split
  · exact hs
  next g hg =>
  split
  · exact hs
  next hl =>
  split
  · exact hs
  next w' hact => exact h g w' hg (not_not.1 hl) hact

theorem Sound.leader (hs : w.Sound) {pl : Nat} (hon : (w.characters pl).online = true) (name : String)
    (hh : w.heedful (.request pl (.leader name)) = true) : (w.handleGuildLeader pl name).1.Sound := by
  refine hs.asLeader fun g w' hg hl hact => ?_
  obtain ⟨slot, hslot, rfl⟩ := Option.map_eq_some_iff.1 hact
  have hm := Guild.getMemberSlot_eq_some name slot hslot
  have hg' : w.guilds[(w.characters pl).guildId]? = some g := hg
  obtain ⟨hne, h2⟩ : slot.1 ≠ pl ∧ 2 ≤ g.ranks.length := by
    simpa [heedful, hon, hg, ← hl, hslot] using hh
  generalize hgid : (w.characters pl).guildId = gid at hg'
  -- the two steps: the leader's guid, then the ranks of the new leader and of the old one
  have hstand0 : ∀ k x, (w.modifyGuild gid fun g => g.setLeader slot.1).standing k x = w.standing k x := by
    intro k x
    by_cases hk : k = gid
    · rw [hk, standing_modifyGuild_self]
      rfl
    · unfold standing
      rw [modifyGuild_guilds, if_neg fun hc => hk hc.symm]
  have hin0 : ∀ x, (w.modifyGuild gid fun g => g.setLeader slot.1).InStep x := fun x =>
    (hs.inStep x).congr (fun k => hstand0 k x) (fun _ _ => Iff.rfl) rfl fun hon => ⟨hon, rfl, rfl⟩
  have hsome : (w.standing gid slot.1).isSome ∧ (w.standing gid pl).isSome := by
    obtain ⟨ml, hml⟩ := (hs.orderly gid g hg').leader
    exact ⟨by rw [standing_of_member hg' hm]; rfl, by rw [hl, standing_of_member hg' hml]; rfl⟩
  have hin1 := changeRank_inStep gid slot.1 grGuildMaster (by rw [hstand0]; exact hsome.1) hin0
  have hin2 := changeRank_inStep gid pl grOfficer
    (by rw [standing_changeRank, if_neg fun hc => hne hc.2.symm, hstand0]; exact hsome.2) hin1
  refine hs.replace (((g.setLeader slot.1).modifyMember slot.1 fun m =>
      { m with rankId := grGuildMaster }).modifyMember pl fun m => { m with rankId := grOfficer }) hg' (fun k => ?_) ?_ hin2 ?_
  · unfold setLeader
    rw [changeRank_guilds, modifyGuild_guilds, changeRank_guilds, modifyGuild_guilds, modifyGuild_guilds]
    split
    · next he => rw [← he, hg']; rfl
    · rfl
  · unfold setLeader GuildWorld.changeRank
    simp only [modifyOnline_nextGuildId]
    rfl
  · rw [hl]
    exact (hs.orderly gid g hg').handOver slot.1 (fun hc => hne (hc.trans hl.symm)) (by rw [hm]; rfl) h2

theorem Sound.ranks (hs : w.Sound) {pl : Nat} {g : Guild} {f : Guild → Guild} (hg : w.guildOf pl = some g)
    (ranks : List RankInfo) (hf : f g = { g with ranks := ranks }) (hfew : ranks.length < 4294967296)
    (hr : ∀ guid m, g.member guid = some m → m.rankId < ranks.length) :
    (w.modifyGuild (w.characters pl).guildId f).Sound := by
  refine hs.modifyGuild (g := g) hg (fun x => by rw [hf]; rfl) ?_
  rw [hf]
  exact (hs.orderly _ g hg).withRanks hfew hr

theorem Sound.addRank (hs : w.Sound) (pl : Nat) : (w.handleGuildAddRank pl).1.Sound := by
  refine hs.asLeader fun g w' hg hl hact => ?_
  split at hact
  · cases hact
  next hmax =>
  cases hact
  have ho := hs.orderly _ g hg
  refine hs.ranks hg (g.ranks ++ [{ rights := grRightGChatListen ||| grRightGChatSpeak, bankMoneyPerDay := 0 }])
    (by unfold Guild.createRank; exact if_neg hmax) ?_ fun guid m hm => ?_
  · rw [List.length_append, List.length_singleton]
    have : g.ranks.length < 10 := Nat.not_le.1 hmax
    omega
  · rw [List.length_append]
    exact Nat.lt_add_right _ (ho.ranked guid m hm)

theorem Sound.delRank (hs : w.Sound) {pl : Nat} (hon : (w.characters pl).online = true)
    (hh : w.heedful (.request pl .delRank) = true) : (w.handleGuildDelRank pl).1.Sound := by
  refine hs.asLeader fun g w' hg hl hact => ?_
  cases hact
  have ho := hs.orderly _ g hg
  have hheld : g.lowestRankHeld = false := by
    simpa [heedful, hon, hg, hl.symm] using hh
  refine hs.ranks hg g.ranks.dropLast rfl ?_ fun guid m hm => ?_
  · rw [List.length_dropLast]
    have := ho.few
    omega
  · rw [List.length_dropLast]
    have h1 := ho.ranked guid m hm
    have h2 := Guild.lowestRankHeld_eq_false hheld guid m hm
    omega

theorem Sound.editRank (hs : w.Sound) (pl rankId rights money : Nat) :
    (w.handleGuildRank pl rankId rights money).1.Sound := by
  refine hs.asLeader fun g w' hg hl hact => ?_
  cases hact
  have ho := hs.orderly _ g hg
  refine hs.ranks hg _ rfl ?_ fun guid m hm => ?_
  · simp only [Guild.setBankMoneyPerDay, List.length_modify]
    exact ho.few
  · simp only [Guild.setBankMoneyPerDay, List.length_modify]
    exact ho.ranked guid m hm

/-! ## The other requests -/

theorem Sound.onText (hs : w.Sound) (pl right : Nat) (f : Guild → Guild)
    (hf : ∀ g, (f g).leaderGuid = g.leaderGuid ∧ (f g).ranks = g.ranks ∧ (f g).members = g.members ∧
      (f g).accountsNumber = g.accountsNumber) : (w.onText pl right f).1.Sound := by
  unfold GuildWorld.onText
  split
  · exact hs
  next g hg =>
  split
  · exact hs
  obtain ⟨h1, h2, h3, h4⟩ := hf g
  have ho := hs.orderly _ g hg
  have hmem : ∀ x, (f g).member x = g.member x := fun x => by
    unfold Guild.member
    rw [h3]
  refine hs.modifyGuild (g := g) hg (fun x => by rw [hmem]) (ho.congr h1 (by rw [h2]; exact ho.few) h4
    (fun x => by rw [hmem]) fun guid m hm => ?_)
  rw [hmem] at hm
  exact ⟨⟨m, hm, rfl⟩, by rw [h2]; exact ho.ranked guid m hm⟩

theorem Sound.invite (hs : w.Sound) (pl player : Nat) (allowed : Bool) :
    (w.handleGuildInvite pl player allowed).1.Sound := by
  unfold handleGuildInvite
  split
  · exact hs
  simp only
  split
  · exact hs
  split
  · exact hs
  split
  · exact hs
  exact hs.setCharacter player _ rfl fun hon => ⟨hon, rfl, rfl⟩

theorem Sound.login_own (hs : w.Sound) (pl : Nat) :
    ((w.login pl).characters pl).accountId = (w.characters pl).accountId ∧ ∀ gid rank,
      (∃ a, w.standing gid pl = some (rank, a)) ↔
        gid ≠ 0 ∧ ((w.login pl).characters pl).guildId = gid ∧ ((w.login pl).characters pl).rank = rank := by
  have h := hs.inStep pl
  have hid : ∀ gid s, w.standing gid pl = some s → gid ≠ 0 ∧ (w.guilds[gid]?).isSome := by
    intro gid s hst
    unfold standing at hst
    cases hg : w.guilds[gid]? with
    | none => rw [hg] at hst; cases hst
    | some g => exact ⟨(hs.ids gid g hg).1, rfl⟩
  have hself : ∀ p, (w.setCharacter pl p).characters pl = p := fun p => Function.update_self ..
  unfold GuildWorld.login
  simp only [hself]
  cases hrow : w.rowOf pl with
  | some row =>
    have hguid : row.guid = pl := by simpa using List.find?_some hrow
    obtain ⟨a, ha⟩ := (h.rows row.guildId row.rank).1 (hguid ▸ List.mem_of_find?_eq_some hrow)
    obtain ⟨h0, hsome⟩ := hid _ _ ha
    simp only [Option.isNone_eq_false_iff.2 hsome, Bool.false_eq_true, if_false, true_and]
    intro gid rank
    constructor
    · rintro ⟨a', ha'⟩
      obtain rfl := h.once gid row.guildId _ _ ha' ha
      rw [ha] at ha'
      exact ⟨h0, rfl, (Prod.mk.inj (Option.some.inj ha')).1⟩
    · rintro ⟨-, rfl, rfl⟩
      exact ⟨a, ha⟩
  | none =>
    have hnone : ∀ gid s, w.standing gid pl ≠ some s := by
      intro gid s hst
      have hmem := (h.rows gid s.1).2 ⟨s.2, hst⟩
      exact List.find?_eq_none.1 hrow _ hmem (by simp)
    simp only
    generalize hp1 : (if (w.characters pl).guildId ≠ 0 then
      ({ w.characters pl with guildId := 0, rank := 0 } : GuildCharacter) else w.characters pl) = p1
    have h1 : p1.guildId = 0 ∧ p1.accountId = (w.characters pl).accountId := by
      rw [← hp1]
      split
      · exact ⟨rfl, rfl⟩
      · next h0 => exact ⟨not_not.1 h0, rfl⟩
    have h2 : (if (w.guilds[p1.guildId]?).isNone then ({ p1 with guildId := 0 } : GuildCharacter) else p1).guildId = 0 ∧
        (if (w.guilds[p1.guildId]?).isNone then ({ p1 with guildId := 0 } : GuildCharacter) else p1).accountId =
          (w.characters pl).accountId := by
      split
      · exact ⟨rfl, h1.2⟩
      · exact h1
    rw [h2.1, h2.2]
    exact ⟨rfl, fun gid rank => ⟨fun ⟨a, ha⟩ => absurd ha (hnone gid _), fun ⟨h0, he, _⟩ => absurd he.symm h0⟩⟩

theorem Sound.login (hs : w.Sound) (pl : Nat) : (w.login pl).Sound := by
  obtain ⟨hacc, hown⟩ := hs.login_own pl
  refine ⟨hs.next, hs.ids, fun x => ?_, hs.orderly⟩
  by_cases hx : x = pl
  · subst hx
    have h := hs.inStep x
    exact ⟨fun gid s hst => (h.account gid s hst).trans hacc.symm, h.rows, h.once, fun _ gid rank => hown gid rank⟩
  · have hsame : (w.login pl).characters x = w.characters x := Function.update_of_ne hx ..
    exact (hs.inStep x).congr (fun _ => rfl) (fun _ _ => Iff.rfl) (by rw [hsame]) fun hon => by
      rw [hsame] at hon ⊢
      exact ⟨hon, rfl, rfl⟩

/-- **One event** keeps the world of guilds sound. -/
theorem Sound.step (hs : w.Sound) (e : GuildEvent) (hh : w.heedful e = true) : (w.step e).Sound := by
  cases e with
  | login pl =>
    unfold GuildWorld.step
    simp only
    split
    · exact hs
    · exact hs.login pl
  | logout pl => exact hs.setCharacter pl _ rfl nofun
  | request pl r =>
    unfold GuildWorld.step
    simp only
    split
    · next hon =>
      cases r with
      | create name => exact hs.create hon name
      | invite player allowed => exact hs.invite pl player allowed
      | accept allowed => exact hs.accept hon allowed hh
      | decline =>
        have h0 : (w.characters pl).guildId = 0 := by simpa [heedful, hon] using hh
        exact hs.setCharacter pl _ rfl fun hon => ⟨hon, h0.symm, rfl⟩
      | remove name => exact hs.remove hon name hh
      | leave => exact hs.leave hon hh
      | promote name => exact hs.promote pl name
      | demote name => exact hs.demote pl name
      | leader name => exact hs.leader hon name hh
      | addRank => exact hs.addRank pl
      | delRank => exact hs.delRank hon hh
      | editRank rankId rights money => exact hs.editRank pl rankId rights money
      | disband =>
        exact hs.asLeader fun g w' _ _ hact => Option.some.inj hact ▸ hs.disband _
      | setMOTD text => exact hs.onText pl _ _ fun _ => ⟨rfl, rfl, rfl, rfl⟩
      | setPublicNote name note => exact hs.setPublicNote pl name note
      | setOfficerNote name note => exact hs.setOfficerNote pl name note
      | changeInfo text => exact hs.onText pl _ _ fun _ => ⟨rfl, rfl, rfl, rfl⟩
    · exact hs

/-- **All guilds are in order all along** a run without the harmful requests. -/
theorem guilds_orderly (w : GuildWorld) (hs : w.Sound) (es : List GuildEvent)
    (hh : Transition.Along step (fun w e => w.heedful e = true) w es) :
    w.GuildsStand ∧ Transition.Along step (fun w e => (w.step e).GuildsStand) w es :=
  ⟨hs.guildsStand, Transition.along_of_invariant (fun _ e hs hh => hs.step e hh)
    (fun _ e hs hh => (hs.step e hh).guildsStand) hs hh⟩

/-! ### A guild of four -/

/-- Four players online, the first two on one account. -/
def sampleWorld : GuildWorld where
  characters x :=
    match x with
    | 1 => { name := "Ada", accountId := 7, online := true }
    | 2 => { name := "Bea", accountId := 7, online := true }
    | 3 => { name := "Cid", accountId := 8, online := true }
    | 4 => { name := "Dan", accountId := 9, online := true }
    | _ => {}

theorem sampleWorld_sound : sampleWorld.Sound := by
  have hno : ∀ gid : Nat, sampleWorld.guilds[gid]? = none := fun gid => TreeMap.getElem?_emptyc
  have hst : ∀ gid x s, sampleWorld.standing gid x ≠ some s := by
    intro gid x s h
    unfold standing at h
    rw [hno] at h
    cases h
  refine ⟨by decide, fun gid g hg => ?_, fun x => ⟨fun gid s h => absurd h (hst gid x s), fun gid rank => ?_,
    fun gid _ s _ h => absurd h (hst gid x s), fun hon gid rank => ?_⟩, fun gid g hg => ?_⟩
  · rw [hno] at hg; cases hg
  · exact ⟨nofun, fun ⟨a, h⟩ => absurd h (hst gid x _)⟩
  · refine ⟨fun ⟨a, h⟩ => absurd h (hst gid x _), fun ⟨h0, he, _⟩ => absurd ?_ h0⟩
    rw [← he]
    unfold sampleWorld
    dsimp only
    split <;> rfl
  · rw [hno] at hg; cases hg

/-- A guild is founded; two join, one is promoted and led to the top, the founder leaves. -/
def sampleEvents : List GuildEvent :=
  [.request 1 (.create "Order"), .request 1 (.invite 2 true), .request 2 (.accept true), .request 1 (.invite 3 true),
    .request 3 (.accept true), .logout 3, .request 1 (.promote "Cid"), .request 1 (.leader "Cid"), .login 3,
    .request 1 .leave, .request 3 .addRank, .request 3 .delRank]

theorem guilds_orderly_sample : sampleWorld.GuildsStand ∧
    Transition.Along step (fun w e => (w.step e).GuildsStand) sampleWorld sampleEvents :=
  guilds_orderly sampleWorld sampleWorld_sound sampleEvents (by decide)

/-- A leader who declines an invitation is in no guild for himself, and leads one. -/
theorem decline_fails : ¬ ∀ (w : GuildWorld), w.Sound → ∀ e, (w.step e).GuildsStand := by
  intro h
  have hs := sampleWorld_sound.step (.request 1 (.create "Order")) (by decide)
  have hstand := h _ hs (.request 1 .decline)
  have hm : (((sampleWorld.step (.request 1 (.create "Order"))).step (.request 1 .decline)).guilds[1]?.bind
      fun g => g.member 1).isSome := by decide
  obtain ⟨m, hm⟩ := Option.isSome_iff_exists.1 hm
  obtain ⟨g, hg, hm⟩ := Option.bind_eq_some_iff.1 hm
  have hid := ((hstand.own 1 g 1 hg (by decide)).1).2 (by rw [hm]; rfl)
  exact absurd hid (by decide)

end GuildWorld

end BlizzLike
