import BlizzLikeCore.Guild.GuildOrder
import Mathlib.Data.Nat.Bitwise

/-!
# The rights of ranks

`HasRankRight` asks if a rank's mask has more of a right than the bit all rights share, or less.
So it says yes to a rank that has that bit not, or that is gone, and always for a right that
is without the bit itself, as the one to withdraw gold.  It is right about a rank if and only if the
rank has all of the right or just the shared bit (`hasRankRight_exact_iff`), and as long as it is,
nobody acts whose rank was not granted the right (`only_granted_act`).

A leader keeps it so by leaving every rank the shared bit and every member his rank
(`rights_stay_decided`).
-/

namespace BlizzLike

/-! ## The test and what it should say -/

/-- The rank exists, and its mask has every bit of the right. -/
def granted (ranks : List RankInfo) (rankId right : Nat) : Bool :=
  (ranks[rankId]?).any fun r => r.rights &&& right == right

/-- A rank that `HasRankRight` judges well: it has all of a right or just the shared bit of it. -/
def decided (ranks : List RankInfo) (rankId right : Nat) : Bool :=
  right != grRightEmpty && (granted ranks rankId right || rightsOfRank ranks rankId &&& right == grRightEmpty)

/-- The right that the handler of a request asks for. -/
def GuildRequest.right : GuildRequest → Option Nat
  | .invite _ _ => some grRightInvite
  | .remove _ => some grRightRemove
  | .promote _ => some grRightPromote
  | .demote _ => some grRightDemote
  | .setMOTD _ => some grRightSetMOTD
  | .setPublicNote _ _ => some grRightEPNote
  | .setOfficerNote _ _ => some grRightEOffNote
  | .changeInfo _ => some grRightModifyGuildInfo
  | .create _ | .accept _ | .decline | .leave | .leader _ | .addRank | .delRank | .editRank _ _ _ | .disband => none

theorem granted_iff (ranks : List RankInfo) (rankId right : Nat) :
    granted ranks rankId right = true ↔ rankId < ranks.length ∧ rightsOfRank ranks rankId &&& right = right := by
  unfold granted rightsOfRank
  cases h : ranks[rankId]? with
  | none =>
    rw [List.getElem?_eq_none_iff] at h
    simp [Nat.not_lt.2 h]
  | some r =>
    obtain ⟨hlt, -⟩ := List.getElem?_eq_some_iff.1 h
    simp [hlt]

theorem rightsOfRank_of_length_le {ranks : List RankInfo} {rankId : Nat} (h : ranks.length ≤ rankId) :
    rightsOfRank ranks rankId = 0 := by
  unfold rightsOfRank
  rw [List.getElem?_eq_none_iff.2 h]
  rfl

/-- **When the test is right**: just for the ranks it judges well. -/
theorem hasRankRight_exact_iff (ranks : List RankInfo) (rankId right : Nat) :
    (hasRankRight ranks rankId right = true ↔ granted ranks rankId right = true) ↔
      decided ranks rankId right = true := by
  have hg := granted_iff ranks rankId right
  have hgone := @rightsOfRank_of_length_le ranks rankId
  unfold decided hasRankRight
  rw [bne_iff_ne, Bool.and_eq_true, bne_iff_ne, Bool.or_eq_true, beq_iff_eq]
  cases hgr : granted ranks rankId right with
  | true =>
    rw [(hg.1 hgr).2]
    simp
  | false =>
    -- a rank that is there and was not granted the shared bit alone lacks that bit
    have hbase : rightsOfRank ranks rankId &&& right = grRightEmpty → right ≠ grRightEmpty := by
      rintro he rfl
      by_cases hlt : rankId < ranks.length
      · rw [hg.2 ⟨hlt, he⟩] at hgr
        cases hgr
      · rw [hgone (Nat.not_lt.1 hlt)] at he
        cases he
    simp only [Bool.false_eq_true, iff_false, not_not, false_or]
    exact ⟨fun he => ⟨hbase he, he⟩, fun h => h.2⟩

theorem granted_of_hasRankRight {ranks : List RankInfo} {rankId right : Nat} (hd : decided ranks rankId right = true)
    (h : hasRankRight ranks rankId right = true) : granted ranks rankId right = true :=
  ((hasRankRight_exact_iff ranks rankId right).2 hd).1 h

/-- With the shared bit in a rank's mask, the test is right about every right that has one bit more. -/
theorem decided_of_base {ranks : List RankInfo} {rankId : Nat} (bit : Nat)
    (hb : rightsOfRank ranks rankId &&& grRightEmpty = grRightEmpty) (hne : grRightEmpty ||| 2 ^ bit ≠ grRightEmpty) :
    decided ranks rankId (grRightEmpty ||| 2 ^ bit) = true := by
  have hlt : rankId < ranks.length := by
    by_contra hlt
    rw [rightsOfRank_of_length_le (Nat.not_lt.1 hlt)] at hb
    cases hb
  have hand : rightsOfRank ranks rankId &&& (grRightEmpty ||| 2 ^ bit) =
      grRightEmpty ||| ((rightsOfRank ranks rankId).testBit bit).toNat * 2 ^ bit := by
    rw [Nat.and_or_distrib_left, hb, Nat.and_two_pow]
  unfold decided
  rw [Bool.and_eq_true, bne_iff_ne, Bool.or_eq_true, beq_iff_eq]
  refine ⟨hne, ?_⟩
  cases hbit : (rightsOfRank ranks rankId).testBit bit with
  | true =>
    rw [hbit] at hand
    exact Or.inl ((granted_iff ..).2 ⟨hlt, by simpa using hand⟩)
  | false =>
    rw [hbit] at hand
    exact Or.inr (by simpa using hand)

namespace GuildWorld

open Std

variable (w : GuildWorld)

/-! ## Who acts -/

/-- The test is right about all players online, in the guild they are in or a member of. -/
def RightDecided (right : Nat) : Prop :=
  ∀ (gid : Nat) (g : Guild) (pl : Nat), w.guilds[gid]? = some g → (w.characters pl).online = true →
    ((w.characters pl).guildId = gid ∨ (g.member pl).isSome) → decided g.ranks (w.characters pl).rank right = true

/-- **The claim about a state**: a player for whom a guarded handler acts was granted the right,
and so were those who speak and those who hear. -/
structure OnlyGrantedAct (w : GuildWorld) (right : Nat) : Prop where
  request : ∀ pl r, (w.characters pl).online = true → r.right = some right → (w.handle pl r).2 = true →
    ∃ g, w.guildOf pl = some g ∧ granted g.ranks (w.characters pl).rank right = true
  speak : ∀ pl listen ignores x, (w.characters pl).online = true → x ∈ w.hearers pl right listen ignores →
    ∃ g, w.guildOf pl = some g ∧ granted g.ranks (w.characters pl).rank right = true
  listen : ∀ pl speak ignores x, x ∈ w.hearers pl speak right ignores →
    ∃ g, w.guildOf pl = some g ∧ (g.member x).isSome ∧ granted g.ranks (w.characters x).rank right = true

variable {w}

theorem onMember_acts {pl right : Nat} {name : String} {act : Nat → Guild → Nat × GuildMemberSlot → Option GuildWorld}
    (h : (w.onMember pl right name act).2 = true) :
    ∃ g, w.guildOf pl = some g ∧ hasRankRight g.ranks (w.characters pl).rank right = true := by
  unfold onMember at h
  split at h
  · cases h
  next g hg =>
  split at h
  · cases h
  next hr => exact ⟨g, hg, Bool.eq_true_of_not_eq_false hr⟩

theorem onText_acts {pl right : Nat} {f : Guild → Guild} (h : (w.onText pl right f).2 = true) :
    ∃ g, w.guildOf pl = some g ∧ hasRankRight g.ranks (w.characters pl).rank right = true := by
  unfold onText at h
  split at h
  · cases h
  next g hg =>
  split at h
  · cases h
  next hr => exact ⟨g, hg, Bool.eq_true_of_not_eq_false hr⟩

theorem handleGuildInvite_acts {pl player : Nat} {allowed : Bool} (h : (w.handleGuildInvite pl player allowed).2 = true) :
    ∃ g, w.guildOf pl = some g ∧ hasRankRight g.ranks (w.characters pl).rank grRightInvite = true := by
  unfold handleGuildInvite at h
  split at h
  · cases h
  next g hg =>
  simp only at h
  split at h
  · cases h
  split at h
  · cases h
  split at h
  · cases h
  next hr => exact ⟨g, hg, Bool.eq_true_of_not_eq_false hr⟩

/-- **Every guarded handler** acts only if the test says so. -/
theorem handle_acts {pl right : Nat} {r : GuildRequest} (hr : r.right = some right) (h : (w.handle pl r).2 = true) :
    ∃ g, w.guildOf pl = some g ∧ hasRankRight g.ranks (w.characters pl).rank right = true := by
  cases r <;> cases hr
  case invite => exact handleGuildInvite_acts h
  case remove => exact onMember_acts h
  case promote => exact onMember_acts h
  case demote => exact onMember_acts h
  case setPublicNote => exact onMember_acts h
  case setOfficerNote => exact onMember_acts h
  case setMOTD => exact onText_acts h
  case changeInfo => exact onText_acts h

theorem mem_hearers {pl speak listen x : Nat} {ignores : Nat → Bool} (h : x ∈ w.hearers pl speak listen ignores) :
    ∃ g, w.guildOf pl = some g ∧ hasRankRight g.ranks (w.characters pl).rank speak = true ∧ (g.member x).isSome ∧
      (w.characters x).online = true ∧ hasRankRight g.ranks (w.characters x).rank listen = true := by
  unfold hearers at h
  split at h
  · cases h
  next g hg =>
  split at h
  · next hs =>
    obtain ⟨hm, hx⟩ := List.mem_filter.1 h
    rw [Bool.and_eq_true, Bool.and_eq_true] at hx
    exact ⟨g, hg, hs, TreeMap.mem_iff_isSome_getElem?.1 (TreeMap.mem_keys.1 hm), hx.1.1, hx.1.2⟩
  · cases h

theorem RightDecided.onlyGrantedAct {right : Nat} (h : w.RightDecided right) : w.OnlyGrantedAct right := by
  refine ⟨fun pl r hon hr hact => ?_, fun pl listen ignores x hon hx => ?_, fun pl speak ignores x hx => ?_⟩
  · obtain ⟨g, hg, hright⟩ := handle_acts hr hact
    exact ⟨g, hg, granted_of_hasRankRight (h _ g pl hg hon (Or.inl rfl)) hright⟩
  · obtain ⟨g, hg, hright, -, -, -⟩ := mem_hearers hx
    exact ⟨g, hg, granted_of_hasRankRight (h _ g pl hg hon (Or.inl rfl)) hright⟩
  · obtain ⟨g, hg, -, hm, hon, hright⟩ := mem_hearers hx
    exact ⟨g, hg, hm, granted_of_hasRankRight (h _ g x hg hon (Or.inr hm)) hright⟩

end GuildWorld

theorem GuildBank.handleGuildBankWithdraw_acts {b : GuildBank} {pl money now : Nat} {nearBank : Bool}
    (h : (b.handleGuildBankWithdraw pl money nearBank now).2 = true) :
    BlizzLike.hasRankRight b.ranks (b.players pl).rank grRightWithdrawGold = true := by
  unfold GuildBank.handleGuildBankWithdraw at h
  split at h
  · cases h
  split at h
  · cases h
  split at h
  · cases h
  split at h
  · cases h
  split at h
  · cases h
  next hr => exact Bool.eq_true_of_not_eq_false hr

namespace GuildWorld

open Std

/-! ## Ranks that stay judged well -/

/-- Every rank has the bit that all rights share. -/
def Based (w : GuildWorld) : Prop :=
  ∀ (gid : Nat) (g : Guild), w.guilds[gid]? = some g → ∀ (i : Nat) (r : RankInfo), g.ranks[i]? = some r →
    r.rights &&& grRightEmpty = grRightEmpty

/-- An edit of a rank that leaves it the bit that all rights share. -/
def keepsBase : GuildEvent → Bool
  | .request _ (.editRank rankId rights _) => rankId == grGuildMaster || rights &&& grRightEmpty == grRightEmpty
  | _ => true

/-- The guilds are, or were before, those of another world, with their ranks. -/
def RanksFrom (w' w : GuildWorld) : Prop :=
  ∀ (k : Nat) (g' : Guild), w'.guilds[k]? = some g' → ∃ g, w.guilds[k]? = some g ∧ g'.ranks = g.ranks

variable {w w' w'' : GuildWorld}

theorem RanksFrom.refl (w : GuildWorld) : w.RanksFrom w := fun _ g hg => ⟨g, hg, rfl⟩

theorem RanksFrom.trans (h' : w''.RanksFrom w') (h : w'.RanksFrom w) : w''.RanksFrom w := fun k g'' hg'' => by
  obtain ⟨g', hg', he'⟩ := h' k g'' hg''
  obtain ⟨g, hg, he⟩ := h k g' hg'
  exact ⟨g, hg, he'.trans he⟩

theorem RanksFrom.of_guilds (h : w'.guilds = w.guilds) : w'.RanksFrom w := fun k g hg => ⟨g, by rw [← h]; exact hg, rfl⟩

theorem modifyGuild_ranksFrom (gid : Nat) {f : Guild → Guild} (hf : ∀ g, (f g).ranks = g.ranks) :
    (w.modifyGuild gid f).RanksFrom w := by
  intro k g' hg'
  rw [modifyGuild_guilds] at hg'
  split at hg'
  · obtain ⟨g, hg, rfl⟩ := Option.map_eq_some_iff.1 hg'
    exact ⟨g, hg, hf g⟩
  · exact ⟨g', hg', rfl⟩

theorem changeRank_ranksFrom (gid guid rank : Nat) : (w.changeRank gid guid rank).RanksFrom w :=
  (RanksFrom.of_guilds (changeRank_guilds gid guid rank)).trans (modifyGuild_ranksFrom gid fun _ => rfl)

theorem setLeader_ranksFrom (gid guid : Nat) : (w.setLeader gid guid).RanksFrom w :=
  (changeRank_ranksFrom gid guid grGuildMaster).trans (modifyGuild_ranksFrom gid fun _ => rfl)

theorem eraseMember_ranksFrom (gid guid : Nat) : (w.eraseMember gid guid).RanksFrom w :=
  (RanksFrom.of_guilds (eraseMember_guilds gid guid)).trans (modifyGuild_ranksFrom gid fun _ => rfl)

theorem disband_ranksFrom (gid : Nat) : (w.disband gid).RanksFrom w := by
  unfold disband
  split
  · exact RanksFrom.refl w
  next g hg =>
  have hfold : ∀ (l : List Nat) (w : GuildWorld), (l.foldl (fun w guid => w.eraseMember gid guid) w).RanksFrom w := by
    intro l
    induction l with
    | nil => exact fun w => RanksFrom.refl w
    | cons guid l ih => exact fun w => (ih _).trans (eraseMember_ranksFrom gid guid)
  refine RanksFrom.trans (fun k g' hg' => ?_) (hfold g.members.keys w)
  simp only [TreeMap.getElem?_erase] at hg'
  split at hg'
  · cases hg'
  · exact ⟨g', hg', rfl⟩

theorem delMember_ranksFrom (gid guid : Nat) : (w.delMember gid guid).RanksFrom w := by
  unfold delMember
  split
  · exact RanksFrom.refl w
  split
  · split
    · exact disband_ranksFrom gid
    · exact (eraseMember_ranksFrom gid guid).trans ((RanksFrom.of_guilds (modifyOnline_guilds ..)).trans
        (setLeader_ranksFrom gid _))
  · exact eraseMember_ranksFrom gid guid

theorem addMember_ranksFrom {gid guid rank : Nat} (h : w.addMember gid guid rank = some w') : w'.RanksFrom w := by
  intro k g' hg'
  rw [(addMember_guilds h k).2] at hg'
  split at hg'
  · obtain ⟨g, hg, rfl⟩ := Option.map_eq_some_iff.1 hg'
    exact ⟨g, hg, rfl⟩
  · exact ⟨g', hg', rfl⟩

theorem onMember_ranksFrom {pl right : Nat} {name : String} {act : Nat → Guild → Nat × GuildMemberSlot → Option GuildWorld}
    (h : ∀ gid g slot w', act gid g slot = some w' → w'.RanksFrom w) : (w.onMember pl right name act).1.RanksFrom w := by
  unfold onMember
  split
  · exact RanksFrom.refl w
  split
  · exact RanksFrom.refl w
  split
  · exact RanksFrom.refl w
  split
  · exact RanksFrom.refl w
  next w' hact => exact h _ _ _ w' hact

theorem onText_ranksFrom {pl right : Nat} {f : Guild → Guild} (hf : ∀ g, (f g).ranks = g.ranks) :
    (w.onText pl right f).1.RanksFrom w := by
  unfold onText
  split
  · exact RanksFrom.refl w
  split
  · exact RanksFrom.refl w
  exact modifyGuild_ranksFrom _ hf

theorem Based.of_ranksFrom (hb : w.Based) (h : w'.RanksFrom w) : w'.Based := fun k g' hg' i r hr => by
  obtain ⟨g, hg, he⟩ := h k g' hg'
  exact hb k g hg i r (he ▸ hr)

theorem Based.modifyGuild (hb : w.Based) (gid : Nat) {f : Guild → Guild}
    (hf : ∀ g, w.guilds[gid]? = some g → ∀ (i : Nat) (r : RankInfo), (f g).ranks[i]? = some r →
      r.rights &&& grRightEmpty = grRightEmpty) : (w.modifyGuild gid f).Based := by
  intro k g' hg' i r hr
  rw [modifyGuild_guilds] at hg'
  split at hg'
  · next hk =>
    subst hk
    obtain ⟨g, hg, rfl⟩ := Option.map_eq_some_iff.1 hg'
    exact hf g hg i r hr
  · exact hb k g' hg' i r hr

theorem Based.asLeader (hb : w.Based) {pl : Nat} {act : Nat → Guild → Option GuildWorld}
    (h : ∀ g w', w.guildOf pl = some g → act (w.characters pl).guildId g = some w' → w'.Based) :
    (w.asLeader pl act).1.Based := by
  unfold GuildWorld.asLeader
  split
  · exact hb
  next g hg =>
  split
  · exact hb
  split
  · exact hb
  next w' hact => exact h g w' hg hact

theorem Based.create (hb : w.Based) (pl : Nat) (name : String) : (w.handleGuildCreate pl name).1.Based := by
  unfold handleGuildCreate
  split
  · exact hb
  split
  · exact hb
  simp only
  generalize hg0 : ({ name := name, leaderGuid := pl } : Guild).createDefaultGuildRanks = g0
  have hranks : ∀ (i : Nat) (r : RankInfo), g0.ranks[i]? = some r → r.rights &&& grRightEmpty = grRightEmpty := by
    have hall : ∀ r ∈ (({ name := "", leaderGuid := 0 } : Guild).createDefaultGuildRanks).ranks,
        r.rights &&& grRightEmpty = grRightEmpty := by decide
    intro i r hr
    rw [← hg0] at hr
    exact hall r (List.mem_of_getElem? hr)
  split
  · exact hb
  next w1 ha =>
  refine Based.of_ranksFrom (fun k g hg i r hr => ?_) (addMember_ranksFrom ha)
  simp only [TreeMap.getElem?_insert, LawfulEqCmp.compare_eq_iff_eq] at hg
  split at hg
  · cases hg
    exact hranks i r hr
  · exact hb k g hg i r hr

theorem Based.addRank (hb : w.Based) (pl : Nat) : (w.handleGuildAddRank pl).1.Based := by
  refine hb.asLeader fun g w' hg hact => ?_
  split at hact
  · cases hact
  cases hact
  refine hb.modifyGuild _ fun g hg i r hr => ?_
  unfold Guild.createRank at hr
  split at hr
  · exact hb _ g hg i r hr
  rcases List.mem_append.1 (List.mem_of_getElem? hr) with hmem | hmem
  · obtain ⟨j, hj⟩ := List.getElem?_of_mem hmem
    exact hb _ g hg j r hj
  · rw [List.mem_singleton.1 hmem]
    decide

theorem Based.delRank (hb : w.Based) (pl : Nat) : (w.handleGuildDelRank pl).1.Based := by
  refine hb.asLeader fun g w' hg hact => ?_
  cases hact
  refine hb.modifyGuild _ fun g hg i r hr => ?_
  obtain ⟨j, hj⟩ := List.getElem?_of_mem (List.dropLast_subset _ (List.mem_of_getElem? hr))
  exact hb _ g hg j r hj

theorem Based.editRank (hb : w.Based) (pl rankId rights money : Nat)
    (hk : keepsBase (.request pl (.editRank rankId rights money)) = true) :
    (w.handleGuildRank pl rankId rights money).1.Based := by
  refine hb.asLeader fun g w' hg hact => ?_
  cases hact
  refine hb.modifyGuild _ fun g hg i r hr => ?_
  generalize hmask : (if rankId = grGuildMaster then rights ||| grRightAll else rights) = mask at hr
  have hbase : mask &&& grRightEmpty = grRightEmpty := by
    rw [← hmask]
    split
    · rw [Nat.and_or_distrib_right, show grRightAll &&& grRightEmpty = grRightEmpty from by decide, Nat.or_comm]
      refine Nat.eq_of_testBit_eq fun j => ?_
      rw [Nat.testBit_or, Nat.testBit_and]
      cases Nat.testBit grRightEmpty j <;> simp
    · next hne =>
      rw [keepsBase, Bool.or_eq_true, beq_iff_eq, beq_iff_eq] at hk
      exact hk.resolve_left hne
  unfold Guild.setRankRights Guild.setBankMoneyPerDay at hr
  simp only [List.getElem?_modify] at hr
  cases hold : g.ranks[i]? with
  | none => rw [hold] at hr; cases hr
  | some old =>
    rw [hold] at hr
    cases hr
    have := hb _ g hg i old hold
    by_cases hi : rankId = i
    · simpa [hi] using hbase
    · simpa [hi] using this

/-- **One event** leaves every rank the shared bit. -/
theorem Based.step (hb : w.Based) (e : GuildEvent) (hk : keepsBase e = true) : (w.step e).Based := by
  cases e with
  | login pl =>
    unfold GuildWorld.step
    simp only
    split
    · exact hb
    · exact hb.of_ranksFrom (RanksFrom.of_guilds rfl)
  | logout pl => exact hb.of_ranksFrom (RanksFrom.of_guilds rfl)
  | request pl r =>
    unfold GuildWorld.step
    simp only
    split
    · cases r with
      | create name => exact hb.create pl name
      | invite player allowed =>
        refine hb.of_ranksFrom ?_
        unfold handle handleGuildInvite
        simp only
        split
        · exact RanksFrom.refl w
        split
        · exact RanksFrom.refl w
        split
        · exact RanksFrom.refl w
        split
        · exact RanksFrom.refl w
        exact RanksFrom.of_guilds rfl
      | accept allowed =>
        refine hb.of_ranksFrom ?_
        unfold handle handleGuildAccept
        simp only
        split
        · exact RanksFrom.refl w
        split
        · exact RanksFrom.refl w
        split
        · exact RanksFrom.refl w
        next ha => exact addMember_ranksFrom ha
      | decline => exact hb.of_ranksFrom (RanksFrom.of_guilds rfl)
      | remove name =>
        refine hb.of_ranksFrom (onMember_ranksFrom fun gid g slot w' hact => ?_)
        split at hact
        · cases hact
        · exact Option.some.inj hact ▸ delMember_ranksFrom gid slot.1
      | leave =>
        refine hb.of_ranksFrom ?_
        unfold handle handleGuildLeave
        simp only
        split
        · exact RanksFrom.refl w
        split
        · exact RanksFrom.refl w
        split
        · exact disband_ranksFrom _
        · exact delMember_ranksFrom _ pl
      | promote name =>
        refine hb.of_ranksFrom (onMember_ranksFrom fun gid g slot w' hact => ?_)
        split at hact
        · cases hact
        split at hact
        · cases hact
        exact Option.some.inj hact ▸ changeRank_ranksFrom gid slot.1 _
      | demote name =>
        refine hb.of_ranksFrom (onMember_ranksFrom fun gid g slot w' hact => ?_)
        split at hact
        · cases hact
        split at hact
        · cases hact
        exact Option.some.inj hact ▸ changeRank_ranksFrom gid slot.1 _
      | leader name =>
        refine hb.asLeader fun g w' _ hact => ?_
        obtain ⟨slot, -, rfl⟩ := Option.map_eq_some_iff.1 hact
        exact hb.of_ranksFrom ((changeRank_ranksFrom _ pl grOfficer).trans (setLeader_ranksFrom _ slot.1))
      | addRank => exact hb.addRank pl
      | delRank => exact hb.delRank pl
      | editRank rankId rights money => exact hb.editRank pl rankId rights money hk
      | disband =>
        refine hb.asLeader fun g w' _ hact => ?_
        exact Option.some.inj hact ▸ hb.of_ranksFrom (disband_ranksFrom _)
      | setMOTD text => exact hb.of_ranksFrom (onText_ranksFrom fun _ => rfl)
      | setPublicNote name note =>
        exact hb.of_ranksFrom (onMember_ranksFrom fun gid g slot w' hact =>
          Option.some.inj hact ▸ modifyGuild_ranksFrom gid fun _ => rfl)
      | setOfficerNote name note =>
        exact hb.of_ranksFrom (onMember_ranksFrom fun gid g slot w' hact =>
          Option.some.inj hact ▸ modifyGuild_ranksFrom gid fun _ => rfl)
      | changeInfo text => exact hb.of_ranksFrom (onText_ranksFrom fun _ => rfl)
    · exact hb

/-- In a sound world whose ranks all have the shared bit the test is right about all who are online. -/
theorem Based.rightDecided (hb : w.Based) (hs : w.Sound) (bit : Nat) (hne : grRightEmpty ||| 2 ^ bit ≠ grRightEmpty) :
    w.RightDecided (grRightEmpty ||| 2 ^ bit) := by
  intro gid g pl hg hon hin
  have hstand := hs.guildsStand.own gid g pl hg hon
  have hm : (g.member pl).isSome := hin.elim hstand.1.1 id
  obtain ⟨m, hm⟩ := Option.isSome_iff_exists.1 hm
  have hlt := (hs.orderly gid g hg).ranked pl m hm
  rw [hstand.2 m hm] at hlt
  refine decided_of_base bit ?_ hne
  unfold rightsOfRank
  rw [List.getElem?_eq_getElem hlt]
  exact hb gid g hg _ _ (List.getElem?_eq_getElem hlt)

/-- **The test stays right** about every right of the shared bit and one more, along a run that keeps guilds
in order and leaves every rank the shared bit. -/
theorem rights_stay_decided (hs : w.Sound) (hb : w.Based) (es : List GuildEvent)
    (hh : Transition.Along step (fun w e => w.heedful e = true ∧ keepsBase e = true) w es) (bit : Nat)
    (hne : grRightEmpty ||| 2 ^ bit ≠ grRightEmpty) :
    Transition.Along step (fun w _ => w.RightDecided (grRightEmpty ||| 2 ^ bit)) w es :=
  Transition.along_of_invariant (I := fun w => w.Sound ∧ w.Based) (fun _ e h hh => ⟨h.1.step e hh.1, h.2.step e hh.2⟩)
    (fun _ _ h _ => h.2.rightDecided h.1 bit hne) ⟨hs, hb⟩ hh

/-! ## Who acts along a run -/

/-- **The rights of ranks**: the test is right about a rank if and only if the rank is one it judges
well; and where it judges well all who are online, nobody acts who was not granted the right, neither by a
request or in the chat, along any run, nor at the bank. -/
theorem only_granted_act (right : Nat) :
    (∀ ranks rankId, (hasRankRight ranks rankId right = true ↔ granted ranks rankId right = true) ↔
      decided ranks rankId right = true) ∧
    (∀ (w : GuildWorld) (es : List GuildEvent),
      Transition.Along step (fun w _ => w.RightDecided right) w es →
        Transition.Along step (fun w _ => w.OnlyGrantedAct right) w es) ∧
    ∀ (b : GuildBank) (pl money : Nat) (nearBank : Bool) (now : Nat),
      decided b.ranks (b.players pl).rank grRightWithdrawGold = true →
        (b.handleGuildBankWithdraw pl money nearBank now).2 = true →
          granted b.ranks (b.players pl).rank grRightWithdrawGold = true :=
  ⟨fun ranks rankId => hasRankRight_exact_iff ranks rankId right, fun _ _ h => h.mono fun _ _ hd => hd.onlyGrantedAct,
    fun _ _ _ _ _ hd h => granted_of_hasRankRight hd (GuildBank.handleGuildBankWithdraw_acts h)⟩

theorem sampleWorld_based : sampleWorld.Based := by
  intro gid g hg
  have hno : sampleWorld.guilds[gid]? = none := TreeMap.getElem?_emptyc
  rw [hno] at hg
  cases hg

theorem only_granted_act_sample :
    Transition.Along step (fun w _ => w.OnlyGrantedAct grRightInvite) sampleWorld sampleEvents :=
  (only_granted_act grRightInvite).2.1 sampleWorld sampleEvents
    (rights_stay_decided sampleWorld_sound sampleWorld_based sampleEvents (by decide) 4 (by decide))

/-- A rank from which the leader takes all rights, the shared bit included, may change the guild's text. -/
theorem ungranted_acts : ¬ ∀ (es : List GuildEvent) (right : Nat),
    (Transition.run step sampleWorld es).OnlyGrantedAct right := by
  intro h
  have hact := (h [.request 1 (.create "Order"), .request 1 (.invite 2 true), .request 2 (.accept true),
    .request 1 (.editRank 4 0 0)] grRightModifyGuildInfo).request 2 (.changeInfo "") (by decide) rfl (by decide)
  obtain ⟨g, hg, hgr⟩ := hact
  have hno : ((Transition.run step sampleWorld [.request 1 (.create "Order"), .request 1 (.invite 2 true),
      .request 2 (.accept true), .request 1 (.editRank 4 0 0)]).guildOf 2).all (fun g =>
        !granted g.ranks ((Transition.run step sampleWorld [.request 1 (.create "Order"), .request 1 (.invite 2 true),
          .request 2 (.accept true), .request 1 (.editRank 4 0 0)]).characters 2).rank grRightModifyGuildInfo) = true := by
    decide
  rw [hg, Option.all_some, hgr] at hno
  cases hno

end GuildWorld

end BlizzLike
