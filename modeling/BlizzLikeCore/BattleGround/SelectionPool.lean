import Mathlib.Algebra.BigOperators.Group.List.Basic
import Mathlib.Algebra.GroupWithZero.Nat
import Mathlib.Data.List.Perm.Subperm

/-!
# Selecting groups for a battleground

`SelectionPool::Build` selects groups that wait in a queue until there are `MinPlayers` players and never
more than `MaxPlayers`.  It takes the first group that fits, tries to go on with those behind it, and takes
the group out again when that fails.

    build_spec    : what a call does to any selection, by induction over the groups that are left
    build_selects : from an empty selection it finds a selection with enough players whenever there is one

It always selects a group: with `MinPlayers = 0` and none that fits, it fails (`build_empty_fails`).
-/

namespace BlizzLike

/-! ## Algorithm -/

/-- The address of a queued group. -/
abbrev GroupRef := Nat

/-- A group in the queue (`Players` by their guids). -/
structure GroupQueueInfo where
  players : List Nat
  team : Nat
  bgTypeId : Nat
  isRated : Bool
  arenaType : Nat
  arenaTeamId : Nat
  joinTime : Nat
  isInvitedToBGInstanceGUID : Nat
  arenaTeamRating : Nat

/-- What `EligibleGroups::Init` asks of a group. -/
structure GroupFilter where
  bgTypeId : Nat
  side : Nat
  maxPlayers : Nat
  arenaType : Nat
  isRated : Bool
  minRating : Nat
  maxRating : Nat
  disregardTime : Nat
  excludeTeam : Nat

def GroupFilter.passes (f : GroupFilter) (g : GroupQueueInfo) : Bool :=
  g.bgTypeId == f.bgTypeId && g.arenaType == f.arenaType && g.isRated == f.isRated &&
    g.isInvitedToBGInstanceGUID == 0 && g.team == f.side && g.players.length ≤ f.maxPlayers &&
    (f.excludeTeam == 0 || g.arenaTeamId != f.excludeTeam) &&
    (!f.isRated || g.players.length == f.maxPlayers) &&
    (f.disregardTime == 0 || g.joinTime ≤ f.disregardTime || g.arenaTeamRating == 0 ||
      (f.minRating ≤ g.arenaTeamRating && g.arenaTeamRating ≤ f.maxRating))

/-- The groups that are selected so far, and their players. -/
structure SelectionPool where
  selectedGroups : List GroupRef
  playerCount : UInt32
deriving DecidableEq

section

variable (info : GroupRef → GroupQueueInfo)

/-- `EligibleGroups::Init`. -/
def eligibleGroups (f : GroupFilter) (source : List GroupRef) : List GroupRef :=
  source.filter fun g => f.passes (info g)

/-- The players of some groups. -/
def playersOf (groups : List GroupRef) : Nat := (groups.map fun g => (info g).players.length).sum

namespace SelectionPool

def init : SelectionPool := ⟨[], 0⟩

def addGroup (pool : SelectionPool) (ginfo : GroupRef) : SelectionPool where
  selectedGroups := pool.selectedGroups ++ [ginfo]
  playerCount := pool.playerCount + UInt32.ofNat (info ginfo).players.length

def removeGroup (pool : SelectionPool) (ginfo : GroupRef) : SelectionPool :=
  if ginfo ∈ pool.selectedGroups then
    { selectedGroups := pool.selectedGroups.erase ginfo
      playerCount := pool.playerCount - UInt32.ofNat (info ginfo).players.length }
  else pool

/-- `Build`, from `startitr` to the end of the eligible groups. -/
def build (minPlayers maxPlayers : UInt32) : List GroupRef → SelectionPool → Bool × SelectionPool
  | [], pool => (false, pool)
  | g :: next, pool =>
    if pool.playerCount.toNat + (info g).players.length ≤ maxPlayers.toNat then
      let added := pool.addGroup info g
      if minPlayers ≤ added.playerCount then (true, added)
      else
        match build minPlayers maxPlayers next added with
        | (true, built) => (true, built)
        -- the loop goes on behind the group that has been removed
        | (false, built) => build minPlayers maxPlayers next (built.removeGroup info g)
    else build minPlayers maxPlayers next pool

end SelectionPool

end

/-! ## Lemmas -/

section

variable {info : GroupRef → GroupQueueInfo}

@[simp] theorem playersOf_nil : playersOf info [] = 0 := rfl

@[simp] theorem playersOf_cons (g : GroupRef) (groups : List GroupRef) :
    playersOf info (g :: groups) = (info g).players.length + playersOf info groups := by
  simp [playersOf]

@[simp] theorem playersOf_append (groups more : List GroupRef) :
    playersOf info (groups ++ more) = playersOf info groups + playersOf info more := by
  simp [playersOf]

theorem playersOf_perm {groups groups' : List GroupRef} (h : groups.Perm groups') :
    playersOf info groups = playersOf info groups' :=
  (h.map _).sum_eq

namespace SelectionPool

variable (info) in
/-- `PlayerCount` is the number of players selected. -/
def Counts (pool : SelectionPool) : Prop := pool.playerCount.toNat = playersOf info pool.selectedGroups

theorem Counts.addGroup {pool : SelectionPool} (h : pool.Counts info) {g : GroupRef} {maxPlayers : UInt32}
    (hfits : pool.playerCount.toNat + (info g).players.length ≤ maxPlayers.toNat) :
    (pool.addGroup info g).Counts info := by
  have hmax : maxPlayers.toNat < 4294967296 := maxPlayers.toNat_lt
  simp only [Counts, SelectionPool.addGroup, UInt32.toNat_add, UInt32.toNat_ofNat', playersOf_append, playersOf_cons,
    playersOf_nil]
  rw [← h]
  omega

/-- Taking out a group that was added last, and maybe has been moved to the front since. -/
theorem Counts.removeGroup {pool built : SelectionPool} (hbuilt : built.Counts info)
    {g : GroupRef} (hsame : built.selectedGroups.Perm (pool.selectedGroups ++ [g])) :
    (built.removeGroup info g).selectedGroups.Perm pool.selectedGroups ∧ (built.removeGroup info g).Counts info := by
  have hmem : g ∈ built.selectedGroups := hsame.mem_iff.2 (by simp)
  have hperm : built.selectedGroups.Perm (g :: pool.selectedGroups) := hsame.trans (List.perm_append_singleton g _)
  have herase : (built.selectedGroups.erase g).Perm pool.selectedGroups := by
    simpa using hperm.erase g
  have hcount : built.playerCount.toNat = (info g).players.length + playersOf info pool.selectedGroups := by
    rw [hbuilt, playersOf_perm hperm, playersOf_cons]
  have hlt : built.playerCount.toNat < 4294967296 := built.playerCount.toNat_lt
  unfold SelectionPool.removeGroup
  rw [if_pos hmem]
  refine ⟨herase, ?_⟩
  simp only [Counts, UInt32.toNat_sub, UInt32.toNat_ofNat', playersOf_perm herase]
  omega

variable (info) in
/-- The group sizes fit: a selection that adds `groups` to what is selected is one to look for. -/
def Enough (minPlayers maxPlayers : UInt32) (groups : List GroupRef) : Prop :=
  minPlayers.toNat ≤ playersOf info groups ∧ playersOf info groups ≤ maxPlayers.toNat

variable (info) in
/-- What `Build` returns: it has added some of the groups so that there are enough players; or no choice of them
would do, and the selection is as it was but for its order. -/
def Settles (minPlayers maxPlayers : UInt32) (eligible : List GroupRef) (pool : SelectionPool) :
    Bool × SelectionPool → Prop
  | (true, built) => built.Counts info ∧ Enough info minPlayers maxPlayers built.selectedGroups ∧
      ∃ s, s.Sublist eligible ∧ s ≠ [] ∧ built.selectedGroups.Perm (pool.selectedGroups ++ s)
  | (false, built) => built.Counts info ∧ built.selectedGroups.Perm pool.selectedGroups ∧
      ∀ s, s.Sublist eligible → s ≠ [] → ¬ Enough info minPlayers maxPlayers (pool.selectedGroups ++ s)

variable (info) in
/-- **One call of `Build`**, from any selection that is counted. -/
theorem build_spec (minPlayers maxPlayers : UInt32) (eligible : List GroupRef) (pool : SelectionPool)
    (h : pool.Counts info) :
    Settles info minPlayers maxPlayers eligible pool (build info minPlayers maxPlayers eligible pool) := by
  induction eligible generalizing pool with
  | nil => exact ⟨h, .rfl, fun s hs hne => absurd (List.sublist_nil.1 hs) hne⟩
  | cons g next ih =>
    unfold build
    split
    · next hfits =>
      have hadded : (pool.addGroup info g).Counts info := h.addGroup hfits
      have htotal : playersOf info (pool.selectedGroups ++ [g]) ≤ maxPlayers.toNat := by
        rw [playersOf_append, ← h]
        simpa using hfits
      dsimp only
      split
      · next hmin =>
        refine ⟨hadded, ⟨?_, htotal⟩, [g], by simp, by simp, .rfl⟩
        exact hadded ▸ UInt32.le_iff_toNat_le.1 hmin
      · next hmin =>
        have hfew : ¬ minPlayers.toNat ≤ playersOf info (pool.selectedGroups ++ [g]) := by
          intro hle
          exact hmin (UInt32.le_iff_toNat_le.2 (hadded.symm ▸ hle))
        have hrest := ih (pool.addGroup info g) hadded
        split
        · next built heq =>
          rw [heq] at hrest
          obtain ⟨hcounts, henough, s, hs, -, hperm⟩ := hrest
          refine ⟨hcounts, henough, g :: s, hs.cons_cons g, by simp, ?_⟩
          simpa [SelectionPool.addGroup] using hperm
        · next built heq =>
          rw [heq] at hrest
          obtain ⟨hcounts, hperm, hnone⟩ := hrest
          obtain ⟨hback, hcounts⟩ := hcounts.removeGroup hperm
          have hlater := ih (built.removeGroup info g) hcounts
          -- with the group nothing is enough; so it is as without it
          generalize build info minPlayers maxPlayers next (built.removeGroup info g) = r at hlater ⊢
          obtain ⟨found, built'⟩ := r
          cases found with
          | true =>
            obtain ⟨hc, he, s, hs, hne, hp⟩ := hlater
            exact ⟨hc, he, s, hs.cons g, hne, hp.trans (hback.append_right s)⟩
          | false =>
            obtain ⟨hc, hp, hn⟩ := hlater
            refine ⟨hc, hp.trans hback, fun s hs hne hsum => ?_⟩
            cases hs with
            | cons _ hs =>
              refine hn s hs hne ?_
              unfold Enough at hsum ⊢
              rwa [playersOf_perm (hback.append_right s)]
            | cons_cons _ hs =>
              next s =>
              cases s with
              | nil => exact hfew hsum.1
              | cons g' s =>
                refine hnone (g' :: s) hs (by simp) ?_
                simpa [SelectionPool.addGroup] using hsum
    · next hfits =>
      have hrest := ih pool h
      generalize build info minPlayers maxPlayers next pool = r at hrest ⊢
      obtain ⟨found, built⟩ := r
      cases found with
      | true =>
        obtain ⟨hc, he, s, hs, hne, hp⟩ := hrest
        exact ⟨hc, he, s, hs.cons g, hne, hp⟩
      | false =>
        obtain ⟨hc, hp, hn⟩ := hrest
        refine ⟨hc, hp, fun s hs hne hsum => ?_⟩
        cases hs with
        | cons _ hs => exact hn s hs hne hsum
        | cons_cons _ hs =>
          -- a group that does not fit is in no selection
          have hle := hsum.2
          rw [playersOf_append, playersOf_cons, ← h] at hle
          omega

/-! ## Result -/

/-- **`Build` finds a selection** with enough players if and only if some of the groups, at least one, make one.  It
selects such groups, no entry of the list twice, and counts their players; when it fails nothing stays selected. -/
theorem build_selects (info : GroupRef → GroupQueueInfo) (minPlayers maxPlayers : UInt32) (eligible : List GroupRef) :
    ((build info minPlayers maxPlayers eligible init).1 = true ↔
      ∃ s, s.Sublist eligible ∧ s ≠ [] ∧ Enough info minPlayers maxPlayers s) ∧
    ((build info minPlayers maxPlayers eligible init).1 = true →
      let built := (build info minPlayers maxPlayers eligible init).2
      built.selectedGroups.Subperm eligible ∧ (eligible.Nodup → built.selectedGroups.Nodup) ∧
        built.selectedGroups ≠ [] ∧ Enough info minPlayers maxPlayers built.selectedGroups ∧
        built.playerCount.toNat = playersOf info built.selectedGroups) ∧
    ((build info minPlayers maxPlayers eligible init).1 = false →
      (build info minPlayers maxPlayers eligible init).2 = init) := by
  have hspec := build_spec info minPlayers maxPlayers eligible init rfl
  generalize build info minPlayers maxPlayers eligible init = r at hspec ⊢
  obtain ⟨found, built⟩ := r
  cases found with
  | true =>
    obtain ⟨hcounts, henough, s, hs, hne, hperm⟩ := hspec
    have hperm : built.selectedGroups.Perm s := hperm
    refine ⟨⟨fun _ => ⟨s, hs, hne, ?_⟩, fun _ => rfl⟩, fun _ => ⟨⟨s, hperm.symm, hs⟩, ?_, ?_, henough, hcounts⟩, nofun⟩
    · unfold Enough at henough ⊢
      rwa [← playersOf_perm hperm]
    · intro hnodup
      exact hperm.nodup_iff.2 (hnodup.sublist hs)
    · intro hnil
      rw [hnil] at hperm
      exact hne hperm.nil_eq.symm
  | false =>
    obtain ⟨hcounts, hperm, hnone⟩ := hspec
    have hnil : built.selectedGroups = [] := hperm.eq_nil
    refine ⟨⟨nofun, fun ⟨s, hs, hne, he⟩ => absurd he (hnone s hs hne)⟩, nofun, fun _ => ?_⟩
    have hzero : built.playerCount = 0 := by
      unfold Counts at hcounts
      rw [hnil] at hcounts
      exact UInt32.toNat_inj.1 hcounts
    obtain ⟨selected, count⟩ := built
    cases hnil
    cases hzero
    rfl

/-- With no group that fits even no players are not enough. -/
theorem build_empty_fails : ¬ ∀ (info : GroupRef → GroupQueueInfo) (minPlayers maxPlayers : UInt32)
    (eligible : List GroupRef), minPlayers ≤ maxPlayers →
      ((build info minPlayers maxPlayers eligible init).1 = true ↔
        ∃ s, s.Sublist eligible ∧ Enough info minPlayers maxPlayers s) := by
  intro h
  have hbuild := (h (fun _ => ⟨[], 0, 0, false, 0, 0, 0, 0, 0⟩) 0 10 [] (by decide)).2
    ⟨[], List.Sublist.refl [], by decide, by decide⟩
  exact absurd hbuild (by decide)

/-- Groups of 3, 4 and 2 players where 6 are needed: the first does not go with the second. -/
example : build (fun g => ⟨List.replicate g 0, 0, 0, false, 0, 0, 0, 0, 0⟩) 6 6 [3, 4, 2] init =
    (true, ⟨[4, 2], 6⟩) := by decide

end SelectionPool

end

end BlizzLike
