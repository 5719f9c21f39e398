import BlizzLikeCore.Item
import Mathlib.Data.List.Dedup
import Mathlib.Data.List.Sort

/-!
# Rolls

A group rolls for the items of a loot.  A `Roll` has the votes of the players who may take part
and four counters beside them; `RollId` is the vector of the rolls of a group.  Whether a roll is
still linked to a loot (`isValid`) and whether that loot has items are read from elsewhere and are
arguments here.
-/

namespace BlizzLike

inductive RollVote where
  | pass
  | need
  | greed
  | notEmitedYet
  | notValid
  deriving DecidableEq, Repr

/-- `Roll`; `fill` numbers the contents of the loot it is linked to. -/
structure Roll where
  itemGUID : Nat
  itemid : Nat
  itemSlot : Nat
  fill : Nat
  playerVote : List (Nat × RollVote) := []
  totalPlayersRolling : Nat := 0
  totalNeed : Nat := 0
  totalGreed : Nat := 0
  totalPass : Nat := 0
  deriving DecidableEq, Repr

/-- `--` on an `uint8`. -/
def dec8 (n : Nat) : Nat := u8 (n + 255)

namespace Roll

variable (r : Roll)

/-- `playerVote` of a new roll, a map in the order of the GUIDs. -/
def voters (rollers : List Nat) : List (Nat × RollVote) :=
  (rollers.dedup.insertionSort (· ≤ ·)).map fun pl => (pl, .notEmitedYet)

/-- A roll for the item at a slot. -/
def start (itemGUID itemid itemSlot fill : Nat) (rollers : List Nat) : Roll :=
  { itemGUID := itemGUID, itemid := itemid, itemSlot := itemSlot, fill := fill
    playerVote := voters rollers, totalPlayersRolling := u8 rollers.length }

/-- `playerVote.find`. -/
def voteOf (pl : Nat) : Option RollVote := (r.playerVote.find? fun v => v.1 == pl).map Prod.snd

/-- `itr->second = vote`. -/
def setVote (pl : Nat) (vote : RollVote) : List (Nat × RollVote) :=
  r.playerVote.map fun v => if v.1 = pl then (pl, vote) else v

/-- The switch of `CountRollVote`. -/
def record (pl choice : Nat) : Roll :=
  match choice with
  | 0 => { r with totalPass := u8 (r.totalPass + 1), playerVote := r.setVote pl .pass }
  | 1 => { r with totalNeed := u8 (r.totalNeed + 1), playerVote := r.setVote pl .need }
  | 2 => { r with totalGreed := u8 (r.totalGreed + 1), playerVote := r.setVote pl .greed }
  | _ => r

/-- The end of `CountRollVote`: everybody has voted. -/
def complete : Bool := r.totalPass + r.totalGreed + r.totalNeed ≥ r.totalPlayersRolling

/-- What `_removeRolls` does with a player's vote. -/
def leave (pl : Nat) (vote : RollVote) : Roll :=
  { r with
    totalGreed := if vote = .greed then dec8 r.totalGreed else r.totalGreed
    totalNeed := if vote = .need then dec8 r.totalNeed else r.totalNeed
    totalPass := if vote = .pass then dec8 r.totalPass else r.totalPass
    totalPlayersRolling := if vote ≠ .notValid then dec8 r.totalPlayersRolling else r.totalPlayersRolling
    playerVote := r.playerVote.filter fun v => v.1 != pl }

end Roll

/-- `RollId`. -/
abbrev Rolls := List Roll

namespace Rolls

variable (rolls : Rolls) (isValid itemsEmpty : Roll → Bool)

def getRoll (guid : Nat) : Option Roll := rolls.find? fun r => r.itemGUID == guid && isValid r

/-- `RollId.erase`. -/
def erase (r : Roll) : Rolls := rolls.filter fun q => q.itemGUID != r.itemGUID

/-- `CountRollVote` up to its call of `CountTheRoll`: the rolls, and the one to be counted. -/
def castVote (pl guid choice : Nat) : Rolls × Option Roll :=
  match getRoll rolls isValid guid with
  | none => (rolls, none)
  | some r =>
    if r.voteOf pl = none then (rolls, none)
    else if itemsEmpty r then (rolls, none)
    else
      let r' := r.record pl choice
      (rolls.map fun q => if q.itemGUID = guid then r' else q, if r'.complete then some r' else none)

/-- One round of `_removeRolls`: the rolls, and those that were counted. -/
def removeVoter (pl : Nat) (acc : Rolls × List Roll) (i : Nat) : Rolls × List Roll :=
  match acc.1[i]? with
  | none => acc
  | some roll =>
    match roll.voteOf pl with
    | none => acc
    | some vote =>
      match castVote (acc.1.set i (roll.leave pl vote)) isValid itemsEmpty pl roll.itemGUID 3 with
      | (rolls, none) => (rolls, acc.2)
      | (rolls, some r) => (erase rolls r, acc.2 ++ [r])

def removeRolls (pl : Nat) : Rolls × List Roll :=
  (List.range rolls.length).foldl (removeVoter isValid itemsEmpty pl) (rolls, [])

end Rolls

/-! ## What the functions do -/

theorem Roll.voteOf_leave (r : Roll) (pl : Nat) (vote : RollVote) : (r.leave pl vote).voteOf pl = none := by
  unfold Roll.voteOf Roll.leave
  rw [Option.map_eq_none_iff, List.find?_eq_none]
  intro v hv
  obtain ⟨-, hne⟩ := List.mem_filter.1 hv
  simpa using hne

/-- `_removeRolls` for one roll. -/
def Roll.without (pl : Nat) (r : Roll) : Roll :=
  match r.voteOf pl with
  | none => r
  | some vote => r.leave pl vote

theorem Roll.without_itemGUID (pl : Nat) (r : Roll) : (r.without pl).itemGUID = r.itemGUID := by
  unfold Roll.without
  split <;> rfl

namespace Rolls

variable (rolls : Rolls) (isValid itemsEmpty : Roll → Bool)

theorem castVote_spec (pl guid choice : Nat) :
    castVote rolls isValid itemsEmpty pl guid choice = (rolls, none) ∨
    ∃ r ∈ rolls, r.itemGUID = guid ∧ isValid r = true ∧ r.voteOf pl ≠ none ∧ itemsEmpty r = false ∧
      castVote rolls isValid itemsEmpty pl guid choice =
        (rolls.map fun q => if q.itemGUID = guid then r.record pl choice else q,
          if (r.record pl choice).complete then some (r.record pl choice) else none) := by
  unfold castVote
  split
  · exact Or.inl rfl
  next r hr =>
  have hp := List.find?_some hr
  simp only [Bool.and_eq_true, beq_iff_eq] at hp
  split
  · exact Or.inl rfl
  next hv =>
  split
  · exact Or.inl rfl
  next he =>
  exact Or.inr ⟨r, List.mem_of_find?_eq_some hr, hp.1, hp.2, hv, by simpa using he, rfl⟩

theorem castVote_of_left (hnd : (rolls.map Roll.itemGUID).Nodup) (r : Roll) (hr : r ∈ rolls) (pl choice : Nat)
    (hv : r.voteOf pl = none) : castVote rolls isValid itemsEmpty pl r.itemGUID choice = (rolls, none) := by
  rcases castVote_spec rolls isValid itemsEmpty pl r.itemGUID choice with h | ⟨q, hq, hg, -, hne, -⟩
  · exact h
  · rw [List.inj_on_of_nodup_map hnd hq hr hg] at hne
    exact absurd hv hne

/-- One round takes him out of one roll; `CountRollVote` does not find him any more. -/
theorem removeVoter_eq (hnd : (rolls.map Roll.itemGUID).Nodup) (pl k : Nat) (counted : List Roll) :
    removeVoter isValid itemsEmpty pl (rolls, counted) k = (rolls.modify k (Roll.without pl), counted) := by
  unfold removeVoter
  simp only
  rw [List.modify_eq_set_getElem?]
  split
  · next h => rw [h]; rfl
  next r hr =>
  rw [hr]
  have hlt : k < rolls.length := (List.getElem?_eq_some_iff.1 hr).1
  simp only [Option.map_eq_map, Option.map_some, Option.getD_some]
  split
  · next hv =>
    rw [show r.without pl = r by unfold Roll.without; rw [hv], ← (List.getElem?_eq_some_iff.1 hr).2,
      List.set_getElem_self]
  · next vote hv =>
    have hwithout : r.without pl = r.leave pl vote := by unfold Roll.without; rw [hv]
    rw [hwithout]
    have hguids : (rolls.set k (r.leave pl vote)).map Roll.itemGUID = rolls.map Roll.itemGUID := by
      refine List.ext_getElem? fun i => ?_
      simp only [List.getElem?_map, List.getElem?_set]
      by_cases hk : k = i
      · subst hk
        simp only [hlt, if_true, hr, Option.map_some]
        rfl
      · rw [if_neg hk]
    have hcast := castVote_of_left (rolls.set k (r.leave pl vote)) isValid itemsEmpty (hguids ▸ hnd)
      (r.leave pl vote) (List.mem_set hlt _) pl 3 (Roll.voteOf_leave _ _ _)
    rw [show r.itemGUID = (r.leave pl vote).itemGUID from rfl, hcast]

/-- **A member who leaves is taken out of all rolls**, and his leaving counts none of them. -/
theorem removeRolls_eq (hnd : (rolls.map Roll.itemGUID).Nodup) (pl : Nat) :
    removeRolls rolls isValid itemsEmpty pl = (rolls.map (Roll.without pl), []) := by
  -- after `k` rounds the first `k` rolls are without him
  have hrounds : ∀ k, ∃ xs : Rolls, (List.range k).foldl (removeVoter isValid itemsEmpty pl) (rolls, []) = (xs, []) ∧
      xs.map Roll.itemGUID = rolls.map Roll.itemGUID ∧
      ∀ i, xs[i]? = (rolls[i]?).map fun r => if i < k then r.without pl else r := by
    intro k
    induction k with
    | zero => exact ⟨rolls, rfl, rfl, fun i => by simp⟩
    | succ k ih =>
      obtain ⟨xs, hfold, hguids, hxs⟩ := ih
      refine ⟨xs.modify k (Roll.without pl), ?_, ?_, fun i => ?_⟩
      · rw [List.range_succ, List.foldl_append, hfold]
        exact removeVoter_eq xs isValid itemsEmpty (hguids ▸ hnd) pl k []
      · rw [← hguids]
        refine List.ext_getElem? fun i => ?_
        simp only [List.getElem?_map, List.getElem?_modify]
        cases xs[i]? with
        | none => rfl
        | some r => by_cases hk : k = i <;> simp [hk, Roll.without_itemGUID]
      · rw [List.getElem?_modify, hxs]
        cases rolls[i]? with
        | none => rfl
        | some r =>
          rcases Nat.lt_trichotomy i k with h | h | h
          · simp [h, Nat.ne_of_gt h, Nat.lt_succ_of_lt h]
          · simp [h]
          · simp [Nat.ne_of_lt h, show ¬i < k by omega, show ¬i < k + 1 by omega]
  obtain ⟨xs, hfold, -, hxs⟩ := hrounds rolls.length
  unfold removeRolls
  rw [hfold]
  congr 1
  refine List.ext_getElem? fun i => ?_
  rw [hxs, List.getElem?_map]
  rcases lt_or_ge i rolls.length with hi | hi
  · simp [hi]
  · simp [List.getElem?_eq_none hi]

end Rolls

end BlizzLike
