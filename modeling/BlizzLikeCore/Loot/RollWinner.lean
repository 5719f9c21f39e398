import BlizzLikeCore.Loot.Loot
import BlizzLikeCore.Lib.Transition

/-!
# Who wins a roll

`CountTheRoll` should award the item to a player who rolled highest in the class that counts,
and leave it looted or free.  It does just if the player the count falls on is in the world, and
has no room or a right to the item (`countTheRoll_settles`): nothing is unblocked for a winner
who is offline (`winner_offline`), and when nobody is recorded in the class of the counters the
first player of the map stands for the winner.
-/

namespace BlizzLike

namespace Roll

/-- The class that counts, by the counters. -/
def kind (r : Roll) : Option RollVote :=
  if r.totalNeed > 0 then some .need else if r.totalGreed > 0 then some .greed else none

/-- The first of those who rolled highest in a class. -/
def Highest (r : Roll) (kind : RollVote) (randomN : Nat → Nat) (w : Nat) : Prop :=
  ∃ before after, r.playerVote = before ++ (w, kind) :: after ∧
    (∀ v ∈ before, v.2 = kind → randomN v.1 < randomN w) ∧ ∀ v ∈ after, v.2 = kind → randomN v.1 ≤ randomN w

/-- The player the count falls on: the first of the highest, or the first of the map when nobody
is recorded in the class. -/
def Falls (r : Roll) (kind : RollVote) (randomN : Nat → Nat) (w : Nat) : Prop :=
  r.Highest kind randomN w ∨ (∀ v ∈ r.playerVote, v.2 ≠ kind) ∧ r.playerVote.head?.map Prod.fst = some w

/-- A player with a right to the item: recorded NEED, or GREED when nobody is recorded NEED, with
a number that is maximal in his class. -/
def Rightful (r : Roll) (randomN : Nat → Nat) (w : Nat) : Prop :=
  ∃ kind, (w, kind) ∈ r.playerVote ∧ (kind = .need ∨ kind = .greed ∧ ∀ v ∈ r.playerVote, v.2 ≠ .need) ∧
    ∀ v ∈ r.playerVote, v.2 = kind → randomN v.1 ≤ randomN w

end Roll

namespace LootRoom

/-- **The law** of `CountTheRoll`: at most one grant, to a player with a right to it, and the item is
looted or free afterwards. -/
structure Settles (s : LootRoom) (r : Roll) (e : RollEnd) : Prop where
  once : (s.countTheRoll r e).handed = s.handed ∨ ∃ h, (s.countTheRoll r e).handed = h :: s.handed
  rightful : ∀ h, (s.countTheRoll r e).handed = h :: s.handed → r.Rightful e.randomN h.player
  settled : s.isValid r = true → ∀ it, (s.countTheRoll r e).loot.items[r.itemSlot]? = some it →
    it.isLooted = true ∨ it.isBlocked = false

/-- When the counters name a class, the player the count falls on is in the world (or the item was
looted or free before), and he has no room or a right to the item.  An item with count 0 is none. -/
def Settleable (s : LootRoom) (r : Roll) (e : RollEnd) : Prop :=
  s.isValid r = true → ∀ kind, r.kind = some kind → ∀ it, s.loot.items[r.itemSlot]? = some it →
    (it.isLooted = true ∨ it.isBlocked = false ∨ ∃ w, r.Falls kind e.randomN w ∧ e.online w = true) ∧
      ∀ w, r.Falls kind e.randomN w → e.online w = true → e.canStore w = true → it.count ≠ 0 →
        r.Rightful e.randomN w

/-! ## The winner -/

theorem randomN_pos (e : RollEnd) (pl : Nat) : 0 < e.randomN pl := by
  unfold RollEnd.randomN urand
  omega

section
variable (kind : RollVote) (randomN : Nat → Nat)

/-- The loop over the votes: nobody beats the best so far, or the first of the highest does. -/
theorem best_spec (votes : List (Nat × RollVote)) (best : Nat × Nat) :
    let res := votes.foldl
      (fun best v => if v.2 = kind ∧ best.2 < randomN v.1 then (v.1, randomN v.1) else best) best
    (res = best ∧ ∀ v ∈ votes, v.2 = kind → randomN v.1 ≤ best.2) ∨
    ∃ before w after, votes = before ++ (w, kind) :: after ∧ res = (w, randomN w) ∧ best.2 < randomN w ∧
      (∀ v ∈ before, v.2 = kind → randomN v.1 < randomN w) ∧ ∀ v ∈ after, v.2 = kind → randomN v.1 ≤ randomN w := by
  induction votes generalizing best with
  | nil => exact Or.inl ⟨rfl, fun v hv => absurd hv List.not_mem_nil⟩
  | cons v votes ih =>
    obtain ⟨p, vote⟩ := v
    simp only [List.foldl_cons]
    by_cases h : vote = kind ∧ best.2 < randomN p
    · rw [if_pos h]
      obtain ⟨rfl, hlt⟩ := h
      rcases ih (p, randomN p) with ⟨h1, h2⟩ | ⟨before, w, after, h1, h2, h3, h4, h5⟩
      · exact Or.inr ⟨[], p, votes, rfl, h1, hlt, fun v hv => absurd hv List.not_mem_nil, h2⟩
      · refine Or.inr ⟨(p, vote) :: before, w, after, by rw [h1]; rfl, h2, lt_trans hlt h3, fun v hv hk => ?_, h5⟩
        rcases List.mem_cons.1 hv with rfl | hv
        · exact h3
        · exact h4 v hv hk
    · rw [if_neg h]
      have hle : vote = kind → randomN p ≤ best.2 := fun hk => Nat.le_of_not_lt fun hlt => h ⟨hk, hlt⟩
      rcases ih best with ⟨h1, h2⟩ | ⟨before, w, after, h1, h2, h3, h4, h5⟩
      · refine Or.inl ⟨h1, fun v hv hk => ?_⟩
        rcases List.mem_cons.1 hv with rfl | hv
        · exact hle hk
        · exact h2 v hv hk
      · refine Or.inr ⟨(p, vote) :: before, w, after, by rw [h1]; rfl, h2, h3, fun v hv hk => ?_, h5⟩
        rcases List.mem_cons.1 hv with rfl | hv
        · exact lt_of_le_of_lt (hle hk) h3
        · exact h4 v hv hk

variable {kind randomN}

theorem highest_unique {r : Roll} {w w' : Nat} (h : r.Highest kind randomN w) (h' : r.Highest kind randomN w') :
    w = w' := by
  obtain ⟨before, after, hl, hb, ha⟩ := h
  obtain ⟨before', after', hl', hb', ha'⟩ := h'
  rw [hl] at hl'
  -- whichever comes first, the other one would be higher, or not as high
  rcases List.append_eq_append_iff.1 hl' with ⟨mid, h1, h2⟩ | ⟨mid, h1, h2⟩
  · cases mid with
    | nil => exact congrArg Prod.fst (List.cons.inj h2).1
    | cons v mid =>
      obtain ⟨rfl, hafter⟩ := List.cons.inj h2
      have h3 := hb' (w, kind) (h1 ▸ by simp) rfl
      have h4 := ha (w', kind) (hafter ▸ by simp) rfl
      simp only at h3 h4
      omega
  · cases mid with
    | nil => exact (congrArg Prod.fst (List.cons.inj h2).1).symm
    | cons v mid =>
      obtain ⟨rfl, hafter⟩ := List.cons.inj h2
      have h3 := hb (w', kind) (h1 ▸ by simp) rfl
      have h4 := ha' (w, kind) (hafter ▸ by simp) rfl
      simp only at h3 h4
      omega

theorem Highest.mem {r : Roll} {w : Nat} (h : r.Highest kind randomN w) : (w, kind) ∈ r.playerVote := by
  obtain ⟨before, after, hl, -, -⟩ := h
  rw [hl]
  simp

/-- **`rollWinner` is the player the count falls on.** -/
theorem rollWinner_iff (r : Roll) (hpos : ∀ p, 0 < randomN p) (w : Nat) :
    rollWinner r.playerVote kind randomN = some w ↔ r.Falls kind randomN w := by
  have hsome : ∀ w, rollWinner r.playerVote kind randomN = some w → r.Falls kind randomN w := by
    intro w hw
    unfold rollWinner at hw
    split at hw
    · cases hw
    next first rest hvotes =>
    have hspec := best_spec kind randomN r.playerVote (first.1, 0)
    simp only at hspec
    rcases hspec with ⟨h1, h2⟩ | ⟨before, w', after, h1, h2, -, h4, h5⟩
    · rw [h1] at hw
      refine Or.inr ⟨fun v hv hk => absurd (h2 v hv hk) (Nat.not_le_of_gt (hpos v.1)), ?_⟩
      rw [hvotes]
      exact hw
    · rw [h2] at hw
      cases hw
      exact Or.inl ⟨before, after, h1, h4, h5⟩
  refine ⟨hsome w, fun hw => ?_⟩
  have hne : r.playerVote ≠ [] := by
    rintro hnil
    rcases hw with hw | ⟨-, hw⟩
    · exact absurd (hnil ▸ Highest.mem hw) List.not_mem_nil
    · rw [hnil] at hw; cases hw
  obtain ⟨first, rest, hvotes⟩ := List.exists_cons_of_ne_nil hne
  obtain ⟨w', hw'⟩ : ∃ w', rollWinner r.playerVote kind randomN = some w' := by
    unfold rollWinner
    rw [hvotes]
    exact ⟨_, rfl⟩
  rw [hw']
  congr 1
  rcases hsome w' hw' with h1 | ⟨h1, h2⟩ <;> rcases hw with h3 | ⟨h3, h4⟩
  · exact highest_unique h1 h3
  · exact absurd rfl (h3 _ (Highest.mem h1))
  · exact absurd rfl (h1 _ (Highest.mem h3))
  · exact Option.some.inj (h2.symm.trans h4)

end

/-! ## The count -/

variable {s : LootRoom} {r : Roll} {e : RollEnd}

theorem ne_cons_self {α : Type*} (l : List α) (a : α) : l ≠ a :: l := fun h => by
  have := congrArg List.length h
  simp at this

/-- A count that changes nothing but the item's marks settles the roll just if the item is looted or free. -/
theorem settles_of_handed (hh : (s.countTheRoll r e).handed = s.handed) :
    s.Settles r e ↔ (s.isValid r = true → ∀ it, (s.countTheRoll r e).loot.items[r.itemSlot]? = some it →
      it.isLooted = true ∨ it.isBlocked = false) :=
  ⟨fun h => h.settled, fun h => ⟨Or.inl hh, fun _ hc => absurd (hh.symm.trans hc) (ne_cons_self _ _), h⟩⟩

theorem unblock_item (s : LootRoom) (slot : Nat) (it : LootItem)
    (h : (s.unblock slot).loot.items[slot]? = some it) : it.isBlocked = false := by
  simp only [unblock, Loot.modifyItem, Bool.false_eq_true, if_false, List.getElem?_modify, if_true] at h
  obtain ⟨it0, -, rfl⟩ := Option.map_eq_some_iff.1 h
  rfl

theorem award_stored (kind : RollVote) (w : Nat) (hw : rollWinner r.playerVote kind e.randomN = some w)
    (hon : e.online w = true) (it : LootItem) (hit : s.loot.items[r.itemSlot]? = some it) (hst : e.canStore w = true) :
    (s.award r kind e).loot.items[r.itemSlot]? = some { it with isLooted := true } ∧
      ((it.count = 0 ∧ (s.award r kind e).handed = s.handed) ∨
        it.count ≠ 0 ∧ ∃ h : Handout, h.player = w ∧ (s.award r kind e).handed = h :: s.handed) := by
  unfold award handOut
  simp only [hw, hon, hit, hst, if_true]
  split
  · next h0 =>
    exact ⟨by simp [Loot.modifyItem, Loot.uncount, hit], Or.inl ⟨h0, rfl⟩⟩
  · next h0 =>
    exact ⟨by simp [Loot.modifyItem, Loot.uncount, hit], Or.inr ⟨h0, _, rfl, rfl⟩⟩

theorem settles_award (kind : RollVote) (hv : s.isValid r = true) (hk : r.kind = some kind)
    (hc : s.countRoll r e = s.award r kind e) : s.Settles r e ↔ s.Settleable r e := by
  have hcond : s.Settleable r e ↔ ∀ it, s.loot.items[r.itemSlot]? = some it →
      (it.isLooted = true ∨ it.isBlocked = false ∨ ∃ w, r.Falls kind e.randomN w ∧ e.online w = true) ∧
        ∀ w, r.Falls kind e.randomN w → e.online w = true → e.canStore w = true → it.count ≠ 0 →
          r.Rightful e.randomN w := by
    constructor
    · exact fun h => h hv kind hk
    · intro h _ kind' hk'
      rw [hk] at hk'
      exact Option.some.inj hk' ▸ h
  rw [hcond]
  have hfalls := fun w => @rollWinner_iff kind _ r (randomN_pos e) w
  -- nobody in the world: nothing happens
  have habsent : (∀ w, r.Falls kind e.randomN w → e.online w = false) → s.award r kind e = s := by
    intro h
    unfold award
    split
    · rfl
    next w hw => rw [h w ((hfalls w).1 hw)]; simp
  by_cases hpresent : ∃ w, r.Falls kind e.randomN w ∧ e.online w = true
  swap
  · have hout : ∀ w, r.Falls kind e.randomN w → e.online w = false := fun w hw => by
      cases ho : e.online w with
      | false => rfl
      | true => exact absurd ⟨w, hw, ho⟩ hpresent
    have hsame : s.countRoll r e = s := hc.trans (habsent hout)
    rw [settles_of_handed (by simp [countTheRoll, hsame])]
    simp only [countTheRoll, hsame]
    refine ⟨fun h it hit => ⟨?_, fun w hw ho => ?_⟩, fun h _ it hit => ?_⟩
    · exact (h hv it hit).imp_right Or.inl
    · rw [hout w hw] at ho; cases ho
    · exact (h it hit).1.imp_right fun h1 => h1.resolve_right hpresent
  obtain ⟨w, hw, hon⟩ := hpresent
  have hwin := (hfalls w).2 hw
  have huniq : ∀ w', r.Falls kind e.randomN w' → w' = w := fun w' hw' =>
    Option.some.inj (((hfalls w').2 hw').symm.trans hwin)
  cases hit : s.loot.items[r.itemSlot]? with
  | none =>
    have hsame : s.countRoll r e = s := by
      rw [hc]; unfold award; simp only [hwin, hon, hit, if_true]
    rw [settles_of_handed (by simp [countTheRoll, hsame])]
    simp only [countTheRoll, hsame, hit]
    exact ⟨(fun _ _ h => by cases h), fun _ _ _ h => by cases h⟩
  | some it =>
    cases hst : e.canStore w with
    | false =>
      have hfree : s.countRoll r e = s.unblock r.itemSlot := by
        rw [hc]; unfold award; simp only [hwin, hon, hit, hst, if_true, Bool.false_eq_true, if_false]
      rw [settles_of_handed (by simp [countTheRoll, hfree, unblock])]
      simp only [countTheRoll, hfree]
      refine ⟨fun _ it' _ => ⟨Or.inr (Or.inr ⟨w, hw, hon⟩), fun w' hw' _ hs' => ?_⟩,
        fun _ _ it' hit' => Or.inr (unblock_item s _ it' hit')⟩
      rw [huniq w' hw', hst] at hs'
      cases hs'
    | true =>
      obtain ⟨hitem, hout⟩ := award_stored kind w hwin hon it hit hst
      have hmarked : ∀ it', (s.countTheRoll r e).loot.items[r.itemSlot]? = some it' → it'.isLooted = true := by
        intro it' h
        simp only [countTheRoll, hc, hitem, Option.some.injEq] at h
        rw [← h]
      rcases hout with ⟨h0, hh⟩ | ⟨h0, h, hpl, hh⟩
      · rw [settles_of_handed (by simp [countTheRoll, hc, hh])]
        refine ⟨fun _ it' hit' => ⟨Or.inr (Or.inr ⟨w, hw, hon⟩), fun _ _ _ _ hne => ?_⟩,
          fun _ _ it' h => Or.inl (hmarked it' h)⟩
        rw [← Option.some.inj hit'] at hne
        exact absurd h0 hne
      · have hhand : (s.countTheRoll r e).handed = h :: s.handed := by simp only [countTheRoll, hc, hh]
        constructor
        · intro hset it' _
          refine ⟨Or.inr (Or.inr ⟨w, hw, hon⟩), fun w' hw' _ _ _ => ?_⟩
          rw [huniq w' hw', ← hpl]
          exact hset.rightful h hhand
        · intro hcnd
          refine ⟨Or.inr ⟨h, hhand⟩, fun h' hh' => ?_, fun _ it' hi => Or.inl (hmarked it' hi)⟩
          rw [← (List.cons.inj (hhand.symm.trans hh')).1, hpl]
          exact (hcnd it rfl).2 w hw hon hst h0

/-- **The count settles a roll** just if the player it falls on is in the world, and has no room
or a right to the item. -/
theorem countTheRoll_settles (s : LootRoom) (r : Roll) (e : RollEnd) : s.Settles r e ↔ s.Settleable r e := by
  cases hv : s.isValid r with
  | false =>
    have hsame : s.countRoll r e = s := by unfold countRoll; rw [if_pos hv]
    rw [settles_of_handed (by simp [countTheRoll, hsame])]
    exact ⟨fun _ h => absurd h (by simp [hv]), fun _ h => absurd h (by simp [hv])⟩
  | true =>
    cases hk : r.kind with
    | some kind =>
      refine settles_award kind hv hk ?_
      unfold countRoll
      unfold Roll.kind at hk
      rw [if_neg (by simp [hv])]
      split at hk
      · next h => rw [if_pos h, Option.some.inj hk]
      split at hk
      · next h1 h2 => rw [if_neg h1, if_pos h2, Option.some.inj hk]
      · cases hk
    | none =>
      have hfree : s.countRoll r e = s.unblock r.itemSlot := by
        unfold countRoll
        unfold Roll.kind at hk
        rw [if_neg (by simp [hv])]
        split at hk
        · cases hk
        split at hk
        · cases hk
        · next h1 h2 => rw [if_neg h1, if_neg h2]
      rw [settles_of_handed (by simp [countTheRoll, hfree, unblock])]
      refine ⟨(fun _ _ kind hk' => by rw [hk] at hk'; cases hk'), fun _ _ it hit => Or.inr ?_⟩
      simp only [countTheRoll, hfree] at hit
      exact unblock_item s _ it hit

/-- A loot with an item that two players roll for; the first votes NEED and leaves the world. -/
def needRoom : LootRoom :=
  Transition.run step {}
    [.generate 0 [{ itemid := 25 }] [1, 2] (fun _ _ => true)
        (some (false, { members := [1, 2], inRange := fun _ => true, lootThreshold := 2
                        quality := fun _ => some 2, canUseItem := fun _ _ => true })),
      .rollVote 1 1 1 { dice := fun _ => 0, online := fun _ => true, canStore := fun _ => true }]

/-- **The winner is offline** when the countdown ends: the item is neither looted nor free. -/
theorem winner_offline : ∃ r ∈ needRoom.rollId,
    ¬needRoom.Settles r { dice := fun _ => 0, online := fun _ => false, canStore := fun _ => true } := by
  refine ⟨{ itemGUID := 1, itemid := 25, itemSlot := 0, fill := 1, playerVote := [(1, .need), (2, .notEmitedYet)]
            totalPlayersRolling := 2, totalNeed := 1 }, by decide, fun h => ?_⟩
  have := h.settled (by decide) { itemid := 25, isBlocked := true } (by decide)
  exact absurd this (by decide)

end LootRoom

end BlizzLike
