import BlizzLikeCore.Group.Invites

/-!
# Subgroups

`m_subGroupsCounts` is kept by hand beside the member slots.  It counts them, and all limits hold,
exactly as long as a member who is moved is moved out of the subgroup the code reads for him, to
one that exists, and the rows a group is loaded from are within the limits
(`subGroups_counted`).  `ChangeMembersGroup` for a player reads the subgroup of the group he is
in now, which in a battleground is another one (`moved_from_battleground`), and the handler
looks the number of the client up behind the array.
-/

namespace BlizzLike

namespace Group

/-- **The law** for one group. -/
structure WellCounted (G : Group) : Prop where
  counted : ∀ counts, G.subGroupsCounts = some counts → ∀ g < maxRaidSubGroups, counts g = G.membersOf g
  subgroups : ∀ s ∈ G.memberSlots, s.group < maxRaidSubGroups
  rooms : ∀ g, G.membersOf g ≤ maxGroupSize
  size : G.memberSlots.length ≤ if G.raid then maxRaidSize else maxGroupSize

/-- Raids have counters and parties have none. -/
def Typed (G : Group) : Prop := G.raid = G.subGroupsCounts.isSome

end Group

namespace GroupWorld

def Typed (w : GroupWorld) : Prop := ∀ g G, w.groups g = some G → G.Typed

def WellCounted (w : GroupWorld) : Prop := ∀ g G, w.groups g = some G → G.WellCounted

/-- The subgroup a move of member `guid` of group `g` is counted out of: in the one overload that
of the group the player is in now, in the other that of his original group when he is in another. -/
def prevSubGroup (w : GroupWorld) (g guid : Nat) (byPlayer : Bool) : Nat :=
  if byPlayer = true ∨ (w.players guid).group = some g then (w.players guid).subGroup
  else (w.players guid).originalSubGroup

/-- An event that does not meet one of the missing checks. -/
def Heedful (w : GroupWorld) : GroupRequest → Prop
  | .changeSubGroup pl guid exact groupNr heap => ∀ g G, (w.players pl).inWorld = true →
      (w.players pl).group = some g → w.groups g = some G → (G.isLeader pl = true ∨ G.isAssistant pl = true) →
      G.hasFreeSlotSubGroup heap groupNr = true → (w.players guid).inWorld = true →
        (∀ s, G.memberSlot guid = some s →
          groupNr < maxRaidSubGroups ∧ w.prevSubGroup g guid exact = s.group) ∧
        (G.memberSlot guid = none → exact = true ∨ maxRaidSubGroups ≤ w.prevSubGroup g guid exact)
  | .load _ raid rows => rows.length < 2 ∨ (∀ s ∈ rows, s.group < maxRaidSubGroups) ∧
      (∀ g, rows.countP (fun s => s.group = g) ≤ maxGroupSize) ∧
      rows.length ≤ if raid then maxRaidSize else maxGroupSize
  | .disbandCommand g => ∀ G, w.groups g = some G → G.raid = true → G.memberSlots = []
  | .removeCommand g _ => ∀ G, w.groups g = some G → G.raid = true → G.memberSlots = [] ∨
      G.memberSlots.length > if G.bgGroup then 1 else 2
  | _ => True

end GroupWorld

/-! ## One group -/

namespace Group

variable {G : Group}

theorem membersOf_le (G : Group) (g : Nat) : G.membersOf g ≤ G.memberSlots.length := List.countP_le_length

theorem membersOf_pos {s : MemberSlot} (hs : s ∈ G.memberSlots) : 0 < G.membersOf s.group :=
  List.countP_pos_iff.2 ⟨s, hs, by simp⟩

@[simp] theorem countSubGroup_memberSlots (G : Group) (f : Nat → Nat) (g : Nat) :
    (G.countSubGroup f g).memberSlots = G.memberSlots := rfl

@[simp] theorem countSubGroup_membersOf (G : Group) (f : Nat → Nat) (g x : Nat) :
    (G.countSubGroup f g).membersOf x = G.membersOf x := rfl

theorem countSubGroup_typed (h : G.Typed) (f : Nat → Nat) (g : Nat) : (G.countSubGroup f g).Typed := by
  unfold Typed countSubGroup at *
  simpa using h

theorem countSubGroup_counts (G : Group) (f : Nat → Nat) (g : Nat) (counts : Nat → Nat)
    (h : (G.countSubGroup f g).subGroupsCounts = some counts) :
    ∃ counts0, G.subGroupsCounts = some counts0 ∧
      ∀ x < maxRaidSubGroups, counts x = if x = g then f (counts0 x) else counts0 x := by
  unfold countSubGroup at h
  obtain ⟨counts0, h0, rfl⟩ := Option.map_eq_some_iff.1 h
  refine ⟨counts0, h0, fun x hx => ?_⟩
  by_cases hxg : x = g
  · subst hxg
    rw [if_pos hx, Function.update_self, if_pos rfl]
  · rw [if_neg hxg]
    split
    · exact Function.update_of_ne hxg _ _
    · rfl

theorem WellCounted.of_same {H : Group} (h : G.WellCounted) (hr : H.raid = G.raid)
    (hs : H.memberSlots = G.memberSlots) (hc : H.subGroupsCounts = G.subGroupsCounts) : H.WellCounted := by
  refine ⟨fun counts hcs g hg => ?_, fun s hm => h.subgroups s (hs ▸ hm), fun g => ?_, ?_⟩
  · unfold membersOf
    rw [hs]
    exact h.counted counts (hc ▸ hcs) g hg
  · unfold membersOf
    rw [hs]
    exact h.rooms g
  · rw [hs, hr]
    exact h.size

theorem not_isFull (h : G.isFull = false) :
    G.memberSlots.length < if G.raid then maxRaidSize else maxGroupSize := by
  unfold isFull at h
  split at h
  · next hr => rw [if_pos hr]; simpa using h
  · next hr => rw [if_neg hr]; simpa using h

theorem freeSubGroup_spec (h : G.WellCounted) (ht : G.Typed) (hfull : G.isFull = false) (sub : Nat)
    (hsub : G.freeSubGroup = some sub) : sub < maxRaidSubGroups ∧ G.membersOf sub < maxGroupSize := by
  have hlen := not_isFull hfull
  unfold freeSubGroup at hsub
  unfold Typed at ht
  split at hsub
  · next hc =>
    rw [hc] at ht
    rw [ht] at hlen
    cases hsub
    exact ⟨by decide, lt_of_le_of_lt (membersOf_le G 0) hlen⟩
  · next counts hc =>
    have hp := List.find?_some hsub
    have hmem := List.mem_range.1 (List.mem_of_find?_eq_some hsub)
    rw [← h.counted counts hc sub hmem]
    exact ⟨hmem, by simpa using hp⟩

theorem pushMember_typed (h : G.Typed) (s : MemberSlot) : (G.pushMember s).Typed :=
  countSubGroup_typed (G := { G with memberSlots := G.memberSlots ++ [s] }) h _ _

theorem pushMember_membersOf (G : Group) (s : MemberSlot) (g : Nat) :
    (G.pushMember s).membersOf g = G.membersOf g + if s.group = g then 1 else 0 := by
  unfold pushMember subGroupCounterIncrease
  rw [countSubGroup_membersOf]
  unfold membersOf
  rw [List.countP_append, List.countP_singleton]
  simp

/-- **A new member** in a subgroup with room. -/
theorem pushMember_wellCounted (h : G.WellCounted) (s : MemberSlot) (hs : s.group < maxRaidSubGroups)
    (hroom : G.membersOf s.group < maxGroupSize)
    (hsize : G.memberSlots.length < if G.raid then maxRaidSize else maxGroupSize) :
    (G.pushMember s).WellCounted := by
  refine ⟨fun counts hc g hg => ?_, fun t ht => ?_, fun g => ?_, ?_⟩
  · obtain ⟨counts0, h0, hcount⟩ := countSubGroup_counts _ _ _ _ hc
    have hg0 := h.counted counts0 h0 g hg
    rw [hcount g hg, pushMember_membersOf, hg0]
    by_cases hgs : g = s.group
    · subst hgs
      rw [if_pos rfl, if_pos rfl]
      exact u8_eq _ (by unfold maxGroupSize at hroom; omega)
    · rw [if_neg hgs, if_neg (Ne.symm hgs)]
      rfl
  · rcases List.mem_append.1 ht with ht | ht
    · exact h.subgroups t ht
    · rw [List.mem_singleton.1 ht]
      exact hs
  · rw [pushMember_membersOf]
    split
    · next hgs => subst hgs; omega
    · exact h.rooms g
  · rw [show (G.pushMember s).memberSlots = G.memberSlots ++ [s] from rfl, List.length_append]
    exact hsize

theorem setLeader_wellCounted (h : G.WellCounted) (leader : Nat) : ({ G with leaderGuid := leader } : Group).WellCounted :=
  h.of_same rfl rfl rfl

theorem eraseSlot_wellCounted (h : G.WellCounted) (guid : Nat) : (G.eraseSlot guid).WellCounted := by
  unfold eraseSlot
  split
  · exact h
  next s hs =>
  have hin : s ∈ G.memberSlots := List.mem_of_find?_eq_some hs
  have hcount : ∀ g, ({ G with memberSlots := G.memberSlots.eraseP fun s => s.guid == guid } : Group).membersOf g +
      (if s.group = g then 1 else 0) = G.membersOf g := by
    intro g
    have := Counting.countP_eraseP G.memberSlots _ s hs fun t => decide (t.group = g)
    simpa [membersOf] using this
  unfold subGroupCounterDecrease
  refine ⟨fun counts hc g hg => ?_, fun t ht => h.subgroups t (List.mem_of_mem_eraseP ht), fun g => ?_, ?_⟩
  · obtain ⟨counts0, h0, hc0⟩ := countSubGroup_counts _ _ _ _ hc
    have hg0 := h.counted counts0 h0 g hg
    have hroom := h.rooms g
    have hpos := membersOf_pos hin
    have hg1 := hcount g
    rw [hc0 g hg, countSubGroup_membersOf, hg0]
    by_cases hgs : g = s.group
    · subst hgs
      rw [if_pos rfl] at hg1 ⊢
      unfold u8 maxGroupSize at *
      omega
    · rw [if_neg (Ne.symm hgs)] at hg1
      rw [if_neg hgs]
      omega
  · have := hcount g
    have := h.rooms g
    rw [countSubGroup_membersOf]
    omega
  · refine le_trans ?_ h.size
    have := Counting.length_eraseP_find G.memberSlots _ s hs
    simp only [countSubGroup_memberSlots]
    omega

/-- **A member leaves.** -/
theorem dropMember_wellCounted (h : G.WellCounted) (guid : Nat) : (G.dropMember guid).WellCounted := by
  unfold dropMember
  simp only
  split
  · exact setLeader_wellCounted (eraseSlot_wellCounted h guid) _
  · exact eraseSlot_wellCounted h guid

theorem dropMember_typed (h : G.Typed) (guid : Nat) : (G.dropMember guid).Typed := by
  have herase : (G.eraseSlot guid).Typed := by
    unfold eraseSlot
    split
    · exact h
    · exact countSubGroup_typed (G := { G with memberSlots := G.memberSlots.eraseP fun s => s.guid == guid }) h _ _
  unfold dropMember
  simp only
  split <;> exact herase

/-- **A party of the right size** makes a raid. -/
theorem convertToRaid_wellCounted (h : G.WellCounted) : G.convertToRaid.WellCounted := by
  have hle : G.memberSlots.length ≤ maxRaidSize := by
    have := h.size
    split at this
    · exact this
    · unfold maxGroupSize maxRaidSize at *; omega
  refine ⟨fun counts hc g _ => ?_, h.subgroups, h.rooms, hle⟩
  cases hc
  have := h.rooms g
  show u8 (G.membersOf g) = G.membersOf g
  exact u8_eq _ (by unfold maxGroupSize at this; omega)

theorem setAssistant_wellCounted (h : G.WellCounted) (guid : Nat) (flag : Bool) :
    (G.setAssistant guid flag).WellCounted := by
  unfold setAssistant
  split
  · exact h
  next i _ =>
  have hgroups : (G.memberSlots.modify i fun s => { s with assistant := flag }).map MemberSlot.group =
      G.memberSlots.map MemberSlot.group := Counting.map_modify _ i _ MemberSlot.group fun _ => rfl
  have hcount : ∀ g, (G.memberSlots.modify i fun s => { s with assistant := flag }).countP (fun s => s.group = g) =
      G.membersOf g := by
    intro g
    have h1 := List.countP_map (p := fun x => decide (x = g)) (f := MemberSlot.group)
      (l := G.memberSlots.modify i fun s => { s with assistant := flag })
    have h2 := List.countP_map (p := fun x => decide (x = g)) (f := MemberSlot.group) (l := G.memberSlots)
    rw [hgroups] at h1
    exact h1.symm.trans h2
  refine ⟨fun counts hc g hg => (h.counted counts hc g hg).trans (hcount g).symm, fun s hs => ?_,
    fun g => Nat.le_trans (Nat.le_of_eq (hcount g)) (h.rooms g), by simpa using h.size⟩
  have : s.group ∈ G.memberSlots.map MemberSlot.group := hgroups ▸ List.mem_map_of_mem hs
  obtain ⟨t, ht, hgt⟩ := List.mem_map.1 this
  exact hgt ▸ h.subgroups t ht

/-! ### A move -/

theorem setMembersGroup_none {guid : Nat} (h : G.memberSlot guid = none) (group : Nat) :
    G.setMembersGroup guid group = none := by
  unfold setMembersGroup
  rw [Counting.findIdx?_of_find?_none _ _ h]

/-- The slots after a move: one member less in the one subgroup, one more in the other. -/
structure SlotMoved (old : List MemberSlot) (s : MemberSlot) (group : Nat) (slots : List MemberSlot) : Prop where
  length : slots.length = old.length
  count : ∀ x, slots.countP (fun t => t.group = x) + (if s.group = x then 1 else 0) =
    old.countP (fun t => t.group = x) + if group = x then 1 else 0
  mem : ∀ t ∈ slots, t ∈ old ∨ t.group = group
  moved : ∃ t ∈ slots, t.group = group

theorem setMembersGroup_some {guid : Nat} {s : MemberSlot} (h : G.memberSlot guid = some s) (group : Nat) :
    ∃ slots : List MemberSlot, G.setMembersGroup guid group =
        some ({ G with memberSlots := slots }.subGroupCounterIncrease group) ∧
      SlotMoved G.memberSlots s group slots := by
  obtain ⟨i, hi, hs⟩ := Counting.findIdx?_of_find? _ _ _ h
  have hlt : i < G.memberSlots.length := (List.getElem?_eq_some_iff.1 hs).1
  refine ⟨G.memberSlots.modify i fun s => { s with group := group }, ?_, by simp, fun x => ?_, fun t ht => ?_, ?_⟩
  · unfold setMembersGroup
    rw [hi]
  · have := Counting.countP_modify G.memberSlots i s hs (fun s => { s with group := group })
      fun t => decide (t.group = x)
    simpa using this
  · obtain ⟨j, hj⟩ := List.mem_iff_getElem?.1 ht
    rw [List.getElem?_modify] at hj
    obtain ⟨t0, h0, rfl⟩ := Option.map_eq_some_iff.1 hj
    split
    · exact Or.inr rfl
    · exact Or.inl (List.mem_of_getElem? h0)
  · refine ⟨{ s with group := group }, List.mem_iff_getElem?.2 ⟨i, ?_⟩, rfl⟩
    rw [List.getElem?_modify, hs]
    simp

/-- **A move** keeps the law just if it is to a subgroup that exists and is counted out of that of
the member's slot. -/
theorem moved_wellCounted {H : Group} {guid : Nat} {s : MemberSlot} {group prev : Nat} {slots : List MemberSlot}
    (h : G.WellCounted) (hs : G.memberSlot guid = some s) (hraid : H.raid = G.raid) (hslots : H.memberSlots = slots)
    (hmoved : SlotMoved G.memberSlots s group slots)
    (hroom : group < maxRaidSubGroups → G.membersOf group < maxGroupSize) (counts counts0 : Nat → Nat)
    (hc : H.subGroupsCounts = some counts) (hc0 : G.subGroupsCounts = some counts0)
    (hcc : ∀ x < maxRaidSubGroups,
      counts x = u8 (counts0 x + (if x = group then 1 else 0) + if x = prev then 255 else 0)) :
    H.WellCounted ↔ group < maxRaidSubGroups ∧ prev = s.group := by
  obtain ⟨hlen, hcount, hmem, hin⟩ := hmoved
  have hin0 : s ∈ G.memberSlots := List.mem_of_find?_eq_some hs
  have hsub := h.subgroups s hin0
  have hpos := membersOf_pos hin0
  have hmembers : ∀ x, H.membersOf x = slots.countP fun t => t.group = x := fun x => by unfold membersOf; rw [hslots]
  change ∀ x, _ = G.membersOf x + _ at hcount
  constructor
  · intro hH
    obtain ⟨t, ht, rfl⟩ := hin
    refine ⟨hH.subgroups t (hslots ▸ ht), ?_⟩
    -- the counter of the slot's own subgroup has to go down
    by_contra hne
    have h1 := hcc s.group hsub
    have h2 := hcount s.group
    have h3 := hH.counted counts hc s.group hsub
    have h4 := h.counted counts0 hc0 s.group hsub
    have h5 := h.rooms s.group
    have hsne : s.group ≠ prev := fun he => hne he.symm
    rw [hmembers] at h3
    rw [h4, if_neg hsne] at h1
    simp only [if_true] at h2
    unfold u8 maxGroupSize at *
    by_cases hg : s.group = t.group
    · rw [if_pos hg] at h1
      rw [if_pos hg.symm] at h2
      omega
    · rw [if_neg hg] at h1
      rw [if_neg (Ne.symm hg)] at h2
      omega
  · rintro ⟨hgroup, rfl⟩
    refine ⟨fun counts' hc' x hx => ?_, fun t ht => ?_, fun x => ?_, by rw [hslots, hlen, hraid]; exact h.size⟩
    · cases hc.symm.trans hc'
      have h1 := hcc x hx
      have h2 := hcount x
      have h4 := h.counted counts0 hc0 x hx
      have h5 := h.rooms x
      rw [hmembers, h1, h4]
      unfold u8 maxGroupSize at *
      by_cases hg : x = group <;> by_cases hp : x = s.group
      · subst hg; subst hp; simp only [if_true] at h2 ⊢; omega
      · subst hg; rw [if_neg (Ne.symm hp)] at h2; simp only [if_true, if_neg hp] at h2 ⊢; omega
      · subst hp; rw [if_neg (Ne.symm hg)] at h2; simp only [if_true, if_neg hg] at h2 ⊢; omega
      · rw [if_neg (Ne.symm hg), if_neg (Ne.symm hp)] at h2; simp only [if_neg hg, if_neg hp]; omega
    · rcases hmem t (hslots ▸ ht) with h1 | h1
      · exact h.subgroups t h1
      · rw [h1]; exact hgroup
    · have h2 := hcount x
      have h5 := h.rooms x
      have h6 := hroom hgroup
      rw [hmembers]
      by_cases hg : group = x
      · subst hg
        simp only [if_true] at h2
        omega
      · rw [if_neg hg] at h2
        omega

/-- A count that is lowered for nobody is right just if it is written behind the array. -/
theorem lowered_wellCounted (h : G.WellCounted) (hc : G.subGroupsCounts.isSome = true) (prev : Nat) :
    (G.subGroupCounterDecrease prev).WellCounted ↔ maxRaidSubGroups ≤ prev := by
  obtain ⟨counts0, hc0⟩ := Option.isSome_iff_exists.1 hc
  have hnew : ∃ counts, (G.subGroupCounterDecrease prev).subGroupsCounts = some counts := by
    unfold subGroupCounterDecrease countSubGroup
    simp [hc0]
  obtain ⟨counts, hcs⟩ := hnew
  obtain ⟨counts0', h0', hcc⟩ := countSubGroup_counts _ _ _ _ hcs
  cases hc0.symm.trans h0'
  constructor
  · intro hH
    by_contra hlt
    have hlt' : prev < maxRaidSubGroups := by omega
    have h1 := hcc prev hlt'
    have h2 := hH.counted counts hcs prev hlt'
    have h3 := h.counted counts0 hc0 prev hlt'
    have h4 := h.rooms prev
    rw [if_pos rfl] at h1
    unfold subGroupCounterDecrease at h2
    rw [countSubGroup_membersOf] at h2
    unfold u8 maxGroupSize at *
    omega
  · intro hle
    refine ⟨fun counts' hc' x hx => ?_, h.subgroups, h.rooms, h.size⟩
    cases hcs.symm.trans hc'
    rw [hcc x hx, if_neg (by omega)]
    exact h.counted counts0 hc0 x hx

/-! ### Starting and ending -/

theorem wellCounted_empty {H : Group} (hs : H.memberSlots = [])
    (hc : ∀ counts, H.subGroupsCounts = some counts → ∀ g < maxRaidSubGroups, counts g = 0) : H.WellCounted := by
  refine ⟨fun counts h g hg => ?_, (fun s hm => by rw [hs] at hm; cases hm), fun g => ?_,
    by rw [hs]; exact Nat.zero_le _⟩
  · rw [hc counts h g hg]
    unfold membersOf
    rw [hs]
    rfl
  · unfold membersOf
    rw [hs]
    exact Nat.zero_le _

/-- **`Create`** makes a raid for a battleground and a party for all else. -/
theorem setUp_wellCounted (hs : G.memberSlots = []) (hc : G.bgGroup = false → G.subGroupsCounts = none) (guid : Nat) :
    (G.setUp guid).Typed ∧ (G.setUp guid).WellCounted := by
  unfold setUp
  cases hb : G.bgGroup with
  | false => exact ⟨by simp [Typed, hc hb], wellCounted_empty hs fun counts h => by simp [hc hb] at h⟩
  | true =>
    refine ⟨rfl, wellCounted_empty hs fun counts h g _ => ?_⟩
    cases h
    simp [membersOf, hs, u8]

theorem disbanded_wellCounted (h : G.WellCounted) (ht : G.Typed) :
    ({ G with memberSlots := [], leaderGuid := 0, invitees := [] } : Group).WellCounted ↔
      (G.raid = true → G.memberSlots = []) := by
  constructor
  · intro hH hr
    by_contra hne
    obtain ⟨s, slots, hs⟩ := List.exists_cons_of_ne_nil hne
    have hin : s ∈ G.memberSlots := by rw [hs]; exact List.mem_cons_self
    obtain ⟨counts, hc⟩ := Option.isSome_iff_exists.1 (ht.symm.trans hr)
    have h1 := h.counted counts hc s.group (h.subgroups s hin)
    have h2 := hH.counted counts hc s.group (h.subgroups s hin)
    have h3 := membersOf_pos hin
    rw [h2] at h1
    have h4 : 0 = G.membersOf s.group := h1
    omega
  · intro hne
    refine wellCounted_empty rfl fun counts hc g hg => ?_
    have hc' : G.subGroupsCounts = some counts := hc
    have hr : G.raid = true := by
      unfold Typed at ht
      rw [ht, hc']
      rfl
    rw [h.counted counts hc' g hg]
    unfold membersOf
    rw [hne hr]
    rfl

/-! ### Rows -/

theorem pushMembers_counts (rows : List MemberSlot) (G : Group)
    (h : ∀ counts, G.subGroupsCounts = some counts → ∀ g < maxRaidSubGroups, counts g = u8 (G.membersOf g))
    (counts : Nat → Nat) (hc : (rows.foldl pushMember G).subGroupsCounts = some counts) (g : Nat)
    (hg : g < maxRaidSubGroups) : counts g = u8 ((rows.foldl pushMember G).membersOf g) := by
  induction rows generalizing G with
  | nil => exact h counts hc g hg
  | cons s rows ih =>
    refine ih (G.pushMember s) (fun counts1 h1 x hx => ?_) hc
    obtain ⟨counts0, h0, hcount⟩ := countSubGroup_counts _ _ _ _ h1
    have hx0 := h counts0 h0 x hx
    rw [hcount x hx, pushMember_membersOf, hx0]
    unfold u8
    by_cases hxs : x = s.group
    · rw [if_pos hxs, if_pos hxs.symm]
      omega
    · rw [if_neg hxs, if_neg (Ne.symm hxs)]
      rfl

theorem pushMembers_typed (rows : List MemberSlot) (G : Group) (h : G.Typed) : (rows.foldl pushMember G).Typed := by
  induction rows generalizing G with
  | nil => exact h
  | cons s rows ih => exact ih (G.pushMember s) (pushMember_typed h s)

/-- **A loaded group** is within the limits just if its rows are. -/
theorem loaded_wellCounted (leader : Nat) (raid : Bool) (rows : List MemberSlot) (G0 : Group)
    (hG0 : G0 = { leaderGuid := leader, raid := raid }) :
    (rows.foldl pushMember (if raid then G0.initRaidSubGroupsCounter else G0)).Typed ∧
      ((rows.foldl pushMember (if raid then G0.initRaidSubGroupsCounter else G0)).WellCounted ↔
        (∀ s ∈ rows, s.group < maxRaidSubGroups) ∧
          (∀ g, rows.countP (fun s => s.group = g) ≤ maxGroupSize) ∧
          rows.length ≤ if raid then maxRaidSize else maxGroupSize) := by
  subst hG0
  set G1 : Group := if raid = true then ({ leaderGuid := leader, raid := raid } : Group).initRaidSubGroupsCounter
    else { leaderGuid := leader, raid := raid } with hG1
  have hfields : G1.memberSlots = [] ∧ G1.raid = raid ∧ G1.Typed ∧ ∀ counts, G1.subGroupsCounts = some counts →
      ∀ g < maxRaidSubGroups, counts g = u8 (G1.membersOf g) := by
    cases raid with
    | false => exact ⟨rfl, rfl, rfl, fun counts h => by cases h⟩
    | true => exact ⟨rfl, rfl, rfl, fun counts h g _ => by obtain rfl := Option.some.inj h; rfl⟩
  obtain ⟨h1, h2, h3, h4⟩ := hfields
  obtain ⟨k1, _, _, k4⟩ := GroupWorld.pushMembers_fields rows G1
  rw [h1, List.nil_append] at k1
  rw [h2] at k4
  refine ⟨pushMembers_typed rows G1 h3, fun h => ⟨k1 ▸ h.subgroups, fun g => ?_, ?_⟩, fun ⟨r1, r2, r3⟩ =>
    ⟨fun counts hc g hg => ?_, by rw [k1]; exact r1, fun g => ?_, by rw [k1, k4]; exact r3⟩⟩
  · have := h.rooms g
    unfold membersOf at this
    rwa [k1] at this
  · have := h.size
    rwa [k1, k4] at this
  · have hroom := r2 g
    rw [pushMembers_counts rows G1 h4 counts hc g hg]
    refine u8_eq _ ?_
    unfold membersOf
    rw [k1]
    unfold maxGroupSize at hroom
    omega
  · unfold membersOf
    rw [k1]
    exact r2 g

end Group

/-! ## All groups -/

namespace GroupWorld

/-- An operation that keeps the law. -/
def Steady (w v : GroupWorld) : Prop := w.Typed → v.Typed ∧ (w.WellCounted → v.WellCounted)

theorem Steady.refl (w : GroupWorld) : Steady w w := fun h => ⟨h, id⟩

theorem Steady.trans {w v u : GroupWorld} (h : Steady w v) (k : Steady v u) : Steady w u := by
  intro ht
  obtain ⟨ht1, hc1⟩ := h ht
  obtain ⟨ht2, hc2⟩ := k ht1
  exact ⟨ht2, fun hc => hc2 (hc1 hc)⟩

section
variable {w v : GroupWorld} {g p : Nat} {G G' : Group} {o : Option Group}

theorem steady_groups (hg : v.groups = w.groups) : Steady w v := by
  unfold Steady Typed WellCounted
  rw [hg]
  exact fun h => ⟨h, id⟩

theorem steady_update (hg : v.groups = Function.update w.groups g o)
    (ho : ∀ G', o = some G' → w.Typed → G'.Typed ∧ (w.WellCounted → G'.WellCounted)) : Steady w v := by
  intro ht
  have hcases : ∀ g' G', v.groups g' = some G' → o = some G' ∨ w.groups g' = some G' := by
    intro g' G' h
    rw [hg] at h
    by_cases he : g' = g
    · subst he
      rw [Function.update_self] at h
      exact Or.inl h
    · rw [Function.update_of_ne he] at h
      exact Or.inr h
  refine ⟨fun g' G' h => ?_, fun hc g' G' h => ?_⟩
  · rcases hcases g' G' h with h | h
    · exact (ho G' h ht).1
    · exact ht g' G' h
  · rcases hcases g' G' h with h | h
    · exact (ho G' h ht).2 hc
    · exact hc g' G' h

theorem steady_same (hG : w.groups g = some G) (hg : v.groups = Function.update w.groups g (some G'))
    (hr : G'.raid = G.raid) (hs : G'.memberSlots = G.memberSlots) (hc : G'.subGroupsCounts = G.subGroupsCounts) :
    Steady w v := by
  refine steady_update hg fun G1 h1 ht => ?_
  cases h1
  refine ⟨?_, fun hw => (hw g G hG).of_same hr hs hc⟩
  unfold Group.Typed
  rw [hr, hc]
  exact ht g G hG

theorem steady_deleteGroup (w : GroupWorld) (g : Nat) : Steady w (w.deleteGroup g) :=
  steady_update (o := none) rfl fun _ h => by cases h

theorem steady_removeInvite (hG : w.groups g = some G) (p : Nat) : Steady w (w.removeInvite g G p) :=
  steady_same hG rfl rfl rfl rfl

theorem steady_newGroup (w : GroupWorld) (bg : Bool) : Steady w (w.newGroup { bgGroup := bg }) := by
  refine steady_update rfl fun G' h _ => ?_
  cases h
  exact ⟨rfl, fun _ => Group.wellCounted_empty rfl fun _ h => by cases h⟩

theorem steady_addInvite (h : w.addInvite g p = some v) : Steady w v := by
  obtain ⟨G, hG, _, _, hg, _⟩ := addInvite_spec h
  exact steady_same hG hg rfl rfl rfl

theorem steady_addLeaderInvite (h : w.addLeaderInvite g p = some v) : Steady w v := by
  obtain ⟨G, hG, _, _, hg, _⟩ := addLeaderInvite_spec h
  exact steady_same hG hg rfl rfl rfl

theorem pushed (ht : G.Typed) (hfull : G.isFull = false) {sub : Nat} (hsub : G.freeSubGroup = some sub) (guid : Nat) :
    (G.pushMember { guid := guid, group := sub }).Typed ∧
      (G.WellCounted → (G.pushMember { guid := guid, group := sub }).WellCounted) := by
  refine ⟨Group.pushMember_typed ht _, fun hc => ?_⟩
  obtain ⟨h1, h2⟩ := Group.freeSubGroup_spec hc ht hfull sub hsub
  exact Group.pushMember_wellCounted hc _ h1 h2 (Group.not_isFull hfull)

theorem steady_addMember (h : w.addMember g p = some v) : Steady w v := by
  obtain ⟨G, sub, hG, hfull, _, hsub, hg, _⟩ := addMember_spec h
  refine steady_update hg fun G1 h1 ht => ?_
  cases h1
  obtain ⟨k1, k2⟩ := pushed (ht g G hG) hfull hsub p
  exact ⟨k1, fun hc => k2 (hc g G hG)⟩

/-- **`Create`** for a group that is empty and, if it is no battleground's, has no counters. -/
theorem steady_create (hG : w.groups g = some G) (hempty : G.memberSlots = [])
    (hc : G.bgGroup = false → G.subGroupsCounts = none) (h0 : p ≠ 0) : Steady w (w.create g p) := by
  obtain ⟨hfull, hsub, hg, _⟩ := create_spec hG hempty hc h0
  obtain ⟨ht, hw⟩ := Group.setUp_wellCounted hempty hc p
  obtain ⟨k1, k2⟩ := pushed ht hfull hsub p
  refine steady_update hg fun G1 h1 _ => ?_
  cases h1
  exact ⟨k1, fun _ => k2 hw⟩

theorem steady_disband_delete (w : GroupWorld) (g : Nat) (G : Group) : Steady w ((w.disband g G).deleteGroup g) := by
  refine steady_update (g := g) (o := none) ?_ fun _ h => by cases h
  show Function.update (w.disband g G).groups g none = _
  rw [(disband_spec w g G).1, Function.update_idem]

theorem steady_removeMemberSlot (hG : w.groups g = some G) (guid : Nat) : Steady w (w.removeMemberSlot g G guid) := by
  refine steady_update (g := g) (o := some (G.dropMember guid)) (by simp [removeMemberSlot]) fun G1 h1 ht => ?_
  cases h1
  exact ⟨Group.dropMember_typed (ht g G hG) guid, fun hc => Group.dropMember_wellCounted (hc g G hG) guid⟩

theorem steady_removeFromGroup (w : GroupWorld) (g guid : Nat) : Steady w (w.removeFromGroup g guid) := by
  unfold removeFromGroup
  split
  · exact Steady.refl w
  next G hG =>
  simp only
  rcases removeMember_cases w g G guid with ⟨h, hcount⟩ | ⟨h, _, _⟩
  · rw [if_pos (by omega), h]
    exact steady_disband_delete w g G
  · rw [h]
    split
    · exact (steady_removeMemberSlot hG guid).trans (steady_deleteGroup _ g)
    · exact steady_removeMemberSlot hG guid

theorem steady_leaveBattleGround (w : GroupWorld) (guid g : Nat) : Steady w (w.leaveBattleGround guid g) := by
  unfold leaveBattleGround
  split
  · exact Steady.refl w
  next G hG =>
  split
  · exact Steady.refl w
  simp only
  rcases removeMember_cases w g G guid with ⟨h, hcount⟩ | ⟨h, _, _⟩
  · rw [if_pos hcount, h]
    exact steady_disband_delete w g G
  · rw [h]
    split
    · exact (steady_removeMemberSlot hG guid).trans (steady_deleteGroup _ g)
    · exact steady_removeMemberSlot hG guid

theorem steady_uninviteFromGroup (w : GroupWorld) (p : Nat) : Steady w (w.uninviteFromGroup p) := by
  unfold uninviteFromGroup
  split
  · exact Steady.refl w
  next g _ =>
  split
  · exact Steady.refl w
  next G hG =>
  simp only
  have h1 := steady_removeInvite hG p
  split
  · split
    · exact h1.trans (steady_disband_delete _ g _)
    · refine h1.trans (steady_update (g := g) (o := none) ?_ fun _ h => by cases h)
      show Function.update (removeAllInvites _ g _).groups g none = _
      rw [(removeAllInvites_spec _ g _).1, Function.update_idem]
  · exact h1

/-- An operation that keeps the law just if the condition `H` holds. -/
def Tallied (w v : GroupWorld) (H : Prop) : Prop :=
  w.Regular → w.Typed → v.Typed ∧ (w.WellCounted → (v.WellCounted ↔ H))

theorem Steady.tallied (h : Steady w v) {H : Prop} (hH : H) : Tallied w v H := fun _ ht =>
  ⟨(h ht).1, fun hc => ⟨fun _ => hH, fun _ => (h ht).2 hc⟩⟩

theorem Tallied.congr {H H' : Prop} (h : Tallied w v H) (hH : w.Typed → (H ↔ H')) : Tallied w v H' :=
  fun hr ht => ⟨(h hr ht).1, fun hc => ((h hr ht).2 hc).trans (hH ht)⟩

theorem tallied_update {H : Prop} (hg : v.groups = Function.update w.groups g (some G')) (ht : w.Typed → G'.Typed)
    (hH : w.Typed → w.WellCounted → (G'.WellCounted ↔ H)) : Tallied w v H := by
  intro _ htw
  have hat : v.groups g = some G' := by rw [hg, Function.update_self]
  refine ⟨fun g' G1 h => ?_, fun hc => ⟨fun hv => (hH htw hc).1 (hv g G' hat), fun h => ?_⟩⟩
  · by_cases he : g' = g
    · subst he
      rw [← Option.some.inj (hat.symm.trans h)]
      exact ht htw
    · rw [hg, Function.update_of_ne he] at h
      exact htw g' G1 h
  · intro g' G1 h1
    by_cases he : g' = g
    · subst he
      rw [← Option.some.inj (hat.symm.trans h1)]
      exact (hH htw hc).2 h
    · rw [hg, Function.update_of_ne he] at h1
      exact hc g' G1 h1

/-! ### Requests -/

theorem steady_handleGroupInvite (w : GroupWorld) (pl player : Nat) (allowed : Bool) :
    Steady w (w.handleGroupInvite pl player allowed) := by
  unfold handleGroupInvite
  split
  · exact Steady.refl w
  split
  · exact Steady.refl w
  split
  · exact Steady.refl w
  split
  · split
    · exact Steady.refl w
    split
    · exact Steady.refl w
    split
    · exact Steady.refl w
    · next g _ _ _ _ _ _ =>
      cases h : w.addInvite g player with
      | none => exact Steady.refl w
      | some v => exact steady_addInvite h
  · simp only
    split
    · exact (steady_newGroup w false).trans (steady_deleteGroup _ _)
    next w1 h1 =>
    have k1 := (steady_newGroup w false).trans (steady_addLeaderInvite h1)
    split
    · exact k1.trans (steady_deleteGroup _ _)
    · next w2 h2 => exact k1.trans (steady_addInvite h2)

theorem steady_formGroup (hG : w.groups g = some G) (hempty : G.memberSlots = []) (hf : G.Forming) :
    Steady w (w.formGroup g G) := by
  unfold formGroup
  split
  · refine (steady_removeInvite hG _).trans (steady_create (G := { G with
      invitees := G.invitees.filter fun q => q != G.leaderGuid }) ?_ hempty (fun _ => hf.party) hf.known)
    simp [removeInvite]
  · exact steady_create hG hempty (fun _ => hf.party) hf.known

theorem steady_handleGroupAccept (w : GroupWorld) (hr : w.Regular) (pl : Nat) : Steady w (w.handleGroupAccept pl) := by
  unfold handleGroupAccept
  split
  · exact Steady.refl w
  next g hi =>
  split
  · exact Steady.refl w
  next G hG =>
  split
  · exact Steady.refl w
  next hleader =>
  have hpi := (hr.pointer pl g hi).2 G hG
  have h1 := steady_removeInvite hG pl
  have hjoin : ∀ w2 : GroupWorld, Steady w w2 → Steady w ((w2.addMember g pl).getD w2) := by
    intro w2 h2
    cases h : w2.addMember g pl with
    | none => exact h2
    | some v => exact h2.trans (steady_addMember h)
  simp only
  split
  · exact h1
  refine hjoin _ ?_
  split
  · next hempty =>
    have hf : G.Forming := by
      rcases (hr.sound g G hG).empty hempty with h | h
      · exact h
      · rw [h.invitees] at hpi; cases hpi
    refine h1.trans (steady_formGroup (by simp [removeInvite]) hempty ⟨hf.known, ?_, hf.party⟩)
    exact List.mem_filter.2 ⟨hf.invited, by simpa using hleader⟩
  · exact h1

theorem steady_handleGroupUninvite (w : GroupWorld) (pl guid : Nat) (elsewhere : Bool) :
    Steady w (w.handleGroupUninvite pl guid elsewhere) := by
  unfold handleGroupUninvite
  split
  · exact Steady.refl w
  split
  · exact Steady.refl w
  split
  · exact Steady.refl w
  split
  · exact Steady.refl w
  split
  · exact Steady.refl w
  split
  · exact steady_removeFromGroup w _ guid
  split
  · exact steady_uninviteFromGroup w guid
  · exact Steady.refl w

theorem steady_handleGroupSetLeader (w : GroupWorld) (pl guid : Nat) : Steady w (w.handleGroupSetLeader pl guid) := by
  unfold handleGroupSetLeader
  split
  · exact Steady.refl w
  split
  · exact Steady.refl w
  next hG =>
  split
  · exact Steady.refl w
  split
  · exact steady_same hG rfl rfl rfl rfl
  · exact Steady.refl w

theorem steady_handleGroupLeave (w : GroupWorld) (pl : Nat) (elsewhere : Bool) :
    Steady w (w.handleGroupLeave pl elsewhere) := by
  unfold handleGroupLeave
  split
  · exact Steady.refl w
  split
  · exact Steady.refl w
  · exact steady_removeFromGroup w _ pl

theorem steady_handleRaidConvert (w : GroupWorld) (pl : Nat) (elsewhere : Bool) :
    Steady w (w.handleRaidConvert pl elsewhere) := by
  unfold handleRaidConvert
  split
  · exact Steady.refl w
  split
  · exact Steady.refl w
  next g _ _ G hG =>
  split
  · exact Steady.refl w
  split
  · exact Steady.refl w
  · refine steady_update rfl fun G1 h1 _ => ?_
    cases h1
    exact ⟨rfl, fun hc => Group.convertToRaid_wellCounted (hc g G hG)⟩

theorem steady_handleGroupAssistant (w : GroupWorld) (pl guid : Nat) (flag : Bool) :
    Steady w (w.handleGroupAssistant pl guid flag) := by
  unfold handleGroupAssistant
  split
  · exact Steady.refl w
  split
  · exact Steady.refl w
  next g _ _ G hG =>
  split
  · exact Steady.refl w
  · refine steady_update rfl fun G1 h1 ht => ?_
    cases h1
    refine ⟨?_, fun hc => Group.setAssistant_wellCounted (hc g G hG) guid flag⟩
    unfold Group.setAssistant
    split <;> exact ht g G hG

theorem steady_enterBattleGround (w : GroupWorld) (pl : Nat) (raid : Option Nat) (h0 : pl ≠ 0) :
    Steady w (w.enterBattleGround pl raid) := by
  unfold enterBattleGround
  split
  · refine (steady_newGroup w true).trans (steady_create (G := { bgGroup := true }) ?_ rfl (fun h => by cases h) h0)
    simp [newGroup]
  · split
    · exact Steady.refl w
    split
    · exact Steady.refl w
    split
    · exact steady_groups rfl
    next g _ _ _ _ _ =>
    cases h : w.addMember g pl with
    | none => exact Steady.refl w
    | some v => exact steady_addMember h

theorem steady_login (w : GroupWorld) (pl : Nat) (g : Option Nat) : Steady w (w.login pl g) := by
  unfold login
  split
  · exact Steady.refl w
  · exact steady_groups rfl

theorem steady_teleport (w : GroupWorld) (pl : Nat) (inWorld : Bool) : Steady w (w.teleport pl inWorld) := by
  unfold teleport
  split
  · exact steady_groups rfl
  · exact Steady.refl w

theorem steady_logout (w : GroupWorld) (pl : Nat) (socket : Bool) : Steady w (w.logout pl socket) := by
  have h1 := steady_uninviteFromGroup w pl
  unfold logout
  simp only
  refine Steady.trans ?_ (steady_groups (modifyPlayer_groups _ _ _))
  split
  · exact h1
  split
  · exact h1
  split
  · exact h1.trans (steady_removeFromGroup _ _ pl)
  · exact h1

theorem steady_deleteCharacter (w : GroupWorld) (guid g : Nat) : Steady w (w.deleteCharacter guid g) := by
  unfold deleteCharacter
  split
  · exact Steady.refl w
  · exact steady_removeFromGroup w g guid

/-! ### The steps that can go wrong -/

theorem load_tallied (w : GroupWorld) (leader : Nat) (raid : Bool) (rows : List MemberSlot) :
    Tallied w (w.load leader raid rows) (w.Heedful (.load leader raid rows)) := by
  obtain ⟨ht, hw⟩ := Group.loaded_wellCounted leader raid rows _ rfl
  obtain ⟨hm, _⟩ := pushMembers_fields rows (if raid = true then
    ({ leaderGuid := leader, raid := raid } : Group).initRaidSubGroupsCounter
    else { leaderGuid := leader, raid := raid })
  have hnil : (if raid = true then ({ leaderGuid := leader, raid := raid } : Group).initRaidSubGroupsCounter
    else { leaderGuid := leader, raid := raid }).memberSlots = [] := by split <;> rfl
  rw [hnil, List.nil_append] at hm
  unfold load Heedful
  simp only
  by_cases hlen : rows.length < 2
  · rw [hm, if_pos hlen]
    exact (Steady.trans (steady_groups (w := w) (v := { w with nextGroup := w.nextGroup + 1 }) rfl)
      (steady_disband_delete _ _ _)).tallied (Or.inl hlen)
  · rw [hm, if_neg hlen]
    refine tallied_update rfl (fun _ => ht) fun _ _ => hw.trans ⟨Or.inr, fun h => h.resolve_left hlen⟩

theorem disband_tallied (hG : w.groups g = some G) :
    Tallied w (w.disband g G) (G.raid = true → G.memberSlots = []) :=
  tallied_update (disband_spec w g G).1 (fun ht => ht g G hG) fun ht hc =>
    Group.disbanded_wellCounted (hc g G hG) (ht g G hG)

theorem disbandCommand_tallied (w : GroupWorld) (g : Nat) :
    Tallied w (w.disbandCommand g) (w.Heedful (.disbandCommand g)) := by
  unfold disbandCommand Heedful
  split
  · next h => exact (Steady.refl w).tallied fun G hG => by rw [h] at hG; cases hG
  · next G hG =>
    refine (disband_tallied hG).congr fun _ => ⟨fun h G1 h1 => ?_, fun h => h G hG⟩
    rwa [← Option.some.inj (hG.symm.trans h1)]

theorem removeCommand_tallied (w : GroupWorld) (g guid : Nat) :
    Tallied w (w.removeCommand g guid) (w.Heedful (.removeCommand g guid)) := by
  unfold removeCommand Heedful
  split
  · next h => exact (Steady.refl w).tallied fun G hG => by rw [h] at hG; cases hG
  next G hG =>
  have honly : ∀ {P : Group → Prop}, P G → ∀ G', w.groups g = some G' → P G' := fun {P} h G' h' => by
    rwa [← Option.some.inj (hG.symm.trans h')]
  rcases removeMember_cases w g G guid with ⟨h, hcount⟩ | ⟨h, hlen, _⟩
  · rw [h]
    refine (disband_tallied hG).congr fun _ => ⟨fun hd => honly fun hr => Or.inl (hd hr), fun hd hr => ?_⟩
    rcases hd G hG hr with hd | hd
    · exact hd
    · -- a group that is large enough is not disbanded
      rw [show w.removeMember g G guid = w.removeMemberSlot g G guid from if_pos hd] at hcount
      have := (dropMember_fields G guid).2.2.2
      unfold membersCount removeMemberSlot at hcount
      simp only [setGroupAt_groups, Function.update_self, Option.map_some, Option.getD_some] at hcount
      split at hd <;> omega
  · rw [h]
    exact (steady_removeMemberSlot hG guid).tallied (honly fun _ => Or.inr hlen)

theorem hasFreeSlot_room (hc : G.WellCounted) {heap : Nat → Nat} {group : Nat}
    (h : G.hasFreeSlotSubGroup heap group = true) (hlt : group < maxRaidSubGroups) :
    G.membersOf group < maxGroupSize := by
  unfold Group.hasFreeSlotSubGroup at h
  split at h
  · cases h
  · next counts hcs =>
    rw [if_pos hlt] at h
    rw [← hc.counted counts hcs group hlt]
    simpa using h

theorem moved_counts {H : Group} {up down : Nat} {counts0 : Nat → Nat} (hc0 : G.subGroupsCounts = some counts0)
    (hsmall : ∀ x < maxRaidSubGroups, counts0 x ≤ maxGroupSize)
    (hH : H.subGroupsCounts = ((G.subGroupCounterIncrease up).subGroupCounterDecrease down).subGroupsCounts ∨
      H.subGroupsCounts = ((G.subGroupCounterDecrease down).subGroupCounterIncrease up).subGroupsCounts) :
    ∃ counts, H.subGroupsCounts = some counts ∧ ∀ x < maxRaidSubGroups,
      counts x = u8 (counts0 x + (if x = up then 1 else 0) + if x = down then 255 else 0) := by
  have hsome : ∀ (K : Group) (f : Nat → Nat) (y : Nat) (c : Nat → Nat), K.subGroupsCounts = some c →
      ∃ c', (K.countSubGroup f y).subGroupsCounts = some c' ∧
        ∀ x < maxRaidSubGroups, c' x = if x = y then f (c x) else c x := by
    intro K f y c hc
    have : ∃ c', (K.countSubGroup f y).subGroupsCounts = some c' := by
      unfold Group.countSubGroup
      simp [hc]
    obtain ⟨c', hc'⟩ := this
    obtain ⟨c0, h0, hx⟩ := Group.countSubGroup_counts _ _ _ _ hc'
    cases hc.symm.trans h0
    exact ⟨c', hc', hx⟩
  rcases hH with hH | hH
  · obtain ⟨c1, h1, k1⟩ := hsome G (fun n => u8 (n + 1)) up counts0 hc0
    obtain ⟨c2, h2, k2⟩ := hsome _ (fun n => u8 (n + 255)) down c1 h1
    refine ⟨c2, hH.trans h2, fun x hx => ?_⟩
    have := hsmall x hx
    rw [k2 x hx, k1 x hx]
    unfold u8 maxGroupSize at *
    split <;> split <;> omega
  · obtain ⟨c1, h1, k1⟩ := hsome G (fun n => u8 (n + 255)) down counts0 hc0
    obtain ⟨c2, h2, k2⟩ := hsome _ (fun n => u8 (n + 1)) up c1 h1
    refine ⟨c2, hH.trans h2, fun x hx => ?_⟩
    have := hsmall x hx
    rw [k2 x hx, k1 x hx]
    unfold u8 maxGroupSize at *
    split <;> split <;> omega

theorem prev_eq (w : GroupWorld) (g guid : Nat) (byPlayer : Bool) (hby : byPlayer = false) :
    w.prevSubGroup g guid byPlayer =
      if (w.players guid).group = some g then (w.players guid).subGroup else (w.players guid).originalSubGroup := by
  unfold prevSubGroup
  simp [hby]

/-- **A member is moved**: the law is kept just if it is to a subgroup that exists, and the one he
is counted out of is his own. -/
theorem changeSubGroup_moved {heap : Nat → Nat} {guid group down : Nat} {s : MemberSlot} {slots : List MemberSlot}
    {H : Group} (hw : G.WellCounted) (hfree : G.hasFreeSlotSubGroup heap group = true)
    (hs : G.memberSlot guid = some s) (hmoved : Group.SlotMoved G.memberSlots s group slots)
    (hslots : H.memberSlots = slots) (hraid : H.raid = G.raid)
    (hcounts : H.subGroupsCounts = ((G.subGroupCounterIncrease group).subGroupCounterDecrease down).subGroupsCounts ∨
      H.subGroupsCounts = ((G.subGroupCounterDecrease down).subGroupCounterIncrease group).subGroupsCounts) :
    H.WellCounted ↔ group < maxRaidSubGroups ∧ down = s.group := by
  obtain ⟨counts0, hc0⟩ : ∃ counts0, G.subGroupsCounts = some counts0 := by
    cases h : G.subGroupsCounts with
    | none => unfold Group.hasFreeSlotSubGroup at hfree; rw [h] at hfree; cases hfree
    | some c => exact ⟨c, rfl⟩
  have hsmall : ∀ x < maxRaidSubGroups, counts0 x ≤ maxGroupSize := fun x hx => by
    rw [hw.counted counts0 hc0 x hx]
    exact hw.rooms x
  obtain ⟨counts, hcs, hx⟩ := moved_counts hc0 hsmall hcounts
  exact Group.moved_wellCounted hw hs hraid hslots hmoved (hasFreeSlot_room hw hfree) counts counts0 hcs hc0 hx

theorem changeSubGroup_tallied (w : GroupWorld) (pl guid : Nat) (spelled : Bool) (groupNr : Nat) (heap : Nat → Nat)
    (hpl : (w.players pl).inWorld = true) :
    Tallied w (w.handleGroupChangeSubGroup pl guid spelled groupNr heap)
      (w.Heedful (.changeSubGroup pl guid spelled groupNr heap)) := by
  unfold handleGroupChangeSubGroup Heedful
  simp only
  split
  · next h => exact (Steady.refl w).tallied fun g G _ hg => (by rw [h] at hg; cases hg)
  next g hg =>
  split
  · next h =>
    refine (Steady.refl w).tallied fun g1 G _ hg1 hG => ?_
    cases hg.symm.trans hg1
    rw [h] at hG
    cases hG
  next G hG =>
  -- the handler looks at this group, and so does the condition
  have hone : ∀ {P : Nat → Group → Prop}, (∀ g1 G1, (w.players pl).inWorld = true → (w.players pl).group = some g1 →
      w.groups g1 = some G1 → P g1 G1) ↔ P g G := by
    intro P
    refine ⟨fun h => h g G hpl hg hG, fun h g1 G1 _ hg1 hG1 => ?_⟩
    cases hg.symm.trans hg1
    rwa [← Option.some.inj (hG.symm.trans hG1)]
  split
  · next h => exact (Steady.refl w).tallied (hone.2 fun hl => by simp [h] at hl)
  next hlead =>
  have hlead : G.isLeader pl = true ∨ G.isAssistant pl = true := by
    by_contra hno
    rw [not_or] at hno
    exact hlead ⟨by simpa using hno.1, by simpa using hno.2⟩
  split
  · next h => exact (Steady.refl w).tallied (hone.2 fun _ hf => by rw [h] at hf; cases hf)
  next hfree =>
  have hfree : G.hasFreeSlotSubGroup heap groupNr = true := by simpa using hfree
  have hraid : w.Typed → G.raid = true := by
    intro ht
    rw [ht g G hG]
    cases h : G.subGroupsCounts with
    | none => unfold Group.hasFreeSlotSubGroup at hfree; rw [h] at hfree; cases hfree
    | some c => rfl
  refine Tallied.congr (H := (w.players guid).inWorld = true →
    (∀ s, G.memberSlot guid = some s → groupNr < maxRaidSubGroups ∧ w.prevSubGroup g guid spelled = s.group) ∧
      (G.memberSlot guid = none → spelled = true ∨ maxRaidSubGroups ≤ w.prevSubGroup g guid spelled)) ?_ fun _ =>
    ⟨fun h => hone.2 fun _ _ => h, fun h => hone.1 h hlead hfree⟩
  split
  · -- the player is found by his name
    next h =>
    obtain ⟨hsp, hin⟩ := h
    unfold changePlayersGroup
    intro hr ht
    rw [if_neg (by simp [hraid ht])]
    have hprev : w.prevSubGroup g guid spelled = (w.players guid).subGroup := by
      unfold prevSubGroup
      rw [if_pos (Or.inl hsp)]
    cases hs : G.memberSlot guid with
    | none =>
      rw [Group.setMembersGroup_none hs]
      exact (Steady.refl w).tallied (fun _ => ⟨fun s h => (by cases h), fun _ => Or.inl hsp⟩) hr ht
    | some s =>
      obtain ⟨slots, hset, hmoved⟩ := Group.setMembersGroup_some hs groupNr
      rw [hset]
      refine @tallied_update _ _ g ((({ G with memberSlots := slots } : Group).subGroupCounterIncrease
        groupNr).subGroupCounterDecrease (w.players guid).subGroup) _ rfl (fun _ => ?_) (fun _ hc => ?_) hr ht
      · exact Group.countSubGroup_typed (Group.countSubGroup_typed (G := { G with memberSlots := slots }) (ht g G hG) _ _)
          _ _
      · refine Iff.trans (changeSubGroup_moved (hc g G hG) hfree hs hmoved rfl rfl (Or.inl rfl)) ?_
        refine ⟨fun h _ => ⟨fun s1 h1 => ?_, fun h => (by cases h)⟩, fun h => ?_⟩
        · rw [← Option.some.inj h1, hprev]; exact h
        · have := (h hin).1 s rfl
          rwa [hprev] at this
  · -- by the GUID of his name
    next hnot =>
    unfold changeMembersGroup
    intro hr ht
    rw [if_neg (by simp [hraid ht])]
    split
    · next h => exact (Steady.refl w).tallied (fun hin => by rw [h] at hin; cases hin) hr ht
    next hin =>
    have hin : (w.players guid).inWorld = true := by simpa using hin
    have hprev := prev_eq w g guid spelled (by
      cases hsp : spelled with
      | false => rfl
      | true => exact absurd ⟨hsp, hin⟩ hnot)
    simp only
    rw [← hprev]
    have htyped : (G.subGroupCounterDecrease (w.prevSubGroup g guid spelled)).Typed :=
      Group.countSubGroup_typed (ht g G hG) _ _
    cases hs : G.memberSlot guid with
    | none =>
      rw [Group.setMembersGroup_none (G := G.subGroupCounterDecrease _) hs]
      refine @tallied_update _ _ g (G.subGroupCounterDecrease (w.prevSubGroup g guid spelled)) _ rfl
        (fun _ => htyped) (fun _ hc => ?_) hr ht
      rw [Group.lowered_wellCounted (hc g G hG) ((ht g G hG).symm.trans (hraid ht))]
      refine ⟨fun h _ => ⟨fun s h1 => (by cases h1), fun _ => Or.inr h⟩, fun h => ?_⟩
      rcases (h hin).2 rfl with h1 | h1
      · exact absurd ⟨h1, hin⟩ hnot
      · exact h1
    | some s =>
      obtain ⟨slots, hset, hmoved⟩ := Group.setMembersGroup_some
        (G := G.subGroupCounterDecrease (w.prevSubGroup g guid spelled)) hs groupNr
      rw [hset]
      refine @tallied_update _ _ g (({ G.subGroupCounterDecrease (w.prevSubGroup g guid spelled) with
        memberSlots := slots } : Group).subGroupCounterIncrease groupNr) _ rfl (fun _ => ?_) (fun _ hc => ?_) hr ht
      · exact Group.countSubGroup_typed
          (G := { G.subGroupCounterDecrease (w.prevSubGroup g guid spelled) with memberSlots := slots }) htyped _ _
      · refine Iff.trans (changeSubGroup_moved (hc g G hG) hfree hs hmoved rfl rfl (Or.inr rfl)) ?_
        refine ⟨fun h _ => ⟨fun s1 h1 => ?_, fun h => (by cases h)⟩, fun h => (h hin).1 s rfl⟩
        rw [← Option.some.inj h1]
        exact h

/-! ## Every request -/

/-- **Every request** keeps the law just if it is heedful. -/
theorem step_tallied (w : GroupWorld) (r : GroupRequest) : Tallied w (w.step r) (w.Heedful r) := by
  have handled : ∀ {pl : Nat} {v : GroupWorld}, Steady w v → Steady w (w.handle pl v) := by
    intro pl v h
    unfold handle
    split
    · exact h
    · exact Steady.refl w
  cases r with
  | invite pl player allowed => exact (handled (steady_handleGroupInvite w pl player allowed)).tallied trivial
  | accept pl => exact fun hr => (handled (steady_handleGroupAccept w hr pl)).tallied trivial hr
  | decline pl => exact (handled (steady_uninviteFromGroup w pl)).tallied trivial
  | uninvite pl guid elsewhere => exact (handled (steady_handleGroupUninvite w pl guid elsewhere)).tallied trivial
  | setLeader pl guid => exact (handled (steady_handleGroupSetLeader w pl guid)).tallied trivial
  | leave pl elsewhere => exact (handled (steady_handleGroupLeave w pl elsewhere)).tallied trivial
  | convertToRaid pl elsewhere => exact (handled (steady_handleRaidConvert w pl elsewhere)).tallied trivial
  | changeSubGroup pl guid spelled groupNr heap =>
    show Tallied w (w.handle pl _) _
    unfold handle
    split
    · next hpl => exact changeSubGroup_tallied w pl guid spelled groupNr heap hpl
    · next hpl => exact (Steady.refl w).tallied fun _ _ h => absurd h hpl
  | assistant pl guid flag => exact (handled (steady_handleGroupAssistant w pl guid flag)).tallied trivial
  | enterBattleGround pl raid =>
    refine fun hr => Steady.tallied ?_ trivial hr
    show Steady w (w.handle pl _)
    unfold handle
    split
    · next hpl => exact steady_enterBattleGround w pl raid (hr.ne_zero hpl)
    · exact Steady.refl w
  | leaveBattleGround guid g => exact (steady_leaveBattleGround w guid g).tallied trivial
  | login pl g => exact (steady_login w pl g).tallied trivial
  | teleport pl inWorld => exact (steady_teleport w pl inWorld).tallied trivial
  | logout pl socket => exact (steady_logout w pl socket).tallied trivial
  | deleteCharacter guid g => exact (steady_deleteCharacter w guid g).tallied trivial
  | load leader raid rows => exact load_tallied w leader raid rows
  | disbandCommand g => exact disbandCommand_tallied w g
  | removeCommand g guid => exact removeCommand_tallied w g guid

end

/-- **Subgroups are counted**, and groups and subgroups are within their limits, after every request
of a run just if every member who is moved is moved to a subgroup that exists and out of his
own, the rows of every group that is loaded are within the limits, and no raid with members is
disbanded by command. -/
theorem subGroups_counted (rs : List GroupRequest) :
    Transition.Along GroupWorld.step (fun w r => (w.step r).WellCounted) {} rs ↔
      Transition.Along GroupWorld.step GroupWorld.Heedful {} rs :=
  Transition.along_iff (J := fun w => w.Regular ∧ w.Typed) (I := WellCounted)
    (fun w r hj => ⟨(step_exact w r hj.1).1, (step_tallied w r hj.1 hj.2).1⟩) (fun _ _ _ h => h)
    (fun w r hj hc => (step_tallied w r hj.1 hj.2).2 hc) ⟨regular_empty, fun _ _ h => by cases h⟩
    fun _ _ h => by cases h

/-- Player 1 leads a raid in which player 2 is in subgroup 3 and enters a battleground; then player 1
moves him to subgroup 5. -/
def battleGroundMove : List GroupRequest :=
  [.login 1 none, .login 2 none, .invite 1 2 true, .accept 2, .convertToRaid 1 false,
    .changeSubGroup 1 2 true 3 fun _ => 0, .enterBattleGround 2 none, .changeSubGroup 1 2 true 5 fun _ => 0]

/-- **Another group's subgroup**: it is subgroup 0 that loses a count, that of the battleground's
raid, where player 1 is, and subgroup 3, where nobody is any more, keeps its. -/
theorem moved_from_battleground :
    (∃ G counts, (Transition.run GroupWorld.step {} battleGroundMove).groups 1 = some G ∧
      G.subGroupsCounts = some counts ∧ counts 0 = 0 ∧ G.membersOf 0 = 1 ∧ counts 3 = 1 ∧ G.membersOf 3 = 0) ∧
      ¬ (Transition.run GroupWorld.step {} battleGroundMove).WellCounted := by
  have h : ∃ G counts, (Transition.run GroupWorld.step {} battleGroundMove).groups 1 = some G ∧
      G.subGroupsCounts = some counts ∧ counts 0 = 0 ∧ G.membersOf 0 = 1 ∧ counts 3 = 1 ∧ G.membersOf 3 = 0 :=
    ⟨_, _, rfl, rfl, rfl, rfl, rfl, rfl⟩
  refine ⟨h, fun hw => ?_⟩
  obtain ⟨G, counts, hG, hc, h0, h1, _⟩ := h
  have := (hw 1 G hG).counted counts hc 0 (by decide)
  omega

end GroupWorld

end BlizzLike
