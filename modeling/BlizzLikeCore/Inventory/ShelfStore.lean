import BlizzLikeCore.Inventory.ShelfMoves
import BlizzLikeCore.Inventory.CanStore

/-!
# Storing over a destination list

`store` is what `StoreItem` does to a shelf: the units of one object go to the destinations of
a list, in clones for every destination but the last, merged where the place holds a stack.

    storeAt_spec : one destination with room for the units
    store_spec   : a list in which every destination has room (`FitsIn`)
-/

namespace BlizzLike

namespace Shelf

/-! ## Algorithm -/

/-- The object a clone of `count` units is. -/
def cloneOf (g : Goods) (pl count : Nat) : Goods :=
  { entry := g.entry, count := count, owner := pl, slot := 0, container := none, gone := false
    numSlots := g.numSlots, bagslot := fun _ => none }

/-- The object is merged into another one. -/
def merged (s : Shelf) (pl g : Nat) : Shelf := s.modify g fun x => { x with owner := pl, gone := true }

def storeAt (s : Shelf) (pl bag slot g count : Nat) (clone : Bool) : Shelf :=
  match s.itemAt pl bag slot with
  | none =>
    if clone then (s.create (cloneOf (s.goods g) pl count)).put pl bag slot s.nextGuid
    else (s.setCount g count).put pl bag slot g
  | some k =>
    let t := s.setCount k ((s.goods k).count + count)
    if clone then t else t.merged pl g

def store (pl g : Nat) : List ItemPosCount → Shelf → Shelf
  | [], s => s
  | [d], s => s.storeAt pl (d.pos / 256) (d.pos % 256) g d.count false
  | d :: d' :: ds, s =>
    store pl g (d' :: ds) (s.storeAt pl (d.pos / 256) (d.pos % 256) g d.count true)

/-- Units of `proto` that still fit at a place. -/
def room (s : Shelf) (proto : ItemPrototype) (pl bag slot : Nat) : Nat :=
  match s.itemAt pl bag slot with
  | none => proto.stackable
  | some k => if (s.goods k).entry = proto.itemId then proto.stackable - (s.goods k).count else 0

/-- No slot of a player, buyback slots included, refers to an object that is gone. -/
def Alive (s : Shelf) : Prop := ∀ p q i, s.slots p q = some i → (s.goods i).gone = false

/-! ## Lemmas -/

variable {om : ObjectMgr} {s t : Shelf}

theorem setCount_goods_self (s : Shelf) (x count : Nat) :
    (s.setCount x count).goods x = { s.goods x with count := count } := by simp [setCount]

theorem setCount_goods_of_ne (s : Shelf) (x count i : Nat) (h : i ≠ x) :
    (s.setCount x count).goods i = s.goods i := by simp [setCount, h]

theorem setCount_keeps (s : Shelf) (x count i : Nat) :
    ((s.setCount x count).goods i).entry = (s.goods i).entry ∧
      ((s.setCount x count).goods i).gone = (s.goods i).gone ∧
      ((s.setCount x count).goods i).container = (s.goods i).container ∧
      ((s.setCount x count).goods i).numSlots = (s.goods i).numSlots ∧
      ((s.setCount x count).goods i).bagslot = (s.goods i).bagslot := by
  by_cases hi : i = x
  · rw [hi, setCount_goods_self]; exact ⟨rfl, rfl, rfl, rfl, rfl⟩
  · rw [setCount_goods_of_ne s x count i hi]; exact ⟨rfl, rfl, rfl, rfl, rfl⟩

theorem setCount_itemAt (s : Shelf) (x count p B S : Nat) :
    (s.setCount x count).itemAt p B S = s.itemAt p B S := by
  refine itemAt_eq_of p B S (fun q _ => rfl) fun q i _ _ _ => ?_
  obtain ⟨-, -, -, h1, h2⟩ := setCount_keeps s x count i
  exact ⟨h1, by rw [h2]⟩

theorem setCount_stacked (s : Shelf) (x count : Nat) (hx : s.Stacked om x) (h0 : 0 < count)
    (hle : ∀ proto, om.getItemPrototype (s.goods x).entry = some proto → count ≤ proto.stackable) :
    (s.setCount x count).Stacked om x := by
  obtain ⟨proto, hp, -, -, hm⟩ := hx.proto
  refine ⟨?_, hx.old, proto, ?_⟩
  · rw [setCount_goods_self]; exact hx.kept
  · rw [setCount_goods_self]; exact ⟨hp, h0, hle proto hp, hm⟩

/-- **Another count** changes the total of its entry, and nothing else. -/
theorem total_setCount (ho : s.Orderly om) (pl bag slot x count : Nat) (hx : s.itemAt pl bag slot = some x)
    (p e : Nat) :
    (s.setCount x count).total p e + (if p = pl ∧ e = (s.goods x).entry then (s.goods x).count else 0) =
      s.total p e + if p = pl ∧ e = (s.goods x).entry then count else 0 := by
  have hother : ∀ p B S, ¬(p = pl ∧ B = bag ∧ S = slot) → SamePlace s (s.setCount x count) p B S := by
    intro p B S hne
    refine ⟨setCount_itemAt s x count p B S, fun i hi => ?_⟩
    have hix : i ≠ x := fun heq => hne (ho.itemAt_inj p B S pl bag slot x (heq ▸ hi) hx)
    rw [setCount_goods_of_ne s x count i hix]
    exact ⟨rfl, rfl, rfl⟩
  by_cases hp : p = pl
  · subst hp
    have hch := total_change_place (s := s) (t := s.setCount x count) p e bag slot
      ((slotExists_of_item p bag slot x hx).pos ho) fun B S hne => (hother p B S fun he => hne he.2).unitsAt_eq e
    have hold : s.unitsAt p e bag slot = if e = (s.goods x).entry then (s.goods x).count else 0 := by
      unfold unitsAt
      rw [hx]
      simp only [unitsIn, Option.elim, unitsOf, eq_comm]
    have hnew : (s.setCount x count).unitsAt p e bag slot = if e = (s.goods x).entry then count else 0 := by
      unfold unitsAt
      rw [setCount_itemAt, hx]
      simp only [unitsIn, Option.elim, unitsOf, setCount_goods_self, eq_comm]
    rw [hold, hnew] at hch
    simpa using hch
  · rw [if_neg fun h => hp h.1, if_neg fun h => hp h.1, Nat.add_zero, Nat.add_zero]
    exact total_same p e fun B S => (hother p B S fun he => hp he.1).unitsAt_eq e

theorem Orderly.unitsAt_le (ho : s.Orderly om) (pl e bag slot : Nat) : s.unitsAt pl e bag slot ≤ 255 := by
  unfold unitsAt
  cases hx : s.itemAt pl bag slot with
  | none => exact Nat.zero_le _
  | some x =>
    obtain ⟨proto, -, -, hle, -⟩ := (ho.itemAt_back pl bag slot x hx).1.proto
    have hmax := proto.stackable_le
    simp only [unitsIn, Option.elim, unitsOf]
    split <;> omega

theorem Orderly.total_le (ho : s.Orderly om) (pl e : Nat) : s.total pl e ≤ 118 * (255 + 36 * 255) := by
  have hslot : ∀ slot ∈ ownSlots, s.slotTotal pl e slot ≤ 255 + 36 * 255 := by
    intro slot _
    rw [slotTotal_eq]
    refine Nat.add_le_add (ho.unitsAt_le pl e _ _) ?_
    split
    · exact Finset.sum_le_card_nsmul (Finset.range maxBagSize) _ 255 fun j _ => ho.unitsAt_le pl e slot j
    · exact Nat.zero_le _
  have hcard : ownSlots.card ≤ 118 :=
    (Finset.card_filter_le _ _).trans (Nat.le_of_eq (Finset.card_range playerSlotEnd))
  exact (Finset.sum_le_card_nsmul ownSlots _ _ hslot).trans (Nat.mul_le_mul_right _ hcard)

theorem Orderly.itemAt_ne_loose (ho : s.Orderly om) (x : Nat) (hx : s.Loose x) (p B S i : Nat)
    (h : s.itemAt p B S = some i) : i ≠ x := by
  rintro rfl
  rcases itemAt_eq_some s p B S i h with ⟨-, -, hs⟩ | ⟨-, b, -, -, hin⟩
  · exact hx.slots p S hs
  · have := (ho.inside b S i hin).1
    rw [hx.container] at this; cases this

theorem modify_loose_samePlace (ho : s.Orderly om) (x : Nat) (hx : s.Loose x) (f : Goods → Goods)
    (p B S : Nat) : SamePlace s (s.modify x f) p B S := by
  have hnex : ∀ p q i, s.slots p q = some i → i ≠ x := by
    rintro p q i hs rfl
    exact hx.slots p q hs
  refine ⟨itemAt_eq_of p B S (fun q _ => rfl) fun q i _ hs _ => ?_, fun i hi => ?_⟩
  · rw [modify_goods_of_ne s x i f (hnex p q i hs)]; exact ⟨rfl, rfl⟩
  · rw [modify_goods_of_ne s x i f (ho.itemAt_ne_loose x hx p B S i hi)]; exact ⟨rfl, rfl, rfl⟩

theorem create_samePlace (ho : s.Orderly om) (g : Goods) (p B S : Nat) :
    SamePlace s (s.create g) p B S := by
  have hx := ho.fresh s.nextGuid le_rfl
  have hnex : ∀ p q i, s.slots p q = some i → i ≠ s.nextGuid := by
    rintro p q i hs rfl
    exact hx.slots p q hs
  refine ⟨itemAt_eq_of p B S (fun q _ => rfl) fun q i _ hs _ => ?_, fun i hi => ?_⟩
  · rw [create_goods_of_ne s g i (hnex p q i hs)]; exact ⟨rfl, rfl⟩
  · rw [create_goods_of_ne s g i (ho.itemAt_ne_loose _ hx p B S i hi)]; exact ⟨rfl, rfl, rfl⟩

theorem SamePlace.trans {u : Shelf} {p B S : Nat} (h : SamePlace s t p B S) (h' : SamePlace t u p B S) :
    SamePlace s u p B S := by
  refine ⟨h'.1.trans h.1, fun i hi => ?_⟩
  obtain ⟨h1, h2, h3⟩ := h.2 i hi
  obtain ⟨h1', h2', h3'⟩ := h'.2 i (h.1.trans hi)
  exact ⟨h1'.trans h1, h2'.trans h2, h3'.trans h3⟩

theorem SlotExists.mono {pl bag slot : Nat} (h : s.SlotExists pl bag slot)
    (hs : ∀ b, s.own pl bag = some b → t.own pl bag = some b ∧
      (t.goods b).numSlots = (s.goods b).numSlots) : t.SlotExists pl bag slot := by
  rcases h with h | ⟨hbag, b, hb, hlt⟩
  · exact Or.inl h
  · obtain ⟨h1, h2⟩ := hs b hb
    exact Or.inr ⟨hbag, b, h1, by rw [h2]; exact hlt⟩

/-! ### One destination -/

/-- `count` units of `g` went to a place: the rest of the shelf is as it was. -/
structure IsStored (om : ObjectMgr) (s t : Shelf) (pl bag slot g count : Nat) : Prop where
  orderly : t.Orderly om
  there : ∃ k, t.itemAt pl bag slot = some k ∧ (t.goods k).entry = (s.goods g).entry ∧
    (t.goods k).count = s.unitsAt pl (s.goods g).entry bag slot + count
  other : ∀ entry, entry ≠ (s.goods g).entry → s.unitsAt pl entry bag slot = 0
  elsewhere : ∀ p B S, ¬(p = pl ∧ B = bag ∧ S = slot) → SamePlace s t p B S
  alive : s.Alive → t.Alive
  loose : ∀ y, y ≠ g → y < s.nextGuid → s.Loose y → t.Loose y ∧ t.goods y = s.goods y
  numSlots : ∀ i < s.nextGuid, (t.goods i).numSlots = (s.goods i).numSlots
  next : s.nextGuid ≤ t.nextGuid
  stays : ∀ i, s.itemAt pl bag slot = some i → t.itemAt pl bag slot = some i

theorem unitsAt_none (s : Shelf) (pl entry bag slot : Nat) (h : s.itemAt pl bag slot = none) :
    s.unitsAt pl entry bag slot = 0 := by
  unfold unitsAt
  rw [h]; rfl

theorem unitsAt_some (s : Shelf) (pl entry bag slot k : Nat) (h : s.itemAt pl bag slot = some k) :
    s.unitsAt pl entry bag slot = if (s.goods k).entry = entry then (s.goods k).count else 0 := by
  unfold unitsAt
  rw [h]; rfl

theorem IsPut.isStored {u : Shelf} {pl bag slot g x count : Nat} (h : IsPut om u t pl bag slot x)
    (hfree : s.itemAt pl bag slot = none) (hse : ∀ p B S, SamePlace s u p B S)
    (hx : (u.goods x).entry = (s.goods g).entry ∧ (u.goods x).count = count ∧
      (u.goods x).gone = false) (hslots : ∀ p q, u.slots p q = s.slots p q)
    (hgone : ∀ i, i ≠ x → (u.goods i).gone = (s.goods i).gone)
    (hloose : ∀ y, y ≠ g → y < s.nextGuid → s.Loose y → y ≠ x ∧ u.Loose y ∧ u.goods y = s.goods y)
    (hnum : ∀ i < s.nextGuid, (u.goods i).numSlots = (s.goods i).numSlots)
    (hnext : s.nextGuid ≤ u.nextGuid) : IsStored om s t pl bag slot g count := by
  refine ⟨h.orderly, ⟨x, h.there, ?_, ?_⟩, ?_, ?_, ?_, ?_, ?_, by rw [h.next]; exact hnext, ?_⟩
  · rw [(h.same x).1]; exact hx.1
  · rw [(h.same x).2.1, unitsAt_none _ _ _ _ _ hfree, hx.2.1]; omega
  · exact fun entry _ => unitsAt_none _ _ _ _ _ hfree
  · exact fun p B S hne => (hse p B S).trans (h.elsewhere p B S hne)
  · intro ha p q i hs
    rw [(h.same i).2.2.1]
    by_cases hi : i = x
    · rw [hi]; exact hx.2.2
    · rcases h.slots p q i hs with hs | rfl
      · rw [hgone i hi]
        rw [hslots] at hs
        exact ha p q i hs
      · exact absurd rfl hi
  · intro y hy hlt hl
    obtain ⟨hyx, hyl, hyg⟩ := hloose y hy hlt hl
    obtain ⟨h1, h2⟩ := h.loose y hyx hyl
    exact ⟨h1, h2.trans hyg⟩
  · exact fun i hi => (h.same i).2.2.2.trans (hnum i hi)
  · intro i hi
    rw [hfree] at hi; cases hi

theorem setCount_isStored (ho : s.Orderly om) (pl bag slot g k count : Nat)
    (hk : s.itemAt pl bag slot = some k) (he : (s.goods k).entry = (s.goods g).entry) (h0 : 0 < count)
    (hle : ∀ proto, om.getItemPrototype (s.goods k).entry = some proto →
      (s.goods k).count + count ≤ proto.stackable) :
    IsStored om s (s.setCount k ((s.goods k).count + count)) pl bag slot g count := by
  have hcount := unitsAt_some s pl (s.goods g).entry bag slot k hk
  rw [if_pos he] at hcount
  refine ⟨setCount_orderly ho k _ (by omega) hle, ⟨k, ?_, ?_, ?_⟩, ?_, ?_, ?_, ?_, ?_, le_rfl, ?_⟩
  · rw [setCount_itemAt]; exact hk
  · rw [setCount_goods_self]; exact he
  · rw [setCount_goods_self, hcount]
  · intro entry hne
    rw [unitsAt_some s pl entry bag slot k hk, if_neg]
    rw [he]; exact hne.symm
  · intro p B S hne
    refine ⟨setCount_itemAt s k _ p B S, fun i hi => ?_⟩
    have hik : i ≠ k := by
      rintro rfl
      obtain ⟨h1, h2, h3⟩ := ho.itemAt_inj p B S pl bag slot i hi hk
      exact hne ⟨h1, h2, h3⟩
    rw [setCount_goods_of_ne s k _ i hik]; exact ⟨rfl, rfl, rfl⟩
  · intro ha p q i hs
    rw [(setCount_keeps s k _ i).2.1]; exact ha p q i hs
  · intro y hy hlt hl
    have hyk : y ≠ k := (ho.itemAt_ne_loose y hl pl bag slot k hk).symm
    have hg := setCount_goods_of_ne s k ((s.goods k).count + count) y hyk
    exact ⟨⟨hl.slots, by rw [hg]; exact hl.container⟩, hg⟩
  · exact fun i _ => (setCount_keeps s k _ i).2.2.2.1
  · intro i hi
    rw [setCount_itemAt]; exact hi

theorem IsStored.merged {pl bag slot g count : Nat} (h : IsStored om s t pl bag slot g count)
    (hl : t.Loose g) : IsStored om s (t.merged pl g) pl bag slot g count := by
  have hsame := fun p B S =>
    modify_loose_samePlace h.orderly g hl (fun x => { x with owner := pl, gone := true }) p B S
  obtain ⟨horder, -⟩ := modify_loose_orderly h.orderly g hl
    (fun x => { x with owner := pl, gone := true }) rfl hl.container
  have hg : ∀ i, i ≠ g → (t.merged pl g).goods i = t.goods i := fun i hi => modify_goods_of_ne t g i _ hi
  obtain ⟨k, hk, hke, hkc⟩ := h.there
  obtain ⟨hk1, hk2, -⟩ := (hsame pl bag slot).2 k hk
  refine ⟨horder, ⟨k, (hsame pl bag slot).1.trans hk, ?_, ?_⟩, h.other, ?_, ?_, ?_, ?_, h.next, ?_⟩
  · exact hk1.trans hke
  · exact hk2.trans hkc
  · exact fun p B S hne => (h.elsewhere p B S hne).trans (hsame p B S)
  · intro ha p q i hs
    have hig : i ≠ g := by rintro rfl; exact hl.slots p q hs
    rw [hg i hig]
    exact h.alive ha p q i hs
  · intro y hy hlt hly
    obtain ⟨h1, h2⟩ := h.loose y hy hlt hly
    exact ⟨⟨h1.slots, by rw [hg y hy]; exact h1.container⟩, (hg y hy).trans h2⟩
  · intro i hi
    rw [← h.numSlots i hi]
    by_cases hig : i = g
    · rw [hig]; simp [Shelf.merged]
    · rw [hg i hig]
  · exact fun i hi => (hsame pl bag slot).1.trans (h.stays i hi)

/-- What a clone leaves behind: the cloned object as it was, for the next destination. -/
structure StillLoose (om : ObjectMgr) (s t : Shelf) (g : Nat) : Prop where
  loose : t.Loose g
  goods : t.goods g = s.goods g
  stacked : t.Stacked om g

theorem room_none (s : Shelf) (proto : ItemPrototype) (pl bag slot : Nat)
    (h : s.itemAt pl bag slot = none) : s.room proto pl bag slot = proto.stackable := by
  simp [room, h]

theorem room_some (s : Shelf) (proto : ItemPrototype) (pl bag slot k : Nat)
    (h : s.itemAt pl bag slot = some k) :
    s.room proto pl bag slot =
      if (s.goods k).entry = proto.itemId then proto.stackable - (s.goods k).count else 0 := by
  simp [room, h]

theorem SamePlace.room_eq {pl bag slot : Nat} (h : SamePlace s t pl bag slot) (proto : ItemPrototype) :
    s.room proto pl bag slot = t.room proto pl bag slot := by
  cases hi : s.itemAt pl bag slot with
  | none =>
    have hi' := h.1.trans hi
    rw [room_none s proto pl _ _ hi, room_none t proto pl _ _ hi']
  | some k =>
    have hi' := h.1.trans hi
    obtain ⟨h1, h2, -⟩ := h.2 k hi
    rw [room_some s proto pl _ _ k hi, room_some t proto pl _ _ k hi', h1, h2]

variable (pl bag slot g count : Nat) (proto : ItemPrototype)

theorem storeAt_clone_empty (h : s.itemAt pl bag slot = none) :
    s.storeAt pl bag slot g count true =
      (s.create (cloneOf (s.goods g) pl count)).put pl bag slot s.nextGuid := by
  simp [storeAt, h]

theorem storeAt_last_empty (h : s.itemAt pl bag slot = none) :
    s.storeAt pl bag slot g count false = (s.setCount g count).put pl bag slot g := by
  simp [storeAt, h]

theorem storeAt_clone_stack (k : Nat) (h : s.itemAt pl bag slot = some k) :
    s.storeAt pl bag slot g count true = s.setCount k ((s.goods k).count + count) := by
  simp [storeAt, h]

theorem storeAt_last_stack (k : Nat) (h : s.itemAt pl bag slot = some k) :
    s.storeAt pl bag slot g count false =
      (s.setCount k ((s.goods k).count + count)).merged pl g := by
  simp [storeAt, h]

/-- **An empty destination.** -/
theorem storeAt_empty (ho : s.Orderly om) (clone : Bool) (hl : s.Loose g) (hst : s.Stacked om g)
    (he : s.Empty g) (hex : s.SlotExists pl bag slot) (h0 : 0 < count)
    (hp : om.getItemPrototype (s.goods g).entry = some proto) (hroom : count ≤ s.room proto pl bag slot)
    (hfree : s.itemAt pl bag slot = none) :
    IsStored om s (s.storeAt pl bag slot g count clone) pl bag slot g count ∧
      (clone = true → StillLoose om s (s.storeAt pl bag slot g count clone) g ∧
        (s.storeAt pl bag slot g count true).itemAt pl bag slot = some s.nextGuid) ∧
      (clone = false → (s.storeAt pl bag slot g count clone).itemAt pl bag slot = some g) := by
  rw [room_none s proto pl bag slot hfree] at hroom
  have hproto := hst.proto
  obtain ⟨proto', hp', -, -, hm⟩ := hproto
  obtain rfl : proto' = proto := Option.some.inj (hp'.symm.trans hp)
  cases clone with
  | true =>
    rw [storeAt_clone_empty pl bag slot g count hfree]
    obtain ⟨horder, hnl⟩ := create_orderly ho (cloneOf (s.goods g) pl count) (fun _ => rfl) rfl
    have hgne : g ≠ s.nextGuid := Nat.ne_of_lt hst.old
    have hself := create_goods_self s (cloneOf (s.goods g) pl count)
    have hold : ∀ i, i ≠ s.nextGuid →
        (s.create (cloneOf (s.goods g) pl count)).goods i = s.goods i := create_goods_of_ne s _
    have hsame := create_samePlace ho (cloneOf (s.goods g) pl count)
    have hput : IsPut om (s.create (cloneOf (s.goods g) pl count))
        ((s.create (cloneOf (s.goods g) pl count)).put pl bag slot s.nextGuid) pl bag slot s.nextGuid := by
      refine put_spec horder pl bag slot s.nextGuid ?_ ((hsame pl bag slot).1.trans hfree) hnl ?_ ?_
      · refine hex.mono fun b hb => ⟨hb, ?_⟩
        rw [hold b]
        rintro rfl
        exact (ho.fresh _ le_rfl).slots pl bag (own_eq_some s pl bag _ hb).2
      · refine ⟨by rw [hself]; rfl, Nat.lt_succ_self _, proto', ?_⟩
        rw [hself]
        exact ⟨hp, h0, hroom, hm⟩
      · intro j
        rw [hself]; rfl
    refine ⟨hput.isStored hfree hsame (by rw [hself]; exact ⟨rfl, rfl, rfl⟩) (fun _ _ => rfl)
      (fun i hi => by rw [hold i hi]) ?_ (fun i hi => by rw [hold i (Nat.ne_of_lt hi)]) (Nat.le_succ _), ?_,
      nofun⟩
    · intro y _ hlt hyl
      have hy := hold y (Nat.ne_of_lt hlt)
      exact ⟨Nat.ne_of_lt hlt, ⟨hyl.slots, by rw [hy]; exact hyl.container⟩, hy⟩
    · intro _
      obtain ⟨h1, h2⟩ := hput.loose g hgne ⟨hl.slots, by rw [hold g hgne]; exact hl.container⟩
      have hgg := h2.trans (hold g hgne)
      have hn : s.nextGuid ≤ ((s.create (cloneOf (s.goods g) pl count)).put pl bag slot s.nextGuid).nextGuid := by
        rw [hput.next]; exact Nat.le_succ _
      exact ⟨⟨h1, hgg, hst.congr hn (by rw [hgg]) (by rw [hgg]) (by rw [hgg]) (by rw [hgg])⟩, hput.there⟩
  | false =>
    rw [storeAt_last_empty pl bag slot g count hfree]
    have hself := setCount_goods_self s g count
    have hold := setCount_goods_of_ne s g count
    obtain ⟨horder, hgl⟩ := modify_loose_orderly ho g hl (fun x => { x with count := count }) rfl
      hl.container
    have hsame := modify_loose_samePlace ho g hl (fun x => { x with count := count })
    have hput : IsPut om (s.setCount g count) ((s.setCount g count).put pl bag slot g) pl bag slot g := by
      refine put_spec horder pl bag slot g ?_ ((hsame pl bag slot).1.trans hfree) hgl ?_ ?_
      · exact hex.mono fun b hb => ⟨hb, (setCount_keeps s g count b).2.2.2.1⟩
      · refine setCount_stacked s g count hst h0 fun q hq => ?_
        cases hq.symm.trans hp
        exact hroom
      · intro j
        exact (congrFun (setCount_keeps s g count g).2.2.2.2 j).trans (he j)
    refine ⟨hput.isStored hfree hsame ?_ (fun _ _ => rfl) (fun i hi => by rw [hold i hi]) ?_
      (fun i _ => (setCount_keeps s g count i).2.2.2.1) le_rfl, nofun, fun _ => hput.there⟩
    · rw [hself]; exact ⟨rfl, rfl, hst.kept⟩
    · intro y hy _ hyl
      have hyg := hold y hy
      exact ⟨hy, ⟨hyl.slots, by rw [hyg]; exact hyl.container⟩, hyg⟩

/-- **A destination with a stack.** -/
theorem storeAt_stack (ho : s.Orderly om) (clone : Bool) (hl : s.Loose g) (hst : s.Stacked om g)
    (h0 : 0 < count) (hp : om.getItemPrototype (s.goods g).entry = some proto)
    (hroom : count ≤ s.room proto pl bag slot) (k : Nat) (hk : s.itemAt pl bag slot = some k) :
    IsStored om s (s.storeAt pl bag slot g count clone) pl bag slot g count ∧
      (clone = true → StillLoose om s (s.storeAt pl bag slot g count clone) g) ∧
      (clone = false → ((s.storeAt pl bag slot g count clone).goods g).gone = true) := by
  have hid := om.itemId_eq _ proto hp
  rw [room_some s proto pl bag slot k hk] at hroom
  have hke : (s.goods k).entry = (s.goods g).entry := by
    by_contra hne
    rw [← hid] at hne
    rw [if_neg hne] at hroom
    omega
  rw [if_pos (hke.trans hid.symm)] at hroom
  have hkg : g ≠ k := (ho.itemAt_ne_loose g hl pl bag slot k hk).symm
  have hst' : IsStored om s (s.setCount k ((s.goods k).count + count)) pl bag slot g count := by
    refine setCount_isStored ho pl bag slot g k count hk hke h0 fun q hq => ?_
    rw [hke] at hq
    cases hq.symm.trans hp
    omega
  have hgg := setCount_goods_of_ne s k ((s.goods k).count + count) g hkg
  have hgl : (s.setCount k ((s.goods k).count + count)).Loose g :=
    ⟨hl.slots, by rw [hgg]; exact hl.container⟩
  cases clone with
  | true =>
    rw [storeAt_clone_stack pl bag slot g count k hk]
    refine ⟨hst', fun _ => ⟨hgl, hgg, ?_⟩, nofun⟩
    exact hst.congr le_rfl (by rw [hgg]) (by rw [hgg]) (by rw [hgg]) (by rw [hgg])
  | false =>
    rw [storeAt_last_stack pl bag slot g count k hk]
    refine ⟨hst'.merged hgl, nofun, fun _ => ?_⟩
    simp [Shelf.merged]

/-- The object went to the place itself or was merged into what was there. -/
def Arrived (t : Shelf) (pl bag slot g : Nat) : Prop :=
  t.itemAt pl bag slot = some g ∨ (t.goods g).gone = true

/-- **One destination.** -/
theorem storeAt_spec (ho : s.Orderly om) (clone : Bool) (hl : s.Loose g) (hst : s.Stacked om g)
    (he : s.Empty g) (hex : s.SlotExists pl bag slot) (h0 : 0 < count)
    (hp : om.getItemPrototype (s.goods g).entry = some proto) (hroom : count ≤ s.room proto pl bag slot) :
    IsStored om s (s.storeAt pl bag slot g count clone) pl bag slot g count ∧
      (clone = true → StillLoose om s (s.storeAt pl bag slot g count clone) g) ∧
      (clone = false → (s.storeAt pl bag slot g count clone).Arrived pl bag slot g) := by
  cases hk : s.itemAt pl bag slot with
  | none =>
    obtain ⟨h1, h2, h3⟩ := storeAt_empty pl bag slot g count proto ho clone hl hst he hex h0 hp hroom hk
    exact ⟨h1, fun hc => (h2 hc).1, fun hc => Or.inl (h3 hc)⟩
  | some k =>
    obtain ⟨h1, h2, h3⟩ := storeAt_stack pl bag slot g count proto ho clone hl hst h0 hp hroom k hk
    exact ⟨h1, h2, fun hc => Or.inr (h3 hc)⟩

/-- One destination adds its units to the total of its entry, and to nothing else. -/
theorem IsStored.total {pl bag slot g count : Nat} (h : IsStored om s t pl bag slot g count)
    (ho : s.Orderly om) (hex : s.SlotExists pl bag slot) (p entry : Nat) :
    t.total p entry = s.total p entry +
      if p = pl ∧ entry = (s.goods g).entry then count else 0 := by
  by_cases hp : p = pl
  · subst hp
    have hch := total_change_place (s := s) (t := t) p entry bag slot (hex.pos ho) fun B S hne =>
      (h.elsewhere p B S fun he => hne he.2).unitsAt_eq entry
    obtain ⟨k, hk, hke, hkc⟩ := h.there
    have htk := unitsAt_some t p entry bag slot k hk
    by_cases he : entry = (s.goods g).entry
    · subst he
      rw [if_pos hke, hkc] at htk
      rw [if_pos ⟨rfl, rfl⟩]
      omega
    · rw [if_neg (by rw [hke]; exact fun h => he h.symm)] at htk
      rw [if_neg fun h => he h.2]
      have := h.other entry he
      omega
  · rw [if_neg fun h => hp h.1, Nat.add_zero]
    exact total_same p entry fun B S => (h.elsewhere p B S fun he => hp he.1).unitsAt_eq entry

/-! ### A destination list -/

/-- Position `pos` as a place of player `pl`. -/
def IsPlace (pl pos p B S : Nat) : Prop := p = pl ∧ B = pos / 256 ∧ S = pos % 256

/-- The destination list has room for its counts, each position taken once. -/
def Fits (s : Shelf) (proto : ItemPrototype) (pl : Nat) (dest : List ItemPosCount) : Prop :=
  FitsIn (fun pos => s.room proto pl (pos / 256) (pos % 256))
    (fun pos => s.SlotExists pl (pos / 256) (pos % 256)) dest

/-- The units of all destinations. -/
def destCount (dest : List ItemPosCount) : Nat := (dest.map ItemPosCount.count).sum

theorem IsStored.fits_tail {d : ItemPosCount} {ds : List ItemPosCount} (hf : s.Fits proto pl (d :: ds))
    (ho : s.Orderly om) (h : IsStored om s t pl (d.pos / 256) (d.pos % 256) g d.count) :
    t.Fits proto pl ds := by
  have hnd := hf.nodup
  rw [List.map_cons, List.nodup_cons] at hnd
  refine ⟨hnd.2, fun e he => ?_⟩
  obtain ⟨hex, h0, hr⟩ := hf.entry e (List.mem_cons_of_mem _ he)
  have hne : e.pos ≠ d.pos := fun heq => hnd.1 (heq ▸ List.mem_map_of_mem he)
  have hsame := h.elsewhere pl (e.pos / 256) (e.pos % 256) fun hp => hne (by omega)
  refine ⟨hex.mono fun b hb => ?_, h0, ?_⟩
  · -- the bag of the destination is in its own slot, before and after
    obtain ⟨hown, hs⟩ := own_eq_some s pl _ b hb
    refine ⟨?_, h.numSlots b (ho.own pl _ b hown hs).1.stacked.old⟩
    rw [← itemAt_own] at hb ⊢
    by_cases hd : inventorySlotBag0 = d.pos / 256 ∧ e.pos / 256 = d.pos % 256
    · rw [hd.1, hd.2] at hb ⊢
      exact h.stays b hb
    · rw [(h.elsewhere pl inventorySlotBag0 (e.pos / 256) fun hp => hd hp.2).1]
      exact hb
  · exact hr.trans (le_of_eq (hsame.room_eq proto))

/-- `dest` was filled with units of `g`. -/
structure Stored (om : ObjectMgr) (s t : Shelf) (pl g : Nat) (dest : List ItemPosCount) : Prop where
  orderly : t.Orderly om
  total : ∀ p entry, t.total p entry = s.total p entry +
    if p = pl ∧ entry = (s.goods g).entry then destCount dest else 0
  there : ∀ d ∈ dest, ∃ k, t.itemAt pl (d.pos / 256) (d.pos % 256) = some k ∧
    (t.goods k).entry = (s.goods g).entry
  elsewhere : ∀ p B S, (∀ d ∈ dest, ¬IsPlace pl d.pos p B S) → SamePlace s t p B S
  alive : s.Alive → t.Alive
  loose : ∀ y, y ≠ g → y < s.nextGuid → s.Loose y → t.Loose y ∧ t.goods y = s.goods y
  next : s.nextGuid ≤ t.nextGuid
  arrived : ∃ d ∈ dest, t.Arrived pl (d.pos / 256) (d.pos % 256) g

/-- **`StoreItem` on a shelf in order** puts every unit of the list at its destination. -/
theorem store_spec (dest : List ItemPosCount) (hne : dest ≠ []) (s : Shelf) (ho : s.Orderly om)
    (hl : s.Loose g) (hst : s.Stacked om g) (he : s.Empty g)
    (hp : om.getItemPrototype (s.goods g).entry = some proto) (hf : s.Fits proto pl dest) :
    Stored om s (store pl g dest s) pl g dest := by
  induction dest generalizing s with
  | nil => exact absurd rfl hne
  | cons d ds ih =>
    obtain ⟨hex, h0, hr⟩ := hf.entry d (List.mem_cons_self ..)
    have hstep := fun clone => @storeAt_spec om _ pl (d.pos / 256) (d.pos % 256) g d.count proto ho
      clone hl hst he hex h0 hp hr
    cases ds with
    | nil =>
      obtain ⟨h, -, harr⟩ := hstep false
      refine ⟨h.orderly, fun p entry => ?_, ?_, ?_, h.alive, h.loose, h.next, d, List.mem_cons_self ..,
        harr rfl⟩
      · rw [store, h.total ho hex p entry]; simp [destCount]
      · intro e hmem
        obtain rfl := List.mem_singleton.1 hmem
        obtain ⟨k, hk, hke, -⟩ := h.there
        exact ⟨k, hk, hke⟩
      · exact fun p B S hn => h.elsewhere p B S (hn d (List.mem_cons_self ..))
    | cons d' ds =>
      obtain ⟨h, hloose, -⟩ := hstep true
      have hg := hloose rfl
      have hge := hg.goods
      have hrest := ih (by simp) (s.storeAt pl (d.pos / 256) (d.pos % 256) g d.count true) h.orderly
        hg.loose hg.stacked (fun j => by rw [hge]; exact he j) (by rw [hge]; exact hp)
        (h.fits_tail pl g proto hf ho)
      have hnd := hf.nodup
      rw [List.map_cons, List.nodup_cons] at hnd
      refine ⟨hrest.orderly, fun p entry => ?_, ?_, ?_, fun ha => hrest.alive (h.alive ha), ?_,
        h.next.trans hrest.next, ?_⟩
      · rw [store, hrest.total p entry, h.total ho hex p entry, hge]
        simp only [destCount, List.map_cons, List.sum_cons]
        split <;> omega
      · intro e hmem
        rcases List.mem_cons.1 hmem with rfl | hmem
        · -- the first destination is not touched again
          obtain ⟨k, hk, hke, -⟩ := h.there
          have hsame := hrest.elsewhere pl (e.pos / 256) (e.pos % 256) fun e' he' hpl =>
            hnd.1 (by
              have : e.pos = e'.pos := by have := hpl.2; omega
              rw [this]; exact List.mem_map_of_mem he')
          exact ⟨k, hsame.1.trans hk, ((hsame.2 k hk).1).trans hke⟩
        · obtain ⟨k, hk, hke⟩ := hrest.there e hmem
          exact ⟨k, hk, hke.trans (by rw [hge])⟩
      · intro p B S hn
        exact (h.elsewhere p B S (hn d (List.mem_cons_self ..))).trans
          (hrest.elsewhere p B S fun e hmem => hn e (List.mem_cons_of_mem _ hmem))
      · intro y hy hlt hly
        obtain ⟨h1, h2⟩ := h.loose y hy hlt hly
        obtain ⟨h3, h4⟩ := hrest.loose y hy (Nat.lt_of_lt_of_le hlt h.next) h1
        exact ⟨h3, h4.trans h2⟩
      · obtain ⟨e, hmem, harr⟩ := hrest.arrived
        exact ⟨e, List.mem_cons_of_mem _ hmem, harr⟩

/-- What became of `g`: it is at a place of the player, or it was merged into a stack of his. -/
def Settled (t : Shelf) (pl g : Nat) : Prop :=
  (∃ B S, t.itemAt pl B S = some g) ∨
    (g < t.nextGuid ∧ t.Loose g ∧ (t.goods g).gone = true ∧ (t.goods g).owner = pl)

theorem IsStored.keeps {pl bag slot g count : Nat} (h : IsStored om s t pl bag slot g count) (p B S i : Nat)
    (hi : s.itemAt p B S = some i) : t.itemAt p B S = some i := by
  by_cases hp : p = pl ∧ B = bag ∧ S = slot
  · obtain ⟨rfl, rfl, rfl⟩ := hp
    exact h.stays i hi
  · exact (h.elsewhere p B S hp).1.trans hi

/-- **`StoreItem` moves nothing that was at a place**, and settles its item. -/
theorem store_settled (dest : List ItemPosCount) (hne : dest ≠ []) (s : Shelf) (ho : s.Orderly om)
    (hl : s.Loose g) (hst : s.Stacked om g) (he : s.Empty g)
    (hp : om.getItemPrototype (s.goods g).entry = some proto) (hf : s.Fits proto pl dest) :
    (∀ p B S i, s.itemAt p B S = some i → (store pl g dest s).itemAt p B S = some i) ∧
      (store pl g dest s).Settled pl g := by
  induction dest generalizing s with
  | nil => exact absurd rfl hne
  | cons d ds ih =>
    obtain ⟨hex, h0, hr⟩ := hf.entry d (List.mem_cons_self ..)
    have hstep := fun clone => @storeAt_spec om _ pl (d.pos / 256) (d.pos % 256) g d.count proto ho
      clone hl hst he hex h0 hp hr
    cases ds with
    | nil =>
      obtain ⟨h, -, -⟩ := hstep false
      refine ⟨h.keeps, ?_⟩
      show (s.storeAt pl (d.pos / 256) (d.pos % 256) g d.count false).Settled pl g
      cases hk : s.itemAt pl (d.pos / 256) (d.pos % 256) with
      | none =>
        exact Or.inl ⟨_, _, (storeAt_empty pl _ _ g d.count proto ho false hl hst he hex h0 hp hr hk).2.2 rfl⟩
      | some k =>
        right
        rw [storeAt_last_stack pl _ _ g d.count k hk]
        have hkg : g ≠ k := (ho.itemAt_ne_loose g hl pl _ _ k hk).symm
        have hgg := setCount_goods_of_ne s k ((s.goods k).count + d.count) g hkg
        refine ⟨hst.old, ⟨hl.slots, ?_⟩, by simp [Shelf.merged], by simp [Shelf.merged]⟩
        simp only [Shelf.merged, modify_goods_self]
        rw [hgg]
        exact hl.container
    | cons d' ds =>
      obtain ⟨h, hloose, -⟩ := hstep true
      have hg := hloose rfl
      have hge := hg.goods
      obtain ⟨h1, h2⟩ := ih (by simp) (s.storeAt pl (d.pos / 256) (d.pos % 256) g d.count true) h.orderly
        hg.loose hg.stacked (fun j => by rw [hge]; exact he j) (by rw [hge]; exact hp)
        (h.fits_tail pl g proto hf ho)
      exact ⟨fun p B S i hi => h1 p B S i (h.keeps p B S i hi), h2⟩

theorem Fits.of_same {dest : List ItemPosCount} (hf : s.Fits proto pl dest) (ho : s.Orderly om) (ht : t.Orderly om)
    (h : ∀ B S, SamePlace s t pl B S) : t.Fits proto pl dest := by
  refine ⟨hf.nodup, fun d hd => ?_⟩
  obtain ⟨hex, h0, hr⟩ := hf.entry d hd
  refine ⟨?_, h0, ?_⟩
  · refine hex.mono fun b hb => ?_
    rw [← itemAt_own] at hb ⊢
    have hsame := h inventorySlotBag0 (d.pos / 256)
    have hb' := hsame.1.trans hb
    refine ⟨hb', ?_⟩
    obtain ⟨proto1, hp1, -, -, hn1⟩ := (ho.itemAt_back pl _ _ b hb).1.proto
    obtain ⟨proto2, hp2, -, -, hn2⟩ := (ht.itemAt_back pl _ _ b hb').1.proto
    rw [(hsame.2 b hb).1] at hp2
    cases hp1.symm.trans hp2
    exact hn2.trans hn1.symm
  · exact hr.trans (le_of_eq ((h (d.pos / 256) (d.pos % 256)).room_eq proto))

theorem Stored.bagsWorn {dest : List ItemPosCount} (h : Stored om s t pl g dest)
    (hb : s.BagsWorn om)
    (hd : ∀ d ∈ dest, d.pos / 256 = inventorySlotBag0 → isBagSlot (d.pos % 256) = false) :
    t.BagsWorn om := by
  intro p q i hq hs
  have hown := isOwnSlot_of_isBagSlot q hq
  have hit : t.itemAt p inventorySlotBag0 q = some i := by rw [itemAt_own, own_eq _ _ _ hown]; exact hs
  obtain ⟨h1, h2⟩ := h.elsewhere p inventorySlotBag0 q fun d hmem hpl => by
    have := hd d hmem hpl.2.1.symm
    rw [← hpl.2.2, hq] at this; cases this
  rw [h1] at hit
  have hsi : s.slots p q = some i := by rw [itemAt_own, own_eq _ _ _ hown] at hit; exact hit
  exact (hb p q i hq hsi).congr (h2 i hit).1

end Shelf

end BlizzLike
