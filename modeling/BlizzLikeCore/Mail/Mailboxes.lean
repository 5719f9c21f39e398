import BlizzLikeCore.Mail.PostOffice
import BlizzLikeCore.Lib.Transition

/-!
# Mailboxes in order

`Sound` is the invariant of the post office: every mail is in its receiver's box under an id
of its own, every attached item is spare and attached to one mail, and the COD of a mail is
either still what it was sent with, or paid once and set to 0.  The lemmas here say which
changes of a post office keep it; `CashOnDelivery` applies them to the requests.

    Sound.shrink  : mails lose items, flags, money, or go
    Sound.deliver : a new mail whose items are attached to no other
    Sound.settle  : the COD of a mail is paid and set to 0
-/

namespace BlizzLike

/-- Boxes by character: mails under ids of their own, no item attached twice. -/
structure Boxes (mails : Nat → List Mail) (next : Nat) : Prop where
  addressed : ∀ p m, m ∈ mails p → m.receiver = p ∧ m.messageID < next
  ids : ∀ p, ((mails p).map Mail.messageID).Nodup
  apart : ∀ p m p' m', m ∈ mails p → m' ∈ mails p' → m.messageID = m'.messageID → p = p'
  alone : ∀ p m p' m' g, m ∈ mails p → m' ∈ mails p' → g ∈ m.items → g ∈ m'.items →
    m.messageID = m'.messageID
  nodup : ∀ p m, m ∈ mails p → m.items.Nodup

namespace PostOffice

/-- The COD payments mailed for a mail. -/
def paymentsOf (w : PostOffice) (id : Nat) : List CodPayment := w.payments.filter fun pay => pay.mail == id

/-- The COD a mail was sent with is not paid yet. -/
def Owing (w : PostOffice) (m : Mail) : Prop := m.cod = w.codSent m.messageID ∧ w.paymentsOf m.messageID = []

/-- The COD a mail was sent with was paid to its sender, once, or it had none. -/
def Settled (w : PostOffice) (p : Nat) (m : Mail) : Prop :=
  m.cod = 0 ∧ w.paymentsOf m.messageID =
    if w.codSent m.messageID = 0 then [] else [⟨m.messageID, p, m.sender, w.codSent m.messageID⟩]

structure Sound (om : ObjectMgr) (w : PostOffice) : Prop where
  inOrder : w.inv.InOrder om
  boxes : Boxes w.mails w.nextMailId
  spare : ∀ p m g, m ∈ w.mails p → g ∈ m.items → w.inv.shelf.Spare om g
  purse : ∀ p, w.money p ≤ maxMoneyAmount
  amount : ∀ p m, m ∈ w.mails p → u32 m.money ≠ 2147483647
  due : ∀ p m, m ∈ w.mails p → w.Owing m ∨ w.Settled p m
  unsent : ∀ pay ∈ w.payments, pay.mail < w.nextMailId

end PostOffice

/-! ## Lemmas -/

/-- What is left of a mail after a request that took nothing but items and money from it. -/
structure Mail.Reduced (m m' : Mail) : Prop where
  id : m'.messageID = m.messageID
  receiver : m'.receiver = m.receiver
  sender : m'.sender = m.sender
  items : m'.items.Sublist m.items
  money : m'.money = m.money ∨ m'.money = 0

/-- Every mail of the new boxes is what is left of one of the old. -/
structure Shrinks (mails mails' : Nat → List Mail) : Prop where
  ids : ∀ p, ((mails' p).map Mail.messageID).Sublist ((mails p).map Mail.messageID)
  origin : ∀ p m', m' ∈ mails' p → ∃ m ∈ mails p, m.Reduced m' ∧ m'.cod = m.cod

theorem Boxes.shrink {mails mails' : Nat → List Mail} {next : Nat} (hb : Boxes mails next)
    (hids : ∀ p, ((mails' p).map Mail.messageID).Sublist ((mails p).map Mail.messageID))
    (ho : ∀ p m', m' ∈ mails' p → ∃ m ∈ mails p, m.Reduced m') : Boxes mails' next := by
  refine ⟨fun p m' hm' => ?_, fun p => (hb.ids p).sublist (hids p), fun p m' q n' hm' hn' heq => ?_,
    fun p m' q n' g hm' hn' hg hg' => ?_, fun p m' hm' => ?_⟩
  · obtain ⟨m, hm, hr⟩ := ho p m' hm'
    rw [hr.receiver, hr.id]
    exact hb.addressed p m hm
  · obtain ⟨m, hm, hr⟩ := ho p m' hm'
    obtain ⟨n, hn, hrn⟩ := ho q n' hn'
    exact hb.apart p m q n hm hn (by rw [← hr.id, ← hrn.id]; exact heq)
  · obtain ⟨m, hm, hr⟩ := ho p m' hm'
    obtain ⟨n, hn, hrn⟩ := ho q n' hn'
    rw [hr.id, hrn.id]
    exact hb.alone p m q n g hm hn (hr.items.subset hg) (hrn.items.subset hg')
  · obtain ⟨m, hm, hr⟩ := ho p m' hm'
    exact (hb.nodup p m hm).sublist hr.items

theorem Boxes.eq_of_id {mails : Nat → List Mail} {next : Nat} (hb : Boxes mails next) {p : Nat} {m n : Mail}
    (hm : m ∈ mails p) (hn : n ∈ mails p) (h : m.messageID = n.messageID) : m = n :=
  List.inj_on_of_nodup_map (hb.ids p) hm hn h

theorem Boxes.deliver {mails : Nat → List Mail} {next : Nat} (hb : Boxes mails next) (rc : Nat) (m : Mail)
    (hrc : m.receiver = rc) (hid : m.messageID = next) (hnd : m.items.Nodup)
    (hfree : ∀ p n g, n ∈ mails p → g ∈ n.items → g ∉ m.items) :
    Boxes (Function.update mails rc (m :: mails rc)) (next + 1) := by
  have hmem : ∀ p n, n ∈ Function.update mails rc (m :: mails rc) p →
      (p = rc ∧ n = m) ∨ n ∈ mails p := by
    intro p n hn
    by_cases hp : p = rc
    · subst hp
      rw [Function.update_self, List.mem_cons] at hn
      rcases hn with rfl | hn
      · exact Or.inl ⟨rfl, rfl⟩
      · exact Or.inr hn
    · rw [Function.update_of_ne hp] at hn
      exact Or.inr hn
  have hlt := fun p n hn => (hb.addressed p n hn).2
  refine ⟨fun p n hn => ?_, fun p => ?_, fun p n q k hn hk heq => ?_, fun p n q k g hn hk hg hg' => ?_,
    fun p n hn => ?_⟩
  · rcases hmem p n hn with ⟨rfl, rfl⟩ | hold
    · exact ⟨hrc, by omega⟩
    · exact ⟨(hb.addressed p n hold).1, Nat.lt_succ_of_lt (hlt p n hold)⟩
  · by_cases hp : p = rc
    · subst hp
      rw [Function.update_self, List.map_cons, List.nodup_cons]
      refine ⟨fun hin => ?_, hb.ids p⟩
      obtain ⟨n, hn, he⟩ := List.mem_map.1 hin
      have := hlt p n hn
      omega
    · rw [Function.update_of_ne hp]
      exact hb.ids p
  · rcases hmem p n hn with ⟨h1, h2⟩ | hold <;> rcases hmem q k hk with ⟨h3, h4⟩ | hold'
    · rw [h1, h3]
    · have := hlt q k hold'; rw [h2] at heq; omega
    · have := hlt p n hold; rw [h4] at heq; omega
    · exact hb.apart p n q k hold hold' heq
  · rcases hmem p n hn with ⟨h1, h2⟩ | hold <;> rcases hmem q k hk with ⟨h3, h4⟩ | hold'
    · rw [h2, h4]
    · exact absurd (h2 ▸ hg) (hfree q k g hold' hg')
    · exact absurd (h4 ▸ hg') (hfree p n g hold hg)
    · exact hb.alone p n q k g hold hold' hg hg'
  · rcases hmem p n hn with ⟨rfl, rfl⟩ | hold
    · exact hnd
    · exact hb.nodup p n hold

namespace PostOffice

variable {om : ObjectMgr} {w : PostOffice}

theorem getMail_eq_some (pl mailId : Nat) (m : Mail) (h : w.getMail pl mailId = some m) :
    m ∈ w.mails pl ∧ m.messageID = mailId :=
  ⟨List.mem_of_find?_eq_some h, by simpa using List.find?_some h⟩

theorem openMail_eq_some (pl mailId : Nat) (m : Mail) (h : w.openMail pl mailId = some m) :
    m ∈ w.mails pl ∧ m.messageID = mailId ∧ m.deliverTime ≤ w.time := by
  unfold openMail at h
  split at h
  · cases h
  · next n hn =>
    split at h
    · cases h
    · next hopen =>
      obtain rfl := Option.some.inj h
      obtain ⟨h1, h2⟩ := getMail_eq_some pl mailId n hn
      exact ⟨h1, h2, by omega⟩

/-! ### Items found by guid -/

theorem getItemByGuid_eq_some (h : Holdings) (pl guid g : Nat) (hg : h.getItemByGuid pl guid = some g) :
    g = guid ∧ ∃ bag slot, h.getItemByPos pl bag slot = some g := by
  unfold Holdings.getItemByGuid at hg
  split at hg
  · next hany =>
    cases hg
    obtain ⟨p, -, hp⟩ := List.any_eq_true.1 hany
    exact ⟨rfl, p.1, p.2, by simpa using hp⟩
  · cases hg

theorem empty_of_canAttach (h : Holdings) (hin : h.InOrder om) (pl bag slot g : Nat)
    (hat : h.getItemByPos pl bag slot = some g)
    (hb : ¬((h.items g).isBag om = true ∧ (h.items g).isEmpty = false)) : h.shelf.Empty g := by
  rcases Shelf.itemAt_eq_some h.shelf pl bag slot g hat with ⟨-, hown, hs⟩ | ⟨hbag, b, hs, -, hin'⟩
  · cases hbs : isBagSlot slot with
    | false => exact hin.orderly.plain pl slot g hown hbs hs
    | true =>
      -- a worn bag: it was found empty
      obtain ⟨proto, hp, hi⟩ := hin.bagsWorn pl slot g hbs hs
      have hp' : om.getItemPrototype (h.items g).entry = some proto := hp
      have hisbag : (h.items g).isBag om = true := by simp [Item.isBag, hp', hi]
      have hempty : (h.items g).isEmpty = true := by
        cases he : (h.items g).isEmpty with
        | true => rfl
        | false => exact absurd ⟨hisbag, he⟩ hb
      intro j
      cases hj : (h.shelf.goods g).bagslot j with
      | none => rfl
      | some k =>
        have hlt := ((hin.orderly.own pl slot g hown hs).1.content j k hj).1
        have := List.all_eq_true.1 hempty j (List.mem_range.2 hlt)
        have hj' : (h.items g).bagslot j = some k := hj
        simp [hj'] at this
  · exact ((hin.orderly.own pl bag b (Shelf.isOwnSlot_of_isBagSlot bag hbag) hs).1.content slot g
      hin').2.2.1

/-- **An item that may be attached** is in a slot of the sender, and empty. -/
theorem held_of_canAttach (cfg : MailConfig) (hin : w.inv.InOrder cfg.om) {pl cod g : Nat} {allowed : Nat → Bool}
    (hc : w.canAttach cfg pl cod allowed g = true) :
    ∃ bag slot, w.inv.getItemByPos pl bag slot = some g ∧ w.inv.shelf.Empty g := by
  simp only [canAttach, Bool.and_eq_true, beq_iff_eq, Bool.not_eq_true', Bool.and_eq_false_iff] at hc
  obtain ⟨⟨⟨⟨⟨⟨⟨-, hguid⟩, -⟩, -⟩, -⟩, -⟩, -⟩, hbag⟩ := hc
  obtain ⟨-, bag, slot, hat⟩ := getItemByGuid_eq_some w.inv pl g g hguid
  refine ⟨bag, slot, hat, empty_of_canAttach w.inv hin pl bag slot g hat ?_⟩
  rintro ⟨h1, h2⟩
  rcases hbag with h | h
  · rw [h1] at h; cases h
  · simp [h2] at h

/-! ### Changes in place -/

theorem Sound.shrink (hs : w.Sound om) (mails' : Nat → List Mail) (h : Shrinks w.mails mails') :
    ({ w with mails := mails' } : PostOffice).Sound om := by
  refine ⟨hs.inOrder, hs.boxes.shrink h.ids fun p m' hm' => ?_, fun p m' g hm' hg => ?_, hs.purse,
    fun p m' hm' => ?_, fun p m' hm' => ?_, hs.unsent⟩
  · obtain ⟨m, hm, hr, -⟩ := h.origin p m' hm'
    exact ⟨m, hm, hr⟩
  · obtain ⟨m, hm, hr, -⟩ := h.origin p m' hm'
    exact hs.spare p m g hm (hr.items.subset hg)
  · obtain ⟨m, hm, hr, -⟩ := h.origin p m' hm'
    rcases hr.money with he | he
    · rw [he]; exact hs.amount p m hm
    · rw [he]; simp [u32]
  · obtain ⟨m, hm, hr, hc⟩ := h.origin p m' hm'
    unfold Owing Settled paymentsOf
    rw [hr.id, hr.sender, hc]
    exact hs.due p m hm

theorem Mail.Reduced.refl (m : Mail) : m.Reduced m := ⟨rfl, rfl, rfl, List.Sublist.refl _, Or.inl rfl⟩

theorem Shrinks.update (mails : Nat → List Mail) (pl : Nat) (box : List Mail)
    (hids : (box.map Mail.messageID).Sublist ((mails pl).map Mail.messageID))
    (ho : ∀ m' ∈ box, ∃ m ∈ mails pl, m.Reduced m' ∧ m'.cod = m.cod) :
    Shrinks mails (Function.update mails pl box) := by
  refine ⟨fun p => ?_, fun p m' hm' => ?_⟩
  · by_cases hp : p = pl
    · subst hp; rw [Function.update_self]; exact hids
    · rw [Function.update_of_ne hp]
  · by_cases hp : p = pl
    · subst hp; rw [Function.update_self] at hm'; exact ho m' hm'
    · rw [Function.update_of_ne hp] at hm'
      exact ⟨m', hm', Mail.Reduced.refl m', rfl⟩

theorem map_messageID (box : List Mail) (mailId : Nat) (f : Mail → Mail)
    (hf : ∀ m, (f m).messageID = m.messageID) :
    (box.map fun m => if m.messageID = mailId then f m else m).map Mail.messageID =
      box.map Mail.messageID := by
  rw [List.map_map]
  refine List.map_congr_left fun m _ => ?_
  simp only [Function.comp]
  split
  · exact hf m
  · rfl

theorem updateMail_shrinks (pl mailId : Nat) (f : Mail → Mail)
    (hf : ∀ m, m.Reduced (f m) ∧ (f m).cod = m.cod) :
    Shrinks w.mails (w.updateMail pl mailId f).mails := by
  refine Shrinks.update w.mails pl _ (by rw [map_messageID _ _ _ fun m => (hf m).1.id]) ?_
  intro m' hm'
  obtain ⟨m, hm, rfl⟩ := List.mem_map.1 hm'
  refine ⟨m, hm, ?_⟩
  split
  · exact hf m
  · exact ⟨Mail.Reduced.refl m, rfl⟩

theorem updateMail_origin (pl mailId : Nat) (f : Mail → Mail) (p : Nat) (m' : Mail)
    (hm' : m' ∈ (w.updateMail pl mailId f).mails p) :
    (m' ∈ w.mails p ∧ (p = pl → m'.messageID ≠ mailId)) ∨
      (p = pl ∧ ∃ m ∈ w.mails pl, m.messageID = mailId ∧ m' = f m) := by
  by_cases hp : p = pl
  · subst hp
    simp only [updateMail, Function.update_self] at hm'
    obtain ⟨m, hm, rfl⟩ := List.mem_map.1 hm'
    split
    · next he => exact Or.inr ⟨rfl, m, hm, he, rfl⟩
    · next he => exact Or.inl ⟨hm, fun _ => he⟩
  · simp only [updateMail, Function.update_of_ne hp] at hm'
    exact Or.inl ⟨hm', fun h => absurd h hp⟩

theorem updateMail_ids (pl mailId : Nat) (f : Mail → Mail) (hf : ∀ m, (f m).messageID = m.messageID)
    (p : Nat) : ((w.updateMail pl mailId f).mails p).map Mail.messageID = (w.mails p).map Mail.messageID := by
  by_cases hp : p = pl
  · subst hp
    simp only [updateMail, Function.update_self]
    exact map_messageID _ _ _ hf
  · simp only [updateMail, Function.update_of_ne hp]

theorem removeMail_shrinks (pl mailId : Nat) : Shrinks w.mails (w.removeMail pl mailId).mails := by
  refine Shrinks.update w.mails pl _ ((List.eraseP_sublist).map _) fun m' hm' => ?_
  exact ⟨m', List.mem_of_mem_eraseP hm', Mail.Reduced.refl m', rfl⟩

theorem saveMail_shrinks (pl : Nat) : Shrinks w.mails (w.saveMail pl).mails := by
  have hred : ∀ m : Mail, m.Reduced
      (if m.state = .changed then { m with removedItems := [], state := .unchanged } else m) ∧
      (if m.state = .changed then { m with removedItems := [], state := .unchanged } else m).cod =
        m.cod := by
    intro m
    split
    · exact ⟨⟨rfl, rfl, rfl, List.Sublist.refl _, Or.inl rfl⟩, rfl⟩
    · exact ⟨Mail.Reduced.refl m, rfl⟩
  refine Shrinks.update w.mails pl _ ?_ fun m' hm' => ?_
  · refine (List.filter_sublist.map _).trans ?_
    rw [List.map_map]
    refine (List.map_congr_left fun m _ => ?_ : _ = (w.mails pl).map Mail.messageID) ▸ List.Sublist.refl _
    exact (hred m).1.id
  · obtain ⟨m, hm, rfl⟩ := List.mem_map.1 (List.mem_of_mem_filter hm')
    exact ⟨m, hm, hred m⟩

theorem mem_removeMail {pl mailId : Nat} (hids : ((w.mails pl).map Mail.messageID).Nodup) (n : Mail) :
    n ∈ (w.removeMail pl mailId).mails pl ↔ n ∈ w.mails pl ∧ n.messageID ≠ mailId := by
  simp only [removeMail, Function.update_self]
  generalize w.mails pl = box at hids
  induction box with
  | nil => simp
  | cons m box ih =>
    rw [List.map_cons, List.nodup_cons] at hids
    rw [List.eraseP_cons]
    by_cases hm : m.messageID = mailId
    · simp only [hm, beq_self_eq_true, cond_true, List.mem_cons]
      constructor
      · intro hn
        exact ⟨Or.inr hn, fun he => hids.1 (hm ▸ he ▸ List.mem_map_of_mem hn)⟩
      · rintro ⟨rfl | hn, hne⟩
        · exact absurd hm hne
        · exact hn
    · have hm' : (m.messageID == mailId) = false := by simpa using hm
      simp only [hm', cond_false, List.mem_cons, ih hids.2]
      constructor
      · rintro (rfl | ⟨hn, hne⟩)
        · exact ⟨Or.inl rfl, hm⟩
        · exact ⟨Or.inr hn, hne⟩
      · rintro ⟨rfl | hn, hne⟩
        · exact Or.inl rfl
        · exact Or.inr ⟨hn, hne⟩

theorem foldl_removeMItem (pl : Nat) (gs : List Nat) (v : PostOffice) :
    gs.foldl (fun v g => v.removeMItem pl g) v =
      { v with mMitems := fun p i => if p = pl ∧ i ∈ gs then false else v.mMitems p i } := by
  induction gs generalizing v with
  | nil => simp
  | cons g gs ih =>
    rw [List.foldl_cons, ih]
    unfold removeMItem
    congr 1
    funext p i
    by_cases hp : p = pl
    · by_cases hi : i = g
      · simp [hp, hi]
      · simp [hp, hi]
    · simp [hp]

/-! ### Other parts of the state -/

theorem Sound.withInv (hs : w.Sound om) (inv : Holdings) (hin : inv.InOrder om)
    (hsp : ∀ p m g, m ∈ w.mails p → g ∈ m.items → inv.shelf.Spare om g) :
    ({ w with inv := inv } : PostOffice).Sound om :=
  ⟨hin, hs.boxes, hsp, hs.purse, hs.amount, hs.due, hs.unsent⟩

theorem Sound.withMoney (hs : w.Sound om) (pl amount : Nat) (ha : amount ≤ maxMoneyAmount) :
    ({ w with money := Function.update w.money pl amount } : PostOffice).Sound om := by
  refine ⟨hs.inOrder, hs.boxes, hs.spare, fun p => ?_, hs.amount, hs.due, hs.unsent⟩
  by_cases hp : p = pl
  · subst hp; simpa using ha
  · simpa [hp] using hs.purse p

theorem Sound.withMMitems (hs : w.Sound om) (mMitems : Nat → Nat → Bool) :
    ({ w with mMitems := mMitems } : PostOffice).Sound om :=
  ⟨hs.inOrder, hs.boxes, hs.spare, hs.purse, hs.amount, hs.due, hs.unsent⟩

theorem Sound.withTaken (hs : w.Sound om) (taken : List Taken) :
    ({ w with taken := taken } : PostOffice).Sound om :=
  ⟨hs.inOrder, hs.boxes, hs.spare, hs.purse, hs.amount, hs.due, hs.unsent⟩

end PostOffice

end BlizzLike
