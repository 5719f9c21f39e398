import BlizzLikeCore.Mail.Mailboxes

/-!
# Cash on delivery

An attached item should leave its mail for an inventory only by a take request for that mail,
after its delivery time, and with the whole COD paid to the sender once.  `HandleTakeItem`
finds the mail by one number of the request and the item by another, so the law holds along
every run whose take requests name an item of the mail they name (`takes_lawful`), and fails
where they do not (`take_unlawful`).
-/

namespace BlizzLike

namespace PostOffice

/-! ## The law -/

/-- An item got into an inventory: it is in a slot, or a take request moved it in. -/
def MovedIn (w t : PostOffice) (g : Nat) : Prop :=
  (∃ p bag slot, t.inv.getItemByPos p bag slot = some g) ∨ ∃ p i, t.taken = ⟨p, i, g⟩ :: w.taken

/-- What has to have happened when an item of mail `m` in the box of `p` moved in. -/
structure Lawful (w t : PostOffice) (r : MailRequest) (p : Nat) (m : Mail) (g : Nat) : Prop where
  asked : r = .takeItem p m.messageID g
  delivered : m.deliverTime ≤ w.time
  charged : t.money p + m.cod = w.money p
  mailed : m.cod ≠ 0 → ∃ pay ∈ t.mails m.sender, pay.messageID = w.nextMailId ∧ pay.money = m.cod ∧
    pay.sender = p
  paidOnce : t.paymentsOf m.messageID =
    if w.codSent m.messageID = 0 then []
    else [⟨m.messageID, p, m.sender, w.codSent m.messageID⟩]

/-- **The COD law** for one request: every attached item that moves in does so lawfully. -/
def TakesLawful (cfg : MailConfig) (w : PostOffice) (r : MailRequest) : Prop :=
  ∀ p m g, m ∈ w.mails p → g ∈ m.items → MovedIn w (w.step cfg r) g → Lawful w (w.step cfg r) r p m g

/-- A take request names an item of the mail it names, and a COD still due can be mailed. -/
def NamesAttached (cfg : MailConfig) (w : PostOffice) : MailRequest → Prop
  | .takeItem pl mailId itemId => ∀ m, w.openMail pl mailId = some m → w.mMitems pl itemId = true →
      itemId ∈ m.items ∧ (m.cod = 0 ∨ Reaches cfg m.sender)
  | _ => True

/-! ## Sending -/

section
variable {cfg : MailConfig} {w : PostOffice}

theorem Sound.itemAt_ne (hs : w.Sound cfg.om) (g : Nat) (hl : w.inv.shelf.Loose g) (p bag slot : Nat) :
    w.inv.getItemByPos p bag slot ≠ some g :=
  fun h => hs.inOrder.orderly.itemAt_ne_loose g hl p bag slot g h rfl

/-- A request that keeps the invariant and moves no attached item in. -/
structure Quiet (om : ObjectMgr) (w t : PostOffice) : Prop where
  sound : t.Sound om
  loose : ∀ g, w.inv.shelf.Spare om g → t.inv.shelf.Loose g
  taken : t.taken = w.taken

theorem Quiet.not_movedIn {t : PostOffice} (hs : w.Sound cfg.om) (h : Quiet cfg.om w t) (p : Nat) (m : Mail)
    (g : Nat) (hm : m ∈ w.mails p) (hg : g ∈ m.items) : ¬MovedIn w t g := by
  rintro (⟨q, bag, slot, hat⟩ | ⟨q, i, ht⟩)
  · exact h.sound.itemAt_ne g (h.loose g (hs.spare p m g hm hg)) q bag slot hat
  · rw [h.taken] at ht
    exact absurd (congrArg List.length ht) (by simp)

theorem Quiet.of_inv {t : PostOffice} (h : t.Sound cfg.om) (hi : t.inv = w.inv) (ht : t.taken = w.taken) :
    Quiet cfg.om w t :=
  ⟨h, fun g hg => by rw [hi]; exact hg.loose, ht⟩

/-- **A mail is sent** with spare items that are attached to no other. -/
theorem sendMailTo_quiet (hs : w.Sound cfg.om) (rc : Nat) (messageType : MailMessageType) (senderId : Nat)
    (draft : MailDraft) (checked deliverDelay : Nat) (hnd : draft.items.Nodup)
    (hsp : ∀ g ∈ draft.items, w.inv.shelf.Spare cfg.om g)
    (hfree : ∀ p n g, n ∈ w.mails p → g ∈ n.items → g ∉ draft.items)
    (hmoney : u32 draft.money ≠ 2147483647) :
    Quiet cfg.om w (w.sendMailTo cfg rc messageType senderId draft checked deliverDelay) := by
  unfold sendMailTo
  split
  · split
    · obtain ⟨h1, h2, h3⟩ := w.inv.deleteItems_spec cfg.om draft.items hs.inOrder hnd hsp
      exact ⟨hs.withInv _ h1 fun p m g hm hg => h2 g (hfree p m g hm hg) (hs.spare p m g hm hg),
        fun g hg => h3 g hg.loose, rfl⟩
    · exact Quiet.of_inv hs rfl rfl
  · generalize hm : w.newMail rc messageType senderId draft checked deliverDelay = m
    have hid : m.messageID = w.nextMailId := by rw [← hm]; rfl
    have hrc : m.receiver = rc := by rw [← hm]; rfl
    have hit : m.items = draft.items := by rw [← hm]; rfl
    have hco : m.cod = draft.cod := by rw [← hm]; rfl
    have hmo : m.money = draft.money := by rw [← hm]; rfl
    have hmem : ∀ p n, n ∈ Function.update w.mails rc (m :: w.mails rc) p → n = m ∨ n ∈ w.mails p := by
      intro p n hn
      by_cases hp : p = rc
      · subst hp
        rw [Function.update_self, List.mem_cons] at hn
        exact hn
      · rw [Function.update_of_ne hp] at hn
        exact Or.inr hn
    refine Quiet.of_inv ⟨hs.inOrder, hs.boxes.deliver rc m hrc hid (hit ▸ hnd) (hit ▸ hfree), ?_, hs.purse, ?_,
      ?_, fun pay hp => Nat.lt_succ_of_lt (hs.unsent pay hp)⟩ rfl rfl
    · intro p n g hn hg
      rcases hmem p n hn with rfl | hn
      · exact hsp g (hit ▸ hg)
      · exact hs.spare p n g hn hg
    · intro p n hn
      rcases hmem p n hn with rfl | hn
      · rw [hmo]; exact hmoney
      · exact hs.amount p n hn
    · intro p n hn
      rcases hmem p n hn with rfl | hn
      · -- nothing was paid for a mail that was not sent before
        left
        refine ⟨by simp [hid, hco], List.filter_eq_nil_iff.2 fun pay hp => ?_⟩
        have := hs.unsent pay hp
        rw [hid]
        simp
        omega
      · have hlt := (hs.boxes.addressed p n hn).2
        have hne : n.messageID ≠ w.nextMailId := Nat.ne_of_lt hlt
        have hdue := hs.due p n hn
        unfold Owing Settled paymentsOf at hdue ⊢
        simpa [hne] using hdue

theorem Quiet.of_spare {v t : PostOffice} (hv : ∀ g, w.inv.shelf.Spare cfg.om g → v.inv.shelf.Spare cfg.om g)
    (ht : v.taken = w.taken) (h : Quiet cfg.om v t) : Quiet cfg.om w t :=
  ⟨h.sound, fun g hg => h.loose g (hv g hg), h.taken.trans ht⟩

/-! ### Sending from the inventory -/

theorem handleSendMail_quiet (hs : w.Sound cfg.om) (pl rc : Nat) (itemGUIDs : List Nat)
    (money cod bodyId : Nat) (sameTeam : Bool) (allowed : Nat → Bool) (hlt : money < 4294967296) :
    Quiet cfg.om w (w.handleSendMail cfg pl rc itemGUIDs money cod bodyId sameTeam allowed) := by
  have hstay : Quiet cfg.om w w := Quiet.of_inv hs rfl rfl
  unfold handleSendMail
  simp only
  generalize hreq : u32 (mailCost itemGUIDs.length + money) = reqmoney
  split
  · exact hstay
  next hlen =>
  split
  · exact hstay
  split
  · exact hstay
  next hpay =>
  split
  · exact hstay
  split
  · exact hstay
  next hall =>
  have hall : ∀ g ∈ itemGUIDs, w.canAttach cfg pl cod allowed g = true :=
    List.all_eq_true.1 (Bool.not_eq_false _ ▸ hall)
  have hplace : ∀ g ∈ itemGUIDs, ∃ bag slot, w.inv.getItemByPos pl bag slot = some g ∧
      w.inv.shelf.Empty g := fun g hg => held_of_canAttach cfg hs.inOrder (hall g hg)
  have hpurse := hs.purse pl
  have hmoney : modifyMoney (w.money pl) (-toInt32 reqmoney) ≤ maxMoneyAmount := by
    rw [modifyMoney_pay _ _ (by omega) hpurse]; omega
  generalize hinv : itemGUIDs.foldl
    (fun h g => h.moveItemFromInventory pl (h.getBagSlot g) (h.items g).slot) w.inv = inv
  obtain ⟨h1, h2, h3⟩ := w.inv.moveOutAll_spec cfg.om pl itemGUIDs hs.inOrder
    (fun g hg => Or.inl (hplace g hg)) inv hinv.symm
  have hw1 : ({ w with
      money := Function.update w.money pl (modifyMoney (w.money pl) (-toInt32 reqmoney))
      inv := inv } : PostOffice).Sound cfg.om :=
    (hs.withMoney pl _ hmoney).withInv inv h1 fun p m g hm hg => h3 g (hs.spare p m g hm hg)
  refine Quiet.of_spare (v := { w with
      money := Function.update w.money pl (modifyMoney (w.money pl) (-toInt32 reqmoney))
      inv := inv }) h3 rfl (sendMailTo_quiet hw1 rc _ _ _ _ _ (List.nodup_dedup _) ?_ ?_ ?_)
  · exact fun g hg => h2 g (List.mem_dedup.1 hg)
  · -- what was in a slot is attached to no mail
    intro p n g hn hg hmem
    obtain ⟨bag, slot, hat, -⟩ := hplace g (List.mem_dedup.1 hmem)
    exact hs.itemAt_ne g (hs.spare p n g hn hg).loose pl bag slot hat
  · rw [u32_eq _ hlt]
    rintro rfl
    have hcost : mailCost itemGUIDs.length ≤ 360 := by
      unfold mailCost
      unfold maxMailItems at hlen
      split <;> omega
    rw [u32_eq _ (by omega)] at hreq
    unfold maxMoneyAmount at hpurse
    omega

/-! ### The other requests -/

theorem updateMail_quiet (hs : w.Sound cfg.om) (pl mailId : Nat) (f : Mail → Mail)
    (hf : ∀ m, m.Reduced (f m) ∧ (f m).cod = m.cod) : Quiet cfg.om w (w.updateMail pl mailId f) :=
  Quiet.of_inv (hs.shrink _ (updateMail_shrinks pl mailId f hf)) rfl rfl

theorem saveMail_quiet (hs : w.Sound cfg.om) (pl : Nat) : Quiet cfg.om w (w.saveMail pl) :=
  Quiet.of_inv (hs.shrink _ (saveMail_shrinks pl)) rfl rfl

theorem handleMarkAsRead_quiet (hs : w.Sound cfg.om) (pl mailId : Nat) :
    Quiet cfg.om w (w.handleMarkAsRead pl mailId) := by
  unfold handleMarkAsRead
  split
  · exact Quiet.of_inv hs rfl rfl
  · exact updateMail_quiet hs pl mailId _ fun m => ⟨⟨rfl, rfl, rfl, List.Sublist.refl _, Or.inl rfl⟩, rfl⟩

theorem handleMailDelete_quiet (hs : w.Sound cfg.om) (pl mailId : Nat) :
    Quiet cfg.om w (w.handleMailDelete pl mailId) := by
  unfold handleMailDelete
  split
  · exact Quiet.of_inv hs rfl rfl
  · split
    · exact Quiet.of_inv hs rfl rfl
    · exact updateMail_quiet hs pl mailId _ fun m => ⟨⟨rfl, rfl, rfl, List.Sublist.refl _, Or.inl rfl⟩, rfl⟩

theorem handleTakeMoney_quiet (hs : w.Sound cfg.om) (pl mailId : Nat) :
    Quiet cfg.om w (w.handleTakeMoney pl mailId) := by
  unfold handleTakeMoney
  split
  · exact Quiet.of_inv hs rfl rfl
  · next m hm =>
    obtain ⟨hmem, -, -⟩ := openMail_eq_some pl mailId m hm
    have hamount := hs.amount pl m hmem
    have hmoney : modifyMoney (w.money pl) (toInt32 m.money) ≤ maxMoneyAmount := by
      unfold u32 at hamount
      refine modifyMoney_le _ _ (hs.purse pl) ?_ ?_ <;> unfold toInt32 <;> split <;> omega
    have h1 := (hs.withMoney pl _ hmoney).shrink _ (updateMail_shrinks pl mailId
      (fun m => { m with money := 0, state := .changed })
      fun m => ⟨⟨rfl, rfl, rfl, List.Sublist.refl _, Or.inr rfl⟩, rfl⟩)
    exact Quiet.of_inv (h1.shrink _ (saveMail_shrinks pl)) rfl rfl

theorem handleMailCreateTextItem_quiet (hs : w.Sound cfg.om) (pl mailId : Nat) :
    Quiet cfg.om w (w.handleMailCreateTextItem cfg pl mailId) := by
  have hstay : Quiet cfg.om w w := Quiet.of_inv hs rfl rfl
  unfold handleMailCreateTextItem
  split
  · exact hstay
  split
  · exact hstay
  split
  · exact hstay
  next g inv hc =>
  obtain ⟨hg, hin, hsp, hstays⟩ := w.inv.createItem_spec cfg.om pl hs.inOrder mailBodyItemTemplate 1 g inv hc
  have hold : ∀ y, w.inv.shelf.Spare cfg.om y → y ≠ g ∧ inv.shelf.Spare cfg.om y := by
    intro y hy
    have hne : y ≠ g := by rw [hg]; exact Nat.ne_of_lt hy.stacked.old
    exact ⟨hne, (hstays y hne hy).1⟩
  simp only
  split
  · next hok =>
    have hwent := (inv.wentIn_of_canStoreItem cfg.om pl hin g hsp _ hok rfl).1
    have hkeep := fun y (hy : w.inv.shelf.Spare cfg.om y) =>
      (hwent.spares y (hold y hy).1 (hold y hy).2).1
    have hw1 := hs.withInv _ hwent.inOrder fun p m y hm hy => hkeep y (hs.spare p m y hm hy)
    have hq := updateMail_quiet hw1 pl mailId
      (fun m => { m with checked := m.checked ||| mailCheckMaskCopied, state := .changed })
      fun m => ⟨⟨rfl, rfl, rfl, List.Sublist.refl _, Or.inl rfl⟩, rfl⟩
    exact ⟨hq.sound, fun y hy => hq.loose y (hkeep y hy), rfl⟩
  · obtain ⟨hdin, hdel⟩ := inv.deleteItem_spec cfg.om hin g hsp
    have hkeep := fun y (hy : w.inv.shelf.Spare cfg.om y) => (hdel y (hold y hy).1 (hold y hy).2).1
    exact ⟨hs.withInv _ hdin fun p m y hm hy => hkeep y (hs.spare p m y hm hy),
      fun y hy => (hkeep y hy).loose, rfl⟩

theorem serverMail_quiet (hs : w.Sound cfg.om) (rc : Nat) (messageType : MailMessageType)
    (senderId entry count deliverDelay : Nat) :
    Quiet cfg.om w (w.serverMail cfg rc messageType senderId entry count deliverDelay) := by
  unfold serverMail
  split
  · exact Quiet.of_inv hs rfl rfl
  · next g inv hc =>
    obtain ⟨hg, hin, hsp, hstays⟩ := w.inv.createItem_spec cfg.om rc hs.inOrder entry count g inv hc
    have hold : ∀ y, w.inv.shelf.Spare cfg.om y → y ≠ g ∧ inv.shelf.Spare cfg.om y := by
      intro y hy
      have hne : y ≠ g := by rw [hg]; exact Nat.ne_of_lt hy.stacked.old
      exact ⟨hne, (hstays y hne hy).1⟩
    have hw1 := hs.withInv inv hin fun p m y hm hy => (hold y (hs.spare p m y hm hy)).2
    refine Quiet.of_spare (v := { w with inv := inv }) (fun y hy => (hold y hy).2) rfl
      (sendMailTo_quiet hw1 rc messageType senderId { items := [g] } 0 deliverDelay (by simp) ?_ ?_ (by simp [u32]))
    · intro y hy
      rw [List.mem_singleton.1 hy]; exact hsp
    · intro p n y hn hy hmem
      exact (hold y (hs.spare p n y hn hy)).1 (List.mem_singleton.1 hmem)

theorem handleReturnToSender_quiet (hs : w.Sound cfg.om) (pl mailId : Nat) :
    Quiet cfg.om w (w.handleReturnToSender cfg pl mailId) := by
  unfold handleReturnToSender
  split
  · exact Quiet.of_inv hs rfl rfl
  next m hm =>
  obtain ⟨hmem, hid, -⟩ := openMail_eq_some pl mailId m hm
  have h1 : (w.removeMail pl mailId).Sound cfg.om := hs.shrink _ (removeMail_shrinks pl mailId)
  simp only
  split
  · rw [foldl_removeMItem]
    have h2 := h1.withMMitems fun p i => if p = pl ∧ i ∈ m.items then false else w.mMitems p i
    generalize hitems : (m.items.filter fun g => w.mMitems pl g).dedup = items
    have hsub : ∀ g ∈ items, g ∈ m.items := by
      intro g hg
      rw [← hitems] at hg
      exact List.mem_of_mem_filter (List.mem_dedup.1 hg)
    have hnd : items.Nodup := hitems ▸ List.nodup_dedup _
    have hsp : ∀ g ∈ items, w.inv.shelf.Spare cfg.om g := fun g hg => hs.spare pl m g hmem (hsub g hg)
    -- no other mail holds an item of the returned one
    have hfree : ∀ p n g, n ∈ (w.removeMail pl mailId).mails p → g ∈ n.items → g ∉ items := by
      intro p n g hn hg hmem'
      obtain ⟨n', hn', hr, -⟩ := (removeMail_shrinks pl mailId).origin p n hn
      have hsame := hs.boxes.alone p n' pl m g hn' hmem (hr.items.subset hg) (hsub g hmem')
      obtain rfl := hs.boxes.apart p n' pl m hn' hmem hsame
      exact ((mem_removeMail (hs.boxes.ids p) n).1 hn).2 (hr.id.trans (hsame.trans hid))
    unfold sendReturnToSender
    split
    · obtain ⟨hd1, hd2, hd3⟩ := w.inv.deleteItems_spec cfg.om items hs.inOrder hnd hsp
      exact ⟨h2.withInv _ hd1 fun p n g hn hg => hd2 g (hfree p n g hn hg) (h2.spare p n g hn hg),
        fun g hg => hd3 g hg.loose, rfl⟩
    · simp only
      have hq := fun bodyId delay => sendMailTo_quiet h2 m.sender .normal m.receiver
        { mailTemplateId := m.mailTemplateId, bodyId := bodyId, items := items, money := m.money }
        mailCheckMaskReturned delay hnd hsp hfree (hs.amount pl m hmem)
      exact ⟨(hq _ _).sound, (hq _ _).loose, (hq _ _).taken⟩
  · exact Quiet.of_inv h1 rfl rfl

/-! ## Taking -/

/-- The COD of a mail is set to 0, its items and all else as they were. -/
def codPaid (m : Mail) : Mail := { m with cod := 0, state := .changed }

theorem codPaid_reduced (m : Mail) : m.Reduced (codPaid m) :=
  ⟨rfl, rfl, rfl, List.Sublist.refl _, Or.inl rfl⟩

/-- The COD of a mail was paid: what the law asks for, and the invariant. -/
structure Paid (cfg : MailConfig) (w t : PostOffice) (p : Nat) (m : Mail) : Prop where
  quiet : Quiet cfg.om w t
  inv : t.inv = w.inv
  attached : ∀ q n g, n ∈ t.mails q → g ∈ n.items → ∃ n' ∈ w.mails q, g ∈ n'.items
  charged : t.money p + m.cod = w.money p
  mailed : m.cod ≠ 0 → ∃ pay ∈ t.mails m.sender, pay.messageID = w.nextMailId ∧ pay.money = m.cod ∧
    pay.sender = p ∧ pay.state = .unchanged
  paidOnce : t.paymentsOf m.messageID =
    if w.codSent m.messageID = 0 then []
    else [⟨m.messageID, p, m.sender, w.codSent m.messageID⟩]
  codSent : t.codSent m.messageID = w.codSent m.messageID

theorem payCod_nothing (hs : w.Sound cfg.om) (pl : Nat) (m : Mail) (hm : m ∈ w.mails pl) (h0 : m.cod = 0) :
    Paid cfg w ((w.payCod cfg pl m).updateMail pl m.messageID codPaid) pl m := by
  have hpay : w.payCod cfg pl m = w := by
    unfold payCod
    rw [if_neg (by omega)]
  rw [hpay]
  have hshrink : Shrinks w.mails (w.updateMail pl m.messageID codPaid).mails := by
    refine ⟨fun p => by rw [updateMail_ids pl _ codPaid fun _ => rfl], fun p n' hn' => ?_⟩
    rcases updateMail_origin pl m.messageID codPaid p n' hn' with ⟨hn, -⟩ | ⟨rfl, n, hn, hid, rfl⟩
    · exact ⟨n', hn, Mail.Reduced.refl n', rfl⟩
    · obtain rfl := hs.boxes.eq_of_id hn hm hid
      exact ⟨n, hn, codPaid_reduced n, h0.symm⟩
  refine ⟨Quiet.of_inv (hs.shrink _ hshrink) rfl rfl, rfl, fun q n g hn hg => ?_, by rw [h0]; rfl,
    fun h => absurd h0 h, ?_, rfl⟩
  · obtain ⟨n', hn', hr, -⟩ := hshrink.origin q n hn
    exact ⟨n', hn', hr.items.subset hg⟩
  rcases hs.due pl m hm with ⟨h1, h2⟩ | ⟨-, h2⟩
  · rw [if_pos (h1.symm.trans h0)]; exact h2
  · exact h2

/-- **The COD is due** and goes to the sender. -/
theorem payCod_due (hs : w.Sound cfg.om) (pl : Nat) (m : Mail) (hm : m ∈ w.mails pl) (h0 : 0 < m.cod)
    (hle : m.cod ≤ w.money pl) (hr : Reaches cfg m.sender) :
    Paid cfg w ((w.payCod cfg pl m).updateMail pl m.messageID codPaid) pl m := by
  obtain ⟨hrcv, hlt⟩ := hs.boxes.addressed pl m hm
  have hpurse := hs.purse pl
  have howe : m.cod = w.codSent m.messageID ∧ w.paymentsOf m.messageID = [] := by
    rcases hs.due pl m hm with h | ⟨h, -⟩
    · exact h
    · omega
  have hmax : m.cod ≤ maxMoneyAmount := hle.trans hpurse
  have hsend := sendMailTo_quiet hs m.sender .normal m.receiver { money := m.cod } mailCheckMaskCodPayment 0
    List.nodup_nil (by simp) (by simp) (by unfold maxMoneyAmount at hmax; simp only; rw [u32_eq _ (by omega)]; omega)
  generalize hv : w.sendMailTo cfg m.sender .normal m.receiver { money := m.cod } mailCheckMaskCodPayment 0 = v
    at hsend
  have hv' : v = { w with
      mails := Function.update w.mails m.sender
        (w.newMail m.sender .normal m.receiver { money := m.cod } mailCheckMaskCodPayment 0 ::
          w.mails m.sender)
      mMitems := v.mMitems
      nextMailId := w.nextMailId + 1
      codSent := Function.update w.codSent w.nextMailId 0 } := by
    rw [← hv]
    unfold sendMailTo
    rw [if_neg hr.2]
  have hpay : w.payCod cfg pl m = { v with
      payments := ⟨m.messageID, pl, m.sender, m.cod⟩ :: v.payments
      money := Function.update v.money pl (modifyMoney (v.money pl) (-toInt32 m.cod)) } := by
    unfold payCod
    rw [if_pos h0, if_pos hr.1, hv, if_neg hr.2]
  have hvm : v.money = w.money := by rw [hv']
  have hvp : v.payments = w.payments := by rw [hv']
  have hvc : ∀ id, id ≠ w.nextMailId → v.codSent id = w.codSent id := fun id hne => by
    rw [hv']; exact Function.update_of_ne hne ..
  have hvn : v.nextMailId = w.nextMailId + 1 := by rw [hv']
  -- the mail is the only one under its id, before and after
  have honly : ∀ p n, n ∈ v.mails p → n.messageID = m.messageID → p = pl ∧ n = m := by
    intro p n hn hid
    have hmv : m ∈ v.mails pl := by
      rw [hv']
      by_cases hp : pl = m.sender
      · simp only [← hp, Function.update_self]; exact List.mem_cons_of_mem _ hm
      · simp only [Function.update_of_ne hp]; exact hm
    obtain rfl := hsend.sound.boxes.apart p n pl m hn hmv hid
    exact ⟨rfl, hsend.sound.boxes.eq_of_id hn hmv hid⟩
  have hother : ∀ id, id ≠ m.messageID →
      (w.payCod cfg pl m).paymentsOf id = v.paymentsOf id := by
    intro id hne
    rw [hpay]
    unfold paymentsOf
    rw [List.filter_cons_of_neg (by simpa using hne.symm)]
  have hself : (w.payCod cfg pl m).paymentsOf m.messageID = [⟨m.messageID, pl, m.sender, m.cod⟩] := by
    rw [hpay]
    unfold paymentsOf
    rw [List.filter_cons_of_pos (by simp), hvp]
    exact congrArg _ howe.2
  have hmoney : modifyMoney (v.money pl) (-toInt32 m.cod) = w.money pl - m.cod := by
    rw [hvm]; exact modifyMoney_pay _ _ hle hpurse
  have hcs : (w.payCod cfg pl m).codSent m.messageID = w.codSent m.messageID := by
    rw [hpay]; exact hvc _ (Nat.ne_of_lt hlt)
  have hmails : (w.payCod cfg pl m).mails = v.mails := by rw [hpay]
  have horigin := fun p n' hn' =>
    updateMail_origin (w := w.payCod cfg pl m) pl m.messageID codPaid p n' hn'
  have hsound : ((w.payCod cfg pl m).updateMail pl m.messageID codPaid).Sound cfg.om := by
    refine ⟨by rw [hpay]; exact hsend.sound.inOrder, ?_, ?_, ?_, ?_, ?_, ?_⟩
    · have hboxes : Boxes v.mails (w.payCod cfg pl m).nextMailId := by rw [hpay]; exact hsend.sound.boxes
      refine hboxes.shrink (fun p => ?_) fun p n' hn' => ?_
      · rw [updateMail_ids pl _ codPaid fun _ => rfl, hmails]
      · rcases horigin p n' hn' with ⟨hn, -⟩ | ⟨rfl, n, hn, -, rfl⟩
        · exact ⟨n', hmails ▸ hn, Mail.Reduced.refl n'⟩
        · exact ⟨n, hmails ▸ hn, codPaid_reduced n⟩
    · intro p n' g hn' hg
      have hsp : ∀ n ∈ v.mails p, g ∈ n.items → (w.payCod cfg pl m).inv.shelf.Spare cfg.om g := by
        intro n hn hg
        rw [hpay]; exact hsend.sound.spare p n g hn hg
      rcases horigin p n' hn' with ⟨hn, -⟩ | ⟨rfl, n, hn, -, rfl⟩
      · exact hsp n' (hmails ▸ hn) hg
      · exact hsp n (hmails ▸ hn) hg
    · intro p
      have hgoal : (Function.update v.money pl (modifyMoney (v.money pl) (-toInt32 m.cod))) p ≤
          maxMoneyAmount := by
        by_cases hp : p = pl
        · subst hp; rw [Function.update_self, hmoney]; omega
        · rw [Function.update_of_ne hp]; exact hsend.sound.purse p
      rw [hpay]; exact hgoal
    · intro p n' hn'
      rcases horigin p n' hn' with ⟨hn, -⟩ | ⟨rfl, n, hn, -, rfl⟩
      · exact hsend.sound.amount p n' (hmails ▸ hn)
      · exact hsend.sound.amount p n (hmails ▸ hn)
    · intro p n' hn'
      rcases horigin p n' hn' with ⟨hn, hne⟩ | ⟨rfl, n, hn, hid, rfl⟩
      · rw [hmails] at hn
        have hid : n'.messageID ≠ m.messageID := fun he => hne (honly p n' hn he).1 he
        have hdue := hsend.sound.due p n' hn
        unfold Owing Settled at hdue ⊢
        change (n'.cod = (w.payCod cfg pl m).codSent n'.messageID ∧
          (w.payCod cfg pl m).paymentsOf n'.messageID = []) ∨ n'.cod = 0 ∧
          (w.payCod cfg pl m).paymentsOf n'.messageID = _
        rw [hother _ hid]
        have hcc : (w.payCod cfg pl m).codSent = v.codSent := by rw [hpay]
        change _ ∨ n'.cod = 0 ∧ v.paymentsOf n'.messageID =
          if (w.payCod cfg pl m).codSent n'.messageID = 0 then []
          else [⟨n'.messageID, p, n'.sender, (w.payCod cfg pl m).codSent n'.messageID⟩]
        rw [hcc]
        exact hdue
      · rw [hmails] at hn
        obtain ⟨-, rfl⟩ := honly p n hn hid
        right
        refine ⟨rfl, ?_⟩
        change (w.payCod cfg p n).paymentsOf n.messageID =
          if (w.payCod cfg p n).codSent n.messageID = 0 then []
          else [⟨n.messageID, p, n.sender, (w.payCod cfg p n).codSent n.messageID⟩]
        rw [hself, hcs, if_neg (by omega), howe.1]
    · intro pay hp
      have hp' : pay ∈ (⟨m.messageID, pl, m.sender, m.cod⟩ :: v.payments : List CodPayment) := by
        rw [hpay] at hp; exact hp
      have hgoal : pay.mail < v.nextMailId := by
        rcases List.mem_cons.1 hp' with rfl | hp'
        · rw [hvn]; simp only; omega
        · exact hsend.sound.unsent pay hp'
      rw [hpay]; exact hgoal
  have hvi : v.inv = w.inv := by rw [hv']
  refine ⟨⟨hsound, fun g hg => ?_, ?_⟩, by rw [hpay]; exact hvi, ?_, ?_, fun _ => ?_, ?_, hcs⟩
  · rw [hpay]; exact hsend.loose g hg
  · rw [hpay]; exact hsend.taken
  · -- the payment has no items
    intro q n' g hn' hg
    have hold : ∀ n ∈ v.mails q, g ∈ n.items → ∃ n' ∈ w.mails q, g ∈ n'.items := by
      intro n hn hg
      rw [hv'] at hn
      by_cases hq : q = m.sender
      · simp only [hq, Function.update_self, List.mem_cons] at hn
        rcases hn with rfl | hn
        · simp [newMail] at hg
        · exact ⟨n, hq ▸ hn, hg⟩
      · simp only [Function.update_of_ne hq] at hn
        exact ⟨n, hn, hg⟩
    rcases horigin q n' hn' with ⟨hn, -⟩ | ⟨rfl, n, hn, -, rfl⟩
    · exact hold n' (hmails ▸ hn) hg
    · exact hold n (hmails ▸ hn) hg
  · have hcharged : (Function.update v.money pl (modifyMoney (v.money pl) (-toInt32 m.cod))) pl + m.cod =
        w.money pl := by
      rw [Function.update_self, hmoney]; omega
    rw [hpay]; exact hcharged
  · -- the payment is in the sender's box, under an id the taken mail does not have
    refine ⟨w.newMail m.sender .normal m.receiver { money := m.cod } mailCheckMaskCodPayment 0, ?_, rfl, rfl,
      hrcv, rfl⟩
    have hin : w.newMail m.sender .normal m.receiver { money := m.cod } mailCheckMaskCodPayment 0 ∈
        (w.payCod cfg pl m).mails m.sender := by
      rw [hmails, hv']
      simp only [Function.update_self]
      exact List.mem_cons_self ..
    by_cases hp : m.sender = pl
    · simp only [updateMail, hp, Function.update_self]
      rw [hp] at hin
      refine List.mem_map.2 ⟨_, hin, if_neg ?_⟩
      exact (Nat.ne_of_lt hlt).symm
    · simp only [updateMail, Function.update_of_ne hp]
      exact hin
  · rw [if_neg (by omega), ← howe.1]
    exact hself

/-- An item of an opened mail, once it was taken out of the mail, is attached to none. -/
theorem erased_free (hs : w.Sound cfg.om) (pl : Nat) (m : Mail) (hm : m ∈ w.mails pl) (g : Nat)
    (hg : g ∈ m.items) (f : Mail → Mail) (hf : ∀ n, (f n).items = n.items.erase g) (p : Nat) (n : Mail)
    (hn : n ∈ (w.updateMail pl m.messageID f).mails p) : g ∉ n.items := by
  intro hgn
  rcases updateMail_origin pl m.messageID f p n hn with ⟨hold, hne⟩ | ⟨rfl, n', hn', hid, rfl⟩
  · have hsame := hs.boxes.alone p n pl m g hold hm hgn hg
    exact hne (hs.boxes.apart p n pl m hold hm hsame) hsame
  · obtain rfl := hs.boxes.eq_of_id hn' hm hid
    rw [hf n'] at hgn
    exact (hs.boxes.nodup p n' hn').not_mem_erase hgn

/-- A take request that names an item of its mail is refused, or takes that item lawfully. -/
theorem handleTakeItem_spec (hs : w.Sound cfg.om) (pl mailId itemId : Nat)
    (hguard : w.NamesAttached cfg (.takeItem pl mailId itemId)) (t : PostOffice)
    (ht : t = w.handleTakeItem cfg pl mailId itemId) :
    Quiet cfg.om w t ∨ ∃ m ∈ w.mails pl, itemId ∈ m.items ∧ m.messageID = mailId ∧ t.Sound cfg.om ∧
      (∀ g, g ≠ itemId → w.inv.shelf.Spare cfg.om g → t.inv.shelf.Loose g) ∧
      t.taken = ⟨pl, mailId, itemId⟩ :: w.taken ∧ Lawful w t (.takeItem pl mailId itemId) pl m itemId := by
  subst ht
  have hstay : Quiet cfg.om w w := Quiet.of_inv hs rfl rfl
  unfold handleTakeItem
  split
  · exact Or.inl hstay
  next m hopen =>
  obtain ⟨hm, rfl, hdel⟩ := openMail_eq_some pl mailId m hopen
  split
  · exact Or.inl hstay
  next hle =>
  split
  · exact Or.inl hstay
  next hmitem =>
  simp only
  split
  swap
  · exact Or.inl hstay
  next hok =>
  right
  obtain ⟨hg, hreach⟩ := hguard m hopen (Bool.not_eq_false _ ▸ hmitem)
  refine ⟨m, hm, hg, rfl, ?_⟩
  have hpl := (hs.boxes.addressed pl m hm).1
  generalize hdest : (w.inv.canStoreItem cfg.om pl nullBag nullSlot (w.inv.items itemId).entry
    (w.inv.items itemId).count (some itemId) false).dest = dest
  -- the item comes off the mail
  let erase : Mail → Mail := fun m =>
    { m with items := m.items.erase itemId, removedItems := m.removedItems ++ [itemId] }
  have h1 : (w.updateMail pl m.messageID erase).Sound cfg.om :=
    (updateMail_quiet hs pl m.messageID erase fun m => ⟨⟨rfl, rfl, rfl, List.erase_sublist, Or.inl rfl⟩, rfl⟩).sound
  have hfree := erased_free hs pl m hm itemId hg erase fun _ => rfl
  have hm1 : erase m ∈ (w.updateMail pl m.messageID erase).mails pl := by
    simp only [updateMail, Function.update_self]
    exact List.mem_map.2 ⟨m, hm, if_pos rfl⟩
  -- the COD is paid
  have hpaid : Paid cfg (w.updateMail pl m.messageID erase)
      (((w.updateMail pl m.messageID erase).payCod cfg pl (erase m)).updateMail pl m.messageID codPaid) pl
      (erase m) := by
    by_cases h0 : m.cod = 0
    · exact payCod_nothing h1 pl (erase m) hm1 h0
    · exact payCod_due h1 pl (erase m) hm1 (Nat.pos_of_ne_zero h0) (Nat.not_lt.1 hle)
        (hreach.resolve_left h0)
  generalize hv : ((w.updateMail pl m.messageID erase).payCod cfg pl (erase m)).updateMail pl m.messageID
    codPaid = v at hpaid
  have hvinv : v.inv = w.inv := hpaid.inv
  -- and the item goes in
  have hspare := hs.spare pl m itemId hm hg
  have hwent := (w.inv.wentIn_of_canStoreItem cfg.om pl hs.inOrder itemId hspare dest hok hdest).2 false
  have h3 : ({ v.removeMItem pl itemId with
      inv := v.inv.moveItemToInventory cfg.om pl dest itemId false
      taken := ⟨pl, m.messageID, itemId⟩ :: v.taken } : PostOffice).Sound cfg.om := by
    have h2 := hpaid.quiet.sound.withMMitems (v.removeMItem pl itemId).mMitems
    refine (h2.withInv (v.inv.moveItemToInventory cfg.om pl dest itemId false) ?_ ?_).withTaken
      (⟨pl, m.messageID, itemId⟩ :: v.taken)
    · rw [hvinv]; exact hwent.inOrder
    · intro p n g hn hgn
      obtain ⟨n', hn', hgn'⟩ := hpaid.attached p n g hn hgn
      have hne : g ≠ itemId := fun he => hfree p n' hn' (he ▸ hgn')
      have hsp := h1.spare p n' g hn' hgn'
      rw [hvinv]
      exact (hwent.spares g hne hsp).1
  have hsave := saveMail_quiet h3 pl
  have hinv : ∀ g, g ≠ itemId → w.inv.shelf.Spare cfg.om g →
      (v.inv.moveItemToInventory cfg.om pl dest itemId false).shelf.Loose g := by
    intro g hne hsp
    rw [hvinv]
    exact (hwent.spares g hne hsp).1.loose
  have htaken : v.taken = w.taken := hpaid.quiet.taken
  refine ⟨?_, ?_, ?_, ⟨rfl, hdel, ?_, ?_, ?_⟩⟩
  · rw [← hv] at hsave
    exact hsave.sound
  · rw [← hv] at hinv
    exact hinv
  · rw [← hv] at htaken
    exact congrArg _ htaken
  · have hc := hpaid.charged
    rw [← hv] at hc
    exact hc
  · intro h0
    obtain ⟨pay, hin, hid, hmo, hsd, hst⟩ := hpaid.mailed h0
    refine ⟨pay, ?_, hid, hmo, hsd⟩
    -- saving the box keeps the payment
    have hkeep : pay ∈ (({ v.removeMItem pl itemId with
        inv := v.inv.moveItemToInventory cfg.om pl dest itemId false
        taken := ⟨pl, m.messageID, itemId⟩ :: v.taken } : PostOffice).saveMail pl).mails m.sender := by
      have hin' : pay ∈ v.mails m.sender := hin
      by_cases hp : m.sender = pl
      · simp only [saveMail, removeMItem, hp, Function.update_self]
        rw [hp] at hin'
        refine List.mem_filter.2 ⟨List.mem_map.2 ⟨pay, hin', if_neg (by rw [hst]; simp)⟩, by simp [hst]⟩
      · simp only [saveMail, removeMItem, Function.update_of_ne hp]
        exact hin'
    rw [← hv] at hkeep
    exact hkeep
  · have hp := hpaid.paidOnce
    rw [← hv] at hp
    exact hp

/-! ## Top theorems -/

theorem step_quiet (hs : w.Sound cfg.om) (r : MailRequest)
    (hr : ∀ pl mailId itemId, r ≠ .takeItem pl mailId itemId) : Quiet cfg.om w (w.step cfg r) := by
  cases r with
  | sendMail pl rc itemGUIDs money cod bodyId sameTeam allowed =>
    exact handleSendMail_quiet hs pl rc itemGUIDs _ _ bodyId sameTeam allowed (Nat.mod_lt _ (by decide))
  | markAsRead pl mailId => exact handleMarkAsRead_quiet hs pl mailId
  | mailDelete pl mailId => exact handleMailDelete_quiet hs pl mailId
  | returnToSender pl mailId => exact handleReturnToSender_quiet hs pl mailId
  | takeItem pl mailId itemId => exact absurd rfl (hr pl mailId itemId)
  | takeMoney pl mailId => exact handleTakeMoney_quiet hs pl mailId
  | createTextItem pl mailId => exact handleMailCreateTextItem_quiet hs pl mailId
  | saveMail pl => exact saveMail_quiet hs pl
  | serverMail rc messageType senderId entry count deliverDelay =>
    exact serverMail_quiet hs rc messageType senderId entry count deliverDelay
  | tick diff => exact Quiet.of_inv ⟨hs.inOrder, hs.boxes, hs.spare, hs.purse, hs.amount, hs.due, hs.unsent⟩ rfl rfl

theorem step_sound (hs : w.Sound cfg.om) (r : MailRequest) (hg : w.NamesAttached cfg r) :
    (w.step cfg r).Sound cfg.om := by
  by_cases hr : ∃ pl mailId itemId, r = .takeItem pl mailId itemId
  · obtain ⟨pl, mailId, itemId, rfl⟩ := hr
    rcases handleTakeItem_spec hs pl mailId itemId hg _ rfl with h | ⟨m, -, -, -, h, -⟩
    · exact h.sound
    · exact h
  · exact (step_quiet hs r fun pl mailId itemId he => hr ⟨pl, mailId, itemId, he⟩).sound

theorem step_takesLawful (hs : w.Sound cfg.om) (r : MailRequest) (hg : w.NamesAttached cfg r) :
    w.TakesLawful cfg r := by
  intro p n g hn hgn hin
  by_cases hr : ∃ pl mailId itemId, r = .takeItem pl mailId itemId
  · obtain ⟨pl, mailId, itemId, rfl⟩ := hr
    rcases handleTakeItem_spec hs pl mailId itemId hg _ rfl with
      hq | ⟨m, hm, hit, rfl, hsound, hloose, htaken, hlaw⟩
    · exact absurd hin (hq.not_movedIn hs p n g hn hgn)
    · by_cases hgi : g = itemId
      · -- the item of the request: the mail it hangs on is the one named
        subst hgi
        have hsame := hs.boxes.alone p n pl m g hn hm hgn hit
        obtain rfl := hs.boxes.apart p n pl m hn hm hsame
        obtain rfl := hs.boxes.eq_of_id hn hm hsame
        exact hlaw
      · exfalso
        rcases hin with ⟨q, bag, slot, hat⟩ | ⟨q, i, htk⟩
        · exact hsound.itemAt_ne g (hloose g hgi (hs.spare p n g hn hgn)) q bag slot hat
        · change (w.handleTakeItem cfg pl m.messageID itemId).taken = _ at htk
          rw [htaken] at htk
          simp only [List.cons.injEq, Taken.mk.injEq, and_true] at htk
          exact hgi htk.2.2.symm
  · exact absurd hin ((step_quiet hs r fun pl mailId itemId he => hr ⟨pl, mailId, itemId, he⟩).not_movedIn hs
      p n g hn hgn)

end

/-- **The COD law holds along every run** whose take requests name an item of the mail they
name, while the sender can still be paid. -/
theorem takes_lawful (cfg : MailConfig) (w : PostOffice) (hs : w.Sound cfg.om) (rs : List MailRequest)
    (hg : Transition.Along (step cfg) (NamesAttached cfg) w rs) :
    Transition.Along (step cfg) (TakesLawful cfg) w rs :=
  Transition.along_of_invariant (fun _ r hs hg => step_sound hs r hg)
    (fun _ r hs hg => step_takesLawful hs r hg) hs hg

/-! ### A mailbox with two mails -/

def sampleConfig : MailConfig where
  om := Holdings.sampleMgr
  accountOf p := if p = 1 ∨ p = 2 then p else 0
  ahbplayerGUID := 9
  mailDeliveryDelay := 3600

/-- A stack of five, to be paid for on delivery. -/
def samplePaidMail : Mail :=
  { messageID := 1, messageType := .normal, sender := 2, receiver := 1, items := [7], deliverTime := 50, cod := 100 }

/-- A letter without anything. -/
def sampleLetter : Mail :=
  { messageID := 2, messageType := .normal, sender := 2, receiver := 1, itemTextId := 4, deliverTime := 60 }

def sampleOffice : PostOffice where
  time := 100
  inv := Holdings.sampleLoose
  money _ := 500
  mails p := if p = 1 then [samplePaidMail, sampleLetter] else []
  mMitems p g := p == 1 && g == 7
  nextMailId := 3
  codSent id := if id = 1 then 100 else 0

theorem sampleOffice_sound : sampleOffice.Sound sampleConfig.om := by
  have hmails : ∀ p m, m ∈ sampleOffice.mails p → p = 1 ∧ (m = samplePaidMail ∨ m = sampleLetter) := by
    intro p m hm
    simp only [sampleOffice] at hm
    split at hm
    · next hp => exact ⟨hp, by simpa using hm⟩
    · simp at hm
  have hspare : sampleOffice.inv.shelf.Spare sampleConfig.om 7 := Holdings.sampleLoose_spare
  refine ⟨Holdings.sampleLoose_inOrder, ⟨?_, ?_, ?_, ?_, ?_⟩, ?_, fun _ => (by decide : 500 ≤ maxMoneyAmount),
    ?_, ?_, by simp [sampleOffice]⟩
  · intro p m hm
    obtain ⟨rfl, rfl | rfl⟩ := hmails p m hm <;> decide
  · intro p
    by_cases hp : p = 1
    · subst hp; decide
    · simp [sampleOffice, hp]
  · intro p m q n hm hn _
    rw [(hmails p m hm).1, (hmails q n hn).1]
  · intro p m q n g hm hn hg hg'
    obtain ⟨-, rfl | rfl⟩ := hmails p m hm <;> obtain ⟨-, rfl | rfl⟩ := hmails q n hn <;>
      simp [samplePaidMail, sampleLetter] at hg hg' ⊢
  · intro p m hm
    obtain ⟨-, rfl | rfl⟩ := hmails p m hm <;> decide
  · intro p m g hm hg
    obtain ⟨-, rfl | rfl⟩ := hmails p m hm
    · rw [List.mem_singleton.1 hg]; exact hspare
    · simp [sampleLetter] at hg
  · intro p m hm
    obtain ⟨-, rfl | rfl⟩ := hmails p m hm <;> decide
  · intro p m hm
    obtain ⟨-, rfl | rfl⟩ := hmails p m hm <;> exact Or.inl ⟨rfl, rfl⟩

/-- **A take request for the letter takes the item of the other mail**, and nothing is paid. -/
theorem take_unlawful :
    sampleOffice.Sound sampleConfig.om ∧
      ((sampleOffice.step sampleConfig (.takeItem 1 2 7)).inv.getItemByPos 1 255 23 = some 7 ∧
        (sampleOffice.step sampleConfig (.takeItem 1 2 7)).money 1 = 500 ∧
        (sampleOffice.step sampleConfig (.takeItem 1 2 7)).payments = []) ∧
      ¬TakesLawful sampleConfig sampleOffice (.takeItem 1 2 7) := by
  refine ⟨sampleOffice_sound, by decide, fun h => ?_⟩
  have hlaw := h 1 samplePaidMail 7 (by decide) (by decide) (Or.inl ⟨1, 255, 23, by decide⟩)
  exact absurd hlaw.asked (by simp [samplePaidMail])

theorem takes_lawful_sample :
    Transition.Along (step sampleConfig) (TakesLawful sampleConfig) sampleOffice
      [.markAsRead 1 2, .takeItem 1 1 7] := by
  refine takes_lawful sampleConfig sampleOffice sampleOffice_sound _ ⟨trivial, ?_, trivial⟩
  intro m hm _
  obtain rfl : samplePaidMail = m := by simpa [step, handleMarkAsRead, openMail, getMail, updateMail,
    sampleOffice, samplePaidMail, sampleLetter] using hm
  exact ⟨by decide, Or.inr ⟨by decide, by decide⟩⟩

end PostOffice

end BlizzLike
