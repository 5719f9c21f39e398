import BlizzLikeCore.Auction.Custody
import BlizzLikeCore.Lib.Escrow

/-!
# Gold at the auction house

Bids and deposits are taken from purses and remembered only in the auction entries.  The books
of the auction house are an escrow: every request comes to lawful escrow moves (`step_books`),
so along every run whose cuts leave the seller something the gold in purses, mails and auctions
falls by exactly the cuts, the forfeited deposits and the gold mailed to a character who does
not exist or is the auction bot's (`gold_conserved`).
-/

namespace BlizzLike

open Escrow

namespace AuctionHouseMgr

/-! ## The books -/

/-- An auction as a lot. -/
def toLot (a : AuctionEntry) : Lot Nat :=
  { key := a.id, seller := a.owner, bidder := if a.bidder = 0 then none else some a.bidder, bid := a.bid
    deposit := a.deposit, rate := a.auctionHouseEntry.cutPercent }

/-- The gold in the box of a character. -/
def goldInMail (w : PostOffice) (p : Nat) : Nat := ((w.mails p).map Mail.money).sum

/-- Purses, gold in mails and lots. -/
def books (w : AuctionHouseMgr) : Books Nat :=
  { purse := w.post.money, sent := goldInMail w.post, lots := w.auctions.map fun e => toLot e.2 }

/-- A mail to `p` is put into a box. -/
def reached (cfg : AuctionConfig) (p : Nat) : Bool := cfg.accountOf p != 0 && p != cfg.ahbplayerGUID

/-- `GetAuctionCut`, from the lot. -/
def fee (cfg : AuctionConfig) (l : Lot Nat) : Nat := u32 (cfg.cutOf (u32 (l.rate * l.bid)))

/-- The character exists. -/
def Known (cfg : AuctionConfig) (p : Nat) : Prop := cfg.accountOf p ≠ 0

/-- The moves a request may come to. -/
def Comes : AuctionRequest → List (Move Nat) → Prop
  | .sellItem pl _ _ _ _ _ _, ms => ms = [] ∨ ∃ l, ms = [.opened l] ∧ l.seller = pl
  | .placeBid pl _ _ price, ms => ms = [] ∨ (∃ l, ms = [.bid l pl (u32 price)]) ∨
      ∃ l buyout, buyout ≤ u32 price ∧
        ms = [.bid l pl buyout, .sold { l with bidder := some pl, bid := buyout }]
  | .removeItem pl _ _, ms => ms = [] ∨ ∃ l, ms = [.cancelled l] ∧ l.seller = pl
  | .update _ _, ms => ∀ m ∈ ms, ∃ l, m = .sold l ∨ m = .expired l
  | _, ms => ms = []

/-- **The gold law** for one request: it comes to lawful moves of the escrow. -/
def GoldLawful (cfg : AuctionConfig) (w : AuctionHouseMgr) (r : AuctionRequest) : Prop :=
  ∃ ms, Comes r ms ∧ books (w.step cfg r) = Transition.run (move (reached cfg) (fee cfg)) (books w) ms ∧
    Transition.Along (move (reached cfg) (fee cfg)) (Lawful (Known cfg) (fee cfg)) (books w) ms

/-- The cut of a sale is no more than the bid and the deposit. -/
def CutFits (cfg : AuctionConfig) (a : AuctionEntry) : Prop := a.getAuctionCut cfg ≤ a.bid + a.deposit

/-- No sale of the request takes a cut larger than the bid and the deposit. -/
def CutsFit (cfg : AuctionConfig) (w : AuctionHouseMgr) : AuctionRequest → Prop
  | .placeBid _ npc auctionId price => ∀ n a, npc = some n →
      w.getAuction (cfg.getAuctionsMap n.faction) (u32 auctionId) = some a →
      a.buyout ≠ 0 → a.buyout ≤ u32 price → CutFits cfg { a with bid := a.buyout }
  | .update house result => ∀ id ∈ result, ∀ a, w.getAuction house id = some a → a.bidder ≠ 0 → CutFits cfg a
  | _ => True

/-- What runs keep: ids of their own, purses and escrowed gold within the limit of a purse, and
a standing bid below the buyout price. -/
structure Escrowed (cfg : AuctionConfig) (w : AuctionHouseMgr) : Prop where
  ids : (w.auctions.map fun e => e.2.id).Nodup
  fresh : ∀ e ∈ w.auctions, e.2.id < w.nextAuctionId
  known : ∀ p, w.online p = true → cfg.accountOf p ≠ 0
  purse : ∀ p, w.post.money p ≤ maxMoneyAmount
  bid : ∀ e ∈ w.auctions, e.2.bid ≤ maxMoneyAmount
  deposit : ∀ e ∈ w.auctions, e.2.deposit ≤ maxMoneyAmount
  unbid : ∀ e ∈ w.auctions, e.2.bidder = 0 → e.2.bid = 0
  belowBuyout : ∀ e ∈ w.auctions, e.2.buyout ≠ 0 → e.2.bid < e.2.buyout

/-! ## Lemmas -/

section
variable {cfg : AuctionConfig} {w : AuctionHouseMgr}

theorem fee_toLot (a : AuctionEntry) : fee cfg (toLot a) = a.getAuctionCut cfg := rfl

/-! ### Mails and purses in the books -/

theorem goldInMail_deliver (v : PostOffice) (rc : Nat) (m : Mail) :
    goldInMail { v with mails := Function.update v.mails rc (m :: v.mails rc) } =
      Function.update (goldInMail v) rc (goldInMail v rc + m.money) := by
  funext p
  unfold goldInMail
  by_cases hp : p = rc
  · subst hp; simp [Nat.add_comm]
  · simp [hp]

/-- **A mail to an existing character** in the books. -/
theorem books_sendMail (rc : Nat) (a : AuctionEntry) (draft : MailDraft) (deliverDelay : Nat)
    (hrc : cfg.accountOf rc ≠ 0) :
    books (w.sendMail cfg rc a draft deliverDelay) = (books w).send (reached cfg) rc draft.money := by
  have hreach : reached cfg rc = true ↔ rc ≠ cfg.ahbplayerGUID := by simp [reached, hrc]
  unfold sendMail PostOffice.sendMailTo Books.send
  by_cases hb : rc = cfg.ahbplayerGUID
  · have hno : ¬reached cfg rc = true := fun h => hreach.1 h hb
    rw [if_pos hb, if_neg hno]
    by_cases hit : draft.items = []
    · rw [if_neg fun h => h.2 hit]
    · rw [if_pos ⟨rfl, hit⟩]; rfl
  · rw [if_neg hb, if_pos (hreach.2 hb)]
    unfold books Books.credit
    congr 1
    exact goldInMail_deliver w.post rc _

theorem books_pay (pl amount : Nat) (h : amount ≤ w.post.money pl) (hm : w.post.money pl ≤ maxMoneyAmount) :
    books (w.pay pl amount) = (books w).pay pl amount := by
  unfold pay books Books.pay
  simp only [modifyMoney_pay _ _ h hm]
  rfl

theorem receiverExists_iff (hk : ∀ p, w.online p = true → cfg.accountOf p ≠ 0) (rc : Nat) :
    w.receiverExists cfg rc = true ↔ cfg.accountOf rc ≠ 0 := by
  unfold receiverExists
  simp only [Bool.or_eq_true, bne_iff_ne]
  exact ⟨fun h => h.elim (hk rc) id, Or.inr⟩

theorem send_unreached (b : Books Nat) (p n : Nat) (h : cfg.accountOf p = 0) :
    b.send (reached cfg) p n = b := by
  unfold Books.send
  rw [if_neg (by simp [reached, h])]

theorem books_mailBidBack (hk : ∀ p, w.online p = true → cfg.accountOf p ≠ 0) (a : AuctionEntry)
    (hb : a.bidder ≠ 0) :
    books (w.mailBidBack cfg a) = (books w).refund (reached cfg) (toLot a) := by
  have hrefund : (books w).refund (reached cfg) (toLot a) = (books w).send (reached cfg) a.bidder a.bid := by
    simp [Books.refund, toLot, hb]
  rw [hrefund]
  unfold mailBidBack
  split
  · next h => exact books_sendMail a.bidder a _ 0 ((receiverExists_iff hk _).1 h)
  · next h =>
    rw [send_unreached]
    by_contra hne
    exact h ((receiverExists_iff hk _).2 hne)

theorem books_sendAuctionSalePendingMail (hk : ∀ p, w.online p = true → cfg.accountOf p ≠ 0)
    (a : AuctionEntry) : books (w.sendAuctionSalePendingMail cfg a) = books w := by
  unfold sendAuctionSalePendingMail
  split
  · next h =>
    rw [books_sendMail a.owner a _ 0 ((receiverExists_iff hk _).1 h)]
    exact send_zero a.owner
  · rfl

theorem books_sendAuctionExpiredMail (hk : ∀ p, w.online p = true → cfg.accountOf p ≠ 0)
    (a : AuctionEntry) : books (w.sendAuctionExpiredMail cfg a) = books w := by
  unfold sendAuctionExpiredMail
  split
  · rfl
  · split
    · next h =>
      rw [books_sendMail a.owner a _ 0 ((receiverExists_iff hk _).1 h)]
      exact send_zero a.owner
    · rfl

theorem books_sendAuctionWonMail (hk : ∀ p, w.online p = true → cfg.accountOf p ≠ 0) (a : AuctionEntry) :
    books (w.sendAuctionWonMail cfg a) = books w := by
  unfold sendAuctionWonMail
  simp only
  generalize hacc : (if cfg.gmLogTrade then cfg.accountOf a.bidder else 0) = bidderAccId
  split
  · rfl
  · split
    · next h =>
      rw [books_sendMail a.bidder a _ 0]
      · exact send_zero a.bidder
      · rcases h with h | h
        · exact hk _ h
        · rw [← hacc] at h
          split at h
          · exact h
          · exact absurd rfl h
    · rfl

/-- **The profit of a sale** is mailed to the owner. -/
theorem books_sendAuctionSuccessfulMail (hk : ∀ p, w.online p = true → cfg.accountOf p ≠ 0)
    (a : AuctionEntry) (hb : a.bid ≤ maxMoneyAmount) (hd : a.deposit ≤ maxMoneyAmount)
    (hcut : CutFits cfg a) :
    books (w.sendAuctionSuccessfulMail cfg a) =
      (books w).send (reached cfg) a.owner (a.bid + a.deposit - a.getAuctionCut cfg) := by
  have hprofit : a.profit cfg = a.bid + a.deposit - a.getAuctionCut cfg := by
    unfold CutFits at hcut
    unfold maxMoneyAmount at hb hd
    unfold AuctionEntry.profit
    rw [u32_eq _ (by omega), sub32_eq _ _ hcut]
  unfold sendAuctionSuccessfulMail
  split
  · next h =>
    rw [books_sendMail a.owner a _ hour ((receiverExists_iff hk _).1 h)]
    simp only [hprofit]
    rfl
  · next h =>
    rw [send_unreached]
    by_contra hne
    exact h ((receiverExists_iff hk _).2 hne)

/-! ### Auctions in the books -/

theorem mem_books (house : AuctionHouse) (a : AuctionEntry) (ha : (house, a) ∈ w.auctions) :
    toLot a ∈ (books w).lots := List.mem_map.2 ⟨(house, a), ha, rfl⟩

theorem eq_of_id (he : (w.auctions.map fun e => e.2.id).Nodup) {e f : AuctionHouse × AuctionEntry}
    (h : e ∈ w.auctions) (hf : f ∈ w.auctions) (hid : e.2.id = f.2.id) : e = f :=
  List.inj_on_of_nodup_map he h hf hid

theorem books_setBid (hids : (w.auctions.map fun e => e.2.id).Nodup) (house : AuctionHouse) (a : AuctionEntry)
    (ha : (house, a) ∈ w.auctions) (pl price : Nat) (hpl : pl ≠ 0) :
    books (w.setBid house a.id pl price) = (books w).setBid (toLot a).key pl price := by
  unfold setBid books Books.setBid
  simp only [List.map_map, Books.mk.injEq, true_and]
  refine List.map_congr_left fun e he => ?_
  simp only [Function.comp]
  by_cases hid : e.2.id = a.id
  · obtain rfl := eq_of_id hids he ha hid
    simp [toLot, hpl]
  · rw [if_neg fun h => hid h.2, if_neg (by exact hid)]

theorem books_clearAuction (hids : (w.auctions.map fun e => e.2.id).Nodup) (house : AuctionHouse)
    (a : AuctionEntry) (ha : (house, a) ∈ w.auctions) :
    books (w.clearAuction house a) = (books w).drop (toLot a).key := by
  unfold clearAuction removeAuction removeAItem books Books.drop
  simp only [List.filter_map, Books.mk.injEq, true_and]
  congr 1
  refine List.filter_congr fun e he => ?_
  by_cases hid : e.2.id = a.id
  · obtain rfl := eq_of_id hids he ha hid
    simp [toLot]
  · have hne : (e.2.id == a.id) = false := by simpa using hid
    simp [toLot, hne, bne]

theorem Escrowed.wf (he : Escrowed cfg w) : Wf (books w) := by
  refine ⟨?_, fun l hl hb => ?_⟩
  · unfold books
    rw [List.map_map]
    exact he.ids
  · obtain ⟨e, hmem, rfl⟩ := List.mem_map.1 hl
    refine he.unbid e hmem ?_
    by_contra hne
    simp [toLot, hne] at hb

/-! ### Requests -/

/-- What the gold law needs of a step: the escrow moves and the invariant afterwards. -/
structure Booked (cfg : AuctionConfig) (w t : AuctionHouseMgr) (ms : List (Move Nat)) : Prop where
  kept : Escrowed cfg t
  books : books t = Transition.run (move (reached cfg) (fee cfg)) (books w) ms
  lawful : Transition.Along (move (reached cfg) (fee cfg)) (Lawful (Known cfg) (fee cfg)) (AuctionHouseMgr.books w) ms

theorem Booked.nothing {t : AuctionHouseMgr} (h : Escrowed cfg t) (hb : AuctionHouseMgr.books t = AuctionHouseMgr.books w) :
    Booked cfg w t [] := ⟨h, hb, trivial⟩

/-- Auctions of which none is new, some may be gone, and all amounts are as before. -/
theorem Escrowed.shrink (he : Escrowed cfg w) {t : AuctionHouseMgr} (hsub : t.auctions.Sublist w.auctions)
    (hn : t.nextAuctionId = w.nextAuctionId) (ho : t.online = w.online)
    (hp : ∀ p, t.post.money p ≤ maxMoneyAmount) : Escrowed cfg t :=
  ⟨he.ids.sublist (hsub.map _), fun e h => by rw [hn]; exact he.fresh e (hsub.subset h),
    fun p h => he.known p (ho ▸ h), hp, fun e h => he.bid e (hsub.subset h),
    fun e h => he.deposit e (hsub.subset h), fun e h => he.unbid e (hsub.subset h),
    fun e h => he.belowBuyout e (hsub.subset h)⟩

theorem purse_pay (he : Escrowed cfg w) (pl amount : Nat) (h : amount ≤ w.post.money pl) (p : Nat) :
    (w.pay pl amount).post.money p ≤ maxMoneyAmount := by
  unfold pay
  by_cases hp : p = pl
  · subst hp
    simp only [Function.update_self]
    rw [modifyMoney_pay _ _ h (he.purse p)]
    exact (Nat.sub_le _ _).trans (he.purse p)
  · simp only [Function.update_of_ne hp]
    exact he.purse p

/-- Only mailboxes and item texts differ. -/
structure OnlyMails (w t : AuctionHouseMgr) : Prop where
  auctions : t.auctions = w.auctions
  next : t.nextAuctionId = w.nextAuctionId
  online : t.online = w.online
  money : t.post.money = w.post.money

theorem OnlyMails.refl (w : AuctionHouseMgr) : OnlyMails w w := ⟨rfl, rfl, rfl, rfl⟩

theorem OnlyMails.trans {t u : AuctionHouseMgr} (h : OnlyMails w t) (k : OnlyMails t u) : OnlyMails w u :=
  ⟨k.auctions.trans h.auctions, k.next.trans h.next, k.online.trans h.online, k.money.trans h.money⟩

theorem Escrowed.mails {t : AuctionHouseMgr} (he : Escrowed cfg w) (h : OnlyMails w t) : Escrowed cfg t :=
  he.shrink (by rw [h.auctions]) h.next h.online fun p => by rw [h.money]; exact he.purse p

theorem sendMail_onlyMails (rc : Nat) (a : AuctionEntry) (draft : MailDraft) (deliverDelay : Nat) :
    OnlyMails w (w.sendMail cfg rc a draft deliverDelay) := by
  refine ⟨rfl, rfl, rfl, ?_⟩
  unfold sendMail PostOffice.sendMailTo
  split
  · split <;> rfl
  · rfl

theorem createItemText_onlyMails : OnlyMails w w.createItemText := ⟨rfl, rfl, rfl, rfl⟩

theorem mailBidBack_onlyMails (a : AuctionEntry) : OnlyMails w (w.mailBidBack cfg a) := by
  unfold mailBidBack
  split
  · exact sendMail_onlyMails ..
  · exact OnlyMails.refl w

theorem sendAuctionSalePendingMail_onlyMails (a : AuctionEntry) :
    OnlyMails w (w.sendAuctionSalePendingMail cfg a) := by
  unfold sendAuctionSalePendingMail
  split
  · exact createItemText_onlyMails.trans (sendMail_onlyMails ..)
  · exact OnlyMails.refl w

theorem sendAuctionSuccessfulMail_onlyMails (a : AuctionEntry) :
    OnlyMails w (w.sendAuctionSuccessfulMail cfg a) := by
  unfold sendAuctionSuccessfulMail
  split
  · exact createItemText_onlyMails.trans (sendMail_onlyMails ..)
  · exact OnlyMails.refl w

theorem sendAuctionExpiredMail_onlyMails (a : AuctionEntry) :
    OnlyMails w (w.sendAuctionExpiredMail cfg a) := by
  unfold sendAuctionExpiredMail
  split
  · exact OnlyMails.refl w
  · split
    · exact sendMail_onlyMails ..
    · exact OnlyMails.refl w

theorem sendAuctionWonMail_onlyMails (a : AuctionEntry) : OnlyMails w (w.sendAuctionWonMail cfg a) := by
  unfold sendAuctionWonMail
  simp only
  generalize (if cfg.gmLogTrade then cfg.accountOf a.bidder else 0) = bidderAccId
  split
  · exact OnlyMails.refl w
  · split
    · exact createItemText_onlyMails.trans (sendMail_onlyMails ..)
    · exact OnlyMails.refl w

/-! #### Selling -/

theorem putUp_booked (he : Escrowed cfg w) (pl it : Nat) (npc : Auctioneer) (houseEntry : AuctionHouseEntry)
    (bid buyout etime deposit : Nat) (hon : w.online pl = true) (hd : deposit ≤ w.post.money pl) :
    ∃ l, l.seller = pl ∧
      Booked cfg w (w.putUp cfg pl it npc houseEntry bid buyout etime deposit) [.opened l] := by
  have hfresh : w.nextAuctionId ∉ w.auctions.map fun e => e.2.id := by
    intro hmem
    obtain ⟨e, hemem, heq⟩ := List.mem_map.1 hmem
    exact absurd heq (Nat.ne_of_lt (he.fresh e hemem))
  have hpurse := he.purse pl
  refine ⟨toLot (w.newAuction cfg pl it npc houseEntry bid buyout etime deposit), rfl, ?_, ?_, ?_, trivial⟩
  · refine ⟨List.nodup_cons.2 ⟨hfresh, he.ids⟩, fun e h => ?_, he.known, purse_pay he pl deposit hd,
      fun e h => ?_, fun e h => ?_, fun e h => ?_, fun e h => ?_⟩ <;> rcases List.mem_cons.1 h with rfl | h
    · exact Nat.lt_succ_self _
    · exact Nat.lt_succ_of_lt (he.fresh e h)
    · exact Nat.zero_le _
    · exact he.bid e h
    · exact hd.trans hpurse
    · exact he.deposit e h
    · exact fun _ => rfl
    · exact he.unbid e h
    · exact fun hb => Nat.pos_of_ne_zero hb
    · exact he.belowBuyout e h
  · have hb := books_pay pl deposit hd hpurse
    simp only [Transition.run, move]
    unfold books putUp addAuction addAItem at *
    simp only [List.map_cons, Books.mk.injEq, Books.pay] at hb ⊢
    exact ⟨hb.1, rfl, rfl⟩
  · refine ⟨he.known pl hon, rfl, rfl, hd, fun k hk hkey => hfresh ?_⟩
    obtain ⟨e, hemem, rfl⟩ := List.mem_map.1 hk
    exact List.mem_map.2 ⟨e, hemem, hkey⟩

/-! #### Bids -/

theorem Escrowed.setBid (he : Escrowed cfg w) (house : AuctionHouse) (a : AuctionEntry) (pl price : Nat)
    (hpl : pl ≠ 0) (hprice : price ≤ maxMoneyAmount) (ha : (house, a) ∈ w.auctions)
    (hbuy : a.buyout ≠ 0 → price < a.buyout) : Escrowed cfg (w.setBid house a.id pl price) := by
  have hids : (w.setBid house a.id pl price).auctions.map (fun e => e.2.id) =
      w.auctions.map fun e => e.2.id := by
    have := congrArg (List.map fun l => l.2.1) (setBid_frame (w := w) house a.id pl price).lots
    rwa [List.map_map, List.map_map] at this
  have hmem : ∀ e ∈ (w.setBid house a.id pl price).auctions,
      e ∈ w.auctions ∨ e = (house, { a with bidder := pl, bid := price }) := by
    intro e hemem
    obtain ⟨f, hf, rfl⟩ := List.mem_map.1 hemem
    split
    · next hid =>
      obtain rfl := eq_of_id he.ids hf ha hid.2
      exact Or.inr rfl
    · exact Or.inl hf
  refine ⟨hids ▸ he.ids, fun e h => ?_, he.known, he.purse, fun e h => ?_, fun e h => ?_, fun e h => ?_,
    fun e h => ?_⟩ <;> rcases hmem e h with h | rfl
  · exact he.fresh e h
  · exact he.fresh (house, a) ha
  · exact he.bid e h
  · exact hprice
  · exact he.deposit e h
  · exact he.deposit (house, a) ha
  · exact he.unbid e h
  · exact fun h0 => absurd h0 hpl
  · exact he.belowBuyout e h
  · exact hbuy

theorem books_bid (he : Escrowed cfg w) (house : AuctionHouse) (a : AuctionEntry)
    (ha : (house, a) ∈ w.auctions) (pl price : Nat) (hpl : pl ≠ 0) (hlt : a.bid < price)
    (hpay : price ≤ w.post.money pl) (v : AuctionHouseMgr)
    (hv : v = if a.bidder = pl then w.pay pl (sub32 price a.bid)
      else if a.bidder = 0 then w.pay pl price else (w.mailBidBack cfg a).pay pl price) :
    OnlyMails (w.pay pl (price - (toLot a).own pl)) v ∧
      books (v.setBid house a.id pl price) = move (reached cfg) (fee cfg) (books w) (.bid (toLot a) pl price) := by
  have hpurse := he.purse pl
  have hown : (toLot a).own pl = if a.bidder = pl then a.bid else 0 := by
    unfold Lot.own toLot
    by_cases h0 : a.bidder = 0
    · simp [h0, Ne.symm hpl]
    · simp [h0]
  have hbid : (toLot a).bidder = some pl ↔ a.bidder = pl := by
    unfold toLot
    by_cases h0 : a.bidder = 0
    · simp [h0, Ne.symm hpl]
    · simp [h0]
  have hset : ∀ u : AuctionHouseMgr, u.auctions = w.auctions →
      books (u.setBid house a.id pl price) = (books u).setBid (toLot a).key pl price := fun u hu =>
    books_setBid (by rw [hu]; exact he.ids) house a (by rw [hu]; exact ha) pl price hpl
  simp only [move]
  rw [hown]
  by_cases hsame : a.bidder = pl
  · -- he raises his own bid
    rw [if_pos hsame] at hv
    rw [sub32_eq _ _ (Nat.le_of_lt hlt)] at hv
    rw [if_pos hsame, if_pos (hbid.2 hsame)]
    subst hv
    refine ⟨OnlyMails.refl _, ?_⟩
    rw [hset _ (by rfl), books_pay pl _ (by omega) hpurse]
  · rw [if_neg hsame] at hv
    rw [if_neg hsame, if_neg fun h => hsame (hbid.1 h), Nat.sub_zero]
    by_cases h0 : a.bidder = 0
    · rw [if_pos h0] at hv
      subst hv
      have hno : (books w).refund (reached cfg) (toLot a) = books w := by simp [Books.refund, toLot, h0]
      refine ⟨OnlyMails.refl _, ?_⟩
      rw [hset _ (by rfl), books_pay pl price hpay hpurse, hno]
    · -- the last bidder gets his bid back
      rw [if_neg h0] at hv
      subst hv
      have hm := @mailBidBack_onlyMails cfg w a
      refine ⟨⟨hm.auctions, hm.next, hm.online, ?_⟩, ?_⟩
      · unfold pay
        rw [hm.money]
      · rw [hset ((w.mailBidBack cfg a).pay pl price) hm.auctions, books_pay pl price (by rw [hm.money]; exact hpay)
          (by rw [hm.money]; exact hpurse), books_mailBidBack he.known a h0]

theorem bid_lawful (he : Escrowed cfg w) (house : AuctionHouse) (a : AuctionEntry)
    (ha : (house, a) ∈ w.auctions) (pl price : Nat) (hon : w.online pl = true) (hlt : a.bid < price)
    (hpay : price ≤ w.post.money pl) :
    Lawful (Known cfg) (fee cfg) (books w) (.bid (toLot a) pl price) :=
  ⟨he.known pl hon, mem_books house a ha, hlt, (Nat.sub_le _ _).trans hpay⟩

theorem ne_zero_of_online (he : Escrowed cfg w) (pl : Nat) (hon : w.online pl = true) : pl ≠ 0 := by
  rintro rfl
  exact he.known 0 hon cfg.nobody

/-- **A bid** is one move. -/
theorem bidOn_booked (he : Escrowed cfg w) (house : AuctionHouse) (a : AuctionEntry)
    (ha : (house, a) ∈ w.auctions) (pl price : Nat) (hon : w.online pl = true) (hlt : a.bid < price)
    (hpay : price ≤ w.post.money pl) (hbuy : a.buyout ≠ 0 → price < a.buyout) :
    Booked cfg w (w.bidOn cfg pl house a price) [.bid (toLot a) pl price] := by
  have hpl := ne_zero_of_online he pl hon
  obtain ⟨hm, hb⟩ := books_bid he house a ha pl price hpl hlt hpay _ rfl
  have hsame : w.bidOn cfg pl house a price = (if a.bidder = pl then w.pay pl (sub32 price a.bid)
      else if a.bidder = 0 then w.pay pl price else (w.mailBidBack cfg a).pay pl price).setBid house a.id pl
        price := by
    unfold bidOn sendAuctionOutbiddedMail
    by_cases h0 : a.bidder = 0
    · simp [h0, Ne.symm hpl]
    · simp [h0, Nat.pos_of_ne_zero h0]
  rw [hsame]
  generalize (if a.bidder = pl then w.pay pl (sub32 price a.bid)
      else if a.bidder = 0 then w.pay pl price else (w.mailBidBack cfg a).pay pl price) = v at hm hb ⊢
  have hpaid : Escrowed cfg (w.pay pl (price - (toLot a).own pl)) :=
    he.shrink (List.Sublist.refl _) rfl rfl (purse_pay he pl _ ((Nat.sub_le _ _).trans hpay))
  exact ⟨(hpaid.mails hm).setBid house a pl price hpl (hpay.trans (he.purse pl)) (by rw [hm.auctions]; exact ha)
    hbuy, hb, bid_lawful he house a ha pl price hon hlt hpay, trivial⟩

/-- Clearing an auction after its bid was set leaves what clearing it before does. -/
theorem clearAuction_setBid (house : AuctionHouse) (a b : AuctionEntry) (pl price : Nat) (hb : b.id = a.id) :
    ((w.setBid house a.id pl price).clearAuction house b).auctions = (w.clearAuction house a).auctions := by
  unfold clearAuction removeAuction removeAItem setBid
  simp only [List.filter_map, hb]
  refine (List.map_congr_left fun e he => ?_).trans ((List.map_id _).trans ?_)
  · have hkeep := (List.mem_filter.1 he).2
    simp only [Function.comp] at hkeep
    by_cases hid : e.1 = house ∧ e.2.id = a.id
    · rw [if_pos hid] at hkeep
      simp [hid.1, hid.2] at hkeep
    · rw [if_neg hid]; rfl
  · refine List.filter_congr fun e _ => ?_
    simp only [Function.comp]
    split <;> rfl

theorem mailBidBack_pay (a : AuctionEntry) (pl amount : Nat) :
    (w.pay pl amount).mailBidBack cfg a = (w.mailBidBack cfg a).pay pl amount := by
  unfold mailBidBack receiverExists pay sendMail PostOffice.sendMailTo
  simp only
  split
  · split
    · split <;> rfl
    · rfl
  · rfl

/-- **A buyout** is a bid at the buyout price and a sale. -/
theorem buyOut_booked (he : Escrowed cfg w) (house : AuctionHouse) (a : AuctionEntry)
    (ha : (house, a) ∈ w.auctions) (pl : Nat) (hon : w.online pl = true) (hlt : a.bid < a.buyout)
    (hpay : a.buyout ≤ w.post.money pl) (hcut : CutFits cfg { a with bid := a.buyout }) :
    Booked cfg w (w.buyOut cfg pl house a)
      [.bid (toLot a) pl a.buyout, .sold { toLot a with bidder := some pl, bid := a.buyout }] := by
  have hpl := ne_zero_of_online he pl hon
  obtain ⟨hm, hb⟩ := books_bid he house a ha pl a.buyout hpl hlt hpay _ rfl
  have hpaid : Escrowed cfg (w.pay pl (a.buyout - (toLot a).own pl)) :=
    he.shrink (List.Sublist.refl _) rfl rfl (purse_pay he pl _ ((Nat.sub_le _ _).trans hpay))
  have hsame : (if pl = a.bidder then w.pay pl (sub32 a.buyout a.bid)
      else
        let v := w.pay pl a.buyout
        if a.bidder ≠ 0 then v.sendAuctionOutbiddedMail cfg a else v) =
      if a.bidder = pl then w.pay pl (sub32 a.buyout a.bid)
      else if a.bidder = 0 then w.pay pl a.buyout else (w.mailBidBack cfg a).pay pl a.buyout := by
    unfold sendAuctionOutbiddedMail
    by_cases hs : a.bidder = pl
    · simp [hs]
    · by_cases h0 : a.bidder = 0
      · simp [h0, hpl, Ne.symm hpl]
      · simp [h0, hs, Ne.symm hs, mailBidBack_pay]
  rw [buyOut_eq]
  unfold boughtOut
  rw [hsame]
  generalize (if a.bidder = pl then w.pay pl (sub32 a.buyout a.bid)
      else if a.bidder = 0 then w.pay pl a.buyout else (w.mailBidBack cfg a).pay pl a.buyout) = v at hm hb
  simp only
  generalize hb' : ({ a with bidder := pl, bid := a.buyout } : AuctionEntry) = b
  have hbid : b.id = a.id := by rw [← hb']
  have hlot : toLot b = { toLot a with bidder := some pl, bid := a.buyout } := by
    rw [← hb']; simp [toLot, hpl]
  have hv : v.auctions = w.auctions := hm.auctions
  have hset : (v.setBid house a.id pl a.buyout).online = w.online := hm.online
  have hknown : ∀ p, (v.setBid house a.id pl a.buyout).online p = true → cfg.accountOf p ≠ 0 := by
    rw [hset]; exact he.known
  -- the mails to the seller and the winner
  have hbuy := hpay.trans (he.purse pl)
  have hm1 := @sendAuctionSalePendingMail_onlyMails cfg (v.setBid house a.id pl a.buyout) b
  have hm2 := @sendAuctionSuccessfulMail_onlyMails cfg
    ((v.setBid house a.id pl a.buyout).sendAuctionSalePendingMail cfg b) b
  have hm3 := @sendAuctionWonMail_onlyMails cfg
    (((v.setBid house a.id pl a.buyout).sendAuctionSalePendingMail cfg b).sendAuctionSuccessfulMail cfg b) b
  have hk1 : ∀ p, ((v.setBid house a.id pl a.buyout).sendAuctionSalePendingMail cfg b).online p = true →
      cfg.accountOf p ≠ 0 := by rw [hm1.online]; exact hknown
  have hk2 : ∀ p, (((v.setBid house a.id pl a.buyout).sendAuctionSalePendingMail cfg
      b).sendAuctionSuccessfulMail cfg b).online p = true → cfg.accountOf p ≠ 0 := by
    rw [hm2.online]; exact hk1
  have hbooks := books_sendAuctionWonMail hk2 b
  rw [books_sendAuctionSuccessfulMail hk1 b (by rw [← hb']; exact hbuy)
    (by rw [← hb']; exact he.deposit (house, a) ha) (by rw [← hb']; exact hcut),
    books_sendAuctionSalePendingMail hknown b, hb] at hbooks
  have hall := hm1.trans (hm2.trans hm3)
  generalize ((v.setBid house a.id pl a.buyout).sendAuctionSalePendingMail cfg b).sendAuctionSuccessfulMail cfg
    b = u at hbooks hall
  have hmem : (house, b) ∈ (u.sendAuctionWonMail cfg b).auctions := by
    rw [hall.auctions]
    exact List.mem_map.2 ⟨(house, a), hv ▸ ha, by simp [← hb']⟩
  have hids : ((u.sendAuctionWonMail cfg b).auctions.map fun e => e.2.id).Nodup := by
    have h := congrArg (List.map fun l => l.2.1) (setBid_frame (w := v) house a.id pl a.buyout).lots
    rw [List.map_map, List.map_map, hv] at h
    rw [hall.auctions]
    exact h ▸ he.ids
  refine ⟨hpaid.shrink ?_ ?_ ?_ fun p => ?_, ?_, bid_lawful he house a ha pl _ hon hlt hpay, ⟨?_, ?_, ?_⟩,
    trivial⟩
  · have hclear : ((u.sendAuctionWonMail cfg b).clearAuction house b).auctions =
        ((v.setBid house a.id pl a.buyout).clearAuction house b).auctions := by
      unfold clearAuction removeAuction removeAItem
      rw [hall.auctions]
    rw [hclear, clearAuction_setBid house a b pl a.buyout hbid, ← hm.auctions]
    exact List.filter_sublist
  · exact hall.next.trans hm.next
  · exact hall.online.trans hm.online
  · have hmoney : ((u.sendAuctionWonMail cfg b).clearAuction house b).post.money =
        (w.pay pl (a.buyout - (toLot a).own pl)).post.money := hall.money.trans hm.money
    rw [hmoney]; exact hpaid.purse p
  · rw [books_clearAuction hids house b hmem, hbooks, Transition.run, Transition.run, Transition.run, ← hlot]
    rfl
  · -- the lot after the bid
    rw [← hb, ← hlot]
    exact mem_books house b (List.mem_map.2 ⟨(house, a), hv ▸ ha, by simp [← hb']⟩)
  · simp
  · exact hcut

/-! #### Cancelling -/

theorem giveBack_booked (he : Escrowed cfg w) (house : AuctionHouse) (a : AuctionEntry)
    (ha : (house, a) ∈ w.auctions) (pl : Nat) (hon : w.online pl = true) (hown : a.owner = pl)
    (hcut : a.bidder ≠ 0 → a.getAuctionCut cfg ≤ w.post.money pl) (v : AuctionHouseMgr)
    (hv : v = if a.bidder > 0 then (w.mailBidBack cfg a).pay pl (a.getAuctionCut cfg) else w) :
    Booked cfg w (v.giveBack cfg pl house a) [.cancelled (toLot a)] := by
  have hbid : (toLot a).bidder = none ↔ a.bidder = 0 := by
    unfold toLot; by_cases h0 : a.bidder = 0 <;> simp [h0]
  -- the bidder gets his bid back and the owner pays the cut
  obtain ⟨hm, hb⟩ : OnlyMails (w.pay pl (if a.bidder = 0 then 0 else a.getAuctionCut cfg)) v ∧
      books v = ((books w).refund (reached cfg) (toLot a)).pay pl
        (if a.bidder = 0 then 0 else a.getAuctionCut cfg) := by
    have hmails := @mailBidBack_onlyMails cfg w a
    by_cases h0 : a.bidder = 0
    · rw [if_neg (by omega)] at hv
      subst hv
      have hpay := books_pay (w := v) pl 0 (Nat.zero_le _) (he.purse pl)
      have hzero : v.pay pl 0 = v := by
        unfold pay
        rw [modifyMoney_pay _ _ (Nat.zero_le _) (he.purse pl)]
        simp
      rw [hzero] at hpay
      simp only [h0, if_true]
      refine ⟨by rw [hzero]; exact OnlyMails.refl v, ?_⟩
      have hno : (books v).refund (reached cfg) (toLot a) = books v := by simp [Books.refund, toLot, h0]
      rw [hno]; exact hpay
    · rw [if_pos (by omega)] at hv
      subst hv
      simp only [h0, if_false]
      refine ⟨⟨hmails.auctions, hmails.next, hmails.online, ?_⟩, ?_⟩
      · unfold pay; rw [hmails.money]
      · rw [books_pay pl _ (by rw [hmails.money]; exact hcut h0) (by rw [hmails.money]; exact he.purse pl),
          books_mailBidBack he.known a h0]
  have hmail := @sendMail_onlyMails cfg v pl a { items := [a.itemGuidlow] } 0
  have hmem : (house, a) ∈ (v.sendMail cfg pl a { items := [a.itemGuidlow] } 0).auctions := by
    rw [hmail.auctions, hm.auctions]; exact ha
  have hle : (if a.bidder = 0 then 0 else a.getAuctionCut cfg) ≤ w.post.money pl := by
    split
    · omega
    · next h0 => exact hcut h0
  have hpaid : Escrowed cfg (w.pay pl (if a.bidder = 0 then 0 else a.getAuctionCut cfg)) :=
    he.shrink (List.Sublist.refl _) rfl rfl (purse_pay he pl _ hle)
  have hsent := (hpaid.mails hm).mails hmail
  refine ⟨hsent.shrink List.filter_sublist rfl rfl hsent.purse, ?_, ⟨?_, mem_books house a ha, ?_⟩, trivial⟩
  · unfold giveBack
    rw [books_clearAuction hsent.ids house a hmem, books_sendMail pl a _ 0 (he.known pl hon), send_zero, hb]
    simp only [Transition.run, move]
    rw [show (if (toLot a).bidder = none then 0 else fee cfg (toLot a)) =
      if a.bidder = 0 then 0 else a.getAuctionCut cfg by simp only [hbid, fee_toLot]]
    subst hown
    rfl
  · change Known cfg a.owner
    rw [hown]; exact he.known pl hon
  · intro hne
    change a.getAuctionCut cfg ≤ w.post.money a.owner
    rw [hown]
    exact hcut fun h0 => hne (hbid.2 h0)

/-! #### Expiry -/

theorem endAuction_booked (he : Escrowed cfg w) (house : AuctionHouse) (a : AuctionEntry)
    (ha : (house, a) ∈ w.auctions) (hcut : a.bidder ≠ 0 → CutFits cfg a) :
    Booked cfg w (w.endAuction cfg house a) [if a.bidder = 0 then .expired (toLot a) else .sold (toLot a)] := by
  unfold endAuction
  by_cases h0 : a.bidder = 0
  · simp only [h0, if_true]
    have hm := @sendAuctionExpiredMail_onlyMails cfg w a
    have hsent := he.mails hm
    refine ⟨hsent.shrink List.filter_sublist rfl rfl hsent.purse, ?_, ⟨mem_books house a ha, ?_⟩, trivial⟩
    · rw [books_clearAuction hsent.ids house a (by rw [hm.auctions]; exact ha),
        books_sendAuctionExpiredMail he.known a]
      rfl
    · simp [toLot, h0]
  · simp only [h0, if_false]
    have hm1 := @sendAuctionSuccessfulMail_onlyMails cfg w a
    have hm := hm1.trans (@sendAuctionWonMail_onlyMails cfg (w.sendAuctionSuccessfulMail cfg a) a)
    have hsent := he.mails hm
    refine ⟨hsent.shrink List.filter_sublist rfl rfl hsent.purse, ?_, ⟨mem_books house a ha, ?_, hcut h0⟩,
      trivial⟩
    · rw [books_clearAuction hsent.ids house a (by rw [hm.auctions]; exact ha),
        books_sendAuctionWonMail (by rw [hm1.online]; exact he.known) a,
        books_sendAuctionSuccessfulMail he.known a (he.bid _ ha) (he.deposit _ ha) (hcut h0)]
      rfl
    · simp [toLot, h0]

theorem endExpired_booked (house : AuctionHouse) (ids : List Nat) (he : Escrowed cfg w)
    (hcut : ∀ e ∈ w.auctions, e.1 = house → e.2.id ∈ ids → e.2.bidder ≠ 0 → CutFits cfg e.2) :
    ∃ ms, (∀ m ∈ ms, ∃ l, m = .sold l ∨ m = .expired l) ∧ Booked cfg w (endExpired cfg house ids w) ms := by
  induction ids generalizing w with
  | nil => exact ⟨[], by simp, Booked.nothing he rfl⟩
  | cons id ids ih =>
    rw [endExpired]
    split
    · exact ih he fun e hmem hh hin => hcut e hmem hh (List.mem_cons_of_mem _ hin)
    · next a hget =>
      obtain ⟨ha, hid⟩ := getAuction_eq_some house id a hget
      have hone := endAuction_booked he house a ha (hcut _ ha rfl (by simp [hid]))
      obtain ⟨ms, hkind, hms⟩ := ih hone.kept fun e hmem hh hin =>
        hcut e ((mem_endAuction house a e).1 hmem).1 hh (List.mem_cons_of_mem _ hin)
      refine ⟨(if a.bidder = 0 then .expired (toLot a) else .sold (toLot a)) :: ms, fun m hm => ?_, hms.kept,
        ?_, hone.lawful.1, ?_⟩
      · rcases List.mem_cons.1 hm with rfl | hm
        · exact ⟨toLot a, by split <;> simp⟩
        · exact hkind m hm
      · rw [hms.books, hone.books]; rfl
      · have h := hms.lawful
        rw [hone.books] at h
        exact h

/-! #### Steps -/

theorem handleAuctionSellItem_booked (he : Escrowed cfg w) (pl : Nat) (npc : Option Auctioneer)
    (item bid buyout etime : Nat) (allowed : Bool) (hon : w.online pl = true) :
    ∃ ms, (ms = [] ∨ ∃ l, ms = [.opened l] ∧ l.seller = pl) ∧
      Booked cfg w (w.handleAuctionSellItem cfg pl npc item bid buyout etime allowed) ms := by
  have hstay : ∃ ms, (ms = [] ∨ ∃ l : Lot Nat, ms = [.opened l] ∧ l.seller = pl) ∧ Booked cfg w w ms :=
    ⟨[], Or.inl rfl, Booked.nothing he rfl⟩
  unfold handleAuctionSellItem
  simp only
  split
  · exact hstay
  split
  · exact hstay
  next n =>
  split
  · exact hstay
  next houseEntry _ =>
  split
  · exact hstay
  split
  · exact hstay
  split
  · exact hstay
  next it _ =>
  split
  · exact hstay
  split
  · exact hstay
  next hpay =>
  obtain ⟨l, hl, hb⟩ := putUp_booked he pl it n houseEntry bid buyout (u32 (etime * minute))
    (cfg.getAuctionDeposit houseEntry (u32 (etime * minute)) (w.post.inv.items it)) hon (Nat.not_lt.1 hpay)
  exact ⟨_, Or.inr ⟨l, rfl, hl⟩, hb⟩

theorem handleAuctionPlaceBid_booked (he : Escrowed cfg w) (pl : Nat) (npc : Option Auctioneer)
    (auctionId price : Nat) (hon : w.online pl = true)
    (hcut : ∀ n a, npc = some n → w.getAuction (cfg.getAuctionsMap n.faction) auctionId = some a →
      a.buyout ≠ 0 → a.buyout ≤ price → CutFits cfg { a with bid := a.buyout }) :
    ∃ ms, (ms = [] ∨ (∃ l, ms = [.bid l pl price]) ∨
      ∃ l buyout, buyout ≤ price ∧ ms = [.bid l pl buyout, .sold { l with bidder := some pl, bid := buyout }]) ∧
      Booked cfg w (w.handleAuctionPlaceBid cfg pl npc auctionId price) ms := by
  have hstay : ∃ ms, (ms = [] ∨ (∃ l, ms = [.bid l pl price]) ∨ ∃ (l : Lot Nat) (buyout : Nat),
      buyout ≤ price ∧ ms = [.bid l pl buyout, .sold { l with bidder := some pl, bid := buyout }]) ∧
      Booked cfg w w ms := ⟨[], Or.inl rfl, Booked.nothing he rfl⟩
  unfold handleAuctionPlaceBid
  simp only
  split
  · exact hstay
  split
  · exact hstay
  next n =>
  split
  · exact hstay
  next a hget =>
  have ha := (getAuction_eq_some _ _ a hget).1
  have hbelow : a.buyout ≠ 0 → a.bid < a.buyout := he.belowBuyout _ ha
  split
  · exact hstay
  split
  · exact hstay
  split
  · exact hstay
  split
  · exact hstay
  split
  · exact hstay
  split
  · next hbuy =>
    exact ⟨_, Or.inr (Or.inl ⟨toLot a, rfl⟩),
      bidOn_booked he _ a ha pl price hon (by omega) (by omega) (by omega)⟩
  · next hbuy =>
    exact ⟨_, Or.inr (Or.inr ⟨toLot a, a.buyout, by omega, rfl⟩),
      buyOut_booked he _ a ha pl hon (hbelow (by omega)) (by omega)
        (hcut n a rfl hget (by omega) (by omega))⟩

theorem handleAuctionRemoveItem_booked (he : Escrowed cfg w) (pl : Nat) (npc : Option Auctioneer)
    (auctionId : Nat) (hon : w.online pl = true) :
    ∃ ms, (ms = [] ∨ ∃ l, ms = [.cancelled l] ∧ l.seller = pl) ∧
      Booked cfg w (w.handleAuctionRemoveItem cfg pl npc auctionId) ms := by
  have hstay : ∃ ms, (ms = [] ∨ ∃ l : Lot Nat, ms = [.cancelled l] ∧ l.seller = pl) ∧ Booked cfg w w ms :=
    ⟨[], Or.inl rfl, Booked.nothing he rfl⟩
  unfold handleAuctionRemoveItem
  simp only
  split
  · exact hstay
  next n =>
  split
  · exact hstay
  next a hget =>
  have ha := (getAuction_eq_some _ _ a hget).1
  split
  · exact hstay
  next hown =>
  have hown : a.owner = pl := by simpa using hown
  split
  · exact hstay
  split
  · next hb =>
    split
    · exact hstay
    · next hpay =>
      exact ⟨_, Or.inr ⟨toLot a, rfl, hown⟩, giveBack_booked he _ a ha pl hon hown
        (fun _ => Nat.not_lt.1 hpay) _ (by rw [if_pos hb]; rfl)⟩
  · next hb =>
    exact ⟨_, Or.inr ⟨toLot a, rfl, hown⟩, giveBack_booked he _ a ha pl hon hown
      (fun h0 => absurd (Nat.pos_of_ne_zero h0) hb) w (by rw [if_neg hb])⟩

/-- **One request** in the books. -/
theorem step_books (he : Escrowed cfg w) (r : AuctionRequest) (hcut : CutsFit cfg w r) :
    ∃ ms, Comes r ms ∧ Booked cfg w (w.step cfg r) ms := by
  cases r with
  | sellItem pl npc item bid buyout etime allowed =>
    simp only [step]
    split
    · next hon => exact handleAuctionSellItem_booked he pl npc item _ _ _ allowed hon
    · exact ⟨[], Or.inl rfl, Booked.nothing he rfl⟩
  | placeBid pl npc auctionId price =>
    simp only [step]
    split
    · next hon => exact handleAuctionPlaceBid_booked he pl npc _ _ hon hcut
    · exact ⟨[], Or.inl rfl, Booked.nothing he rfl⟩
  | removeItem pl npc auctionId =>
    simp only [step]
    split
    · next hon => exact handleAuctionRemoveItem_booked he pl npc _ hon
    · exact ⟨[], Or.inl rfl, Booked.nothing he rfl⟩
  | update house result =>
    simp only [step, update]
    split
    · exact ⟨[], fun m hm => absurd hm (by simp), Booked.nothing he rfl⟩
    · refine endExpired_booked house result he fun e hmem hh hin hb => ?_
      have hget : w.getAuction house e.2.id = some e.2 := by
        unfold getAuction
        cases hf : w.auctions.find? fun f => f.1 == house && f.2.id == e.2.id with
        | none => exact absurd (List.find?_eq_none.1 hf e hmem) (by simp [hh])
        | some f =>
          have hp := List.find?_some hf
          simp only [Bool.and_eq_true, beq_iff_eq] at hp
          rw [eq_of_id he.ids (List.mem_of_find?_eq_some hf) hmem hp.2]
          rfl
      exact hcut e.2.id hin e.2 hget hb
  | login pl =>
    simp only [step]
    split
    · next hacc =>
      refine ⟨[], rfl, Booked.nothing ⟨he.ids, he.fresh, fun p hp => ?_, he.purse, he.bid, he.deposit, he.unbid,
        he.belowBuyout⟩ rfl⟩
      by_cases hpl : p = pl
      · subst hpl; exact hacc
      · simp only [Function.update_of_ne hpl] at hp
        exact he.known p hp
    · exact ⟨[], rfl, Booked.nothing he rfl⟩
  | logout pl =>
    refine ⟨[], rfl, Booked.nothing ⟨he.ids, he.fresh, fun p hp => ?_, he.purse, he.bid, he.deposit, he.unbid,
      he.belowBuyout⟩ rfl⟩
    by_cases hpl : p = pl
    · subst hpl; simp [step] at hp
    · simp only [step, Function.update_of_ne hpl] at hp
      exact he.known p hp
  | tick diff =>
    exact ⟨[], rfl, Booked.nothing ⟨he.ids, he.fresh, he.known, he.purse, he.bid, he.deposit, he.unbid,
      he.belowBuyout⟩ rfl⟩

end

/-! ## Top theorems -/

/-- **Gold is conserved** but for cuts, forfeited deposits and gold mailed to nobody.  Along
every run whose cuts fit, each request comes to lawful moves of the escrow, and for the
characters `S`, among them all that exist, the gold in purses, mails and auctions falls by
exactly what the moves charge. -/
theorem gold_conserved (cfg : AuctionConfig) (w : AuctionHouseMgr) (he : Escrowed cfg w)
    (rs : List AuctionRequest) (hg : Transition.Along (step cfg) (CutsFit cfg) w rs) :
    Transition.Along (step cfg) (GoldLawful cfg) w rs ∧
      ∃ ms, books (Transition.run (step cfg) w rs) = Transition.run (move (reached cfg) (fee cfg)) (books w) ms ∧
        Transition.Along (move (reached cfg) (fee cfg)) (Lawful (Known cfg) (fee cfg)) (books w) ms ∧
        ∀ S : Finset Nat, (∀ p, cfg.accountOf p ≠ 0 → p ∈ S) →
          worth S (books (Transition.run (step cfg) w rs)) + (ms.map (charge (reached cfg) (fee cfg))).sum =
            worth S (books w) := by
  have hstep : ∀ v r, Escrowed cfg v → CutsFit cfg v r → Escrowed cfg (v.step cfg r) ∧
      ∃ ms, books (v.step cfg r) = Transition.run (move (reached cfg) (fee cfg)) (books v) ms ∧
        Transition.Along (move (reached cfg) (fee cfg)) (Lawful (Known cfg) (fee cfg)) (books v) ms := by
    intro v r hv hr
    obtain ⟨ms, -, hms⟩ := step_books hv r hr
    exact ⟨hms.kept, ms, hms.books, hms.lawful⟩
  refine ⟨Transition.along_of_invariant (I := Escrowed cfg) (fun v r hv hr => (hstep v r hv hr).1)
    (fun v r hv hr => ?_) he hg, ?_⟩
  · obtain ⟨ms, hc, hms⟩ := step_books hv r hr
    exact ⟨ms, hc, hms.books, hms.lawful⟩
  · obtain ⟨ms, hb, hl⟩ := Transition.run_refines books hstep he hg
    refine ⟨ms, hb, hl, fun S hS => ?_⟩
    rw [hb]
    refine worth_run (fun p hp => hS p ?_) hS he.wf ms hl
    simp only [reached, Bool.and_eq_true, bne_iff_ne] at hp
    exact hp.1

/-! ### A bid of a deleted character, and a cut larger than the bid -/

/-- The bid stands in the name of a character who does not exist any more. -/
def sampleDeleted : AuctionHouseMgr where
  post := { time := 150, inv := Holdings.sampleLoose, money := fun _ => 500 }
  mAitems g := g == 7
  auctions := [(.neutral, { sampleAuction with bidder := 3 })]
  nextAuctionId := 2
  online p := p == 2

theorem sampleDeleted_escrowed : Escrowed sampleConfig sampleDeleted := by
  refine ⟨by decide, by decide, fun p hp => ?_, fun p => (by decide : 500 ≤ maxMoneyAmount), by decide,
    by decide, by decide, by decide⟩
  obtain rfl : p = 2 := by simpa [sampleDeleted] using hp
  decide

/-- **Gold is lost without a cut or a forfeit** when a bid is beaten whose bidder was deleted;
and a cut larger than bid and deposit makes the seller's profit wrap around. -/
theorem gold_lost :
    Escrowed sampleConfig sampleDeleted ∧
      (sampleDeleted.step sampleConfig (.placeBid 2 (some ⟨1, 0⟩) 1 300)).auctions.length = 1 ∧
      worth {1, 2, 3} (books (sampleDeleted.step sampleConfig (.placeBid 2 (some ⟨1, 0⟩) 1 300))) + 100 =
        worth {1, 2, 3} (books sampleDeleted) ∧
      ((sampleAuctions.step { sampleConfig with cutOf := id } (.update .neutral [1])).post.mails 1).map
        Mail.money = [4294967296 + 110 - 1500] := by
  exact ⟨sampleDeleted_escrowed, by decide, by decide, by decide⟩

theorem gold_conserved_sample :
    Transition.Along (step sampleConfig) (GoldLawful sampleConfig) sampleDeleted
        [.placeBid 2 (some ⟨1, 0⟩) 1 300, .update .neutral [1]] ∧
      ∃ ms, books (Transition.run (step sampleConfig) sampleDeleted
            [.placeBid 2 (some ⟨1, 0⟩) 1 300, .update .neutral [1]]) =
          Transition.run (move (reached sampleConfig) (fee sampleConfig)) (books sampleDeleted) ms ∧
        Transition.Along (move (reached sampleConfig) (fee sampleConfig))
          (Lawful (Known sampleConfig) (fee sampleConfig)) (books sampleDeleted) ms ∧
        ∀ S : Finset Nat, (∀ p, sampleConfig.accountOf p ≠ 0 → p ∈ S) →
          worth S (books (Transition.run (step sampleConfig) sampleDeleted
              [.placeBid 2 (some ⟨1, 0⟩) 1 300, .update .neutral [1]])) +
            (ms.map (charge (reached sampleConfig) (fee sampleConfig))).sum = worth S (books sampleDeleted) := by
  refine gold_conserved sampleConfig sampleDeleted sampleDeleted_escrowed _
    ⟨fun n a _ hget hbuy => ?_, fun id hid a hget _ => ?_, trivial⟩
  · have ha := List.mem_singleton.1 (getAuction_eq_some _ _ a hget).1
    rw [(Prod.mk.inj ha).2] at hbuy
    exact absurd rfl hbuy
  · obtain rfl : id = 1 := by simpa using hid
    obtain rfl : { sampleAuction with bidder := 2, bid := 300 } = a := by
      have : (sampleDeleted.step sampleConfig (.placeBid 2 (some ⟨1, 0⟩) 1 300)).getAuction .neutral 1 =
          some { sampleAuction with bidder := 2, bid := 300 } := by decide
      exact Option.some.inj (this.symm.trans hget)
    unfold CutFits
    decide

end AuctionHouseMgr

end BlizzLike
