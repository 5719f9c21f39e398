import BlizzLikeCore.Auction.AuctionHouse
import BlizzLikeCore.Mail.Mailboxes

/-!
# Custody of auctioned items

From the sale to the end of its auction an item is in the auction item table, in no inventory
and attached to no mail; the end of the auction takes it out of the table and mails it.  The
first half holds along every run (`custody_run`).  The second holds along the runs in which
every end finds its receiver (`ends_delivered`); with the GM log off the expiry update looks up
no account for a winner who is not in the world, and his item is gone (`end_undelivered`).
-/

namespace BlizzLike

namespace PostOffice

/-- How many mails in the box of `p` have item `g` attached. -/
def holders (w : PostOffice) (p g : Nat) : Nat := ((w.mails p).filter fun m => decide (g ∈ m.items)).length

end PostOffice

namespace AuctionHouseMgr

/-! ## The law -/

/-- The items of live auctions are in the item table, one auction each, and nowhere else. -/
structure Custody (cfg : AuctionConfig) (w : AuctionHouseMgr) : Prop where
  inOrder : w.post.inv.InOrder cfg.om
  ids : (w.auctions.map fun e => e.2.id).Nodup
  fresh : ∀ e ∈ w.auctions, e.2.id < w.nextAuctionId
  items : (w.auctions.map fun e => e.2.itemGuidlow).Nodup
  listed : ∀ g, w.mAitems g = true ↔ ∃ e ∈ w.auctions, e.2.itemGuidlow = g
  spare : ∀ g, w.mAitems g = true → w.post.inv.shelf.Spare cfg.om g
  unmailed : ∀ g, w.mAitems g = true → ∀ p, w.post.holders p g = 0
  attached : ∀ p g, w.post.holders p g ≠ 0 → w.post.inv.shelf.Spare cfg.om g
  known : ∀ p, w.online p = true → cfg.accountOf p ≠ 0

/-- Item `g` is attached to one mail, in the box of an existing character, and still whole. -/
structure DeliveredTo (cfg : AuctionConfig) (w : AuctionHouseMgr) (g rc : Nat) : Prop where
  receiver : cfg.accountOf rc ≠ 0
  once : ∀ p, w.post.holders p g = if p = rc then 1 else 0
  whole : w.post.inv.shelf.Spare cfg.om g

/-- Who gets the item when a request ends an auction: the buyer on a sale, the owner else. -/
def endReceiver : AuctionRequest → AuctionEntry → Nat
  | .placeBid pl _ _ _, _ => pl
  | .removeItem _ _ _, a => a.owner
  | _, a => if a.bidder = 0 then a.owner else a.bidder

/-- An auction is over: no map has it. -/
def Over (w : AuctionHouseMgr) (id : Nat) : Prop := ∀ e ∈ w.auctions, e.2.id ≠ id

/-- **The delivery law** for one request: every auction it ends leaves the table and has its
item mailed. -/
def EndsDelivered (cfg : AuctionConfig) (w : AuctionHouseMgr) (r : AuctionRequest) : Prop :=
  ∀ e ∈ w.auctions, (w.step cfg r).Over e.2.id →
    (w.step cfg r).mAitems e.2.itemGuidlow = false ∧
      DeliveredTo cfg (w.step cfg r) e.2.itemGuidlow (endReceiver r e.2)

/-- `SendAuctionWonMail` finds the winner, and a mail to him is not dropped. -/
def FindsWinner (cfg : AuctionConfig) (w : AuctionHouseMgr) (bidder : Nat) : Prop :=
  PostOffice.Reaches cfg.toMailConfig bidder ∧ (w.online bidder = true ∨ cfg.gmLogTrade = true)

/-- A mail reaches the character to whom an expired auction gives its item. -/
def FindsHeir (cfg : AuctionConfig) (w : AuctionHouseMgr) (a : AuctionEntry) : Prop :=
  if a.bidder = 0 then PostOffice.Reaches cfg.toMailConfig a.owner else FindsWinner cfg w a.bidder

/-- Every end finds its receiver: he exists, is not the auction bot's character, and, when he
won an expired auction, is in the world or the GM log is on. -/
def FindsReceivers (cfg : AuctionConfig) (w : AuctionHouseMgr) : AuctionRequest → Prop
  | .placeBid pl npc auctionId price => ∀ n a, npc = some n →
      w.getAuction (cfg.getAuctionsMap n.faction) (u32 auctionId) = some a →
      a.buyout ≠ 0 → a.buyout ≤ u32 price → pl ≠ cfg.ahbplayerGUID
  | .removeItem pl npc auctionId => ∀ n a, npc = some n →
      w.getAuction (cfg.getAuctionsMap n.faction) (u32 auctionId) = some a →
      a.owner = pl → pl ≠ cfg.ahbplayerGUID
  | .update house result => ∀ id ∈ result, ∀ a, w.getAuction house id = some a →
      FindsHeir cfg w a
  | _ => True

/-! ## Lemmas -/

section
variable {cfg : AuctionConfig} {w : AuctionHouseMgr}

/-- The house, the id and the item of an entry: what bids never change. -/
def lot (e : AuctionHouse × AuctionEntry) : AuctionHouse × Nat × Nat := (e.1, e.2.id, e.2.itemGuidlow)

theorem getAuction_eq_some (house : AuctionHouse) (id : Nat) (a : AuctionEntry)
    (h : w.getAuction house id = some a) : (house, a) ∈ w.auctions ∧ a.id = id := by
  unfold getAuction at h
  obtain ⟨e, he, rfl⟩ := Option.map_eq_some_iff.1 h
  have hp := List.find?_some he
  simp only [Bool.and_eq_true, beq_iff_eq] at hp
  obtain ⟨h1, h2⟩ := hp
  refine ⟨?_, h2⟩
  rw [← h1]
  exact List.mem_of_find?_eq_some he

theorem Custody.eq_of_id (hc : Custody cfg w) {e f : AuctionHouse × AuctionEntry} (he : e ∈ w.auctions)
    (hf : f ∈ w.auctions) (h : e.2.id = f.2.id) : e = f :=
  List.inj_on_of_nodup_map hc.ids he hf h

theorem Custody.getAuction_eq (hc : Custody cfg w) (house : AuctionHouse) (a : AuctionEntry)
    (ha : (house, a) ∈ w.auctions) : w.getAuction house a.id = some a := by
  unfold getAuction
  cases hf : w.auctions.find? fun e => e.1 == house && e.2.id == a.id with
  | none => exact absurd (List.find?_eq_none.1 hf _ ha) (by simp)
  | some e =>
    have hp := List.find?_some hf
    simp only [Bool.and_eq_true, beq_iff_eq] at hp
    rw [hc.eq_of_id (List.mem_of_find?_eq_some hf) ha hp.2]
    rfl

theorem Custody.eq_of_item (hc : Custody cfg w) {e f : AuctionHouse × AuctionEntry} (he : e ∈ w.auctions)
    (hf : f ∈ w.auctions) (h : e.2.itemGuidlow = f.2.itemGuidlow) : e = f :=
  List.inj_on_of_nodup_map hc.items he hf h

theorem Custody.mem_table (hc : Custody cfg w) {e : AuctionHouse × AuctionEntry} (he : e ∈ w.auctions) :
    w.mAitems e.2.itemGuidlow = true := (hc.listed _).2 ⟨e, he, rfl⟩

/-! ### Steps that mail no item -/

/-- Nothing was mailed or moved. -/
structure Frame (w t : AuctionHouseMgr) : Prop where
  lots : t.auctions.map lot = w.auctions.map lot
  next : t.nextAuctionId = w.nextAuctionId
  table : t.mAitems = w.mAitems
  online : t.online = w.online
  inv : t.post.inv = w.post.inv
  held : ∀ p y, t.post.holders p y = w.post.holders p y

theorem Frame.refl (w : AuctionHouseMgr) : Frame w w := ⟨rfl, rfl, rfl, rfl, rfl, fun _ _ => rfl⟩

theorem Frame.trans {t u : AuctionHouseMgr} (h : Frame w t) (k : Frame t u) : Frame w u :=
  ⟨k.lots.trans h.lots, k.next.trans h.next, k.table.trans h.table, k.online.trans h.online,
    k.inv.trans h.inv, fun p y => (k.held p y).trans (h.held p y)⟩

theorem Custody.frame {t : AuctionHouseMgr} (hc : Custody cfg w) (h : Frame w t) : Custody cfg t := by
  have hids : t.auctions.map (fun e => e.2.id) = w.auctions.map fun e => e.2.id := by
    have := congrArg (List.map fun l => l.2.1) h.lots
    rwa [List.map_map, List.map_map] at this
  have hitems : t.auctions.map (fun e => e.2.itemGuidlow) = w.auctions.map fun e => e.2.itemGuidlow := by
    have := congrArg (List.map fun l => l.2.2) h.lots
    rwa [List.map_map, List.map_map] at this
  refine ⟨h.inv ▸ hc.inOrder, hids ▸ hc.ids, fun e he => ?_, hitems ▸ hc.items, fun g => ?_, fun g hg => ?_,
    fun g hg p => ?_, fun p g hg => ?_, fun p hp => hc.known p (h.online ▸ hp)⟩
  · have hmem : e.2.id ∈ w.auctions.map fun e => e.2.id := hids ▸ List.mem_map_of_mem he
    obtain ⟨f, hf, heq⟩ := List.mem_map.1 hmem
    rw [← heq, h.next]
    exact hc.fresh f hf
  · rw [h.table, hc.listed g]
    have hmem : g ∈ t.auctions.map (fun e => e.2.itemGuidlow) ↔ g ∈ w.auctions.map fun e => e.2.itemGuidlow := by
      rw [hitems]
    simpa only [List.mem_map] using hmem.symm
  · rw [h.inv]; exact hc.spare g (h.table ▸ hg)
  · rw [h.held]; exact hc.unmailed g (h.table ▸ hg) p
  · rw [h.inv]; exact hc.attached p g (h.held p g ▸ hg)

/-! ### Mails -/

theorem holders_deliver (v : PostOffice) (rc : Nat) (m : Mail) (p g : Nat) :
    PostOffice.holders { v with mails := Function.update v.mails rc (m :: v.mails rc) } p g =
      v.holders p g + if p = rc ∧ g ∈ m.items then 1 else 0 := by
  unfold PostOffice.holders
  by_cases hp : p = rc
  · subst hp
    by_cases hg : g ∈ m.items <;> simp [hg]
  · simp [hp]

/-- What a mail does to the boxes and inventories: it is put in front of a box, or, to the
auction bot, dropped with its items. -/
theorem sendMail_cases (rc : Nat) (a : AuctionEntry) (draft : MailDraft) (deliverDelay : Nat) :
    (rc ≠ cfg.ahbplayerGUID ∧ (w.sendMail cfg rc a draft deliverDelay).post.inv = w.post.inv ∧
      ∀ p g, (w.sendMail cfg rc a draft deliverDelay).post.holders p g =
        w.post.holders p g + if p = rc ∧ g ∈ draft.items then 1 else 0) ∨
    (rc = cfg.ahbplayerGUID ∧
      (w.sendMail cfg rc a draft deliverDelay).post.inv = w.post.inv.deleteItems draft.items ∧
      ∀ p g, (w.sendMail cfg rc a draft deliverDelay).post.holders p g = w.post.holders p g) := by
  unfold sendMail PostOffice.sendMailTo
  by_cases hrc : rc = cfg.ahbplayerGUID
  · right
    rw [if_pos hrc]
    by_cases hit : draft.items = []
    · simp [hit, hrc, Holdings.deleteItems]
    · rw [if_pos ⟨rfl, hit⟩]
      exact ⟨hrc, rfl, fun _ _ => rfl⟩
  · left
    rw [if_neg hrc]
    exact ⟨hrc, rfl, fun p g => holders_deliver w.post rc _ p g⟩

theorem sendMail_frame (rc : Nat) (a : AuctionEntry) (draft : MailDraft) (deliverDelay : Nat)
    (hit : draft.items = []) : Frame w (w.sendMail cfg rc a draft deliverDelay) := by
  rcases @sendMail_cases cfg w rc a draft deliverDelay with ⟨-, hi, hh⟩ | ⟨-, hi, hh⟩
  · exact ⟨rfl, rfl, rfl, rfl, hi, fun p y => by rw [hh, hit]; simp⟩
  · exact ⟨rfl, rfl, rfl, rfl, by rw [hi, hit]; rfl, hh⟩

theorem pay_frame (pl amount : Nat) : Frame w (w.pay pl amount) := ⟨rfl, rfl, rfl, rfl, rfl, fun _ _ => rfl⟩

theorem createItemText_frame : Frame w w.createItemText := ⟨rfl, rfl, rfl, rfl, rfl, fun _ _ => rfl⟩

theorem setBid_frame (house : AuctionHouse) (id bidder bid : Nat) :
    Frame w (w.setBid house id bidder bid) := by
  refine ⟨?_, rfl, rfl, rfl, rfl, fun _ _ => rfl⟩
  unfold setBid
  rw [List.map_map]
  refine List.map_congr_left fun e _ => ?_
  simp only [Function.comp]
  split <;> rfl

theorem mailBidBack_frame (a : AuctionEntry) : Frame w (w.mailBidBack cfg a) := by
  unfold mailBidBack
  split
  · exact sendMail_frame _ a _ _ rfl
  · exact Frame.refl w

theorem sendAuctionSalePendingMail_frame (a : AuctionEntry) :
    Frame w (w.sendAuctionSalePendingMail cfg a) := by
  unfold sendAuctionSalePendingMail
  split
  · exact createItemText_frame.trans (sendMail_frame _ a _ _ rfl)
  · exact Frame.refl w

theorem sendAuctionSuccessfulMail_frame (a : AuctionEntry) :
    Frame w (w.sendAuctionSuccessfulMail cfg a) := by
  unfold sendAuctionSuccessfulMail
  split
  · exact createItemText_frame.trans (sendMail_frame _ a _ _ rfl)
  · exact Frame.refl w

/-! ### Ends of auctions -/

/-- An item of no live auction is left where it is. -/
structure Untouched (cfg : AuctionConfig) (w t : AuctionHouseMgr) (y : Nat) : Prop where
  table : t.mAitems y = false
  held : ∀ p, t.post.holders p y = w.post.holders p y
  spare : w.post.inv.shelf.Spare cfg.om y → t.post.inv.shelf.Spare cfg.om y

theorem Untouched.trans {t u : AuctionHouseMgr} {y : Nat} (h : Untouched cfg w t y)
    (k : Untouched cfg t u y) : Untouched cfg w u y :=
  ⟨k.table, fun p => (k.held p).trans (h.held p), fun hs => k.spare (h.spare hs)⟩

theorem Frame.untouched {t : AuctionHouseMgr} (h : Frame w t) {y : Nat} (hy : w.mAitems y = false) :
    Untouched cfg w t y := ⟨h.table ▸ hy, fun p => h.held p y, fun hs => h.inv ▸ hs⟩

theorem DeliveredTo.untouched {t : AuctionHouseMgr} {g rc : Nat} (h : DeliveredTo cfg w g rc)
    (k : Untouched cfg w t g) : DeliveredTo cfg t g rc :=
  ⟨h.receiver, fun p => (k.held p).trans (h.once p), k.spare h.whole⟩

theorem mem_removeAuction (house : AuctionHouse) (a : AuctionEntry) (e : AuctionHouse × AuctionEntry) :
    e ∈ (w.clearAuction house a).auctions ↔ e ∈ w.auctions ∧ ¬(e.1 = house ∧ e.2.id = a.id) := by
  simp only [clearAuction, removeAuction, removeAItem, List.mem_filter, Bool.not_eq_true',
    Bool.and_eq_false_iff, beq_eq_false_iff_ne, not_and_or, Ne]

/-- **An auction is cleared** and its item is in no table any more. -/
theorem clearAuction_custody (hc : Custody cfg w) (house : AuctionHouse) (a : AuctionEntry)
    (ha : (house, a) ∈ w.auctions) : Custody cfg (w.clearAuction house a) := by
  have hsub : (w.clearAuction house a).auctions.Sublist w.auctions := List.filter_sublist
  have htab : ∀ g, (w.clearAuction house a).mAitems g = true ↔ w.mAitems g = true ∧ g ≠ a.itemGuidlow := by
    intro g
    by_cases hg : g = a.itemGuidlow
    · subst hg; simp [clearAuction, removeAuction, removeAItem]
    · simp [clearAuction, removeAuction, removeAItem, hg]
  refine ⟨hc.inOrder, hc.ids.sublist (hsub.map _), fun e he => hc.fresh e (hsub.subset he),
    hc.items.sublist (hsub.map _), fun g => ?_, fun g hg => hc.spare g ((htab g).1 hg).1,
    fun g hg => hc.unmailed g ((htab g).1 hg).1, hc.attached, hc.known⟩
  rw [htab, hc.listed]
  constructor
  · rintro ⟨⟨e, he, rfl⟩, hne⟩
    refine ⟨e, (mem_removeAuction house a e).2 ⟨he, fun h => hne ?_⟩, rfl⟩
    rw [hc.eq_of_id he ha h.2]
  · rintro ⟨e, he, rfl⟩
    obtain ⟨he, hne⟩ := (mem_removeAuction house a e).1 he
    refine ⟨⟨e, he, rfl⟩, fun heq => hne ?_⟩
    rw [hc.eq_of_item he ha heq]
    exact ⟨rfl, rfl⟩

/-- **A loose item is mailed.** -/
theorem sendMail_item (hc : Custody cfg w) (rc : Nat) (a : AuctionEntry) (draft : MailDraft)
    (deliverDelay g : Nat) (hd : draft.items = [g]) (hg : w.mAitems g = false)
    (hsp : w.post.inv.shelf.Spare cfg.om g) (hfree : ∀ p, w.post.holders p g = 0) :
    Custody cfg (w.sendMail cfg rc a draft deliverDelay) ∧
      (∀ y, w.mAitems y = false → y ≠ g → Untouched cfg w (w.sendMail cfg rc a draft deliverDelay) y) ∧
      (PostOffice.Reaches cfg.toMailConfig rc →
        DeliveredTo cfg (w.sendMail cfg rc a draft deliverDelay) g rc) := by
  have hne : ∀ y, w.mAitems y = true → y ≠ g := by
    rintro y ht rfl
    rw [hg] at ht; cases ht
  rcases @sendMail_cases cfg w rc a draft deliverDelay with ⟨hrc, hi, hh⟩ | ⟨hrc, hi, hh⟩
  · have hy : ∀ p y, y ≠ g → (w.sendMail cfg rc a draft deliverDelay).post.holders p y =
        w.post.holders p y := by
      intro p y hne
      rw [hh, hd]; simp [hne]
    refine ⟨⟨by rw [hi]; exact hc.inOrder, hc.ids, hc.fresh, hc.items, hc.listed,
      fun y ht => by rw [hi]; exact hc.spare y ht,
      fun y ht p => (hy p y (hne y ht)).trans (hc.unmailed y ht p), fun p y ht => ?_, hc.known⟩,
      fun y ht hyg => ⟨ht, fun p => hy p y hyg, fun hs => by rw [hi]; exact hs⟩,
      fun hr => ⟨hr.1, fun p => ?_, by rw [hi]; exact hsp⟩⟩
    · rw [hi]
      by_cases hyg : y = g
      · rw [hyg]; exact hsp
      · exact hc.attached p y (hy p y hyg ▸ ht)
    · rw [hh, hfree, hd]; simp
  · obtain ⟨hin, hstay⟩ := w.post.inv.deleteItem_spec cfg.om hc.inOrder g hsp
    have hdel : w.post.inv.deleteItems draft.items = w.post.inv.deleteItem g := by rw [hd]; rfl
    rw [hdel] at hi
    have hnz : ∀ p y, w.post.holders p y ≠ 0 → y ≠ g := by
      rintro p y hnz rfl
      exact hnz (hfree p)
    refine ⟨⟨by rw [hi]; exact hin, hc.ids, hc.fresh, hc.items, hc.listed, fun y ht => ?_,
      fun y ht p => (hh p y).trans (hc.unmailed y ht p), fun p y ht => ?_, hc.known⟩,
      fun y ht hyg => ⟨ht, fun p => hh p y, fun hs => by rw [hi]; exact (hstay y hyg hs).1⟩,
      fun hr => absurd hrc hr.2⟩
    · rw [hi]
      exact (hstay y (hne y ht) (hc.spare y ht)).1
    · rw [hi]
      rw [hh] at ht
      exact (hstay y (hnz p y ht) (hc.attached p y ht)).1

/-- The end of an auction: `g` goes to `rc`, when `found` says that a mail reaches him. -/
structure Ends (cfg : AuctionConfig) (w t : AuctionHouseMgr) (g rc : Nat) (found : Prop) : Prop where
  custody : Custody cfg t
  untouched : ∀ y, w.mAitems y = false → Untouched cfg w t y
  table : t.mAitems g = false
  delivered : found → DeliveredTo cfg t g rc

theorem Ends.of_frame {v t : AuctionHouseMgr} {g rc : Nat} {found found' : Prop} (h : Frame w v)
    (k : Ends cfg v t g rc found) (hf : found' → found) : Ends cfg w t g rc found' :=
  ⟨k.custody, fun y hy => (h.untouched hy).trans (k.untouched y (h.table ▸ hy)), k.table,
    fun hfound => k.delivered (hf hfound)⟩

/-- **An auction is cleared and its item mailed.** -/
theorem mail_ends (hc : Custody cfg w) (house : AuctionHouse) (a : AuctionEntry)
    (ha : (house, a) ∈ w.auctions) (rc : Nat) (draft : MailDraft) (hd : draft.items = [a.itemGuidlow])
    (deliverDelay : Nat) :
    Ends cfg w ((w.sendMail cfg rc a draft deliverDelay).clearAuction house a) a.itemGuidlow rc
      (PostOffice.Reaches cfg.toMailConfig rc) := by
  have hcom : (w.sendMail cfg rc a draft deliverDelay).clearAuction house a =
      (w.clearAuction house a).sendMail cfg rc a draft deliverDelay := rfl
  have htab := hc.mem_table ha
  have hself : (w.clearAuction house a).mAitems a.itemGuidlow = false := by
    simp [clearAuction, removeAuction, removeAItem]
  obtain ⟨h1, h2, h3⟩ := sendMail_item (clearAuction_custody hc house a ha) rc a draft deliverDelay
    a.itemGuidlow hd hself (hc.spare _ htab) (hc.unmailed _ htab)
  rw [hcom]
  refine ⟨h1, fun y hy => ?_, hself, h3⟩
  have hne : y ≠ a.itemGuidlow := by
    rintro rfl
    rw [htab] at hy; cases hy
  have hy' : (w.clearAuction house a).mAitems y = false := by
    simp [clearAuction, removeAuction, removeAItem, hne, hy]
  have h0 : Untouched cfg w (w.clearAuction house a) y := ⟨hy', fun _ => rfl, fun hs => hs⟩
  exact h0.trans (h2 y hy' hne)

theorem clear_ends (hc : Custody cfg w) (house : AuctionHouse) (a : AuctionEntry)
    (ha : (house, a) ∈ w.auctions) (rc : Nat) (found : Prop) (hf : ¬found) :
    Ends cfg w (w.clearAuction house a) a.itemGuidlow rc found := by
  have htab := hc.mem_table ha
  refine ⟨clearAuction_custody hc house a ha, fun y hy => ⟨?_, fun _ => rfl, fun hs => hs⟩,
    by simp [clearAuction, removeAuction, removeAItem], fun h => absurd h hf⟩
  have hne : y ≠ a.itemGuidlow := by
    rintro rfl
    rw [htab] at hy; cases hy
  simp [clearAuction, removeAuction, removeAItem, hne, hy]

theorem sendAuctionWonMail_ends (hc : Custody cfg w) (house : AuctionHouse) (a : AuctionEntry)
    (ha : (house, a) ∈ w.auctions) :
    Ends cfg w ((w.sendAuctionWonMail cfg a).clearAuction house a) a.itemGuidlow a.bidder
      (FindsWinner cfg w a.bidder) := by
  have htab := hc.mem_table ha
  unfold sendAuctionWonMail
  rw [if_neg (by rw [htab]; simp)]
  simp only
  generalize hacc : (if cfg.gmLogTrade then cfg.accountOf a.bidder else 0) = bidderAccId
  split
  · exact (mail_ends (hc.frame createItemText_frame) house a ha a.bidder _ rfl 0).of_frame
      createItemText_frame fun h => h.1
  · next hno =>
    refine clear_ends hc house a ha a.bidder _ ?_
    rintro ⟨hr, hon | hlog⟩
    · exact hno (Or.inl hon)
    · exact hno (Or.inr (by rw [← hacc, if_pos hlog]; exact hr.1))

theorem sendAuctionExpiredMail_ends (hc : Custody cfg w) (house : AuctionHouse) (a : AuctionEntry)
    (ha : (house, a) ∈ w.auctions) :
    Ends cfg w ((w.sendAuctionExpiredMail cfg a).clearAuction house a) a.itemGuidlow a.owner
      (PostOffice.Reaches cfg.toMailConfig a.owner) := by
  have htab := hc.mem_table ha
  unfold sendAuctionExpiredMail
  rw [if_neg (by rw [htab]; simp)]
  split
  · exact mail_ends hc house a ha a.owner _ rfl 0
  · next hno =>
    refine clear_ends hc house a ha a.owner _ fun hr => hno ?_
    simp [receiverExists, hr.1]

theorem sendAuctionSuccessfulMail_auctions (a : AuctionEntry) :
    (w.sendAuctionSuccessfulMail cfg a).auctions = w.auctions := by
  unfold sendAuctionSuccessfulMail
  split <;> rfl

theorem sendAuctionSalePendingMail_auctions (a : AuctionEntry) :
    (w.sendAuctionSalePendingMail cfg a).auctions = w.auctions := by
  unfold sendAuctionSalePendingMail
  split <;> rfl

theorem sendAuctionWonMail_auctions (a : AuctionEntry) :
    (w.sendAuctionWonMail cfg a).auctions = w.auctions := by
  unfold sendAuctionWonMail
  simp only
  generalize (if cfg.gmLogTrade then cfg.accountOf a.bidder else 0) = bidderAccId
  split
  · rfl
  · split <;> rfl

theorem sendAuctionExpiredMail_auctions (a : AuctionEntry) :
    (w.sendAuctionExpiredMail cfg a).auctions = w.auctions := by
  unfold sendAuctionExpiredMail
  split
  · rfl
  · split <;> rfl

theorem mailBidBack_auctions (a : AuctionEntry) : (w.mailBidBack cfg a).auctions = w.auctions := by
  unfold mailBidBack
  split <;> rfl

/-- **One expired auction.** -/
theorem endAuction_ends (hc : Custody cfg w) (house : AuctionHouse) (a : AuctionEntry)
    (ha : (house, a) ∈ w.auctions) :
    Ends cfg w (w.endAuction cfg house a) a.itemGuidlow (if a.bidder = 0 then a.owner else a.bidder)
      (FindsHeir cfg w a) := by
  unfold endAuction FindsHeir
  by_cases hb : a.bidder = 0
  · simp only [hb, if_true]
    exact sendAuctionExpiredMail_ends hc house a ha
  · simp only [hb, if_false]
    have hf := @sendAuctionSuccessfulMail_frame cfg w a
    refine (sendAuctionWonMail_ends (hc.frame hf) house a
      (by rw [sendAuctionSuccessfulMail_auctions]; exact ha)).of_frame hf fun h => ?_
    exact ⟨h.1, h.2.imp_left fun hon => by rw [hf.online]; exact hon⟩

theorem mem_endAuction (house : AuctionHouse) (a : AuctionEntry) (e : AuctionHouse × AuctionEntry) :
    e ∈ (w.endAuction cfg house a).auctions ↔ e ∈ w.auctions ∧ ¬(e.1 = house ∧ e.2.id = a.id) := by
  unfold endAuction
  rw [mem_removeAuction]
  split
  · rw [sendAuctionExpiredMail_auctions]
  · rw [sendAuctionWonMail_auctions, sendAuctionSuccessfulMail_auctions]

theorem endAuction_online (house : AuctionHouse) (a : AuctionEntry) :
    (w.endAuction cfg house a).online = w.online := by
  unfold endAuction sendAuctionExpiredMail sendAuctionSuccessfulMail sendAuctionWonMail
  simp only
  repeat' split
  all_goals rfl

/-- **The expiry loop.** -/
theorem endExpired_spec (house : AuctionHouse) (ids : List Nat) (hc : Custody cfg w) :
    Custody cfg (endExpired cfg house ids w) ∧
      (∀ y, w.mAitems y = false → Untouched cfg w (endExpired cfg house ids w) y) ∧
      ((∀ e ∈ w.auctions, e.1 = house → e.2.id ∈ ids → FindsHeir cfg w e.2) →
        ∀ e ∈ w.auctions, (endExpired cfg house ids w).Over e.2.id →
          (endExpired cfg house ids w).mAitems e.2.itemGuidlow = false ∧
            DeliveredTo cfg (endExpired cfg house ids w) e.2.itemGuidlow
              (if e.2.bidder = 0 then e.2.owner else e.2.bidder)) := by
  induction ids generalizing w with
  | nil =>
    refine ⟨hc, fun y hy => ⟨hy, fun _ => rfl, fun hs => hs⟩, fun _ e he hover => ?_⟩
    exact absurd rfl (hover e he)
  | cons id ids ih =>
    rw [endExpired]
    split
    · obtain ⟨h1, h2, h3⟩ := ih hc
      exact ⟨h1, h2, fun hf => h3 fun e he hh hin => hf e he hh (List.mem_cons_of_mem _ hin)⟩
    · next a hget =>
      obtain ⟨ha, hid⟩ := getAuction_eq_some house id a hget
      have hend := endAuction_ends hc house a ha
      obtain ⟨h1, h2, h3⟩ := ih hend.custody
      refine ⟨h1, fun y hy => (hend.untouched y hy).trans (h2 y (hend.untouched y hy).table),
        fun hf e he hover => ?_⟩
      by_cases hea : e.1 = house ∧ e.2.id = a.id
      · -- the auction that ended now: the rest of the loop leaves its item alone
        obtain rfl := hc.eq_of_id he ha hea.2
        have hrest := h2 a.itemGuidlow hend.table
        exact ⟨hrest.table, (hend.delivered (hf _ ha rfl (by simp [hid]))).untouched hrest⟩
      · refine h3 (fun f hfm hh hin => ?_) e ((mem_endAuction house a e).2 ⟨he, hea⟩) hover
        have hheir := hf f ((mem_endAuction house a f).1 hfm).1 hh (List.mem_cons_of_mem _ hin)
        unfold FindsHeir FindsWinner at hheir ⊢
        rw [endAuction_online]
        exact hheir

/-! ### Requests -/

theorem not_over_of_lots {t : AuctionHouseMgr} (h : t.auctions.map lot = w.auctions.map lot)
    {e : AuctionHouse × AuctionEntry} (he : e ∈ w.auctions) : ¬t.Over e.2.id := by
  intro hover
  have hmem : lot e ∈ t.auctions.map lot := h ▸ List.mem_map_of_mem he
  obtain ⟨f, hf, heq⟩ := List.mem_map.1 hmem
  exact hover f hf (congrArg (fun l => l.2.1) heq)

/-- What a request does to the auctions: it keeps them and adds some, or it ends one. -/
theorem over_of_cleared (hc : Custody cfg w) {v : AuctionHouseMgr} (house : AuctionHouse)
    (a b : AuctionEntry) (ha : (house, a) ∈ w.auctions) (hid : b.id = a.id)
    (hl : v.auctions.map lot = w.auctions.map lot) {e : AuctionHouse × AuctionEntry} (he : e ∈ w.auctions)
    (hover : (v.clearAuction house b).Over e.2.id) : e = (house, a) := by
  by_contra hne
  have hmem : lot e ∈ v.auctions.map lot := hl ▸ List.mem_map_of_mem he
  obtain ⟨f, hf, heq⟩ := List.mem_map.1 hmem
  have hfid : f.2.id = e.2.id := congrArg (fun l => l.2.1) heq
  refine hover f ((mem_removeAuction house b f).2 ⟨hf, fun h => hne ?_⟩) hfid
  exact hc.eq_of_id he ha (by rw [← hfid, h.2, hid])

/-- A request that takes over `Custody` and meets the delivery law when the receivers are found. -/
structure StepSpec (cfg : AuctionConfig) (w t : AuctionHouseMgr) (rc : AuctionEntry → Nat) (found : Prop) :
    Prop where
  custody : Custody cfg t
  delivered : found → ∀ e ∈ w.auctions, t.Over e.2.id →
    t.mAitems e.2.itemGuidlow = false ∧ DeliveredTo cfg t e.2.itemGuidlow (rc e.2)

theorem StepSpec.of_frame {t : AuctionHouseMgr} (hc : Custody cfg w) (h : Frame w t)
    (rc : AuctionEntry → Nat) (found : Prop) : StepSpec cfg w t rc found :=
  ⟨hc.frame h, fun _ _ he hover => absurd hover (not_over_of_lots h.lots he)⟩

theorem StepSpec.of_ends {v : AuctionHouseMgr} (hc : Custody cfg w) (house : AuctionHouse)
    (a b : AuctionEntry) (ha : (house, a) ∈ w.auctions) (hid : b.id = a.id)
    (hl : v.auctions.map lot = w.auctions.map lot) (rc : AuctionEntry → Nat) (rcv : Nat) (found found' : Prop)
    (hrc : rc a = rcv) (hf : found' → found)
    (h : Ends cfg w (v.clearAuction house b) a.itemGuidlow rcv found) :
    StepSpec cfg w (v.clearAuction house b) rc found' := by
  refine ⟨h.custody, fun hfound e he hover => ?_⟩
  rw [over_of_cleared hc house a b ha hid hl he hover, hrc]
  exact ⟨h.table, h.delivered (hf hfound)⟩

/-! #### Selling -/

/-- The item put up is at a place of its owner's inventory, with nothing inside. -/
theorem canAuction_place (hc : Custody cfg w) (pl item it : Nat) (allowed : Bool)
    (hit : w.post.inv.getItemByGuid pl item = some it) (hcan : w.canAuction cfg it allowed = true) :
    it = item ∧ ∃ bag slot, w.post.inv.getItemByPos pl bag slot = some it ∧
      w.post.inv.shelf.Empty it := by
  obtain ⟨hit', bag, slot, hat⟩ := PostOffice.getItemByGuid_eq_some w.post.inv pl item it hit
  refine ⟨hit', bag, slot, hat, PostOffice.empty_of_canAttach w.post.inv hc.inOrder pl bag slot it hat ?_⟩
  rintro ⟨h1, h2⟩
  unfold canAuction at hcan
  rw [h1, h2] at hcan
  simp at hcan

/-- **An item is put up**: it leaves the inventory for the item table. -/
theorem putUp_custody (hc : Custody cfg w) (pl it : Nat) (npc : Auctioneer)
    (houseEntry : AuctionHouseEntry) (bid buyout etime deposit bag slot : Nat) (hnew : w.mAitems it = false)
    (hat : w.post.inv.getItemByPos pl bag slot = some it) (he : w.post.inv.shelf.Empty it) :
    Custody cfg (w.putUp cfg pl it npc houseEntry bid buyout etime deposit) := by
  obtain ⟨hin, hsp, hstay, -⟩ := w.post.inv.moveOut_spec cfg.om pl hc.inOrder it (Or.inl ⟨bag, slot, hat, he⟩)
    _ rfl
  have hloose : ∀ y, w.post.inv.shelf.Spare cfg.om y → y ≠ it := by
    rintro y hy rfl
    exact hc.inOrder.orderly.itemAt_ne_loose y hy.loose pl bag slot y hat rfl
  have hkeep := fun y (hy : w.post.inv.shelf.Spare cfg.om y) => (hstay y (hloose y hy) hy).1
  have htab : ∀ g, (w.putUp cfg pl it npc houseEntry bid buyout etime deposit).mAitems g = true ↔
      g = it ∨ w.mAitems g = true := by
    intro g
    by_cases hg : g = it
    · subst hg; simp [putUp, addAuction, addAItem]
    · simp [putUp, addAuction, addAItem, pay, hg]
  have hitems : it ∉ w.auctions.map fun e => e.2.itemGuidlow := by
    intro hmem
    obtain ⟨e, hemem, rfl⟩ := List.mem_map.1 hmem
    rw [hc.mem_table hemem] at hnew; cases hnew
  have hids : w.nextAuctionId ∉ w.auctions.map fun e => e.2.id := by
    intro hmem
    obtain ⟨e, hemem, heq⟩ := List.mem_map.1 hmem
    exact absurd heq (Nat.ne_of_lt (hc.fresh e hemem))
  refine ⟨hin, List.nodup_cons.2 ⟨hids, hc.ids⟩, fun e hemem => ?_, List.nodup_cons.2 ⟨hitems, hc.items⟩,
    fun g => ?_, fun g hg => ?_, fun g hg p => ?_, fun p g hg => hkeep g (hc.attached p g hg), hc.known⟩
  · rcases List.mem_cons.1 hemem with rfl | hemem
    · exact Nat.lt_succ_self _
    · exact Nat.lt_succ_of_lt (hc.fresh e hemem)
  · rw [htab, hc.listed]
    constructor
    · rintro (rfl | ⟨e, hemem, rfl⟩)
      · exact ⟨_, List.mem_cons_self .., rfl⟩
      · exact ⟨e, List.mem_cons_of_mem _ hemem, rfl⟩
    · rintro ⟨e, hemem, rfl⟩
      rcases List.mem_cons.1 hemem with rfl | hemem
      · exact Or.inl rfl
      · exact Or.inr ⟨e, hemem, rfl⟩
  · rcases (htab g).1 hg with rfl | hg
    · exact hsp.1
    · exact hkeep g (hc.spare g hg)
  · rcases (htab g).1 hg with rfl | hg
    · by_contra hne
      exact hloose g (hc.attached p g hne) rfl
    · exact hc.unmailed g hg p

theorem handleAuctionSellItem_spec (hc : Custody cfg w) (pl : Nat) (npc : Option Auctioneer)
    (item bid buyout etime : Nat) (allowed : Bool) (rc : AuctionEntry → Nat) (found : Prop) :
    StepSpec cfg w (w.handleAuctionSellItem cfg pl npc item bid buyout etime allowed) rc found := by
  have hstay : StepSpec cfg w w rc found := StepSpec.of_frame hc (Frame.refl w) rc found
  unfold handleAuctionSellItem
  simp only
  split
  · exact hstay
  split
  · exact hstay
  next n =>
  split
  · exact hstay
  next houseEntry hentry =>
  split
  · exact hstay
  split
  · exact hstay
  next hnew =>
  split
  · exact hstay
  next it hit =>
  split
  · exact hstay
  next hcan =>
  split
  · exact hstay
  obtain ⟨rfl, bag, slot, hat, he⟩ := canAuction_place hc pl item it allowed hit (by simpa using hcan)
  refine ⟨putUp_custody hc pl it n houseEntry _ _ _ _ bag slot (by simpa using hnew) hat he,
    fun _ e hemem hover => ?_⟩
  exact absurd rfl (hover e (List.mem_cons_of_mem _ hemem))

/-! #### Bids -/

theorem bidOn_frame (pl : Nat) (house : AuctionHouse) (a : AuctionEntry) (price : Nat) :
    Frame w (w.bidOn cfg pl house a price) := by
  unfold bidOn
  simp only
  refine Frame.trans ?_ (setBid_frame house a.id pl price)
  split
  · split
    · exact pay_frame ..
    · exact (mailBidBack_frame a).trans (pay_frame ..)
  · exact pay_frame ..

/-- What `buyOut` does before the winner's mail. -/
def boughtOut (cfg : AuctionConfig) (w : AuctionHouseMgr) (pl : Nat) (house : AuctionHouse)
    (a : AuctionEntry) : AuctionHouseMgr :=
  let w1 :=
    if pl = a.bidder then w.pay pl (sub32 a.buyout a.bid)
    else
      let v := w.pay pl a.buyout
      if a.bidder ≠ 0 then v.sendAuctionOutbiddedMail cfg a else v
  let b := { a with bidder := pl, bid := a.buyout }
  ((w1.setBid house a.id pl a.buyout).sendAuctionSalePendingMail cfg b).sendAuctionSuccessfulMail cfg b

theorem buyOut_eq (pl : Nat) (house : AuctionHouse) (a : AuctionEntry) :
    w.buyOut cfg pl house a = ((boughtOut cfg w pl house a).sendAuctionWonMail cfg
      { a with bidder := pl, bid := a.buyout }).clearAuction house { a with bidder := pl, bid := a.buyout } :=
  rfl

theorem boughtOut_frame (pl : Nat) (house : AuctionHouse) (a : AuctionEntry) :
    Frame w (boughtOut cfg w pl house a) := by
  unfold boughtOut
  simp only
  refine Frame.trans ?_ ((setBid_frame house a.id pl a.buyout).trans
    ((sendAuctionSalePendingMail_frame _).trans (sendAuctionSuccessfulMail_frame _)))
  split
  · exact pay_frame ..
  · split
    · exact (pay_frame ..).trans (mailBidBack_frame a)
    · exact pay_frame ..

theorem mem_boughtOut (pl : Nat) (house : AuctionHouse) (a : AuctionEntry) (ha : (house, a) ∈ w.auctions) :
    (house, { a with bidder := pl, bid := a.buyout }) ∈ (boughtOut cfg w pl house a).auctions := by
  unfold boughtOut
  simp only
  rw [sendAuctionSuccessfulMail_auctions, sendAuctionSalePendingMail_auctions]
  refine List.mem_map.2 ⟨(house, a), ?_, by simp⟩
  split
  · exact ha
  · split
    · unfold sendAuctionOutbiddedMail
      rw [mailBidBack_auctions]
      exact ha
    · exact ha

theorem buyOut_spec (hc : Custody cfg w) (pl : Nat) (house : AuctionHouse) (a : AuctionEntry)
    (ha : (house, a) ∈ w.auctions) (hon : w.online pl = true) (rc : AuctionEntry → Nat) (hrc : rc a = pl) :
    StepSpec cfg w (w.buyOut cfg pl house a) rc (pl ≠ cfg.ahbplayerGUID) := by
  have hf := @boughtOut_frame cfg w pl house a
  have hend := sendAuctionWonMail_ends (hc.frame hf) house _ (mem_boughtOut pl house a ha)
  rw [buyOut_eq]
  refine StepSpec.of_ends hc house a _ ha rfl ?_ rc pl
    (FindsWinner cfg (boughtOut cfg w pl house a) pl) _ hrc (fun hne => ?_) (hend.of_frame hf fun h => h)
  · rw [sendAuctionWonMail_auctions]; exact hf.lots
  · exact ⟨⟨hc.known pl hon, hne⟩, Or.inl (by rw [hf.online]; exact hon)⟩

theorem handleAuctionPlaceBid_spec (hc : Custody cfg w) (pl : Nat) (npc : Option Auctioneer)
    (auctionId price : Nat) (hon : w.online pl = true) :
    StepSpec cfg w (w.handleAuctionPlaceBid cfg pl npc auctionId price) (fun _ => pl)
      (∀ n a, npc = some n → w.getAuction (cfg.getAuctionsMap n.faction) auctionId = some a →
        a.buyout ≠ 0 → a.buyout ≤ price → pl ≠ cfg.ahbplayerGUID) := by
  have hstay : ∀ found, StepSpec cfg w w (fun _ => pl) found := fun found =>
    StepSpec.of_frame hc (Frame.refl w) _ found
  unfold handleAuctionPlaceBid
  simp only
  split
  · exact hstay _
  split
  · exact hstay _
  next n =>
  split
  · exact hstay _
  next a hget =>
  split
  · exact hstay _
  split
  · exact hstay _
  split
  · exact hstay _
  split
  · exact hstay _
  split
  · exact hstay _
  split
  · exact StepSpec.of_frame hc (bidOn_frame pl _ a price) _ _
  · next hbuy =>
    have h := buyOut_spec hc pl _ a (getAuction_eq_some _ _ a hget).1 hon (fun _ => pl) rfl
    exact ⟨h.custody, fun hf => h.delivered (hf n a rfl hget (by omega) (by omega))⟩

/-! #### Cancelling -/

theorem giveBack_ends (hc : Custody cfg w) (pl : Nat) (house : AuctionHouse) (a : AuctionEntry)
    (ha : (house, a) ∈ w.auctions) :
    Ends cfg w (w.giveBack cfg pl house a) a.itemGuidlow pl (PostOffice.Reaches cfg.toMailConfig pl) :=
  mail_ends hc house a ha pl _ rfl 0

theorem handleAuctionRemoveItem_spec (hc : Custody cfg w) (pl : Nat) (npc : Option Auctioneer)
    (auctionId : Nat) (hon : w.online pl = true) :
    StepSpec cfg w (w.handleAuctionRemoveItem cfg pl npc auctionId) (fun a => a.owner)
      (∀ n a, npc = some n → w.getAuction (cfg.getAuctionsMap n.faction) auctionId = some a →
        a.owner = pl → pl ≠ cfg.ahbplayerGUID) := by
  have hstay : ∀ found, StepSpec cfg w w (fun a => a.owner) found := fun found =>
    StepSpec.of_frame hc (Frame.refl w) _ found
  unfold handleAuctionRemoveItem
  simp only
  split
  · exact hstay _
  next n =>
  split
  · exact hstay _
  next a hget =>
  have ha := (getAuction_eq_some _ _ a hget).1
  split
  · exact hstay _
  next hown =>
  have hown : a.owner = pl := by simpa using hown
  have hgive : ∀ v, Frame w v → v.auctions = w.auctions →
      StepSpec cfg w (v.giveBack cfg pl (cfg.getAuctionsMap n.faction) a) (fun a => a.owner)
        (∀ n' a, some n = some n' → w.getAuction (cfg.getAuctionsMap n'.faction) auctionId = some a →
          a.owner = pl → pl ≠ cfg.ahbplayerGUID) := by
    intro v hf hv
    have hend := (giveBack_ends (hc.frame hf) pl _ a (by rw [hv]; exact ha)).of_frame hf fun h => h
    refine StepSpec.of_ends (v := v.sendMail cfg pl a { items := [a.itemGuidlow] } 0) hc _ a a ha rfl
      hf.lots _ pl _ _ hown (fun hfound => ?_) hend
    exact ⟨hc.known pl hon, hfound n a rfl hget hown⟩
  split
  · exact hstay _
  split
  · split
    · exact hstay _
    · exact hgive _ ((mailBidBack_frame a).trans (pay_frame ..)) (mailBidBack_auctions a)
  · exact hgive w (Frame.refl w) rfl

/-- **One request** keeps custody, and delivers what it ends when the receivers are found. -/
theorem step_spec (hc : Custody cfg w) (r : AuctionRequest) :
    StepSpec cfg w (w.step cfg r) (endReceiver r) (FindsReceivers cfg w r) := by
  have hstay : StepSpec cfg w w (endReceiver r) (FindsReceivers cfg w r) :=
    StepSpec.of_frame hc (Frame.refl w) _ _
  cases r with
  | sellItem pl npc item bid buyout etime allowed =>
    simp only [step]
    split
    · exact handleAuctionSellItem_spec hc pl npc item _ _ _ allowed _ _
    · exact hstay
  | placeBid pl npc auctionId price =>
    simp only [step]
    split
    · next hon => exact handleAuctionPlaceBid_spec hc pl npc _ _ hon
    · exact hstay
  | removeItem pl npc auctionId =>
    simp only [step]
    split
    · next hon => exact handleAuctionRemoveItem_spec hc pl npc _ hon
    · exact hstay
  | update house result =>
    simp only [step, update]
    split
    · exact hstay
    · obtain ⟨h1, -, h3⟩ := endExpired_spec house result hc
      refine ⟨h1, fun hf => h3 fun e he hh hin => ?_⟩
      obtain ⟨house', a⟩ := e
      obtain rfl : house' = house := hh
      exact hf a.id hin a (hc.getAuction_eq house' a he)
  | login pl =>
    simp only [step]
    split
    · next hacc =>
      refine ⟨⟨hc.inOrder, hc.ids, hc.fresh, hc.items, hc.listed, hc.spare, hc.unmailed, hc.attached,
        fun p hp => ?_⟩, fun _ e he hover => absurd rfl (hover e he)⟩
      by_cases hpl : p = pl
      · subst hpl; exact hacc
      · simp only [Function.update_of_ne hpl] at hp
        exact hc.known p hp
    · exact hstay
  | logout pl =>
    refine ⟨⟨hc.inOrder, hc.ids, hc.fresh, hc.items, hc.listed, hc.spare, hc.unmailed, hc.attached,
      fun p hp => ?_⟩, fun _ e he hover => absurd rfl (hover e he)⟩
    by_cases hpl : p = pl
    · subst hpl; simp [step] at hp
    · simp only [step, Function.update_of_ne hpl] at hp
      exact hc.known p hp
  | tick diff =>
    exact ⟨⟨hc.inOrder, hc.ids, hc.fresh, hc.items, hc.listed, hc.spare, hc.unmailed, hc.attached, hc.known⟩,
      fun _ e he hover => absurd rfl (hover e he)⟩

end

/-! ## Top theorems -/

/-- **Custody along every run**: a live auction's item stays in the table and nowhere else. -/
theorem custody_run (cfg : AuctionConfig) (w : AuctionHouseMgr) (hc : Custody cfg w)
    (rs : List AuctionRequest) : Custody cfg (Transition.run (step cfg) w rs) :=
  Transition.invariant_run (I := Custody cfg) (fun _ r h => (step_spec h r).custody) hc rs

/-- **Ends are delivered.**  Along every run whose ends find their receivers, custody is kept
and every auction that ends has its item taken from the table and mailed, once, to the
character it goes to. -/
theorem ends_delivered (cfg : AuctionConfig) (w : AuctionHouseMgr) (hc : Custody cfg w)
    (rs : List AuctionRequest) (hg : Transition.Along (step cfg) (FindsReceivers cfg) w rs) :
    Transition.Along (step cfg) (fun w r => Custody cfg (w.step cfg r) ∧ EndsDelivered cfg w r) w rs :=
  Transition.along_of_invariant (I := Custody cfg) (fun _ r h _ => (step_spec h r).custody)
    (fun _ r h hf => ⟨(step_spec h r).custody, (step_spec h r).delivered hf⟩) hc hg

/-! ### An auction with a bid -/

def sampleConfig : AuctionConfig where
  om := Holdings.sampleMgr
  accountOf p := if p = 1 ∨ p = 2 then p else 0
  ahbplayerGUID := 9
  mailDeliveryDelay := 3600
  auctionHouseStore _ := none
  depositOf _ _ _ := 0
  auctionTime time := time
  cutOf n := n / 100
  nobody := rfl

/-- Player 1 has put item 7 up and player 2 has bid 100. -/
def sampleAuction : AuctionEntry :=
  { id := 1, itemGuidlow := 7, itemTemplate := 3, owner := 1, startbid := 50, bid := 100, expireTime := 200
    bidder := 2, deposit := 10, auctionHouseEntry := ⟨7, 15⟩ }

/-- The winner is not in the world. -/
def sampleAuctions : AuctionHouseMgr where
  post := { time := 150, inv := Holdings.sampleLoose, money := fun _ => 500 }
  mAitems g := g == 7
  auctions := [(.neutral, sampleAuction)]
  nextAuctionId := 2
  online p := p == 1

theorem sampleAuctions_custody : Custody sampleConfig sampleAuctions := by
  refine ⟨Holdings.sampleLoose_inOrder, by decide, by decide, by decide, fun g => ?_, fun g hg => ?_,
    fun g _ p => rfl, fun p g hg => absurd rfl hg, fun p hp => ?_⟩
  · simpa [sampleAuctions, sampleAuction] using (eq_comm : g = 7 ↔ 7 = g)
  · obtain rfl : g = 7 := by simpa [sampleAuctions] using hg
    exact Holdings.sampleLoose_spare
  · obtain rfl : p = 1 := by simpa [sampleAuctions] using hp
    decide

/-- **The item of an expired auction is lost** when its winner, an existing character, is not in
the world and the GM log is off. -/
theorem end_undelivered :
    Custody sampleConfig sampleAuctions ∧ sampleConfig.accountOf 2 ≠ 0 ∧
      (sampleAuctions.step sampleConfig (.update .neutral [1])).auctions = [] ∧
      ((sampleAuctions.step sampleConfig (.update .neutral [1])).post.mails 1).length = 1 ∧
      (sampleAuctions.step sampleConfig (.update .neutral [1])).post.mails 2 = [] ∧
      ¬EndsDelivered sampleConfig sampleAuctions (.update .neutral [1]) := by
  refine ⟨sampleAuctions_custody, by decide, by decide, by decide, by decide, fun h => ?_⟩
  obtain ⟨-, hd⟩ := h (.neutral, sampleAuction) (by decide) (by unfold Over; decide)
  exact absurd (hd.once 2) (by decide)

theorem custody_run_sample :
    Custody sampleConfig (Transition.run (step sampleConfig) sampleAuctions [.login 2, .update .neutral [1]]) :=
  custody_run sampleConfig sampleAuctions sampleAuctions_custody _

theorem ends_delivered_sample :
    Transition.Along (step sampleConfig)
      (fun w r => Custody sampleConfig (w.step sampleConfig r) ∧ EndsDelivered sampleConfig w r) sampleAuctions
      [.login 2, .update .neutral [1]] := by
  refine ends_delivered sampleConfig sampleAuctions sampleAuctions_custody _
    ⟨trivial, fun id hid a hget => ?_, trivial⟩
  obtain rfl : id = 1 := by simpa using hid
  obtain rfl : sampleAuction = a := by
    simpa [step, sampleConfig, getAuction, sampleAuctions, sampleAuction] using hget
  exact ⟨⟨by decide, by decide⟩, Or.inl rfl⟩

end AuctionHouseMgr

end BlizzLike
