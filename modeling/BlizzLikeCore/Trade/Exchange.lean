import BlizzLikeCore.Trade.MoveItems
import BlizzLikeCore.Trade.Partners

/-!
# The exchange

A trade that goes through should leave the units of every entry in the two inventories together,
each object in one slot, and every offered item with its new owner.  This holds along every run in
which an exchange meets no slot that `moveItems` mixes up (`trades_exchange`), but that an item may
be merged into a stack, and that an item of a slot that cannot be stored goes back alone
(`trade_splits`).
-/

namespace BlizzLike

namespace TradeHall

open Holdings Transition

/-- No item is in two trade slots of a trader. -/
def Once (w : TradeHall) : Prop :=
  ∀ p i j g, i < tradeSlotCount → j < tradeSlotCount → (w.traders p).tradeItems i = some g →
    (w.traders p).tradeItems j = some g → i = j

/-- What every step keeps: inventories in order, traders two by two, each item in one trade slot. -/
structure Sound (om : ObjectMgr) (w : TradeHall) : Prop where
  inOrder : w.inv.InOrder om
  paired : w.Paired
  once : w.Once
  purses : ∀ p, w.money p ≤ maxMoneyAmount

/-- `HandleAcceptTradeOpcode` goes past the checks of both accept flags. -/
structure Passes (om : ObjectMgr) (w : TradeHall) (pl trader : Nat) (allowed : Nat → Bool) : Prop where
  partner : (w.traders pl).pTrader = some trader
  gold : (w.traders pl).tradeGold ≤ w.money pl
  hisGold : (w.traders trader).tradeGold ≤ w.money trader
  stand : w.offersStand om pl trader allowed = true
  accepted : (w.traders trader).acceptTrade = true

/-- The items of the traded slots, side by side. -/
def rounds (w : TradeHall) (pl trader : Nat) : List (Option Nat × Option Nat) := (w.offers pl).zip (w.offers trader)

/-- The inventories with the offers taken out. -/
def withoutOffers (w : TradeHall) (pl trader : Nat) : Holdings :=
  removeOffers pl trader (w.rounds pl trader) (w.unmarked pl trader)

/-- Every `CanStoreItem` of the exchange succeeds. -/
def allStore (om : ObjectMgr) (w : TradeHall) (pl trader : Nat) : Bool :=
  roundsStore om pl trader (w.rounds pl trader) (w.withoutOffers pl trader)

/-- **The law** for an exchange. -/
structure Exchanged (om : ObjectMgr) (w t : TradeHall) (a b : Nat) : Prop where
  both : ∀ e, t.inv.shelf.total a e + t.inv.shelf.total b e = w.inv.shelf.total a e + w.inv.shelf.total b e
  apart : ∀ p e, p ≠ a → p ≠ b → t.inv.shelf.total p e = w.inv.shelf.total p e
  /-- What is not offered stays where it is. -/
  unmoved : ∀ p B S i, some i ∉ w.offers a → some i ∉ w.offers b → w.inv.getItemByPos p B S = some i →
    t.inv.getItemByPos p B S = some i
  /-- What is offered is in a slot of one of the two, or was merged into a stack. -/
  moved : ∀ i, some i ∈ w.offers a ∨ some i ∈ w.offers b →
    (∃ p B S, (p = a ∨ p = b) ∧ t.inv.getItemByPos p B S = some i) ∨ (t.inv.shelf.goods i).gone = true
  single : ∀ p B S p' B' S' i, t.inv.getItemByPos p B S = some i → t.inv.getItemByPos p' B' S' = some i →
    p = p' ∧ B = B' ∧ S = S'
  handed : w.allStore om a b = true → ∀ i, (some i ∈ w.offers a → (t.inv.items i).owner = b) ∧
    (some i ∈ w.offers b → (t.inv.items i).owner = a)

/-- **The law** for one request. -/
def KeepsTrade (om : ObjectMgr) (w : TradeHall) (r : TradeRequest) : Prop :=
  ∀ pl trader allowed, r = .accept pl allowed → w.Passes om pl trader allowed →
    if w.bothHaveRoom om pl trader then Exchanged om w (w.tradeStep om r) pl trader
    else (w.tradeStep om r).inv.shelf = w.inv.shelf

/-- The operations in between keep the inventories in order, and an exchange meets no slot that
`moveItems` mixes up. -/
def HeedfulTrade (om : ObjectMgr) (w : TradeHall) : TradeRequest → Prop
  | .accept pl allowed => ∀ trader, w.Passes om pl trader allowed → w.bothHaveRoom om pl trader = true →
    RoundsFine om pl trader (w.rounds pl trader) (w.withoutOffers pl trader)
  | .inventory t => t.InOrder om
  | .purse _ amount => amount ≤ maxMoneyAmount
  | _ => True

/-! ### The offers -/

section
variable {om : ObjectMgr} {w : TradeHall} {pl a b : Nat} {allowed : Nat → Bool}

theorem shelf_unmarked (w : TradeHall) (a b : Nat) : (w.unmarked a b).shelf = w.inv.shelf := by
  unfold unmarked
  rw [shelf_setInTrade, shelf_setInTrade, shelf_setInTrade, shelf_setInTrade]

theorem rounds_eq (w : TradeHall) (a b : Nat) :
    w.rounds a b = (List.range tradeSlotTradedCount).map fun i => (w.offered a i, w.offered b i) := by
  unfold rounds offers
  rw [List.zip_map']

theorem rounds_fst (w : TradeHall) (a b : Nat) : (w.rounds a b).map Prod.fst = w.offers a := by
  rw [rounds_eq, List.map_map]; rfl

theorem rounds_snd (w : TradeHall) (a b : Nat) : (w.rounds a b).map Prod.snd = w.offers b := by
  rw [rounds_eq, List.map_map]; rfl

theorem mem_offeredIn_rounds (w : TradeHall) (a b g : Nat) :
    g ∈ offeredIn (w.rounds a b) ↔ some g ∈ w.offers a ∨ some g ∈ w.offers b := by
  rw [rounds_eq]
  simp only [offeredIn, offers, List.mem_flatMap, List.mem_map, List.mem_append, Option.mem_toList]
  constructor
  · rintro ⟨r, ⟨i, hi, rfl⟩, h | h⟩
    · exact Or.inl ⟨i, hi, h⟩
    · exact Or.inr ⟨i, hi, h⟩
  · rintro (⟨i, hi, h⟩ | ⟨i, hi, h⟩)
    · exact ⟨_, ⟨i, hi, rfl⟩, Or.inl h⟩
    · exact ⟨_, ⟨i, hi, rfl⟩, Or.inr h⟩

theorem offered_eq_some {i g : Nat} (h : w.offered pl i = some g) :
    (w.traders pl).tradeItems i = some g ∧ w.inv.getItemByGuid pl g = some g := by
  unfold offered at h
  split at h
  · cases h
  · next guid hguid =>
    obtain ⟨rfl, -⟩ := PostOffice.getItemByGuid_eq_some w.inv pl guid g h
    exact ⟨hguid, h⟩

theorem Sound.offered_inj (hw : w.Sound om) (p q i j g : Nat) (hi : i < tradeSlotTradedCount)
    (hj : j < tradeSlotTradedCount) (h : w.offered p i = some g) (h' : w.offered q j = some g) : p = q ∧ i = j := by
  obtain ⟨h1, h2⟩ := offered_eq_some h
  obtain ⟨h1', h2'⟩ := offered_eq_some h'
  obtain ⟨-, B, S, hat⟩ := PostOffice.getItemByGuid_eq_some w.inv p g g h2
  obtain ⟨-, B', S', hat'⟩ := PostOffice.getItemByGuid_eq_some w.inv q g g h2'
  obtain ⟨rfl, -⟩ := hw.inOrder.orderly.itemAt_inj p B S q B' S' g hat hat'
  exact ⟨rfl, hw.once p i j g (Nat.lt_succ_of_lt hi) (Nat.lt_succ_of_lt hj) h1 h1'⟩

theorem nodup_toList (o : Option Nat) : o.toList.Nodup := by
  cases o <;> simp

theorem Sound.rounds_nodup (hw : w.Sound om) (hab : a ≠ b) : (offeredIn (w.rounds a b)).Nodup := by
  rw [rounds_eq]
  unfold offeredIn
  rw [List.flatMap_map, List.nodup_flatMap]
  have hmem : ∀ i g, g ∈ (w.offered a i).toList ++ (w.offered b i).toList →
      ∃ p, (p = a ∨ p = b) ∧ w.offered p i = some g := by
    intro i g hg
    rcases List.mem_append.1 hg with hg | hg
    · exact ⟨a, Or.inl rfl, Option.mem_toList.1 hg⟩
    · exact ⟨b, Or.inr rfl, Option.mem_toList.1 hg⟩
  refine ⟨fun i hi => ?_, ?_⟩
  · rw [List.nodup_append]
    refine ⟨nodup_toList _, nodup_toList _, fun g hg g' hg' he => ?_⟩
    subst he
    exact hab (hw.offered_inj a b i i g (List.mem_range.1 hi) (List.mem_range.1 hi) (Option.mem_toList.1 hg)
      (Option.mem_toList.1 hg')).1
  · refine List.Pairwise.imp_of_mem (fun {i j} hi hj hij => ?_) List.nodup_range
    intro g hg hg'
    obtain ⟨p, -, hp⟩ := hmem i g hg
    obtain ⟨q, -, hq⟩ := hmem j g hg'
    exact hij (hw.offered_inj p q i j g (List.mem_range.1 hi) (List.mem_range.1 hj) hp hq).2

theorem Sound.carried (hw : w.Sound om) {i g : Nat} (h : w.offered pl i = some g)
    (hcan : w.inv.itemCanBeTraded om g = true) : (w.unmarked a b).Carried pl g := by
  have hsh := shelf_unmarked w a b
  obtain ⟨-, hfound⟩ := offered_eq_some h
  obtain ⟨-, B, S, hat⟩ := PostOffice.getItemByGuid_eq_some w.inv pl g g hfound
  refine ⟨getItemByGuid_mono hfound fun B' S' hat' => ?_, ?_⟩
  · rw [getItemByPos_shelf, hsh]
    exact hat'
  · rw [hsh]
    refine PostOffice.empty_of_canAttach w.inv hw.inOrder pl B S g hat ?_
    rintro ⟨hbag, hempty⟩
    unfold itemCanBeTraded at hcan
    simp [hbag, hempty] at hcan

theorem Sound.rounds_carried (hw : w.Sound om) (hs : w.offersStand om a b allowed = true) :
    ∀ r ∈ w.rounds a b, (∀ g, r.1 = some g → (w.unmarked a b).Carried a g) ∧
      ∀ g, r.2 = some g → (w.unmarked a b).Carried b g := by
  intro r hr
  rw [rounds_eq] at hr
  obtain ⟨i, hi, rfl⟩ := List.mem_map.1 hr
  have hall := List.all_eq_true.1 hs i hi
  obtain ⟨h1, h2⟩ := Bool.and_eq_true_iff.1 hall
  refine ⟨fun g hg => ?_, fun g hg => ?_⟩
  · have hg' : w.offered a i = some g := hg
    rw [hg'] at h1
    exact hw.carried hg' (Bool.and_eq_true_iff.1 h1).1
  · have hg' : w.offered b i = some g := hg
    rw [hg'] at h2
    exact hw.carried hg' (Bool.and_eq_true_iff.1 h2).1

theorem unitsOffered_shelf {s t : Holdings} (h : s.shelf = t.shelf) (e : Nat) (items : List (Option Nat)) :
    s.unitsOffered e items = t.unitsOffered e items := by
  unfold unitsOffered
  rw [h]

/-! ### One exchange -/

theorem offers_setAccept (w : TradeHall) (pl : Nat) (v : Bool) : (w.setAccept pl v).offers = w.offers := by
  funext p
  have hitems : ((w.setAccept pl v).traders p).tradeItems = (w.traders p).tradeItems :=
    modifyTrader_keeps Trader.tradeItems _ p rfl
  unfold offers
  congr 1
  funext i
  unfold offered
  rw [hitems]
  rfl

theorem unmarked_setAccept (w : TradeHall) (pl a b : Nat) (v : Bool) :
    (w.setAccept pl v).unmarked a b = w.unmarked a b := by
  unfold unmarked
  rw [offers_setAccept]
  rfl

theorem rounds_setAccept (w : TradeHall) (pl a b : Nat) (v : Bool) :
    (w.setAccept pl v).rounds a b = w.rounds a b := by
  unfold rounds
  rw [offers_setAccept]

theorem bothHaveRoom_setAccept (om : ObjectMgr) (w : TradeHall) (pl a b : Nat) (v : Bool) :
    (w.setAccept pl v).bothHaveRoom om a b = w.bothHaveRoom om a b := by
  unfold bothHaveRoom
  rw [offers_setAccept]
  rfl

theorem inv_executeTrade (om : ObjectMgr) (w : TradeHall) (a b : Nat) :
    ((w.setAccept a true).executeTrade om a b).inv = moveItems om a b (w.rounds a b) (w.withoutOffers a b) := by
  show moveItems om a b ((w.setAccept a true).rounds a b)
    (removeOffers a b ((w.setAccept a true).rounds a b) ((w.setAccept a true).unmarked a b)) = _
  rw [rounds_setAccept, unmarked_setAccept]
  rfl

theorem handleAcceptTrade_of_passes {trader : Nat} (hp : w.Passes om pl trader allowed) :
    w.handleAcceptTrade om pl allowed =
      if w.bothHaveRoom om pl trader then (w.setAccept pl true).executeTrade om pl trader
      else { w.setAccept pl true with inv := w.unmarked pl trader } := by
  unfold handleAcceptTrade
  rw [hp.partner]
  simp only
  rw [if_neg (Nat.not_lt.2 hp.gold), if_neg (Nat.not_lt.2 hp.hisGold), hp.stand, if_neg (by decide), hp.accepted,
    if_neg (by decide), bothHaveRoom_setAccept, unmarked_setAccept]
  cases w.bothHaveRoom om pl trader <;> rfl

theorem owner_of_settled {t : Holdings} (hin : t.InOrder om) {q g : Nat} (hs : t.shelf.Settled q g) :
    (t.items g).owner = q := by
  rcases hs with ⟨B, S, hat⟩ | ⟨-, -, -, hown⟩
  · exact (hin.orderly.itemAt_back q B S g hat).2.1
  · exact hown

/-- **An exchange over fine slots** keeps the units, the slots and the owners right. -/
theorem Sound.exchanged (hw : w.Sound om) (hab : a ≠ b) (hs : w.offersStand om a b allowed = true)
    (hf : RoundsFine om a b (w.rounds a b) (w.withoutOffers a b)) (t : TradeHall)
    (ht : t.inv = moveItems om a b (w.rounds a b) (w.withoutOffers a b)) :
    t.inv.InOrder om ∧ Exchanged om w t a b := by
  have hsh := shelf_unmarked w a b
  have hnd := hw.rounds_nodup hab
  have hgave : GaveAll om (w.unmarked a b) (w.withoutOffers a b) a b (w.rounds a b) :=
    removeOffers_gaveAll (w.rounds a b) (w.unmarked a b) (hw.inOrder.congr hsh) hnd (hw.rounds_carried hs)
  have hdone := moveItems_done hab (w.rounds a b) (w.withoutOffers a b) hgave.inOrder hnd hgave.spare hf
  rw [← ht] at hdone
  have hpos : ∀ p B S, (w.unmarked a b).getItemByPos p B S = w.inv.getItemByPos p B S := fun p B S => by
    rw [getItemByPos_shelf, hsh]; rfl
  have htot : ∀ p e, (w.withoutOffers a b).shelf.total p e +
      (if p = a then w.inv.unitsOffered e (w.offers a) else 0) +
      (if p = b then w.inv.unitsOffered e (w.offers b) else 0) = w.inv.shelf.total p e := by
    intro p e
    have := hgave.total p e
    rw [rounds_fst, rounds_snd, unitsOffered_shelf hsh, unitsOffered_shelf hsh, hsh] at this
    exact this
  have hunits : ∀ e items, (w.withoutOffers a b).unitsOffered e items = w.inv.unitsOffered e items := fun e items =>
    (unitsOffered_congr hgave.same e items).trans (unitsOffered_shelf hsh e items)
  refine ⟨hdone.inOrder, fun e => ?_, fun p e hp hq => ?_, fun p B S i hi hi' hat => ?_, fun i hi => ?_,
    fun p B S p' B' S' i h1 h2 => hdone.inOrder.orderly.itemAt_inj p B S p' B' S' i h1 h2, fun hall i => ?_⟩
  · have ea := htot a e
    have eb := htot b e
    have hboth := hdone.both e
    rw [rounds_fst, rounds_snd, hunits, hunits] at hboth
    rw [if_pos rfl, if_neg hab] at ea
    rw [if_neg hab.symm, if_pos rfl] at eb
    omega
  · have ep := htot p e
    rw [if_neg hp, if_neg hq, Nat.add_zero] at ep
    rw [hdone.apart p e hp hq]
    exact ep
  · refine hdone.stays p B S i (hgave.stays p B S i ?_ ((hpos p B S).trans hat))
    rw [mem_offeredIn_rounds, not_or]
    exact ⟨hi, hi'⟩
  · rcases hdone.settled i ((mem_offeredIn_rounds w a b i).2 hi) with hset | hset
    · rcases hset with ⟨B, S, hat⟩ | ⟨-, -, hgone, -⟩
      · exact Or.inl ⟨a, B, S, Or.inl rfl, hat⟩
      · exact Or.inr hgone
    · rcases hset with ⟨B, S, hat⟩ | ⟨-, -, hgone, -⟩
      · exact Or.inl ⟨b, B, S, Or.inr rfl, hat⟩
      · exact Or.inr hgone
  · obtain ⟨h1, h2⟩ := hdone.handed hall i
    rw [rounds_fst] at h1
    rw [rounds_snd] at h2
    exact ⟨fun hi => owner_of_settled hdone.inOrder (h1 hi), fun hi => owner_of_settled hdone.inOrder (h2 hi)⟩

/-! ### The invariant -/

theorem Once.of_keeps {t : TradeHall} (hw : w.Once) (h : ∀ p, (t.traders p).tradeItems = (w.traders p).tradeItems) :
    t.Once := by
  intro p i j g
  rw [h]
  exact hw p i j g

theorem Once.modifyTrader (hw : w.Once) (f : Trader → Trader)
    (ho : ∀ i j g, i < tradeSlotCount → j < tradeSlotCount → (f (w.traders pl)).tradeItems i = some g →
      (f (w.traders pl)).tradeItems j = some g → i = j) : (w.modifyTrader pl f).Once := by
  intro p i j g
  by_cases hpp : p = pl
  · rw [hpp, modifyTrader_self]
    exact ho i j g
  · rw [modifyTrader_of_ne f hpp]
    exact hw p i j g

theorem Once.setAccept (hw : w.Once) (pl : Nat) (v : Bool) : (w.setAccept pl v).Once :=
  hw.of_keeps fun p => modifyTrader_keeps Trader.tradeItems _ p rfl

theorem Once.clearTrade (hw : w.Once) (pl : Nat) : (w.clearTrade pl).Once :=
  hw.modifyTrader _ fun _ _ _ _ _ h => (nomatch h)

theorem Once.part (hw : w.Once) (a b : Nat) : (w.part a b).Once :=
  hw.of_keeps fun p => part_keeps Trader.tradeItems (fun _ => rfl) w a b p

theorem Once.sendUpdateTrade (hw : w.Once) (pl : Nat) : (w.sendUpdateTrade pl).Once := by
  unfold TradeHall.sendUpdateTrade
  split
  · exact hw
  · exact (hw.setAccept pl false).setAccept _ false

theorem Once.handleSetTradeItem (hw : w.Once) (pl tradeSlot bag slot : Nat) (allowed : Nat → Bool) :
    (w.handleSetTradeItem om pl tradeSlot bag slot allowed).Once := by
  unfold TradeHall.handleSetTradeItem
  split
  · next trader item htr hitem =>
    split
    · exact hw
    split
    · exact hw
    split
    · exact hw
    next hnew =>
    refine Once.sendUpdateTrade (hw.modifyTrader _ fun i j g hi hj h1 h2 => ?_) trader
    have hfree : ∀ k < tradeSlotCount, (w.traders pl).tradeItems k ≠ some item := by
      intro k hk he
      exact hnew (List.any_eq_true.2 ⟨k, List.mem_range.2 hk, by simp [he]⟩)
    simp only at h1 h2
    by_cases hi' : i = tradeSlot
    · by_cases hj' : j = tradeSlot
      · rw [hi', hj']
      · rw [hi', Function.update_self] at h1
        rw [Function.update_of_ne hj'] at h2
        exact absurd (h2.trans h1.symm) (hfree j hj)
    · rw [Function.update_of_ne hi'] at h1
      by_cases hj' : j = tradeSlot
      · rw [hj', Function.update_self] at h2
        exact absurd (h1.trans h2.symm) (hfree i hi)
      · rw [Function.update_of_ne hj'] at h2
        exact hw pl i j g hi hj h1 h2
  · exact hw

theorem Once.handleClearTradeItem (hw : w.Once) (pl tradeSlot : Nat) : (w.handleClearTradeItem pl tradeSlot).Once := by
  unfold TradeHall.handleClearTradeItem
  split
  · exact hw
  · next trader htr =>
    split
    · exact hw
    refine Once.sendUpdateTrade (hw.modifyTrader _ fun i j g hi hj h1 h2 => ?_) trader
    simp only at h1 h2
    have hold : ∀ k, Function.update (w.traders pl).tradeItems tradeSlot none k = some g →
        (w.traders pl).tradeItems k = some g := by
      intro k hk
      by_cases hks : k = tradeSlot
      · rw [hks, Function.update_self] at hk
        cases hk
      · rwa [Function.update_of_ne hks] at hk
    exact hw pl i j g hi hj (hold i h1) (hold j h2)

theorem Once.close (hw : w.Once) (a b : Nat) : (((w.clearTrade a).clearTrade b).part a b).Once :=
  ((hw.clearTrade a).clearTrade b).part a b

theorem Once.tradeStep (hw : w.Once) (r : TradeRequest) : (w.tradeStep om r).Once := by
  cases r with
  | initiate pl pOther allowed =>
    show (w.handleInitiateTrade pl pOther allowed).Once
    unfold handleInitiateTrade
    split
    · exact hw
    · exact hw.of_keeps fun p =>
        (modifyTrader_keeps Trader.tradeItems _ p rfl).trans (modifyTrader_keeps Trader.tradeItems _ p rfl)
  | begin pl =>
    show (w.handleBeginTrade pl).Once
    unfold handleBeginTrade
    split
    · exact hw
    · exact (hw.clearTrade _).clearTrade pl
  | busy pl => exact hw
  | ignore pl => exact hw
  | cancel pl =>
    show (w.tradeCancel pl).Once
    unfold tradeCancel
    split
    · exact hw
    · exact hw.close pl _
  | logout pl =>
    show (w.tradeCancel pl).Once
    unfold tradeCancel
    split
    · exact hw
    · exact hw.close pl _
  | setGold pl gold =>
    show (w.handleSetTradeGold pl gold).Once
    unfold handleSetTradeGold
    split
    · exact hw
    · exact Once.sendUpdateTrade (hw.of_keeps fun p => modifyTrader_keeps Trader.tradeItems _ p rfl) _
  | setItem pl tradeSlot bag slot allowed => exact hw.handleSetTradeItem pl tradeSlot bag slot allowed
  | clearItem pl tradeSlot => exact hw.handleClearTradeItem pl tradeSlot
  | unaccept pl =>
    show (w.handleUnacceptTrade pl).Once
    unfold handleUnacceptTrade
    split
    · exact hw
    · exact hw.setAccept pl false
  | accept pl allowed =>
    show (w.handleAcceptTrade om pl allowed).Once
    unfold handleAcceptTrade
    split
    · exact hw
    simp only
    split_ifs
    · exact hw.setAccept pl false
    · exact hw.setAccept _ false
    · exact hw
    · exact hw.setAccept pl true
    · exact hw.setAccept pl true
    · exact Once.close (w := payTrade { w.setAccept pl true with inv := _ } pl _) (hw.setAccept pl true) pl _
  | inventory t => exact hw
  | purse pl amount => exact hw

/-- What a step leaves of the inventories and the purses. -/
structure Goods (om : ObjectMgr) (t : TradeHall) : Prop where
  inOrder : t.inv.InOrder om
  purses : ∀ p, t.money p ≤ maxMoneyAmount

theorem Sound.goods (hw : w.Sound om) {t : TradeHall} (hi : t.inv = w.inv) (hm : t.money = w.money) : t.Goods om :=
  ⟨by rw [hi]; exact hw.inOrder, by rw [hm]; exact hw.purses⟩

theorem Sound.goods_sendUpdateTrade (hw : w.Sound om) (t : TradeHall) (pl : Nat) (hi : t.inv = w.inv)
    (hm : t.money = w.money) : (t.sendUpdateTrade pl).Goods om := by
  unfold sendUpdateTrade
  split
  · exact hw.goods hi hm
  · exact hw.goods hi hm

theorem Sound.purses_payTrade (hw : w.Sound om) (t : TradeHall) (ht : t.money = w.money)
    (ha : (t.traders a).tradeGold ≤ w.money a) (hb : (t.traders b).tradeGold ≤ w.money b) (p : Nat) :
    (t.payTrade a b).money p ≤ maxMoneyAmount := by
  have hpa := hw.purses a
  have hpb := hw.purses b
  rw [← ht] at ha hb hpa hpb
  show Function.update (Function.update t.money a _) b _ p ≤ _
  by_cases hp : p = b
  · rw [hp, Function.update_self, modifyMoney_pay _ _ hb hpb, modifyMoney_receive _ _ (by omega) (by omega)]
    exact Nat.min_le_right _ _
  · rw [Function.update_of_ne hp]
    by_cases hp' : p = a
    · rw [hp', Function.update_self, modifyMoney_pay _ _ ha hpa, modifyMoney_receive _ _ (by omega) (by omega)]
      exact Nat.min_le_right _ _
    · rw [Function.update_of_ne hp', ht]
      exact hw.purses p

theorem Sound.goods_executeTrade (hw : w.Sound om) (hp : w.Passes om a b allowed)
    (hf : RoundsFine om a b (w.rounds a b) (w.withoutOffers a b)) :
    ((w.setAccept a true).executeTrade om a b).Goods om := by
  obtain ⟨hab, -⟩ := hw.paired.partners a b hp.partner
  have hgold : ∀ p, ((w.setAccept a true).traders p).tradeGold = (w.traders p).tradeGold := fun p =>
    modifyTrader_keeps Trader.tradeGold _ p rfl
  refine ⟨(hw.exchanged hab hp.stand hf _ (inv_executeTrade om w a b)).1, fun p => ?_⟩
  exact hw.purses_payTrade { w.setAccept a true with inv := _ } rfl ((hgold a).trans_le hp.gold)
    ((hgold b).trans_le hp.hisGold) p

/-! ### Runs -/

theorem Sound.goods_handleAcceptTrade (hw : w.Sound om) (h : w.HeedfulTrade om (.accept pl allowed)) :
    (w.handleAcceptTrade om pl allowed).Goods om := by
  by_cases hpass : ∃ trader, w.Passes om pl trader allowed
  · obtain ⟨trader, hp⟩ := hpass
    rw [handleAcceptTrade_of_passes hp]
    split
    · next hroom => exact hw.goods_executeTrade hp (h trader hp hroom)
    · exact ⟨hw.inOrder.congr (shelf_unmarked w pl trader), hw.purses⟩
  · unfold TradeHall.handleAcceptTrade
    split
    · exact hw.goods rfl rfl
    next trader htr =>
    simp only
    split_ifs with hgold hhis hstand hacc hroom
    · exact hw.goods rfl rfl
    · exact hw.goods rfl rfl
    · exact hw.goods rfl rfl
    · exact hw.goods rfl rfl
    all_goals
      exact absurd ⟨trader, htr, Nat.not_lt.1 hgold, Nat.not_lt.1 hhis, by simpa using hstand, by simpa using hacc⟩
        hpass

theorem Sound.goods_tradeStep (hw : w.Sound om) {r : TradeRequest} (h : w.HeedfulTrade om r) :
    (w.tradeStep om r).Goods om := by
  cases r with
  | initiate pl pOther allowed =>
    show (w.handleInitiateTrade pl pOther allowed).Goods om
    unfold handleInitiateTrade
    split <;> exact hw.goods rfl rfl
  | begin pl =>
    show (w.handleBeginTrade pl).Goods om
    unfold handleBeginTrade
    split <;> exact hw.goods rfl rfl
  | busy pl => exact hw.goods rfl rfl
  | ignore pl => exact hw.goods rfl rfl
  | cancel pl =>
    show (w.tradeCancel pl).Goods om
    unfold tradeCancel
    split <;> exact hw.goods rfl rfl
  | logout pl =>
    show (w.tradeCancel pl).Goods om
    unfold tradeCancel
    split <;> exact hw.goods rfl rfl
  | setGold pl gold =>
    show (w.handleSetTradeGold pl gold).Goods om
    unfold handleSetTradeGold
    split
    · exact hw.goods rfl rfl
    · exact hw.goods_sendUpdateTrade _ _ rfl rfl
  | setItem pl tradeSlot bag slot allowed =>
    show (w.handleSetTradeItem om pl tradeSlot bag slot allowed).Goods om
    unfold handleSetTradeItem
    split
    · split_ifs
      · exact hw.goods rfl rfl
      · exact hw.goods rfl rfl
      · exact hw.goods rfl rfl
      · exact hw.goods_sendUpdateTrade _ _ rfl rfl
    · exact hw.goods rfl rfl
  | clearItem pl tradeSlot =>
    show (w.handleClearTradeItem pl tradeSlot).Goods om
    unfold handleClearTradeItem
    split
    · exact hw.goods rfl rfl
    · split
      · exact hw.goods rfl rfl
      · exact hw.goods_sendUpdateTrade _ _ rfl rfl
  | unaccept pl =>
    show (w.handleUnacceptTrade pl).Goods om
    unfold handleUnacceptTrade
    split <;> exact hw.goods rfl rfl
  | accept pl allowed => exact hw.goods_handleAcceptTrade h
  | inventory t => exact ⟨h, hw.purses⟩
  | purse pl amount =>
    refine ⟨hw.inOrder, fun p => ?_⟩
    show Function.update w.money pl amount p ≤ _
    by_cases hp : p = pl
    · rw [hp, Function.update_self]
      exact h
    · rw [Function.update_of_ne hp]
      exact hw.purses p

theorem Sound.tradeStep (hw : w.Sound om) {r : TradeRequest} (h : w.HeedfulTrade om r) : (w.tradeStep om r).Sound om :=
  have hg := hw.goods_tradeStep h
  ⟨hg.inOrder, hw.paired.tradeStep r, hw.once.tradeStep r, hg.purses⟩

theorem Sound.keepsTrade (hw : w.Sound om) {r : TradeRequest} (h : w.HeedfulTrade om r) : w.KeepsTrade om r := by
  rintro pl trader allowed rfl hp
  obtain ⟨hne, -⟩ := hw.paired.partners pl trader hp.partner
  show if _ then Exchanged om w (w.handleAcceptTrade om pl allowed) pl trader
    else (w.handleAcceptTrade om pl allowed).inv.shelf = _
  rw [handleAcceptTrade_of_passes hp]
  split
  · next hroom =>
    exact (hw.exchanged hne hp.stand (h trader hp hroom) _ (inv_executeTrade om w pl trader)).2
  · exact shelf_unmarked w pl trader

end

/-- Entry 3 comes in stacks of five, and nobody may have more than twelve. -/
def limitedMgr : ObjectMgr where
  getItemPrototype entry :=
    if entry = 3 then some (loadItemPrototype { itemId := 3, stackable := 5, maxCount := 12 }) else none
  itemId_eq := by
    intro entry proto hp
    split at hp
    · next he => obtain rfl := Option.some.inj hp; exact he.symm
    · cases hp

/-- Player 1 has two of the stacks, player 2 one. -/
def limitedHall : TradeHall where
  inv :=
    { nextGuid := 8
      items := fun g =>
        if g = 5 then { live := true, entry := 3, count := 5, owner := 1, slot := 23 }
        else if g = 6 then { live := true, entry := 3, count := 5, owner := 1, slot := 24 }
        else if g = 7 then { live := true, entry := 3, count := 5, owner := 2, slot := 23 }
        else {}
      slots := fun p s =>
        if p = 1 ∧ s = 23 then some 5 else if p = 1 ∧ s = 24 then some 6 else if p = 2 ∧ s = 23 then some 7 else none }

theorem limitedHall_sound : limitedHall.Sound limitedMgr := by
  have hslots : ∀ p q i, limitedHall.inv.shelf.slots p q = some i →
      (p = 1 ∧ q = 23 ∧ i = 5) ∨ (p = 1 ∧ q = 24 ∧ i = 6) ∨ (p = 2 ∧ q = 23 ∧ i = 7) := by
    intro p q i hs
    simp only [shelf, limitedHall] at hs
    split at hs
    · next h => exact Or.inl ⟨h.1, h.2, (Option.some.inj hs).symm⟩
    split at hs
    · next h => exact Or.inr (Or.inl ⟨h.1, h.2, (Option.some.inj hs).symm⟩)
    split at hs
    · next h => exact Or.inr (Or.inr ⟨h.1, h.2, (Option.some.inj hs).symm⟩)
    · cases hs
  refine ⟨⟨Shelf.orderly_of_empty _ ?_ ?_ ?_, ?_, ?_⟩,
    ⟨fun _ _ h => (by cases h), fun _ _ => ⟨fun _ => rfl, rfl⟩⟩, fun _ _ _ _ _ _ h => (by cases h),
    fun _ => Nat.zero_le _⟩
  · intro i j
    simp only [shelf, limitedHall, Item.goods]
    split_ifs <;> rfl
  · intro i
    simp only [shelf, limitedHall, Item.goods]
    split_ifs <;> rfl
  · intro p q i hs
    obtain ⟨rfl, rfl, rfl⟩ | ⟨rfl, rfl, rfl⟩ | ⟨rfl, rfl, rfl⟩ := hslots p q i hs
    all_goals exact ⟨by decide, ⟨rfl, by decide, _, rfl, by decide, by decide, by decide⟩, rfl, rfl⟩
  · intro p q i hbag hs
    obtain ⟨-, rfl, -⟩ | ⟨-, rfl, -⟩ | ⟨-, rfl, -⟩ := hslots p q i hs <;> exact absurd hbag (by decide)
  · intro p q i hs
    obtain ⟨-, -, rfl⟩ | ⟨-, -, rfl⟩ | ⟨-, -, rfl⟩ := hslots p q i hs <;> rfl

/-- Both stacks are offered and both flags set. -/
def limitedTrade : List TradeRequest :=
  [.initiate 1 2 true, .begin 2, .setItem 1 0 255 23 fun _ => true, .setItem 1 1 255 24 fun _ => true,
    .accept 2 fun _ => true]

end TradeHall

end BlizzLike
