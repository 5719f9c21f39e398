import BlizzLikeCore.Trade.Exchange

/-!
# The gold of a trade

An accepted offer is never more than its owner has, so he can pay it; what he is paid can take his purse to
`MAX_MONEY_AMOUNT`, where `ModifyMoney` keeps it.  What a purse would hold above that is lost (`gold_exchanged`).
-/

namespace BlizzLike

namespace TradeHall

variable {om : ObjectMgr} {w : TradeHall} {a b : Nat} {allowed : Nat → Bool}

/-- A trader's purse less what he gives, with what he is given. -/
def settled (w : TradeHall) (pl trader : Nat) : Nat :=
  w.money pl - (w.traders pl).tradeGold + (w.traders trader).tradeGold

/-- **The law** for the gold of a trade. -/
structure GoldExchanged (w t : TradeHall) (a b : Nat) : Prop where
  mine : t.money a = min (w.settled a b) maxMoneyAmount
  his : t.money b = min (w.settled b a) maxMoneyAmount
  others : ∀ p, p ≠ a → p ≠ b → t.money p = w.money p
  /-- What both have changes by what is above the limit. -/
  both : t.money a + t.money b + (w.settled a b - maxMoneyAmount) + (w.settled b a - maxMoneyAmount) =
    w.money a + w.money b

theorem pay_receive {money gold his : Nat} (hm : money ≤ maxMoneyAmount) (hgold : gold ≤ money)
    (hhis : his ≤ maxMoneyAmount) :
    modifyMoney (modifyMoney money (-toInt32 gold)) (toInt32 his) = min (money - gold + his) maxMoneyAmount := by
  rw [modifyMoney_pay money gold hgold hm]
  exact modifyMoney_receive (money - gold) his (by omega) hhis

theorem payTrade_goldExchanged (hab : a ≠ b) (hpurses : ∀ p, w.money p ≤ maxMoneyAmount)
    (ha : (w.traders a).tradeGold ≤ w.money a) (hb : (w.traders b).tradeGold ≤ w.money b) :
    GoldExchanged w (w.payTrade a b) a b := by
  have hma := hpurses a
  have hmb := hpurses b
  have hmine : (w.payTrade a b).money a = min (w.settled a b) maxMoneyAmount := by
    unfold payTrade settled
    dsimp only
    rw [Function.update_of_ne hab, Function.update_self]
    exact pay_receive hma ha (by omega)
  have hhis : (w.payTrade a b).money b = min (w.settled b a) maxMoneyAmount := by
    unfold payTrade settled
    dsimp only
    rw [Function.update_self]
    exact pay_receive hmb hb (by omega)
  refine ⟨hmine, hhis, fun p hpa hpb => ?_, ?_⟩
  · unfold payTrade
    exact (Function.update_of_ne hpb ..).trans (Function.update_of_ne hpa ..)
  · rw [hmine, hhis]
    unfold settled
    omega

theorem money_executeTrade (om : ObjectMgr) (w : TradeHall) (a b : Nat) :
    (w.executeTrade om a b).money = (w.payTrade a b).money := rfl

/-- **A trade that is completed** takes each purse to what it had, less the offer given, with the offer received, up
to the limit. -/
theorem gold_exchanged (om : ObjectMgr) (w : TradeHall) (pl trader : Nat) (allowed : Nat → Bool) (hw : w.Paired)
    (hpurses : ∀ p, w.money p ≤ maxMoneyAmount) (hp : w.Passes om pl trader allowed)
    (hroom : w.bothHaveRoom om pl trader = true) :
    GoldExchanged w (w.handleAcceptTrade om pl allowed) pl trader := by
  obtain ⟨hne, -⟩ := hw.partners pl trader hp.partner
  have hgold : ∀ p, ((w.setAccept pl true).traders p).tradeGold = (w.traders p).tradeGold := fun p =>
    modifyTrader_keeps Trader.tradeGold _ p rfl
  have hsettled : ∀ p q, (w.setAccept pl true).settled p q = w.settled p q := by
    intro p q
    unfold settled
    rw [hgold, hgold]
    rfl
  have hpay := payTrade_goldExchanged (w := w.setAccept pl true) hne hpurses ((hgold pl).trans_le hp.gold)
    ((hgold trader).trans_le hp.hisGold)
  rw [handleAcceptTrade_of_passes hp, if_pos hroom]
  refine ⟨?_, ?_, hpay.others, ?_⟩
  · rw [money_executeTrade, hpay.mine, hsettled]
  · rw [money_executeTrade, hpay.his, hsettled]
  · rw [money_executeTrade, ← hsettled pl trader, ← hsettled trader pl]
    exact hpay.both

/-! ## Two offers of gold -/

def noItemsMgr : ObjectMgr where
  getItemPrototype := fun _ => none
  itemId_eq := fun _ _ h => nomatch h

/-- Player 1 has accepted already, and is given the gold of player 2 for his own. -/
def goldHall (purse : Nat) : TradeHall where
  money := fun p => if p = 1 then purse else 10
  traders := fun p =>
    if p = 1 then { pTrader := some 2, acceptTrade := true, tradeGold := 3 }
    else if p = 2 then { pTrader := some 1, tradeGold := 10 }
    else {}

theorem goldHall_paired (purse : Nat) : (goldHall purse).Paired := by
  refine ⟨fun a b hab => ?_, fun p hp => ?_⟩
  · unfold goldHall at hab ⊢
    by_cases ha : a = 1
    · subst ha
      obtain rfl : 2 = b := Option.some.inj hab
      exact ⟨by decide, rfl⟩
    by_cases ha' : a = 2
    · subst ha'
      obtain rfl : 1 = b := Option.some.inj hab
      exact ⟨by decide, rfl⟩
    · simp [ha, ha'] at hab
  · unfold goldHall at hp ⊢
    by_cases hp1 : p = 1
    · simp [hp1] at hp
    by_cases hp2 : p = 2
    · simp [hp2] at hp
    · simp only [hp1, hp2, if_false]
      exact ⟨fun _ => rfl, rfl⟩

theorem goldHall_passes {purse : Nat} (h : 3 ≤ purse) : (goldHall purse).Passes noItemsMgr 2 1 fun _ => true :=
  ⟨rfl, Nat.le_refl 10, h, rfl, rfl⟩

theorem goldHall_purses {purse : Nat} (h : purse ≤ maxMoneyAmount) (p : Nat) : (goldHall purse).money p ≤ maxMoneyAmount := by
  unfold goldHall
  dsimp only
  split
  · exact h
  · decide

theorem gold_exchanged_sample :
    GoldExchanged (goldHall 100) ((goldHall 100).handleAcceptTrade noItemsMgr 2 fun _ => true) 2 1 :=
  gold_exchanged noItemsMgr (goldHall 100) 2 1 _ (goldHall_paired 100) (goldHall_purses (by decide))
    (goldHall_passes (by decide)) (by decide +kernel)

/-- **A full purse** stays full: it pays 3 and is paid 10, and 7 are lost. -/
theorem full_purse_loses :
    (goldHall maxMoneyAmount).Paired ∧ (goldHall maxMoneyAmount).Passes noItemsMgr 2 1 (fun _ => true) ∧
      (∀ p, (goldHall maxMoneyAmount).money p ≤ maxMoneyAmount) ∧
      (goldHall maxMoneyAmount).bothHaveRoom noItemsMgr 2 1 = true ∧
      ((goldHall maxMoneyAmount).handleAcceptTrade noItemsMgr 2 fun _ => true).money 1 + 7 =
        (goldHall maxMoneyAmount).settled 1 2 ∧
      ((goldHall maxMoneyAmount).handleAcceptTrade noItemsMgr 2 fun _ => true).money 1 +
        ((goldHall maxMoneyAmount).handleAcceptTrade noItemsMgr 2 fun _ => true).money 2 + 7 =
        (goldHall maxMoneyAmount).money 1 + (goldHall maxMoneyAmount).money 2 := by
  refine ⟨goldHall_paired _, goldHall_passes (by decide), goldHall_purses (Nat.le_refl _), ?_⟩
  decide +kernel

end TradeHall

end BlizzLike
