import BlizzLikeCore.Trade.TradeHandler
import BlizzLikeCore.Lib.Transition

/-!
# Who trades with whom

The two ends of a trade are two pointers, set together and cleared together: along every run of
requests `pTrader` is symmetric, and a player without a trader has nothing on offer
(`traders_paired`).
-/

namespace BlizzLike

/-- The requests of the traders; in between the other operations leave the inventories as `t` and a purse
with `amount`. -/
inductive TradeRequest where
  | initiate (pl pOther : Nat) (allowed : Bool)
  | begin (pl : Nat)
  | busy (pl : Nat)
  | ignore (pl : Nat)
  | cancel (pl : Nat)
  | logout (pl : Nat)
  | setGold (pl gold : Nat)
  | setItem (pl tradeSlot bag slot : Nat) (allowed : Nat → Bool)
  | clearItem (pl tradeSlot : Nat)
  | unaccept (pl : Nat)
  | accept (pl : Nat) (allowed : Nat → Bool)
  | inventory (t : Holdings)
  | purse (pl amount : Nat)

/-- Nothing is on offer. -/
structure Trader.NoOffer (t : Trader) : Prop where
  items : ∀ i, t.tradeItems i = none
  gold : t.tradeGold = 0

namespace TradeHall

open Transition (run)

/-- The busy and ignore handlers only log; a logout, like every end of a `Player` object, goes through
`CleanupsBeforeDelete`, which calls `TradeCancel`. -/
def tradeStep (om : ObjectMgr) (w : TradeHall) : TradeRequest → TradeHall
  | .initiate pl pOther allowed => w.handleInitiateTrade pl pOther allowed
  | .begin pl => w.handleBeginTrade pl
  | .busy _ => w
  | .ignore _ => w
  | .cancel pl => w.tradeCancel pl
  | .logout pl => w.tradeCancel pl
  | .setGold pl gold => w.handleSetTradeGold pl gold
  | .setItem pl tradeSlot bag slot allowed => w.handleSetTradeItem om pl tradeSlot bag slot allowed
  | .clearItem pl tradeSlot => w.handleClearTradeItem pl tradeSlot
  | .unaccept pl => w.handleUnacceptTrade pl
  | .accept pl allowed => w.handleAcceptTrade om pl allowed
  | .inventory t => { w with inv := t }
  | .purse pl amount => { w with money := Function.update w.money pl amount }

/-- **The law** for the two ends. -/
structure Paired (w : TradeHall) : Prop where
  partners : ∀ a b, (w.traders a).pTrader = some b → a ≠ b ∧ (w.traders b).pTrader = some a
  alone : ∀ p, (w.traders p).pTrader = none → (w.traders p).NoOffer

/-! ## Changes of one trader -/

section
variable {om : ObjectMgr} {w : TradeHall} {pl a b : Nat}

theorem modifyTrader_self (f : Trader → Trader) : (w.modifyTrader pl f).traders pl = f (w.traders pl) :=
  Function.update_self ..

theorem modifyTrader_of_ne (f : Trader → Trader) {p : Nat} (hp : p ≠ pl) :
    (w.modifyTrader pl f).traders p = w.traders p := Function.update_of_ne hp ..

theorem modifyTrader_keeps {α : Type} (field : Trader → α) (f : Trader → Trader) (p : Nat)
    (hf : field (f (w.traders pl)) = field (w.traders pl)) :
    field ((w.modifyTrader pl f).traders p) = field (w.traders p) := by
  by_cases hp : p = pl
  · rw [hp, modifyTrader_self, hf]
  · rw [modifyTrader_of_ne f hp]

theorem pTrader_clearTrade (w : TradeHall) (p q : Nat) :
    ((w.clearTrade p).traders q).pTrader = (w.traders q).pTrader :=
  modifyTrader_keeps Trader.pTrader _ q rfl

theorem noOffer_clearTrade (w : TradeHall) (p : Nat) : ((w.clearTrade p).traders p).NoOffer := by
  unfold clearTrade
  rw [modifyTrader_self]
  exact ⟨fun _ => rfl, rfl⟩

theorem noOffer_clearTrade_of (w : TradeHall) (p q : Nat) (h : (w.traders q).NoOffer) :
    ((w.clearTrade p).traders q).NoOffer := by
  by_cases hq : q = p
  · rw [hq]
    exact noOffer_clearTrade w p
  · rw [show (w.clearTrade p).traders q = w.traders q from modifyTrader_of_ne _ hq]
    exact h

/-- A change that leaves the partner, of a trader who has one or with no new offer. -/
theorem Paired.modifyTrader (hw : w.Paired) (f : Trader → Trader)
    (hp : (f (w.traders pl)).pTrader = (w.traders pl).pTrader)
    (ho : (w.traders pl).pTrader = none → (f (w.traders pl)).NoOffer) : (w.modifyTrader pl f).Paired := by
  have hpart : ∀ p, ((w.modifyTrader pl f).traders p).pTrader = (w.traders p).pTrader := fun p =>
    modifyTrader_keeps Trader.pTrader f p hp
  refine ⟨fun p q => ?_, fun p hno => ?_⟩
  · rw [hpart, hpart]
    exact hw.partners p q
  · rw [hpart] at hno
    by_cases hpp : p = pl
    · rw [hpp] at hno ⊢
      rw [modifyTrader_self]
      exact ho hno
    · rw [modifyTrader_of_ne f hpp]
      exact hw.alone p hno

theorem Paired.setAccept (hw : w.Paired) (pl : Nat) (v : Bool) : (w.setAccept pl v).Paired :=
  hw.modifyTrader _ rfl fun hno => ⟨(hw.alone pl hno).items, (hw.alone pl hno).gold⟩

theorem Paired.clearTrade (hw : w.Paired) (pl : Nat) : (w.clearTrade pl).Paired :=
  hw.modifyTrader _ rfl fun _ => ⟨fun _ => rfl, rfl⟩

theorem Paired.sendUpdateTrade (hw : w.Paired) (pl : Nat) : (w.sendUpdateTrade pl).Paired := by
  unfold TradeHall.sendUpdateTrade
  split
  · exact hw
  · exact (hw.setAccept pl false).setAccept _ false

theorem Paired.change (hw : w.Paired) {trader : Nat} (htr : (w.traders pl).pTrader = some trader) (f : Trader → Trader)
    (hp : (f (w.traders pl)).pTrader = (w.traders pl).pTrader) :
    ((w.modifyTrader pl f).sendUpdateTrade trader).Paired := by
  refine Paired.sendUpdateTrade (hw.modifyTrader f hp fun hno => ?_) trader
  rw [htr] at hno
  cases hno

/-! ## Beginning and end -/

theorem pTrader_part (w : TradeHall) (a b p : Nat) :
    ((w.part a b).traders p).pTrader = if p = a ∨ p = b then none else (w.traders p).pTrader := by
  unfold part
  by_cases hpa : p = a
  · rw [hpa, modifyTrader_self, if_pos (Or.inl rfl)]
  · rw [modifyTrader_of_ne _ hpa]
    by_cases hpb : p = b
    · rw [hpb, modifyTrader_self, if_pos (Or.inr rfl)]
    · rw [modifyTrader_of_ne _ hpb, if_neg (by tauto)]

theorem part_keeps {α : Type} (field : Trader → α) (hf : ∀ t, field { t with pTrader := none } = field t)
    (w : TradeHall) (a b p : Nat) : field ((w.part a b).traders p) = field (w.traders p) :=
  (modifyTrader_keeps field _ p (hf _)).trans (modifyTrader_keeps field _ p (hf _))

theorem Paired.part (hw : w.Paired) (h : (w.traders a).pTrader = some b) (ha : (w.traders a).NoOffer)
    (hb : (w.traders b).NoOffer) : (w.part a b).Paired := by
  obtain ⟨hab, hba⟩ := hw.partners a b h
  refine ⟨fun p q hpq => ?_, fun p hno => ?_⟩
  · rw [pTrader_part] at hpq
    split at hpq
    · cases hpq
    next hout =>
    obtain ⟨h1, h2⟩ := hw.partners p q hpq
    refine ⟨h1, ?_⟩
    have hq : ¬ (q = a ∨ q = b) := by
      rintro (rfl | rfl)
      · exact hout (Or.inr (Option.some.inj (h2.symm.trans h)))
      · exact hout (Or.inl (Option.some.inj (h2.symm.trans hba)))
    rw [pTrader_part, if_neg hq]
    exact h2
  · have hitems := part_keeps Trader.tradeItems (fun _ => rfl) w a b p
    have hgold := part_keeps Trader.tradeGold (fun _ => rfl) w a b p
    have hold : (w.traders p).NoOffer := by
      rw [pTrader_part] at hno
      split at hno
      · next hin =>
        rcases hin with rfl | rfl
        · exact ha
        · exact hb
      · exact hw.alone p hno
    exact ⟨fun i => by rw [hitems]; exact hold.items i, by rw [hgold]; exact hold.gold⟩

theorem Paired.close (hw : w.Paired) (h : (w.traders a).pTrader = some b) :
    (((w.clearTrade a).clearTrade b).part a b).Paired := by
  refine ((hw.clearTrade a).clearTrade b).part ?_ ?_ ?_
  · rw [pTrader_clearTrade, pTrader_clearTrade]
    exact h
  · exact noOffer_clearTrade_of _ b a (noOffer_clearTrade w a)
  · exact noOffer_clearTrade _ b

theorem Paired.handleInitiateTrade (hw : w.Paired) (pl pOther : Nat) (v : Bool) :
    (w.handleInitiateTrade pl pOther v).Paired := by
  unfold TradeHall.handleInitiateTrade
  split
  · exact hw
  next hno =>
  simp only [not_or, not_not] at hno
  obtain ⟨hpl, hne, hother, -⟩ := hno
  let w1 := w.modifyTrader pl fun t => { t with pTrader := some pOther }
  show (w1.modifyTrader pOther fun t => { t with pTrader := some pl }).Paired
  have hpart : ∀ p, ((w1.modifyTrader pOther fun t => { t with pTrader := some pl }).traders p).pTrader =
      if p = pOther then some pl else if p = pl then some pOther else (w.traders p).pTrader := by
    intro p
    by_cases hpo : p = pOther
    · rw [hpo, modifyTrader_self, if_pos rfl]
    · rw [modifyTrader_of_ne _ hpo, if_neg hpo]
      by_cases hpp : p = pl
      · rw [hpp, if_pos rfl]
        exact congrArg Trader.pTrader (modifyTrader_self _)
      · rw [if_neg hpp]
        exact congrArg Trader.pTrader (modifyTrader_of_ne _ hpp)
  refine ⟨fun p q hpq => ?_, fun p hnone => ?_⟩
  · rw [hpart] at hpq ⊢
    by_cases hpo : p = pOther
    · rw [if_pos hpo] at hpq
      cases hpq
      rw [if_neg (Ne.symm hne), if_pos rfl, hpo]
      exact ⟨hne, rfl⟩
    · rw [if_neg hpo] at hpq
      by_cases hpp : p = pl
      · rw [if_pos hpp] at hpq
        cases hpq
        rw [if_pos rfl, hpp]
        exact ⟨Ne.symm hne, rfl⟩
      · -- the others had other partners, as these two had none
        rw [if_neg hpp] at hpq
        obtain ⟨h1, h2⟩ := hw.partners p q hpq
        have hqo : q ≠ pOther := by
          rintro rfl
          rw [hother] at h2
          cases h2
        have hqp : q ≠ pl := by
          rintro rfl
          rw [hpl] at h2
          cases h2
        rw [if_neg hqo, if_neg hqp]
        exact ⟨h1, h2⟩
  · rw [hpart] at hnone
    split at hnone
    · cases hnone
    next hpo =>
    split at hnone
    · cases hnone
    next hpp =>
    rw [modifyTrader_of_ne _ hpo, show w1.traders p = w.traders p from modifyTrader_of_ne _ hpp]
    exact hw.alone p hnone

/-! ## Steps and runs -/

theorem Paired.tradeCancel (hw : w.Paired) (pl : Nat) : (w.tradeCancel pl).Paired := by
  unfold TradeHall.tradeCancel
  split
  · exact hw
  · next trader htr => exact hw.close htr

theorem Paired.executeTrade (hw : w.Paired) {trader : Nat} (htr : (w.traders pl).pTrader = some trader) :
    (w.executeTrade om pl trader).Paired := by
  unfold TradeHall.executeTrade
  exact Paired.close (w := TradeHall.payTrade { w with inv := _ } pl trader) ⟨hw.partners, hw.alone⟩ htr

theorem Paired.handleAcceptTrade (hw : w.Paired) (pl : Nat) (allowed : Nat → Bool) :
    (w.handleAcceptTrade om pl allowed).Paired := by
  unfold TradeHall.handleAcceptTrade
  split
  · exact hw
  next trader htr =>
  split
  · exact hw.setAccept pl false
  split
  · exact hw.setAccept trader false
  split
  · exact hw
  have hw1 := hw.setAccept pl true
  simp only
  split
  · exact hw1
  split
  · exact ⟨hw1.partners, hw1.alone⟩
  · exact hw1.executeTrade ((modifyTrader_keeps Trader.pTrader _ pl rfl).trans htr)

/-- **Every request keeps the two ends together.** -/
theorem Paired.tradeStep (hw : w.Paired) (r : TradeRequest) : (w.tradeStep om r).Paired := by
  cases r with
  | initiate pl pOther allowed => exact hw.handleInitiateTrade pl pOther allowed
  | begin pl =>
    show (w.handleBeginTrade pl).Paired
    unfold handleBeginTrade
    split
    · exact hw
    · exact (hw.clearTrade _).clearTrade pl
  | busy pl => exact hw
  | ignore pl => exact hw
  | cancel pl => exact hw.tradeCancel pl
  | logout pl => exact hw.tradeCancel pl
  | setGold pl gold =>
    show (w.handleSetTradeGold pl gold).Paired
    unfold handleSetTradeGold
    split
    · exact hw
    · next trader htr => exact hw.change htr _ rfl
  | setItem pl tradeSlot bag slot allowed =>
    show (w.handleSetTradeItem om pl tradeSlot bag slot allowed).Paired
    unfold handleSetTradeItem
    split
    · next trader item htr hitem =>
      split_ifs
      · exact hw
      · exact hw
      · exact hw
      · exact hw.change htr _ rfl
    · exact hw
  | clearItem pl tradeSlot =>
    show (w.handleClearTradeItem pl tradeSlot).Paired
    unfold handleClearTradeItem
    split
    · exact hw
    · next trader htr =>
      split
      · exact hw
      · exact hw.change htr _ rfl
  | unaccept pl =>
    show (w.handleUnacceptTrade pl).Paired
    unfold handleUnacceptTrade
    split
    · exact hw
    · exact hw.setAccept pl false
  | accept pl allowed => exact hw.handleAcceptTrade pl allowed
  | inventory t => exact ⟨hw.partners, hw.alone⟩
  | purse pl amount => exact ⟨hw.partners, hw.alone⟩

end

/-- **The relation is symmetric, and who has no trader offers nothing**, after any requests of players who
came in without a trade. -/
theorem traders_paired (om : ObjectMgr) (inv : Holdings) (money : Nat → Nat) (rs : List TradeRequest) :
    (run (tradeStep om) { inv := inv, money := money } rs).Paired :=
  Transition.invariant_run (fun _ r hw => hw.tradeStep r) ⟨fun _ _ h => (nomatch h), fun _ _ => ⟨fun _ => rfl, rfl⟩⟩ rs

end TradeHall

end BlizzLike
