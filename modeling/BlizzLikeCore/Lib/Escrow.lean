import BlizzLikeCore.Lib.Ledger
import BlizzLikeCore.Lib.Transition
import Mathlib.Algebra.BigOperators.Group.List.Basic
import Mathlib.Algebra.GroupWithZero.Nat
import Mathlib.Data.List.Basic

/-!
# Escrow: bids held by a house

The books of a house that holds the standing bid and the deposit of every lot: purses, gold
sent and not yet received, and lots.  Gold sent to a party who cannot be reached is gone.  A
move names every amount it shifts, and the worth of the books falls by exactly the fees, the
forfeited deposits and the gold sent to nobody (`worth_run`).
-/

namespace Escrow

variable {ι : Type*} [DecidableEq ι]

/-! ## The machine -/

/-- A lot; `rate` is what its fee is computed from, beside the bid. -/
structure Lot (ι : Type*) where
  key : Nat
  seller : ι
  bidder : Option ι
  bid : Nat
  deposit : Nat
  rate : Nat

structure Books (ι : Type*) where
  purse : ι → Nat
  sent : ι → Nat
  lots : List (Lot ι)

inductive Move (ι : Type*) where
  | opened (l : Lot ι)
  | bid (l : Lot ι) (p : ι) (price : Nat)
  | sold (l : Lot ι)
  | cancelled (l : Lot ι)
  | expired (l : Lot ι)

namespace Books

def pay (b : Books ι) (p : ι) (n : Nat) : Books ι :=
  { b with purse := Function.update b.purse p (b.purse p - n) }

def credit (b : Books ι) (p : ι) (n : Nat) : Books ι :=
  { b with sent := Function.update b.sent p (b.sent p + n) }

/-- Gold is sent to `p`, if he can be reached. -/
def send (reached : ι → Bool) (b : Books ι) (p : ι) (n : Nat) : Books ι :=
  if reached p then b.credit p n else b

/-- The standing bid goes back to its bidder. -/
def refund (reached : ι → Bool) (b : Books ι) (l : Lot ι) : Books ι :=
  match l.bidder with
  | none => b
  | some q => b.send reached q l.bid

def drop (b : Books ι) (key : Nat) : Books ι := { b with lots := b.lots.filter fun l => l.key != key }

def setBid (b : Books ι) (key : Nat) (p : ι) (price : Nat) : Books ι :=
  { b with lots := b.lots.map fun l => if l.key = key then { l with bidder := some p, bid := price } else l }

end Books

/-- The part of a price that stands in the lot already. -/
def Lot.own (l : Lot ι) (p : ι) : Nat := if l.bidder = some p then l.bid else 0

/-- One move of the house: `reached` says who can be sent gold, `fee` is what the house takes. -/
def move (reached : ι → Bool) (fee : Lot ι → Nat) (b : Books ι) : Move ι → Books ι
  | .opened l => { b.pay l.seller l.deposit with lots := l :: b.lots }
  | .bid l p price =>
    ((if l.bidder = some p then b else b.refund reached l).pay p (price - l.own p)).setBid l.key p price
  | .sold l => (b.send reached l.seller (l.bid + l.deposit - fee l)).drop l.key
  | .cancelled l =>
    ((b.refund reached l).pay l.seller (if l.bidder = none then 0 else fee l)).drop l.key
  | .expired l => b.drop l.key

/-- The fee a move takes. -/
def feeTaken (fee : Lot ι → Nat) : Move ι → Nat
  | .sold l => fee l
  | .cancelled l => if l.bidder = none then 0 else fee l
  | _ => 0

/-- The deposit a move forfeits. -/
def forfeited : Move ι → Nat
  | .cancelled l => l.deposit
  | .expired l => l.deposit
  | _ => 0

/-- Gold a lot returns to a bidder who cannot be reached. -/
def Lot.lost (reached : ι → Bool) (l : Lot ι) : Nat :=
  match l.bidder with
  | none => 0
  | some q => if reached q then 0 else l.bid

/-- The gold a move sends to nobody. -/
def undelivered (reached : ι → Bool) (fee : Lot ι → Nat) : Move ι → Nat
  | .bid l p _ => if l.bidder = some p then 0 else l.lost reached
  | .sold l => if reached l.seller then 0 else l.bid + l.deposit - fee l
  | .cancelled l => l.lost reached
  | _ => 0

/-- All that leaves the books in a move. -/
def charge (reached : ι → Bool) (fee : Lot ι → Nat) (m : Move ι) : Nat :=
  feeTaken fee m + forfeited m + undelivered reached fee m

/-- No amount of a move exceeds what it is taken from, and a payer is `known`. -/
def Lawful (known : ι → Prop) (fee : Lot ι → Nat) (b : Books ι) : Move ι → Prop
  | .opened l => known l.seller ∧ l.bidder = none ∧ l.bid = 0 ∧ l.deposit ≤ b.purse l.seller ∧
      ∀ k ∈ b.lots, k.key ≠ l.key
  | .bid l p price => known p ∧ l ∈ b.lots ∧ l.bid < price ∧ price - l.own p ≤ b.purse p
  | .sold l => l ∈ b.lots ∧ l.bidder ≠ none ∧ fee l ≤ l.bid + l.deposit
  | .cancelled l => known l.seller ∧ l ∈ b.lots ∧ (l.bidder ≠ none → fee l ≤ b.purse l.seller)
  | .expired l => l ∈ b.lots ∧ l.bidder = none

/-- The lots have keys of their own, and a lot without a bidder holds no bid. -/
structure Wf (b : Books ι) : Prop where
  keys : (b.lots.map Lot.key).Nodup
  unbid : ∀ l ∈ b.lots, l.bidder = none → l.bid = 0

/-- The gold in a lot. -/
def Lot.held (l : Lot ι) : Nat := l.bid + l.deposit

/-- What the books are worth: the gold of the parties in `S`, on hand and sent, and in the lots. -/
def worth (S : Finset ι) (b : Books ι) : Nat :=
  S.sum (fun p => b.purse p + b.sent p) + (b.lots.map Lot.held).sum

/-! ## Lemmas -/

section
variable {reached : ι → Bool} {fee : Lot ι → Nat} {known : ι → Prop} {S : Finset ι} {b : Books ι}

theorem worth_pay (p : ι) (hp : p ∈ S) (n : Nat) (hn : n ≤ b.purse p) :
    worth S (b.pay p n) + n = worth S b := by
  have h := Ledger.sum_change_one S (fun q => (b.pay p n).purse q + (b.pay p n).sent q)
    (fun q => b.purse q + b.sent q) p hp fun q _ hq => by simp [Books.pay, hq]
  have hs : (b.pay p n).purse p + (b.pay p n).sent p = b.purse p - n + b.sent p := by simp [Books.pay]
  have hl : (b.pay p n).lots = b.lots := rfl
  unfold worth
  rw [hl]
  simp only [hs] at h
  omega

theorem worth_credit (p : ι) (hp : p ∈ S) (n : Nat) : worth S (b.credit p n) = worth S b + n := by
  have h := Ledger.sum_change_one S (fun q => (b.credit p n).purse q + (b.credit p n).sent q)
    (fun q => b.purse q + b.sent q) p hp fun q _ hq => by simp [Books.credit, hq]
  have hs : (b.credit p n).purse p + (b.credit p n).sent p = b.purse p + (b.sent p + n) := by
    simp [Books.credit]
  have hl : (b.credit p n).lots = b.lots := rfl
  unfold worth
  rw [hl]
  simp only [hs] at h
  omega

theorem worth_send (p : ι) (hp : reached p = true → p ∈ S) (n : Nat) :
    worth S (b.send reached p n) + (if reached p then 0 else n) = worth S b + n := by
  unfold Books.send
  split
  · next h => rw [worth_credit p (hp h)]; rfl
  · rfl

theorem worth_refund (hS : ∀ p, reached p = true → p ∈ S) (l : Lot ι) (hl : l.bidder = none → l.bid = 0) :
    worth S (b.refund reached l) + l.lost reached = worth S b + l.bid := by
  unfold Books.refund Lot.lost
  cases hb : l.bidder with
  | none => simp [hl hb]
  | some q => exact worth_send q (hS q) l.bid

omit [DecidableEq ι] in
theorem worth_drop (hk : (b.lots.map Lot.key).Nodup) (l : Lot ι) (hl : l ∈ b.lots) :
    worth S (b.drop l.key) + l.held = worth S b := by
  have hsum : ∀ ls : List (Lot ι), (ls.map Lot.key).Nodup → l ∈ ls →
      ((ls.filter fun k => k.key != l.key).map Lot.held).sum + l.held = (ls.map Lot.held).sum := by
    intro ls hnd hmem
    induction ls with
    | nil => cases hmem
    | cons k ls ih =>
      rw [List.map_cons, List.nodup_cons] at hnd
      rcases List.mem_cons.1 hmem with rfl | hmem
      · -- no other lot has this key
        have hrest : ls.filter (fun k => k.key != l.key) = ls := by
          refine List.filter_eq_self.2 fun k hk' => ?_
          simp only [bne_iff_ne]
          intro he
          exact hnd.1 (he ▸ List.mem_map_of_mem hk')
        simp [hrest]
        omega
      · have hne : k.key ≠ l.key := fun he => hnd.1 (he ▸ List.mem_map_of_mem hmem)
        have := ih hnd.2 hmem
        simp [hne]
        omega
  have := hsum b.lots hk hl
  unfold worth Books.drop
  simp only
  omega

omit [DecidableEq ι] in
theorem worth_setBid (hk : (b.lots.map Lot.key).Nodup) (l : Lot ι) (hl : l ∈ b.lots) (p : ι)
    (price : Nat) : worth S (b.setBid l.key p price) + l.bid = worth S b + price := by
  have hsum : ∀ ls : List (Lot ι), (ls.map Lot.key).Nodup → l ∈ ls →
      ((ls.map fun k => if k.key = l.key then { k with bidder := some p, bid := price } else k).map
        Lot.held).sum + l.bid = (ls.map Lot.held).sum + price := by
    intro ls hnd hmem
    induction ls with
    | nil => cases hmem
    | cons k ls ih =>
      rw [List.map_cons, List.nodup_cons] at hnd
      rcases List.mem_cons.1 hmem with rfl | hmem
      · have hrest : ls.map (fun k => if k.key = l.key then { k with bidder := some p, bid := price } else k) =
            ls := by
          refine (List.map_congr_left fun k hk' => ?_).trans (List.map_id ls)
          rw [if_neg fun (he : k.key = l.key) => hnd.1 (he ▸ List.mem_map_of_mem hk')]
          rfl
        rw [List.map_cons, hrest]
        simp [Lot.held]
        omega
      · have hne : k.key ≠ l.key := fun he => hnd.1 (he ▸ List.mem_map_of_mem hmem)
        have := ih hnd.2 hmem
        simp only [List.map_cons, List.sum_cons, if_neg hne]
        omega
  have := hsum b.lots hk hl
  unfold worth Books.setBid
  simp only
  omega

@[simp] theorem send_lots (p : ι) (n : Nat) : (b.send reached p n).lots = b.lots := by
  unfold Books.send; split <;> rfl

@[simp] theorem send_purse (p : ι) (n : Nat) : (b.send reached p n).purse = b.purse := by
  unfold Books.send; split <;> rfl

@[simp] theorem refund_lots (l : Lot ι) : (b.refund reached l).lots = b.lots := by
  unfold Books.refund; split <;> simp

@[simp] theorem refund_purse (l : Lot ι) : (b.refund reached l).purse = b.purse := by
  unfold Books.refund; split <;> simp

@[simp] theorem pay_lots (p : ι) (n : Nat) : (b.pay p n).lots = b.lots := rfl

theorem send_zero (p : ι) : b.send reached p 0 = b := by
  unfold Books.send Books.credit
  split
  · simp
  · rfl

omit [DecidableEq ι] in
theorem Wf.drop (hw : Wf b) (key : Nat) {c : Books ι} (hc : c.lots = b.lots) : Wf (c.drop key) := by
  have hsub : (c.drop key).lots.Sublist b.lots := hc ▸ List.filter_sublist
  exact ⟨hw.keys.sublist (hsub.map _), fun l hl => hw.unbid l (hsub.subset hl)⟩

omit [DecidableEq ι] in
theorem Wf.setBid (hw : Wf b) (key : Nat) (p : ι) (price : Nat) {c : Books ι} (hc : c.lots = b.lots) :
    Wf (c.setBid key p price) := by
  refine ⟨?_, fun l hl hb => ?_⟩
  · have hkeys : (c.setBid key p price).lots.map Lot.key = b.lots.map Lot.key := by
      unfold Books.setBid
      simp only
      rw [hc, List.map_map]
      refine List.map_congr_left fun l _ => ?_
      simp only [Function.comp]
      split <;> rfl
    rw [hkeys]; exact hw.keys
  · unfold Books.setBid at hl
    simp only at hl
    rw [hc] at hl
    obtain ⟨k, hk, rfl⟩ := List.mem_map.1 hl
    split at hb
    · cases hb
    · next hne => rw [if_neg hne]; exact hw.unbid k hk hb

theorem Wf.move (hw : Wf b) (m : Move ι) (hm : Lawful known fee b m) : Wf (move reached fee b m) := by
  cases m with
  | opened l =>
    obtain ⟨-, -, h0, -, hfresh⟩ := hm
    refine ⟨List.nodup_cons.2 ⟨fun hin => ?_, hw.keys⟩, fun k hk hb => ?_⟩
    · obtain ⟨k, hk, he⟩ := List.mem_map.1 hin
      exact hfresh k hk he
    · rcases List.mem_cons.1 hk with rfl | hk
      · exact h0
      · exact hw.unbid k hk hb
  | bid l p price => exact hw.setBid l.key p price (by simp only [pay_lots]; split <;> simp)
  | sold l => exact hw.drop l.key (by simp)
  | cancelled l => exact hw.drop l.key (by simp)
  | expired l => exact hw.drop l.key rfl

/-- **One move**: the worth falls by the charge. -/
theorem worth_move (hS : ∀ p, reached p = true → p ∈ S) (hk : ∀ p, known p → p ∈ S) (hw : Wf b)
    (m : Move ι) (hm : Lawful known fee b m) :
    worth S (move reached fee b m) + charge reached fee m = worth S b := by
  unfold charge
  cases m with
  | opened l =>
    obtain ⟨hp, -, h0, hpay, -⟩ := hm
    have h := worth_pay (S := S) l.seller (hk _ hp) l.deposit hpay
    have hcons : worth S (move reached fee b (.opened l)) =
        worth S (b.pay l.seller l.deposit) + l.held := by
      unfold worth Escrow.move
      simp only [pay_lots, List.map_cons, List.sum_cons]
      omega
    rw [hcons]
    simp only [Lot.held, feeTaken, forfeited, undelivered]
    omega
  | bid l p price =>
    obtain ⟨hp, hl, hlt, hpay⟩ := hm
    have hub := hw.unbid l hl
    by_cases hown : l.bidder = some p
    · have hbid : l.own p = l.bid := by simp [Lot.own, hown]
      rw [hbid] at hpay
      have h1 := worth_pay (S := S) p (hk p hp) (price - l.bid) hpay
      have h2 := worth_setBid (S := S) (b := b.pay p (price - l.bid)) hw.keys l hl p price
      simp only [Escrow.move, if_pos hown, hbid, feeTaken, forfeited, undelivered]
      omega
    · have hbid : l.own p = 0 := by simp [Lot.own, hown]
      rw [hbid] at hpay
      have h0 := worth_refund (b := b) hS l hub
      have h1 := worth_pay (S := S) (b := b.refund reached l) p (hk p hp) (price - 0)
        (by rw [refund_purse]; exact hpay)
      have h2 := worth_setBid (S := S) (b := (b.refund reached l).pay p (price - 0))
        (by simpa using hw.keys) l (by simpa using hl) p price
      simp only [Escrow.move, if_neg hown, hbid, feeTaken, forfeited, undelivered]
      omega
  | sold l =>
    obtain ⟨hl, -, hfee⟩ := hm
    have h1 := worth_send (b := b) l.seller (hS l.seller) (l.bid + l.deposit - fee l)
    have h2 := worth_drop (S := S) (b := b.send reached l.seller (l.bid + l.deposit - fee l))
      (by simpa using hw.keys) l (by simpa using hl)
    simp only [Escrow.move, feeTaken, forfeited, undelivered, Lot.held] at *
    omega
  | cancelled l =>
    obtain ⟨hp, hl, hfee⟩ := hm
    have h0 := worth_refund (b := b) hS l (hw.unbid l hl)
    have hpay : (if l.bidder = none then 0 else fee l) ≤ (b.refund reached l).purse l.seller := by
      rw [refund_purse]
      split
      · omega
      · next hb => exact hfee hb
    have h1 := worth_pay (S := S) l.seller (hk _ hp) _ hpay
    have h2 := worth_drop (S := S)
      (b := (b.refund reached l).pay l.seller (if l.bidder = none then 0 else fee l))
      (by simpa using hw.keys) l (by simpa using hl)
    simp only [Escrow.move, feeTaken, forfeited, undelivered, Lot.held] at *
    omega
  | expired l =>
    obtain ⟨hl, hb⟩ := hm
    have h := worth_drop (S := S) hw.keys l hl
    have h0 := hw.unbid l hl hb
    simp only [Escrow.move, feeTaken, forfeited, undelivered, Lot.held] at *
    omega

/-- **Conservation along a run** of lawful moves. -/
theorem worth_run (hS : ∀ p, reached p = true → p ∈ S) (hk : ∀ p, known p → p ∈ S) (hw : Wf b)
    (ms : List (Move ι)) (hm : Transition.Along (move reached fee) (Lawful known fee) b ms) :
    worth S (Transition.run (move reached fee) b ms) + (ms.map (charge reached fee)).sum = worth S b := by
  induction ms generalizing b with
  | nil => simp [Transition.run]
  | cons m ms ih =>
    have h1 := worth_move hS hk hw m hm.1
    have h2 := ih (hw.move m hm.1) hm.2
    rw [Transition.run, List.map_cons, List.sum_cons]
    omega

end

end Escrow
