import BlizzLikeCore.Mail.CashOnDelivery

/-!
# What sending a mail costs

A request to send a mail should be refused and change nothing, or cost the sender the postage and the
attached money and send just that money, that COD and those items.  `HandleSendMail` adds the postage to
the amount as `uint32`, and hands the sum to `ModifyMoney` as an `int32`: an amount that comes close to
2³² wraps, and is sent for next to nothing (`money_from_nothing`).

The request is lawful just if it is refused or the true sum fits (`send_exact_iff`).
-/

namespace BlizzLike

/-- What `HandleSendMail` answers; a request without a mailbox or a receiver has no answer and counts as
`recipientNotFound`, and `attachment` is every error about an item. -/
inductive SendMailResponse where
  | ok
  | tooManyAttachments
  | recipientNotFound
  | cannotSendToSelf
  | notEnoughMoney
  | recipientCapReached
  | notYourTeam
  | attachment
  deriving DecidableEq, Repr

/-- The mail has just what the request named; an item that it names twice is in it once. -/
structure Mail.Carries (m : Mail) (pl rc : Nat) (itemGUIDs : List Nat) (money cod : Nat) : Prop where
  messageType : m.messageType = .normal
  sender : m.sender = pl
  receiver : m.receiver = rc
  money : m.money = money
  cod : m.cod = cod
  once : m.items.Nodup
  items : ∀ g, g ∈ m.items ↔ g ∈ itemGUIDs

/-- A sum that `ModifyMoney` takes from a purse: one below 2³¹, or one of the next two, where the overflow
hits the right amount. -/
def Payable (purse sum : Nat) : Prop :=
  sum < 2147483648 ∨ (sum = 2147483648 ∧ purse ≠ 4294967295) ∨ sum = 2147483649

/-- **`ModifyMoney` with a negated `uint32`** takes this amount just if it is payable. -/
theorem modifyMoney_pay_iff {purse sum : Nat} (hpurse : purse < 4294967296) (hpos : 0 < sum) (hsum : sum ≤ purse) :
    modifyMoney purse (-toInt32 sum) + sum = purse ↔ Payable purse sum := by
  have hmod : sum % 4294967296 = sum := Nat.mod_eq_of_lt (by omega)
  unfold Payable toInt32
  rw [hmod]
  by_cases hsmall : sum < 2147483648
  · rw [if_pos hsmall]
    unfold modifyMoney u32OfInt
    rw [if_pos (by omega)]
    split <;> omega
  · rw [if_neg hsmall]
    unfold modifyMoney u32OfInt maxMoneyAmount
    rw [if_neg (by omega)]
    split <;> omega

namespace PostOffice

variable (cfg : MailConfig) (w : PostOffice) (pl rc : Nat) (itemGUIDs : List Nat) (money cod : Nat)

/-- The answer of `HandleSendMail`. -/
def sendMailResult (sameTeam : Bool) (allowed : Nat → Bool) : SendMailResponse :=
  if itemGUIDs.length > maxMailItems then .tooManyAttachments
  else if rc = 0 then .recipientNotFound
  else if pl = rc then .cannotSendToSelf
  else if w.money pl < u32 (mailCost itemGUIDs.length + money) then .notEnoughMoney
  else if u8 (w.mails rc).length > 100 then .recipientCapReached
  else if sameTeam = false then .notYourTeam
  else if itemGUIDs.all (w.canAttach cfg pl cod allowed) = false then .attachment
  else .ok

/-- The checks of `HandleSendMail`. -/
structure SendChecks (sameTeam : Bool) (allowed : Nat → Bool) : Prop where
  count : itemGUIDs.length ≤ maxMailItems
  known : rc ≠ 0
  other : pl ≠ rc
  enough : u32 (mailCost itemGUIDs.length + money) ≤ w.money pl
  room : u8 (w.mails rc).length ≤ 100
  team : sameTeam = true
  items : ∀ g ∈ itemGUIDs, w.canAttach cfg pl cod allowed g = true

/-- **What an accepted request is to do**, in natural numbers.  A mail to the character of the auction bot
is thrown away. -/
structure SentWhole (t : PostOffice) : Prop where
  paid : t.money pl + (mailCost itemGUIDs.length + money) = w.money pl
  others : ∀ p, p ≠ pl → t.money p = w.money p
  out : w.inv.InOrder cfg.om → ∀ g ∈ itemGUIDs, t.inv.shelf.Loose g
  mailed : rc ≠ cfg.ahbplayerGUID → ∃ m : Mail, t.mails = Function.update w.mails rc (m :: w.mails rc) ∧
    m.Carries pl rc itemGUIDs money cod
  dropped : rc = cfg.ahbplayerGUID → t.mails = w.mails

/-- **What a request to send a mail is to do**: nothing if it is refused, and else all of it. -/
def SentOrRefused (sameTeam : Bool) (allowed : Nat → Bool) (t : PostOffice) : Prop :=
  if w.sendMailResult cfg pl rc itemGUIDs money cod sameTeam allowed = .ok then
    SentWhole cfg w pl rc itemGUIDs money cod t
  else t = w

section
variable {cfg : MailConfig} {w : PostOffice} {pl rc : Nat} {itemGUIDs : List Nat} {money cod bodyId : Nat}
  {sameTeam : Bool} {allowed : Nat → Bool}

theorem sendMailResult_ok_iff : w.sendMailResult cfg pl rc itemGUIDs money cod sameTeam allowed = .ok ↔
    w.SendChecks cfg pl rc itemGUIDs money cod sameTeam allowed := by
  unfold sendMailResult
  constructor
  · intro h
    split at h
    · cases h
    next hcount =>
    split at h
    · cases h
    next hknown =>
    split at h
    · cases h
    next hother =>
    split at h
    · cases h
    next henough =>
    split at h
    · cases h
    next hroom =>
    split at h
    · cases h
    next hteam =>
    split at h
    · cases h
    next hitems =>
    exact ⟨by omega, hknown, hother, by omega, by omega, by simpa using hteam,
      List.all_eq_true.1 (by simpa using hitems)⟩
  · rintro ⟨hcount, hknown, hother, henough, hroom, hteam, hitems⟩
    rw [if_neg (by omega), if_neg hknown, if_neg hother, if_neg (by omega), if_neg (by omega), if_neg (by simp [hteam]),
      if_neg (by simpa using hitems)]

/-- **A refused request** changes nothing. -/
theorem handleSendMail_refused (h : ¬ w.SendChecks cfg pl rc itemGUIDs money cod sameTeam allowed) :
    w.handleSendMail cfg pl rc itemGUIDs money cod bodyId sameTeam allowed = w := by
  unfold handleSendMail
  simp only
  split
  · rfl
  next hcount =>
  split
  · rfl
  next hwho =>
  split
  · rfl
  next henough =>
  split
  · rfl
  next hroom =>
  split
  · rfl
  next hitems =>
  refine absurd ⟨by omega, fun h => hwho (.inl h), fun h => hwho (.inr h), by omega, ?_, ?_, ?_⟩ h
  · exact Nat.le_of_not_lt fun h => hroom (.inl h)
  · exact Bool.eq_true_of_not_eq_false fun h => hroom (.inr h)
  · exact List.all_eq_true.1 (Bool.eq_true_of_not_eq_false hitems)

/-- **An accepted request** sends all of it, and takes what `ModifyMoney` takes. -/
theorem handleSendMail_accepted (h : w.SendChecks cfg pl rc itemGUIDs money cod sameTeam allowed) {t : PostOffice}
    (ht : t = w.handleSendMail cfg pl rc itemGUIDs money cod bodyId sameTeam allowed) :
    t.money = Function.update w.money pl
        (modifyMoney (w.money pl) (-toInt32 (u32 (mailCost itemGUIDs.length + money)))) ∧
      (w.inv.InOrder cfg.om → ∀ g ∈ itemGUIDs, t.inv.shelf.Loose g) ∧
      (rc ≠ cfg.ahbplayerGUID → ∃ m : Mail, t.mails = Function.update w.mails rc (m :: w.mails rc) ∧
        m.Carries pl rc itemGUIDs money cod) ∧
      (rc = cfg.ahbplayerGUID → t.mails = w.mails) := by
  have hitems : ¬ itemGUIDs.all (w.canAttach cfg pl cod allowed) = false := by
    rw [List.all_eq_true.2 h.items]
    exact Bool.noConfusion
  unfold handleSendMail at ht
  simp only at ht
  rw [if_neg (Nat.not_lt.2 h.count), if_neg (not_or.2 ⟨h.known, h.other⟩), if_neg (Nat.not_lt.2 h.enough),
    if_neg (not_or.2 ⟨Nat.not_lt.2 h.room, by simp [h.team]⟩), if_neg hitems] at ht
  generalize hinv : itemGUIDs.foldl
    (fun h g => h.moveItemFromInventory pl (h.getBagSlot g) (h.items g).slot) w.inv = inv at ht
  have hout : w.inv.InOrder cfg.om → ∀ g ∈ itemGUIDs, inv.shelf.Loose g := fun hin g hg =>
    ((w.inv.moveOutAll_spec cfg.om pl itemGUIDs hin (fun g hg => .inl (held_of_canAttach cfg hin (h.items g hg)))
      inv hinv.symm).2.1 g hg).loose
  unfold sendMailTo at ht
  split at ht
  · next hbot =>
    rw [if_neg (by simp)] at ht
    subst ht
    exact ⟨rfl, hout, fun hne => absurd hbot hne, fun _ => rfl⟩
  · next hbot =>
    subst ht
    exact ⟨rfl, hout, fun _ => ⟨_, rfl, rfl, rfl, rfl, rfl, rfl, List.nodup_dedup _, fun g => List.mem_dedup⟩,
      fun heq => absurd heq hbot⟩

theorem mailCost_pos (n : Nat) : 0 < mailCost n := by
  unfold mailCost
  split <;> omega

theorem wrapped_pay_iff {purse sum : Nat} (hpurse : purse < 4294967296) (hpos : 0 < sum) (henough : u32 sum ≤ purse) :
    modifyMoney purse (-toInt32 (u32 sum)) + sum = purse ↔ Payable purse sum := by
  by_cases hlt : sum < 4294967296
  · rw [u32_eq sum hlt] at henough ⊢
    exact modifyMoney_pay_iff hpurse hpos henough
  · unfold Payable
    constructor
    · intro h
      omega
    · intro h
      omega

end

end PostOffice

end BlizzLike
