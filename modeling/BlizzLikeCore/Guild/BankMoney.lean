import BlizzLikeCore.Lib.Ledger
import BlizzLikeCore.Lib.Transition
import BlizzLikeCore.Money

/-!
# The money of a guild bank

Members pay gold into the bank of their guild and withdraw it, each at most what his rank allows a
day.  What is left of a day's allowance is kept with the member and renewed when it is asked for
and the day is over.

No gold is made or lost as long as no one withdraws what his purse cannot hold, and no member
with a limited rank withdraws more in a day than his rank granted at its beginning
(`bank_lawful`).  `ModifyMoney` takes the amount as an `int32` and cuts the purse at its limit,
and the handler of a withdrawal does not ask before it (`withdraw_loses`).
-/

namespace BlizzLike

def grGuildMaster : Nat := 0
def withdrawMoneyUnlimited : Nat := 0xFFFFFFFF
def grRightEmpty : Nat := 0x00000040
def grRightWithdrawGold : Nat := 0x00080000

/-- `24*HOUR/MINUTE`. -/
def dayMinutes : Nat := 1440

/-- `RankInfo`, its rights to the money. -/
structure RankInfo where
  rights : Nat
  bankMoneyPerDay : Nat
  deriving DecidableEq, Repr

/-- `MemberSlot` of a guild, what it keeps of the money.  `granted` and `spent` are the books of the
day that began at the reset time: what his rank granted then, what he has withdrawn since. -/
structure GuildMember where
  rankId : Nat
  bankResetTimeMoney : Nat := 0
  bankRemMoney : Nat := 0
  granted : Nat := bankRemMoney
  spent : Nat := 0
  deriving DecidableEq, Repr

/-- A player: his purse, and his guild and rank as his own fields have them. -/
structure GuildPlayer where
  money : Nat := 0
  inGuild : Bool := false
  rank : Nat := 0
  deriving DecidableEq, Repr

/-- A `Guild` with its bank, and the players. -/
structure GuildBank where
  ranks : List RankInfo
  members : Nat → Option GuildMember
  bankMoney : Nat
  players : Nat → GuildPlayer

namespace GuildBank

variable (w : GuildBank)

/-! ## Algorithm -/

/-- `GetRankRights`. -/
def rankRights (rankId : Nat) : Nat := ((w.ranks[rankId]?).map RankInfo.rights).getD 0

/-- `HasRankRight`, which compares with the bit of an empty right. -/
def hasRankRight (rankId right : Nat) : Bool := w.rankRights rankId &&& right != grRightEmpty

def getBankMoneyPerDay (rankId : Nat) : Nat :=
  match w.ranks[rankId]? with
  | none => 0
  | some r => if rankId = grGuildMaster then withdrawMoneyUnlimited else r.bankMoneyPerDay

/-- `SetBankMoney` of an `int64`. -/
def setBankMoney (money : Nat) : GuildBank :=
  { w with bankMoney := if money % 2 ^ 64 < 2 ^ 63 then money % 2 ^ 64 else 0 }

def setMember (guid : Nat) (m : GuildMember) : GuildBank :=
  { w with members := Function.update w.members guid (some m) }

def modifyMoneyOf (pl : Nat) (d : Int) : GuildBank :=
  { w with players := Function.update w.players pl { w.players pl with money := modifyMoney (w.players pl).money d } }

/-- `GetMemberMoneyWithdrawRem` at a minute. -/
def getMemberMoneyWithdrawRem (guid now : Nat) : GuildBank × Nat :=
  match w.members guid with
  | none => (w, 0)
  | some m =>
    if m.rankId = grGuildMaster then (w, withdrawMoneyUnlimited)
    else if u32 now > u32 (m.bankResetTimeMoney + dayMinutes) then
      let rem := w.getBankMoneyPerDay m.rankId
      (w.setMember guid
        { m with bankResetTimeMoney := u32 now, bankRemMoney := rem, granted := rem, spent := 0 }, rem)
    else (w, m.bankRemMoney)

def memberMoneyWithdraw (amount guid now : Nat) : GuildBank × Bool :=
  let r := w.getMemberMoneyWithdrawRem guid now
  if r.2 < amount ∨ r.1.bankMoney < amount then (r.1, false)
  else
    let w1 := r.1.setBankMoney (r.1.bankMoney - amount)
    if r.2 < withdrawMoneyUnlimited then
      match w1.members guid with
      | none => (w1, false)
      | some m =>
        (w1.setMember guid { m with bankRemMoney := m.bankRemMoney - amount, spent := m.spent + amount }, true)
    else (w1, true)

/-- `HandleGuildBankDeposit`; `nearBank` tells if the player can use the bank he names. -/
def handleGuildBankDeposit (pl money : Nat) (nearBank : Bool) : GuildBank × Bool :=
  if u32 money = 0 then (w, false)
  else if nearBank = false then (w, false)
  else if (w.players pl).inGuild = false then (w, false)
  else if (w.players pl).money < u32 money then (w, false)
  else ((w.setBankMoney (w.bankMoney + u32 money)).modifyMoneyOf pl (-toInt32 money), true)

def handleGuildBankWithdraw (pl money : Nat) (nearBank : Bool) (now : Nat) : GuildBank × Bool :=
  if u32 money = 0 then (w, false)
  else if nearBank = false then (w, false)
  else if (w.players pl).inGuild = false then (w, false)
  else if w.bankMoney < u32 money then (w, false)
  else if w.hasRankRight (w.players pl).rank grRightWithdrawGold = false then (w, false)
  else
    let r := w.memberMoneyWithdraw (u32 money) pl now
    if r.2 = false then (r.1, false)
    else (((r.1.modifyMoneyOf pl (toInt32 money)).getMemberMoneyWithdrawRem pl now).1, true)

/-- `HandleGuildBankGetMoneyAmount`, and the others that send what is left to a member. -/
def handleGuildBankGetMoneyAmount (pl now : Nat) : GuildBank × Bool :=
  if (w.players pl).inGuild = false then (w, false) else ((w.getMemberMoneyWithdrawRem pl now).1, true)

end GuildBank

/-- The requests about a bank's money, at a minute. -/
inductive BankRequest where
  | deposit (pl money : Nat) (nearBank : Bool)
  | withdraw (pl money : Nat) (nearBank : Bool) (now : Nat)
  | getMoneyAmount (pl now : Nat)

def BankRequest.player : BankRequest → Nat
  | .deposit pl _ _ | .withdraw pl _ _ _ | .getMoneyAmount pl _ => pl

def BankRequest.minute : BankRequest → Option Nat
  | .deposit _ _ _ => none
  | .withdraw _ _ _ now | .getMoneyAmount _ now => some now

/-- The bank after a request, and whether it went through. -/
def GuildBank.handle (w : GuildBank) : BankRequest → GuildBank × Bool
  | .deposit pl money nearBank => w.handleGuildBankDeposit pl money nearBank
  | .withdraw pl money nearBank now => w.handleGuildBankWithdraw pl money nearBank now
  | .getMoneyAmount pl now => w.handleGuildBankGetMoneyAmount pl now

/-! ## The law -/

namespace GuildBank

/-- The bank after a request. -/
def after (w : GuildBank) (r : BankRequest) : GuildBank := (w.handle r).1

/-- The gold of the bank and of some purses. -/
def gold (w : GuildBank) (S : Finset Nat) : Nat := w.bankMoney + S.sum fun pl => (w.players pl).money

/-- What a member withdraws by a request. -/
def taken (w : GuildBank) (r : BankRequest) (guid : Nat) : Nat :=
  match r with
  | .withdraw pl money _ _ => if guid = pl ∧ (w.handle r).2 = true then u32 money else 0
  | .deposit _ _ _ | .getMoneyAmount _ _ => 0

/-- A member's day goes on, or it is over and the next begins with what his rank grants. -/
def DayGoesOn (w : GuildBank) (r : BankRequest) (guid : Nat) (m m' : GuildMember) : Prop :=
  (m'.bankResetTimeMoney = m.bankResetTimeMoney ∧ m'.granted = m.granted ∧ m'.spent = m.spent + w.taken r guid) ∨
    ∃ now, r.minute = some now ∧ m.bankResetTimeMoney + dayMinutes < now ∧ m'.bankResetTimeMoney = now ∧
      m'.granted = w.getBankMoneyPerDay m.rankId ∧ m'.spent = w.taken r guid

/-- **The law** of one request. -/
structure Lawful (w : GuildBank) (r : BankRequest) : Prop where
  conserved : ∀ S : Finset Nat, r.player ∈ S → (w.handle r).1.gold S = w.gold S
  refused : (w.handle r).2 = false → (w.handle r).1 = w ∨
    ∃ now, r.minute = some now ∧ (w.handle r).1 = (w.getMemberMoneyWithdrawRem r.player now).1
  days : ∀ guid m', (w.handle r).1.members guid = some m' → m'.rankId ≠ grGuildMaster →
    m'.granted < withdrawMoneyUnlimited →
      m'.spent ≤ m'.granted ∧ ∃ m, w.members guid = some m ∧ w.DayGoesOn r guid m m'

/-- All checks of a withdrawal. -/
structure Payable (w : GuildBank) (pl money : Nat) (nearBank : Bool) (now : Nat) : Prop where
  amount : u32 money ≠ 0
  near : nearBank = true
  inGuild : (w.players pl).inGuild = true
  bank : u32 money ≤ w.bankMoney
  right : w.hasRankRight (w.players pl).rank grRightWithdrawGold = true
  allowed : u32 money ≤ (w.getMemberMoneyWithdrawRem pl now).2

/-- A request that meets no missing check: a purse can hold what is withdrawn, the bank what is paid
in, and the minutes of a day fit a `uint32`. -/
def Heedful (w : GuildBank) : BankRequest → Prop
  | .deposit _ money _ => w.bankMoney + u32 money < 2 ^ 63
  | .withdraw pl money nearBank now => now + dayMinutes < 2 ^ 32 ∧
      (w.Payable pl money nearBank now → (w.players pl).money + u32 money ≤ maxMoneyAmount)
  | .getMoneyAmount _ now => now + dayMinutes < 2 ^ 32

/-- A member's books. -/
structure Booked (m : GuildMember) : Prop where
  rest : m.granted < withdrawMoneyUnlimited → m.spent + m.bankRemMoney = m.granted
  clock : m.bankResetTimeMoney + dayMinutes < 2 ^ 32

/-- **The invariant** of runs. -/
structure Sound (w : GuildBank) : Prop where
  purses : ∀ pl, (w.players pl).money ≤ maxMoneyAmount
  bank : w.bankMoney < 2 ^ 63
  booked : ∀ guid m, w.members guid = some m → Booked m

end GuildBank

/-! ## Lemmas -/

namespace GuildMember

/-- A member's entry after his allowance was asked for: a day that is over is followed by the next. -/
def today (m : GuildMember) (perDay now : Nat) : GuildMember :=
  if u32 now > u32 (m.bankResetTimeMoney + dayMinutes) then
    { m with bankResetTimeMoney := u32 now, bankRemMoney := perDay, granted := perDay, spent := 0 }
  else m

variable {m : GuildMember} {perDay now : Nat}

theorem today_rankId : (m.today perDay now).rankId = m.rankId := by
  unfold today
  split <;> rfl

theorem today_booked (h : GuildBank.Booked m) (hnow : now + dayMinutes < 2 ^ 32) :
    GuildBank.Booked (m.today perDay now) := by
  have hu : u32 now = now := Nat.mod_eq_of_lt (by unfold dayMinutes at hnow; omega)
  unfold today
  split
  · exact ⟨fun _ => Nat.zero_add _, by rw [hu]; exact hnow⟩
  · exact h

theorem today_cases (perDay : Nat) (h : GuildBank.Booked m) (hnow : now + dayMinutes < 2 ^ 32) :
    m.today perDay now = m ∨
      m.bankResetTimeMoney + dayMinutes < now ∧ (m.today perDay now).bankResetTimeMoney = now ∧
        (m.today perDay now).granted = perDay ∧ (m.today perDay now).spent = 0 := by
  have hu : u32 now = now := Nat.mod_eq_of_lt (by unfold dayMinutes at hnow; omega)
  have hv : u32 (m.bankResetTimeMoney + dayMinutes) = m.bankResetTimeMoney + dayMinutes := Nat.mod_eq_of_lt h.clock
  unfold today
  rw [hu, hv]
  split
  · next hlt => exact Or.inr ⟨hlt, rfl, rfl, rfl⟩
  · exact Or.inl rfl

theorem today_of_clock {m' : GuildMember} (h : GuildBank.Booked m) (hnow : now + dayMinutes < 2 ^ 32)
    (hclock : m'.bankResetTimeMoney = (m.today perDay now).bankResetTimeMoney) (p : Nat) : m'.today p now = m' := by
  have hu : u32 now = now := Nat.mod_eq_of_lt (by unfold dayMinutes at hnow; omega)
  have hv : u32 (m.bankResetTimeMoney + dayMinutes) = m.bankResetTimeMoney + dayMinutes := Nat.mod_eq_of_lt h.clock
  unfold today at hclock ⊢
  rw [hu] at hclock ⊢
  rw [hv] at hclock
  rw [hclock]
  refine if_neg ?_
  split
  · rw [show u32 (now + dayMinutes) = now + dayMinutes from Nat.mod_eq_of_lt hnow]
    omega
  · rwa [hv]

end GuildMember

namespace GuildBank

variable {w : GuildBank}

@[simp] theorem setMember_bankMoney (guid : Nat) (m : GuildMember) : (w.setMember guid m).bankMoney = w.bankMoney := rfl

theorem setBankMoney_bankMoney {n : Nat} (h : n < 2 ^ 63) : (w.setBankMoney n).bankMoney = n := by
  unfold setBankMoney
  rw [Nat.mod_eq_of_lt (by omega : n < 2 ^ 64), if_pos h]

theorem setMember_self {guid : Nat} {m : GuildMember} (h : w.members guid = some m) : w.setMember guid m = w := by
  unfold setMember
  rw [← h, Function.update_eq_self]

/-- **What is asked for** is today's allowance, and the entry is brought up to date. -/
theorem rem_eq {guid now : Nat} {m : GuildMember} (hm : w.members guid = some m) (hrank : m.rankId ≠ grGuildMaster) :
    w.getMemberMoneyWithdrawRem guid now =
      (w.setMember guid (m.today (w.getBankMoneyPerDay m.rankId) now),
        (m.today (w.getBankMoneyPerDay m.rankId) now).bankRemMoney) := by
  unfold getMemberMoneyWithdrawRem GuildMember.today
  rw [hm]
  simp only [if_neg hrank]
  split
  · rfl
  · rw [setMember_self hm]

theorem rem_guildMaster {guid now : Nat} {m : GuildMember} (hm : w.members guid = some m)
    (hrank : m.rankId = grGuildMaster) : w.getMemberMoneyWithdrawRem guid now = (w, withdrawMoneyUnlimited) := by
  unfold getMemberMoneyWithdrawRem
  rw [hm]
  simp only [if_pos hrank]

theorem rem_none {guid now : Nat} (hm : w.members guid = none) : w.getMemberMoneyWithdrawRem guid now = (w, 0) := by
  unfold getMemberMoneyWithdrawRem
  rw [hm]

theorem rem_same (guid now : Nat) :
    (w.getMemberMoneyWithdrawRem guid now).1.bankMoney = w.bankMoney ∧
      (w.getMemberMoneyWithdrawRem guid now).1.players = w.players := by
  cases hm : w.members guid with
  | none => rw [rem_none hm]; exact ⟨rfl, rfl⟩
  | some m =>
    by_cases hrank : m.rankId = grGuildMaster
    · rw [rem_guildMaster hm hrank]; exact ⟨rfl, rfl⟩
    · rw [rem_eq hm hrank]; exact ⟨rfl, rfl⟩

/-- What becomes of the entries of a bank: all but one are kept, and that one, unless it is of a guild
master, is today's with what is taken booked. -/
def EntryStep (w w' : GuildBank) (guid now taken : Nat) : Prop :=
  (w'.members = w.members ∧ (taken = 0 ∨ ∃ m, w.members guid = some m ∧ m.rankId = grGuildMaster)) ∨
    ∃ m m1, w.members guid = some m ∧ m.rankId ≠ grGuildMaster ∧
      m1 = m.today (w.getBankMoneyPerDay m.rankId) now ∧ taken ≤ m1.bankRemMoney ∧
      w'.members = Function.update w.members guid (some
        (if m1.bankRemMoney < withdrawMoneyUnlimited then
          { m1 with bankRemMoney := m1.bankRemMoney - taken, spent := m1.spent + taken }
        else m1))

theorem rem_entryStep (guid now : Nat) : EntryStep w (w.getMemberMoneyWithdrawRem guid now).1 guid now 0 := by
  cases hm : w.members guid with
  | none => rw [rem_none hm]; exact Or.inl ⟨rfl, Or.inl rfl⟩
  | some m =>
    by_cases hrank : m.rankId = grGuildMaster
    · rw [rem_guildMaster hm hrank]; exact Or.inl ⟨rfl, Or.inl rfl⟩
    · rw [rem_eq hm hrank]
      refine Or.inr ⟨m, _, hm, hrank, rfl, Nat.zero_le _, ?_⟩
      simp only [Nat.sub_zero, Nat.add_zero, ite_self]
      rfl

/-- **`MemberMoneyWithdraw`** fails without a trace but for today's allowance, or takes the amount
from the bank and books it. -/
theorem memberMoneyWithdraw_cases (amount guid now : Nat) (hpos : amount ≠ 0) (hbank : w.bankMoney < 2 ^ 63) :
    (w.memberMoneyWithdraw amount guid now = ((w.getMemberMoneyWithdrawRem guid now).1, false) ∧
        ¬(amount ≤ (w.getMemberMoneyWithdrawRem guid now).2 ∧ amount ≤ w.bankMoney)) ∨
      ((w.memberMoneyWithdraw amount guid now).2 = true ∧
        (amount ≤ (w.getMemberMoneyWithdrawRem guid now).2 ∧ amount ≤ w.bankMoney) ∧
        (w.memberMoneyWithdraw amount guid now).1.bankMoney = w.bankMoney - amount ∧
        (w.memberMoneyWithdraw amount guid now).1.players = w.players ∧
        EntryStep w (w.memberMoneyWithdraw amount guid now).1 guid now amount) := by
  obtain ⟨hsame, hplayers⟩ := rem_same (w := w) guid now
  by_cases hcheck : (w.getMemberMoneyWithdrawRem guid now).2 < amount ∨
      (w.getMemberMoneyWithdrawRem guid now).1.bankMoney < amount
  · refine Or.inl ⟨?_, ?_⟩
    · unfold memberMoneyWithdraw
      rw [if_pos hcheck]
    · rw [hsame] at hcheck
      omega
  have hpay : amount ≤ (w.getMemberMoneyWithdrawRem guid now).2 ∧ amount ≤ w.bankMoney := by
    rw [hsame] at hcheck
    omega
  right
  unfold memberMoneyWithdraw
  simp only
  rw [if_neg hcheck]
  cases hm : w.members guid with
  | none =>
    rw [rem_none hm] at hpay
    exact absurd (Nat.le_zero.1 hpay.1) hpos
  | some m =>
    by_cases hrank : m.rankId = grGuildMaster
    · rw [rem_guildMaster hm hrank] at hpay ⊢
      simp only [lt_irrefl, if_false]
      exact ⟨trivial, hpay, setBankMoney_bankMoney (by omega), rfl, Or.inl ⟨rfl, Or.inr ⟨m, hm, hrank⟩⟩⟩
    · rw [rem_eq hm hrank] at hpay ⊢
      simp only at hpay
      have hentry : ((w.setMember guid (m.today (w.getBankMoneyPerDay m.rankId) now)).setBankMoney
          (w.bankMoney - amount)).members guid = some (m.today (w.getBankMoneyPerDay m.rankId) now) :=
        Function.update_self _ _ _
      have hmoney : ((w.setMember guid (m.today (w.getBankMoneyPerDay m.rankId) now)).setBankMoney
          (w.bankMoney - amount)).bankMoney = w.bankMoney - amount := setBankMoney_bankMoney (by omega)
      simp only [setMember_bankMoney]
      by_cases hlim : (m.today (w.getBankMoneyPerDay m.rankId) now).bankRemMoney < withdrawMoneyUnlimited
      · rw [if_pos hlim, hentry]
        refine ⟨rfl, hpay, hmoney, rfl, Or.inr ⟨m, _, hm, hrank, rfl, hpay.1, ?_⟩⟩
        rw [if_pos hlim]
        exact Function.update_idem _ _ _
      · rw [if_neg hlim]
        refine ⟨rfl, hpay, hmoney, rfl, Or.inr ⟨m, _, hm, hrank, rfl, hpay.1, ?_⟩⟩
        rw [if_neg hlim]
        rfl

theorem EntryStep.again {w' : GuildBank} {guid now taken : Nat} (h : EntryStep w w' guid now taken) (hpos : taken ≠ 0)
    (hw : ∀ m, w.members guid = some m → Booked m) (hnow : now + dayMinutes < 2 ^ 32) :
    (w'.getMemberMoneyWithdrawRem guid now).1 = w' := by
  rcases h with ⟨hsame, hzero | ⟨m, hm, hrank⟩⟩ | ⟨m, m1, hm, hrank, rfl, _, hmembers⟩
  · exact absurd hzero hpos
  · rw [rem_guildMaster (by rw [hsame]; exact hm) hrank]
  · generalize hm2 : (if (m.today (w.getBankMoneyPerDay m.rankId) now).bankRemMoney < withdrawMoneyUnlimited then _
      else _) = m2 at hmembers
    have hentry : w'.members guid = some m2 := by rw [hmembers, Function.update_self]
    have hkept : m2.rankId = m.rankId ∧
        m2.bankResetTimeMoney = (m.today (w.getBankMoneyPerDay m.rankId) now).bankResetTimeMoney := by
      rw [← hm2]
      split <;> exact ⟨GuildMember.today_rankId, rfl⟩
    rw [rem_eq hentry (by rw [hkept.1]; exact hrank),
      GuildMember.today_of_clock (hw m hm) hnow hkept.2, setMember_self hentry]

/-- **`HandleGuildBankWithdraw`** refuses without a trace but for today's allowance, or pays out. -/
theorem withdraw_cases (h : w.Sound) (pl money : Nat) (nearBank : Bool) (now : Nat) (hnow : now + dayMinutes < 2 ^ 32) :
    ((w.handleGuildBankWithdraw pl money nearBank now).2 = false ∧
        ((w.handleGuildBankWithdraw pl money nearBank now).1 = w ∨
          (w.handleGuildBankWithdraw pl money nearBank now).1 = (w.getMemberMoneyWithdrawRem pl now).1)) ∨
      ((w.handleGuildBankWithdraw pl money nearBank now).2 = true ∧ w.Payable pl money nearBank now ∧
        (w.handleGuildBankWithdraw pl money nearBank now).1.bankMoney = w.bankMoney - u32 money ∧
        (w.handleGuildBankWithdraw pl money nearBank now).1.players = (w.modifyMoneyOf pl (toInt32 money)).players ∧
        EntryStep w (w.handleGuildBankWithdraw pl money nearBank now).1 pl now (u32 money)) := by
  unfold handleGuildBankWithdraw
  by_cases hamount : u32 money = 0
  · rw [if_pos hamount]
    exact Or.inl ⟨rfl, Or.inl rfl⟩
  rw [if_neg hamount]
  by_cases hnear : nearBank = false
  · rw [if_pos hnear]
    exact Or.inl ⟨rfl, Or.inl rfl⟩
  rw [if_neg hnear]
  by_cases hguild : (w.players pl).inGuild = false
  · rw [if_pos hguild]
    exact Or.inl ⟨rfl, Or.inl rfl⟩
  rw [if_neg hguild]
  by_cases hbank : w.bankMoney < u32 money
  · rw [if_pos hbank]
    exact Or.inl ⟨rfl, Or.inl rfl⟩
  rw [if_neg hbank]
  by_cases hright : w.hasRankRight (w.players pl).rank grRightWithdrawGold = false
  · rw [if_pos hright]
    exact Or.inl ⟨rfl, Or.inl rfl⟩
  rw [if_neg hright]
  simp only
  rcases memberMoneyWithdraw_cases (u32 money) pl now hamount h.bank with ⟨heq, _⟩ | ⟨hok, hpay, hmoney, hplayers, hentry⟩
  · rw [heq]
    exact Or.inl ⟨rfl, Or.inr rfl⟩
  · rw [if_neg (by simp [hok])]
    have hentry' : EntryStep w ((w.memberMoneyWithdraw (u32 money) pl now).1.modifyMoneyOf pl (toInt32 money)) pl now
        (u32 money) := hentry
    rw [hentry'.again hamount (fun m hm => h.booked pl m hm) hnow]
    refine Or.inr ⟨rfl, ⟨hamount, by simpa using hnear, by simpa using hguild, hpay.2, by simpa using hright, hpay.1⟩,
      hmoney, ?_, hentry'⟩
    unfold modifyMoneyOf
    rw [hplayers]

theorem deposit_cases (pl money : Nat) (nearBank : Bool) :
    (w.handleGuildBankDeposit pl money nearBank = (w, false)) ∨
      (w.handleGuildBankDeposit pl money nearBank =
          ((w.setBankMoney (w.bankMoney + u32 money)).modifyMoneyOf pl (-toInt32 money), true) ∧
        u32 money ≤ (w.players pl).money) := by
  unfold handleGuildBankDeposit
  split
  · exact Or.inl rfl
  split
  · exact Or.inl rfl
  split
  · exact Or.inl rfl
  split
  · exact Or.inl rfl
  · next hpurse => exact Or.inr ⟨rfl, Nat.not_lt.1 hpurse⟩

/-! ### Gold -/

theorem toInt32_u32 (n : Nat) : toInt32 (u32 n) = toInt32 n := by
  unfold toInt32 u32
  rw [Nat.mod_mod]

theorem gold_moved {w' : GuildBank} {pl : Nat} (hothers : ∀ x, x ≠ pl → (w'.players x).money = (w.players x).money)
    (h : w'.bankMoney + (w'.players pl).money = w.bankMoney + (w.players pl).money) (S : Finset Nat) (hpl : pl ∈ S) :
    w'.gold S = w.gold S := by
  have := Ledger.sum_change_one S (fun x => (w'.players x).money) (fun x => (w.players x).money) pl hpl
    fun x _ hne => hothers x hne
  unfold gold
  omega

/-! ### Books -/

/-- **The books after an entry is made**: they are right, and the member's day goes on or is followed by
the next. -/
theorem EntryStep.books {w' : GuildBank} {guid now taken : Nat} (h : EntryStep w w' guid now taken)
    (hw : ∀ g m, w.members g = some m → Booked m) (hnow : now + dayMinutes < 2 ^ 32) (g : Nat) (m' : GuildMember)
    (hm' : w'.members g = some m') :
    Booked m' ∧ ∃ m, w.members g = some m ∧ (m'.rankId ≠ grGuildMaster → m'.granted < withdrawMoneyUnlimited →
      (m'.bankResetTimeMoney = m.bankResetTimeMoney ∧ m'.granted = m.granted ∧
          m'.spent = m.spent + if g = guid then taken else 0) ∨
        (m.bankResetTimeMoney + dayMinutes < now ∧ m'.bankResetTimeMoney = now ∧
          m'.granted = w.getBankMoneyPerDay m.rankId ∧ m'.spent = if g = guid then taken else 0)) := by
  rcases h with ⟨hsame, hzero⟩ | ⟨m, m1, hm, hrank, hm1, htaken, hmembers⟩
  · rw [hsame] at hm'
    refine ⟨hw g m' hm', m', hm', fun hrank _ => Or.inl ⟨rfl, rfl, ?_⟩⟩
    split
    · next hg =>
      subst hg
      rcases hzero with rfl | ⟨m, hm, hmaster⟩
      · rfl
      · cases hm.symm.trans hm'
        exact absurd hmaster hrank
    · rfl
  rw [hmembers] at hm'
  by_cases hg : g = guid
  · subst hg
    rw [Function.update_self] at hm'
    have hbooked : Booked m1 := hm1 ▸ GuildMember.today_booked (hw g m hm) hnow
    have hday := GuildMember.today_cases (w.getBankMoneyPerDay m.rankId) (hw g m hm) hnow
    rw [← hm1] at hday
    simp only [if_true]
    by_cases hlim : m1.bankRemMoney < withdrawMoneyUnlimited
    · rw [if_pos hlim] at hm'
      cases hm'
      refine ⟨⟨fun hgrant => ?_, hbooked.clock⟩, m, hm, fun _ _ => ?_⟩
      · have := hbooked.rest hgrant
        show m1.spent + taken + (m1.bankRemMoney - taken) = m1.granted
        omega
      · rcases hday with rfl | ⟨hlt, hstart, hgranted, hspent⟩
        · exact Or.inl ⟨rfl, rfl, rfl⟩
        · exact Or.inr ⟨hlt, hstart, hgranted, by show m1.spent + taken = taken; omega⟩
    · rw [if_neg hlim] at hm'
      cases hm'
      refine ⟨hbooked, m, hm, fun _ hgrant => ?_⟩
      -- who has an unlimited rest was granted no less
      have := hbooked.rest hgrant
      omega
  · rw [Function.update_of_ne hg] at hm'
    refine ⟨hw g m' hm', m', hm', fun _ _ => Or.inl ⟨rfl, rfl, ?_⟩⟩
    rw [if_neg hg]
    rfl

/-- **A deposit that goes through** takes from the purse what the bank gets. -/
theorem deposit_gold (h : w.Sound) {pl money : Nat} (hheed : w.bankMoney + u32 money < 2 ^ 63)
    (hpurse : u32 money ≤ (w.players pl).money) :
    let w' := (w.setBankMoney (w.bankMoney + u32 money)).modifyMoneyOf pl (-toInt32 money)
    w'.bankMoney = w.bankMoney + u32 money ∧ (w'.players pl).money = (w.players pl).money - u32 money := by
  refine ⟨setBankMoney_bankMoney (w := w) hheed, ?_⟩
  show (Function.update w.players pl _ pl).money = _
  rw [Function.update_self]
  show modifyMoney (w.players pl).money (-toInt32 money) = _
  rw [← toInt32_u32, modifyMoney_pay _ _ hpurse (h.purses pl)]

/-- **A withdrawal into a purse with room** gives it what the bank pays. -/
theorem withdraw_gold (h : w.Sound) {pl money : Nat} (hroom : (w.players pl).money + u32 money ≤ maxMoneyAmount) :
    ((w.modifyMoneyOf pl (toInt32 money)).players pl).money = (w.players pl).money + u32 money := by
  show (Function.update w.players pl _ pl).money = _
  rw [Function.update_self]
  show modifyMoney (w.players pl).money (toInt32 money) = _
  rw [← toInt32_u32, modifyMoney_receive _ _ (h.purses pl) (by omega), Nat.min_eq_left hroom]

theorem modifyMoneyOf_others (pl : Nat) (d : Int) (x : Nat) (hx : x ≠ pl) :
    (w.modifyMoneyOf pl d).players x = w.players x := Function.update_of_ne hx _ _

/-! ## One request, a run -/

theorem Lawful.of_eq {r : BankRequest} {w' : GuildBank} {ok : Bool} (heq : w.handle r = (w', ok))
    (hgold : ∀ S : Finset Nat, r.player ∈ S → w'.gold S = w.gold S)
    (hrefused : ok = false → w' = w ∨
      ∃ now, r.minute = some now ∧ w' = (w.getMemberMoneyWithdrawRem r.player now).1)
    (hdays : ∀ guid m', w'.members guid = some m' → m'.rankId ≠ grGuildMaster → m'.granted < withdrawMoneyUnlimited →
      m'.spent ≤ m'.granted ∧ ∃ m, w.members guid = some m ∧ w.DayGoesOn r guid m m') : w.Lawful r := by
  refine ⟨fun S hS => ?_, fun hok => ?_, fun guid m' hm' => ?_⟩
  · rw [heq]
    exact hgold S hS
  · rw [heq] at hok ⊢
    exact hrefused hok
  · rw [heq] at hm'
    exact hdays guid m' hm'

theorem days_kept (h : w.Sound) {r : BankRequest} (htaken : ∀ g, w.taken r g = 0) (guid : Nat) (m' : GuildMember)
    (hm' : w.members guid = some m') (hlim : m'.granted < withdrawMoneyUnlimited) :
    m'.spent ≤ m'.granted ∧ ∃ m, w.members guid = some m ∧ w.DayGoesOn r guid m m' := by
  have := (h.booked guid m' hm').rest hlim
  exact ⟨by omega, m', hm', Or.inl ⟨rfl, rfl, by rw [htaken]; rfl⟩⟩

theorem deposit_spec (h : w.Sound) (pl money : Nat) (nearBank : Bool) (hheed : w.bankMoney + u32 money < 2 ^ 63) :
    w.Lawful (.deposit pl money nearBank) ∧ (w.handle (.deposit pl money nearBank)).1.Sound := by
  rcases deposit_cases (w := w) pl money nearBank with heq | ⟨heq, hpurse⟩
  · have hhandle : w.handle (.deposit pl money nearBank) = (w, false) := heq
    refine ⟨.of_eq hhandle (fun _ _ => rfl) (fun _ => Or.inl rfl) fun guid m' hm' _ => ?_, by rw [hhandle]; exact h⟩
    exact days_kept h (fun _ => rfl) guid m' hm'
  · have hhandle : w.handle (.deposit pl money nearBank) = _ := heq
    obtain ⟨hbank, hmoney⟩ := deposit_gold h hheed hpurse
    generalize hw' : (w.setBankMoney (w.bankMoney + u32 money)).modifyMoneyOf pl (-toInt32 money) = w' at *
    have hothers : ∀ x, x ≠ pl → w'.players x = w.players x := fun x hx => by
      rw [← hw']
      exact Function.update_of_ne hx _ _
    have hmembers : w'.members = w.members := by rw [← hw']; rfl
    refine ⟨.of_eq hhandle (fun S hS => ?_) (fun hok => (nomatch hok)) fun guid m' hm' _ => ?_, ?_⟩
    · exact gold_moved (fun x hx => congrArg GuildPlayer.money (hothers x hx)) (by rw [hbank, hmoney]; omega) S hS
    · rw [hmembers] at hm'
      exact days_kept h (fun _ => rfl) guid m' hm'
    · rw [hhandle]
      refine ⟨fun x => ?_, by rw [hbank]; exact hheed, by rw [hmembers]; exact h.booked⟩
      by_cases hx : x = pl
      · have := h.purses pl
        rw [hx, hmoney]
        omega
      · rw [hothers x hx]
        exact h.purses x

theorem EntryStep.days {r : BankRequest} {w' : GuildBank} {now taken : Nat} (h : EntryStep w w' r.player now taken)
    (hs : w.Sound) (hnow : now + dayMinutes < 2 ^ 32) (hminute : r.minute = some now)
    (htaken : ∀ g, w.taken r g = if g = r.player then taken else 0) (guid : Nat) (m' : GuildMember)
    (hm' : w'.members guid = some m') (hrank : m'.rankId ≠ grGuildMaster) (hlim : m'.granted < withdrawMoneyUnlimited) :
    m'.spent ≤ m'.granted ∧ ∃ m, w.members guid = some m ∧ w.DayGoesOn r guid m m' := by
  obtain ⟨hbooked, m, hm, hday⟩ := h.books hs.booked hnow guid m' hm'
  have := hbooked.rest hlim
  refine ⟨by omega, m, hm, ?_⟩
  unfold DayGoesOn
  rw [htaken]
  rcases hday hrank hlim with h1 | ⟨h1, h2, h3, h4⟩
  · exact Or.inl h1
  · exact Or.inr ⟨now, hminute, h1, h2, h3, h4⟩

theorem asked_spec (h : w.Sound) {r : BankRequest} {now : Nat} {w' : GuildBank} {ok : Bool}
    (hw' : w' = w ∨ w' = (w.getMemberMoneyWithdrawRem r.player now).1) (heq : w.handle r = (w', ok))
    (hnow : now + dayMinutes < 2 ^ 32) (hminute : r.minute = some now) (htaken : ∀ g, w.taken r g = 0) :
    w.Lawful r ∧ (w.handle r).1.Sound := by
  rcases hw' with rfl | rfl
  · refine ⟨.of_eq heq (fun _ _ => rfl) (fun _ => Or.inl rfl) fun guid m' hm' _ => ?_, by rw [heq]; exact h⟩
    exact days_kept h htaken guid m' hm'
  · obtain ⟨hbank, hplayers⟩ := rem_same (w := w) r.player now
    have hentry := rem_entryStep (w := w) r.player now
    refine ⟨.of_eq heq (fun S _ => ?_) (fun _ => Or.inr ⟨now, hminute, rfl⟩) ?_, ?_⟩
    · unfold gold
      rw [hbank, hplayers]
    · exact hentry.days h hnow hminute fun g => by rw [htaken, ite_self]
    · rw [heq]
      exact ⟨by rw [hplayers]; exact h.purses, by rw [hbank]; exact h.bank, fun g m' hm' =>
        (hentry.books h.booked hnow g m' hm').1⟩

theorem withdraw_spec (h : w.Sound) (pl money : Nat) (nearBank : Bool) (now : Nat) (hnow : now + dayMinutes < 2 ^ 32)
    (hroom : w.Payable pl money nearBank now → (w.players pl).money + u32 money ≤ maxMoneyAmount) :
    w.Lawful (.withdraw pl money nearBank now) ∧ (w.handle (.withdraw pl money nearBank now)).1.Sound := by
  rcases withdraw_cases h pl money nearBank now hnow with ⟨hok, hw'⟩ | ⟨hok, hpay, hbank, hplayers, hentry⟩
  · have hhandle : w.handle (.withdraw pl money nearBank now) = (_, false) := Prod.ext rfl hok
    refine asked_spec h hw' hhandle hnow rfl fun g => ?_
    unfold taken
    rw [hhandle]
    simp
  · have hhandle : w.handle (.withdraw pl money nearBank now) =
        ((w.handleGuildBankWithdraw pl money nearBank now).1, true) := Prod.ext rfl hok
    generalize (w.handleGuildBankWithdraw pl money nearBank now).1 = w' at *
    have hmoney := withdraw_gold h (hroom hpay)
    have hothers := modifyMoneyOf_others (w := w) pl (toInt32 money)
    have hpurse := hroom hpay
    have hle := hpay.bank
    have := h.bank
    refine ⟨.of_eq hhandle (fun S hS => ?_) (fun h => (nomatch h)) ?_, ?_⟩
    · refine gold_moved (fun x (hx : x ≠ pl) => ?_) ?_ S hS
      · rw [hplayers, hothers x hx]
      · rw [hbank, hplayers, hmoney]
        omega
    · have htaken : ∀ g, w.taken (.withdraw pl money nearBank now) g = if g = pl then u32 money else 0 := by
        intro g
        unfold taken
        rw [hhandle]
        simp
      exact EntryStep.days (r := .withdraw pl money nearBank now) hentry h hnow rfl htaken
    · rw [hhandle]
      refine ⟨fun x => ?_, by rw [hbank]; omega, fun g m' hm' => (hentry.books h.booked hnow g m' hm').1⟩
      rw [hplayers]
      by_cases hx : x = pl
      · rw [hx, hmoney]
        exact hpurse
      · rw [hothers x hx]
        exact h.purses x

/-- **One request** that is heedful is lawful and leaves a sound bank. -/
theorem handle_spec (h : w.Sound) (r : BankRequest) (hheed : w.Heedful r) : w.Lawful r ∧ (w.handle r).1.Sound := by
  cases r with
  | deposit pl money nearBank => exact deposit_spec h pl money nearBank hheed
  | withdraw pl money nearBank now => exact withdraw_spec h pl money nearBank now hheed.1 hheed.2
  | getMoneyAmount pl now =>
    by_cases hguild : (w.players pl).inGuild = false
    · exact asked_spec h (Or.inl rfl) (if_pos hguild) hheed rfl fun _ => rfl
    · exact asked_spec h (Or.inr rfl) (if_neg hguild) hheed rfl fun _ => rfl

/-- **A guild's money** along every heedful run: no request makes or loses gold, a refused one leaves
everything but for today's allowance, and no member with a limited rank withdraws more in a day than his rank
granted at its beginning. -/
theorem bank_lawful (h : w.Sound) (rs : List BankRequest)
    (hheed : Transition.Along after Heedful w rs) : Transition.Along after Lawful w rs :=
  Transition.along_of_invariant (I := Sound) (fun w r hs hr => (handle_spec (w := w) hs r hr).2)
    (fun w r hs hr => (handle_spec (w := w) hs r hr).1) h hheed

/-- Player 1 leads the guild and holds most of what a purse can hold. -/
def sample : GuildBank where
  ranks := [⟨0xDF1FF, 0xFFFFFFFF⟩, ⟨0xDF1FF, 500⟩]
  members := fun g => if g = 1 then some { rankId := 0 } else if g = 2 then some { rankId := 1 } else none
  bankMoney := 3000000000
  players := fun pl => { money := if pl = 1 then 2000000000 else 100, inGuild := true, rank := if pl = 1 then 0 else 1 }

/-- A member's day, and the beginning of his next. -/
def sampleRun : List BankRequest :=
  [.withdraw 2 300 true 5000, .withdraw 2 300 true 5001, .deposit 2 50 true, .withdraw 2 400 true 6441]

theorem sample_sound : sample.Sound := by
  refine ⟨fun pl => ?_, by decide, fun g m hm => ?_⟩
  · unfold sample maxMoneyAmount
    simp only
    split <;> decide
  · unfold sample at hm
    simp only at hm
    split at hm
    · cases hm
      exact ⟨fun _ => rfl, by decide⟩
    split at hm
    · cases hm
      exact ⟨fun _ => rfl, by decide⟩
    · exact nomatch hm

theorem bank_lawful_sample : Transition.Along after Lawful sample sampleRun := by
  have hdeposit : ((sample.after (.withdraw 2 300 true 5000)).after (.withdraw 2 300 true 5001)).Heedful
      (.deposit 2 50 true) := by
    show _ < _
    decide
  exact bank_lawful sample_sound sampleRun
    ⟨⟨by decide, fun _ => by decide⟩, ⟨by decide, fun _ => by decide⟩, hdeposit, ⟨by decide, fun _ => by decide⟩, trivial⟩

/-- **Gold is lost** when a full purse is paid. -/
theorem withdraw_loses : ¬ ∀ (w : GuildBank), w.Sound → ∀ r S, r.player ∈ S → (w.after r).gold S = w.gold S := by
  intro h
  have := h sample sample_sound (.withdraw 1 200000000 true 5000) {1} (by decide)
  exact absurd this (by decide)

end GuildBank

end BlizzLike
