import BlizzLikeCore.Guild.BankItems
import BlizzLikeCore.Lib.Transition

/-!
# What a member may take out of a tab

The daily allowance of a member at a tab of the bank, and what a request does to it: it stays, it is
asked for and then renewed if the day is over, and when an item is taken out of the tab one is paid
of it.

Between two tabs the handler asks if something is left and does not pay (`bankToBank`), so there is
no bound on what is moved out of a tab into another.  Without such moves no member takes more in a day
than his rank granted at its beginning, and nobody takes or puts without the right
(`allowances_kept`).
-/

namespace BlizzLike

/-! ## The day of a member at a tab -/

/-- What is kept of the day of a member at a tab. -/
structure TabDay where
  reset : Nat
  rem : Nat
  granted : Nat
  taken : Nat
  deriving DecidableEq, Repr

namespace TabDay

/-- What is left is asked for: a day that is over is followed by the next. -/
def ask (perDay now : Nat) (d : TabDay) : TabDay :=
  if sub32 (u32 now) d.reset ≥ dayMinutes then ⟨u32 now, perDay, perDay, 0⟩ else d

def note (n : Nat) (d : TabDay) : TabDay := { d with taken := d.taken + n }

/-- One is paid of what is left. -/
def pay (d : TabDay) : TabDay :=
  if d.rem ≠ 0 ∧ d.rem < withdrawSlotUnlimited then { d with rem := d.rem - 1 } else d

/-- The books are right. -/
def Booked (d : TabDay) : Prop := d.granted < withdrawSlotUnlimited → d.taken + d.rem = d.granted

/-- A day goes on in which `n` are taken, or it is over and the next begins with them. -/
def GoesOn (perDay now n : Nat) (d d' : TabDay) : Prop :=
  (d'.reset = d.reset ∧ d'.granted = d.granted ∧ d'.taken = d.taken + n) ∨
    (dayMinutes ≤ sub32 (u32 now) d.reset ∧ d'.reset = u32 now ∧ d'.granted = perDay ∧ d'.taken = n)

/-- What a request may do to a day: nothing, ask, or ask and take one, which is paid or not. -/
inductive Move (perDay now : Nat) (d : TabDay) : Nat → Bool → TabDay → Prop where
  | same : Move perDay now d 0 true d
  | asked : Move perDay now d 0 true (d.ask perDay now)
  | paid (h : (d.ask perDay now).rem ≠ 0) : Move perDay now d 1 true ((d.ask perDay now).note 1).pay
  | unpaid (h : (d.ask perDay now).rem ≠ 0) : Move perDay now d 1 false ((d.ask perDay now).note 1)

variable {perDay now : Nat} {d d' : TabDay}

theorem sub32_self (a : Nat) : sub32 a a = 0 := by rw [sub32_eq a a (Nat.le_refl a), Nat.sub_self]

theorem ask_idem (d : TabDay) : (d.ask perDay now).ask perDay now = d.ask perDay now := by
  by_cases h : sub32 (u32 now) d.reset ≥ dayMinutes
  · have hask : d.ask perDay now = ⟨u32 now, perDay, perDay, 0⟩ := if_pos h
    rw [hask]
    exact if_neg (by rw [sub32_self]; decide)
  · have hask : d.ask perDay now = d := if_neg h
    rw [hask, hask]

theorem ask_note (n : Nat) (h : d.ask perDay now = d) : (d.note n).ask perDay now = d.note n := by
  unfold ask at h ⊢
  split at h
  · next hover =>
    have hover' : sub32 (u32 now) (d.note n).reset ≥ dayMinutes := hover
    have hreset : u32 now = d.reset := congrArg TabDay.reset h
    rw [hreset, sub32_self] at hover
    exact absurd hover (by decide)
  · next hover =>
    exact if_neg hover

theorem ask_pay (h : d.ask perDay now = d) : d.pay.ask perDay now = d.pay := by
  have hreset : d.pay.reset = d.reset := by
    unfold pay
    split <;> rfl
  unfold ask at h ⊢
  rw [hreset]
  split at h
  · next hover =>
    have he : u32 now = d.reset := congrArg TabDay.reset h
    rw [he, sub32_self] at hover
    exact absurd hover (by decide)
  · next hover => exact if_neg hover

theorem ask_goesOn : GoesOn perDay now 0 d (d.ask perDay now) := by
  unfold ask
  split
  · next hover => exact Or.inr ⟨hover, rfl, rfl, rfl⟩
  · exact Or.inl ⟨rfl, rfl, rfl⟩

theorem ask_booked (h : d.Booked) : (d.ask perDay now).Booked := by
  unfold ask
  split
  · exact fun _ => Nat.zero_add _
  · exact h

theorem GoesOn.note (n : Nat) (h : GoesOn perDay now 0 d d') : GoesOn perDay now n d (d'.note n) := by
  rcases h with ⟨h1, h2, h3⟩ | ⟨h0, h1, h2, h3⟩
  · exact Or.inl ⟨h1, h2, congrArg (· + n) h3⟩
  · exact Or.inr ⟨h0, h1, h2, (congrArg (· + n) h3).trans (Nat.zero_add n)⟩

theorem pay_fields (d : TabDay) : d.pay.reset = d.reset ∧ d.pay.granted = d.granted ∧ d.pay.taken = d.taken := by
  unfold pay
  split <;> exact ⟨rfl, rfl, rfl⟩

/-- **Every move** is one of a day that goes on or is over. -/
theorem Move.goesOn {n : Nat} {p : Bool} (h : Move perDay now d n p d') : GoesOn perDay now n d d' := by
  cases h with
  | same => exact Or.inl ⟨rfl, rfl, rfl⟩
  | asked => exact ask_goesOn
  | unpaid _ => exact ask_goesOn.note 1
  | paid _ =>
    obtain ⟨h1, h2, h3⟩ := pay_fields ((d.ask perDay now).note 1)
    unfold GoesOn
    rw [h1, h2, h3]
    exact ask_goesOn.note 1

/-- **A paid move** keeps the books right. -/
theorem Move.booked {n : Nat} (h : Move perDay now d n true d') (hb : d.Booked) : d'.Booked := by
  cases h with
  | same => exact hb
  | asked => exact ask_booked hb
  | paid hrem =>
    have hk : (d.ask perDay now).Booked := ask_booked hb
    generalize d.ask perDay now = k at hk hrem
    intro hlt
    rw [(pay_fields _).2.1] at hlt
    have hsum := hk hlt
    have hpay : (k.note 1).pay = { k.note 1 with rem := k.rem - 1 } := if_pos ⟨hrem, by
      show k.rem < withdrawSlotUnlimited
      have : (k.note 1).granted = k.granted := rfl
      omega⟩
    rw [hpay]
    show k.taken + 1 + (k.rem - 1) = k.granted
    omega

theorem Move.ask {n : Nat} {p : Bool} (h : Move perDay now d n p d') : Move perDay now d n p (d'.ask perDay now) := by
  have hfresh : ((d.ask perDay now).note 1).ask perDay now = (d.ask perDay now).note 1 := ask_note 1 (ask_idem d)
  cases h with
  | same => exact .asked
  | asked =>
    rw [ask_idem]
    exact .asked
  | unpaid hrem =>
    rw [hfresh]
    exact .unpaid hrem
  | paid hrem =>
    rw [ask_pay hfresh]
    exact .paid hrem

theorem Booked.taken_le (h : d.Booked) (hlt : d.granted < withdrawSlotUnlimited) : d.taken ≤ d.granted := by
  have := h hlt
  omega

end TabDay

/-! ## The members -/

namespace TabMember

variable {ranks : List RankTabs} {m m' : TabMember} {tab t now : Nat}

def dayAt (m : TabMember) (t : Nat) : TabDay :=
  ⟨m.bankResetTimeTab t, m.bankRemSlotsTab t, m.granted t, m.taken t⟩

/-- The member's requests at the tab are counted: he is not the guild master and may view it. -/
def counted (ranks : List RankTabs) (m : TabMember) (tab : Nat) : Bool :=
  m.rankId != grGuildMaster && getBankRights ranks m.rankId tab &&& guildBankRightViewTab == guildBankRightViewTab

theorem newDay_dayAt : (m.newDay ranks tab now).dayAt t =
    if t = tab then ⟨u32 now, getBankSlotPerDay ranks m.rankId tab, getBankSlotPerDay ranks m.rankId tab, 0⟩
    else m.dayAt t := by
  unfold newDay dayAt
  by_cases h : t = tab
  · subst h
    simp
  · simp [h]

theorem slotWithdrawRem_of_counted (h : m.counted ranks tab = true) :
    m.slotWithdrawRem ranks tab now =
      if sub32 (u32 now) (m.bankResetTimeTab tab) ≥ dayMinutes then
        (m.newDay ranks tab now, getBankSlotPerDay ranks m.rankId tab)
      else (m, m.bankRemSlotsTab tab) := by
  unfold counted at h
  rw [Bool.and_eq_true, bne_iff_ne, beq_iff_eq] at h
  unfold slotWithdrawRem
  rw [if_neg h.1, if_neg (not_not.2 h.2)]

theorem slotWithdrawRem_of_not_counted (h : m.counted ranks tab = false) :
    m.slotWithdrawRem ranks tab now = (m, if m.rankId = grGuildMaster then withdrawSlotUnlimited else 0) := by
  unfold counted at h
  rw [Bool.and_eq_false_iff, bne_eq_false_iff_eq, beq_eq_false_iff_ne] at h
  unfold slotWithdrawRem
  by_cases hm : m.rankId = grGuildMaster
  · rw [if_pos hm, if_pos hm]
  · rw [if_neg hm, if_neg hm, if_pos (h.resolve_left hm)]

theorem slotWithdrawRem_rankId (ranks : List RankTabs) (m : TabMember) (tab now : Nat) :
    (m.slotWithdrawRem ranks tab now).1.rankId = m.rankId := by
  cases h : m.counted ranks tab with
  | false => rw [slotWithdrawRem_of_not_counted h]
  | true =>
    rw [slotWithdrawRem_of_counted h]
    split <;> rfl

theorem slotWithdrawRem_dayAt (ranks : List RankTabs) (m : TabMember) (tab t now : Nat) :
    (m.slotWithdrawRem ranks tab now).1.dayAt t =
      if t = tab ∧ m.counted ranks tab = true then (m.dayAt t).ask (getBankSlotPerDay ranks m.rankId tab) now
      else m.dayAt t := by
  cases h : m.counted ranks tab with
  | false =>
    rw [slotWithdrawRem_of_not_counted h]
    simp
  | true =>
    rw [slotWithdrawRem_of_counted h]
    by_cases hover : sub32 (u32 now) (m.bankResetTimeTab tab) ≥ dayMinutes
    · rw [if_pos hover, newDay_dayAt]
      by_cases ht : t = tab
      · subst ht
        have hask : (m.dayAt t).ask (getBankSlotPerDay ranks m.rankId t) now =
          ⟨u32 now, getBankSlotPerDay ranks m.rankId t, getBankSlotPerDay ranks m.rankId t, 0⟩ := if_pos hover
        rw [hask, if_pos rfl, if_pos ⟨rfl, rfl⟩]
      · rw [if_neg ht, if_neg fun hc => ht hc.1]
    · rw [if_neg hover]
      by_cases ht : t = tab
      · subst ht
        have hask : (m.dayAt t).ask (getBankSlotPerDay ranks m.rankId t) now = m.dayAt t := if_neg hover
        rw [hask, if_pos ⟨rfl, rfl⟩]
      · rw [if_neg fun hc => ht hc.1]

theorem slotWithdrawRem_ne_zero (hm : m.rankId ≠ grGuildMaster) (h : (m.slotWithdrawRem ranks tab now).2 ≠ 0) :
    m.counted ranks tab = true ∧
      (m.slotWithdrawRem ranks tab now).2 = ((m.dayAt tab).ask (getBankSlotPerDay ranks m.rankId tab) now).rem := by
  cases hc : m.counted ranks tab with
  | false =>
    rw [slotWithdrawRem_of_not_counted hc] at h
    exact absurd (if_neg hm) h
  | true =>
    rw [slotWithdrawRem_of_counted hc]
    refine ⟨rfl, ?_⟩
    by_cases hover : sub32 (u32 now) (m.bankResetTimeTab tab) ≥ dayMinutes
    · have hask : (m.dayAt tab).ask (getBankSlotPerDay ranks m.rankId tab) now =
        ⟨u32 now, getBankSlotPerDay ranks m.rankId tab, getBankSlotPerDay ranks m.rankId tab, 0⟩ := if_pos hover
      rw [if_pos hover, hask]
    · have hask : (m.dayAt tab).ask (getBankSlotPerDay ranks m.rankId tab) now = m.dayAt tab := if_neg hover
      rw [if_neg hover, hask]
      rfl

theorem note_dayAt (e : BankEvent) : (m.note e).dayAt t = (m.dayAt t).note (if e.takesFrom t then 1 else 0) := rfl

theorem itemWithdraw_rankId (ranks : List RankTabs) (m : TabMember) (tab now : Nat) :
    (m.itemWithdraw ranks tab now).rankId = m.rankId := by
  unfold itemWithdraw
  have h := slotWithdrawRem_rankId ranks m tab now
  generalize m.slotWithdrawRem ranks tab now = r at h
  dsimp only
  split
  · exact h
  split
  · exact h
  · exact h

theorem itemWithdraw_dayAt_of_ne (h : t ≠ tab) : (m.itemWithdraw ranks tab now).dayAt t = m.dayAt t := by
  have hd := slotWithdrawRem_dayAt ranks m tab t now
  rw [if_neg fun hc => h hc.1] at hd
  unfold itemWithdraw
  generalize m.slotWithdrawRem ranks tab now = r at hd
  dsimp only
  split
  · exact hd
  split
  · rw [← hd]
    unfold dayAt
    simp [h]
  · exact hd

theorem itemWithdraw_dayAt (hc : m.counted ranks tab = true)
    (hask : (m.dayAt tab).ask (getBankSlotPerDay ranks m.rankId tab) now = m.dayAt tab) :
    (m.itemWithdraw ranks tab now).dayAt tab = (m.dayAt tab).pay := by
  have hd := slotWithdrawRem_dayAt ranks m tab tab now
  rw [if_pos ⟨rfl, hc⟩, hask] at hd
  have hr : (m.slotWithdrawRem ranks tab now).2 = (m.slotWithdrawRem ranks tab now).1.bankRemSlotsTab tab := by
    rw [slotWithdrawRem_of_counted hc]
    split
    · unfold newDay
      simp
    · rfl
  unfold itemWithdraw
  generalize m.slotWithdrawRem ranks tab now = r at hd hr
  dsimp only
  rw [hr, ← hd]
  unfold TabDay.pay
  split
  · next h0 => exact (if_neg fun hn => hn.1 h0).symm
  next h0 =>
  split
  · next hlt =>
    have hn : (r.1.dayAt tab).rem ≠ 0 ∧ (r.1.dayAt tab).rem < withdrawSlotUnlimited := ⟨h0, hlt⟩
    rw [if_pos hn]
    unfold dayAt
    rw [sub32_eq _ 1 (Nat.pos_of_ne_zero h0)]
    simp
  · next hlt => exact (if_neg fun hn => hlt hn.2).symm

theorem counted_congr (h : m'.rankId = m.rankId) : m'.counted ranks tab = m.counted ranks tab := by
  unfold counted
  rw [h]

theorem hasRights_congr (h : m'.rankId = m.rankId) (rights : Nat) :
    m'.hasRights ranks tab rights = m.hasRights ranks tab rights := by
  unfold hasRights
  rw [h]

theorem note_of_takes_none {e : BankEvent} (h : ∀ t, e.takesFrom t = false) : m.note e = m := by
  unfold note
  simp only [h, Bool.false_eq_true, if_false, Nat.add_zero]

/-- **A member in a request** that takes `n t` items out of tab `t`; in a fair one each is paid. -/
structure Evolves (ranks : List RankTabs) (now : Nat) (n : Nat → Nat) (fair : Bool) (m m' : TabMember) : Prop where
  rankId : m'.rankId = m.rankId
  days : m.rankId ≠ grGuildMaster → ∀ t, ∃ p, (fair = true → p = true) ∧
    TabDay.Move (getBankSlotPerDay ranks m.rankId t) now (m.dayAt t) (n t) p (m'.dayAt t)

variable {n : Nat → Nat} {fair : Bool}

theorem Evolves.refl (m : TabMember) : Evolves ranks now (fun _ => 0) true m m :=
  ⟨rfl, fun _ _ => ⟨true, fun _ => rfl, .same⟩⟩

theorem Evolves.ask (h : Evolves ranks now n fair m m') (tab : Nat) :
    Evolves ranks now n fair m (m'.slotWithdrawRem ranks tab now).1 := by
  refine ⟨(slotWithdrawRem_rankId ..).trans h.rankId, fun hm t => ?_⟩
  obtain ⟨p, hp, hmove⟩ := h.days hm t
  refine ⟨p, hp, ?_⟩
  rw [slotWithdrawRem_dayAt]
  split
  · rw [h.rankId]
    next ht => exact ht.1 ▸ hmove.ask
  · exact hmove

/-- An item is taken out of a tab, after the member was asked for there, and not paid. -/
theorem Evolves.note (h : Evolves ranks now n fair m m') {e : BankEvent} (htab : ∀ t, e.takesFrom t = true → t = tab)
    (hask : m.rankId ≠ grGuildMaster → m'.dayAt tab = (m.dayAt tab).ask (getBankSlotPerDay ranks m.rankId tab) now ∧
      ((m.dayAt tab).ask (getBankSlotPerDay ranks m.rankId tab) now).rem ≠ 0) (hn : n tab = 0) :
    Evolves ranks now (fun t => n t + if e.takesFrom t then 1 else 0) false m (m'.note e) := by
  refine ⟨h.rankId, fun hm t => ?_⟩
  obtain ⟨p, hp, hmove⟩ := h.days hm t
  rw [note_dayAt]
  cases ht : e.takesFrom t with
  | false => exact ⟨p, nofun, hmove⟩
  | true =>
    obtain rfl := htab t ht
    obtain ⟨hd, hrem⟩ := hask hm
    refine ⟨false, nofun, ?_⟩
    rw [hd, hn]
    exact .unpaid hrem

theorem Evolves.paid (m : TabMember) (now : Nat) {e : BankEvent} (htab : ∀ t, e.takesFrom t = true ↔ t = tab)
    (hrem : (m.slotWithdrawRem ranks tab now).2 ≠ 0) :
    Evolves ranks now (fun t => if e.takesFrom t then 1 else 0) true m
      (((m.slotWithdrawRem ranks tab now).1.note e).itemWithdraw ranks tab now) := by
  have hr1 : (m.slotWithdrawRem ranks tab now).1.rankId = m.rankId := slotWithdrawRem_rankId ..
  refine ⟨(itemWithdraw_rankId ..).trans hr1, fun hm t => ⟨true, fun _ => rfl, ?_⟩⟩
  obtain ⟨hc, hr⟩ := slotWithdrawRem_ne_zero hm hrem
  by_cases ht : t = tab
  · subst ht
    have hd := slotWithdrawRem_dayAt ranks m t t now
    rw [if_pos ⟨rfl, hc⟩] at hd
    have hc1 : ((m.slotWithdrawRem ranks t now).1.note e).counted ranks t = true := (counted_congr hr1).trans hc
    have hnote : ((m.slotWithdrawRem ranks t now).1.note e).dayAt t =
        ((m.dayAt t).ask (getBankSlotPerDay ranks m.rankId t) now).note 1 := by
      rw [note_dayAt, (htab t).2 rfl, hd]
      rfl
    rw [itemWithdraw_dayAt hc1, hnote, (htab t).2 rfl]
    · exact .paid (hr ▸ hrem)
    · rw [hnote, show ((m.slotWithdrawRem ranks t now).1.note e).rankId = m.rankId from hr1]
      exact TabDay.ask_note 1 (TabDay.ask_idem _)
  · have hno : e.takesFrom t = false := by
      rw [← Bool.not_eq_true, htab]
      exact ht
    have hd := slotWithdrawRem_dayAt ranks m tab t now
    rw [if_neg fun hc => ht hc.1] at hd
    rw [itemWithdraw_dayAt_of_ne ht, note_dayAt, hd, hno]
    exact .same

end TabMember

/-! ## The bank -/

namespace ItemBank

variable {om : ObjectMgr} {w w' w'' : ItemBank} {v : BankVisit} {es : List BankEvent} {fair : Bool}

/-- What is kept of members and ranks and the log is the same. -/
structure SameBooks (w w' : ItemBank) : Prop where
  members : w'.members = w.members
  ranks : w'.ranks = w.ranks
  log : w'.bankEventLog = w.bankEventLog

theorem SameBooks.refl (w : ItemBank) : SameBooks w w := ⟨rfl, rfl, rfl⟩

theorem SameBooks.trans (h : SameBooks w w') (h' : SameBooks w' w'') : SameBooks w w'' :=
  ⟨h'.members.trans h.members, h'.ranks.trans h.ranks, h'.log.trans h.log⟩

theorem storeItemAt_sameBooks {tab slot g count : Nat} {clone : Bool}
    (h : w.storeItemAt om tab slot g count clone = some w') : SameBooks w w' := by
  unfold storeItemAt at h
  split at h
  · cases h
  split at h
  · split at h
    · exact Option.some.inj h ▸ SameBooks.refl w
    · exact Option.some.inj h ▸ ⟨rfl, rfl, rfl⟩
  · exact Option.some.inj h ▸ ⟨rfl, rfl, rfl⟩

theorem storeItem_sameBooks {tab g : Nat} {dest : List ItemPosCount} (h : storeItem om tab g dest w = some w') :
    SameBooks w w' := by
  induction dest generalizing w with
  | nil => exact Option.some.inj h ▸ SameBooks.refl w
  | cons d ds ih =>
    cases ds with
    | nil => exact storeItemAt_sameBooks h
    | cons d' ds =>
      obtain ⟨w1, h1, h2⟩ := Option.bind_eq_some_iff.1 h
      exact (storeItemAt_sameBooks h1).trans (ih h2)

theorem removeItem_sameBooks {tab slot : Nat} (h : w.removeItem tab slot = some w') : SameBooks w w' := by
  obtain ⟨t, -, rfl⟩ := Option.map_eq_some_iff.1 h
  exact ⟨rfl, rfl, rfl⟩

/-- **A request in the books**: what it logged it had the rights to, and each member's day moved by it. -/
structure Went (w w' : ItemBank) (v : BankVisit) (es : List BankEvent) (fair : Bool) : Prop where
  ranks : w'.ranks = w.ranks
  log : w'.bankEventLog = w.bankEventLog ++ es
  rights : ∀ e ∈ es, e.guid = v.pl ∧ ∀ t,
    (e.takesFrom t = true → w.isMemberHaveRights v.pl t guildBankRightViewTab = true) ∧
      (e.putsInto t = true → w.isMemberHaveRights v.pl t guildBankRightDepositItem = true)
  absent : ∀ guid, w.members guid = none → w'.members guid = none
  members : ∀ guid m, w.members guid = some m → ∃ m', w'.members guid = some m' ∧
    m.Evolves w.ranks v.now (fun t => if guid = v.pl then es.countP fun e => e.takesFrom t else 0) fair m'

theorem Went.refl (w : ItemBank) (v : BankVisit) : Went w w v [] true :=
  ⟨rfl, (List.append_nil _).symm, nofun, fun _ h => h, fun guid m hm => ⟨m, hm, by
    simp only [List.countP_nil, ite_self]
    exact TabMember.Evolves.refl m⟩⟩

theorem Went.books (h : Went w w' v es fair) (hb : SameBooks w' w'') : Went w w'' v es fair :=
  ⟨hb.ranks.trans h.ranks, hb.log.trans h.log, h.rights, fun guid hg => by rw [hb.members]; exact h.absent guid hg,
    fun guid m hm => by rw [hb.members]; exact h.members guid m hm⟩

theorem Went.unfair (h : Went w w' v es fair) : Went w w' v es false :=
  ⟨h.ranks, h.log, h.rights, h.absent, fun guid m hm => by
    obtain ⟨m', hm', he⟩ := h.members guid m hm
    refine ⟨m', hm', he.rankId, fun hne t => ?_⟩
    obtain ⟨p, -, hmove⟩ := he.days hne t
    exact ⟨p, nofun, hmove⟩⟩

theorem slotRem_members (tab guid : Nat) : (w.slotRem v tab).1.members guid =
    (w.members guid).map fun m => if guid = v.pl then (m.slotWithdrawRem w.ranks tab v.now).1 else m := by
  unfold slotRem getMemberSlotWithdrawRem
  by_cases hg : guid = v.pl
  · subst hg
    cases hm : w.members v.pl with
    | none => simp [hm]
    | some m => simp [setMember]
  · split
    · simp [hg]
    · simp [setMember, hg]

theorem slotRem_rest (w : ItemBank) (v : BankVisit) (tab : Nat) : (w.slotRem v tab).1.ranks = w.ranks ∧
    (w.slotRem v tab).1.bankEventLog = w.bankEventLog := by
  unfold slotRem getMemberSlotWithdrawRem
  split <;> exact ⟨rfl, rfl⟩

theorem Went.of_asks (h : Went w w' v es fair) (hr : w''.ranks = w'.ranks) (hl : w''.bankEventLog = w'.bankEventLog)
    {f : Nat → TabMember → TabMember} (hmem : ∀ guid, w''.members guid = (w'.members guid).map (f guid))
    (hf : ∀ guid m, f guid m = m ∨ ∃ tab, f guid m = (m.slotWithdrawRem w'.ranks tab v.now).1) : Went w w'' v es fair := by
  refine ⟨hr.trans h.ranks, hl.trans h.log, h.rights, fun guid hg => ?_, fun guid m hm => ?_⟩
  · rw [hmem, h.absent guid hg]
    rfl
  · obtain ⟨m', hm', he⟩ := h.members guid m hm
    refine ⟨f guid m', by rw [hmem, hm']; rfl, ?_⟩
    rcases hf guid m' with hsame | ⟨tab, hask⟩
    · rw [hsame]
      exact he
    · rw [hask, h.ranks]
      exact he.ask tab

theorem Went.slotRem (h : Went w w' v es fair) (tab : Nat) : Went w (w'.slotRem v tab).1 v es fair :=
  h.of_asks (slotRem_rest w' v tab).1 (slotRem_rest w' v tab).2 (fun guid => slotRem_members tab guid) fun guid m => by
    by_cases hg : guid = v.pl
    · exact Or.inr ⟨tab, if_pos hg⟩
    · exact Or.inl (if_neg hg)

theorem Went.display (h : Went w w' v es fair) (tab : Nat) :
    Went w (w'.displayGuildBankContentUpdate tab v) v es fair := by
  unfold displayGuildBankContentUpdate
  split
  · refine h.of_asks (f := fun guid m =>
      if v.online guid && m.hasRights w'.ranks tab guildBankRightViewTab then (m.slotWithdrawRem w'.ranks tab v.now).1
      else m) rfl rfl (fun _ => rfl) fun guid m => ?_
    split
    · exact Or.inr ⟨tab, rfl⟩
    · exact Or.inl rfl
  · exact h

theorem Went.rights_eq (h : Went w w' v es fair) (guid tab rights : Nat) :
    w'.isMemberHaveRights guid tab rights = w.isMemberHaveRights guid tab rights := by
  unfold isMemberHaveRights
  cases hm : w.members guid with
  | none => rw [h.absent guid hm]
  | some m =>
    obtain ⟨m', hm', he⟩ := h.members guid m hm
    rw [hm', h.ranks]
    exact TabMember.hasRights_congr he.rankId rights

/-! ### What is logged -/

theorem logBankEvent_members (e : BankEvent) (guid : Nat) : (w.logBankEvent e).members guid =
    (w.members guid).map fun m => if guid = e.guid then m.note e else m := rfl

variable {e : BankEvent}

theorem logBankEvent_of_takes_none (h : ∀ t, e.takesFrom t = false) :
    (w.logBankEvent e).members = w.members := by
  funext guid
  rw [logBankEvent_members]
  cases w.members guid with
  | none => rfl
  | some m =>
    rw [Option.map_some, TabMember.note_of_takes_none h, ite_self]

theorem countP_takesFrom_of_none (h : ∀ e ∈ es, ∀ t, e.takesFrom t = false) (t : Nat) :
    (es.countP fun e => e.takesFrom t) = 0 := by
  rw [List.countP_eq_zero]
  intro e he
  rw [h e he t]
  exact Bool.false_ne_true

theorem Went.log_put (h : Went w w' v es fair) (hg : e.guid = v.pl) (hno : ∀ t, e.takesFrom t = false)
    (hput : ∀ t, e.putsInto t = true → w.isMemberHaveRights v.pl t guildBankRightDepositItem = true) :
    Went w (w'.logBankEvent e) v (es ++ [e]) fair := by
  refine ⟨h.ranks, by rw [← List.append_assoc, ← h.log]; rfl, fun e' he' => ?_, ?_, ?_⟩
  · rcases List.mem_append.1 he' with he' | he'
    · exact h.rights e' he'
    · obtain rfl := List.mem_singleton.1 he'
      exact ⟨hg, fun t => ⟨fun ht => (Bool.false_ne_true ((hno t).symm.trans ht)).elim, hput t⟩⟩
  · rw [logBankEvent_of_takes_none hno]
    exact h.absent
  · rw [logBankEvent_of_takes_none hno]
    have hcount : ∀ t, ((es ++ [e]).countP fun e => e.takesFrom t) = es.countP fun e => e.takesFrom t := fun t => by
      rw [List.countP_append, countP_takesFrom_of_none (fun e' he' => List.mem_singleton.1 he' ▸ hno) t, Nat.add_zero]
    simp only [hcount]
    exact h.members

/-- The request's member was asked for at a tab, where something is left for him. -/
def Asked (w w' : ItemBank) (v : BankVisit) (tab : Nat) : Prop :=
  ∀ m m', w.members v.pl = some m → w'.members v.pl = some m' → m.rankId ≠ grGuildMaster →
    m'.dayAt tab = (m.dayAt tab).ask (getBankSlotPerDay w.ranks m.rankId tab) v.now ∧
      ((m.dayAt tab).ask (getBankSlotPerDay w.ranks m.rankId tab) v.now).rem ≠ 0

theorem Went.log_take (h : Went w w' v es fair) {tab : Nat} (hg : e.guid = v.pl)
    (htab : ∀ t, e.takesFrom t = true → t = tab) (hask : Asked w w' v tab)
    (hn : (es.countP fun e => e.takesFrom tab) = 0)
    (hview : w.isMemberHaveRights v.pl tab guildBankRightViewTab = true)
    (hput : ∀ t, e.putsInto t = true → w.isMemberHaveRights v.pl t guildBankRightDepositItem = true) :
    Went w (w'.logBankEvent e) v (es ++ [e]) false := by
  refine ⟨h.ranks, by rw [← List.append_assoc, ← h.log]; rfl, fun e' he' => ?_, fun guid hno => ?_, fun guid m hm => ?_⟩
  · rcases List.mem_append.1 he' with he' | he'
    · exact h.rights e' he'
    · obtain rfl := List.mem_singleton.1 he'
      exact ⟨hg, fun t => ⟨fun ht => htab t ht ▸ hview, hput t⟩⟩
  · rw [logBankEvent_members, h.absent guid hno]
    rfl
  · obtain ⟨m', hm', he⟩ := h.members guid m hm
    rw [logBankEvent_members, hm', hg]
    refine ⟨_, rfl, ?_⟩
    by_cases hpl : guid = v.pl
    · subst hpl
      have hev := he.note (e := e) htab (fun hne => hask m m' hm hm' hne) (by rw [if_pos rfl]; exact hn)
      simp only [if_true, List.countP_append, List.countP_cons, List.countP_nil, Nat.zero_add] at hev ⊢
      exact hev
    · simp only [hpl, if_false] at he ⊢
      exact ⟨he.rankId, fun hne t => (he.days hne t).imp fun p hp => ⟨nofun, hp.2⟩⟩

theorem view_of_slotRem {tab : Nat} (hrem : (w.slotRem v tab).2 ≠ 0) : ∃ m, w.members v.pl = some m ∧
    (m.slotWithdrawRem w.ranks tab v.now).2 ≠ 0 ∧ w.isMemberHaveRights v.pl tab guildBankRightViewTab = true := by
  unfold slotRem getMemberSlotWithdrawRem at hrem
  unfold isMemberHaveRights
  cases hm : w.members v.pl with
  | none =>
    rw [hm] at hrem
    exact absurd rfl hrem
  | some m =>
    rw [hm] at hrem
    refine ⟨m, rfl, hrem, ?_⟩
    show m.hasRights w.ranks tab guildBankRightViewTab = true
    unfold TabMember.hasRights
    by_cases hgm : m.rankId = grGuildMaster
    · rw [hgm]
      rfl
    · have hc := (TabMember.slotWithdrawRem_ne_zero hgm hrem).1
      unfold TabMember.counted at hc
      rw [Bool.and_eq_true] at hc
      rw [hc.2, Bool.or_true]

theorem asked_of_slotRem {tab : Nat} (hrem : (w.slotRem v tab).2 ≠ 0) : Asked w (w.slotRem v tab).1 v tab := by
  intro m m' hm hm' hgm
  obtain ⟨m0, hm0, hrem0, -⟩ := view_of_slotRem hrem
  rw [hm] at hm0
  cases hm0
  rw [slotRem_members, hm, Option.map_some, if_pos rfl] at hm'
  cases hm'
  obtain ⟨hc, hr⟩ := TabMember.slotWithdrawRem_ne_zero hgm hrem0
  rw [TabMember.slotWithdrawRem_dayAt, if_pos ⟨rfl, hc⟩]
  exact ⟨rfl, hr ▸ hrem0⟩

theorem Asked.slotRem {tab tab' : Nat} (h : Asked w w' v tab) (hne : tab ≠ tab') : Asked w (w'.slotRem v tab').1 v tab := by
  intro m m' hm hm' hgm
  rw [slotRem_members] at hm'
  obtain ⟨m1, hm1, rfl⟩ := Option.map_eq_some_iff.1 hm'
  rw [if_pos rfl, TabMember.slotWithdrawRem_dayAt, if_neg fun hc => hne hc.1]
  exact h m m1 hm hm1 hgm

theorem asked_slotRem_slotRem {tab tab' : Nat} (hne : tab' ≠ tab) (hrem : ((w.slotRem v tab).1.slotRem v tab').2 ≠ 0) :
    Asked w ((w.slotRem v tab).1.slotRem v tab').1 v tab' := by
  intro m m' hm hm' hgm
  have hm1 : (w.slotRem v tab).1.members v.pl = some (m.slotWithdrawRem w.ranks tab v.now).1 := by
    rw [slotRem_members, hm, Option.map_some, if_pos rfl]
  have hrank : (m.slotWithdrawRem w.ranks tab v.now).1.rankId = m.rankId := TabMember.slotWithdrawRem_rankId ..
  have hask := asked_of_slotRem hrem _ m' hm1 hm' (by rw [hrank]; exact hgm)
  rw [(slotRem_rest w v tab).1, hrank, TabMember.slotWithdrawRem_dayAt, if_neg fun hc => hne hc.1] at hask
  exact hask

theorem withdrawn_members (tab guid : Nat) : (w.withdrawn v tab).members guid =
    (w.members guid).map fun m => if guid = v.pl then m.itemWithdraw w.ranks tab v.now else m := by
  unfold withdrawn memberItemWithdraw
  by_cases hg : guid = v.pl
  · subst hg
    cases hm : w.members v.pl with
    | none => simp [hm]
    | some m => simp [setMember]
  · split
    · simp [hg]
    · simp [setMember, hg]

theorem withdrawn_rest (w : ItemBank) (v : BankVisit) (tab : Nat) : (w.withdrawn v tab).ranks = w.ranks ∧
    (w.withdrawn v tab).bankEventLog = w.bankEventLog := by
  unfold withdrawn memberItemWithdraw
  split <;> exact ⟨rfl, rfl⟩

variable {w1 : ItemBank}

/-- **An item is taken out of a tab to the inventory**: asked for, logged and paid. -/
theorem went_paid {tab : Nat} (hrem : (w.slotRem v tab).2 ≠ 0)
    (hg : e.guid = v.pl) (htab : ∀ t, e.takesFrom t = true ↔ t = tab) (hput : ∀ t, e.putsInto t = false)
    (h1 : SameBooks ((w.slotRem v tab).1.logBankEvent e) w1) : Went w (w1.withdrawn v tab) v [e] true := by
  obtain ⟨m0, hm0, hrem0, hview⟩ := view_of_slotRem hrem
  obtain ⟨hr1, hl1⟩ := slotRem_rest w v tab
  obtain ⟨hr2, hl2⟩ := withdrawn_rest w1 v tab
  refine ⟨hr2.trans (h1.ranks.trans hr1), ?_, fun e' he' => ?_, fun guid hno => ?_, fun guid m hm => ?_⟩
  · rw [hl2, h1.log]
    exact congrArg (· ++ [e]) hl1
  · obtain rfl := List.mem_singleton.1 he'
    exact ⟨hg, fun t => ⟨fun ht => (htab t).1 ht ▸ hview, fun ht => (Bool.false_ne_true ((hput t).symm.trans ht)).elim⟩⟩
  · rw [withdrawn_members, h1.members, logBankEvent_members, slotRem_members, hno]
    rfl
  · rw [withdrawn_members, h1.members, logBankEvent_members, slotRem_members, hm, hg, h1.ranks]
    refine ⟨_, rfl, ?_⟩
    by_cases hpl : guid = v.pl
    · subst hpl
      rw [hm] at hm0
      obtain rfl := Option.some.inj hm0
      have hev := TabMember.Evolves.paid m v.now htab hrem0
      simp only [if_true, List.countP_cons, List.countP_nil, Nat.zero_add]
      rw [show ((w.slotRem v tab).1.logBankEvent e).ranks = w.ranks from hr1]
      exact hev
    · simp only [hpl, if_false]
      exact TabMember.Evolves.refl m

theorem went_paid_put {tab : Nat} {d : BankEvent} (hrem : (w.slotRem v tab).2 ≠ 0)
    (hg : e.guid = v.pl) (htab : ∀ t, e.takesFrom t = true ↔ t = tab) (hput : ∀ t, e.putsInto t = false)
    (hd : d.guid = v.pl) (hno : ∀ t, d.takesFrom t = false)
    (hright : ∀ t, d.putsInto t = true → w.isMemberHaveRights v.pl t guildBankRightDepositItem = true)
    (h1 : SameBooks (((w.slotRem v tab).1.logBankEvent e).logBankEvent d) w1) :
    Went w (w1.withdrawn v tab) v [e, d] true := by
  -- the put is logged before the payment, which does not look at the log
  have hpaid := went_paid hrem hg htab hput (SameBooks.refl _)
  refine (hpaid.log_put hd hno hright).books ⟨?_, ?_, ?_⟩
  · rw [logBankEvent_of_takes_none hno]
    funext guid
    rw [withdrawn_members, withdrawn_members, h1.members, logBankEvent_of_takes_none hno, h1.ranks]
    rfl
  · rw [(withdrawn_rest w1 v tab).1, h1.ranks]
    exact (withdrawn_rest ((w.slotRem v tab).1.logBankEvent e) v tab).1.symm
  · rw [(withdrawn_rest w1 v tab).2, h1.log]
    exact congrArg (· ++ [d]) (withdrawn_rest ((w.slotRem v tab).1.logBankEvent e) v tab).2.symm

/-! ### The branches -/

variable {tab tabDst g count : Nat}

theorem Asked.log (h : Asked w w' v tab) (hno : e.takesFrom tab = false) :
    Asked w (w'.logBankEvent e) v tab := by
  intro m m' hm hm' hgm
  rw [logBankEvent_members] at hm'
  obtain ⟨m1, hm1, rfl⟩ := Option.map_eq_some_iff.1 hm'
  have hday : (if v.pl = e.guid then m1.note e else m1).dayAt tab = m1.dayAt tab := by
    split
    · rw [TabMember.note_dayAt, hno]
      rfl
    · rfl
  rw [hday]
  exact h m m1 hm hm1 hgm

/-- A move is logged: within a tab, or from a tab that was asked for to one with the right to put. -/
theorem Went.logMove (h : Went w w' v es fair) (tab tabDst g count : Nat) (hc : tab ≠ tabDst → Asked w w' v tab ∧
      w.isMemberHaveRights v.pl tab guildBankRightViewTab = true ∧
      w.isMemberHaveRights v.pl tabDst guildBankRightDepositItem = true ∧
      (es.countP fun e => e.takesFrom tab) = 0) :
    Went w (w'.logMove v tab g count tabDst) v (es ++ [.moveItem v.pl tab (w'.inv.items g).entry count tabDst])
      (fair && decide (tab = tabDst)) := by
  by_cases heq : tab = tabDst
  · subst heq
    rw [decide_eq_true rfl, Bool.and_true]
    refine h.log_put rfl (fun t => ?_) fun t ht => ?_
    · simp only [BankEvent.takesFrom]
      by_cases hx : tab = t <;> simp [hx]
    · simp only [BankEvent.putsInto] at ht
      by_cases hx : tab = t <;> simp [hx] at ht
  · obtain ⟨hask, hview, hdep, hn⟩ := hc heq
    rw [decide_eq_false heq, Bool.and_false]
    refine h.log_take rfl (fun t ht => ?_) hask hn hview fun t ht => ?_
    · simp only [BankEvent.takesFrom, Bool.and_eq_true, beq_iff_eq] at ht
      exact ht.1.symm
    · simp only [BankEvent.putsInto, Bool.and_eq_true, beq_iff_eq] at ht
      exact ht.1 ▸ hdep

/-- How a move between two slots of the bank begins: between two tabs, with the right to put and something
left to take. -/
structure Begun (w w1 : ItemBank) (v : BankVisit) (tab tabDst : Nat) : Prop where
  went : Went w w1 v [] true
  apart : tab ≠ tabDst → w1 = (w.slotRem v tab).1 ∧ (w.slotRem v tab).2 ≠ 0 ∧
    w.isMemberHaveRights v.pl tabDst guildBankRightDepositItem = true

variable {slotDst slot src amount : Nat} {b : Bool}

theorem Begun.logMove (h : Begun w w1 v tab tabDst) (g count : Nat) : Went w (w1.logMove v tab g count tabDst) v
    [.moveItem v.pl tab (w1.inv.items g).entry count tabDst] (decide (tab = tabDst)) := by
  have := h.went.logMove tab tabDst g count fun hne => by
    obtain ⟨rfl, hrem, hdep⟩ := h.apart hne
    obtain ⟨m, -, -, hview⟩ := view_of_slotRem hrem
    exact ⟨asked_of_slotRem hrem, hview, hdep, rfl⟩
  rwa [Bool.true_and, List.nil_append] at this

/-- A move between two slots of the bank in the books: out of the tab, and by a swap out of the other. -/
def Moved (w w2 : ItemBank) (v : BankVisit) (tab tabDst : Nat) (swapped : Prop) : Prop :=
  ∃ es, Went w w2 v es (decide (tab = tabDst)) ∧
    ∀ e ∈ es, ∀ t, e.takesFrom t = true → t = tab ∨ (t = tabDst ∧ swapped)

theorem Went.moved (h : Went w w1 v [] true) (tab tabDst : Nat) (swapped : Prop) :
    Moved w w1 v tab tabDst swapped := by
  refine ⟨[], ?_, nofun⟩
  cases decide (tab = tabDst) with
  | true => exact h
  | false => exact h.unfair

theorem takesFrom_moveItem {guid entry t : Nat} (h : (BankEvent.moveItem guid tab entry count tabDst).takesFrom t = true) :
    t = tab := by
  rw [BankEvent.takesFrom, Bool.and_eq_true, beq_iff_eq] at h
  exact h.1.symm

theorem bankSplit_went {w2 : ItemBank} (h : Begun w w1 v tab tabDst)
    (hr : w1.bankSplit om v tabDst slotDst tab src amount = some (w2, b)) :
    Moved w w2 v tab tabDst False := by
  unfold bankSplit at hr
  split at hr
  · cases hr
  · split at hr
    · cases hr
      exact h.went.moved ..
    · obtain ⟨w3, hst, he⟩ := Option.map_eq_some_iff.1 hr
      cases he
      have hb := storeItem_sameBooks hst
      exact ⟨_, (h.logMove src amount).books ⟨hb.members, hb.ranks, hb.log⟩, fun e he t ht =>
        Or.inl (takesFrom_moveItem (List.mem_singleton.1 he ▸ ht))⟩
  · cases hr
    exact h.went.moved ..

theorem exchanged_sameBooks {gDest gSrc : List ItemPosCount} {dst : Nat}
    (h : ((((w.removeItem tab slot).bind fun w2 => w2.removeItem tabDst slotDst).bind (storeItem om tab dst gSrc)).bind
      (storeItem om tabDst src gDest)).map (fun w2 => (w2, true)) = some (w', b)) : SameBooks w w' := by
  obtain ⟨w3, hst, he⟩ := Option.map_eq_some_iff.1 h
  cases he
  obtain ⟨w4, h4, hst⟩ := Option.bind_eq_some_iff.1 hst
  obtain ⟨w5, h5, h4⟩ := Option.bind_eq_some_iff.1 h4
  obtain ⟨w6, h6, h5⟩ := Option.bind_eq_some_iff.1 h5
  exact (removeItem_sameBooks h6).trans ((removeItem_sameBooks h5).trans
    ((storeItem_sameBooks h4).trans (storeItem_sameBooks hst)))

theorem bankSwap_went {w2 : ItemBank} {itemDst : Option Nat} (h : Begun w w1 v tab tabDst)
    (hr : w1.bankSwap om v tabDst slotDst tab slot src itemDst = some (w2, b)) :
    Moved w w2 v tab tabDst True := by
  unfold bankSwap at hr
  split at hr
  · cases hr
  · split at hr
    · cases hr
    next dst =>
    split at hr
    · cases hr
    · split at hr
      · cases hr
        exact h.went.moved ..
      next hright =>
      by_cases heq : tab = tabDst
      · subst heq
        simp only [ne_eq, not_true, if_false] at hr
        rw [if_neg (by decide)] at hr
        have hlog := (h.logMove src (w1.inv.items src).count).logMove tab tab dst (w1.inv.items dst).count
          fun hne => absurd rfl hne
        rw [Bool.and_self] at hlog
        refine ⟨_, hlog.books (exchanged_sameBooks hr), fun e he t ht => ?_⟩
        rcases List.mem_append.1 he with he | he
        · exact Or.inl (takesFrom_moveItem (List.mem_singleton.1 he ▸ ht))
        · exact Or.inl (takesFrom_moveItem (List.mem_singleton.1 he ▸ ht))
      · obtain ⟨rfl, hrem, hdep⟩ := h.apart heq
        simp only [ne_eq, heq, not_false_eq_true, if_true] at hr
        have hwent := h.went.slotRem tabDst
        split at hr
        · cases hr
          exact hwent.moved ..
        next hrem' =>
        have hne : tabDst ≠ tab := fun hc => heq hc.symm
        obtain ⟨m, -, -, hview⟩ := view_of_slotRem hrem
        obtain ⟨m', -, -, hview'⟩ := view_of_slotRem hrem'
        rw [h.went.rights_eq] at hview'
        have hdep' : w.isMemberHaveRights v.pl tab guildBankRightDepositItem = true := by
          rw [← h.went.rights_eq]
          exact Bool.eq_true_of_not_eq_false fun hc => hright ⟨heq, hc⟩
        have hlog := (hwent.logMove tab tabDst src ((w.slotRem v tab).1.inv.items src).count
            fun _ => ⟨(asked_of_slotRem hrem).slotRem heq, hview, hdep, rfl⟩).logMove tabDst tab dst
          ((w.slotRem v tab).1.inv.items dst).count
            fun _ => ⟨(asked_slotRem_slotRem hne hrem').log (by simp [BankEvent.takesFrom]), hview', hdep', by
              simp [BankEvent.takesFrom]⟩
        rw [decide_eq_false hne, Bool.and_false, ← decide_eq_false heq] at hlog
        refine ⟨_, hlog.books (exchanged_sameBooks hr), fun e he t ht => ?_⟩
        rcases List.mem_append.1 he with he | he
        · exact Or.inl (takesFrom_moveItem (List.mem_singleton.1 he ▸ ht))
        · exact Or.inr ⟨takesFrom_moveItem (List.mem_singleton.1 he ▸ ht), trivial⟩
    · cases hr
      exact h.went.moved ..
  · cases hr
    exact h.went.moved ..

/-- The whole stack does not fit where it shall go, so it is swapped with what is there. -/
def swapsStacks (om : ObjectMgr) (w : ItemBank) (tabDst slotDst src : Nat) : Bool :=
  match w.canStoreItem om tabDst slotDst (w.inv.items src).count src false with
  | some (.ok, _) => false
  | _ => true

theorem bankMove_went {w2 : ItemBank} {itemDst : Option Nat} (h : Begun w w1 v tab tabDst)
    (hr : w1.bankMove om v tabDst slotDst tab slot src itemDst = some (w2, b)) :
    Moved w w2 v tab tabDst (w1.swapsStacks om tabDst slotDst src = true) := by
  unfold bankMove at hr
  split at hr
  · cases hr
  · obtain ⟨w3, hst, he⟩ := Option.map_eq_some_iff.1 hr
    cases he
    obtain ⟨w4, h4, hst⟩ := Option.bind_eq_some_iff.1 hst
    exact ⟨_, (h.logMove src _).books ((removeItem_sameBooks h4).trans (storeItem_sameBooks hst)), fun e he t ht =>
      Or.inl (takesFrom_moveItem (List.mem_singleton.1 he ▸ ht))⟩
  next val hno hres =>
    obtain ⟨es, hes, htakes⟩ := bankSwap_went h hr
    have hswap : w1.swapsStacks om tabDst slotDst src = true := by
      unfold swapsStacks
      rw [hres]
      split
      · next dest heq => exact (hno dest (Option.some.inj heq)).elim
      · rfl
    exact ⟨es, hes, fun e he t ht => (htakes e he t ht).imp id fun hd => ⟨hd.1, hswap⟩⟩

/-- **Bank to bank**: within a tab nothing is taken out; between two tabs nothing is paid. -/
theorem bankToBank_went {w2 : ItemBank} (hr : w.bankToBank om v tabDst slotDst tab slot amount = some (w2, b)) :
    Moved w w2 v tab tabDst (∃ src, w.getItem tab slot = some (some src) ∧ w.swapsStacks om tabDst slotDst src = true) := by
  have hnothing : ∀ P, Moved w w v tab tabDst P := fun P => (Went.refl w v).moved tab tabDst P
  unfold bankToBank at hr
  split at hr
  · cases hr
  · cases hr
    exact hnothing _
  next src hsrc =>
  split at hr
  · cases hr
    exact hnothing _
  split at hr
  · cases hr
  next itemDst _ =>
  split at hr
  · cases hr
    exact hnothing _
  next hright =>
  have hbegun : (if tab ≠ tabDst then w.slotRem v tab else (w, withdrawSlotUnlimited)).2 ≠ 0 →
      Begun w (if tab ≠ tabDst then w.slotRem v tab else (w, withdrawSlotUnlimited)).1 v tab tabDst := by
    intro hrem
    split at hrem
    · next hne =>
      rw [if_pos hne]
      exact ⟨(Went.refl w v).slotRem tab, fun _ => ⟨rfl, hrem, Bool.eq_true_of_not_eq_false fun hc => hright ⟨hne, hc⟩⟩⟩
    · next hne =>
      rw [if_neg hne]
      exact ⟨Went.refl w v, fun hc => absurd hc hne⟩
  have hrefused : ∀ P, Moved w (if tab ≠ tabDst then w.slotRem v tab else (w, withdrawSlotUnlimited)).1 v tab tabDst P := by
    intro P
    split
    · exact ((Went.refl w v).slotRem tab).moved tab tabDst P
    · exact hnothing P
  have hstacks : (if tab ≠ tabDst then w.slotRem v tab else (w, withdrawSlotUnlimited)).1.swapsStacks om tabDst slotDst src = true →
      w.swapsStacks om tabDst slotDst src = true := by
    intro hs
    split at hs
    · unfold slotRem getMemberSlotWithdrawRem at hs
      split at hs
      · exact hs
      · exact hs
    · exact hs
  generalize (if tab ≠ tabDst then w.slotRem v tab else (w, withdrawSlotUnlimited)) = r at hr hbegun hrefused hstacks
  simp only at hr
  split at hr
  · cases hr
    exact hrefused _
  next hrem =>
  obtain ⟨r2, hr2, he⟩ := Option.map_eq_some_iff.1 hr
  obtain ⟨es, hes, htakes⟩ : Moved w r2.1 v tab tabDst
      (∃ src, w.getItem tab slot = some (some src) ∧ w.swapsStacks om tabDst slotDst src = true) := by
    split at hr2
    · obtain ⟨es, hes, htakes⟩ := bankSplit_went (hbegun hrem) hr2
      exact ⟨es, hes, fun e he t ht => (htakes e he t ht).imp id fun hd => hd.2.elim⟩
    · obtain ⟨es, hes, htakes⟩ := bankMove_went (hbegun hrem) hr2
      exact ⟨es, hes, fun e he t ht => (htakes e he t ht).imp id fun hd => ⟨hd.1, src, hsrc, hstacks hd.2⟩⟩
  split at he
  · rw [he] at hes
    exact ⟨es, hes, htakes⟩
  · cases he
    refine ⟨es, ?_, htakes⟩
    split
    · exact (hes.display tab).display tabDst
    · exact hes.display tab

theorem Went.of_books {w2 : ItemBank} (hb : SameBooks w w1) (h : Went w1 w2 v es fair) : Went w w2 v es fair := by
  have hright : ∀ guid tab rights, w1.isMemberHaveRights guid tab rights = w.isMemberHaveRights guid tab rights := by
    intro guid tab rights
    unfold isMemberHaveRights
    rw [hb.members, hb.ranks]
  refine ⟨h.ranks.trans hb.ranks, h.log.trans (by rw [hb.log]), fun e he => ?_, fun guid hg => h.absent guid (by
    rw [hb.members]; exact hg), fun guid m hm => ?_⟩
  · obtain ⟨h1, h2⟩ := h.rights e he
    simp only [hright] at h2
    exact ⟨h1, h2⟩
  · have := h.members guid m (by rw [hb.members]; exact hm)
    rwa [hb.ranks] at this

theorem takesFrom_withdrawItem (guid tab entry count t : Nat) :
    (BankEvent.withdrawItem guid tab entry count).takesFrom t = true ↔ t = tab := by
  rw [BankEvent.takesFrom, beq_iff_eq]
  exact eq_comm

theorem putsInto_depositItem {t entry : Nat} (h : w.isMemberHaveRights v.pl tab guildBankRightDepositItem = true)
    (ht : (BankEvent.depositItem v.pl tab entry count).putsInto t = true) :
    w.isMemberHaveRights v.pl t guildBankRightDepositItem = true := by
  rw [BankEvent.putsInto, beq_iff_eq] at ht
  exact ht ▸ h

variable {bag plSlot i : Nat} {w2 : ItemBank}

theorem bankToCharSplit_went (hr : w.bankToCharSplit om v tab bag plSlot i amount = some (w2, b)) :
    ∃ es, Went w w2 v es true := by
  unfold bankToCharSplit at hr
  split at hr
  · cases hr
    exact ⟨[], Went.refl w v⟩
  next newItem inv _ =>
  have hb : SameBooks w { w with inv := inv } := ⟨rfl, rfl, rfl⟩
  simp only at hr
  split at hr
  · cases hr
    exact ⟨[], (Went.refl w v).books ⟨rfl, rfl, rfl⟩⟩
  split at hr
  · cases hr
    have hwent := Went.of_books hb ((Went.refl _ v).slotRem tab)
    exact ⟨[], hwent.books ⟨rfl, rfl, rfl⟩⟩
  next hrem =>
  cases hr
  exact ⟨_, Went.of_books hb (went_paid hrem rfl (takesFrom_withdrawItem v.pl tab _ amount) (fun _ => rfl)
    ⟨rfl, rfl, rfl⟩)⟩

theorem take_went {w3 : ItemBank} {dest : List ItemPosCount} (hrem : (w.slotRem v tab).2 ≠ 0)
    (hr : ((w.slotRem v tab).1.logWithdraw v tab i count).removeItem tab slot = some w3) :
    ∃ es, Went w ((w3.playerMoveItemToInventory om v dest i).withdrawn v tab) v es true := by
  have hb := removeItem_sameBooks hr
  exact ⟨_, went_paid hrem rfl (takesFrom_withdrawItem v.pl tab _ count) (fun _ => rfl)
    ⟨hb.members, hb.ranks, hb.log⟩⟩

theorem bankToCharSwap_went {c : Option Nat} (hr : w.bankToCharSwap om v tab slot bag plSlot i c = some (w2, b)) :
    ∃ es, Went w w2 v es true := by
  unfold bankToCharSwap at hr
  split at hr
  · cases hr
    exact ⟨[], Went.refl w v⟩
  next hright =>
  have hdep := Bool.eq_true_of_not_eq_false hright
  split at hr
  · cases hr
    exact ⟨[], Went.refl w v⟩
  simp only at hr
  split at hr
  · cases hr
    exact ⟨[], Went.refl w v⟩
  split at hr
  · split at hr
    · cases hr
      exact ⟨[], (Went.refl w v).slotRem tab⟩
    next hrem =>
    obtain ⟨w3, hst, he⟩ := Option.map_eq_some_iff.1 hr
    cases he
    exact take_went hrem hst
  next c =>
  split at hr
  · cases hr
  · split at hr
    · cases hr
      exact ⟨[], (Went.refl w v).slotRem tab⟩
    next hrem =>
    obtain ⟨w3, hst, he⟩ := Option.map_eq_some_iff.1 hr
    cases he
    obtain ⟨w4, h4, hst⟩ := Option.bind_eq_some_iff.1 hst
    obtain ⟨w5, h5, rfl⟩ := Option.map_eq_some_iff.1 h4
    have h5' := removeItem_sameBooks h5
    have hst' := storeItem_sameBooks hst
    exact ⟨_, went_paid_put hrem rfl (takesFrom_withdrawItem v.pl tab _ _) (fun _ => rfl) rfl (fun _ => rfl)
      (fun t ht => putsInto_depositItem hdep ht)
      ⟨hst'.members.trans h5'.members, hst'.ranks.trans h5'.ranks, hst'.log.trans h5'.log⟩⟩
  · cases hr
    exact ⟨[], Went.refl w v⟩

/-- **Bank to inventory**: one item is taken out and paid. -/
theorem bankToChar_went {c : Option Nat} (hr : w.bankToChar om v tab slot bag plSlot amount i c = some (w2, b)) :
    ∃ es, Went w w2 v es true := by
  unfold bankToChar at hr
  split at hr
  · cases hr
    exact ⟨[], Went.refl w v⟩
  obtain ⟨r2, hr2, he⟩ := Option.map_eq_some_iff.1 hr
  obtain ⟨es, hes⟩ : ∃ es, Went w r2.1 v es true := by
    split at hr2
    · exact bankToCharSplit_went hr2
    simp only at hr2
    split at hr2
    · split at hr2
      · cases hr2
        exact ⟨[], (Went.refl w v).slotRem tab⟩
      next hrem =>
      obtain ⟨w3, hst, rfl⟩ := Option.map_eq_some_iff.1 hr2
      exact take_went hrem hst
    · exact bankToCharSwap_went hr2
  split at he
  · rw [he] at hes
    exact ⟨es, hes⟩
  · cases he
    exact ⟨es, hes.display tab⟩

theorem put_went {w3 : ItemBank} (hdep : w.isMemberHaveRights v.pl tab guildBankRightDepositItem = true)
    (hb : SameBooks (w.logDeposit v tab i count) w3) : ∃ es, Went w w3 v es true :=
  ⟨_, ((Went.refl w v).log_put (e := .depositItem v.pl tab (w.inv.items i).entry count) rfl (fun _ => rfl)
    fun _ ht => putsInto_depositItem hdep ht).books ⟨hb.members, hb.ranks, hb.log⟩⟩

theorem charToBankSwap_went {bank : Option Nat} (hdep : w.isMemberHaveRights v.pl tab guildBankRightDepositItem = true)
    (hr : w.charToBankSwap om v tab slot bag plSlot i bank = some (w2, b)) : ∃ es, Went w w2 v es true := by
  unfold charToBankSwap at hr
  split at hr
  · split at hr
    · cases hr
    · obtain ⟨w3, hst, he⟩ := Option.map_eq_some_iff.1 hr
      cases he
      have hb := storeItem_sameBooks hst
      exact put_went hdep ⟨hb.members, hb.ranks, hb.log⟩
    · cases hr
      exact ⟨[], Went.refl w v⟩
  · simp only at hr
    split at hr
    · cases hr
      exact ⟨[], Went.refl w v⟩
    split at hr
    · cases hr
    · split at hr
      · cases hr
        exact ⟨[], (Went.refl w v).slotRem tab⟩
      next hrem =>
      obtain ⟨w3, hst, he⟩ := Option.map_eq_some_iff.1 hr
      cases he
      obtain ⟨w4, h4, hst⟩ := Option.bind_eq_some_iff.1 hst
      have h4' := removeItem_sameBooks h4
      have hst' := storeItem_sameBooks hst
      exact ⟨_, went_paid_put hrem rfl (takesFrom_withdrawItem v.pl tab _ _) (fun _ => rfl) rfl (fun _ => rfl)
        (fun t ht => putsInto_depositItem hdep ht)
        ⟨hst'.members.trans h4'.members, hst'.ranks.trans h4'.ranks, hst'.log.trans h4'.log⟩⟩
    · cases hr
      exact ⟨[], Went.refl w v⟩

/-- **Inventory to bank**: one item is put in, and one taken out by a swap is paid. -/
theorem charToBank_went {bank : Option Nat} (hr : w.charToBank om v tab slot bag plSlot amount i bank = some (w2, b)) :
    ∃ es, Went w w2 v es true := by
  unfold charToBank at hr
  split at hr
  · cases hr
    exact ⟨[], Went.refl w v⟩
  split at hr
  · cases hr
    exact ⟨[], Went.refl w v⟩
  next hright =>
  have hdep := Bool.eq_true_of_not_eq_false hright
  split at hr
  · cases hr
    exact ⟨[], Went.refl w v⟩
  obtain ⟨r2, hr2, he⟩ := Option.map_eq_some_iff.1 hr
  obtain ⟨es, hes⟩ : ∃ es, Went w r2.1 v es true := by
    split at hr2
    · split at hr2
      · cases hr2
      · split at hr2
        · cases hr2
          exact ⟨[], Went.refl w v⟩
        · obtain ⟨w3, hst, rfl⟩ := Option.map_eq_some_iff.1 hr2
          have hb := storeItem_sameBooks hst
          exact put_went hdep ⟨hb.members, hb.ranks, hb.log⟩
      · cases hr2
        exact ⟨[], Went.refl w v⟩
    · split at hr2
      · cases hr2
      · obtain ⟨w3, hst, rfl⟩ := Option.map_eq_some_iff.1 hr2
        have hb := storeItem_sameBooks hst
        exact put_went hdep ⟨hb.members, hb.ranks, hb.log⟩
      · exact charToBankSwap_went hdep hr2
  split at he
  · rw [he] at hes
    exact ⟨es, hes⟩
  · cases he
    exact ⟨es, hes.display tab⟩

theorem playerAndBank_went {toChar : Bool} (hr : w.playerAndBank om v tab slot bag plSlot toChar amount = some (w2, b)) :
    ∃ es, Went w w2 v es true := by
  unfold playerAndBank at hr
  split at hr
  · cases hr
  simp only at hr
  split at hr
  · split at hr
    · cases hr
      exact ⟨[], Went.refl w v⟩
    · exact bankToChar_went hr
  · split at hr
    · cases hr
      exact ⟨[], Went.refl w v⟩
    · exact charToBank_went hr

/-! ## The law -/

/-- The member who sends the request has a limited allowance at a tab on that day. -/
def limited (w : ItemBank) (v : BankVisit) (tab : Nat) : Bool :=
  match w.members v.pl with
  | none => false
  | some m => m.rankId != grGuildMaster && (m.slotWithdrawRem w.ranks tab v.now).1.granted tab < withdrawSlotUnlimited

/-- A request that takes nothing unpaid out of a tab with a limited allowance: it does not move from there to
another tab, nor swap from another tab with what is there. -/
def heedful (om : ObjectMgr) (w : ItemBank) (e : BankVisit × TabRequest) : Bool :=
  match e.2 with
  | .swapItems (.bankToBank bankTabDst bankTabSlotDst bankTab bankTabSlot _) =>
    bankTab == bankTabDst || (!w.limited e.1 bankTab.toNat &&
      (!w.limited e.1 bankTabDst.toNat || (((w.getItem bankTab.toNat bankTabSlot.toNat).join).all fun src =>
        !w.swapsStacks om bankTabDst.toNat bankTabSlotDst.toNat src)))
  | _ => true

/-- The books of all members are right. -/
def Booked (w : ItemBank) : Prop :=
  ∀ guid m, w.members guid = some m → m.rankId ≠ grGuildMaster → ∀ t, (m.dayAt t).Booked

/-- What was logged since. -/
def loggedSince (w w' : ItemBank) : List BankEvent := w'.bankEventLog.drop w.bankEventLog.length

/-- **The law** of one request: who takes may view the tab, who puts may put there; and a day with a limited
allowance goes on with what is taken, never more than was granted, or is over and the next begins. -/
structure AllowanceKept (w w' : ItemBank) (v : BankVisit) : Prop where
  log : w'.bankEventLog = w.bankEventLog ++ loggedSince w w'
  rights : ∀ e ∈ loggedSince w w', e.guid = v.pl ∧ ∀ t,
    (e.takesFrom t = true → w.isMemberHaveRights v.pl t guildBankRightViewTab = true) ∧
      (e.putsInto t = true → w.isMemberHaveRights v.pl t guildBankRightDepositItem = true)
  days : ∀ guid m', w'.members guid = some m' → m'.rankId ≠ grGuildMaster → ∀ t, m'.granted t < withdrawSlotUnlimited →
    m'.taken t ≤ m'.granted t ∧ ∃ m, w.members guid = some m ∧
      TabDay.GoesOn (getBankSlotPerDay w.ranks m.rankId t) v.now
        ((loggedSince w w').countP fun e => e.guid == guid && e.takesFrom t) (m.dayAt t) (m'.dayAt t)

theorem Went.loggedSince (h : Went w w' v es fair) : loggedSince w w' = es := by
  unfold ItemBank.loggedSince
  rw [h.log, List.drop_left]

theorem Went.countP (h : Went w w' v es fair) (guid t : Nat) : (es.countP fun e => e.guid == guid && e.takesFrom t) =
    if guid = v.pl then es.countP fun e => e.takesFrom t else 0 := by
  split
  · next hg =>
    refine List.countP_congr fun e he => ?_
    rw [(h.rights e he).1, hg, beq_self_eq_true, Bool.true_and]
  · next hg =>
    rw [List.countP_eq_zero]
    intro e he
    rw [(h.rights e he).1, beq_eq_false_iff_ne.2 fun hc => hg hc.symm]
    exact Bool.false_ne_true

/-- A request keeps the law if what it takes unpaid is out of tabs with no limit. -/
theorem Went.kept (h : Went w w' v es fair) (hb : w.Booked)
    (hfree : fair = false → ∀ e ∈ es, ∀ t, e.takesFrom t = true → w.limited v t = false) :
    w'.Booked ∧ AllowanceKept w w' v := by
  have hback : ∀ guid m', w'.members guid = some m' → ∃ m, w.members guid = some m := by
    intro guid m' hm'
    cases hm : w.members guid with
    | some m => exact ⟨m, rfl⟩
    | none => rw [h.absent guid hm] at hm'; cases hm'
  have hbooked : w'.Booked := by
    intro guid m' hm' hgm t
    obtain ⟨m, hm⟩ := hback guid m' hm'
    obtain ⟨m1, hm1, he⟩ := h.members guid m hm
    rw [hm'] at hm1
    cases hm1
    rw [he.rankId] at hgm
    obtain ⟨p, hp, hmove⟩ := he.days hgm t
    have hbm := hb guid m hm hgm t
    cases hpt : p with
    | true => exact (hpt ▸ hmove).booked hbm
    | false =>
      -- only an unpaid move is left, out of a tab of the request's member
      rw [hpt] at hmove
      have hfair : fair = false := by
        cases hf : fair with
        | false => rfl
        | true => rw [hpt] at hp; exact absurd (hp hf) Bool.false_ne_true
      generalize hn : (if guid = v.pl then es.countP fun e => e.takesFrom t else 0) = n at hmove
      generalize hd : m'.dayAt t = d' at hmove
      cases hmove with
      | unpaid hrem =>
        split at hn
        · next hg =>
          subst hg
          obtain ⟨e, hes, het⟩ := List.countP_pos_iff.1 (Nat.lt_of_lt_of_eq Nat.zero_lt_one hn.symm)
          have hlim := hfree hfair e hes t het
          unfold limited at hlim
          rw [hm] at hlim
          simp only [Bool.and_eq_false_iff, bne_eq_false_iff_eq, decide_eq_false_iff_not] at hlim
          have hview : m.counted w.ranks t = true := by
            obtain ⟨h1, -⟩ := (h.rights e hes).2 t
            have hr := h1 het
            unfold isMemberHaveRights at hr
            rw [hm] at hr
            unfold TabMember.counted
            have hr' : (m.rankId == grGuildMaster ||
              getBankRights w.ranks m.rankId t &&& guildBankRightViewTab == guildBankRightViewTab) = true := hr
            rw [beq_eq_false_iff_ne.2 hgm, Bool.false_or] at hr'
            rw [hr', bne_iff_ne.2 hgm, Bool.and_self]
          have hday := TabMember.slotWithdrawRem_dayAt w.ranks m t t v.now
          rw [if_pos ⟨rfl, hview⟩] at hday
          intro hlt
          refine absurd ?_ (hlim.resolve_left hgm)
          have hgr : (m.slotWithdrawRem w.ranks t v.now).1.granted t =
            ((m.dayAt t).ask (getBankSlotPerDay w.ranks m.rankId t) v.now).granted := congrArg TabDay.granted hday
          rw [hgr]
          exact hlt
        · cases hn
  refine ⟨hbooked, by rw [h.loggedSince]; exact h.log, by rw [h.loggedSince]; exact h.rights, ?_⟩
  intro guid m' hm' hgm t hlt
  obtain ⟨m, hm⟩ := hback guid m' hm'
  obtain ⟨m1, hm1, he⟩ := h.members guid m hm
  rw [hm'] at hm1
  cases hm1
  refine ⟨(hbooked guid m' hm' hgm t).taken_le hlt, m, hm, ?_⟩
  rw [h.loggedSince, h.countP]
  obtain ⟨p, -, hmove⟩ := he.days (he.rankId ▸ hgm) t
  exact hmove.goesOn

/-- **One request** keeps the books right and the law. -/
theorem Booked.handle (hb : w.Booked) {r : TabRequest} (hh : w.heedful om (v, r) = true)
    (hr : w.handle om v r = some (w', b)) : w'.Booked ∧ AllowanceKept w w' v := by
  have hfair : (∃ es, Went w w' v es true) → w'.Booked ∧ AllowanceKept w w' v := fun ⟨es, hes⟩ =>
    hes.kept hb fun hc => nomatch hc
  cases r with
  | queryTab t =>
    refine hfair ⟨[], ?_⟩
    obtain rfl : (w.handleGuildBankTabColon v t).1 = w' := congrArg Prod.fst (Option.some.inj hr)
    unfold handleGuildBankTabColon displayGuildBankContent
    split
    · exact Went.refl w v
    dsimp only
    split
    · exact Went.refl w v
    split
    · exact Went.refl w v
    exact (Went.refl w v).slotRem _
  | swapItems r =>
    have hr' : w.handleGuildBankDepositItem om v r = some (w', b) := hr
    have hnothing : some (w, false) = some (w', b) → w'.Booked ∧ AllowanceKept w w' v := fun hc => by
      cases hc
      exact hfair ⟨[], Went.refl w v⟩
    cases r with
    | bankToBank tabDst slotDst tab slot amount =>
      unfold handleGuildBankDepositItem at hr'
      dsimp only at hr'
      split at hr'
      · exact hnothing hr'
      split at hr'
      · exact hnothing hr'
      split at hr'
      · exact hnothing hr'
      obtain ⟨es, hes, htakes⟩ := bankToBank_went hr'
      refine hes.kept hb fun hf e he t ht => ?_
      rw [decide_eq_false_iff_not] at hf
      unfold heedful at hh
      have hne : (tab == tabDst) = false := beq_eq_false_iff_ne.2 fun hc => hf (by rw [hc])
      simp only [hne, Bool.false_or, Bool.and_eq_true, Bool.or_eq_true, Bool.not_eq_true'] at hh
      rcases htakes e he t ht with rfl | ⟨rfl, src, hsrc, hswap⟩
      · exact hh.1
      · refine hh.2.resolve_right fun hall => ?_
        rw [hsrc] at hall
        simp only [Option.join_some, Option.all_some, Bool.not_eq_true'] at hall
        rw [hswap] at hall
        cases hall
    | autoStore tab slot =>
      unfold handleGuildBankDepositItem at hr'
      dsimp only at hr'
      split at hr'
      · exact hnothing hr'
      split at hr'
      · exact hnothing hr'
      exact hfair (playerAndBank_went hr')
    | withChar tab slot bag plSlot toChar amount =>
      unfold handleGuildBankDepositItem at hr'
      dsimp only at hr'
      split at hr'
      · exact hnothing hr'
      split at hr'
      · exact hnothing hr'
      split at hr'
      · exact hnothing hr'
      split at hr'
      · exact hnothing hr'
      exact hfair (playerAndBank_went hr')

theorem Booked.after (hb : w.Booked) (e : BankVisit × TabRequest) (hh : w.heedful om e = true) :
    (w.after om e).Booked ∧ AllowanceKept w (w.after om e) e.1 := by
  unfold ItemBank.after
  cases hr : w.handle om e.1 e.2 with
  | none => exact (Went.refl w e.1).kept hb fun hc => nomatch hc
  | some r => exact hb.handle hh hr

/-- **Nobody takes more than his rank granted** that day, nor takes or puts without the right, along a run
without unpaid moves between tabs. -/
theorem allowances_kept (om : ObjectMgr) (w : ItemBank) (hb : w.Booked) (es : List (BankVisit × TabRequest))
    (hh : Transition.Along (after om) (fun w e => w.heedful om e = true) w es) :
    Transition.Along (after om) (fun w e => AllowanceKept w (w.after om e) e.1) w es :=
  Transition.along_of_invariant (I := Booked) (fun _ e hb hh => (hb.after e hh).1) (fun _ e hb hh => (hb.after e hh).2)
    hb hh

/-! ### A bank of two tabs -/

/-- Two stacks in the first tab, a guild master, and a member who may take one item a day. -/
def sampleBank : ItemBank where
  inv :=
    { nextGuid := 3
      items := fun g =>
        match g with
        | 1 => { live := true, entry := 3, count := 5, uState := .unchanged }
        | 2 => { live := true, entry := 4, count := 3, uState := .unchanged }
        | _ => {} }
  tabListMap := [some fun slot => if slot = 0 then some 1 else if slot = 1 then some 2 else none, some fun _ => none]
  ranks := [⟨fun _ => 0xFF, fun _ => withdrawSlotUnlimited⟩, ⟨fun _ => 0x03, fun _ => 1⟩]
  members guid := if guid = 1 then some { rankId := 1 } else if guid = 2 then some { rankId := 0 } else none

theorem sampleBank_booked : sampleBank.Booked := by
  intro guid m hm _ t
  have hm' : (if guid = 1 then some ({ rankId := 1 } : TabMember) else if guid = 2 then some { rankId := 0 } else none) =
    some m := hm
  split at hm'
  · cases hm'
    exact fun _ => rfl
  split at hm'
  · cases hm'
    exact fun _ => rfl
  · cases hm'

/-- The member looks at the tab, takes a stack, and is refused the other; the guild master moves it. -/
def sampleRequests : List (BankVisit × TabRequest) :=
  [({ pl := 1, now := 5000 }, .queryTab 0), ({ pl := 1, now := 5001 }, .swapItems (.autoStore 0 0)),
    ({ pl := 1, now := 5002 }, .swapItems (.autoStore 0 1)),
    ({ pl := 2, now := 5003 }, .swapItems (.bankToBank 1 0 0 1 0))]

theorem allowances_kept_sample :
    Transition.Along (after Holdings.sampleMgr) (fun w e => AllowanceKept w (w.after Holdings.sampleMgr e) e.1) sampleBank
      sampleRequests :=
  allowances_kept Holdings.sampleMgr sampleBank sampleBank_booked sampleRequests (by decide)

/-- Two moves to the other tab on one day, by a member who may take one item a day. -/
theorem moves_are_free : ¬ ∀ (om : ObjectMgr) (w : ItemBank), w.Booked → ∀ es,
    Transition.Along (after om) (fun w e => AllowanceKept w (w.after om e) e.1) w es := by
  intro h
  have hlaw := (h Holdings.sampleMgr sampleBank sampleBank_booked
    [({ pl := 1, now := 5000 }, .swapItems (.bankToBank 1 0 0 0 0)),
      ({ pl := 1, now := 5001 }, .swapItems (.bankToBank 1 1 0 1 0))]).2.1
  have hm : (((sampleBank.after Holdings.sampleMgr ({ pl := 1, now := 5000 }, .swapItems (.bankToBank 1 0 0 0 0))).after
      Holdings.sampleMgr ({ pl := 1, now := 5001 }, .swapItems (.bankToBank 1 1 0 1 0))).members 1).map
        (fun m => (m.rankId, m.granted 0, m.taken 0)) = some (1, 1, 2) := by decide
  obtain ⟨m, hm, he⟩ := Option.map_eq_some_iff.1 hm
  obtain ⟨h1, h2⟩ := Prod.mk.inj he
  obtain ⟨h2, h3⟩ := Prod.mk.inj h2
  have hle := (hlaw.days 1 m hm (by rw [h1]; decide) 0 (by rw [h2]; decide)).1
  rw [h2, h3] at hle
  exact absurd hle (by decide)

end ItemBank

end BlizzLike
