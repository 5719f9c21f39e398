import Mathlib.Data.List.Nodup
import Mathlib.Data.List.Perm.Basic

/-!
# Loading the log of a guild bank

`LoadGuildBankEventLogFromDB` reads the rows of a guild by falling time into a list for the events about
money and one for each tab, each of 24 events at most, and then deletes, for every list that is not
empty, all rows with an id below that of the oldest event in it.  Such a delete does not ask of which
list a row is: of events of two lists the one with the lesser id is lost, though it is kept in memory.

So no kept event is lost, and the newest are kept, just if all events are about money or all about the
items of one tab, and the oldest that is kept has the least id of those that are (`log_kept_iff`).
-/

namespace BlizzLike

def guildBankMaxLogs : Nat := 24

/-- A row of `guild_bank_eventlog`: `GuildBankEvent` and the tab. -/
structure BankEventRow where
  logGuid : Nat
  logEntry : Nat
  tabId : Nat
  playerGuid : Nat := 0
  itemOrMoney : Nat := 0
  itemStackCount : Nat := 0
  destTabId : Nat := 0
  timeStamp : Nat
  deriving DecidableEq, Repr

namespace BankEventRow

/-- `isMoneyEvent`: a deposit, a withdrawal or a repair. -/
def isMoneyEvent (r : BankEventRow) : Bool := r.logEntry == 4 || r.logEntry == 5 || r.logEntry == 6

/-- A tab that a guild bank can have. -/
def valid (r : BankEventRow) : Bool := decide (r.tabId < 6)

end BankEventRow

/-- The rows of a guild; the id is the key. -/
structure BankEventTable where
  rows : List BankEventRow
  ids : rows.Pairwise fun a b => a.logGuid ≠ b.logGuid

/-- `m_GuildBankEventLog_Money` and `m_GuildBankEventLog_Item`. -/
structure BankEventLogs where
  money : List BankEventRow := []
  item : Nat → List BankEventRow := fun _ => []

/-- Which of the lists. -/
inductive BankLogKind where
  | money
  | item (tab : Nat)
  deriving DecidableEq, Repr

def BankEventRow.kind (r : BankEventRow) : BankLogKind := if r.isMoneyEvent then .money else .item r.tabId

namespace BankEventLogs

variable (logs : BankEventLogs)

def list : BankLogKind → List BankEventRow
  | .money => logs.money
  | .item tab => logs.item tab

/-- A turn of the loop of `LoadGuildBankEventLogFromDB`. -/
def loadRow (r : BankEventRow) : BankEventLogs :=
  if r.tabId ≥ 6 then logs
  else if (r.isMoneyEvent = true ∧ logs.money.length ≥ guildBankMaxLogs) ∨
      (logs.item r.tabId).length ≥ guildBankMaxLogs then logs
  else if r.isMoneyEvent then { logs with money := r :: logs.money }
  else { logs with item := fun tab => if tab = r.tabId then r :: logs.item tab else logs.item tab }

def load (result : List BankEventRow) : BankEventLogs := result.foldl loadRow logs

/-- `DELETE ... WHERE LogGuid < front().LogGuid`, of a list that is not empty. -/
def deleteBelow (list : List BankEventRow) (rows : List BankEventRow) : List BankEventRow :=
  match list with
  | [] => rows
  | front :: _ => rows.filter fun r => ¬ r.logGuid < front.logGuid

/-- What is left of the rows. -/
def trim (rows : List BankEventRow) : List BankEventRow :=
  (List.range 6).foldl (fun rows tab => deleteBelow (logs.item tab) rows) (deleteBelow logs.money rows)

end BankEventLogs

/-- `SELECT ... ORDER BY TimeStamp DESC`; the order of equal times is the engine's. -/
structure SelectedByTime (t : BankEventTable) (result : List BankEventRow) : Prop where
  perm : result.Perm t.rows
  sorted : result.Pairwise fun a b => b.timeStamp ≤ a.timeStamp

/-- The newest of some events: so many of them as there may be, and none that is left out is newer. -/
structure Newest (events kept : List BankEventRow) : Prop where
  sub : ∀ e ∈ kept, e ∈ events
  nodup : kept.Nodup
  length_eq : kept.length = min guildBankMaxLogs events.length
  older : ∀ e ∈ events, e ∉ kept → ∀ k ∈ kept, e.timeStamp ≤ k.timeStamp

namespace BankEventTable

variable (t : BankEventTable)

/-- The events of a list; rows of tabs that no bank has are none. -/
def events (k : BankLogKind) : List BankEventRow := t.rows.filter fun r => r.valid && r.kind == k

/-- **What the loader is to do**: the newest events of every list are kept, and the deletes remove no row of
them. -/
structure KeptAsPromised (result : List BankEventRow) : Prop where
  money : Newest (t.events .money) (BankEventLogs.load {} result).money
  item : ∀ tab, tab < 6 → Newest (t.events (.item tab)) ((BankEventLogs.load {} result).item tab)
  rows : ∀ k e, e ∈ (BankEventLogs.load {} result).list k → e ∈ (BankEventLogs.load {} result).trim t.rows

end BankEventTable

/-- All events are of one list, and the oldest of the newest 24 has the least id of these. -/
def OneList (result : List BankEventRow) : Prop :=
  (∃ k, ∀ r ∈ result, r.valid = true → r.kind = k) ∧
    ∀ oldest, ((result.filter BankEventRow.valid).take guildBankMaxLogs).getLast? = some oldest →
      ∀ e ∈ (result.filter BankEventRow.valid).take guildBankMaxLogs, oldest.logGuid ≤ e.logGuid

namespace BankEventLogs

variable {logs : BankEventLogs}

/-! ## Deletes -/

theorem mem_deleteBelow {list rows : List BankEventRow} {r : BankEventRow} :
    r ∈ deleteBelow list rows ↔ r ∈ rows ∧ ∀ front, list.head? = some front → front.logGuid ≤ r.logGuid := by
  cases list with
  | nil => simp [deleteBelow]
  | cons front rest => simp [deleteBelow, List.mem_filter]

/-- **The deletes** leave the rows whose id is not below that of the oldest event of any list. -/
theorem mem_trim {rows : List BankEventRow} {r : BankEventRow} :
    r ∈ logs.trim rows ↔ r ∈ rows ∧ (∀ front, logs.money.head? = some front → front.logGuid ≤ r.logGuid) ∧
      ∀ tab, tab < 6 → ∀ front, (logs.item tab).head? = some front → front.logGuid ≤ r.logGuid := by
  have hfold : ∀ (l : List Nat) (rows : List BankEventRow),
      r ∈ l.foldl (fun rows tab => deleteBelow (logs.item tab) rows) rows ↔
        r ∈ rows ∧ ∀ tab ∈ l, ∀ front, (logs.item tab).head? = some front → front.logGuid ≤ r.logGuid := by
    intro l
    induction l with
    | nil => simp
    | cons tab l ih =>
      intro rows
      rw [List.foldl_cons, ih, mem_deleteBelow, List.forall_mem_cons, and_assoc]
  unfold trim
  rw [hfold, mem_deleteBelow, and_assoc]
  simp only [List.mem_range]

/-! ## The loop -/

/-- The events of a list among rows. -/
def ofKind (k : BankLogKind) (rows : List BankEventRow) : List BankEventRow :=
  rows.filter fun r => r.valid && r.kind == k

/-- **The list of a tab** takes the first events of its tab as long as it has room, whatever the others
are. -/
theorem load_item (result : List BankEventRow) (logs : BankEventLogs) (tab : Nat) :
    (logs.load result).item tab =
      ((ofKind (.item tab) result).take (guildBankMaxLogs - (logs.item tab).length)).reverse ++ logs.item tab := by
  unfold load
  induction result generalizing logs with
  | nil => simp [ofKind]
  | cons r result ih =>
    have hskip : (r.valid && r.kind == .item tab) = false → ofKind (.item tab) (r :: result) = ofKind (.item tab) result :=
      fun h => by
        unfold ofKind
        rw [List.filter_cons_of_neg (by simp [h])]
    rw [List.foldl_cons, ih]
    by_cases hvalid : r.tabId < 6
    swap
    · have hsame : logs.loadRow r = logs := if_pos (by omega)
      rw [hsame, hskip (by simp [BankEventRow.valid, hvalid])]
    cases hmoney : r.isMoneyEvent with
    | true =>
      have hsame : (logs.loadRow r).item = logs.item := by
        unfold loadRow
        rw [if_neg (by omega)]
        split
        · rfl
        · simp
      rw [hsame, hskip (by simp [BankEventRow.kind, hmoney])]
    | false =>
      by_cases htab : r.tabId = tab
      · have hkeep : ofKind (.item tab) (r :: result) = r :: ofKind (.item tab) result := by
          unfold ofKind
          rw [List.filter_cons_of_pos (by simp [BankEventRow.valid, BankEventRow.kind, hmoney, htab, htab ▸ hvalid])]
        rw [hkeep]
        by_cases hfull : (logs.item tab).length ≥ guildBankMaxLogs
        · have hsame : logs.loadRow r = logs := by
            unfold loadRow
            rw [if_neg (by omega), if_pos (Or.inr (htab ▸ hfull))]
          rw [hsame, Nat.sub_eq_zero_of_le hfull, List.take_zero, List.take_zero]
        · have hpush : (logs.loadRow r).item tab = r :: logs.item tab := by
            unfold loadRow
            rw [if_neg (by omega), if_neg (by simp [hmoney, htab]; omega), if_neg (by simp [hmoney])]
            simp [htab]
          obtain ⟨n, hn⟩ : ∃ n, guildBankMaxLogs - (logs.item tab).length = n + 1 :=
            ⟨guildBankMaxLogs - (logs.item tab).length - 1, by omega⟩
          rw [hpush, List.length_cons, show guildBankMaxLogs - ((logs.item tab).length + 1) = n by omega, hn,
            List.take_succ_cons, List.reverse_cons, List.append_assoc, List.singleton_append]
      · have hsame : (logs.loadRow r).item tab = logs.item tab := by
          unfold loadRow
          rw [if_neg (by omega)]
          split
          · rfl
          · rw [if_neg (by simp [hmoney])]
            simp [Ne.symm htab]
        rw [hsame, hskip (by simp [BankEventRow.kind, hmoney, htab])]

theorem load_no_money (result : List BankEventRow) (logs : BankEventLogs)
    (h : ∀ r ∈ result, r.valid = true → r.isMoneyEvent = false) : (logs.load result).money = logs.money := by
  unfold load
  induction result generalizing logs with
  | nil => rfl
  | cons r result ih =>
    rw [List.foldl_cons, ih _ fun r' hr' => h r' (List.mem_cons_of_mem _ hr')]
    unfold loadRow
    split
    · rfl
    · next hvalid =>
      have hmoney := h r List.mem_cons_self (by simp [BankEventRow.valid]; omega)
      rw [if_neg (c := r.isMoneyEvent = true) (by simp [hmoney])]
      split <;> rfl

/-- **The list about money** takes the first events if there are no others. -/
theorem load_money {result : List BankEventRow} (logs : BankEventLogs)
    (h : ∀ r ∈ result, r.valid = true → r.isMoneyEvent = true)
    (hroom : ∀ tab, (logs.item tab).length < guildBankMaxLogs) :
    (logs.load result).money =
      ((result.filter BankEventRow.valid).take (guildBankMaxLogs - logs.money.length)).reverse ++ logs.money := by
  unfold load
  induction result generalizing logs with
  | nil => simp
  | cons r result ih =>
    have ih := fun logs => ih logs fun r' hr' => h r' (List.mem_cons_of_mem _ hr')
    rw [List.foldl_cons]
    by_cases hvalid : r.tabId < 6
    · have hmoney := h r List.mem_cons_self (by simp [BankEventRow.valid, hvalid])
      have hroom' := hroom r.tabId
      rw [List.filter_cons_of_pos (by simp [BankEventRow.valid, hvalid])]
      by_cases hfull : logs.money.length ≥ guildBankMaxLogs
      · have hsame : logs.loadRow r = logs := by
          unfold loadRow
          rw [if_neg (by omega), if_pos (Or.inl ⟨hmoney, hfull⟩)]
        rw [hsame, ih logs hroom, Nat.sub_eq_zero_of_le hfull, List.take_zero, List.take_zero]
      · have hpush : logs.loadRow r = { logs with money := r :: logs.money } := by
          unfold loadRow
          rw [if_neg (by omega), if_neg (by omega), if_pos hmoney]
        obtain ⟨n, hn⟩ : ∃ n, guildBankMaxLogs - logs.money.length = n + 1 :=
          ⟨guildBankMaxLogs - logs.money.length - 1, by omega⟩
        rw [hpush, ih { logs with money := r :: logs.money } hroom, List.length_cons,
          show guildBankMaxLogs - (logs.money.length + 1) = n by omega, hn, List.take_succ_cons, List.reverse_cons,
          List.append_assoc, List.singleton_append]
    · have hsame : logs.loadRow r = logs := if_pos (by omega)
      rw [hsame, ih logs hroom, List.filter_cons_of_neg (by simp [BankEventRow.valid, hvalid])]

theorem kind_money {r : BankEventRow} (h : r.kind = .money) : r.isMoneyEvent = true := by
  unfold BankEventRow.kind at h
  split at h
  · next hm => exact hm
  · cases h

/-- **Events of one list**: it has the first of them, oldest first, and the others are empty. -/
theorem load_one_kind {result : List BankEventRow} {k : BankLogKind}
    (hk : ∀ r ∈ result, r.valid = true → r.kind = k) :
    (load {} result).list k = ((result.filter BankEventRow.valid).take guildBankMaxLogs).reverse ∧
      ∀ k', k' ≠ k → (load {} result).list k' = [] := by
  have hnone : ∀ tab, .item tab ≠ k → (load {} result).item tab = [] := by
    intro tab hne
    have hempty : ofKind (.item tab) result = [] := by
      unfold ofKind
      rw [List.filter_eq_nil_iff]
      intro r hr h
      rw [Bool.and_eq_true, beq_iff_eq] at h
      exact hne (h.2.symm.trans (hk r hr h.1))
    rw [load_item, hempty]
    rfl
  cases k with
  | money =>
    have hmoney := load_money {} (fun r hr hv => kind_money (hk r hr hv)) (fun _ => Nat.succ_pos 23)
    refine ⟨by simpa [list] using hmoney, fun k' hne => ?_⟩
    cases k' with
    | money => exact absurd rfl hne
    | item tab => exact hnone tab hne
  | item tab =>
    have hmoney := load_no_money result {} fun r hr hv => by
      have hkind := hk r hr hv
      unfold BankEventRow.kind at hkind
      split at hkind
      · cases hkind
      · next hm => simpa using hm
    have hall : ofKind (.item tab) result = result.filter BankEventRow.valid := by
      unfold ofKind
      refine List.filter_congr fun r hr => ?_
      cases hv : r.valid with
      | false => rfl
      | true => simp [hk r hr hv]
    have hitem := load_item result {} tab
    rw [hall] at hitem
    refine ⟨by simpa [list] using hitem, fun k' hne => ?_⟩
    cases k' with
    | money => exact hmoney
    | item tab' => exact hnone tab' hne

theorem front_le {rows : List BankEventRow} {e front : BankEventRow} (h : e ∈ logs.trim rows) {k : BankLogKind}
    (hk : ∀ tab, k = .item tab → tab < 6) (hfront : (logs.list k).head? = some front) :
    front.logGuid ≤ e.logGuid := by
  obtain ⟨-, hmoney, hitem⟩ := mem_trim.1 h
  cases k with
  | money => exact hmoney front hfront
  | item tab => exact hitem tab (hk tab rfl) front hfront

end BankEventLogs

/-! ## The newest -/

theorem Newest.nil : Newest [] [] := ⟨by simp, .nil, rfl, by simp⟩

theorem newest_take {events result : List BankEventRow} (hperm : result.Perm events) (hnodup : events.Nodup)
    (hsorted : result.Pairwise fun a b => b.timeStamp ≤ a.timeStamp) :
    Newest events (result.take guildBankMaxLogs).reverse := by
  refine ⟨fun e he => hperm.mem_iff.1 (List.mem_of_mem_take (List.mem_reverse.1 he)), ?_, ?_, ?_⟩
  · exact List.nodup_reverse.2 ((hperm.nodup_iff.2 hnodup).sublist (List.take_sublist _ _))
  · rw [List.length_reverse, List.length_take, hperm.length_eq]
  · intro e he hout k hk
    have hsplit := List.take_append_drop guildBankMaxLogs result
    rw [← hsplit, List.pairwise_append] at hsorted
    have hdrop : e ∈ result.drop guildBankMaxLogs := by
      have hmem := hperm.mem_iff.2 he
      rw [← hsplit, List.mem_append] at hmem
      exact hmem.resolve_left fun htake => hout (List.mem_reverse.2 htake)
    exact hsorted.2.2 k (List.mem_reverse.1 hk) e hdrop

theorem Newest.exists_front {events kept : List BankEventRow} (h : Newest events kept) {e : BankEventRow}
    (he : e ∈ events) : ∃ front, kept.head? = some front ∧ front ∈ kept := by
  have hlength := h.length_eq
  have hpos := List.length_pos_of_mem he
  cases kept with
  | nil =>
    rw [List.length_nil] at hlength
    unfold guildBankMaxLogs at hlength
    omega
  | cons front rest => exact ⟨front, rfl, List.mem_cons_self⟩

namespace BankEventTable

variable {t : BankEventTable}

theorem nodup (t : BankEventTable) : t.rows.Nodup := t.ids.imp fun h he => h (congrArg _ he)

theorem eq_of_logGuid {a b : BankEventRow} (ha : a ∈ t.rows) (hb : b ∈ t.rows) (h : a.logGuid = b.logGuid) :
    a = b := by
  have hids : (t.rows.map BankEventRow.logGuid).Nodup := List.pairwise_map.2 t.ids
  exact List.inj_on_of_nodup_map hids ha hb h

theorem mem_events {k : BankLogKind} {r : BankEventRow} :
    r ∈ t.events k ↔ r ∈ t.rows ∧ r.valid = true ∧ r.kind = k := by
  unfold events
  rw [List.mem_filter, Bool.and_eq_true, beq_iff_eq]

theorem kind_lt {r : BankEventRow} (h : r.valid = true) (tab : Nat) (hk : r.kind = .item tab) : tab < 6 := by
  unfold BankEventRow.kind at hk
  split at hk
  · cases hk
  · injection hk with hk
    rw [← hk]
    exact of_decide_eq_true h

theorem KeptAsPromised.newest {result : List BankEventRow} (h : t.KeptAsPromised result) :
    ∀ k, (∀ tab, k = .item tab → tab < 6) → Newest (t.events k) ((BankEventLogs.load {} result).list k)
  | .money, _ => h.money
  | .item tab, hk => h.item tab (hk tab rfl)

/-- **Events of two lists**: the delete for one of them hits the oldest of the other, so there are none. -/
theorem KeptAsPromised.one_kind {result : List BankEventRow} (h : t.KeptAsPromised result) {r s : BankEventRow}
    (hr : r ∈ t.rows) (hs : s ∈ t.rows) (hrv : r.valid = true) (hsv : s.valid = true) : r.kind = s.kind := by
  have hnewr := h.newest r.kind (kind_lt hrv)
  have hnews := h.newest s.kind (kind_lt hsv)
  obtain ⟨frontr, hfrontr, hmemr⟩ := hnewr.exists_front (mem_events.2 ⟨hr, hrv, rfl⟩)
  obtain ⟨fronts, hfronts, hmems⟩ := hnews.exists_front (mem_events.2 ⟨hs, hsv, rfl⟩)
  have hle := BankEventLogs.front_le (h.rows _ _ hmems) (kind_lt hrv) hfrontr
  have hge := BankEventLogs.front_le (h.rows _ _ hmemr) (kind_lt hsv) hfronts
  obtain ⟨hr', -, hkr⟩ := mem_events.1 (hnewr.sub _ hmemr)
  obtain ⟨hs', -, hks⟩ := mem_events.1 (hnews.sub _ hmems)
  rw [← hkr, ← hks, eq_of_logGuid hr' hs' (Nat.le_antisymm hle hge)]

/-- **The events of one list** are all that are valid, and the loader keeps the newest of them. -/
theorem newest_of_one_kind {result : List BankEventRow} (hsel : SelectedByTime t result) {k : BankLogKind}
    (hk : ∀ r ∈ result, r.valid = true → r.kind = k) (k' : BankLogKind) :
    Newest (t.events k') ((BankEventLogs.load {} result).list k') := by
  obtain ⟨hlist, hothers⟩ := BankEventLogs.load_one_kind hk
  by_cases hkk : k' = k
  · have hevents : t.events k = t.rows.filter BankEventRow.valid := by
      refine List.filter_congr fun r hr => ?_
      cases hv : r.valid with
      | false => rfl
      | true => simp [hk r (hsel.perm.mem_iff.2 hr) hv]
    rw [hkk, hlist, hevents]
    exact newest_take (hsel.perm.filter _) (t.nodup.filter _) (hsel.sorted.filter _)
  · have hevents : t.events k' = [] := by
      refine List.eq_nil_iff_forall_not_mem.2 fun r hr => ?_
      obtain ⟨hr, hv, hkr⟩ := mem_events.1 hr
      exact hkk (hkr.symm.trans (hk r (hsel.perm.mem_iff.2 hr) hv))
    rw [hothers k' hkk, hevents]
    exact .nil

/-- **The log of a guild bank** is kept as promised just if there is but one list. -/
theorem log_kept_iff (t : BankEventTable) (result : List BankEventRow) (hsel : SelectedByTime t result) :
    t.KeptAsPromised result ↔ OneList result := by
  constructor
  · intro h
    have hone : ∃ k, (∀ tab, k = .item tab → tab < 6) ∧ ∀ r ∈ result, r.valid = true → r.kind = k := by
      by_cases hany : ∃ r ∈ result, r.valid = true
      · obtain ⟨r, hr, hv⟩ := hany
        exact ⟨r.kind, kind_lt hv, fun s hs hsv =>
          h.one_kind (hsel.perm.mem_iff.1 hs) (hsel.perm.mem_iff.1 hr) hsv hv⟩
      · exact ⟨.money, nofun, fun r hr hv => absurd ⟨r, hr, hv⟩ hany⟩
    obtain ⟨k, htab, hk⟩ := hone
    obtain ⟨hlist, -⟩ := BankEventLogs.load_one_kind hk
    refine ⟨⟨k, hk⟩, fun oldest holdest e he => ?_⟩
    have hkept : e ∈ (BankEventLogs.load {} result).list k := by rw [hlist]; exact List.mem_reverse.2 he
    exact BankEventLogs.front_le (h.rows k e hkept) htab (by rw [hlist, List.head?_reverse]; exact holdest)
  · rintro ⟨⟨k, hk⟩, holdest⟩
    have hnewest := newest_of_one_kind hsel hk
    obtain ⟨hlist, hothers⟩ := BankEventLogs.load_one_kind hk
    refine ⟨hnewest .money, fun tab _ => hnewest (.item tab), fun k' e he => ?_⟩
    obtain rfl : k' = k := by
      by_contra hne
      rw [hothers k' hne] at he
      cases he
    have hbelow : ∀ k'' front, ((BankEventLogs.load {} result).list k'').head? = some front →
        front.logGuid ≤ e.logGuid := by
      intro k'' front hfront
      by_cases hkk : k'' = k'
      · rw [hkk, hlist, List.head?_reverse] at hfront
        rw [hlist] at he
        exact holdest front hfront e (List.mem_reverse.1 he)
      · rw [hothers k'' hkk] at hfront
        cases hfront
    exact BankEventLogs.mem_trim.2 ⟨(mem_events.1 ((hnewest k').sub e he)).1, hbelow .money,
      fun tab _ => hbelow (.item tab)⟩

/-- A deposit of money, and an item laid into the first tab after it. -/
def depositAndItem : BankEventTable where
  rows := [⟨6, 1, 0, 0, 0, 0, 0, 200⟩, ⟨5, 4, 0, 0, 0, 0, 0, 100⟩]
  ids := by decide

theorem log_kept_two_deposits :
    let t : BankEventTable := ⟨[⟨6, 4, 0, 0, 0, 0, 0, 200⟩, ⟨5, 4, 0, 0, 0, 0, 0, 100⟩], by decide⟩
    t.KeptAsPromised t.rows :=
  (log_kept_iff _ _ ⟨.refl _, by decide⟩).2 ⟨⟨.money, by decide⟩, by decide⟩

/-- **The deposit is lost**: the delete of the tab's list removes its row. -/
theorem deposit_lost :
    ¬ ∀ (t : BankEventTable) (result : List BankEventRow), SelectedByTime t result → t.KeptAsPromised result := by
  intro h
  have hkept := h depositAndItem depositAndItem.rows ⟨.refl _, by decide⟩
  have hlost : ¬ (⟨5, 4, 0, 0, 0, 0, 0, 100⟩ : BankEventRow) ∈
      (BankEventLogs.load {} depositAndItem.rows).trim depositAndItem.rows := by decide
  exact hlost (hkept.rows .money _ (by decide))

end BankEventTable

end BlizzLike
