import BlizzLikeCore.Guild.StoredRanks

/-!
# Ranks that load as they were

The edits keep the rows in step with the ranks (`Synced`), so that a guild loads as it was if and only if
its ranks are storable: there are at least five, their names fit the column, the guild master has
all rights and every entry he has for a tab is the full one, and nobody else has more items a day than
16 bits hold (`ranks_load_iff`).  The repair of a broken table numbers the ranks from 0, so that the table
is broken as before, and gives them no money (`ranks_stored_iff`).

    Synced             : the invariant, of the rows of both tables
    Synced.edit        : every edit keeps it
    loaded_rank        : what a rank of rows in step loads as
    ranks_stored_iff   : the result
-/

namespace BlizzLike.RankedGuild

variable {d : RankNames} {g : RankedGuild}

/-! ## Rows in step -/

/-- The row of a rank. -/
def rankRow (d : RankNames) (i : Nat) (r : GuildRank) : GuildRankRow :=
  { rid := i + 1, rname := d.column r.name, rights := r.rights, bankMoneyPerDay := r.bankMoneyPerDay }

/-- A row of `guild_bank_right` tells what its rank has on its tab. -/
def Tells (ranks : List GuildRank) (purchasedTabs : Nat) (row : BankRightRow) : Prop :=
  row.tabId < purchasedTabs ∧ row.gbright ≤ guildBankRightFull ∧ ∃ r, ranks[row.rid]? = some r ∧
    ∀ t : Fin 6, t = row.tabId → r.tabs t = ⟨row.gbright, row.slotPerDay⟩

/-- The rows of `guild_bank_right` are in step with the ranks: one at most for a rank and a tab, each tells
what is so, and where there is none the rank has nothing. -/
structure BankSynced (ranks : List GuildRank) (purchasedTabs : Nat) (rows : List BankRightRow) : Prop where
  single : rows.Pairwise fun a b => ¬(a.tabId = b.tabId ∧ a.rid = b.rid)
  tells : ∀ row ∈ rows, Tells ranks purchasedTabs row
  rest : ∀ i r, ranks[i]? = some r → ∀ t : Fin 6, (∀ row ∈ rows, ¬(row.tabId = t ∧ row.rid = i)) → r.tabs t = {}

/-- **The invariant** of a guild whose ranks are edited. -/
structure Synced (d : RankNames) (g : RankedGuild) : Prop where
  rows : g.rankRows = g.ranks.mapIdx (rankRow d)
  bank : BankSynced g.ranks g.purchasedTabs g.bankRightRows

/-! ## Rows of one tab and one rank -/

section
variable {ranks : List GuildRank} {purchasedTabs : Nat} {rows : List BankRightRow}

theorem setTab_length (rankId : Nat) (tab : Fin 6) (e : TabEntry) : (setTab rankId tab e ranks).length = ranks.length :=
  List.length_modify _ _ _

theorem setTab_get (rankId i : Nat) (tab : Fin 6) (e : TabEntry) :
    (setTab rankId tab e ranks)[i]? =
      ranks[i]?.map fun r => if rankId = i then { r with tabs := Function.update r.tabs tab e } else r := by
  unfold setTab
  rw [List.getElem?_modify]
  rfl

theorem setTab_mapIdx (rankId : Nat) (tab : Fin 6) (e : TabEntry) :
    (setTab rankId tab e ranks).mapIdx (rankRow d) = ranks.mapIdx (rankRow d) := by
  rw [List.mapIdx_eq_iff]
  intro i
  rw [List.getElem?_mapIdx, setTab_get, Option.map_map]
  congr 1
  funext r
  by_cases h : rankId = i
  · simp [h, rankRow]
  · simp [h]

theorem mem_deleteBankRight {tabId rid : Nat} {row : BankRightRow} :
    row ∈ deleteBankRight tabId rid rows ↔ row ∈ rows ∧ ¬(row.tabId = tabId ∧ row.rid = rid) := by
  unfold deleteBankRight
  rw [List.mem_filter, decide_eq_true_eq]

theorem BankSynced.delete_gone (h : BankSynced ranks purchasedTabs rows) (tabId rid : Nat)
    (hgone : rid ≥ ranks.length ∨ tabId ≥ purchasedTabs) : deleteBankRight tabId rid rows = rows := by
  unfold deleteBankRight
  rw [List.filter_eq_self]
  intro row hrow
  obtain ⟨htab, -, r, hr, -⟩ := h.tells row hrow
  obtain ⟨hlt, -⟩ := List.getElem?_eq_some_iff.1 hr
  rw [decide_eq_true_eq]
  omega

/-- **A write** to an entry and its row. -/
theorem BankSynced.set (h : BankSynced ranks purchasedTabs rows) {rankId : Nat} (hrank : rankId < ranks.length)
    (t : Fin 6) (ht : t < purchasedTabs) {e : TabEntry} (he : e.right ≤ guildBankRightFull) :
    BankSynced (setTab rankId t e ranks) purchasedTabs
      (deleteBankRight t rankId rows ++ [⟨t, rankId, e.right, e.slotPerDay⟩]) := by
  refine ⟨?_, ?_, ?_⟩
  · rw [List.pairwise_append]
    refine ⟨h.single.filter _, List.pairwise_singleton _ _, fun a ha b hb => ?_⟩
    rw [List.mem_singleton] at hb
    subst hb
    exact (mem_deleteBankRight.1 ha).2
  · intro row hrow
    rcases List.mem_append.1 hrow with hrow | hrow
    · obtain ⟨hrow, hne⟩ := mem_deleteBankRight.1 hrow
      obtain ⟨htab, hright, r, hr, htells⟩ := h.tells row hrow
      refine ⟨htab, hright, ?_⟩
      rw [setTab_get, hr]
      refine ⟨_, rfl, fun t' ht' => ?_⟩
      split
      · next hri =>
        have hne : t' ≠ t := fun heq => hne ⟨by rw [← ht', heq], hri.symm⟩
        show Function.update r.tabs t e t' = _
        rw [Function.update_of_ne hne, htells t' ht']
      · exact htells t' ht'
    · rw [List.mem_singleton] at hrow
      subst hrow
      refine ⟨ht, he, ?_⟩
      rw [setTab_get, List.getElem?_eq_getElem hrank]
      refine ⟨_, rfl, fun t' ht' => ?_⟩
      show (if rankId = rankId then _ else _ : GuildRank).tabs t' = _
      rw [if_pos rfl, Fin.ext ht']
      exact Function.update_self ..
  · intro i r hi t' hnone
    rw [setTab_get] at hi
    obtain ⟨r0, hr0, rfl⟩ := Option.map_eq_some_iff.1 hi
    have hrest : ¬(t' = t ∧ rankId = i) → r0.tabs t' = {} := by
      intro hne
      refine h.rest i r0 hr0 t' fun row hrow hkey => hnone row ?_ hkey
      refine List.mem_append_left _ (mem_deleteBankRight.2 ⟨hrow, fun hk => hne ⟨?_, ?_⟩⟩)
      · exact Fin.ext (hkey.1.symm.trans hk.1)
      · exact hk.2.symm.trans hkey.2
    split
    · next hri =>
      have hne : t' ≠ t := by
        rintro rfl
        exact hnone _ (List.mem_append_right _ List.mem_cons_self) ⟨rfl, hri⟩
      show Function.update r0.tabs t e t' = _
      rw [Function.update_of_ne hne]
      exact hrest fun hk => hne hk.1
    · next hri => exact hrest fun hk => hri hk.2

theorem BankSynced.append (h : BankSynced ranks purchasedTabs rows) {rank : GuildRank} (hrank : rank.tabs = fun _ => {}) :
    BankSynced (ranks ++ [rank]) purchasedTabs rows := by
  refine ⟨h.single, fun row hrow => ?_, fun i r hi t hnone => ?_⟩
  · obtain ⟨htab, hright, r, hr, htells⟩ := h.tells row hrow
    obtain ⟨hlt, -⟩ := List.getElem?_eq_some_iff.1 hr
    exact ⟨htab, hright, r, by rw [List.getElem?_append_left hlt, hr], htells⟩
  · rw [List.getElem?_append] at hi
    split at hi
    · exact h.rest i r hi t hnone
    · rw [List.getElem?_singleton] at hi
      split at hi
      · rw [← Option.some.inj hi, hrank]
      · cases hi

theorem BankSynced.moreTabs (h : BankSynced ranks purchasedTabs rows) {purchasedTabs' : Nat}
    (hle : purchasedTabs ≤ purchasedTabs') : BankSynced ranks purchasedTabs' rows :=
  ⟨h.single, fun row hrow => by
    obtain ⟨htab, hright⟩ := h.tells row hrow
    exact ⟨by omega, hright⟩, h.rest⟩

theorem BankSynced.dropLast (h : BankSynced ranks purchasedTabs rows) :
    BankSynced ranks.dropLast purchasedTabs (rows.filter fun row => ¬ ranks.length - 1 ≤ row.rid) := by
  have hget : ∀ i, i < ranks.length - 1 → ranks.dropLast[i]? = ranks[i]? := by
    intro i hi
    rw [List.getElem?_dropLast, if_pos hi]
  refine ⟨h.single.filter _, fun row hrow => ?_, fun i r hi t hnone => ?_⟩
  · rw [List.mem_filter, decide_eq_true_eq] at hrow
    obtain ⟨htab, hright, r, hr, htells⟩ := h.tells row hrow.1
    exact ⟨htab, hright, r, by rw [hget _ (by omega), hr], htells⟩
  · obtain ⟨hlt, -⟩ := List.getElem?_eq_some_iff.1 hi
    rw [List.length_dropLast] at hlt
    rw [hget i hlt] at hi
    refine h.rest i r hi t fun row hrow hkey => hnone row ?_ hkey
    rw [List.mem_filter, decide_eq_true_eq]
    exact ⟨hrow, by omega⟩

end

/-! ## Edits -/

theorem createBankRightForTab_spec {rankId tabId : Nat} {r : GuildRank} (hr : g.ranks[rankId]? = some r)
    (hempty : r.tabs = fun _ => {}) (hbank : BankSynced g.ranks g.purchasedTabs g.bankRightRows)
    (htab : tabId < g.purchasedTabs) :
    ∃ rows, g.createBankRightForTab rankId tabId = { g with bankRightRows := rows } ∧
      BankSynced g.ranks g.purchasedTabs rows := by
  obtain ⟨hlt, -⟩ := List.getElem?_eq_some_iff.1 hr
  have hsix := g.purchased_le
  have hsame : setTab rankId ⟨tabId, by omega⟩ {} g.ranks = g.ranks := by
    refine List.ext_getElem? fun i => ?_
    rw [setTab_get]
    cases hi : g.ranks[i]? with
    | none => rfl
    | some r' =>
      rw [Option.map_some]
      split
      · next h =>
        rw [← h, hr, Option.some.injEq] at hi
        rw [← hi, Option.some.injEq]
        have htabs : Function.update r.tabs ⟨tabId, by omega⟩ {} = r.tabs := by
          rw [hempty]
          exact Function.update_eq_self _ _
        rw [htabs]
      · rfl
  have hset := hbank.set hlt ⟨tabId, by omega⟩ htab (e := {}) (Nat.zero_le _)
  rw [hsame] at hset
  refine ⟨_, ?_, hset⟩
  unfold createBankRightForTab
  rw [dif_neg (by omega), hsame]

/-- **A rank is created** with an empty entry for every tab. -/
theorem createRank_spec (name : String) (rights : Nat) (hlen : g.ranks.length < guildMaxRanks)
    (hbank : BankSynced g.ranks g.purchasedTabs g.bankRightRows) :
    ∃ rows, g.createRank d name rights =
        { g with
          ranks := g.ranks ++ [{ name := name, rights := rights }]
          rankRows := insertRank { rid := g.ranks.length + 1, rname := d.column name, rights := rights } g.rankRows
          bankRightRows := rows } ∧
      BankSynced (g.ranks ++ [{ name := name, rights := rights }]) g.purchasedTabs rows := by
  have hfold : ∀ (l : List Nat) (h : RankedGuild), (∀ i ∈ l, i < g.purchasedTabs) →
      h.ranks = g.ranks ++ [{ name := name, rights := rights }] → h.purchasedTabs = g.purchasedTabs →
      BankSynced h.ranks h.purchasedTabs h.bankRightRows →
      ∃ rows, l.foldl (fun g i => g.createBankRightForTab (g.ranks.length - 1) i) h = { h with bankRightRows := rows } ∧
        BankSynced h.ranks h.purchasedTabs rows := by
    intro l
    induction l with
    | nil => exact fun h _ _ _ hb => ⟨_, rfl, hb⟩
    | cons i l ih =>
      intro h hl hranks htabs hb
      have hlast : h.ranks[h.ranks.length - 1]? = some { name := name, rights := rights } := by
        rw [hranks]
        simp
      obtain ⟨rows, heq, hb⟩ := createBankRightForTab_spec hlast rfl hb (by
        rw [htabs]
        exact hl i List.mem_cons_self)
      rw [List.foldl_cons, heq]
      exact ih { h with bankRightRows := rows } (fun j hj => hl j (List.mem_cons_of_mem _ hj)) hranks htabs hb
  obtain ⟨rows, heq, hb⟩ := hfold (List.range g.purchasedTabs)
    { g with ranks := g.ranks ++ [{ name := name, rights := rights }] } (fun i => List.mem_range.1) rfl rfl
    (hbank.append rfl)
  refine ⟨rows, ?_, hb⟩
  unfold createRank
  rw [if_neg (by omega)]
  simp only [heq, List.length_append, List.length_singleton]

theorem Synced.row_rid (h : Synced d g) {row : GuildRankRow} (hrow : row ∈ g.rankRows) : row.rid ≤ g.ranks.length := by
  rw [h.rows, List.mem_mapIdx] at hrow
  obtain ⟨i, hi, rfl⟩ := hrow
  exact hi

theorem Synced.createRank (h : Synced d g) (name : String) (rights : Nat) : Synced d (g.createRank d name rights) := by
  by_cases hlen : g.ranks.length < guildMaxRanks
  · obtain ⟨rows, heq, hb⟩ := createRank_spec (d := d) name rights hlen h.bank
    rw [heq]
    refine ⟨?_, hb⟩
    have hnew : (g.rankRows.any fun r => r.rid == g.ranks.length + 1) = false := by
      rw [List.any_eq_false]
      intro row hrow
      have := h.row_rid hrow
      rw [beq_iff_eq]
      omega
    show insertRank _ g.rankRows = _
    unfold insertRank
    rw [if_neg (by simpa using hnew), List.mapIdx_concat, ← h.rows]
    rfl
  · have hsame : g.createRank d name rights = g := if_pos (by omega)
    rw [hsame]
    exact h

theorem Synced.delRank (h : Synced d g) : Synced d g.delRank := by
  unfold RankedGuild.delRank
  split
  · exact h
  · next hne =>
    refine ⟨?_, h.bank.dropLast⟩
    obtain ⟨l, a, hla⟩ := (List.eq_nil_or_concat g.ranks).resolve_left hne
    show g.rankRows.filter _ = _
    rw [h.rows, hla, List.concat_eq_append, List.mapIdx_concat, List.filter_append, List.dropLast_concat, List.filter_eq_self.2,
      List.filter_cons_of_neg, List.filter_nil, List.append_nil]
    · simp [rankRow]
    · intro row hrow
      obtain ⟨i, hi, rfl⟩ := List.mem_mapIdx.1 hrow
      rw [decide_eq_true_eq, List.length_append, List.length_singleton]
      show ¬ l.length + 1 - 1 + 1 ≤ i + 1
      omega

theorem Synced.editRank (h : Synced d g) (rankId : Nat) {f : GuildRank → GuildRank} {f' : GuildRankRow → GuildRankRow}
    (hrow : ∀ r, f' (rankRow d rankId r) = rankRow d rankId (f r)) (htabs : ∀ r, (f r).tabs = r.tabs) :
    Synced d (g.editRank rankId f f') := by
  unfold RankedGuild.editRank
  split
  · exact h
  · have hget : ∀ i, (g.ranks.modify rankId f)[i]? = g.ranks[i]?.map fun r => if rankId = i then f r else r := by
      intro i
      rw [List.getElem?_modify]
      rfl
    have htabsOf : ∀ {i : Nat} {r : GuildRank}, (g.ranks.modify rankId f)[i]? = some r → ∃ r0, g.ranks[i]? = some r0 ∧ r.tabs = r0.tabs := by
      intro i r hi
      rw [hget] at hi
      obtain ⟨r0, hr0, rfl⟩ := Option.map_eq_some_iff.1 hi
      refine ⟨r0, hr0, ?_⟩
      split
      · exact htabs r0
      · rfl
    refine ⟨?_, ⟨h.bank.single, fun row hrow => ?_, fun i r hi t hnone => ?_⟩⟩
    · show g.rankRows.map _ = (g.ranks.modify rankId f).mapIdx _
      refine List.ext_getElem? fun i => ?_
      rw [List.getElem?_map, h.rows, List.getElem?_mapIdx, List.getElem?_mapIdx, hget, Option.map_map, Option.map_map]
      congr 1
      funext r
      show (if (rankRow d i r).rid = rankId + 1 then f' (rankRow d i r) else rankRow d i r) = _
      by_cases hi : rankId = i
      · subst hi
        have hrid : (rankRow d rankId r).rid = rankId + 1 := rfl
        rw [if_pos hrid, hrow]
        simp
      · have hne : (rankRow d i r).rid ≠ rankId + 1 := by
          show i + 1 ≠ rankId + 1
          omega
        rw [if_neg hne]
        simp [hi]
    · obtain ⟨htab, hright, r, hr, htells⟩ := h.bank.tells row hrow
      refine ⟨htab, hright, ?_⟩
      show ∃ r, (g.ranks.modify rankId f)[row.rid]? = some r ∧ _
      rw [hget, hr]
      refine ⟨_, rfl, fun t ht => ?_⟩
      show (if rankId = row.rid then f r else r).tabs t = _
      split
      · rw [htabs, htells t ht]
      · exact htells t ht
    · obtain ⟨r0, hr0, heq⟩ := htabsOf hi
      rw [heq]
      exact h.bank.rest i r0 hr0 t hnone

theorem Synced.setBankRightsAndSlots (h : Synced d g) (rankId tabId : Nat) {right : Nat}
    (hright : right ≤ guildBankRightFull) (nbSlots : Nat) :
    Synced d (g.setBankRightsAndSlots rankId tabId right nbSlots true) := by
  unfold RankedGuild.setBankRightsAndSlots
  split
  · next hgone =>
    have hsix := g.purchased_le
    have hnone := h.bank.delete_gone tabId rankId (by omega)
    rw [hnone]
    exact h
  · next hin =>
    simp only [if_true]
    refine ⟨?_, ?_⟩
    · show g.rankRows = _
      rw [setTab_mapIdx, h.rows]
    · refine h.bank.set (by omega) ⟨tabId, by omega⟩ (show tabId < g.purchasedTabs by omega) ?_
      split
      · exact Nat.le_refl _
      · exact hright

/-- **Every edit** keeps the rows in step. -/
theorem Synced.edit (h : Synced d g) (e : RankEdit) : Synced d (g.edit d e) := by
  cases e with
  | createRank name rights => exact h.createRank name rights
  | delRank => exact h.delRank
  | setRankName rankId name => exact h.editRank rankId (fun _ => rfl) fun _ => rfl
  | setRankRights rankId rights => exact h.editRank rankId (fun _ => rfl) fun _ => rfl
  | setBankMoneyPerDay rankId money => exact h.editRank rankId (fun _ => rfl) fun _ => rfl
  | setBankRightsAndSlots rankId tabId right nbSlots =>
    exact h.setBankRightsAndSlots rankId tabId (Nat.le_of_lt_succ right.toNat_lt) nbSlots
  | createNewBankTab =>
    show Synced d g.createNewBankTab
    unfold RankedGuild.createNewBankTab
    split
    · exact h
    · exact ⟨h.rows, h.bank.moreTabs (Nat.le_succ _)⟩

theorem synced_cleared (hnil : g.ranks = []) : Synced d { g with rankRows := [], bankRightRows := [] } := by
  refine ⟨?_, ⟨List.Pairwise.nil, by simp, ?_⟩⟩
  · show [] = g.ranks.mapIdx _
    rw [hnil]
    rfl
  · intro i r hi
    change g.ranks[i]? = some r at hi
    rw [hnil] at hi
    cases hi

theorem synced_default (hnil : g.ranks = []) : Synced d (g.createDefaultGuildRanks d) := by
  unfold createDefaultGuildRanks
  exact (((((synced_cleared hnil).createRank _ _).createRank _ _).createRank _ _).createRank _ _).createRank _ _

theorem synced_run (es : List RankEdit) : Synced d (Transition.run (edit d) (created d) es) := by
  have hrun : ∀ (es : List RankEdit) (g : RankedGuild), Synced d g → Synced d (Transition.run (edit d) g es) := by
    intro es
    induction es with
    | nil => exact fun _ h => h
    | cons e es ih => exact fun g h => ih _ (h.edit e)
  exact hrun es _ (synced_default rfl)

/-! ## Reading ranks -/

/-- The rank that a row is read as. -/
def readRank (i : Nat) (row : GuildRankRow) : GuildRank :=
  { name := row.rname, rights := if i = 0 then row.rights ||| grRightAll else row.rights
    bankMoneyPerDay := row.bankMoneyPerDay }

/-- The ids go on from a number, each one more. -/
def numberedFrom : Nat → List GuildRankRow → Bool
  | _, [] => true
  | n, row :: rows => row.rid == n + 1 && numberedFrom (n + 1) rows

theorem readRanks_eq (rows : List GuildRankRow) (ranks : List GuildRank) (broken : Bool) :
    readRanks rows ranks broken =
      (ranks ++ rows.mapIdx (fun i row => readRank (ranks.length + i) row),
        broken || !numberedFrom ranks.length rows) := by
  induction rows generalizing ranks broken with
  | nil => simp [readRanks, numberedFrom]
  | cons row rows ih =>
    unfold readRanks numberedFrom
    simp only
    rw [ih, List.mapIdx_cons]
    have hfirst : (ranks = []) ↔ ranks.length = 0 := List.length_eq_zero_iff.symm
    simp only [List.length_append, List.length_singleton, List.append_assoc, List.singleton_append, readRank, hfirst,
      Nat.add_zero, Nat.add_assoc, Nat.add_comm 1, Bool.not_and, Bool.or_assoc, bne]

theorem numberedFrom_sorted {n : Nat} {rows : List GuildRankRow} (h : numberedFrom n rows = true) :
    (∀ row ∈ rows, n < row.rid) ∧ rows.Pairwise fun a b => a.rid ≤ b.rid := by
  induction rows generalizing n with
  | nil => simp
  | cons row rows ih =>
    unfold numberedFrom at h
    rw [Bool.and_eq_true, beq_iff_eq] at h
    obtain ⟨hlt, hpair⟩ := ih h.2
    refine ⟨fun r hr => ?_, List.pairwise_cons.2 ⟨fun r hr => ?_, hpair⟩⟩
    · rcases List.mem_cons.1 hr with rfl | hr
      · omega
      · have := hlt r hr
        omega
    · have := hlt r hr
      omega

theorem selectRanks_of_numbered {n : Nat} (h : numberedFrom n g.rankRows = true) : g.selectRanks = g.rankRows :=
  (numberedFrom_sorted h).2.insertionSort_eq

theorem length_selectRanks : g.selectRanks.length = g.rankRows.length := List.length_insertionSort _ _

theorem numberedFrom_rankRows (n : Nat) (ranks : List GuildRank) :
    numberedFrom n (ranks.mapIdx fun i r => rankRow d (n + i) r) = true := by
  induction ranks generalizing n with
  | nil => rfl
  | cons r ranks ih =>
    have ih := ih (n + 1)
    rw [List.mapIdx_cons]
    unfold numberedFrom
    simp only [Nat.add_assoc, Nat.add_comm 1, Nat.add_zero] at ih ⊢
    rw [ih, Bool.and_true, beq_iff_eq]
    rfl

theorem Synced.numbered (h : Synced d g) : numberedFrom 0 g.rankRows = true := by
  have hrows := numberedFrom_rankRows (d := d) 0 g.ranks
  simp only [Nat.zero_add] at hrows
  rw [h.rows]
  exact hrows

theorem loadRanks_numbered (hlen : guildRanksMinCount ≤ g.rankRows.length) (hnum : numberedFrom 0 g.selectRanks = true) :
    g.loadRanksFromDB d = { g with ranks := g.selectRanks.mapIdx readRank } := by
  unfold loadRanksFromDB
  rw [readRanks_eq]
  simp only [List.nil_append, List.length_nil, Nat.zero_add, hnum, Bool.false_or, Bool.not_true,
    List.length_mapIdx, length_selectRanks]
  rw [if_neg (by omega), if_neg Bool.false_ne_true]

/-- **The repair** numbers the ranks from 0 and gives them no money. -/
theorem loadRanks_repaired (hlen : guildRanksMinCount ≤ g.rankRows.length)
    (hnum : numberedFrom 0 g.selectRanks = false) :
    (g.loadRanksFromDB d).ranks = g.selectRanks.mapIdx readRank ∧
      (g.loadRanksFromDB d).rankRows = (g.selectRanks.mapIdx readRank).mapIdx fun i rank =>
        { rid := i, rname := d.column rank.name, rights := rank.rights } := by
  unfold loadRanksFromDB
  rw [readRanks_eq]
  simp only [List.nil_append, List.length_nil, Nat.zero_add, hnum, Bool.false_or, Bool.not_false,
    List.length_mapIdx, length_selectRanks]
  rw [if_neg (by omega), if_pos trivial]
  exact ⟨rfl, rfl⟩

theorem loadRanks_renewed (hlen : g.rankRows.length < guildRanksMinCount) :
    g.loadRanksFromDB d = { g with ranks := [] }.createDefaultGuildRanks d := by
  unfold loadRanksFromDB
  rw [readRanks_eq]
  simp only [List.nil_append, List.length_nil, Nat.zero_add, List.length_mapIdx, length_selectRanks]
  rw [if_pos hlen]

/-! ## Default ranks -/

/-- The ranks of `CreateDefaultGuildRanks`. -/
def defaultRanks (d : RankNames) : List GuildRank :=
  [{ name := d.texts 0, rights := grRightAll }, { name := d.texts 1, rights := grRightAll },
    { name := d.texts 2, rights := grRightGChatListen ||| grRightGChatSpeak },
    { name := d.texts 3, rights := grRightGChatListen ||| grRightGChatSpeak },
    { name := d.texts 4, rights := grRightGChatListen ||| grRightGChatSpeak }]

theorem Synced.createRank_ranks (h : Synced d g) {ranks : List GuildRank} (hranks : g.ranks = ranks)
    (hlen : ranks.length < guildMaxRanks) (name : String) (rights : Nat) :
    (g.createRank d name rights).ranks = ranks ++ [{ name := name, rights := rights }] := by
  subst hranks
  obtain ⟨rows, heq, -⟩ := createRank_spec (d := d) name rights hlen h.bank
  rw [heq]

theorem default_ranks (hnil : g.ranks = []) : (g.createDefaultGuildRanks d).ranks = defaultRanks d := by
  have h0 := synced_cleared (d := d) hnil
  have h1 := h0.createRank (d.texts 0) grRightAll
  have h2 := h1.createRank (d.texts 1) grRightAll
  have h3 := h2.createRank (d.texts 2) (grRightGChatListen ||| grRightGChatSpeak)
  have h4 := h3.createRank (d.texts 3) (grRightGChatListen ||| grRightGChatSpeak)
  have r1 := h0.createRank_ranks hnil (by decide) (d.texts 0) grRightAll
  have r2 := h1.createRank_ranks r1 (by simp [guildMaxRanks]) (d.texts 1) grRightAll
  have r3 := h2.createRank_ranks r2 (by simp [guildMaxRanks]) (d.texts 2) (grRightGChatListen ||| grRightGChatSpeak)
  have r4 := h3.createRank_ranks r3 (by simp [guildMaxRanks]) (d.texts 3) (grRightGChatListen ||| grRightGChatSpeak)
  exact h4.createRank_ranks r4 (by simp [guildMaxRanks]) (d.texts 4) (grRightGChatListen ||| grRightGChatSpeak)

/-! ## Loading the rights to the bank -/

/-- The entry that a row of `guild_bank_right` is loaded as. -/
def loadedEntry (row : BankRightRow) : TabEntry :=
  if row.rid = grGuildMaster then TabEntry.full else ⟨row.gbright % 65536, row.slotPerDay % 65536⟩

theorem loadBankRights_length (rows : List BankRightRow) (g : RankedGuild) :
    (g.loadBankRightsFromDB rows).ranks.length = g.ranks.length := by
  unfold loadBankRightsFromDB
  induction rows generalizing g with
  | nil => rfl
  | cons row rows ih =>
    rw [List.foldl_cons, ih]
    unfold RankedGuild.setBankRightsAndSlots
    split
    · rfl
    · simp only [Bool.false_eq_true, if_false]
      exact setTab_length ..

/-- **The rights to the bank** that a rank has when rows of ranks and tabs that there are were loaded, one
at most for each. -/
theorem loadBankRights_get (rows : List BankRightRow) (g : RankedGuild)
    (hthere : ∀ row ∈ rows, row.rid < g.ranks.length ∧ row.tabId < g.purchasedTabs)
    (hsingle : rows.Pairwise fun a b => ¬(a.tabId = b.tabId ∧ a.rid = b.rid)) {i : Nat} {r : GuildRank}
    (hr : g.ranks[i]? = some r) :
    ∃ tabs, (g.loadBankRightsFromDB rows).ranks[i]? = some { r with tabs := tabs } ∧
      ∀ t : Fin 6, (∀ row ∈ rows, row.tabId = t ∧ row.rid = i → tabs t = loadedEntry row) ∧
        ((∀ row ∈ rows, ¬(row.tabId = t ∧ row.rid = i)) → tabs t = r.tabs t) := by
  unfold loadBankRightsFromDB
  induction rows generalizing g r with
  | nil => exact ⟨r.tabs, hr, fun t => ⟨by simp, fun _ => rfl⟩⟩
  | cons row rows ih =>
    rw [List.pairwise_cons] at hsingle
    obtain ⟨hrid, htab⟩ := hthere row List.mem_cons_self
    have hsix := g.purchased_le
    have hstep : g.setBankRightsAndSlots row.rid row.tabId (row.gbright % 65536) (row.slotPerDay % 65536) false =
        { g with ranks := setTab row.rid ⟨row.tabId, by omega⟩ (loadedEntry row) g.ranks } := by
      unfold RankedGuild.setBankRightsAndSlots
      rw [dif_neg (by omega)]
      rfl
    rw [List.foldl_cons, hstep]
    have hget : (setTab row.rid ⟨row.tabId, by omega⟩ (loadedEntry row) g.ranks)[i]? =
        some (if row.rid = i then { r with tabs := Function.update r.tabs ⟨row.tabId, by omega⟩ (loadedEntry row) } else r) := by
      rw [setTab_get, hr]
      rfl
    obtain ⟨tabs, heq, hall⟩ := ih { g with ranks := setTab row.rid ⟨row.tabId, by omega⟩ (loadedEntry row) g.ranks }
      (fun row' hrow' => by
        rw [setTab_length]
        exact hthere row' (List.mem_cons_of_mem _ hrow')) hsingle.2 hget
    refine ⟨tabs, ?_, fun t => ⟨fun row' hrow' hkey => ?_, fun hnone => ?_⟩⟩
    · rw [heq]
      split <;> rfl
    · rcases List.mem_cons.1 hrow' with rfl | hrow'
      · -- the first row, whose entry the others leave alone
        have hlater := (hall t).2 fun row'' hrow'' hk =>
          hsingle.1 row'' hrow'' ⟨hkey.1.trans hk.1.symm, hkey.2.trans hk.2.symm⟩
        rw [hlater, if_pos hkey.2]
        show Function.update r.tabs _ _ t = _
        rw [show (⟨row'.tabId, by omega⟩ : Fin 6) = t from Fin.ext hkey.1]
        exact Function.update_self ..
      · exact (hall t).1 row' hrow' hkey
    · have hlater := (hall t).2 fun row' hrow' => hnone row' (List.mem_cons_of_mem _ hrow')
      have hnot := hnone row List.mem_cons_self
      rw [hlater]
      split
      · next hri =>
        refine Function.update_of_ne ?_ _ _
        rintro rfl
        exact hnot ⟨rfl, hri⟩
      · rfl

/-! ## A guild as it loads -/

/-- **Storable ranks**: what the two tables and their loaders can give back. -/
structure Storable (d : RankNames) (g : RankedGuild) : Prop where
  enough : guildRanksMinCount ≤ g.ranks.length
  names : ∀ r ∈ g.ranks, d.column r.name = r.name
  master : ∀ r, g.ranks[grGuildMaster]? = some r → r.rights ||| grRightAll = r.rights
  masterTabs : ∀ r, g.ranks[grGuildMaster]? = some r → ∀ row ∈ g.bankRightRows, row.rid = grGuildMaster →
    ∀ t : Fin 6, t = row.tabId → r.tabs t = TabEntry.full
  slots : ∀ i r, i ≠ grGuildMaster → g.ranks[i]? = some r → ∀ t, (r.tabs t).slotPerDay < 65536

/-- **A rank of rows in step** as it loads. -/
theorem loaded_rank (h : Synced d g) (hlen : guildRanksMinCount ≤ g.ranks.length) {i : Nat} {r : GuildRank}
    (hr : g.ranks[i]? = some r) :
    ∃ tabs, (g.loaded d).ranks[i]? =
        some { name := d.column r.name, rights := if i = 0 then r.rights ||| grRightAll else r.rights
               bankMoneyPerDay := r.bankMoneyPerDay, tabs := tabs } ∧
      ∀ t : Fin 6, (∀ row ∈ g.bankRightRows, row.tabId = t ∧ row.rid = i → tabs t = loadedEntry row) ∧
        ((∀ row ∈ g.bankRightRows, ¬(row.tabId = t ∧ row.rid = i)) → tabs t = {}) := by
  have hselect := selectRanks_of_numbered h.numbered
  have hload : g.loadRanksFromDB d = { g with ranks := g.rankRows.mapIdx readRank } := by
    rw [loadRanks_numbered (by rw [h.rows, List.length_mapIdx]; exact hlen) (by rw [hselect]; exact h.numbered), hselect]
  have hget : (g.rankRows.mapIdx readRank)[i]? = some (readRank i (rankRow d i r)) := by
    rw [List.getElem?_mapIdx, h.rows, List.getElem?_mapIdx, hr]
    rfl
  have hperm := List.perm_insertionSort (fun a b : BankRightRow => a.tabId ≤ b.tabId) g.bankRightRows
  unfold loaded
  rw [hload]
  obtain ⟨tabs, heq, hall⟩ := loadBankRights_get
    (g.bankRightRows.insertionSort fun a b => a.tabId ≤ b.tabId) { g with ranks := g.rankRows.mapIdx readRank }
    (fun row hrow => by
      obtain ⟨htab, -, r, hr, -⟩ := h.bank.tells row (hperm.mem_iff.1 hrow)
      obtain ⟨hlt, -⟩ := List.getElem?_eq_some_iff.1 hr
      refine ⟨?_, htab⟩
      rw [h.rows, List.length_mapIdx, List.length_mapIdx]
      exact hlt)
    (hperm.pairwise_iff (fun hab hba => hab ⟨hba.1.symm, hba.2.symm⟩) |>.2 h.bank.single) hget
  refine ⟨tabs, heq, fun t => ⟨fun row hrow => (hall t).1 row (hperm.mem_iff.2 hrow), fun hnone => ?_⟩⟩
  exact (hall t).2 fun row hrow => hnone row (hperm.mem_iff.1 hrow)

theorem loaded_length (h : Synced d g) (hlen : guildRanksMinCount ≤ g.ranks.length) :
    (g.loaded d).ranks.length = g.ranks.length := by
  have hselect := selectRanks_of_numbered h.numbered
  unfold loaded
  rw [loadBankRights_length, loadRanks_numbered (by rw [h.rows, List.length_mapIdx]; exact hlen)
    (by rw [hselect]; exact h.numbered), hselect, List.length_mapIdx, h.rows, List.length_mapIdx]

theorem loaded_few (h : Synced d g) (hlen : g.ranks.length < guildRanksMinCount) :
    (g.loaded d).ranks.length = guildRanksMinCount := by
  unfold loaded
  rw [loadBankRights_length, loadRanks_renewed (by rw [h.rows, List.length_mapIdx]; exact hlen), default_ranks rfl]
  rfl

/-- **Ranks load as they are** just if they are storable. -/
theorem loaded_ranks_iff (h : Synced d g) : (g.loaded d).ranks = g.ranks ↔ g.Storable d := by
  constructor
  · intro heq
    have hlen : guildRanksMinCount ≤ g.ranks.length := by
      by_contra hlt
      have := loaded_few h (by omega)
      rw [heq] at this
      omega
    -- what each rank loads as is the rank
    have hrank : ∀ i r, g.ranks[i]? = some r → d.column r.name = r.name ∧
        (i = 0 → r.rights ||| grRightAll = r.rights) ∧
        ∀ row ∈ g.bankRightRows, row.rid = i → ∀ t : Fin 6, t = row.tabId → r.tabs t = loadedEntry row := by
      intro i r hr
      obtain ⟨tabs, hload, hall⟩ := loaded_rank h hlen hr
      rw [heq, hr, Option.some.injEq] at hload
      refine ⟨(congrArg GuildRank.name hload).symm, fun hi => ?_, fun row hrow hrid t ht => ?_⟩
      · have hrights := congrArg GuildRank.rights hload
        rw [if_pos hi] at hrights
        exact hrights.symm
      · rw [congrArg GuildRank.tabs hload]
        exact (hall t).1 row hrow ⟨ht.symm, hrid⟩
    refine ⟨hlen, fun r hr => ?_, fun r hr => (hrank _ r hr).2.1 rfl, fun r hr row hrow hrid t ht => ?_,
      fun i r hi hr t => ?_⟩
    · obtain ⟨i, hi⟩ := List.getElem?_of_mem hr
      exact (hrank i r hi).1
    · rw [(hrank _ r hr).2.2 row hrow hrid t ht]
      exact if_pos hrid
    · by_cases hrow : ∃ row ∈ g.bankRightRows, row.tabId = t ∧ row.rid = i
      · obtain ⟨row, hrow, htab, hrid⟩ := hrow
        rw [(hrank i r hr).2.2 row hrow hrid t htab.symm]
        unfold loadedEntry
        rw [if_neg (by rw [hrid]; exact hi)]
        exact Nat.mod_lt _ (by decide)
      · rw [h.bank.rest i r hr t fun row hr hk => hrow ⟨row, hr, hk⟩]
        decide
  · intro hs
    refine List.ext_getElem? fun i => ?_
    cases hr : g.ranks[i]? with
    | none =>
      rw [List.getElem?_eq_none_iff, loaded_length h hs.enough]
      exact List.getElem?_eq_none_iff.1 hr
    | some r =>
      obtain ⟨tabs, hload, hall⟩ := loaded_rank h hs.enough hr
      have hrights : (if i = 0 then r.rights ||| grRightAll else r.rights) = r.rights := by
        split
        · next hi =>
          subst hi
          exact hs.master r hr
        · rfl
      have htabs : tabs = r.tabs := by
        funext t
        by_cases hrow : ∃ row ∈ g.bankRightRows, row.tabId = t ∧ row.rid = i
        · obtain ⟨row, hrow, htab, hrid⟩ := hrow
          rw [(hall t).1 row hrow ⟨htab, hrid⟩]
          obtain ⟨-, hright, r', hr', htells⟩ := h.bank.tells row hrow
          rw [hrid, hr, Option.some.injEq] at hr'
          subst hr'
          unfold loadedEntry
          split
          · next hmaster => exact (hs.masterTabs r (by rw [← hmaster, hrid]; exact hr) row hrow hmaster t htab.symm).symm
          · next hmaster =>
            have hslots := hs.slots i r (fun hi => hmaster (hrid.trans hi)) hr t
            rw [htells t htab.symm] at hslots ⊢
            rw [Nat.mod_eq_of_lt (show row.gbright < 65536 by unfold guildBankRightFull at hright; omega),
              Nat.mod_eq_of_lt hslots]
        · rw [(hall t).2 fun row hr hk => hrow ⟨row, hr, hk⟩, h.bank.rest i r hr t fun row hr hk => hrow ⟨row, hr, hk⟩]
      rw [hload, hrights, htabs, hs.names r (List.mem_of_getElem? hr)]

/-! ## The repair -/

/-- What `LoadRanksFromDB` leaves in the table loads again as the same ranks, and needs no repair. -/
def Repairs (d : RankNames) (g : RankedGuild) : Prop :=
  ((g.loadRanksFromDB d).loadRanksFromDB d).ranks = (g.loadRanksFromDB d).ranks ∧
    guildRanksMinCount ≤ (g.loadRanksFromDB d).rankRows.length ∧
    numberedFrom 0 (g.loadRanksFromDB d).selectRanks = true

theorem repairs_numbered (hlen : guildRanksMinCount ≤ g.rankRows.length) (hnum : numberedFrom 0 g.selectRanks = true) :
    Repairs d g := by
  unfold Repairs
  rw [loadRanks_numbered hlen hnum]
  refine ⟨?_, hlen, hnum⟩
  rw [loadRanks_numbered (g := { g with ranks := g.selectRanks.mapIdx readRank }) hlen hnum]
  rfl

/-- **The repaired rows are broken**: the first of them has the id 0. -/
theorem not_repairs_broken (hlen : guildRanksMinCount ≤ g.rankRows.length)
    (hnum : numberedFrom 0 g.selectRanks = false) : ¬ Repairs d g := by
  rintro ⟨-, -, hagain⟩
  obtain ⟨-, hrows⟩ := loadRanks_repaired (d := d) hlen hnum
  have hpos : 0 < (g.selectRanks.mapIdx readRank).length := by
    rw [List.length_mapIdx, length_selectRanks]
    exact Nat.lt_of_lt_of_le (by decide) hlen
  have hfirst : ({ rid := 0, rname := d.column ((g.selectRanks.mapIdx readRank)[0]).name
                   rights := ((g.selectRanks.mapIdx readRank)[0]).rights } : GuildRankRow) ∈
      (g.loadRanksFromDB d).selectRanks := by
    unfold selectRanks
    rw [List.mem_insertionSort, hrows, List.mem_mapIdx]
    exact ⟨0, hpos, rfl⟩
  exact absurd ((numberedFrom_sorted hagain).1 _ hfirst) (Nat.lt_irrefl 0)

theorem repairs_few_iff (hlen : g.rankRows.length < guildRanksMinCount) :
    Repairs d g ↔ ∀ i, i < 5 → d.column (d.texts i) = d.texts i := by
  have hs : Synced d (g.loadRanksFromDB d) := by
    rw [loadRanks_renewed hlen]
    exact synced_default rfl
  have hranks : (g.loadRanksFromDB d).ranks = defaultRanks d := by
    rw [loadRanks_renewed hlen, default_ranks rfl]
  have hselect := selectRanks_of_numbered hs.numbered
  have hrows : guildRanksMinCount ≤ (g.loadRanksFromDB d).rankRows.length := by
    rw [hs.rows, List.length_mapIdx, hranks]
    exact Nat.le_refl _
  have hnum : numberedFrom 0 (g.loadRanksFromDB d).selectRanks = true := by
    rw [hselect]
    exact hs.numbered
  have hagain : ((g.loadRanksFromDB d).loadRanksFromDB d).ranks =
      ((defaultRanks d).mapIdx (rankRow d)).mapIdx readRank := by
    rw [loadRanks_numbered hrows hnum, hselect, hs.rows, hranks]
  unfold Repairs
  rw [hagain, hranks]
  constructor
  · rintro ⟨heq, -, -⟩ i hi
    have hname := congrArg (fun l => l[i]?.map GuildRank.name) heq
    match i, hi with
    | 0, _ | 1, _ | 2, _ | 3, _ | 4, _ => exact Option.some.inj hname
  · intro hkeep
    refine ⟨?_, hrows, hnum⟩
    simp [defaultRanks, rankRow, readRank, hkeep 0 (by decide), hkeep 1 (by decide), hkeep 2 (by decide),
      hkeep 3 (by decide), hkeep 4 (by decide), List.mapIdx_cons]

/-- **Ranks in memory and in the tables**: after any edits of a guild its rows load as its ranks just if
these are storable; and what the loader leaves of any rows of `guild_rank` loads as the same ranks
without repair just if it did not repair them, and the column keeps the names of the ranks that it
makes where there are too few. -/
theorem ranks_stored_iff (d : RankNames) :
    (∀ es : List RankEdit, ((Transition.run (edit d) (created d) es).loaded d).ranks =
        (Transition.run (edit d) (created d) es).ranks ↔ (Transition.run (edit d) (created d) es).Storable d) ∧
      ∀ g : RankedGuild, Repairs d g ↔
        ¬(guildRanksMinCount ≤ g.rankRows.length ∧ numberedFrom 0 g.selectRanks = false) ∧
          (g.rankRows.length < guildRanksMinCount → ∀ i, i < 5 → d.column (d.texts i) = d.texts i) := by
  refine ⟨fun es => loaded_ranks_iff (synced_run es), fun g => ?_⟩
  by_cases hlen : g.rankRows.length < guildRanksMinCount
  · rw [repairs_few_iff hlen]
    exact ⟨fun h => ⟨fun hk => absurd hlen (Nat.not_lt.2 hk.1), fun _ => h⟩, fun h => h.2 hlen⟩
  · have hlen := Nat.le_of_not_lt hlen
    cases hnum : numberedFrom 0 g.selectRanks with
    | true => exact ⟨fun _ => ⟨fun h => Bool.noConfusion h.2, fun hlt => absurd hlt (Nat.not_lt.2 hlen)⟩,
        fun _ => repairs_numbered hlen hnum⟩
    | false => exact ⟨fun h => absurd h (not_repairs_broken hlen hnum), fun h => absurd ⟨hlen, rfl⟩ h.1⟩

/-! ## A gap in the ids -/

/-- A column in which every name fits. -/
def wideColumn : RankNames := ⟨fun name => name, fun _ => "Initiate"⟩

/-- Five ranks, of which the last has the id 6; the second may take 100 copper a day. -/
def gapInIds : RankedGuild where
  purchasedTabs := 1
  rankRows := [⟨1, "Master", grRightAll, 0⟩, ⟨2, "Officer", grRightAll, 100⟩, ⟨3, "Veteran", 0x43, 0⟩,
    ⟨4, "Member", 0x43, 0⟩, ⟨6, "Initiate", 0x43, 0⟩]

/-- **A repair that breaks**: the rows get the ids 0 to 4, and the officers lose their money; loaded again the
table is broken as before. -/
theorem repair_breaks :
    (gapInIds.loadRanksFromDB wideColumn).rankRows.map (fun row => (row.rid, row.bankMoneyPerDay)) =
        [(0, 0), (1, 0), (2, 0), (3, 0), (4, 0)] ∧
      ¬ ∀ d : RankNames, (∀ es : List RankEdit, ((Transition.run (edit d) (created d) es).loaded d).ranks =
        (Transition.run (edit d) (created d) es).ranks) ∧ ∀ g : RankedGuild, Repairs d g :=
  ⟨by decide, fun h => not_repairs_broken (d := wideColumn) (g := gapInIds) (by decide) (by decide)
    ((h wideColumn).2 gapInIds)⟩

end BlizzLike.RankedGuild
