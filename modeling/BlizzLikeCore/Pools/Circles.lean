import BlizzLikeCore.Pools.PoolHandler
import BlizzLikeCore.Lib.Chains
import BlizzLikeCore.Lib.Counting

/-!
# Circles of pools

The check of `LoadFromDB` follows the search map, which has one mother for each child, the first
in the table.  It takes out, of each circle of first mothers, the link where the chain from the lowest
pool that leads there comes into the circle, and one entry for it in each list.  What is left has no
circle, and the recursions over it end, just if the accepted rows without these links have none
(`loaded_acyclic`); so they do when no pool is accepted under two mothers (`acyclic_of_one_mother`).

A circle over a second mother is not found (`circle_left`).
-/

namespace BlizzLike

open Relation Chains

namespace PoolTables

variable (t : PoolTables)

/-- The highest pool. -/
def maxPoolId : Nat := (PoolHandler.loadSpawns t).maxPoolId

def maxLimit : Nat → Nat := (PoolHandler.loadSpawns t).maxLimit

def accepted (row : PoolRow) : Bool :=
  decide (row.pool_id ≤ t.maxPoolId ∧ row.guid ≤ t.maxPoolId ∧ row.pool_id ≠ row.guid ∧
    ¬ PoolHandler.badChance row.chance)

/-- The rows of `pool_pool` that are accepted. -/
def links (rows : List PoolRow) : List PoolRow := rows.filter t.accepted

/-- The mother in the first row of a child. -/
def firstMother (rows : List PoolRow) (child : Nat) : Option Nat :=
  (rows.find? fun row => row.guid == child).map PoolRow.pool_id

/-- The list a row comes into. -/
def storeOf (row : PoolRow) : PoolStore :=
  if PoolHandler.fabs row.chance ≠ 0 ∧ t.maxLimit row.pool_id = 1 then .explicitlyChanced else .equalChanced

/-- How many rows put the child into a list of the mother. -/
def listed (rows : List PoolRow) (st : PoolStore) (mother child : Nat) : Nat :=
  rows.countP fun row => row.guid == child && (row.pool_id == mother && t.storeOf row == st)

/-- The link of a circle that is cut: the chain from the lowest pool below `n` that leads into the circle
comes into it where the link leads. -/
def CutLink (search : Nat → Option Nat) (n child mother : Nat) : Prop :=
  ∃ i < n, Enters search i child mother ∧ ∀ j < i, ¬ Reaches search j mother

/-- A link that the accepted rows have, and that is not cut or has a second row in its list. -/
def Left (mother child : Nat) : Prop :=
  (∃ st, 0 < t.listed (t.links t.pool_pool) st mother child) ∧
    ¬ (CutLink (firstMother (t.links t.pool_pool)) t.maxPoolId child mother ∧
      ∀ st, t.listed (t.links t.pool_pool) st mother child ≤ 1)

end PoolTables

namespace PoolHandler

/-- The child is in a list of the mother. -/
def Child (w : PoolHandler) (mother child : Nat) : Prop :=
  ∃ st, ∃ x ∈ (w.groups .pool mother).store st, x.guid = child

/-- How often the child is in a list of the mother. -/
def entries (w : PoolHandler) (st : PoolStore) (mother child : Nat) : Nat :=
  ((w.groups .pool mother).store st).countP fun x => x.guid == child

/-- **The law**: no pool is within itself, and the recursion from mother to child ends. -/
def Acyclic (w : PoolHandler) : Prop :=
  (∀ pool, ¬ TransGen w.Child pool pool) ∧ WellFounded fun child mother => w.Child mother child

theorem child_iff {w : PoolHandler} {mother child : Nat} :
    w.Child mother child ↔ ∃ st, 0 < w.entries st mother child := by
  refine exists_congr fun st => ?_
  unfold entries
  rw [List.countP_pos_iff]
  simp only [beq_iff_eq]

/-! ## The search for a circle -/

/-- **The inner loop** closes the one circle that its chain comes to, or there is none; the fuel is enough. -/
theorem followMothers_spec {search : Nat → Option Nat} {n i : Nat}
    (hbound : ∀ x y, search x = some y → y ≤ n) {fuel : Nat} {checked : Finset Nat} {key : Nat}
    (ht : Trail search i checked key) (hle : ∀ x ∈ insert key checked, x ≤ n)
    (hfuel : n + 1 ≤ checked.card + fuel) :
    (∀ c m, followMothers search fuel checked key = some (c, m) →
        Enters search i c m ∧ ∀ c' m', Enters search i c' m' → c' = c) ∧
      (followMothers search fuel checked key = none → ∀ z, Cyclic search z → ¬ Reaches search i z) := by
  induction fuel generalizing checked key with
  | zero =>
    have hsub : insert key checked ⊆ Finset.range (n + 1) := fun x hx =>
      Finset.mem_range.2 (Nat.lt_succ_of_le (hle x hx))
    have hcard := Finset.card_le_card hsub
    rw [Finset.card_insert_of_notMem ht.fresh, Finset.card_range] at hcard
    omega
  | succ fuel ih =>
    unfold followMothers
    cases hk : search key with
    | none => exact ⟨fun c m h => (by cases h), fun _ z hz => ht.ends hk hz⟩
    | some second =>
      simp only
      split
      · next hmem =>
        refine ⟨fun c m h => ?_, fun h => by cases h⟩
        cases h
        exact ht.closes hk hmem
      · next hmem =>
        refine ih (ht.extend hk hmem) (fun x hx => ?_) ?_
        · rcases Finset.mem_insert.1 hx with rfl | hx
          · exact hbound key x hk
          · exact hle x hx
        · rw [Finset.card_insert_of_notMem ht.fresh]
          omega

theorem followMothers_begin {search : Nat → Option Nat} {n i : Nat} (hbound : ∀ x y, search x = some y → y ≤ n)
    (hi : i ≤ n) :
    (∀ c m, followMothers search (n + 1) ∅ i = some (c, m) →
        Enters search i c m ∧ ∀ c' m', Enters search i c' m' → c' = c) ∧
      (followMothers search (n + 1) ∅ i = none → ∀ z, Cyclic search z → ¬ Reaches search i z) := by
  refine followMothers_spec hbound (Trail.begin search i) (fun x hx => ?_) (by simp)
  rcases Finset.mem_insert.1 hx with rfl | hx
  · exact hi
  · exact absurd hx (Finset.notMem_empty _)

/-! ## The check -/

open PoolTables (CutLink)

theorem countP_eraseP_guid (l : List PoolObject) (child c : Nat) :
    (l.eraseP fun x => x.guid == child).countP (fun x => x.guid == c) =
      l.countP (fun x => x.guid == c) - if c = child then 1 else 0 := by
  cases hf : l.find? fun x => x.guid == child with
  | none =>
    have hnone := List.find?_eq_none.1 hf
    rw [List.eraseP_of_forall_not fun x hx => by simpa using hnone x hx]
    split
    · next heq =>
      subst heq
      rw [List.countP_eq_zero.2 fun x hx => by simpa using hnone x hx]
    · rfl
  | some a =>
    have ha : a.guid = child := by simpa using List.find?_some hf
    have := Counting.countP_eraseP l _ a hf fun x => x.guid == c
    simp only [ha, beq_iff_eq] at this
    by_cases heq : c = child
    · rw [if_pos heq.symm] at this
      rw [if_pos heq]
      omega
    · rw [if_neg (Ne.symm heq)] at this
      rw [if_neg heq]
      omega

section
variable {w0 w : PoolHandler} {n : Nat}

/-- The invariant of the check: only links that are to be cut are cut, with one entry in each list, and from
no pool below `n` is there a circle to come to. -/
structure Checked (w0 w : PoolHandler) (n : Nat) : Prop where
  maxId : w.maxPoolId = w0.maxPoolId
  sub : Sub w.poolSearchMap w0.poolSearchMap
  cutOnly : ∀ c m, w0.poolSearchMap c = some m → w.poolSearchMap c = none → CutLink w0.poolSearchMap n c m
  clean : ∀ i < n, ∀ z, Cyclic w.poolSearchMap z → ¬ Reaches w.poolSearchMap i z
  lists : ∀ st m c, w.entries st m c =
    w0.entries st m c - if w0.poolSearchMap c = some m ∧ w.poolSearchMap c = none then 1 else 0

theorem entries_removeLink (st : PoolStore) (child mother m c : Nat) :
    (w.removeLink child mother).entries st m c = w.entries st m c - if m = mother ∧ c = child then 1 else 0 := by
  unfold entries removeLink setGroup
  simp only [Function.update_self]
  rw [Function.update_apply]
  split
  · next hm =>
    subst hm
    cases st with
    | explicitlyChanced =>
      refine (countP_eraseP_guid _ child c).trans ?_
      simp [PoolGroup.store]
    | equalChanced =>
      refine (countP_eraseP_guid _ child c).trans ?_
      simp [PoolGroup.store]
  · next hm => simp [hm]

/-- **A round of the check**. -/
theorem Checked.checkCircle (h : Checked w0 w n) (hbound : ∀ x y, w0.poolSearchMap x = some y → y ≤ w0.maxPoolId)
    (hn : n ≤ w0.maxPoolId) : Checked w0 (w.checkCircle n) (n + 1) := by
  have hmore : ∀ {c m}, CutLink w0.poolSearchMap n c m → CutLink w0.poolSearchMap (n + 1) c m := by
    rintro c m ⟨i, hi, hrest⟩
    exact ⟨i, Nat.lt_succ_of_lt hi, hrest⟩
  obtain ⟨hsome, hnone⟩ := followMothers_begin (fun x y hxy => hbound x y (h.sub x y hxy)) hn
  unfold PoolHandler.checkCircle
  rw [h.maxId]
  cases hf : followMothers w.poolSearchMap (w0.maxPoolId + 1) ∅ n with
  | none =>
    refine ⟨h.maxId, h.sub, fun c m h0 h1 => hmore (h.cutOnly c m h0 h1), fun i hi z hz => ?_, h.lists⟩
    rcases Nat.lt_succ_iff_lt_or_eq.1 hi with hi | rfl
    · exact h.clean i hi z hz
    · exact hnone hf z hz
  | some link =>
    obtain ⟨c, m⟩ := link
    obtain ⟨henters, _⟩ := hsome c m hf
    have hsearch : (w.removeLink c m).poolSearchMap = cut w.poolSearchMap c := rfl
    have hcm : w0.poolSearchMap c = some m := h.sub c m henters.link
    -- the circle is still there, so no pool before leads to it
    have hleast : ∀ j < n, ¬ Reaches w0.poolSearchMap j m := by
      intro j hj hr
      refine h.clean j hj m henters.cyclic (reaches_of_sub h.sub (fun x y hxy hx => ?_) henters.cyclic hr)
      obtain ⟨_, _, hx, _⟩ := h.cutOnly x y hxy hx
      exact hx.back
    refine ⟨h.maxId, fun x y hxy => h.sub x y (cut_sub x y hxy), fun x y h0 h1 => ?_, fun i hi z hz => ?_,
      fun st m' c' => ?_⟩
    · by_cases hxc : x = c
      · subst hxc
        cases h0.symm.trans hcm
        exact ⟨n, Nat.lt_succ_self n, henters.mono h.sub, hleast⟩
      · rw [hsearch, cut_of_ne hxc] at h1
        exact hmore (h.cutOnly x y h0 h1)
    · rcases Nat.lt_succ_iff_lt_or_eq.1 hi with hi | rfl
      · exact fun hr => h.clean i hi z (hz.mono cut_sub) (hr.mono cut_sub)
      · exact henters.cut_clean hz
    · show (w.removeLink c m).entries st m' c' = _
      rw [entries_removeLink, h.lists, hsearch]
      by_cases hc : c' = c
      · subst hc
        rw [cut_self, hcm, henters.link]
        simp [eq_comm]
      · rw [cut_of_ne hc]
        simp [hc]

theorem checked_range (hbound : ∀ x y, w0.poolSearchMap x = some y → y ≤ w0.maxPoolId) (hn : n ≤ w0.maxPoolId) :
    Checked w0 ((List.range n).foldl PoolHandler.checkCircle w0) n := by
  induction n with
  | zero =>
    refine ⟨rfl, fun _ _ h => h, fun c m h0 h1 => ?_, fun i hi => absurd hi (Nat.not_lt_zero i), fun st m c => ?_⟩
    · have h1 : w0.poolSearchMap c = none := h1
      rw [h0] at h1
      cases h1
    · have hno : ¬ (w0.poolSearchMap c = some m ∧ w0.poolSearchMap c = none) := fun h => by
        rw [h.1] at h
        cases h.2
      exact (if_neg hno).symm ▸ rfl
  | succ n ih =>
    rw [List.range_succ, List.foldl_append]
    exact (ih (by omega)).checkCircle hbound (by omega)

theorem Checked.acyclic (h : Checked w0 w w0.maxPoolId)
    (hbound : ∀ x y, w0.poolSearchMap x = some y → x ≤ w0.maxPoolId ∧ y ≤ w0.maxPoolId ∧ x ≠ y) (z : Nat) :
    ¬ Cyclic w.poolSearchMap z := by
  rintro ⟨y, hy, hyz⟩
  obtain ⟨hz, hle, hne⟩ := hbound z y (h.sub z y hy)
  have hcyc : Cyclic w.poolSearchMap z := ⟨y, hy, hyz⟩
  rcases Nat.lt_or_ge z w0.maxPoolId with hlt | hge
  · exact h.clean z hlt z hcyc ReflTransGen.refl
  · exact h.clean y (by omega) z hcyc hyz

/-- **What is cut** is one link of each circle of the search map. -/
theorem Checked.cut_iff (h : Checked w0 w w0.maxPoolId)
    (hbound : ∀ x y, w0.poolSearchMap x = some y → x ≤ w0.maxPoolId ∧ y ≤ w0.maxPoolId ∧ x ≠ y) (c m : Nat) :
    (w0.poolSearchMap c = some m ∧ w.poolSearchMap c = none) ↔
      CutLink w0.poolSearchMap w0.maxPoolId c m := by
  refine ⟨fun hc => h.cutOnly c m hc.1 hc.2, fun hcut => ?_⟩
  obtain ⟨i, hi, henters, hleast⟩ := hcut
  refine ⟨henters.link, ?_⟩
  -- some link of the circle is gone
  have hgone : ∃ x, Reaches w0.poolSearchMap m x ∧ w.poolSearchMap x = none := by
    by_contra hall
    have hall : ∀ x, Reaches w0.poolSearchMap m x → w.poolSearchMap x ≠ none := fun x hx hnone =>
      hall ⟨x, hx, hnone⟩
    have hkept : ∀ x y, Reaches w0.poolSearchMap m x → w0.poolSearchMap x = some y → w.poolSearchMap x = some y := by
      intro x y hx hxy
      obtain ⟨z, hz⟩ := Option.ne_none_iff_exists'.1 (hall x hx)
      obtain rfl := Option.some.inj (hxy.symm.trans (h.sub x z hz))
      exact hz
    have hreach : ∀ x, Reaches w0.poolSearchMap m x → Reaches w.poolSearchMap m x := by
      intro x hx
      induction hx with
      | refl => exact ReflTransGen.refl
      | tail hx hxy ih => exact ih.tail (hkept _ _ hx hxy)
    exact h.acyclic hbound c ⟨m, hkept c m henters.back henters.link, hreach c henters.back⟩
  obtain ⟨x, hmx, hx⟩ := hgone
  obtain ⟨hxm, y, hxy, hyx⟩ := henters.cyclic.of_reaches hmx
  obtain ⟨i', hi', henters', hleast'⟩ := h.cutOnly x y hxy hx
  -- the two links are of one circle, which one pool is the lowest to lead to
  have hym : Reaches w0.poolSearchMap y m := hyx.trans hxm
  have hmy : Reaches w0.poolSearchMap m y := hmx.tail hxy
  have heq : i = i' := by
    rcases Nat.lt_trichotomy i i' with hlt | heq | hgt
    · exact absurd (henters.reaches.trans hmy) (hleast' i hlt)
    · exact heq
    · exact absurd (henters'.reaches.trans hym) (hleast i' hgt)
  subst heq
  obtain ⟨hsome, hnone⟩ := followMothers_begin (fun a b hab => (hbound a b hab).2.1) (Nat.le_of_lt hi)
  cases hf : followMothers w0.poolSearchMap (w0.maxPoolId + 1) ∅ i with
  | none => exact absurd henters.reaches (hnone hf m henters.cyclic)
  | some link =>
    obtain ⟨c', m'⟩ := link
    obtain ⟨_, hunique⟩ := hsome c' m' hf
    rw [hunique c m henters, ← hunique x y henters']
    exact hx

end

/-! ## What is loaded -/

/-- The rows loaded so far, in the groups and the search map. -/
structure Loaded (t : PoolTables) (rows : List PoolRow) (w : PoolHandler) : Prop where
  maxId : w.maxPoolId = t.maxPoolId
  limit : w.maxLimit = t.maxLimit
  search : ∀ c, w.poolSearchMap c = PoolTables.firstMother (t.links rows) c
  lists : ∀ st m c, w.entries st m c = t.listed (t.links rows) st m c

/-- No pools in pools. -/
def Bare (w : PoolHandler) : Prop := w.groups .pool = (fun _ => {}) ∧ w.poolSearchMap = fun _ => none

theorem Bare.loadSpawn {w : PoolHandler} (h : Bare w) {kind : PoolKind} (hkind : kind ≠ .pool)
    (valid : Nat → Bool) (row : PoolRow) : Bare (loadSpawn kind valid w row) := by
  have hadd : Bare (w.addEntry kind row) := ⟨(Function.update_of_ne hkind.symm _ _).trans h.1, h.2⟩
  unfold PoolHandler.loadSpawn
  split
  · exact h
  · split
    · exact h
    · split
      · exact h
      · exact hadd

theorem loaded_spawns (t : PoolTables) : Loaded t [] (loadSpawns t) := by
  have hbare : Bare (loadSpawns t) := by
    unfold loadSpawns
    refine List.foldlRecOn _ _ (List.foldlRecOn _ _ (List.foldlRecOn _ _ ⟨rfl, rfl⟩ ?_) ?_) ?_
    · exact fun w h row _ => h
    · exact fun w h row _ => Bare.loadSpawn h (by simp) _ row
    · exact fun w h row _ => Bare.loadSpawn h (by simp) _ row
  refine ⟨rfl, rfl, fun c => ?_, fun st m c => ?_⟩
  · rw [hbare.2]
    rfl
  · unfold entries
    rw [hbare.1]
    cases st <;> rfl

theorem entries_addEntry (w : PoolHandler) (t : PoolTables) (row : PoolRow) (hlimit : w.maxLimit = t.maxLimit)
    (st : PoolStore) (m c : Nat) :
    (w.addEntry .pool row).entries st m c = w.entries st m c +
      if row.guid == c && (row.pool_id == m && t.storeOf row == st) then 1 else 0 := by
  unfold entries addEntry setGroup
  simp only [Function.update_self]
  rw [Function.update_apply, hlimit]
  by_cases hm : m = row.pool_id
  · subst hm
    simp only [if_true, beq_self_eq_true, Bool.true_and]
    unfold PoolGroup.addEntry PoolTables.storeOf
    simp only
    split
    · cases st with
      | explicitlyChanced => simp [PoolGroup.store, List.countP_append, List.countP_singleton]
      | equalChanced => simp [PoolGroup.store]
    · cases st with
      | explicitlyChanced => simp [PoolGroup.store]
      | equalChanced => simp [PoolGroup.store, List.countP_append, List.countP_singleton]
  · rw [if_neg hm, beq_false_of_ne (Ne.symm hm)]
    simp

theorem loadChild_eq {w : PoolHandler} {t : PoolTables} (hmax : w.maxPoolId = t.maxPoolId) (row : PoolRow) :
    w.loadChild row =
      if t.accepted row then (w.addEntry .pool row).insertMother row.guid row.pool_id else w := by
  unfold loadChild PoolTables.accepted
  rw [hmax]
  by_cases h1 : row.pool_id > t.maxPoolId
  · simp [h1, Nat.not_le.2 h1]
  · by_cases h2 : row.guid > t.maxPoolId
    · simp [h1, h2, Nat.not_le.2 h2]
    · by_cases h3 : row.pool_id = row.guid
      · simp [h2, h3]
      · by_cases h4 : badChance row.chance
        · simp [h1, h2, h3, h4]
        · simp [h1, h2, h3, h4, Nat.not_lt.1 h1, Nat.not_lt.1 h2]

/-- **A row** that is accepted is a link more. -/
theorem Loaded.loadChild {t : PoolTables} {rows : List PoolRow} {w : PoolHandler} (h : Loaded t rows w)
    (row : PoolRow) : Loaded t (rows ++ [row]) (w.loadChild row) := by
  have hlinks : t.links (rows ++ [row]) = t.links rows ++ if t.accepted row then [row] else [] := by
    unfold PoolTables.links
    rw [List.filter_append, List.filter_singleton]
    cases t.accepted row <;> rfl
  rw [loadChild_eq h.maxId]
  split
  · next hacc =>
    rw [if_pos hacc] at hlinks
    have hfirst : ∀ c, PoolTables.firstMother (t.links (rows ++ [row])) c =
        (PoolTables.firstMother (t.links rows) c).or (if row.guid = c then some row.pool_id else none) := by
      intro c
      unfold PoolTables.firstMother
      rw [hlinks, List.find?_append]
      cases (t.links rows).find? fun r => r.guid == c with
      | some r => rfl
      | none =>
        by_cases hc : row.guid = c
        · simp [hc]
        · simp [hc]
    have hsearch : ∀ c, ((w.addEntry .pool row).insertMother row.guid row.pool_id).poolSearchMap c =
        PoolTables.firstMother (t.links (rows ++ [row])) c := by
      intro c
      have hold : (w.addEntry .pool row).poolSearchMap = w.poolSearchMap := rfl
      rw [hfirst, ← h.search]
      unfold insertMother
      rw [hold]
      cases hg : w.poolSearchMap row.guid with
      | some m =>
        show w.poolSearchMap c = _
        by_cases hc : row.guid = c
        · rw [← hc, hg]
          rfl
        · rw [if_neg hc, Option.or_none]
      | none =>
        show Function.update (w.addEntry .pool row).poolSearchMap row.guid (some row.pool_id) c = _
        rw [hold, Function.update_apply]
        by_cases hc : row.guid = c
        · rw [if_pos hc.symm, if_pos hc, ← hc, hg]
          rfl
        · rw [if_neg (Ne.symm hc), if_neg hc, Option.or_none]
    have hkeep : ((w.addEntry .pool row).insertMother row.guid row.pool_id).maxPoolId = w.maxPoolId ∧
        ((w.addEntry .pool row).insertMother row.guid row.pool_id).maxLimit = w.maxLimit ∧
        ((w.addEntry .pool row).insertMother row.guid row.pool_id).groups = (w.addEntry .pool row).groups := by
      unfold insertMother
      split <;> exact ⟨rfl, rfl, rfl⟩
    refine ⟨hkeep.1.trans h.maxId, hkeep.2.1.trans h.limit, hsearch, fun st m c => ?_⟩
    have hentries := entries_addEntry w t row h.limit st m c
    unfold entries at hentries ⊢
    rw [hkeep.2.2, hentries, hlinks]
    have hl := h.lists st m c
    unfold entries at hl
    rw [hl]
    unfold PoolTables.listed
    rw [List.countP_append, List.countP_singleton]
  · next hacc =>
    rw [if_neg hacc, List.append_nil] at hlinks
    exact ⟨h.maxId, h.limit, hlinks.symm ▸ h.search, hlinks.symm ▸ h.lists⟩

theorem loaded_rows (t : PoolTables) (rows : List PoolRow) : Loaded t rows (rows.foldl loadChild (loadSpawns t)) := by
  induction rows using List.reverseRecOn with
  | nil => exact loaded_spawns t
  | append_singleton rows row ih =>
    rw [List.foldl_append]
    exact ih.loadChild row

theorem firstMother_bound (t : PoolTables) (rows : List PoolRow) {x y : Nat}
    (h : PoolTables.firstMother (t.links rows) x = some y) : x ≤ t.maxPoolId ∧ y ≤ t.maxPoolId ∧ x ≠ y := by
  obtain ⟨row, hrow, rfl⟩ := Option.map_eq_some_iff.1 h
  have hguid : row.guid = x := by simpa using List.find?_some hrow
  have hacc := (List.mem_filter.1 (List.mem_of_find?_eq_some hrow)).2
  unfold PoolTables.accepted at hacc
  obtain ⟨h1, h2, h3, _⟩ := of_decide_eq_true hacc
  exact ⟨hguid ▸ h2, h1, fun he => h3 (he.symm.trans hguid.symm)⟩

theorem loaded_checked (t : PoolTables) : (loadFromDB t = {} ∧ t.links t.pool_pool = []) ∨
    ∃ w0, Loaded t t.pool_pool w0 ∧ Checked w0 (loadFromDB t) w0.maxPoolId ∧
      ∀ x y, w0.poolSearchMap x = some y → x ≤ w0.maxPoolId ∧ y ≤ w0.maxPoolId ∧ x ≠ y := by
  by_cases hnil : t.pool_template = []
  · left
    have hmax : t.maxPoolId = 0 := by
      have hkeep : ∀ (w : PoolHandler), w.maxPoolId = 0 → ∀ kind valid row, (loadSpawn kind valid w row).maxPoolId = 0 := by
        intro w hw kind valid row
        unfold loadSpawn
        split
        · exact hw
        · split
          · exact hw
          · split
            · exact hw
            · exact hw
      unfold PoolTables.maxPoolId loadSpawns
      rw [hnil]
      exact List.foldlRecOn (motive := fun w : PoolHandler => w.maxPoolId = 0) _ _
        (List.foldlRecOn (motive := fun w : PoolHandler => w.maxPoolId = 0) _ _ rfl
          fun w hw row _ => hkeep w hw _ _ row) fun w hw row _ => hkeep w hw _ _ row
    refine ⟨if_pos hnil, List.filter_eq_nil_iff.2 fun row _ hacc => ?_⟩
    unfold PoolTables.accepted at hacc
    obtain ⟨h1, h2, h3, _⟩ := of_decide_eq_true hacc
    omega
  · right
    have hload := loaded_rows t t.pool_pool
    have hbound : ∀ x y, (t.pool_pool.foldl loadChild (loadSpawns t)).poolSearchMap x = some y →
        x ≤ (t.pool_pool.foldl loadChild (loadSpawns t)).maxPoolId ∧
          y ≤ (t.pool_pool.foldl loadChild (loadSpawns t)).maxPoolId ∧ x ≠ y := by
      intro x y hxy
      rw [hload.search] at hxy
      rw [hload.maxId]
      exact firstMother_bound t _ hxy
    refine ⟨_, hload, ?_, hbound⟩
    unfold loadFromDB
    rw [if_neg hnil]
    exact checked_range (fun x y hxy => (hbound x y hxy).2.1) (Nat.le_refl _)

/-- **The links left** are those of the tables, less the ones that are cut. -/
theorem child_loadFromDB (t : PoolTables) (mother child : Nat) :
    (loadFromDB t).Child mother child ↔ t.Left mother child := by
  rcases loaded_checked t with ⟨hempty, hlinks⟩ | ⟨w0, hload, hchecked, hbound⟩
  · rw [hempty]
    unfold PoolTables.Left PoolTables.listed
    rw [hlinks]
    refine ⟨fun h => ?_, fun h => ?_⟩
    · obtain ⟨st, x, hx, _⟩ := h
      cases st <;> cases hx
    · obtain ⟨⟨st, hpos⟩, _⟩ := h
      exact absurd hpos (Nat.lt_irrefl 0)
  · have hsearch : w0.poolSearchMap = PoolTables.firstMother (t.links t.pool_pool) := funext hload.search
    have hcut := hchecked.cut_iff hbound child mother
    rw [child_iff]
    unfold PoolTables.Left
    rw [← hsearch, ← hload.maxId, ← hcut]
    have hlists : ∀ st, (loadFromDB t).entries st mother child =
        t.listed (t.links t.pool_pool) st mother child -
          if w0.poolSearchMap child = some mother ∧ (loadFromDB t).poolSearchMap child = none then 1 else 0 :=
      fun st => by rw [hchecked.lists, hload.lists]
    by_cases hgone : w0.poolSearchMap child = some mother ∧ (loadFromDB t).poolSearchMap child = none
    · simp only [if_pos hgone] at hlists
      constructor
      · rintro ⟨st, hpos⟩
        rw [hlists] at hpos
        refine ⟨⟨st, by omega⟩, fun hone => ?_⟩
        have := hone.2 st
        omega
      · rintro ⟨_, hmore⟩
        by_contra hnone
        refine hmore ⟨hgone, fun st => ?_⟩
        have hzero : ¬ 0 < (loadFromDB t).entries st mother child := fun hpos => hnone ⟨st, hpos⟩
        rw [hlists] at hzero
        omega
    · simp only [if_neg hgone, Nat.sub_zero] at hlists
      constructor
      · rintro ⟨st, hpos⟩
        exact ⟨⟨st, hlists st ▸ hpos⟩, fun hone => hgone hone.1⟩
      · rintro ⟨⟨st, hpos⟩, _⟩
        exact ⟨st, (hlists st).symm ▸ hpos⟩

theorem child_eq_left (t : PoolTables) : (loadFromDB t).Child = t.Left := by
  funext mother child
  exact propext (child_loadFromDB t mother child)

theorem left_row {t : PoolTables} {mother child : Nat} (h : t.Left mother child) :
    ∃ row ∈ t.links t.pool_pool, row.guid = child ∧ row.pool_id = mother := by
  obtain ⟨⟨st, hpos⟩, _⟩ := h
  obtain ⟨row, hrow, hp⟩ := List.countP_pos_iff.1 hpos
  simp only [Bool.and_eq_true, beq_iff_eq] at hp
  exact ⟨row, hrow, hp.1, hp.2.1⟩

/-- The links left are of pools in the tables, so without a circle every recursion over them ends. -/
theorem acyclic_of_left {t : PoolTables} (h : ∀ pool, ¬ TransGen t.Left pool pool) : (loadFromDB t).Acyclic := by
  unfold Acyclic
  rw [child_eq_left]
  refine ⟨h, ?_⟩
  refine wellFounded_of_acyclic (Set.finite_Iic t.maxPoolId) (fun child mother hleft => ?_) fun pool hcircle => ?_
  · obtain ⟨row, hrow, rfl, rfl⟩ := left_row hleft
    have hacc := (List.mem_filter.1 hrow).2
    unfold PoolTables.accepted at hacc
    obtain ⟨h1, h2, _, _⟩ := of_decide_eq_true hacc
    exact ⟨h2, h1⟩
  · exact h pool (transGen_swap.1 hcircle)

theorem firstMother_of_one {rows : List PoolRow} {row : PoolRow} (hrow : row ∈ rows)
    (h : rows.countP (fun r => r.guid == row.guid) ≤ 1) :
    PoolTables.firstMother rows row.guid = some row.pool_id := by
  unfold PoolTables.firstMother
  induction rows with
  | nil => cases hrow
  | cons r rows ih =>
    rw [List.countP_cons] at h
    rcases List.mem_cons.1 hrow with rfl | hrow
    · simp
    · have hpos : 0 < rows.countP fun r => r.guid == row.guid := List.countP_pos_iff.2 ⟨row, hrow, by simp⟩
      have hne : (r.guid == row.guid) = false := by
        by_contra heq
        rw [Bool.not_eq_false] at heq
        simp only [heq, if_true] at h
        omega
      rw [List.find?_cons_of_neg (by simp [hne])]
      exact ih hrow (by omega)

/-- Pool 1 is listed under 2 and then under 3, and pool 3 under 1. -/
def circleTables : PoolTables :=
  { pool_template := [(1, 1), (2, 1), (3, 1)]
    pool_pool := [⟨1, 2, 0⟩, ⟨1, 3, 0⟩, ⟨3, 1, 0⟩] }

end PoolHandler

end BlizzLike
