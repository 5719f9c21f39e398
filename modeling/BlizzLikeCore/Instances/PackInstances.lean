import Mathlib.Data.List.Dedup
import Mathlib.Data.List.Sort

/-!
# Packing the instances

`PackInstances` renumbers the instances from 1 up, in the order of their ids, each by an update of seven
tables in place.  A new number is never the id of an instance that is still to be renumbered: the `k`-th
of the ids is at least `k`, as 0 stands for no instance and is nobody's id (`pack_renumbers`).  With an
instance 0 beside an instance 1 the two become one (`zero_and_one_merge`).
-/

namespace BlizzLike

/-- Rows of a table that refer to instances, each with the one it belongs to: a guid or a leader's guid. -/
abbrev InstanceRefs := List (Nat × Nat)

/-- The seven tables, of each the columns that are read or are part of its primary key. -/
structure InstanceTables where
  creatureRespawn : InstanceRefs := []
  gameobjectRespawn : InstanceRefs := []
  characters : InstanceRefs := []
  corpse : InstanceRefs := []
  characterInstance : InstanceRefs := []
  instanceIds : List Nat := []
  groupInstance : InstanceRefs := []

/-- What a table is left like by an update that gives two rows the same primary key, out of the rows before
and the rows it was to have: the engine takes the statement back, or leaves a part of it done. -/
structure FailedUpdate where
  refs : InstanceRefs → InstanceRefs → InstanceRefs
  ids : List Nat → List Nat → List Nat

/-- A column that is `old` is set to `new`. -/
def replaced (new old x : Nat) : Nat := if x = old then new else x

namespace InstanceTables

variable (failed : FailedUpdate) (t : InstanceTables)

/-- Every reference of rows is renamed. -/
def renameRefs (f : Nat → Nat) (rows : InstanceRefs) : InstanceRefs := rows.map fun r => (r.1, f r.2)

/-- An update of a table whose primary key is the owner and the instance. -/
def updateKeyed (f : Nat → Nat) (rows : InstanceRefs) : InstanceRefs :=
  if (renameRefs f rows).Nodup then renameRefs f rows else failed.refs rows (renameRefs f rows)

/-- The update of `instance`, whose primary key is the id. -/
def updateIds (f : Nat → Nat) (ids : List Nat) : List Nat :=
  if (ids.map f).Nodup then ids.map f else failed.ids ids (ids.map f)

/-- The seven updates that give an instance its new number. -/
def remap (instanceNumber i : Nat) : InstanceTables where
  creatureRespawn := updateKeyed failed (replaced instanceNumber i) t.creatureRespawn
  gameobjectRespawn := updateKeyed failed (replaced instanceNumber i) t.gameobjectRespawn
  characters := renameRefs (replaced instanceNumber i) t.characters
  corpse := renameRefs (replaced instanceNumber i) t.corpse
  characterInstance := updateKeyed failed (replaced instanceNumber i) t.characterInstance
  instanceIds := updateIds failed (replaced instanceNumber i) t.instanceIds
  groupInstance := updateKeyed failed (replaced instanceNumber i) t.groupInstance

/-- The loop of `PackInstances` over what is left of the set. -/
def packFrom (instanceNumber : Nat) : List Nat → InstanceTables → InstanceTables
  | [], t => t
  | i :: rest, t =>
    packFrom (instanceNumber + 1) rest (if i ≠ instanceNumber then t.remap failed instanceNumber i else t)

/-- `InstanceSet`, a `std::set`: the ids in ascending order. -/
def instanceSet : List Nat := t.instanceIds.dedup.insertionSort (· ≤ ·)

def packInstances : InstanceTables := packFrom failed 1 t.instanceSet t

/-! ## What it is to do -/

/-- All seven tables are renamed by one map. -/
def renamed (f : Nat → Nat) : InstanceTables where
  creatureRespawn := renameRefs f t.creatureRespawn
  gameobjectRespawn := renameRefs f t.gameobjectRespawn
  characters := renameRefs f t.characters
  corpse := renameRefs f t.corpse
  characterInstance := renameRefs f t.characterInstance
  instanceIds := t.instanceIds.map f
  groupInstance := renameRefs f t.groupInstance

/-- The primary keys hold. -/
structure Keyed : Prop where
  creatureRespawn : t.creatureRespawn.Nodup
  gameobjectRespawn : t.gameobjectRespawn.Nodup
  characterInstance : t.characterInstance.Nodup
  instanceIds : t.instanceIds.Nodup
  groupInstance : t.groupInstance.Nodup

/-- What the six tables refer to. -/
def references : List Nat :=
  (t.creatureRespawn ++ t.gameobjectRespawn ++ t.characters ++ t.corpse ++ t.characterInstance ++
    t.groupInstance).map Prod.snd

/-- References and ids. -/
def values : List Nat := t.references ++ t.instanceIds

/-- The number of an instance, where the ids left are numbered from `n` on. -/
def numbered : Nat → List Nat → Nat → Nat
  | _, [], x => x
  | n, i :: rest, x => if x = i then n else numbered (n + 1) rest x

/-! ## Renaming -/

section
variable {failed : FailedUpdate} {t : InstanceTables}

theorem renameRefs_comp (f g : Nat → Nat) (rows : InstanceRefs) :
    renameRefs g (renameRefs f rows) = renameRefs (fun x => g (f x)) rows := by
  unfold renameRefs
  rw [List.map_map]
  rfl

theorem renamed_comp (f g : Nat → Nat) : (t.renamed f).renamed g = t.renamed fun x => g (f x) := by
  unfold renamed
  simp only [renameRefs_comp, List.map_map]
  rfl

theorem renameRefs_congr {f g : Nat → Nat} {rows : InstanceRefs} (h : ∀ r ∈ rows, f r.2 = g r.2) :
    renameRefs f rows = renameRefs g rows :=
  List.map_congr_left fun r hr => by rw [h r hr]

theorem mem_values {x : Nat} :
    x ∈ t.values ↔ (∃ r ∈ t.creatureRespawn, r.2 = x) ∨ (∃ r ∈ t.gameobjectRespawn, r.2 = x) ∨
      (∃ r ∈ t.characters, r.2 = x) ∨ (∃ r ∈ t.corpse, r.2 = x) ∨ (∃ r ∈ t.characterInstance, r.2 = x) ∨
      (∃ r ∈ t.groupInstance, r.2 = x) ∨ x ∈ t.instanceIds := by
  unfold values references
  simp only [List.mem_append, List.mem_map, or_and_right, exists_or, or_assoc]

theorem renamed_congr {f g : Nat → Nat} (h : ∀ x ∈ t.values, f x = g x) : t.renamed f = t.renamed g := by
  have hrefs : ∀ rows : InstanceRefs, (∀ r ∈ rows, r.2 ∈ t.values) → renameRefs f rows = renameRefs g rows :=
    fun rows hrows => renameRefs_congr fun r hr => h _ (hrows r hr)
  unfold renamed
  rw [hrefs t.creatureRespawn (fun r hr => mem_values.2 (.inl ⟨r, hr, rfl⟩)),
    hrefs t.gameobjectRespawn (fun r hr => mem_values.2 (.inr (.inl ⟨r, hr, rfl⟩))),
    hrefs t.characters (fun r hr => mem_values.2 (.inr (.inr (.inl ⟨r, hr, rfl⟩)))),
    hrefs t.corpse (fun r hr => mem_values.2 (.inr (.inr (.inr (.inl ⟨r, hr, rfl⟩))))),
    hrefs t.characterInstance (fun r hr => mem_values.2 (.inr (.inr (.inr (.inr (.inl ⟨r, hr, rfl⟩)))))),
    hrefs t.groupInstance (fun r hr => mem_values.2 (.inr (.inr (.inr (.inr (.inr (.inl ⟨r, hr, rfl⟩))))))),
    List.map_congr_left fun x hx => h x (mem_values.2 (.inr (.inr (.inr (.inr (.inr (.inr hx)))))))]

theorem mem_values_renamed {f : Nat → Nat} {x : Nat} (hx : x ∈ (t.renamed f).values) : ∃ y ∈ t.values, f y = x := by
  have hrefs : ∀ {rows : InstanceRefs}, (∀ r ∈ rows, r.2 ∈ t.values) → (∃ r ∈ renameRefs f rows, r.2 = x) →
      ∃ y ∈ t.values, f y = x := by
    rintro rows hrows ⟨r, hr, rfl⟩
    obtain ⟨r', hr', rfl⟩ := List.mem_map.1 hr
    exact ⟨r'.2, hrows r' hr', rfl⟩
  rcases mem_values.1 hx with h | h | h | h | h | h | h
  · exact hrefs (fun r hr => mem_values.2 (.inl ⟨r, hr, rfl⟩)) h
  · exact hrefs (fun r hr => mem_values.2 (.inr (.inl ⟨r, hr, rfl⟩))) h
  · exact hrefs (fun r hr => mem_values.2 (.inr (.inr (.inl ⟨r, hr, rfl⟩)))) h
  · exact hrefs (fun r hr => mem_values.2 (.inr (.inr (.inr (.inl ⟨r, hr, rfl⟩))))) h
  · exact hrefs (fun r hr => mem_values.2 (.inr (.inr (.inr (.inr (.inl ⟨r, hr, rfl⟩)))))) h
  · exact hrefs (fun r hr => mem_values.2 (.inr (.inr (.inr (.inr (.inr (.inl ⟨r, hr, rfl⟩))))))) h
  · obtain ⟨y, hy, rfl⟩ := List.mem_map.1 h
    exact ⟨y, mem_values.2 (.inr (.inr (.inr (.inr (.inr (.inr hy)))))), rfl⟩

/-! ## A step -/

/-- A renaming that keeps the values of the tables apart keeps the primary keys. -/
theorem Keyed.renamed (hk : t.Keyed) {f : Nat → Nat} (hf : ∀ x ∈ t.values, ∀ y ∈ t.values, f x = f y → x = y) :
    (t.renamed f).Keyed := by
  have hrefs : ∀ {rows : InstanceRefs}, rows.Nodup → (∀ r ∈ rows, r.2 ∈ t.values) → (renameRefs f rows).Nodup := by
    intro rows hrows hmem
    refine hrows.map_on fun r hr r' hr' he => ?_
    obtain ⟨h1, h2⟩ := Prod.mk.inj he
    exact Prod.ext h1 (hf _ (hmem r hr) _ (hmem r' hr') h2)
  refine ⟨hrefs hk.creatureRespawn fun r hr => mem_values.2 (.inl ⟨r, hr, rfl⟩),
    hrefs hk.gameobjectRespawn fun r hr => mem_values.2 (.inr (.inl ⟨r, hr, rfl⟩)),
    hrefs hk.characterInstance fun r hr => mem_values.2 (.inr (.inr (.inr (.inr (.inl ⟨r, hr, rfl⟩))))), ?_,
    hrefs hk.groupInstance fun r hr => mem_values.2 (.inr (.inr (.inr (.inr (.inr (.inl ⟨r, hr, rfl⟩))))))⟩
  refine hk.instanceIds.map_on fun x hx y hy he => hf x ?_ y ?_ he
  · exact mem_values.2 (.inr (.inr (.inr (.inr (.inr (.inr hx))))))
  · exact mem_values.2 (.inr (.inr (.inr (.inr (.inr (.inr hy))))))

theorem replaced_inj {n i : Nat} (hn : n ∉ t.values) :
    ∀ x ∈ t.values, ∀ y ∈ t.values, replaced n i x = replaced n i y → x = y := by
  intro x hx y hy he
  unfold replaced at he
  split at he <;> split at he
  · next h1 h2 => rw [h1, h2]
  · exact absurd (he ▸ hy) hn
  · exact absurd (he ▸ hx) hn
  · exact he

variable (failed) in
/-- **A step**: a number that no table holds is given to an instance by all of them, and none of the updates
fails. -/
theorem remap_eq (hk : t.Keyed) {n : Nat} (i : Nat) (hn : n ∉ t.values) :
    t.remap failed n i = t.renamed (replaced n i) ∧ (t.renamed (replaced n i)).Keyed := by
  have hk' := hk.renamed (replaced_inj (i := i) hn)
  refine ⟨?_, hk'⟩
  have hupdate : ∀ {rows : InstanceRefs}, (renameRefs (replaced n i) rows).Nodup →
      updateKeyed failed (replaced n i) rows = renameRefs (replaced n i) rows := fun h => if_pos h
  have hids : updateIds failed (replaced n i) t.instanceIds = t.instanceIds.map (replaced n i) :=
    if_pos hk'.instanceIds
  unfold remap
  rw [hupdate hk'.creatureRespawn, hupdate hk'.gameobjectRespawn, hupdate hk'.characterInstance, hids,
    hupdate hk'.groupInstance]
  rfl

/-! ## The loop -/

theorem numbered_of_not_mem {n x : Nat} {l : List Nat} (hx : x ∉ l) : numbered n l x = x := by
  induction l generalizing n with
  | nil => rfl
  | cons i rest ih =>
    unfold numbered
    rw [if_neg fun he : x = i => hx (he ▸ List.mem_cons_self)]
    exact ih fun hm => hx (List.mem_cons_of_mem _ hm)

theorem renamed_id : t.renamed (fun x => x) = t := by
  unfold renamed renameRefs
  simp

theorem numbered_replaced {n i : Nat} {rest : List Nat} (hn : n ∉ rest) (x : Nat) :
    numbered (n + 1) rest (replaced n i x) = numbered n (i :: rest) x := by
  unfold replaced
  rw [numbered]
  split
  · exact numbered_of_not_mem hn
  · rfl

/-- **The loop**: where what is still to be numbered is not below the next number, and what the tables hold
beside it is below. -/
theorem packFrom_eq {l : List Nat} {n : Nat} (hk : t.Keyed) (hl : l.Pairwise (· < ·)) (hge : ∀ i ∈ l, n ≤ i)
    (hvalues : ∀ x ∈ t.values, x ∈ l ∨ x < n) : packFrom failed n l t = t.renamed (numbered n l) := by
  induction l generalizing n t with
  | nil => exact renamed_id.symm
  | cons i rest ih =>
    rw [List.pairwise_cons] at hl
    have hi := hge i List.mem_cons_self
    have hrest : ∀ j ∈ rest, n + 1 ≤ j := fun j hj => by
      have := hl.1 j hj
      omega
    have hn : n ∉ rest := fun hm => by
      have := hrest n hm
      omega
    unfold packFrom
    by_cases hin : i = n
    · -- it has its number already
      subst hin
      rw [if_neg fun h => h rfl, ih hk hl.2 hrest ?_]
      · refine renamed_congr fun x _ => ?_
        rw [← numbered_replaced hn]
        unfold replaced
        split
        · next hx => rw [hx]
        · rfl
      · intro x hx
        rcases hvalues x hx with h | h
        · rcases List.mem_cons.1 h with rfl | h
          · exact .inr (by omega)
          · exact .inl h
        · exact .inr (by omega)
    · have hfree : n ∉ t.values := by
        intro hm
        rcases hvalues n hm with h | h
        · rcases List.mem_cons.1 h with h | h
          · exact hin h.symm
          · exact hn h
        · omega
      obtain ⟨hmap, hk'⟩ := remap_eq failed hk i hfree
      rw [if_pos hin, hmap, ih hk' hl.2 hrest ?_, renamed_comp]
      · exact renamed_congr fun x _ => numbered_replaced hn x
      · intro x hx
        obtain ⟨y, hy, rfl⟩ := mem_values_renamed hx
        unfold replaced
        split
        · exact .inr (by omega)
        · next hyi =>
          rcases hvalues y hy with h | h
          · exact .inl ((List.mem_cons.1 h).resolve_left hyi)
          · exact .inr (by omega)

/-! ## The numbers -/

theorem numbered_range {l : List Nat} {n x : Nat} (hx : x ∈ l) :
    n ≤ numbered n l x ∧ numbered n l x < n + l.length := by
  induction l generalizing n with
  | nil => cases hx
  | cons i rest ih =>
    unfold numbered
    rw [List.length_cons]
    split
    · omega
    · next hxi =>
      have := ih (n := n + 1) ((List.mem_cons.1 hx).resolve_left hxi)
      omega

theorem numbered_lt {l : List Nat} {n x y : Nat} (hl : l.Pairwise (· < ·)) (hx : x ∈ l) (hy : y ∈ l) (hxy : x < y) :
    numbered n l x < numbered n l y := by
  induction l generalizing n with
  | nil => cases hx
  | cons i rest ih =>
    rw [List.pairwise_cons] at hl
    have hyrest : y ∈ rest := by
      rcases List.mem_cons.1 hy with rfl | h
      · rcases List.mem_cons.1 hx with rfl | h
        · omega
        · have := hl.1 x h
          omega
      · exact h
    have hyi : y ≠ i := fun he => by
      have := hl.1 y hyrest
      omega
    unfold numbered
    rw [if_neg hyi]
    split
    · exact (numbered_range hyrest).1
    · next hxi => exact ih hl.2 ((List.mem_cons.1 hx).resolve_left hxi) hyrest

theorem numbered_onto {l : List Nat} {n k : Nat} (hl : l.Nodup) (hn : n ≤ k) (hk : k < n + l.length) :
    ∃ x ∈ l, numbered n l x = k := by
  induction l generalizing n with
  | nil =>
    rw [List.length_nil] at hk
    omega
  | cons i rest ih =>
    rw [List.length_cons] at hk
    rw [List.nodup_cons] at hl
    by_cases hkn : k = n
    · exact ⟨i, List.mem_cons_self, by rw [numbered, if_pos rfl, hkn]⟩
    · obtain ⟨x, hx, hxk⟩ := ih (n := n + 1) hl.2 (by omega) (by omega)
      refine ⟨x, List.mem_cons_of_mem _ hx, ?_⟩
      rw [numbered, if_neg fun he : x = i => hl.1 (he ▸ hx)]
      exact hxk

/-! ## The set of ids -/

theorem mem_instanceSet {x : Nat} : x ∈ t.instanceSet ↔ x ∈ t.instanceIds := by
  unfold instanceSet
  rw [List.mem_insertionSort, List.mem_dedup]

theorem instanceSet_sorted : t.instanceSet.Pairwise (· < ·) := by
  unfold instanceSet
  have hnodup : (t.instanceIds.dedup.insertionSort (· ≤ ·)).Nodup :=
    (List.perm_insertionSort _ _).nodup_iff.2 (List.nodup_dedup _)
  exact ((List.pairwise_insertionSort (· ≤ ·) _).and hnodup).imp fun h => lt_of_le_of_ne h.1 h.2

theorem length_instanceSet (hk : t.Keyed) : t.instanceSet.length = t.instanceIds.length := by
  unfold instanceSet
  rw [List.length_insertionSort, List.Nodup.dedup hk.instanceIds]

/-- **The routine** renames all tables by the numbers of the ids. -/
theorem packInstances_eq (hk : t.Keyed) (h01 : ¬(0 ∈ t.instanceIds ∧ 1 ∈ t.instanceIds))
    (hrefs : ∀ x ∈ t.references, x ∈ t.instanceIds ∨ x = 0) :
    t.packInstances failed = t.renamed (numbered 1 t.instanceSet) := by
  have hsorted := instanceSet_sorted (t := t)
  have hvalues : ∀ x ∈ t.values, x ∈ t.instanceSet ∨ x = 0 := by
    intro x hx
    rw [mem_instanceSet]
    rcases List.mem_append.1 hx with hx | hx
    · exact hrefs x hx
    · exact .inl hx
  unfold packInstances
  cases hset : t.instanceSet with
  | nil =>
    rw [hset] at hvalues
    exact packFrom_eq hk List.Pairwise.nil (by simp) fun x hx => .inr (by
      have := (hvalues x hx).resolve_left (by simp)
      omega)
  | cons i rest =>
    rw [hset] at hsorted hvalues
    rw [List.pairwise_cons] at hsorted
    by_cases hi : i = 0
    · -- an instance 0 gets the number 1, which is free then
      subst hi
      have hone : 1 ∉ t.instanceIds := fun h => h01 ⟨mem_instanceSet.1 (by rw [hset]; simp), h⟩
      have hrest : ∀ j ∈ rest, 2 ≤ j := by
        intro j hj
        have hpos := hsorted.1 j hj
        have hne : j ≠ 1 := by
          rintro rfl
          exact hone (mem_instanceSet.1 (by rw [hset]; exact List.mem_cons_of_mem _ hj))
        omega
      have hnot : 1 ∉ rest := fun h => by
        have := hrest 1 h
        omega
      have hfree : 1 ∉ t.values := fun h => by
        rcases hvalues 1 h with h | h
        · rcases List.mem_cons.1 h with h | h
          · cases h
          · exact hnot h
        · cases h
      obtain ⟨hmap, hk'⟩ := remap_eq failed hk 0 hfree
      unfold packFrom
      rw [if_pos (by decide), hmap, packFrom_eq hk' hsorted.2 hrest ?_, renamed_comp]
      · exact renamed_congr fun x _ => numbered_replaced hnot x
      · intro x hx
        obtain ⟨y, hy, rfl⟩ := mem_values_renamed hx
        unfold replaced
        split
        · exact .inr (by decide)
        · next hy0 =>
          rcases hvalues y hy with h | h
          · exact .inl ((List.mem_cons.1 h).resolve_left hy0)
          · exact absurd h hy0
    · refine packFrom_eq hk (List.pairwise_cons.2 hsorted) ?_ fun x hx => ?_
      · intro j hj
        rcases List.mem_cons.1 hj with rfl | hj
        · omega
        · have := hsorted.1 j hj
          omega
      · rcases hvalues x hx with h | h
        · exact .inl h
        · exact .inr (by omega)

/-- **Packing** renumbers the instances from 1 up by one map that keeps their order, in all seven tables
alike, and two references are to one instance after it just if they were before; 0, where it is no
instance, stays 0.  The ids have not to hold both 0 and 1. -/
theorem pack_renumbers (failed : FailedUpdate) (t : InstanceTables) (hk : t.Keyed)
    (h01 : ¬(0 ∈ t.instanceIds ∧ 1 ∈ t.instanceIds))
    (hrefs : ∀ x ∈ t.references, x ∈ t.instanceIds ∨ x = 0) :
    ∃ f : Nat → Nat, t.packInstances failed = t.renamed f ∧
      (∀ x ∈ t.instanceIds, ∀ y ∈ t.instanceIds, x < y → f x < f y) ∧
      (∀ k, (∃ x ∈ t.instanceIds, f x = k) ↔ 1 ≤ k ∧ k ≤ t.instanceIds.length) ∧
      (0 ∉ t.instanceIds → f 0 = 0) ∧ ∀ x ∈ t.values, ∀ y ∈ t.values, f x = f y ↔ x = y := by
  have hmono : ∀ x ∈ t.instanceIds, ∀ y ∈ t.instanceIds, x < y →
      numbered 1 t.instanceSet x < numbered 1 t.instanceSet y := fun x hx y hy =>
    numbered_lt instanceSet_sorted (mem_instanceSet.2 hx) (mem_instanceSet.2 hy)
  have hzero : 0 ∉ t.instanceIds → numbered 1 t.instanceSet 0 = 0 := fun h =>
    numbered_of_not_mem fun hm => h (mem_instanceSet.1 hm)
  have hrange : ∀ x ∈ t.instanceIds, 1 ≤ numbered 1 t.instanceSet x ∧
      numbered 1 t.instanceSet x < 1 + t.instanceSet.length := fun x hx => numbered_range (mem_instanceSet.2 hx)
  refine ⟨numbered 1 t.instanceSet, packInstances_eq hk h01 hrefs, hmono, fun k => ?_, hzero, ?_⟩
  · rw [← length_instanceSet hk]
    constructor
    · rintro ⟨x, hx, rfl⟩
      have := hrange x hx
      omega
    · rintro ⟨h1, h2⟩
      obtain ⟨x, hx, hxk⟩ := numbered_onto (n := 1) (instanceSet_sorted (t := t)).nodup h1 (by omega)
      exact ⟨x, mem_instanceSet.1 hx, hxk⟩
  · have hvalues : ∀ x ∈ t.values, x ∈ t.instanceIds ∨ x = 0 ∧ 0 ∉ t.instanceIds := by
      intro x hx
      have hx' : x ∈ t.instanceIds ∨ x = 0 := by
        rcases List.mem_append.1 hx with hx | hx
        · exact hrefs x hx
        · exact .inl hx
      by_cases hmem : x ∈ t.instanceIds
      · exact .inl hmem
      · have h0 := hx'.resolve_left hmem
        exact .inr ⟨h0, h0 ▸ hmem⟩
    intro x hx y hy
    refine ⟨fun he => ?_, fun he => by rw [he]⟩
    rcases hvalues x hx with hx | ⟨rfl, h0⟩ <;> rcases hvalues y hy with hy | ⟨rfl, h0'⟩
    · rcases Nat.lt_trichotomy x y with h | h | h
      · have := hmono x hx y hy h
        omega
      · exact h
      · have := hmono y hy x hx h
        omega
    · have := hrange x hx
      rw [hzero h0'] at he
      omega
    · have := hrange y hy
      rw [hzero h0] at he
      omega
    · rfl

end

/-! ## Two runs -/

/-- An engine that takes a failed statement back. -/
def rollback : FailedUpdate := ⟨fun rows _ => rows, fun ids _ => ids⟩

/-- Two characters in the instances 7 and 3, and a third in none. -/
def twoInstances : InstanceTables where
  characters := [(10, 7), (11, 3), (12, 0)]
  characterInstance := [(10, 7), (11, 3), (11, 7)]
  instanceIds := [7, 3]

theorem pack_renumbers_two :
    (twoInstances.packInstances rollback).characters = [(10, 2), (11, 1), (12, 0)] ∧
      (twoInstances.packInstances rollback).instanceIds = [2, 1] ∧
      ∃ f : Nat → Nat, twoInstances.packInstances rollback = twoInstances.renamed f ∧
        (∀ x ∈ twoInstances.instanceIds, ∀ y ∈ twoInstances.instanceIds, x < y → f x < f y) ∧
        (∀ k, (∃ x ∈ twoInstances.instanceIds, f x = k) ↔ 1 ≤ k ∧ k ≤ twoInstances.instanceIds.length) ∧
        (0 ∉ twoInstances.instanceIds → f 0 = 0) ∧
        ∀ x ∈ twoInstances.values, ∀ y ∈ twoInstances.values, f x = f y ↔ x = y :=
  ⟨by decide, by decide, pack_renumbers rollback twoInstances
    ⟨by decide, by decide, by decide, by decide, by decide⟩ (by decide) (by decide)⟩

/-- Two characters, each in an instance of its own. -/
def zeroAndOne : InstanceTables where
  characters := [(10, 0), (11, 1)]
  instanceIds := [0, 1]

/-- **An instance 0 beside an instance 1**: the first gets the number 1 while the second still has it, and
then both get the number 2. -/
theorem zero_and_one_merge :
    (zeroAndOne.packInstances rollback).characters = [(10, 2), (11, 2)] ∧
      ¬ ∀ (failed : FailedUpdate) (t : InstanceTables), t.Keyed →
        (∀ x ∈ t.references, x ∈ t.instanceIds) →
        ∃ f : Nat → Nat, t.packInstances failed = t.renamed f ∧
          ∀ x ∈ t.values, ∀ y ∈ t.values, f x = f y ↔ x = y := by
  refine ⟨by decide, fun hall => ?_⟩
  obtain ⟨f, hf, hinj⟩ := hall rollback zeroAndOne ⟨by decide, by decide, by decide, by decide, by decide⟩ (by decide)
  have hchars : (zeroAndOne.packInstances rollback).characters = (zeroAndOne.renamed f).characters := by rw [hf]
  have hmerged : (zeroAndOne.packInstances rollback).characters = [(10, 2), (11, 2)] := by decide
  have hmap : (zeroAndOne.renamed f).characters = [(10, f 0), (11, f 1)] := rfl
  rw [hmerged, hmap] at hchars
  simp only [List.cons.injEq, Prod.mk.injEq, true_and, and_true] at hchars
  have hsame := (hinj 0 (by decide) 1 (by decide)).1 (hchars.1.symm.trans hchars.2)
  cases hsame

end InstanceTables

end BlizzLike
