import BlizzLikeCore.Lib.Transition
import BlizzLikeCore.Maps.MapInstanced

/-!
# References to grid maps

Every grid map of an instance is that of the base map, and the base map counts the instances that hold it.  The
count has 16 bits: it is right, and keeps the base grid loaded, as long as no 65536 instances hold one grid map.

    ensureInstance_spec : an instance that creates a grid takes a reference
    unloadInstance_spec : and gives it back when it unloads the grid
    unloadAll_spec      : `UnloadAll` leaves a map without grids
    terrain_referenced  : references are counted and base grids kept in every run without an overflow
-/

namespace BlizzLike.GridMaps

/-! ## Maps -/

/-- The grids of a map are linked, and each has its grid map. -/
structure Map.Tidy (m : Map) : Prop where
  nodup : m.refManager.Nodup
  linked : ∀ p, p ∈ m.refManager ↔ (m.grids p).isSome
  terrain : ∀ p, (m.gridMaps p.mirror).isSome = (m.grids p).isSome

namespace Map

variable {m : Map} {p : GridPair}

theorem Tidy.new (id : UInt32) : (Map.new id).Tidy :=
  ⟨List.nodup_nil, fun p => by simp [Map.new], fun p => rfl⟩

theorem Tidy.modifyGrid (h : m.Tidy) (f : NGrid → NGrid) : (m.modifyGrid p f).Tidy := by
  have hsame : ∀ q, ((m.modifyGrid p f).grids q).isSome = (m.grids q).isSome := by
    intro q
    unfold Map.modifyGrid
    by_cases hq : q = p
    · subst hq
      simp
    · simp [Function.update_of_ne hq]
  exact ⟨h.nodup, fun q => by rw [hsame]; exact h.linked q, fun q => by rw [hsame]; exact h.terrain q⟩

theorem Tidy.created (h : m.Tidy) (hp : m.grids p = none) (gridUnload : Bool) (ptr : Nat) :
    ((m.createGrid gridUnload p).setGridMap p.mirror (some ptr)).Tidy := by
  have hnot : p ∉ m.refManager := fun hmem => by
    have := (h.linked p).1 hmem
    rw [hp] at this
    cases this
  refine ⟨List.nodup_cons.2 ⟨hnot, h.nodup⟩, fun q => ?_, fun q => ?_⟩
  · show q ∈ p :: m.refManager ↔ (Function.update m.grids p _ q).isSome
    by_cases hq : q = p
    · subst hq
      simp
    · simp [hq, h.linked]
  · show (Function.update m.gridMaps p.mirror _ q.mirror).isSome = (Function.update m.grids p _ q).isSome
    by_cases hq : q = p
    · subst hq
      simp
    · have hne : q.mirror ≠ p.mirror := fun he => hq (by simpa using congrArg GridPair.mirror he)
      simp [Function.update_of_ne hq, Function.update_of_ne hne, h.terrain]

theorem Tidy.deleted (h : m.Tidy) : ((m.deleteGrid p).setGridMap p.mirror none).Tidy := by
  refine ⟨h.nodup.erase p, fun q => ?_, fun q => ?_⟩
  · show q ∈ m.refManager.erase p ↔ (Function.update m.grids p none q).isSome
    rw [h.nodup.mem_erase_iff]
    by_cases hq : q = p
    · subst hq
      simp
    · simp [hq, h.linked]
  · show (Function.update m.gridMaps p.mirror none q.mirror).isSome = (Function.update m.grids p none q).isSome
    by_cases hq : q = p
    · subst hq
      simp
    · have hne : q.mirror ≠ p.mirror := fun he => hq (by simpa using congrArg GridPair.mirror he)
      simp [Function.update_of_ne hq, Function.update_of_ne hne, h.terrain]

theorem Tidy.empty (h : m.Tidy) (hnil : m.refManager = []) (g : GridPair) : m.gridMaps g = none := by
  have hterrain := h.terrain g.mirror
  have hlinked := h.linked g.mirror
  rw [hnil] at hlinked
  rw [GridPair.mirror_mirror] at hterrain
  rw [← Option.not_isSome_iff_eq_none, hterrain, ← hlinked]
  exact List.not_mem_nil

end Map

/-! ## The invariant -/

namespace MapInstanced

/-- References are as they should be. -/
structure Sound (w : MapInstanced) : Prop where
  baseId : w.base.instanceId = 0
  tidyBase : w.base.Tidy
  instances : ∀ id m, w.maps.lookup id = some m → m.instanceId = id ∧ id ≠ 0 ∧ m.Tidy
  shared : ∀ id m, w.maps.lookup id = some m → ∀ g ptr, m.gridMaps g = some ptr → w.base.gridMaps g = some ptr
  owned : ∀ g ptr, w.base.gridMaps g = some ptr → ptr ∈ w.live
  fresh : ∀ ptr ∈ w.live, ptr < w.next
  distinct : ∀ g g' ptr, w.base.gridMaps g = some ptr → w.base.gridMaps g' = some ptr → g = g'
  counted : ∀ g, (w.gridMapReference g).toNat = w.holders g
  locked : ∀ g, 0 < w.holders g → ∃ grid, w.base.grids g.mirror = some grid ∧ grid.unloadReferenceLock = true
  kept : ∀ e ∈ w.unloads, e.2 = 0

variable {w : MapInstanced} {id : UInt32} {m : Map} {p g : GridPair}

theorem holders_storeInstance (hm : w.maps.lookup id = some m) (m' : Map) (g : GridPair) :
    (w.store (.instance id) m').holders g + (if (m.gridMaps g).isSome then 1 else 0) =
      w.holders g + if (m'.gridMaps g).isSome then 1 else 0 :=
  FiniteMap.count_insert (fun m : Map => (m.gridMaps g).isSome) hm

theorem holders_pos (hm : w.maps.lookup id = some m) (hg : (m.gridMaps g).isSome) : 0 < w.holders g :=
  FiniteMap.count_pos _ hm hg

theorem Sound.flags (h : Sound w) (hm : w.maps.lookup id = some m) (f : NGrid → NGrid) :
    Sound (w.store (.instance id) (m.modifyGrid p f)) := by
  have hholders : ∀ g, (w.store (.instance id) (m.modifyGrid p f)).holders g = w.holders g := fun g =>
    Nat.add_right_cancel (holders_storeInstance hm _ g)
  obtain ⟨hid, hne, htidy⟩ := h.instances id m hm
  refine { h with instances := fun id' m₁ h' => ?_, shared := fun id' m₁ h' => ?_, counted := fun g => ?_,
                  locked := fun g hg => ?_ }
  · rcases FiniteMap.lookup_insert_cases h' with ⟨rfl, rfl⟩ | ⟨-, h'⟩
    · exact ⟨hid, hne, htidy.modifyGrid f⟩
    · exact h.instances id' m₁ h'
  · rcases FiniteMap.lookup_insert_cases h' with ⟨rfl, rfl⟩ | ⟨-, h'⟩
    · exact h.shared id' m hm
    · exact h.shared id' m₁ h'
  · rw [hholders]
    exact h.counted g
  · rw [hholders] at hg
    exact h.locked g hg

theorem Sound.baseFlags (h : Sound w) (f : NGrid → NGrid)
    (hf : ∀ grid, (f grid).unloadReferenceLock = grid.unloadReferenceLock) :
    Sound (w.store .base (w.base.modifyGrid p f)) := by
  refine { h with tidyBase := h.tidyBase.modifyGrid f, locked := fun g hg => ?_ }
  obtain ⟨grid, hgrid, hlock⟩ := h.locked g hg
  show ∃ grid, Function.update w.base.grids p _ g.mirror = some grid ∧ _
  by_cases hp : g.mirror = p
  · subst hp
    rw [Function.update_self, hgrid]
    exact ⟨f grid, rfl, (hf grid).trans hlock⟩
  · rw [Function.update_of_ne hp]
    exact ⟨grid, hgrid, hlock⟩

theorem Sound.modify (h : Sound w) {t : Target} (hm : w.find? t = some m) (f : NGrid → NGrid)
    (hf : ∀ grid, (f grid).unloadReferenceLock = grid.unloadReferenceLock) : Sound (w.store t (m.modifyGrid p f)) := by
  cases t with
  | base =>
    cases hm
    exact h.baseFlags f hf
  | «instance» id => exact h.flags hm f

/-! ## Creation of grids -/

/-- **The base map creates a grid**, and loads its grid map. -/
theorem ensureBase_spec (h : Sound w) (p : GridPair) :
    Sound (w.ensureBaseGridCreated p) ∧ (∃ ptr, (w.ensureBaseGridCreated p).base.gridMaps p.mirror = some ptr) ∧
      (w.ensureBaseGridCreated p).maps = w.maps ∧
      (w.ensureBaseGridCreated p).gridMapReference = w.gridMapReference ∧
      (w.ensureBaseGridCreated p).maxInstanceId = w.maxInstanceId := by
  unfold ensureBaseGridCreated
  have hterrain := h.tidyBase.terrain p
  split
  · next hsome =>
    rw [hsome] at hterrain
    exact ⟨h, Option.isSome_iff_exists.1 hterrain, rfl, rfl, rfl⟩
  · next hnone =>
    have hgrid : w.base.grids p = none := by simpa using hnone
    have hmap : w.base.gridMaps p.mirror = none := by
      rw [hgrid] at hterrain
      simpa using hterrain
    have hb : ((w.base.createGrid w.gridUnload p).gridMaps p.mirror).isSome = false := by
      show (w.base.gridMaps p.mirror).isSome = false
      rw [hmap]
      rfl
    rw [if_neg (by simp [hb])]
    unfold loadFile
    simp only [hb, Bool.false_eq_true, if_false]
    have hnext : ∀ g ptr, w.base.gridMaps g = some ptr → ptr ≠ w.next := fun g ptr hg he =>
      absurd (h.fresh ptr (h.owned g ptr hg)) (by omega)
    refine ⟨{ h with
      tidyBase := h.tidyBase.created hgrid w.gridUnload w.next, shared := fun id m hm g ptr hg => ?_,
      owned := fun g ptr hg => ?_, fresh := fun ptr hptr => ?_, distinct := fun g g' ptr hg hg' => ?_,
      locked := fun g hg => ?_ }, ⟨w.next, ?_⟩, rfl, rfl, rfl⟩
    · have hb := h.shared id m hm g ptr hg
      show Function.update w.base.gridMaps p.mirror _ g = some ptr
      rw [Function.update_of_ne]
      · exact hb
      · rintro rfl
        rw [hmap] at hb
        cases hb
    · change Function.update w.base.gridMaps p.mirror _ g = some ptr at hg
      show ptr ∈ w.next :: w.live
      by_cases hgp : g = p.mirror
      · subst hgp
        rw [Function.update_self] at hg
        exact List.mem_cons.2 (Or.inl (Option.some.inj hg).symm)
      · rw [Function.update_of_ne hgp] at hg
        exact List.mem_cons_of_mem _ (h.owned g ptr hg)
    · show ptr < w.next + 1
      rcases List.mem_cons.1 hptr with rfl | hptr
      · omega
      · have := h.fresh ptr hptr
        omega
    · change Function.update w.base.gridMaps p.mirror _ g = some ptr at hg
      change Function.update w.base.gridMaps p.mirror _ g' = some ptr at hg'
      by_cases hgp : g = p.mirror <;> by_cases hgp' : g' = p.mirror
      · rw [hgp, hgp']
      · subst hgp
        rw [Function.update_self] at hg
        rw [Function.update_of_ne hgp'] at hg'
        exact absurd (Option.some.inj hg).symm (hnext g' ptr hg')
      · subst hgp'
        rw [Function.update_self] at hg'
        rw [Function.update_of_ne hgp] at hg
        exact absurd (Option.some.inj hg').symm (hnext g ptr hg)
      · rw [Function.update_of_ne hgp] at hg
        rw [Function.update_of_ne hgp'] at hg'
        exact h.distinct g g' ptr hg hg'
    · obtain ⟨grid, hgrid', hlock⟩ := h.locked g hg
      refine ⟨grid, ?_, hlock⟩
      show Function.update w.base.grids p _ g.mirror = some grid
      rw [Function.update_of_ne]
      · exact hgrid'
      · rintro rfl
        rw [hgrid] at hgrid'
        cases hgrid'
    · exact Function.update_self ..

theorem addGridMapReference_eq {v : MapInstanced} {grid : NGrid} (hgrid : v.base.grids p = some grid) :
    v.addGridMapReference p.mirror = some { v with
      gridMapReference := Function.update v.gridMapReference p.mirror (v.gridMapReference p.mirror + 1)
      base := v.base.modifyGrid p fun grid => { grid with unloadReferenceLock := true } } := by
  unfold addGridMapReference setUnloadReferenceLock
  rw [GridPair.mirror_mirror]
  dsimp only
  rw [hgrid]

/-- **An instance creates a grid**, and takes a reference on the grid map of the base map. -/
theorem ensureInstance_spec (h : Sound w) (hm : w.maps.lookup id = some m) (hp : m.grids p = none) :
    ∃ w', w.ensureGridCreated (.instance id) p = some w' ∧ (w.holders p.mirror < 65535 → Sound w') ∧
      (∀ id', id' ≠ id → w'.maps.lookup id' = w.maps.lookup id') ∧ w'.maxInstanceId = w.maxInstanceId ∧
      w'.holders p.mirror = w.holders p.mirror + 1 ∧
      w'.gridMapReference p.mirror = w.gridMapReference p.mirror + 1 := by
  obtain ⟨hid, hne, htidy⟩ := h.instances id m hm
  have hmap : m.gridMaps p.mirror = none := by
    have := htidy.terrain p
    rw [hp] at this
    simpa using this
  -- the base map after its own grid has been created
  obtain ⟨v, hv, hsound, ⟨ptr, hptr⟩, hmaps, hrefs, hmax⟩ : ∃ v,
      (if (w.base.gridMaps p.mirror).isSome then w else w.ensureBaseGridCreated p.mirror.mirror) = v ∧ Sound v ∧
        (∃ ptr, v.base.gridMaps p.mirror = some ptr) ∧ v.maps = w.maps ∧
        v.gridMapReference = w.gridMapReference ∧ v.maxInstanceId = w.maxInstanceId := by
    refine ⟨_, rfl, ?_⟩
    split
    · next hsome => exact ⟨h, Option.isSome_iff_exists.1 hsome, rfl, rfl, rfl⟩
    · rw [GridPair.mirror_mirror]
      obtain ⟨h1, h2, h3, h4, h5⟩ := ensureBase_spec h p
      exact ⟨h1, h2, h3, h4, h5⟩
  have hvm : v.maps.lookup id = some m := by rw [hmaps]; exact hm
  have hvholders : ∀ g, v.holders g = w.holders g := fun g => by unfold holders; rw [hmaps]
  obtain ⟨grid, hgrid⟩ : ∃ grid, v.base.grids p = some grid := by
    have hterrain := hsound.tidyBase.terrain p
    rw [hptr] at hterrain
    exact Option.isSome_iff_exists.1 hterrain.symm
  -- the reference is taken
  have hload : w.loadMap (m.createGrid w.gridUnload p) p.mirror =
      some ({ v with
        gridMapReference := Function.update v.gridMapReference p.mirror (v.gridMapReference p.mirror + 1)
        base := v.base.modifyGrid p fun grid => { grid with unloadReferenceLock := true } },
        (m.createGrid w.gridUnload p).setGridMap p.mirror (some ptr)) := by
    unfold loadMap
    rw [if_pos (show (m.createGrid w.gridUnload p).instanceId ≠ 0 from hid ▸ hne),
      if_neg (show ¬ ((m.createGrid w.gridUnload p).gridMaps p.mirror).isSome by
        show ¬ (m.gridMaps p.mirror).isSome; simp [hmap]), hv]
    dsimp only
    rw [addGridMapReference_eq hgrid]
    show some (_, Map.setGridMap _ _ (v.base.gridMaps p.mirror)) = _
    rw [hptr]
  have hact : w.ensureGridCreated (.instance id) p = some (({ v with
        gridMapReference := Function.update v.gridMapReference p.mirror (v.gridMapReference p.mirror + 1)
        base := v.base.modifyGrid p fun grid => { grid with unloadReferenceLock := true } } : MapInstanced).store
          (.instance id) ((m.createGrid w.gridUnload p).setGridMap p.mirror (some ptr))) := by
    unfold ensureGridCreated
    rw [show w.find? (.instance id) = some m from hm]
    dsimp only
    rw [if_neg (by simp [hp]), if_neg (show ¬ ((m.createGrid w.gridUnload p).gridMaps p.mirror).isSome by
      show ¬ (m.gridMaps p.mirror).isSome; simp [hmap]), hload]
    rfl
  have hholders : ∀ g, FiniteMap.count (fun m : Map => (m.gridMaps g).isSome)
      (v.maps.insert id ((m.createGrid w.gridUnload p).setGridMap p.mirror (some ptr))) =
        w.holders g + if g = p.mirror then 1 else 0 := by
    intro g
    have hcount := holders_storeInstance hvm ((m.createGrid w.gridUnload p).setGridMap p.mirror (some ptr)) g
    rw [hvholders] at hcount
    change _ + _ = _ + (if (Function.update m.gridMaps p.mirror (some ptr) g).isSome then 1 else 0) at hcount
    by_cases hg : g = p.mirror
    · subst hg
      rw [Function.update_self, hmap] at hcount
      rw [if_pos rfl]
      exact hcount
    · rw [Function.update_of_ne hg] at hcount
      rw [if_neg hg]
      exact Nat.add_right_cancel hcount
  refine ⟨_, hact, fun hfits => ?_, fun id' hne' => ?_, hmax, ?_, ?_⟩
  · refine { hsound with
      tidyBase := hsound.tidyBase.modifyGrid _, instances := fun id' m₁ h' => ?_, shared := fun id' m₁ h' => ?_,
      counted := fun g => ?_, locked := fun g hg => ?_ }
    · rcases FiniteMap.lookup_insert_cases h' with ⟨rfl, rfl⟩ | ⟨-, h'⟩
      · exact ⟨hid, hne, htidy.created hp w.gridUnload ptr⟩
      · exact hsound.instances id' m₁ h'
    · rcases FiniteMap.lookup_insert_cases h' with ⟨rfl, rfl⟩ | ⟨-, h'⟩
      · intro g ptr' hg
        change Function.update m.gridMaps p.mirror (some ptr) g = some ptr' at hg
        by_cases hgp : g = p.mirror
        · subst hgp
          rw [Function.update_self] at hg
          cases hg
          exact hptr
        · rw [Function.update_of_ne hgp] at hg
          exact hsound.shared id' m hvm g ptr' hg
      · exact hsound.shared id' m₁ h'
    · show (Function.update v.gridMapReference p.mirror _ g).toNat = _
      refine Eq.trans ?_ (hholders g).symm
      by_cases hg : g = p.mirror
      · subst hg
        have := hsound.counted p.mirror
        rw [hvholders] at this
        rw [Function.update_self, UInt16.toNat_add, this]
        simp
        omega
      · rw [Function.update_of_ne hg, if_neg hg, hsound.counted, hvholders, Nat.add_zero]
    · show ∃ grid, Function.update v.base.grids p _ g.mirror = some grid ∧ _
      replace hg := lt_of_lt_of_eq hg (hholders g)
      by_cases hgp : g = p.mirror
      · subst hgp
        rw [GridPair.mirror_mirror, Function.update_self, hgrid]
        exact ⟨_, rfl, rfl⟩
      · rw [if_neg hgp, Nat.add_zero, ← hvholders] at hg
        rw [Function.update_of_ne fun he => hgp (GridPair.mirror_eq_iff.1 he)]
        exact hsound.locked g hg
  · rw [← hmaps]
    exact AList.lookup_insert_ne hne'
  · exact (hholders p.mirror).trans (by rw [if_pos rfl])
  · show Function.update v.gridMapReference p.mirror _ p.mirror = _
    rw [Function.update_self, hrefs]

/-! ## Unloading of grids -/

/-- **The base map unloads a grid** that no instance holds, with its grid map. -/
theorem unloadBase_spec (h : Sound w) (hp : (w.base.grids p).isSome) (hfree : w.holders p.mirror = 0) {u a : Bool}
    (hgo : (!u && a) = false) :
    ∃ w', w.unloadGrid .base p u a = some w' ∧ Sound w' ∧ w'.maps = w.maps ∧ w'.maxInstanceId = w.maxInstanceId ∧
      w'.base.refManager = w.base.refManager.erase p := by
  obtain ⟨ptr, hptr⟩ := Option.isSome_iff_exists.1 ((h.tidyBase.terrain p).trans hp)
  obtain ⟨grid, hgrid⟩ := Option.isSome_iff_exists.1 hp
  have hact : w.unloadGrid .base p u a = some (({ w with
      live := w.live.erase ptr, unloads := (p, w.holders p.mirror) :: w.unloads } : MapInstanced).store .base
        ((w.base.deleteGrid p).setGridMap p.mirror none)) := by
    unfold unloadGrid find?
    dsimp only
    rw [if_neg (by simp [hgrid]), if_neg (by simp [hgo]), if_pos h.baseId, if_pos rfl, hptr]
  -- nobody else has the pointer that is freed
  have hnobody : ∀ g, 0 < w.holders g → g ≠ p.mirror := fun g hg he => by
    rw [he, hfree] at hg
    omega
  refine ⟨_, hact, { h with
    tidyBase := h.tidyBase.deleted, shared := fun id m hm g ptr' hg => ?_, owned := fun g ptr' hg => ?_,
    fresh := fun ptr' hptr' => h.fresh ptr' (List.mem_of_mem_erase hptr'), distinct := fun g g' ptr' hg hg' => ?_,
    locked := fun g hg => ?_, kept := fun e he => ?_ }, rfl, rfl, rfl⟩
  · have hne := hnobody g (holders_pos hm (Option.isSome_iff_exists.2 ⟨ptr', hg⟩))
    show Function.update w.base.gridMaps p.mirror none g = some ptr'
    rw [Function.update_of_ne hne]
    exact h.shared id m hm g ptr' hg
  · change Function.update w.base.gridMaps p.mirror none g = some ptr' at hg
    show ptr' ∈ w.live.erase ptr
    by_cases hgp : g = p.mirror
    · subst hgp
      rw [Function.update_self] at hg
      cases hg
    · rw [Function.update_of_ne hgp] at hg
      refine (List.mem_erase_of_ne ?_).2 (h.owned g ptr' hg)
      rintro rfl
      exact hgp (h.distinct g p.mirror ptr' hg hptr)
  · change Function.update w.base.gridMaps p.mirror none g = some ptr' at hg
    change Function.update w.base.gridMaps p.mirror none g' = some ptr' at hg'
    have hother : ∀ g₁, Function.update w.base.gridMaps p.mirror none g₁ = some ptr' →
        w.base.gridMaps g₁ = some ptr' := by
      intro g₁ h₁
      by_cases hgp : g₁ = p.mirror
      · rw [hgp, Function.update_self] at h₁
        cases h₁
      · rwa [Function.update_of_ne hgp] at h₁
    exact h.distinct g g' ptr' (hother g hg) (hother g' hg')
  · obtain ⟨grid, hgrid, hlock⟩ := h.locked g hg
    refine ⟨grid, ?_, hlock⟩
    show Function.update w.base.grids p none g.mirror = some grid
    rw [Function.update_of_ne fun he => hnobody g hg (GridPair.mirror_eq_iff.1 he)]
    exact hgrid
  · rcases List.mem_cons.1 he with rfl | he
    · exact hfree
    · exact h.kept e he

theorem removeGridMapReference_eq (h : Sound w) (hpos : 0 < w.holders p.mirror) :
    ∃ b, w.removeGridMapReference p.mirror = some { w with
        gridMapReference := Function.update w.gridMapReference p.mirror (w.gridMapReference p.mirror - 1), base := b } ∧
      b.Tidy ∧ b.instanceId = w.base.instanceId ∧ b.gridMaps = w.base.gridMaps ∧
      (w.holders p.mirror ≠ 1 → b = w.base) ∧ ∀ q, q ≠ p → b.grids q = w.base.grids q := by
  have hcount := h.counted p.mirror
  obtain ⟨grid, hgrid, -⟩ := h.locked p.mirror hpos
  rw [GridPair.mirror_mirror] at hgrid
  have hzero : w.gridMapReference p.mirror - 1 = 0 ↔ w.holders p.mirror = 1 := by
    rw [← hcount, ← UInt16.toNat_inj, UInt16.toNat_sub_of_le]
    · simp
      omega
    · rw [UInt16.le_iff_toNat_le, hcount]
      exact hpos
  unfold removeGridMapReference
  dsimp only
  split
  · next hlast =>
    rw [Function.update_self] at hlast
    unfold setUnloadReferenceLock
    rw [GridPair.mirror_mirror]
    dsimp only
    rw [hgrid]
    refine ⟨_, rfl, h.tidyBase.modifyGrid _, rfl, rfl, fun hne => absurd (hzero.1 hlast) hne, fun q hq => ?_⟩
    exact Function.update_of_ne hq _ _
  · exact ⟨w.base, rfl, h.tidyBase, rfl, rfl, fun _ => rfl, fun _ _ => rfl⟩

/-- **An instance unloads a grid**, and gives its reference back. -/
theorem unloadInstance_spec (h : Sound w) (hm : w.maps.lookup id = some m) (hp : (m.grids p).isSome) {u a : Bool}
    (hgo : (!u && a) = false) :
    ∃ w' m', w.unloadGrid (.instance id) p u a = some w' ∧ Sound w' ∧ w'.maps = w.maps.insert id m' ∧
      w'.maxInstanceId = w.maxInstanceId ∧ m'.refManager = m.refManager.erase p := by
  obtain ⟨hid, hne, htidy⟩ := h.instances id m hm
  obtain ⟨ptr, hptr⟩ := Option.isSome_iff_exists.1 ((htidy.terrain p).trans hp)
  obtain ⟨grid, hgrid⟩ := Option.isSome_iff_exists.1 hp
  have hpos : 0 < w.holders p.mirror := holders_pos hm (hptr ▸ rfl)
  obtain ⟨b, hremove, htidyb, hbid, hbmaps, hbsame, hbgrids⟩ := removeGridMapReference_eq h hpos
  have hact : w.unloadGrid (.instance id) p u a = some (({ w with
      gridMapReference := Function.update w.gridMapReference p.mirror (w.gridMapReference p.mirror - 1)
      base := b } : MapInstanced).store (.instance id) ((m.deleteGrid p).setGridMap p.mirror none)) := by
    unfold unloadGrid
    rw [show w.find? (.instance id) = some m from hm]
    dsimp only
    rw [if_neg (by simp [hgrid]), if_neg (by simp [hgo]), if_neg (hid ▸ hne), hremove]
    rfl
  have hholders : ∀ g, FiniteMap.count (fun m : Map => (m.gridMaps g).isSome)
      (w.maps.insert id ((m.deleteGrid p).setGridMap p.mirror none)) =
        w.holders g - if g = p.mirror then 1 else 0 := by
    intro g
    have hcount := holders_storeInstance hm ((m.deleteGrid p).setGridMap p.mirror none) g
    change _ + _ = _ + (if (Function.update m.gridMaps p.mirror none g).isSome then 1 else 0) at hcount
    by_cases hg : g = p.mirror
    · subst hg
      rw [Function.update_self, hptr] at hcount
      rw [if_pos rfl]
      exact Nat.eq_sub_of_add_eq hcount
    · rw [Function.update_of_ne hg] at hcount
      rw [if_neg hg]
      exact Nat.add_right_cancel hcount
  refine ⟨_, _, hact, ?_, rfl, rfl, rfl⟩
  refine { h with
    baseId := hbid.trans h.baseId, tidyBase := htidyb, instances := fun id' m₁ h' => ?_,
    shared := fun id' m₁ h' => ?_, owned := ?_, distinct := ?_, counted := fun g => ?_, locked := fun g hg => ?_ }
  · rcases FiniteMap.lookup_insert_cases h' with ⟨rfl, rfl⟩ | ⟨-, h'⟩
    · exact ⟨hid, hne, htidy.deleted⟩
    · exact h.instances id' m₁ h'
  · intro g ptr' hg
    refine (congrFun hbmaps g).trans ?_
    rcases FiniteMap.lookup_insert_cases h' with ⟨rfl, rfl⟩ | ⟨-, h'⟩
    · change Function.update m.gridMaps p.mirror none g = some ptr' at hg
      by_cases hgp : g = p.mirror
      · rw [hgp, Function.update_self] at hg
        cases hg
      · rw [Function.update_of_ne hgp] at hg
        exact h.shared id' m hm g ptr' hg
    · exact h.shared id' m₁ h' g ptr' hg
  · intro g ptr' hg
    exact h.owned g ptr' ((congrFun hbmaps g).symm.trans hg)
  · intro g g' ptr' hg hg'
    exact h.distinct g g' ptr' ((congrFun hbmaps g).symm.trans hg) ((congrFun hbmaps g').symm.trans hg')
  · show (Function.update w.gridMapReference p.mirror _ g).toNat = _
    refine Eq.trans ?_ (hholders g).symm
    by_cases hg : g = p.mirror
    · subst hg
      have hcount := h.counted p.mirror
      rw [Function.update_self, if_pos rfl, UInt16.toNat_sub_of_le, hcount]
      · rfl
      · rw [UInt16.le_iff_toNat_le, hcount]
        exact hpos
    · rw [Function.update_of_ne hg, if_neg hg]
      exact h.counted g
  · replace hg := lt_of_lt_of_eq hg (hholders g)
    show ∃ grid, b.grids g.mirror = some grid ∧ _
    by_cases hgp : g = p.mirror
    · subst hgp
      rw [if_pos rfl] at hg
      rw [hbsame (by omega)]
      exact h.locked p.mirror (by omega)
    · rw [if_neg hgp] at hg
      rw [hbgrids _ fun he => hgp (GridPair.mirror_eq_iff.1 he)]
      exact h.locked g hg

/-! ## Unloading of maps -/

theorem unloadBaseGrids (l : List GridPair) (h : Sound w) (hl : w.base.refManager = l)
    (hfree : ∀ g, w.holders g = 0) :
    ∃ w', l.foldlM (fun w' p => w'.unloadGrid .base p true false) w = some w' ∧ Sound w' ∧ w'.maps = w.maps ∧
      w'.maxInstanceId = w.maxInstanceId := by
  induction l generalizing w with
  | nil => exact ⟨w, rfl, h, rfl, rfl⟩
  | cons p l ih =>
    have hp : (w.base.grids p).isSome := (h.tidyBase.linked p).1 (hl ▸ List.mem_cons_self)
    obtain ⟨w₁, h1, hs, hmaps, hmax, href⟩ := unloadBase_spec h hp (hfree p.mirror) (u := true) (a := false) rfl
    rw [hl, List.erase_cons_head] at href
    obtain ⟨w', h2, hs', hmaps', hmax'⟩ := ih hs href fun g => by
      unfold holders
      rw [hmaps]
      exact hfree g
    exact ⟨w', by rw [List.foldlM_cons, h1]; exact h2, hs', hmaps'.trans hmaps, hmax'.trans hmax⟩

/-- What unloading an instance comes to: it has no grids any more, and the others are as they were. -/
def Emptied (id : UInt32) (w w' : MapInstanced) : Prop :=
  Sound w' ∧ (∃ m, w'.maps.lookup id = some m ∧ m.refManager = []) ∧
    (∀ id', id' ≠ id → w'.maps.lookup id' = w.maps.lookup id') ∧ w'.maxInstanceId = w.maxInstanceId

theorem unloadInstanceGrids (l : List GridPair) (h : Sound w) (hm : w.maps.lookup id = some m)
    (hl : m.refManager = l) :
    ∃ w', l.foldlM (fun w' p => w'.unloadGrid (.instance id) p true false) w = some w' ∧ Emptied id w w' := by
  induction l generalizing w m with
  | nil => exact ⟨w, rfl, h, ⟨m, hm, hl⟩, fun _ _ => rfl, rfl⟩
  | cons p l ih =>
    have hp : (m.grids p).isSome := ((h.instances id m hm).2.2.linked p).1 (hl ▸ List.mem_cons_self)
    obtain ⟨w₁, m₁, h1, hs, hmaps, hmax, href⟩ := unloadInstance_spec h hm hp (u := true) (a := false) rfl
    rw [hl, List.erase_cons_head] at href
    obtain ⟨w', h2, hs', hlast, hothers, hmax'⟩ := ih hs (by rw [hmaps]; exact AList.lookup_insert _) href
    refine ⟨w', by rw [List.foldlM_cons, h1]; exact h2, hs', hlast, fun id' hne => ?_, hmax'.trans hmax⟩
    rw [hothers id' hne, hmaps]
    exact AList.lookup_insert_ne hne

/-- **An instance is unloaded.** -/
theorem unloadAll_spec (h : Sound w) (hm : w.maps.lookup id = some m) :
    ∃ w', w.unloadAll (.instance id) = some w' ∧ Emptied id w w' := by
  unfold unloadAll
  rw [show w.find? (.instance id) = some m from hm]
  exact unloadInstanceGrids m.refManager h hm rfl

theorem unloadAll_base (h : Sound w) (hfree : ∀ g, w.holders g = 0) :
    ∃ w', w.unloadAll .base = some w' ∧ Sound w' ∧ w'.maps = w.maps ∧ w'.maxInstanceId = w.maxInstanceId :=
  unloadBaseGrids w.base.refManager h rfl hfree

theorem Sound.free (h : Sound w) (hempty : ∀ id m, w.maps.lookup id = some m → m.refManager = []) (g : GridPair) :
    w.holders g = 0 := by
  rcases Nat.eq_zero_or_pos (w.holders g) with hzero | hpos
  · exact hzero
  · obtain ⟨id, m, hm, hg⟩ := FiniteMap.exists_of_count_pos _ hpos
    rw [(h.instances id m hm).2.2.empty (hempty id m hm) g] at hg
    cases hg

/-! ## Instances -/

theorem Sound.create (h : Sound w) (hne : id ≠ 0) (hnew : w.maps.lookup id = none) : Sound (w.createMap id) := by
  have hholders : ∀ g, (w.createMap id).holders g = w.holders g := fun g =>
    FiniteMap.count_insert_none (fun m : Map => (m.gridMaps g).isSome) hnew
  refine { h with instances := fun id' m₁ h' => ?_, shared := fun id' m₁ h' => ?_, counted := fun g => ?_,
                  locked := fun g hg => ?_ }
  · rcases FiniteMap.lookup_insert_cases h' with ⟨rfl, rfl⟩ | ⟨-, h'⟩
    · exact ⟨rfl, hne, .new _⟩
    · exact h.instances id' m₁ h'
  · rcases FiniteMap.lookup_insert_cases h' with ⟨rfl, rfl⟩ | ⟨-, h'⟩
    · intro g ptr hg
      cases hg
    · exact h.shared id' m₁ h'
  · rw [hholders]
    exact h.counted g
  · rw [hholders] at hg
    exact h.locked g hg

theorem Sound.createSaved (h : Sound w) (hne : id ≠ 0) : Sound (w.createSaved id) := by
  unfold MapInstanced.createSaved
  split
  · exact h
  · next hnone => exact h.create hne (by simpa using hnone)

theorem Sound.delete (h : Sound w) (hm : w.maps.lookup id = some m) (hempty : m.refManager = []) :
    Sound { w with maps := w.maps.erase id } := by
  have hholders : ∀ g, FiniteMap.count (fun m : Map => (m.gridMaps g).isSome) (w.maps.erase id) = w.holders g := by
    intro g
    unfold holders
    rw [FiniteMap.count_erase _ hm, (h.instances id m hm).2.2.empty hempty g]
    rfl
  refine { h with
    instances := fun id' m₁ h' => h.instances id' m₁ (FiniteMap.lookup_of_erase h').2
    shared := fun id' m₁ h' => h.shared id' m₁ (FiniteMap.lookup_of_erase h').2
    counted := fun g => (h.counted g).trans (hholders g).symm
    locked := fun g hg => h.locked g (lt_of_lt_of_eq hg (hholders g)) }

/-- **The base map is unloaded** only when there is no other instance. -/
theorem unloadBaseWithLast_spec (h : Sound w) (hm : w.maps.lookup id = some m) (hempty : m.refManager = []) :
    ∃ w', w.unloadBaseWithLast = some w' ∧ Sound w' ∧ w'.maps = w.maps := by
  unfold unloadBaseWithLast
  split
  · next hlast =>
    have hone : w.maps.keys.length ≤ 1 := by simpa using (Bool.and_eq_true_iff.1 hlast).1
    have hin : ∀ k m, w.maps.lookup k = some m → k ∈ w.maps.keys := fun k m hk => AList.lookup_isSome.1 (hk ▸ rfl)
    have honly : ∀ id' m', w.maps.lookup id' = some m' → m'.refManager = [] := by
      intro id' m' h'
      obtain ⟨k, hk⟩ := List.length_eq_one_iff.1 (Nat.le_antisymm hone (List.length_pos_of_mem (hin id m hm)))
      have h1 := hin id' m' h'
      have h2 := hin id m hm
      rw [hk, List.mem_singleton] at h1 h2
      rw [h1, ← h2, hm] at h'
      cases h'
      exact hempty
    obtain ⟨w', h', hs', hmaps, -⟩ := unloadAll_base h (h.free honly)
    exact ⟨w', h', hs', hmaps⟩
  · exact ⟨w, rfl, h, rfl⟩

/-- **An instance is destroyed.** -/
theorem destroyInstance_spec (h : Sound w) (id : UInt32) (havePlayers : Bool) :
    ∃ w', w.destroyInstance id havePlayers = some w' ∧ Sound w' := by
  unfold destroyInstance
  split
  · exact ⟨w, rfl, h⟩
  · next hgo =>
    obtain ⟨m, hm⟩ : ∃ m, w.maps.lookup id = some m := by
      rw [← Option.isSome_iff_exists]
      cases hl : w.maps.lookup id with
      | none => exact absurd (by simp [hl]) hgo
      | some m => rfl
    obtain ⟨w₁, h1, hs₁, ⟨m₁, hm₁, hempty₁⟩, -, -⟩ := unloadAll_spec h hm
    obtain ⟨w₂, h2, hs₂, hmaps⟩ := unloadBaseWithLast_spec hs₁ hm₁ hempty₁
    have hm₂ : w₂.maps.lookup id = some m₁ := by rw [hmaps]; exact hm₁
    obtain ⟨w₃, h3, hs₃, ⟨m₃, hm₃, hempty₃⟩, -, -⟩ := unloadAll_spec hs₂ hm₂
    refine ⟨_, ?_, hs₃.delete hm₃ hempty₃⟩
    exact Option.bind_eq_some_iff.2 ⟨w₁, h1, Option.bind_eq_some_iff.2 ⟨w₂, h2, Option.bind_eq_some_iff.2 ⟨w₃, h3, rfl⟩⟩⟩

theorem unloadInstances (l : List UInt32) (done : UInt32 → Prop) (h : Sound w) (hl : ∀ id ∈ l, (w.maps.lookup id).isSome)
    (hdone : ∀ id m, w.maps.lookup id = some m → done id → m.refManager = []) :
    ∃ w', l.foldlM (fun w id => w.unloadAll (.instance id)) w = some w' ∧ Sound w' ∧
      (∀ id m, w'.maps.lookup id = some m → done id ∨ id ∈ l → m.refManager = []) ∧
      ∀ id, (w'.maps.lookup id).isSome = (w.maps.lookup id).isSome := by
  induction l generalizing w done with
  | nil => exact ⟨w, rfl, h, fun id m hm hd => hdone id m hm (hd.resolve_right List.not_mem_nil), fun _ => rfl⟩
  | cons k l ih =>
    obtain ⟨m, hm⟩ := Option.isSome_iff_exists.1 (hl k List.mem_cons_self)
    obtain ⟨w₁, h1, hs₁, ⟨m₁, hm₁, hempty₁⟩, hothers, -⟩ := unloadAll_spec h hm
    have hkeys : ∀ id, (w₁.maps.lookup id).isSome = (w.maps.lookup id).isSome := by
      intro id
      by_cases hid : id = k
      · subst hid
        rw [hm₁, hm]
        rfl
      · rw [hothers id hid]
    obtain ⟨w', h2, hs', hall, hkeys'⟩ := ih (fun id => done id ∨ id = k) hs₁
      (fun id hid => (hkeys id).trans (hl id (List.mem_cons_of_mem _ hid))) fun id m' hm' hd => by
        by_cases hid : id = k
        · subst hid
          rw [hm₁] at hm'
          cases hm'
          exact hempty₁
        · rw [hothers id hid] at hm'
          exact hdone id m' hm' (hd.resolve_right hid)
    refine ⟨w', by rw [List.foldlM_cons, h1]; exact h2, hs', fun id m' hm' hd => hall id m' hm' ?_, fun id => ?_⟩
    · rw [List.mem_cons] at hd
      tauto
    · rw [hkeys', hkeys]

/-- **All maps are unloaded.** -/
theorem unloadMaps_spec (h : Sound w) : ∃ w', w.unloadMaps = some w' ∧ Sound w' := by
  have hkeys : ∀ (v : MapInstanced) id, id ∈ v.maps.keys → (v.maps.lookup id).isSome := fun v id hid =>
    AList.lookup_isSome.2 hid
  obtain ⟨w₁, h1, hs₁, -, -⟩ := unloadInstances w.maps.keys (fun _ => False) h (hkeys w) fun _ _ _ hd => hd.elim
  obtain ⟨w₂, h2, hs₂, hall, hsame⟩ :=
    unloadInstances w₁.maps.keys (fun _ => False) hs₁ (hkeys w₁) fun _ _ _ hd => hd.elim
  have hempty : ∀ id m, w₂.maps.lookup id = some m → m.refManager = [] := fun id m hm =>
    hall id m hm (Or.inr (AList.lookup_isSome.1 (by rw [← hsame, hm]; rfl)))
  have hcleared : Sound { w₂ with maps := ∅ } :=
    { hs₂ with
      instances := fun id m hm => by simp at hm
      shared := fun id m hm => by simp at hm
      counted := fun g => (hs₂.counted g).trans (hs₂.free hempty g)
      locked := fun g hg => absurd hg (Nat.lt_irrefl 0) }
  obtain ⟨w₃, h3, hs₃, -, -⟩ := unloadAll_base hcleared fun g => rfl
  exact ⟨w₃, Option.bind_eq_some_iff.2 ⟨w₁, h1, Option.bind_eq_some_iff.2 ⟨w₂, h2, h3⟩⟩, hs₃⟩

/-! ## Steps -/

/-- What is required of a creation: the number of a new instance is not 0 and not in use. -/
def FreshId (w : MapInstanced) (id : UInt32) : Prop := id ≠ 0 ∧ w.maps.lookup id = none

/-- The reference that an instance takes when it creates a grid is at most the 65535th. -/
def RoomFor (w : MapInstanced) (p : GridPair) : Target → Prop
  | .base => True
  | .instance id => ∀ m, w.maps.lookup id = some m → m.grids p = none → w.holders p.mirror < 65535

/-- A step that overflows no counter. -/
def Fits (w : MapInstanced) : Act → Prop
  | .createSaved id => id ≠ 0
  | .createNew => w.FreshId (w.maxInstanceId + 1)
  | .ensureGridCreated t p => w.RoomFor p t
  | .ensureGridLoadedAtEnter t p => w.RoomFor p t
  | _ => True

theorem ensureGridCreated_spec (h : Sound w) (t : Target) (p : GridPair) (hfits : w.RoomFor p t) :
    ∃ w', w.ensureGridCreated t p = some w' ∧ Sound w' := by
  cases t with
  | base =>
    refine ⟨w.ensureBaseGridCreated p, ?_, (ensureBase_spec h p).1⟩
    unfold ensureGridCreated ensureBaseGridCreated find?
    dsimp only
    split
    · rfl
    · split
      · rfl
      · unfold loadMap
        rw [if_neg (show ¬ (w.base.createGrid w.gridUnload p).instanceId ≠ 0 from fun hne => hne h.baseId)]
        rfl
  | «instance» id =>
    cases hm : w.maps.lookup id with
    | none =>
      refine ⟨w, ?_, h⟩
      unfold ensureGridCreated
      rw [show w.find? (.instance id) = none from hm]
    | some m =>
      cases hp : m.grids p with
      | some grid =>
        refine ⟨w, ?_, h⟩
        unfold ensureGridCreated
        rw [show w.find? (.instance id) = some m from hm]
        simp [hp]
      | none =>
        obtain ⟨w', h', hs', -⟩ := ensureInstance_spec h hm hp
        exact ⟨w', h', hs' (hfits m hm hp)⟩

theorem updateGrid_spec (h : Sound w) (t : Target) (p : GridPair) (passed activeIn activeNear : Bool) :
    ∃ w', w.updateGrid t p passed activeIn activeNear = some w' ∧ Sound w' := by
  unfold updateGrid
  split
  · exact ⟨w, rfl, h⟩
  · next m hm =>
    split
    · exact ⟨w, rfl, h⟩
    · next grid hgrid =>
      have hstate : ∀ st, Sound (w.store t (m.modifyGrid p fun grid => { grid with gridState := st })) := fun st =>
        h.modify hm _ fun _ => rfl
      dsimp only
      split
      · exact ⟨w, rfl, h⟩
      · split
        · exact ⟨_, rfl, hstate .idle⟩
        · exact ⟨w, rfl, h⟩
      · exact ⟨_, rfl, hstate .removal⟩
      · split
        · next hgo =>
          have hunlocked : grid.getUnloadLock = false := by simpa using (Bool.and_eq_true_iff.1 hgo).1
          have hp : (m.grids p).isSome := hgrid ▸ rfl
          cases hnear : (!false && activeNear) with
          | true =>
            refine ⟨w, ?_, h⟩
            unfold unloadGrid
            rw [hm]
            dsimp only
            rw [if_neg (by simp [hgrid]), if_pos hnear]
          | false =>
            cases t with
            | base =>
              cases hm
              -- a grid without lock is held by nobody
              have hfree : w.holders p.mirror = 0 := by
                rcases Nat.eq_zero_or_pos (w.holders p.mirror) with hzero | hpos
                · exact hzero
                · obtain ⟨grid', hgrid', hlock⟩ := h.locked p.mirror hpos
                  rw [GridPair.mirror_mirror, hgrid] at hgrid'
                  cases hgrid'
                  unfold NGrid.getUnloadLock at hunlocked
                  rw [hlock, Bool.or_true] at hunlocked
                  cases hunlocked
              obtain ⟨w', h', hs', -⟩ := unloadBase_spec h hp hfree hnear
              exact ⟨w', h', hs'⟩
            | «instance» id =>
              obtain ⟨w', -, h', hs', -⟩ := unloadInstance_spec h hm hp hnear
              exact ⟨w', h', hs'⟩
        · exact ⟨w, rfl, h⟩

/-- **A step that fits** does not fail, and leaves references as they should be. -/
theorem act_spec (h : Sound w) (a : Act) (hfits : w.Fits a) : ∃ w', w.act a = some w' ∧ Sound w' := by
  cases a with
  | createSaved id => exact ⟨_, rfl, h.createSaved hfits⟩
  | createNew =>
    have hs : Sound { w with maxInstanceId := w.maxInstanceId + 1 } := { h with }
    exact ⟨_, rfl, hs.create hfits.1 hfits.2⟩
  | createBattleGround id =>
    refine ⟨_, rfl, ?_⟩
    unfold createBattleGround
    split
    · exact h
    · next hne => exact h.createSaved hne
  | ensureGridCreated t p => exact ensureGridCreated_spec h t p hfits
  | ensureGridLoadedAtEnter t p =>
    obtain ⟨w', h', hs'⟩ := ensureGridCreated_spec h t p hfits
    refine ⟨_, by rw [act, ensureGridLoadedAtEnter, h']; rfl, ?_⟩
    dsimp only
    split
    · exact hs'
    · next m hm => exact hs'.modify hm _ fun _ => rfl
  | updateGrid t p passed activeIn activeNear => exact updateGrid_spec h t p passed activeIn activeNear
  | activeLock t p inc =>
    refine ⟨_, rfl, ?_⟩
    unfold activeLock
    split
    · exact h
    · next m hm => exact h.modify hm _ fun _ => rfl
  | destroyInstance id havePlayers => exact destroyInstance_spec h id havePlayers
  | unloadAll => exact unloadMaps_spec h

/-! ## Runs -/

/-- A step of a run, that fails at most once. -/
def step (w : Option MapInstanced) (a : Act) : Option MapInstanced := w.bind fun w => w.act a

/-- Every step so far fits. -/
def StepFits (w : Option MapInstanced) (a : Act) : Prop := ∀ w', w = some w' → w'.Fits a

/-- Grid maps are shared, counted and kept. -/
structure Referenced (w : MapInstanced) : Prop where
  shared : ∀ id m, w.maps.lookup id = some m → ∀ g ptr, m.gridMaps g = some ptr →
    w.base.gridMaps g = some ptr ∧ ptr ∈ w.live
  counted : ∀ g, (w.gridMapReference g).toNat = w.holders g
  loaded : ∀ g, 0 < w.holders g → (w.base.grids g.mirror).isSome
  kept : ∀ e ∈ w.unloads, e.2 = 0

theorem Sound.referenced (h : Sound w) : Referenced w where
  shared id m hm g ptr hg := ⟨h.shared id m hm g ptr hg, h.owned g ptr (h.shared id m hm g ptr hg)⟩
  counted := h.counted
  loaded g hg := by
    obtain ⟨grid, hgrid, -⟩ := h.locked g hg
    rw [hgrid]
    rfl
  kept := h.kept

/-- A base map that is new. -/
def start (gridUnload : Bool) (maxInstanceId : UInt32) : MapInstanced :=
  { gridUnload := gridUnload, maxInstanceId := maxInstanceId }

theorem Sound.start (gridUnload : Bool) (maxInstanceId : UInt32) : Sound (start gridUnload maxInstanceId) where
  baseId := rfl
  tidyBase := .new 0
  instances id m hm := by simp [MapInstanced.start] at hm
  shared id m hm := by simp [MapInstanced.start] at hm
  owned g ptr hg := by cases hg
  fresh ptr hptr := by cases hptr
  distinct g g' ptr hg := by cases hg
  counted g := rfl
  locked g hg := absurd hg (Nat.lt_irrefl 0)
  kept e he := by cases he

theorem run_sound (gridUnload : Bool) (maxInstanceId : UInt32) (as : List Act)
    (hfits : Transition.Along step StepFits (some (MapInstanced.start gridUnload maxInstanceId)) as) :
    ∃ w, Transition.run step (some (MapInstanced.start gridUnload maxInstanceId)) as = some w ∧ Sound w :=
  Transition.run_invariant (I := fun o : Option MapInstanced => ∃ w, o = some w ∧ Sound w)
    (fun o a ho hg => by
      obtain ⟨w, rfl, h⟩ := ho
      exact act_spec h a (hg w rfl))
    ⟨_, rfl, .start gridUnload maxInstanceId⟩ hfits

/-- **References are counted**, and base grids kept, in every run in which no step overflows a counter. -/
theorem terrain_referenced (gridUnload : Bool) (maxInstanceId : UInt32) (as : List Act)
    (hfits : Transition.Along step StepFits (some (MapInstanced.start gridUnload maxInstanceId)) as) :
    ∃ w, Transition.run step (some (MapInstanced.start gridUnload maxInstanceId)) as = some w ∧ Referenced w := by
  obtain ⟨w, hw, h⟩ := run_sound gridUnload maxInstanceId as hfits
  exact ⟨w, hw, h.referenced⟩

/-- An instance creates a grid, and is destroyed. -/
theorem terrain_referenced_destroyed :
    ∃ w, Transition.run step (some (MapInstanced.start true 0))
      [.createNew, .ensureGridCreated (.instance 1) ⟨31, 31⟩, .destroyInstance 1 false] = some w ∧ Referenced w :=
  terrain_referenced true 0 [.createNew, .ensureGridCreated (.instance 1) ⟨31, 31⟩, .destroyInstance 1 false]
    ⟨fun _ h => by cases h; exact ⟨by decide, rfl⟩,
      fun _ h => by cases h; exact fun _ _ _ => by decide,
      fun _ _ => trivial, trivial⟩

/-! ## Too many instances -/

/-- Instances are created one by one, and each creates the grid `(31, 31)`. -/
def crowd : Nat → List Act
  | 0 => []
  | n + 1 => crowd n ++ [.createNew, .ensureGridCreated (.instance (UInt32.ofNat (n + 1))) ⟨31, 31⟩]

theorem crowd_step (h : Sound w) {n : Nat} (hn : n < 65536) (hmax : w.maxInstanceId = UInt32.ofNat n)
    (hids : ∀ id m, w.maps.lookup id = some m → id.toNat ≤ n) :
    ∃ w', Transition.run step (some w) [.createNew, .ensureGridCreated (.instance (UInt32.ofNat (n + 1))) ⟨31, 31⟩] =
        some w' ∧ (w.holders ⟨32, 32⟩ < 65535 → Sound w') ∧ w'.maxInstanceId = UInt32.ofNat (n + 1) ∧
      (∀ id m, w'.maps.lookup id = some m → id.toNat ≤ n + 1) ∧ w'.holders ⟨32, 32⟩ = w.holders ⟨32, 32⟩ + 1 ∧
      w'.gridMapReference ⟨32, 32⟩ = w.gridMapReference ⟨32, 32⟩ + 1 := by
  have hid : w.maxInstanceId + 1 = UInt32.ofNat (n + 1) := by rw [hmax, UInt32.ofNat_add]; rfl
  have hnat : (UInt32.ofNat (n + 1)).toNat = n + 1 := UInt32.toNat_ofNat_of_lt' (show n + 1 < 4294967296 by omega)
  have hne : UInt32.ofNat (n + 1) ≠ 0 := by
    intro he
    rw [he] at hnat
    exact absurd hnat (Nat.succ_ne_zero n).symm
  have hnew : w.maps.lookup (UInt32.ofNat (n + 1)) = none := by
    cases hl : w.maps.lookup (UInt32.ofNat (n + 1)) with
    | none => rfl
    | some m =>
      have := hids _ m hl
      omega
  have hs₁ : Sound (createMap { w with maxInstanceId := w.maxInstanceId + 1 } (UInt32.ofNat (n + 1))) :=
    Sound.create { h with } hne hnew
  obtain ⟨w', h', hs', hothers, hmax', hholders, hrefs⟩ :=
    ensureInstance_spec hs₁ (p := ⟨31, 31⟩) (AList.lookup_insert _) rfl
  have hcreated : ∀ g, (createMap { w with maxInstanceId := w.maxInstanceId + 1 } (UInt32.ofNat (n + 1))).holders g =
      w.holders g := fun g => FiniteMap.count_insert_none (fun m : Map => (m.gridMaps g).isSome) hnew
  rw [hcreated] at hs' hholders
  refine ⟨w', ?_, hs', hmax'.trans hid, fun id m hm => ?_, hholders, hrefs⟩
  · show (some (createMap { w with maxInstanceId := w.maxInstanceId + 1 } (w.maxInstanceId + 1))).bind
      (fun v => v.ensureGridCreated _ _) = _
    rw [hid]
    rw [hid] at h'
    exact h'
  · by_cases he : id = UInt32.ofNat (n + 1)
    · rw [he, hnat]
    · rw [hothers id he] at hm
      have := hids id m ((AList.lookup_insert_ne he).symm.trans hm)
      omega

theorem crowd_run (n : Nat) (hn : n ≤ 65535) :
    ∃ w, Transition.run step (some (MapInstanced.start true 0)) (crowd n) = some w ∧ Sound w ∧
      w.maxInstanceId = UInt32.ofNat n ∧ (∀ id m, w.maps.lookup id = some m → id.toNat ≤ n) ∧
      w.holders ⟨32, 32⟩ = n := by
  induction n with
  | zero => exact ⟨_, rfl, .start true 0, rfl, fun id m hm => by simp [MapInstanced.start] at hm, rfl⟩
  | succ n ih =>
    obtain ⟨w, hw, h, hmax, hids, hholders⟩ := ih (by omega)
    obtain ⟨w', hw', hs', hmax', hids', hholders', -⟩ := crowd_step h (by omega) hmax hids
    refine ⟨w', ?_, hs' (by omega), hmax', hids', by omega⟩
    rw [crowd, Transition.run_append, hw]
    exact hw'

/-- **65536 instances hold one grid map**, and the base map counts none. -/
theorem crowd_uncounted : ¬ ∀ gridUnload maxInstanceId as,
    ∃ w, Transition.run step (some (MapInstanced.start gridUnload maxInstanceId)) as = some w ∧ Referenced w := by
  intro hall
  obtain ⟨w, hw, h, hmax, hids, hholders⟩ := crowd_run 65535 (by omega)
  obtain ⟨w', hw', -, -, -, hholders', hrefs⟩ := crowd_step h (by omega) hmax hids
  obtain ⟨w₁, h₁, hrefd⟩ := hall true 0 (crowd 65536)
  rw [crowd, Transition.run_append, hw, hw'] at h₁
  cases h₁
  have hcount := hrefd.counted ⟨32, 32⟩
  have hbefore := h.counted ⟨32, 32⟩
  rw [hrefs, UInt16.toNat_add, hbefore, hholders', hholders] at hcount
  exact absurd hcount (by decide)

end MapInstanced

end BlizzLike.GridMaps
