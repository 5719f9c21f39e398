import BlizzLikeCore.Lib.Transition
import BlizzLikeCore.Maps.CreatureMoves

/-!
# Every creature in the container of its cell

A creature in the world is linked in the cell of its position, and what is on the list of moves is in the world
(`Sound`).  `Remove` takes nothing off the list, and a grid that is unloaded leaves world objects without a
container: runs without these are sound.

    cellRelocation_spec : a move relinks the creature, or leaves the map as it is
    moveOne_spec        : a turn of the loop over the moves
    unloadGrid_spec     : a grid is unloaded
    creatures_placed    : creatures are where they should be in every run that fits
-/

namespace BlizzLike.CreatureCells

namespace Map

variable {Pos : Type} {d : MapData Pos}

/-! ## The invariant -/

/-- Creatures are linked where they are, and those to be moved are in the world. -/
structure Sound (d : MapData Pos) (m : Map Pos) : Prop where
  placed : ∀ id c, m.creatures id = some c → c.inWorld = true →
    (d.computeCellPair c.position).inside = true ∧ c.currentCell = cellAt d c.position ∧ c.link = some c.currentCell
  linked : ∀ id c cell, m.creatures id = some c → c.link = some cell →
    c.currentCell = cell ∧ (m.grids cell.grid).isSome = true
  respawn : ∀ id c pos, m.creatures id = some c → c.respawn = some pos → (d.computeCellPair pos).inside = true
  fresh : ∀ id c, m.creatures id = some c → id < m.next
  moving : ∀ e ∈ m.creaturesToMove, (∃ c, m.creatures e.1 = some c ∧ c.inWorld = true) ∧
    (d.computeCellPair e.2).inside = true
  keys : (m.creaturesToMove.map Prod.fst).Nodup
  removing : ∀ id ∈ m.objectsToRemove, ∃ c, m.creatures id = some c ∧ c.inWorld = false
  removingNodup : m.objectsToRemove.Nodup

/-- No world object is in a grid, nor on the way there. -/
def Clear (d : MapData Pos) (g : GridPair) (m : Map Pos) : Prop :=
  ∀ id c, m.creatures id = some c → c.worldObject = true → c.inWorld = true →
    c.currentCell.grid ≠ g ∧ (∀ pos, c.respawn = some pos → (cellAt d pos).grid ≠ g) ∧
      ∀ e ∈ m.creaturesToMove, e.1 = id → (cellAt d e.2).grid ≠ g

variable {m m' : Map Pos} {id : Nat} {c : Creature Pos} {g : GridPair}

/-! ## One creature changes -/

theorem modify_self (f : Creature Pos → Creature Pos) (hc : m.creatures id = some c) :
    (m.modify id f).creatures id = some (f c) := by
  show Function.update m.creatures id _ id = _
  rw [Function.update_self, hc]
  rfl

theorem modify_other (f : Creature Pos → Creature Pos) {id' : Nat} (hne : id' ≠ id) :
    (m.modify id f).creatures id' = m.creatures id' := Function.update_of_ne hne _ _

theorem modify_modify (f f' : Creature Pos → Creature Pos) : (m.modify id f).modify id f' = m.modify id (f' ∘ f) := by
  unfold modify
  simp

theorem modify_cases (f : Creature Pos → Creature Pos) (hc : m.creatures id = some c) {id' : Nat} {c' : Creature Pos}
    (h : (m.modify id f).creatures id' = some c') : id' = id ∧ c' = f c ∨ id' ≠ id ∧ m.creatures id' = some c' := by
  by_cases hne : id' = id
  · subst hne
    rw [modify_self f hc] at h
    exact Or.inl ⟨rfl, (Option.some.inj h).symm⟩
  · rw [modify_other f hne] at h
    exact Or.inr ⟨hne, h⟩

/-- A creature that has come to a place. -/
def settle (d : MapData Pos) (pos : Pos) (c : Creature Pos) : Creature Pos :=
  { c with position := pos, currentCell := cellAt d pos, link := some (cellAt d pos) }

/-- **A creature is settled** in a cell whose grid is there. -/
theorem Sound.settle (h : Sound d m) (hc : m.creatures id = some c) {pos : Pos}
    (hpos : c.inWorld = true → (d.computeCellPair pos).inside = true)
    (hgrid : (m.grids (cellAt d pos).grid).isSome = true) : Sound d (m.modify id (Map.settle d pos)) where
  placed id' c' h' hw := by
    rcases modify_cases _ hc h' with ⟨rfl, rfl⟩ | ⟨-, h'⟩
    · exact ⟨hpos hw, rfl, rfl⟩
    · exact h.placed id' c' h' hw
  linked id' c' cell h' hl := by
    rcases modify_cases _ hc h' with ⟨rfl, rfl⟩ | ⟨-, h'⟩
    · cases hl
      exact ⟨rfl, hgrid⟩
    · exact h.linked id' c' cell h' hl
  respawn id' c' p h' hp := by
    rcases modify_cases _ hc h' with ⟨rfl, rfl⟩ | ⟨-, h'⟩
    · exact h.respawn id' c p hc hp
    · exact h.respawn id' c' p h' hp
  fresh id' c' h' := by
    rcases modify_cases _ hc h' with ⟨rfl, rfl⟩ | ⟨-, h'⟩
    · exact h.fresh id' c hc
    · exact h.fresh id' c' h'
  moving e he := by
    obtain ⟨⟨c', hc', hw⟩, hin⟩ := h.moving e he
    refine ⟨?_, hin⟩
    by_cases hne : e.1 = id
    · rw [hne, hc] at hc'
      cases hc'
      rw [hne]
      exact ⟨_, modify_self _ hc, hw⟩
    · exact ⟨c', by rw [modify_other _ hne]; exact hc', hw⟩
  keys := h.keys
  removing id' h' := by
    obtain ⟨c', hc', hw⟩ := h.removing id' h'
    by_cases hne : id' = id
    · rw [hne, hc] at hc'
      cases hc'
      rw [hne]
      exact ⟨_, modify_self _ hc, hw⟩
    · exact ⟨c', by rw [modify_other _ hne]; exact hc', hw⟩
  removingNodup := h.removingNodup

theorem Clear.settle (h : Clear d g m) (hc : m.creatures id = some c) {pos : Pos}
    (hpos : c.worldObject = true → c.inWorld = true → (cellAt d pos).grid ≠ g) :
    Clear d g (m.modify id (Map.settle d pos)) := by
  intro id' c' h' hwo hw
  rcases modify_cases _ hc h' with ⟨rfl, rfl⟩ | ⟨-, h'⟩
  · exact ⟨hpos hwo hw, (h id' c hc hwo hw).2⟩
  · exact h id' c' h' hwo hw

/-! ## Grids are loaded -/

/-- A map that has come to have more grids, and more creatures that are grid objects. -/
structure Grown (m m' : Map Pos) : Prop where
  creatures : ∀ id c, m.creatures id = some c → m'.creatures id = some c
  new : ∀ id c, m'.creatures id = some c → m.creatures id = some c ∨ c.worldObject = false
  grids : ∀ g, (m.grids g).isSome = true → (m'.grids g).isSome = true
  creaturesToMove : m'.creaturesToMove = m.creaturesToMove
  objectsToRemove : m'.objectsToRemove = m.objectsToRemove

theorem Grown.refl (m : Map Pos) : Grown m m := ⟨fun _ _ h => h, fun _ _ h => Or.inl h, fun _ h => h, rfl, rfl⟩

theorem Grown.trans {m'' : Map Pos} (h : Grown m m') (h' : Grown m' m'') : Grown m m'' where
  creatures id c hc := h'.creatures id c (h.creatures id c hc)
  new id c hc := by
    rcases h'.new id c hc with hc | hc
    · exact h.new id c hc
    · exact Or.inr hc
  grids g hg := h'.grids g (h.grids g hg)
  creaturesToMove := h'.creaturesToMove.trans h.creaturesToMove
  objectsToRemove := h'.objectsToRemove.trans h.objectsToRemove

theorem Clear.grown (h : Clear d g m) (hg : Grown m m') : Clear d g m' := by
  intro id c hc hwo hw
  rcases hg.new id c hc with hc | hc
  · rw [hg.creaturesToMove]
    exact h id c hc hwo hw
  · rw [hc] at hwo
    cases hwo

theorem Sound.grids (h : Sound d m) (b : Bool) (g : GridPair) :
    Sound d { m with grids := Function.update m.grids g (some b) } ∧
      Grown m { m with grids := Function.update m.grids g (some b) } := by
  have hmono : ∀ g', (m.grids g').isSome = true → (Function.update m.grids g (some b) g').isSome = true := by
    intro g' hg'
    by_cases hne : g' = g
    · rw [hne, Function.update_self]
      rfl
    · rwa [Function.update_of_ne hne]
  exact ⟨{ h with linked := fun id c cell hc hl => ⟨(h.linked id c cell hc hl).1, hmono _ (h.linked id c cell hc hl).2⟩ },
    ⟨fun _ _ hc => hc, fun _ _ hc => Or.inl hc, hmono, rfl, rfl⟩⟩

theorem ensureGridCreated_spec (h : Sound d m) (g : GridPair) :
    Sound d (m.ensureGridCreated g) ∧ Grown m (m.ensureGridCreated g) ∧
      ((m.ensureGridCreated g).grids g).isSome = true := by
  unfold ensureGridCreated
  split
  · next hsome => exact ⟨h, .refl m, hsome⟩
  · refine ⟨(h.grids false g).1, (h.grids false g).2, ?_⟩
    show (Function.update m.grids g (some false) g).isSome = true
    rw [Function.update_self]
    rfl

theorem Sound.load (h : Sound d m) {s : Spawn Pos} (hs : s ∈ d.spawns)
    (hgrid : (m.grids (cellAt d s.position).grid).isSome = true) :
    Sound d (m.loadCreature d s) ∧ Grown m (m.loadCreature d s) := by
  have hnew : ∀ id c, m.creatures id = some c → id ≠ m.next := fun id c hc he => by
    have := h.fresh id c hc
    omega
  have hold : ∀ id c, m.creatures id = some c → (m.loadCreature d s).creatures id = some c := fun id c hc =>
    (Function.update_of_ne (hnew id c hc) _ _).trans hc
  have hcases : ∀ id c, (m.loadCreature d s).creatures id = some c → m.creatures id = some c ∨
      id = m.next ∧ c = spawned d s := by
    intro id c hc
    change Function.update m.creatures m.next _ id = some c at hc
    by_cases hne : id = m.next
    · subst hne
      rw [Function.update_self] at hc
      exact Or.inr ⟨rfl, (Option.some.inj hc).symm⟩
    · rw [Function.update_of_ne hne] at hc
      exact Or.inl hc
  refine ⟨{ h with
    placed := fun id c hc hw => ?_, linked := fun id c cell hc hl => ?_, respawn := fun id c pos hc hp => ?_
    fresh := fun id c hc => ?_, moving := fun e he => ?_, removing := fun id hid => ?_ },
    ⟨hold, fun id c hc => ?_, fun _ hg => hg, rfl, rfl⟩⟩
  · rcases hcases id c hc with hc | ⟨-, rfl⟩
    · exact h.placed id c hc hw
    · exact ⟨d.spawns_inside s hs, rfl, rfl⟩
  · rcases hcases id c hc with hc | ⟨-, rfl⟩
    · exact h.linked id c cell hc hl
    · cases hl
      exact ⟨rfl, hgrid⟩
  · rcases hcases id c hc with hc | ⟨-, rfl⟩
    · exact h.respawn id c pos hc hp
    · cases hp
      exact d.spawns_inside s hs
  · show id < m.next + 1
    rcases hcases id c hc with hc | ⟨rfl, -⟩
    · have := h.fresh id c hc
      omega
    · omega
  · obtain ⟨⟨c, hc, hw⟩, hin⟩ := h.moving e he
    exact ⟨⟨c, hold _ c hc, hw⟩, hin⟩
  · obtain ⟨c, hc, hw⟩ := h.removing id hid
    exact ⟨c, hold _ c hc, hw⟩
  · rcases hcases id c hc with hc | ⟨-, rfl⟩
    · exact Or.inl hc
    · exact Or.inr rfl

theorem Sound.loadAll (l : List (Spawn Pos)) (h : Sound d m) (hl : ∀ s ∈ l, s ∈ d.spawns)
    (hgrid : ∀ s ∈ l, (m.grids (cellAt d s.position).grid).isSome = true) :
    Sound d (l.foldl (fun m s => m.loadCreature d s) m) ∧ Grown m (l.foldl (fun m s => m.loadCreature d s) m) := by
  induction l generalizing m with
  | nil => exact ⟨h, .refl m⟩
  | cons s l ih =>
    obtain ⟨h1, g1⟩ := h.load (hl s List.mem_cons_self) (hgrid s List.mem_cons_self)
    obtain ⟨h2, g2⟩ := ih h1 (fun s hs => hl s (List.mem_cons_of_mem _ hs))
      fun s hs => g1.grids _ (hgrid s (List.mem_cons_of_mem _ hs))
    exact ⟨h2, g1.trans g2⟩

/-- **A grid is loaded.** -/
theorem ensureGridLoaded_spec (h : Sound d m) (g : GridPair) :
    Sound d (m.ensureGridLoaded d g) ∧ Grown m (m.ensureGridLoaded d g) ∧
      ((m.ensureGridLoaded d g).grids g).isSome = true := by
  obtain ⟨h1, g1, hg1⟩ := ensureGridCreated_spec h g
  unfold ensureGridLoaded
  dsimp only
  split
  · exact ⟨h1, g1, hg1⟩
  · obtain ⟨h2, g2⟩ := h1.grids true g
    have hthere : (Function.update (m.ensureGridCreated g).grids g (some true) g).isSome = true := by
      rw [Function.update_self]
      rfl
    obtain ⟨h3, g3⟩ := h2.loadAll (d.spawns.filter fun s => (cellAt d s.position).grid == g)
      (fun s hs => (List.mem_filter.1 hs).1) fun s hs => by
        have hsg : (cellAt d s.position).grid = g := by simpa using (List.mem_filter.1 hs).2
        rw [hsg]
        exact hthere
    exact ⟨h3, (g1.trans g2).trans g3, g3.grids g hthere⟩

/-! ## Moves -/

variable (id) in
/-- The creature is unlinked from one grid and linked in a cell of another, or the same. -/
theorem relink_eq {old new : Cell} (hold : (m.grids old.grid).isSome = true) (hnew : (m.grids new.grid).isSome = true) :
    (m.removeFromGrid id old.grid).bind (fun m => m.addToGrid id new) =
      some (m.modify id fun c => { c with link := some new, currentCell := new }) := by
  unfold removeFromGrid
  rw [if_neg (by simp [Option.isSome_iff_ne_none.1 hold])]
  show (m.modify id fun c => { c with link := none }).addToGrid id new = _
  refine (if_neg (show ¬ (m.grids new.grid).isNone = true by simp [Option.isSome_iff_ne_none.1 hnew])).trans ?_
  rw [modify_modify]
  rfl

/-- **A move to a cell** relinks the creature, in a map that may have grown, or fails and changes nothing. -/
theorem cellRelocation_spec (h : Sound d m) (hc : m.creatures id = some c) (hl : c.link = some c.currentCell)
    (pos : Pos) :
    m.creatureCellRelocation d id (cellAt d pos) = some (m, false) ∨
      ∃ m₁ m₂, m.creatureCellRelocation d id (cellAt d pos) = some (m₁, true) ∧ Sound d m₂ ∧ Grown m m₂ ∧
        (m₂.grids (cellAt d pos).grid).isSome = true ∧ m₁.relocate id pos = m₂.modify id (Map.settle d pos) := by
  have hgrid := (h.linked id c c.currentCell hc hl).2
  -- relinked in a grown map
  have hdone : ∀ m₂ : Map Pos, (m₂.modify id fun c => { c with link := some (cellAt d pos), currentCell := cellAt d pos }).relocate
      id pos = m₂.modify id (Map.settle d pos) := fun m₂ => modify_modify _ _
  unfold creatureCellRelocation
  rw [hc]
  dsimp only
  split
  · next hsame =>
    have hnew : (m.grids (cellAt d pos).grid).isSome = true := by
      rw [← Cell.diffGrid_eq_false.1 hsame]
      exact hgrid
    split
    · rw [relink_eq id hgrid hnew]
      exact Or.inr ⟨_, m, rfl, h, .refl m, hnew, hdone m⟩
    · next hcell =>
      -- the creature stays in its cell
      have heq := Cell.eq_of_not_diff (by simpa using hcell) hsame
      refine Or.inr ⟨m, m, rfl, h, .refl m, hnew, ?_⟩
      unfold relocate modify
      rw [hc]
      obtain ⟨pos₀, cell₀, link₀, inWorld₀, active₀, wo₀, resp₀⟩ := c
      dsimp only at hl heq
      subst hl heq
      rfl
  · split
    · obtain ⟨h₂, hg₂, hnew⟩ := ensureGridLoaded_spec h (cellAt d pos).grid
      rw [relink_eq id (hg₂.grids _ hgrid) hnew]
      exact Or.inr ⟨_, _, rfl, h₂, hg₂, hnew, hdone _⟩
    · split
      · next hloaded =>
        have hnew : (m.grids (cellAt d pos).grid).isSome = true := by
          rw [show m.grids (cellAt d pos).grid = some true from by simpa [loaded] using hloaded]
          rfl
        have hsame : ∀ f : Creature Pos → Creature Pos,
            (m.modify id f).ensureGridCreated (cellAt d pos).grid = m.modify id f := fun f => by
          unfold ensureGridCreated
          exact if_pos hnew
        have hrelink := relink_eq id hgrid hnew
        unfold removeFromGrid at hrelink ⊢
        rw [if_neg (by simp [Option.isSome_iff_ne_none.1 hgrid])] at hrelink ⊢
        rw [Option.bind_some, hsame]
        rw [Option.bind_some] at hrelink
        rw [hrelink]
        exact Or.inr ⟨_, m, rfl, h, .refl m, hnew, hdone m⟩
      · exact Or.inl rfl

theorem Sound.respawn_inside (h : Sound d m) (hc : m.creatures id = some c) (hw : c.inWorld = true) :
    (d.computeCellPair c.GetRespawnCoord).inside = true := by
  unfold Creature.GetRespawnCoord
  cases hr : c.respawn with
  | none => exact (h.placed id c hc hw).1
  | some pos => exact h.respawn id c pos hc hr

theorem Clear.respawn (hclear : Clear d g m) (h : Sound d m) (hc : m.creatures id = some c)
    (hwo : c.worldObject = true) (hw : c.inWorld = true) : (cellAt d c.GetRespawnCoord).grid ≠ g := by
  unfold Creature.GetRespawnCoord
  cases hr : c.respawn with
  | none =>
    show (cellAt d c.position).grid ≠ g
    rw [← (h.placed id c hc hw).2.1]
    exact (hclear id c hc hwo hw).1
  | some pos => exact (hclear id c hc hwo hw).2.1 pos hr

/-- What moves keep: the lists, and grids without world objects. -/
structure Moved (d : MapData Pos) (m m' : Map Pos) : Prop where
  sound : Sound d m'
  creaturesToMove : m'.creaturesToMove = m.creaturesToMove
  objectsToRemove : m'.objectsToRemove = m.objectsToRemove
  clear : ∀ g, Clear d g m → Clear d g m'

/-- **A creature is moved back** to where it respawns, or the map is as before. -/
theorem respawnRelocation_spec (h : Sound d m) (hc : m.creatures id = some c) (hl : c.link = some c.currentCell) :
    m.creatureRespawnRelocation d id = some (m, false) ∨
      ∃ m', m.creatureRespawnRelocation d id = some (m', true) ∧ Moved d m m' := by
  unfold creatureRespawnRelocation
  rw [hc]
  dsimp only
  rcases cellRelocation_spec h hc hl c.GetRespawnCoord with hfail | ⟨m₁, m₂, hok, h₂, hg₂, hgrid, hsettle⟩
  · rw [hfail]
    exact Or.inl rfl
  · rw [hok]
    have hc₂ := hg₂.creatures id c hc
    refine Or.inr ⟨m₁.relocate id c.GetRespawnCoord, rfl, ?_⟩
    rw [hsettle]
    exact ⟨h₂.settle hc₂ (h.respawn_inside hc) hgrid, hg₂.creaturesToMove, hg₂.objectsToRemove,
      fun g hclear => (hclear.grown hg₂).settle hc₂ fun hwo hw => hclear.respawn h hc hwo hw⟩

/-- A creature that is not to be moved leaves the world, and perhaps its container. -/
theorem Sound.leave (h : Sound d m) (hc : m.creatures id = some c) (hkey : ∀ e ∈ m.creaturesToMove, e.1 ≠ id)
    {f : Creature Pos → Creature Pos} (hw : (f c).inWorld = false) (hcell : (f c).currentCell = c.currentCell)
    (hlink : (f c).link = c.link ∨ (f c).link = none) (hresp : (f c).respawn = c.respawn) :
    Sound d (m.modify id f) where
  placed id' c' h' hw' := by
    rcases modify_cases _ hc h' with ⟨rfl, rfl⟩ | ⟨-, h'⟩
    · rw [hw] at hw'
      cases hw'
    · exact h.placed id' c' h' hw'
  linked id' c' cell h' hl := by
    rcases modify_cases _ hc h' with ⟨rfl, rfl⟩ | ⟨-, h'⟩
    · rcases hlink with hlink | hlink
      · rw [hlink] at hl
        rw [hcell]
        exact h.linked id' c cell hc hl
      · rw [hlink] at hl
        cases hl
    · exact h.linked id' c' cell h' hl
  respawn id' c' p h' hp := by
    rcases modify_cases _ hc h' with ⟨rfl, rfl⟩ | ⟨-, h'⟩
    · rw [hresp] at hp
      exact h.respawn id' c p hc hp
    · exact h.respawn id' c' p h' hp
  fresh id' c' h' := by
    rcases modify_cases _ hc h' with ⟨rfl, rfl⟩ | ⟨-, h'⟩
    · exact h.fresh id' c hc
    · exact h.fresh id' c' h'
  moving e he := by
    obtain ⟨⟨c', hc', hw'⟩, hin⟩ := h.moving e he
    exact ⟨⟨c', by rw [modify_other _ (hkey e he)]; exact hc', hw'⟩, hin⟩
  keys := h.keys
  removing id' h' := by
    obtain ⟨c', hc', hw'⟩ := h.removing id' h'
    by_cases hne : id' = id
    · rw [hne]
      exact ⟨_, modify_self _ hc, hw⟩
    · exact ⟨c', by rw [modify_other _ hne]; exact hc', hw'⟩
  removingNodup := h.removingNodup

theorem Clear.leave (h : Clear d g m) (hc : m.creatures id = some c) {f : Creature Pos → Creature Pos}
    (hw : (f c).inWorld = false) : Clear d g (m.modify id f) := by
  intro id' c' h' hwo hw'
  rcases modify_cases _ hc h' with ⟨rfl, rfl⟩ | ⟨-, h'⟩
  · rw [hw] at hw'
    cases hw'
  · exact h id' c' h' hwo hw'

theorem Sound.not_removing (h : Sound d m) (hc : m.creatures id = some c) (hw : c.inWorld = true) :
    id ∉ m.objectsToRemove := by
  intro hin
  obtain ⟨c', hc', hw'⟩ := h.removing id hin
  rw [hc] at hc'
  cases hc'
  rw [hw] at hw'
  cases hw'

theorem addObjectToRemoveList_spec (h : Sound d m) (hc : m.creatures id = some c) (hw : c.inWorld = true)
    (hkey : ∀ e ∈ m.creaturesToMove, e.1 ≠ id) : Sound d (m.addObjectToRemoveList id) := by
  have hleft := h.leave hc hkey (f := fun c => { c with inWorld := false }) rfl rfl (Or.inl rfl) rfl
  unfold addObjectToRemoveList
  rw [List.insert_of_not_mem (h.not_removing hc hw)]
  refine { hleft with
    removing := fun id' hid' => ?_, removingNodup := List.nodup_cons.2 ⟨h.not_removing hc hw, h.removingNodup⟩ }
  rcases List.mem_cons.1 hid' with rfl | hid'
  · exact ⟨_, modify_self _ hc, rfl⟩
  · exact hleft.removing id' hid'

/-- **A turn of the loop over the moves.** -/
theorem moveOne_spec {pos : Pos} {l : List (Nat × Pos)} (h : Sound d m) (hlist : m.creaturesToMove = (id, pos) :: l) :
    ∃ m', { m with creaturesToMove := l }.moveOne d id pos = some m' ∧ Sound d m' ∧ m'.creaturesToMove = l ∧
      ∀ g, Clear d g m → Clear d g m' := by
  obtain ⟨⟨c, hc, hw⟩, hpos⟩ := h.moving (id, pos) (hlist ▸ List.mem_cons_self)
  have hkeys := h.keys
  rw [hlist, List.map_cons, List.nodup_cons] at hkeys
  have h₀ : Sound d { m with creaturesToMove := l } :=
    { h with moving := fun e he => h.moving e (hlist ▸ List.mem_cons_of_mem _ he), keys := hkeys.2 }
  have hclear₀ : ∀ g, Clear d g m → Clear d g { m with creaturesToMove := l } := fun g hg id' c' hc' hwo hw' =>
    ⟨(hg id' c' hc' hwo hw').1, (hg id' c' hc' hwo hw').2.1, fun e he =>
      (hg id' c' hc' hwo hw').2.2 e (hlist ▸ List.mem_cons_of_mem _ he)⟩
  have hl := (h.placed id c hc hw).2.2
  unfold moveOne
  rcases cellRelocation_spec h₀ hc hl pos with hfail | ⟨m₁, m₂, hok, h₂, hg₂, hgrid, hsettle⟩
  · rw [hfail]
    rcases respawnRelocation_spec h₀ hc hl with hfail' | ⟨m₁, hok, hmoved⟩
    · refine ⟨addObjectToRemoveList { m with creaturesToMove := l } id, ?_, ?_, rfl, fun g hg => ?_⟩
      · simp only [Option.bind_some, Bool.false_eq_true, if_false, hfail', Option.map_some]
      · exact addObjectToRemoveList_spec h₀ hc hw fun e he heq => hkeys.1 (List.mem_map.2 ⟨e, he, heq⟩)
      · exact (hclear₀ g hg).leave hc (f := fun c => { c with inWorld := false }) rfl
    · refine ⟨m₁, ?_, hmoved.sound, hmoved.creaturesToMove, fun g hg => hmoved.clear g (hclear₀ g hg)⟩
      simp only [Option.bind_some, Bool.false_eq_true, if_false, hok, Option.map_some, if_true]
  · refine ⟨m₁.relocate id pos, by rw [hok]; rfl, ?_⟩
    rw [hsettle]
    have hc₂ := hg₂.creatures id c hc
    exact ⟨h₂.settle hc₂ (fun _ => hpos) hgrid, hg₂.creaturesToMove, fun g hg =>
      ((hclear₀ g hg).grown hg₂).settle hc₂ fun hwo _ =>
        (hg id c hc hwo hw).2.2 (id, pos) (hlist ▸ List.mem_cons_self) rfl⟩

theorem moveList_spec (l : List (Nat × Pos)) (h : Sound d m) (hlist : m.creaturesToMove = l) :
    ∃ m', moveList d l m = some m' ∧ Sound d m' ∧ m'.creaturesToMove = [] ∧ ∀ g, Clear d g m → Clear d g m' := by
  induction l generalizing m with
  | nil => exact ⟨m, rfl, h, hlist, fun _ hg => hg⟩
  | cons e l ih =>
    obtain ⟨m₁, h1, hs₁, hl₁, hclear₁⟩ := moveOne_spec h hlist
    obtain ⟨m', h2, hs', hl', hclear'⟩ := ih hs₁ hl₁
    exact ⟨m', Option.bind_eq_some_iff.2 ⟨m₁, h1, h2⟩, hs', hl', fun g hg => hclear' g (hclear₁ g hg)⟩

/-- **All moves are made.** -/
theorem moveAll_spec (h : Sound d m) :
    ∃ m', m.moveAllCreaturesInMoveList d = some m' ∧ Sound d m' ∧ m'.creaturesToMove = [] ∧
      ∀ g, Clear d g m → Clear d g m' := moveList_spec m.creaturesToMove h rfl

/-! ## Unloading -/

theorem moveToRespawn_spec (h : Sound d m) (g : GridPair) (id : Nat) :
    ∃ m', m.moveToRespawn d g id = some m' ∧ Moved d m m' := by
  have hrefl : Moved d m m := ⟨h, rfl, rfl, fun _ hg => hg⟩
  unfold moveToRespawn
  split
  · exact ⟨m, rfl, hrefl⟩
  · next c hc =>
    split
    · next hgo =>
      obtain ⟨cell, hl⟩ : ∃ cell, c.link = some cell := by
        cases hl : c.link with
        | none => simp [gridObjectIn, hl] at hgo
        | some cell => exact ⟨cell, rfl⟩
      have hcell := (h.linked id c cell hc hl).1
      rcases respawnRelocation_spec h hc (by rw [hl, hcell]) with hfail | ⟨m', hok, hmoved⟩
      · exact ⟨m, by rw [hfail]; rfl, hrefl⟩
      · exact ⟨m', by rw [hok]; rfl, hmoved⟩
    · exact ⟨m, rfl, hrefl⟩

theorem moveAllToRespawn_spec (order : List Nat) (h : Sound d m) (g : GridPair) :
    ∃ m', order.foldlM (fun (m : Map Pos) id => m.moveToRespawn d g id) m = some m' ∧ Moved d m m' := by
  induction order generalizing m with
  | nil => exact ⟨m, rfl, h, rfl, rfl, fun _ hg => hg⟩
  | cons id order ih =>
    obtain ⟨m₁, h1, hm₁⟩ := moveToRespawn_spec h g id
    obtain ⟨m', h2, hm'⟩ := ih hm₁.sound
    exact ⟨m', by rw [List.foldlM_cons, h1]; exact h2, hm'.sound, hm'.creaturesToMove.trans hm₁.creaturesToMove,
      hm'.objectsToRemove.trans hm₁.objectsToRemove, fun g hg => hm'.clear g (hm₁.clear g hg)⟩

/-- **The moves before a grid is unloaded** leave none to be made. -/
theorem finishMoves_spec (h : Sound d m) (g : GridPair) (order : List Nat) :
    ∃ m', m.finishMoves d g order = some m' ∧ Sound d m' ∧ m'.creaturesToMove = [] ∧ (Clear d g m → Clear d g m') := by
  obtain ⟨m₁, h1, hs₁, -, hclear₁⟩ := moveAll_spec h
  obtain ⟨m₂, h2, hm₂⟩ := moveAllToRespawn_spec order hs₁ g
  obtain ⟨m₃, h3, hs₃, hl₃, hclear₃⟩ := moveAll_spec hm₂.sound
  exact ⟨m₃, Option.bind_eq_some_iff.2 ⟨m₁, h1, Option.bind_eq_some_iff.2 ⟨m₂, h2, h3⟩⟩, hs₃, hl₃, fun hg =>
    hclear₃ g (hm₂.clear g (hclear₁ g hg))⟩

theorem Sound.delete (h : Sound d m) (hkey : ∀ e ∈ m.creaturesToMove, e.1 ≠ id) (hnot : id ∉ m.objectsToRemove) :
    Sound d { m with creatures := Function.update m.creatures id none } := by
  have hold : ∀ id' c', Function.update m.creatures id none id' = some c' → m.creatures id' = some c' := by
    intro id' c' h'
    by_cases hne : id' = id
    · rw [hne, Function.update_self] at h'
      cases h'
    · rwa [Function.update_of_ne hne] at h'
  refine { h with
    placed := fun id' c' h' => h.placed id' c' (hold id' c' h')
    linked := fun id' c' cell h' => h.linked id' c' cell (hold id' c' h')
    respawn := fun id' c' pos h' => h.respawn id' c' pos (hold id' c' h')
    fresh := fun id' c' h' => h.fresh id' c' (hold id' c' h')
    moving := fun e he => ?_, removing := fun id' hid' => ?_ }
  · obtain ⟨⟨c', hc', hw⟩, hin⟩ := h.moving e he
    exact ⟨⟨c', (Function.update_of_ne (hkey e he) _ _).trans hc', hw⟩, hin⟩
  · obtain ⟨c', hc', hw⟩ := h.removing id' hid'
    exact ⟨c', (Function.update_of_ne (fun he : id' = id => hnot (he ▸ hid')) _ _).trans hc', hw⟩

/-- **A creature is removed** that is not to be moved. -/
theorem remove_spec (h : Sound d m) (hc : m.creatures id = some c) (hkey : ∀ e ∈ m.creaturesToMove, e.1 ≠ id)
    {delete : Bool} (hnot : delete = true → id ∉ m.objectsToRemove) :
    ∃ m', m.remove d id delete = some m' ∧ Sound d m' ∧ m'.creaturesToMove = m.creaturesToMove ∧
      m'.objectsToRemove = m.objectsToRemove ∧ (∀ id', id' ≠ id → m'.creatures id' = m.creatures id') ∧
      (delete = true → m'.creatures id = none) := by
  have hleave : Sound d (m.modify id fun c => { c with inWorld := false }) :=
    h.leave hc hkey rfl rfl (Or.inl rfl) rfl
  have hunlink : Sound d ((m.modify id fun c => { c with inWorld := false }).modify id fun c => { c with link := none }) := by
    rw [modify_modify]
    exact h.leave hc hkey rfl rfl (Or.inr rfl) rfl
  -- with or without the container
  obtain ⟨m₁, hm₁, hs₁, hmove, hrem, hothers⟩ : ∃ m₁,
      (if (d.computeCellPair c.position).inside && loaded (m.modify id fun c => { c with inWorld := false })
          (cellAt d c.position).grid then
        (m.modify id fun c => { c with inWorld := false }).modify id fun c => { c with link := none }
      else m.modify id fun c => { c with inWorld := false }) = m₁ ∧ Sound d m₁ ∧
        m₁.creaturesToMove = m.creaturesToMove ∧ m₁.objectsToRemove = m.objectsToRemove ∧
        ∀ id', id' ≠ id → m₁.creatures id' = m.creatures id' := by
    refine ⟨_, rfl, ?_⟩
    split
    · exact ⟨hunlink, rfl, rfl, fun id' hne => by rw [modify_other _ hne, modify_other _ hne]⟩
    · exact ⟨hleave, rfl, rfl, fun id' hne => modify_other _ hne⟩
  unfold remove
  rw [hc]
  dsimp only
  rw [hm₁]
  cases delete with
  | false => exact ⟨m₁, rfl, hs₁, hmove, hrem, hothers, fun h => nomatch h⟩
  | true =>
    exact ⟨_, rfl, hs₁.delete (by rw [hmove]; exact hkey) (by rw [hrem]; exact hnot rfl), hmove, hrem,
      fun id' hne => (Function.update_of_ne hne _ _).trans (hothers id' hne), fun _ => Function.update_self ..⟩

/-- What is not to be moved from a grid that is unloaded: no grid object of it, and no world object is there. -/
structure Unloadable (d : MapData Pos) (g : GridPair) (m : Map Pos) : Prop where
  moves : ∀ e ∈ m.creaturesToMove, ∀ c, m.creatures e.1 = some c → gridObjectIn g c = false
  world : ∀ id c, m.creatures id = some c → c.worldObject = true → c.inWorld = true → c.currentCell.grid ≠ g

/-- **All objects are removed** that are to be. -/
theorem removeList_spec (l : List Nat) (h : Sound d m) (hlist : m.objectsToRemove = l) :
    ∃ m', removeList d l m = some m' ∧ Sound d m' ∧ m'.creaturesToMove = m.creaturesToMove ∧
      m'.objectsToRemove = [] ∧ ∀ id' c', m'.creatures id' = some c' → m.creatures id' = some c' := by
  induction l generalizing m with
  | nil => exact ⟨m, rfl, h, rfl, hlist, fun _ _ h => h⟩
  | cons id l ih =>
    obtain ⟨c, hc, hw⟩ := h.removing id (hlist ▸ List.mem_cons_self)
    have hnodup := h.removingNodup
    rw [hlist, List.nodup_cons] at hnodup
    have h₀ : Sound d { m with objectsToRemove := l } :=
      { h with removing := fun id' hid' => h.removing id' (hlist ▸ List.mem_cons_of_mem _ hid'), removingNodup := hnodup.2 }
    have hkey : ∀ e ∈ m.creaturesToMove, e.1 ≠ id := fun e he heq => by
      obtain ⟨⟨c', hc', hw'⟩, -⟩ := h.moving e he
      rw [heq, hc] at hc'
      cases hc'
      rw [hw] at hw'
      cases hw'
    obtain ⟨m₁, h1, hs₁, hmove, hrem, hothers, hgone⟩ := remove_spec h₀ hc hkey fun _ : true = true => hnodup.1
    have hold : ∀ id' c', m₁.creatures id' = some c' → m.creatures id' = some c' := by
      intro id' c' h'
      by_cases hne : id' = id
      · rw [hne, hgone rfl] at h'
        cases h'
      · exact (hothers id' hne).symm.trans h'
    obtain ⟨m', h2, hs', hmove', hnil, hold'⟩ := ih hs₁ hrem
    exact ⟨m', Option.bind_eq_some_iff.2 ⟨m₁, h1, h2⟩, hs', hmove'.trans hmove, hnil,
      fun id' c' hc' => hold id' c' (hold' id' c' hc')⟩

theorem cleanN_spec (h : Sound d m) (hg : Unloadable d g m) : Sound d (m.cleanN g) ∧ Unloadable d g (m.cleanN g) := by
  have hcases : ∀ id c', (m.cleanN g).creatures id = some c' → ∃ c, m.creatures id = some c ∧
      c' = if gridObjectIn g c then { c with inWorld := false } else c := by
    intro id c' h'
    obtain ⟨c, hc, rfl⟩ := Option.map_eq_some_iff.1 h'
    exact ⟨c, hc, rfl⟩
  -- nothing but being in the world changes
  have hsame : ∀ c : Creature Pos, ∀ c', c' = (if gridObjectIn g c then { c with inWorld := false } else c) →
      c'.link = c.link ∧ c'.currentCell = c.currentCell ∧ c'.position = c.position ∧ c'.respawn = c.respawn ∧
        c'.worldObject = c.worldObject ∧ (c'.inWorld = true → c.inWorld = true) := by
    rintro c c' rfl
    split
    · exact ⟨rfl, rfl, rfl, rfl, rfl, fun hw => by cases hw⟩
    · exact ⟨rfl, rfl, rfl, rfl, rfl, fun hw => hw⟩
  refine ⟨{ h with
    placed := fun id c' h' hw => ?_, linked := fun id c' cell h' hl => ?_, respawn := fun id c' pos h' hp => ?_
    fresh := fun id c' h' => ?_, moving := fun e he => ?_, removing := fun id hid => ?_ }, fun e he c' h' => ?_,
    fun id c' h' hwo hw => ?_⟩
  · obtain ⟨c, hc, he⟩ := hcases id c' h'
    obtain ⟨hlink, hcell, hpos, -, -, hworld⟩ := hsame c c' he
    rw [hlink, hcell, hpos]
    exact h.placed id c hc (hworld hw)
  · obtain ⟨c, hc, he⟩ := hcases id c' h'
    obtain ⟨hlink, hcell, -⟩ := hsame c c' he
    rw [hlink] at hl
    rw [hcell]
    exact h.linked id c cell hc hl
  · obtain ⟨c, hc, he⟩ := hcases id c' h'
    obtain ⟨-, -, -, hresp, -⟩ := hsame c c' he
    exact h.respawn id c pos hc (hresp ▸ hp)
  · obtain ⟨c, hc, -⟩ := hcases id c' h'
    exact h.fresh id c hc
  · obtain ⟨⟨c, hc, hw⟩, hin⟩ := h.moving e he
    refine ⟨⟨c, ?_, hw⟩, hin⟩
    show (m.creatures e.1).map _ = some c
    rw [hc, Option.map_some, if_neg (by rw [hg.moves e he c hc]; exact Bool.false_ne_true)]
  · obtain ⟨c, hc, hw⟩ := h.removing id hid
    refine ⟨_, congrArg (Option.map _) hc, ?_⟩
    show (if gridObjectIn g c then { c with inWorld := false } else c).inWorld = false
    split
    · rfl
    · exact hw
  · obtain ⟨c, hc, he'⟩ := hcases e.1 c' h'
    obtain ⟨hlink, -, -, -, hobj, -⟩ := hsame c c' he'
    unfold gridObjectIn
    rw [hlink, hobj]
    exact hg.moves e he c hc
  · obtain ⟨c, hc, he⟩ := hcases id c' h'
    obtain ⟨-, hcell, -, -, hobj, hworld⟩ := hsame c c' he
    rw [hcell]
    exact hg.world id c hc (hobj ▸ hwo) (hworld hw)

theorem deleteGrid_spec (h : Sound d m) (hg : Unloadable d g m) (hnil : m.objectsToRemove = []) :
    Sound d (m.deleteGrid g) := by
  have hcases : ∀ id c', (m.deleteGrid g).creatures id = some c' → ∃ c, m.creatures id = some c ∧
      gridObjectIn g c = false ∧ (c.link.map Cell.grid = some g ∧ c' = { c with link := none } ∨
        c.link.map Cell.grid ≠ some g ∧ c' = c) := by
    intro id c' h'
    obtain ⟨c, hc, hc'⟩ := Option.bind_eq_some_iff.1 h'
    refine ⟨c, hc, ?_⟩
    cases hobj : gridObjectIn g c with
    | true =>
      rw [if_pos hobj] at hc'
      cases hc'
    | false =>
      rw [if_neg (by rw [hobj]; exact Bool.false_ne_true)] at hc'
      refine ⟨rfl, ?_⟩
      split at hc'
      · next hlink => exact Or.inl ⟨hlink, (Option.some.inj hc').symm⟩
      · next hlink => exact Or.inr ⟨hlink, (Option.some.inj hc').symm⟩
  -- a creature in the world is not in the grid, unless it is deleted
  have hout : ∀ id c, m.creatures id = some c → gridObjectIn g c = false → c.inWorld = true →
      c.link.map Cell.grid ≠ some g := by
    intro id c hc hobj hw hlink
    obtain ⟨-, -, hl⟩ := h.placed id c hc hw
    unfold gridObjectIn at hobj
    rw [hlink] at hobj
    have hwo : c.worldObject = true := by simpa using hobj
    rw [hl] at hlink
    exact hg.world id c hc hwo hw (by simpa using hlink)
  refine { h with
    placed := fun id c' h' hw => ?_, linked := fun id c' cell h' hl => ?_, respawn := fun id c' pos h' hp => ?_
    fresh := fun id c' h' => ?_, moving := fun e he => ?_, removing := fun id hid => ?_ }
  · obtain ⟨c, hc, hobj, ⟨hlink, rfl⟩ | ⟨-, rfl⟩⟩ := hcases id c' h'
    · exact absurd hlink (hout id c hc hobj hw)
    · exact h.placed id c' hc hw
  · obtain ⟨c, hc, hobj, ⟨-, rfl⟩ | ⟨hlink, rfl⟩⟩ := hcases id c' h'
    · cases hl
    · obtain ⟨hcell, hgrid⟩ := h.linked id c' cell hc hl
      refine ⟨hcell, ?_⟩
      show (Function.update m.grids g none cell.grid).isSome = true
      rw [Function.update_of_ne]
      · exact hgrid
      · intro he
        rw [hl] at hlink
        exact hlink (congrArg some he)
  · obtain ⟨c, hc, -, ⟨-, rfl⟩ | ⟨-, rfl⟩⟩ := hcases id c' h'
    · exact h.respawn id c pos hc hp
    · exact h.respawn id c' pos hc hp
  · obtain ⟨c, hc, -⟩ := hcases id c' h'
    exact h.fresh id c hc
  · obtain ⟨⟨c, hc, hw⟩, hin⟩ := h.moving e he
    have hobj := hg.moves e he c hc
    refine ⟨⟨c, ?_, hw⟩, hin⟩
    show (m.creatures e.1).bind _ = some c
    rw [hc, Option.bind_some, if_neg (by rw [hobj]; exact Bool.false_ne_true), if_neg (hout e.1 c hc hobj hw)]
  · rw [show (m.deleteGrid g).objectsToRemove = [] from hnil] at hid
    cases hid

/-- **A grid is unloaded** in which no world object is left, and from which nothing is to be moved. -/
theorem unloadGrid_spec (h : Sound d m) (hgrid : (m.grids g).isSome = true) (unloadAll activeNear : Bool)
    (order : List Nat) (hfits : (unloadAll || !activeNear) = true → Clear d g m)
    (hmoves : unloadAll = true → ∀ e ∈ m.creaturesToMove, ∀ c, m.creatures e.1 = some c → gridObjectIn g c = false) :
    ∃ m', m.unloadGrid d g unloadAll activeNear order = some m' ∧ Sound d m' := by
  unfold unloadGrid
  rw [if_neg (by simp [Option.isSome_iff_ne_none.1 hgrid])]
  split
  · exact ⟨m, rfl, h⟩
  · next hgo =>
    have hclear : Clear d g m := hfits (by cases unloadAll <;> cases activeNear <;> simp_all)
    obtain ⟨m₁, h1, hs₁, hu₁⟩ : ∃ m₁, (if unloadAll then some m else m.finishMoves d g order) = some m₁ ∧ Sound d m₁ ∧
        Unloadable d g m₁ := by
      cases unloadAll with
      | true => exact ⟨m, rfl, h, hmoves rfl, fun id c hc hwo hw => (hclear id c hc hwo hw).1⟩
      | false =>
        obtain ⟨m₁, h1, hs₁, hnil, hclear₁⟩ := finishMoves_spec h g order
        refine ⟨m₁, h1, hs₁, fun e he => ?_, fun id c hc hwo hw => (hclear₁ hclear id c hc hwo hw).1⟩
        rw [hnil] at he
        cases he
    obtain ⟨hs₂, hu₂⟩ := cleanN_spec hs₁ hu₁
    obtain ⟨m₃, h3, hs₃, hmove, hnil, hold⟩ := removeList_spec _ hs₂ rfl
    have hu₃ : Unloadable d g m₃ := ⟨fun e he c hc => hu₂.moves e (hmove ▸ he) c (hold e.1 c hc),
      fun id c hc => hu₂.world id c (hold id c hc)⟩
    exact ⟨_, Option.bind_eq_some_iff.2 ⟨m₁, h1, Option.map_eq_some_iff.2 ⟨m₃, h3, rfl⟩⟩, deleteGrid_spec hs₃ hu₃ hnil⟩

/-! ## Steps -/

/-- **A creature is added** that is not to be removed. -/
theorem add_spec (h : Sound d m) (hc : m.creatures id = some c) (hnot : id ∉ m.objectsToRemove) :
    ∃ m', m.add d id = some m' ∧ Sound d m' := by
  unfold add
  rw [hc]
  dsimp only
  split
  · exact ⟨m, rfl, h⟩
  · next hinside =>
    have hin : (d.computeCellPair c.position).inside = true := by simpa using hinside
    split
    · exact ⟨m, rfl, h⟩
    · obtain ⟨m₁, hm₁, h₁, hg₁, hgrid⟩ : ∃ m₁, (if c.active then m.ensureGridLoaded d (cellAt d c.position).grid
          else m.ensureGridCreated (cellAt d c.position).grid) = m₁ ∧ Sound d m₁ ∧ Grown m m₁ ∧
          (m₁.grids (cellAt d c.position).grid).isSome = true := by
        refine ⟨_, rfl, ?_⟩
        split
        · exact ensureGridLoaded_spec h _
        · exact ensureGridCreated_spec h _
      have hc₁ := hg₁.creatures id c hc
      have hnot₁ : id ∉ m₁.objectsToRemove := by rw [hg₁.objectsToRemove]; exact hnot
      rw [hm₁]
      unfold addToGrid
      rw [if_neg (by simp [Option.isSome_iff_ne_none.1 hgrid]), Option.map_some, modify_modify]
      refine ⟨_, rfl, { h₁ with
        placed := fun id' c' h' hw => ?_, linked := fun id' c' cell h' hl => ?_
        respawn := fun id' c' pos h' hp => ?_, fresh := fun id' c' h' => ?_, moving := fun e he => ?_
        removing := fun id' hid' => ?_ }⟩
      · rcases modify_cases _ hc₁ h' with ⟨rfl, rfl⟩ | ⟨-, h'⟩
        · exact ⟨hin, rfl, rfl⟩
        · exact h₁.placed id' c' h' hw
      · rcases modify_cases _ hc₁ h' with ⟨rfl, rfl⟩ | ⟨-, h'⟩
        · cases hl
          exact ⟨rfl, hgrid⟩
        · exact h₁.linked id' c' cell h' hl
      · rcases modify_cases _ hc₁ h' with ⟨rfl, rfl⟩ | ⟨-, h'⟩
        · exact h₁.respawn id' c pos hc₁ hp
        · exact h₁.respawn id' c' pos h' hp
      · rcases modify_cases _ hc₁ h' with ⟨rfl, rfl⟩ | ⟨-, h'⟩
        · exact h₁.fresh id' c hc₁
        · exact h₁.fresh id' c' h'
      · obtain ⟨⟨c', hc', hw⟩, hpos⟩ := h₁.moving e he
        refine ⟨?_, hpos⟩
        by_cases hne : e.1 = id
        · rw [hne]
          exact ⟨_, modify_self _ hc₁, rfl⟩
        · exact ⟨c', (modify_other _ hne).trans hc', hw⟩
      · obtain ⟨c', hc', hw⟩ := h₁.removing id' hid'
        exact ⟨c', (modify_other _ fun he : id' = id => hnot₁ (he ▸ hid')).trans hc', hw⟩

theorem keys_map {α : Type} (l : List (Nat × α)) (id : Nat) (a : α) :
    (l.map fun e => if e.1 = id then (id, a) else e).map Prod.fst = l.map Prod.fst := by
  rw [List.map_map]
  refine List.map_congr_left fun e _ => ?_
  show (if e.1 = id then (id, a) else e).1 = e.1
  split
  · next he => exact he.symm
  · rfl

theorem Sound.note (h : Sound d m) (hc : m.creatures id = some c) (hw : c.inWorld = true) {pos : Pos}
    (hpos : (d.computeCellPair pos).inside = true) (place : Nat) : Sound d (m.addCreatureToMoveList id pos place) := by
  unfold addCreatureToMoveList
  have hnew : (∃ c, m.creatures (id, pos).1 = some c ∧ c.inWorld = true) ∧
      (d.computeCellPair (id, pos).2).inside = true := ⟨⟨c, hc, hw⟩, hpos⟩
  split
  · refine { h with moving := fun e he => ?_, keys := ?_ }
    · obtain ⟨e', he', rfl⟩ := List.mem_map.1 he
      split
      · exact hnew
      · exact h.moving e' he'
    · show (List.map Prod.fst (List.map _ m.creaturesToMove)).Nodup
      rw [keys_map]
      exact h.keys
  · next hnone =>
    have hfresh : ∀ e ∈ m.creaturesToMove, e.1 ≠ id := fun e he heq =>
      hnone (List.any_eq_true.2 ⟨e, he, by simpa using heq⟩)
    have hperm := List.perm_insertIdx (id, pos) m.creaturesToMove (Nat.min_le_right place m.creaturesToMove.length)
    refine { h with moving := fun e he => ?_, keys := ?_ }
    · rcases List.mem_cons.1 (hperm.mem_iff.1 he) with rfl | he
      · exact hnew
      · exact h.moving e he
    · refine (hperm.map Prod.fst).nodup_iff.2 (List.nodup_cons.2 ⟨fun hin => ?_, h.keys⟩)
      obtain ⟨e, he, heq⟩ := List.mem_map.1 hin
      exact hfresh e he heq

/-- **A creature is relocated**, at once within its cell and later otherwise. -/
theorem creatureRelocation_spec (h : Sound d m) (hc : m.creatures id = some c) (hw : c.inWorld = true) {pos : Pos}
    (hpos : (d.computeCellPair pos).inside = true) (onFail : Bool) (place : Nat) :
    ∃ m', m.creatureRelocation d id pos onFail place = some m' ∧ Sound d m' := by
  unfold creatureRelocation
  rw [hc]
  dsimp only
  split
  · exact ⟨m, rfl, h⟩
  · split
    · exact ⟨_, rfl, h.note hc hw hpos place⟩
    · next hsame =>
      obtain ⟨-, -, hl⟩ := h.placed id c hc hw
      have hdiff : c.currentCell.diffCell (cellAt d pos) = false ∧ c.currentCell.diffGrid (cellAt d pos) = false := by
        simpa using hsame
      have hcell := Cell.eq_of_not_diff hdiff.1 hdiff.2
      have hsettle : m.relocate id pos = m.modify id (Map.settle d pos) := by
        unfold relocate modify
        rw [hc]
        unfold Map.settle
        rw [Option.map_some, Option.map_some, ← hcell, ← hl]
      refine ⟨_, rfl, ?_⟩
      rw [hsettle]
      refine h.settle hc (fun _ => hpos) ?_
      rw [← hcell]
      exact (h.linked id c c.currentCell hc hl).2

/-- A step that is made as it should be: a creature that is removed is not to be moved, and a grid that is unloaded
holds no world object. -/
def Fits (d : MapData Pos) (m : Map Pos) : Act Pos → Prop
  | .create _ _ _ => True
  | .place id _ => ∃ c, m.creatures id = some c ∧ c.inWorld = false
  | .add id => m.creatures id ≠ none ∧ id ∉ m.objectsToRemove
  | .remove id delete =>
    m.creatures id ≠ none ∧ (∀ e ∈ m.creaturesToMove, e.1 ≠ id) ∧ (delete = true → id ∉ m.objectsToRemove)
  | .creatureRelocation id pos _ _ =>
    (∃ c, m.creatures id = some c ∧ c.inWorld = true) ∧ (d.computeCellPair pos).inside = true
  | .moveAllCreaturesInMoveList => True
  | .ensureGridCreated _ => True
  | .ensureGridLoaded _ => True
  | .unloadGrid g unloadAll activeNear _ => (m.grids g).isSome = true ∧
    ((unloadAll || !activeNear) = true → Clear d g m) ∧
      (unloadAll = true → ∀ e ∈ m.creaturesToMove, ∀ c, m.creatures e.1 = some c → gridObjectIn g c = false)
  | .removeAllObjectsInRemoveList => True

theorem Sound.place (h : Sound d m) (hc : m.creatures id = some c) (hw : c.inWorld = false) (pos : Pos) :
    Sound d (m.relocate id pos) := by
  refine h.leave hc (fun e he heq => ?_) hw rfl (Or.inl rfl) rfl
  obtain ⟨⟨c', hc', hw'⟩, -⟩ := h.moving e he
  rw [heq, hc] at hc'
  cases hc'
  rw [hw] at hw'
  cases hw'

theorem Sound.create (h : Sound d m) (pos : Pos) (active worldObject : Bool) :
    Sound d (m.create pos active worldObject) := by
  have hnew : ∀ id c, m.creatures id = some c → id ≠ m.next := fun id c hc he => by
    have := h.fresh id c hc
    omega
  have hold : ∀ id c, m.creatures id = some c → (m.create pos active worldObject).creatures id = some c :=
    fun id c hc => (Function.update_of_ne (hnew id c hc) _ _).trans hc
  have hcases : ∀ id c, (m.create pos active worldObject).creatures id = some c → m.creatures id = some c ∨
      id = m.next ∧ c.inWorld = false ∧ c.link = none ∧ c.respawn = none := by
    intro id c hc
    change Function.update m.creatures m.next _ id = some c at hc
    by_cases hne : id = m.next
    · subst hne
      rw [Function.update_self] at hc
      cases hc
      exact Or.inr ⟨rfl, rfl, rfl, rfl⟩
    · rw [Function.update_of_ne hne] at hc
      exact Or.inl hc
  refine { h with
    placed := fun id c hc hw => ?_, linked := fun id c cell hc hl => ?_, respawn := fun id c p hc hp => ?_
    fresh := fun id c hc => ?_, moving := fun e he => ?_, removing := fun id hid => ?_ }
  · rcases hcases id c hc with hc | ⟨-, hout, -⟩
    · exact h.placed id c hc hw
    · rw [hout] at hw
      cases hw
  · rcases hcases id c hc with hc | ⟨-, -, hnone, -⟩
    · exact h.linked id c cell hc hl
    · rw [hnone] at hl
      cases hl
  · rcases hcases id c hc with hc | ⟨-, -, -, hnone⟩
    · exact h.respawn id c p hc hp
    · rw [hnone] at hp
      cases hp
  · show id < m.next + 1
    rcases hcases id c hc with hc | ⟨rfl, -⟩
    · have := h.fresh id c hc
      omega
    · omega
  · obtain ⟨⟨c, hc, hw⟩, hin⟩ := h.moving e he
    exact ⟨⟨c, hold _ c hc, hw⟩, hin⟩
  · obtain ⟨c, hc, hw⟩ := h.removing id hid
    exact ⟨c, hold _ c hc, hw⟩

/-- **A step that fits** does not fail, and leaves every creature in its container. -/
theorem act_spec (h : Sound d m) (a : Act Pos) (hfits : Fits d m a) : ∃ m', m.act d a = some m' ∧ Sound d m' := by
  cases a with
  | create pos active worldObject => exact ⟨_, rfl, h.create pos active worldObject⟩
  | place id pos =>
    obtain ⟨c, hc, hw⟩ := hfits
    exact ⟨_, rfl, h.place hc hw pos⟩
  | add id =>
    obtain ⟨c, hc⟩ := Option.ne_none_iff_exists'.1 hfits.1
    exact add_spec h hc hfits.2
  | remove id delete =>
    obtain ⟨c, hc⟩ := Option.ne_none_iff_exists'.1 hfits.1
    obtain ⟨m', h', hs', -⟩ := remove_spec h hc hfits.2.1 hfits.2.2
    exact ⟨m', h', hs'⟩
  | creatureRelocation id pos onFail place =>
    obtain ⟨⟨c, hc, hw⟩, hpos⟩ := hfits
    exact creatureRelocation_spec h hc hw hpos onFail place
  | moveAllCreaturesInMoveList =>
    obtain ⟨m', h', hs', -⟩ := moveAll_spec h
    exact ⟨m', h', hs'⟩
  | ensureGridCreated g => exact ⟨_, rfl, (ensureGridCreated_spec h g).1⟩
  | ensureGridLoaded g => exact ⟨_, rfl, (ensureGridLoaded_spec h g).1⟩
  | unloadGrid g unloadAll activeNear order =>
    exact unloadGrid_spec h hfits.1 unloadAll activeNear order hfits.2.1 hfits.2.2
  | removeAllObjectsInRemoveList =>
    obtain ⟨m', h', hs', -⟩ := removeList_spec m.objectsToRemove h rfl
    exact ⟨m', h', hs'⟩

/-! ## Runs -/

/-- A step of a run, that fails at most once. -/
def step (d : MapData Pos) (m : Option (Map Pos)) (a : Act Pos) : Option (Map Pos) := m.bind fun m => m.act d a

/-- Every step so far fits. -/
def StepFits (d : MapData Pos) (m : Option (Map Pos)) (a : Act Pos) : Prop := ∀ m', m = some m' → Fits d m' a

/-- Creatures in the world are linked in the cells of their positions, and what is to be moved is in the world. -/
structure Placed (d : MapData Pos) (m : Map Pos) : Prop where
  linked : ∀ id c, m.creatures id = some c → c.inWorld = true →
    c.link = some c.currentCell ∧ c.currentCell.cellPair = d.computeCellPair c.position
  moving : ∀ e ∈ m.creaturesToMove, ∃ c, m.creatures e.1 = some c ∧ c.inWorld = true

theorem Sound.toPlaced (h : Sound d m) : Placed d m where
  linked id c hc hw := by
    obtain ⟨hin, hcell, hlink⟩ := h.placed id c hc hw
    exact ⟨hlink, by rw [hcell]; exact Cell.cellPair_ofPair hin⟩
  moving e he := (h.moving e he).1

theorem Sound.empty (d : MapData Pos) : Sound d {} where
  placed id c hc := by cases hc
  linked id c cell hc := by cases hc
  respawn id c pos hc := by cases hc
  fresh id c hc := by cases hc
  moving e he := by cases he
  keys := List.nodup_nil
  removing id hid := by cases hid
  removingNodup := List.nodup_nil

/-- **Creatures are where they should be** in every run whose steps fit. -/
theorem creatures_placed (d : MapData Pos) (as : List (Act Pos))
    (hfits : Transition.Along (step d) (StepFits d) (some {}) as) :
    ∃ m, Transition.run (step d) (some {}) as = some m ∧ Placed d m := by
  obtain ⟨m, hm, h⟩ := Transition.run_invariant (I := fun o : Option (Map Pos) => ∃ m, o = some m ∧ Sound d m)
    (fun o a ho hg => by
      obtain ⟨m, rfl, h⟩ := ho
      exact act_spec h a (hg m rfl))
    ⟨_, rfl, .empty d⟩ hfits
  exact ⟨m, hm, h.toPlaced⟩

/-- A map on which coordinates are cells, without creatures in the database. -/
def plain : MapData CellPair := ⟨fun p => p, [], fun s hs => by cases hs⟩

/-- A creature is added, relocated and moved, and its first grid is unloaded. -/
theorem creatures_placed_moved : ∃ m, Transition.run (step plain) (some {})
    [.create ⟨256, 256⟩ false false, .add 0, .creatureRelocation 0 ⟨257, 256⟩ true 0,
      .moveAllCreaturesInMoveList, .unloadGrid ⟨32, 32⟩ false false []] = some m ∧ Placed plain m := by
  refine creatures_placed plain _ ⟨fun _ h => ?_, fun _ h => ?_, fun _ h => ?_, fun _ h => ?_, fun _ h => ?_, trivial⟩
  · cases h
    trivial
  · cases h
    exact ⟨by decide, by decide⟩
  · cases h
    exact ⟨⟨_, rfl, rfl⟩, by decide⟩
  · cases h
    trivial
  · cases h
    refine ⟨by decide, fun _ id c hc hwo => ?_, fun h => by cases h⟩
    rcases id with _ | id
    · cases hc
      cases hwo
    · cases hc

/-- **A creature is removed** while its move is to be made, and stays on the list. -/
theorem removed_to_move : ¬ ∀ (d : MapData CellPair) (as : List (Act CellPair)), ∃ m,
    Transition.run (step d) (some {}) as = some m ∧ Placed d m := by
  intro hall
  obtain ⟨m, hm, hplaced⟩ := hall plain
    [.create ⟨256, 256⟩ false false, .add 0, .creatureRelocation 0 ⟨257, 256⟩ true 0, .remove 0 true]
  cases hm
  obtain ⟨c, hc, -⟩ := hplaced.moving (0, ⟨257, 256⟩) (by decide)
  cases hc

end Map

end BlizzLike.CreatureCells
