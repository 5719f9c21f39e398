import BlizzLikeCore.Collision.VMapManager2
import BlizzLikeCore.Lib.FiniteMap
import BlizzLikeCore.Lib.Transition
import Mathlib.Data.List.Perm.Basic

/-!
# The counts of nodes and models

The references of a tree are the spawns of its loaded tiles, those of the manager the spawns of all trees.  A node
is counted as often as it is referenced, a model as often as its name is (`Counted`), as long as no tile is loaded
twice and the spawns of a node name one model (`Agrees`).  Nothing checks either.

    acquire_held, release_held     : a model is there just when it is referenced
    TreeSound.load, .unload        : one spawn
    TreeSound.loads, .unloads      : the spawns of a tile
    unloadMap_held                 : all nodes of a map
    models_counted                 : the result, for every run
-/

namespace BlizzLike

/-! ## References -/

section

variable (fs : VMapFiles)

def tileSpawns (m id : Nat) : List TileSpawn :=
  match fs.tile m (id >>> 16) (id % 65536) with
  | some f => f.spawns
  | none => []

/-- The references of the loaded tiles to the nodes of a tree. -/
def StaticMapTree.references (m : Nat) (tree : StaticMapTree) : List TileSpawn :=
  tree.loadedTiles.entries.flatMap fun t => tileSpawns fs m t.1

def VMapManager2.references (v : VMapManager2) : List TileSpawn :=
  v.trees.entries.flatMap fun t => t.2.references fs t.1

end

def namesIn (refs : List TileSpawn) (name : String) : Nat := refs.countP fun s => s.name == name

def nodesIn (refs : List TileSpawn) (n : Nat) : Nat := refs.countP fun s => s.node == n

/-- **The counts**: of nodes, and of models that can be read; and a node has no model but a loaded one of its name. -/
structure Counted (fs : VMapFiles) (v : VMapManager2) : Prop where
  nodes : ∀ m tree, v.trees.lookup m = some tree → ∀ n, tree.loadedSpawns n = nodesIn (tree.references fs m) n
  models : ∀ name, match v.models.loaded name with
    | none => fs.readable name = true → namesIn (v.references fs) name = 0
    | some managed => fs.readable name = true ∧ managed.refCount = namesIn (v.references fs) name ∧
        0 < namesIn (v.references fs) name
  pointers : ∀ m tree, v.trees.lookup m = some tree → ∀ n p, (tree.treeValues n).model = some p →
    ∃ managed, v.models.loaded (tree.treeValues n).name = some managed ∧ managed.model = p

/-- **The condition**: a tile with spawns is not loaded again, and its spawns name the model that others name at the
same node. -/
def Agrees (fs : VMapFiles) (v : VMapManager2) : VMapStep → Prop
  | .loadTile t =>
    fs.treeSize t.map = none ∨
      let spawns := tileSpawns fs t.map (packTileID t.x t.y)
      let tree := v.trees.lookup t.map
      (spawns = [] ∨ tree.all fun tree => (tree.loadedTiles.lookup (packTileID t.x t.y)).isNone) ∧
        ∀ s ∈ spawns, ∀ s' ∈ spawns ++ (tree.map fun tree => tree.references fs t.map).getD [],
          s.node = s'.node → s.name = s'.name
  | .unloadTile _ => True
  | .unloadMap _ => True

/-! ## Models -/

variable {fs : VMapFiles}

theorem namesIn_cons (s : TileSpawn) (refs : List TileSpawn) :
    namesIn (s :: refs) = Function.update (namesIn refs) s.name (namesIn refs s.name + 1) := by
  funext name
  unfold namesIn
  rw [List.countP_cons]
  by_cases h : name = s.name
  · subst h
    rw [Function.update_self, if_pos (beq_self_eq_true _)]
  · rw [Function.update_of_ne h, if_neg (by simpa using Ne.symm h)]
    rfl

theorem namesIn_pos {s : TileSpawn} {refs : List TileSpawn} (h : s ∈ refs) : 0 < namesIn refs s.name :=
  List.countP_pos_iff.2 ⟨s, h, beq_self_eq_true _⟩

theorem nodesIn_pos {s : TileSpawn} {refs : List TileSpawn} (h : s ∈ refs) : 0 < nodesIn refs s.node :=
  List.countP_pos_iff.2 ⟨s, h, beq_self_eq_true _⟩

namespace ModelFiles

/-- A model is there if it can be read and is counted, and as often as it is counted. -/
def Held (fs : VMapFiles) (models : ModelFiles) (count : String → Nat) : Prop :=
  ∀ name, match models.loaded name with
    | none => fs.readable name = true → count name = 0
    | some managed => fs.readable name = true ∧ managed.refCount = count name ∧ 0 < count name

def address (models : ModelFiles) (name : String) : Option Nat := (models.loaded name).map ManagedModel.model

variable {models : ModelFiles} {count : String → Nat}

theorem acquire_held (h : Held fs models count) (name : String) :
    Held fs (models.acquireModelInstance fs name).1 (Function.update count name (count name + 1)) ∧
      (models.acquireModelInstance fs name).2 = (models.acquireModelInstance fs name).1.address name ∧
      ∀ other, 0 < count other → (models.acquireModelInstance fs name).1.address other = models.address other := by
  have hname := h name
  unfold acquireModelInstance
  split
  · next m hm =>
    rw [hm] at hname
    obtain ⟨hread, hcount, hpos⟩ := hname
    refine ⟨fun other => ?_, ?_, fun other _ => ?_⟩
    · by_cases ho : other = name
      · subst ho
        simp only [Function.update_self]
        exact ⟨hread, by rw [hcount], Nat.succ_pos _⟩
      · simp only [Function.update_of_ne ho]
        exact h other
    · simp [address]
    · by_cases ho : other = name
      · subst ho
        simp [address, hm]
      · simp [address, Function.update_of_ne ho]
  · next hm =>
    rw [hm] at hname
    split
    · next hread =>
      have hzero : count name = 0 := hname hread
      refine ⟨fun other => ?_, ?_, fun other hother => ?_⟩
      · by_cases ho : other = name
        · subst ho
          simp only [Function.update_self]
          exact ⟨hread, by rw [hzero], Nat.succ_pos _⟩
        · simp only [Function.update_of_ne ho]
          exact h other
      · simp [address]
      · have ho : other ≠ name := by
          rintro rfl
          omega
        simp [address, Function.update_of_ne ho]
    · next hread =>
      refine ⟨fun other => ?_, ?_, fun _ _ => rfl⟩
      · by_cases ho : other = name
        · subst ho
          rw [hm]
          exact fun hyes => absurd hyes hread
        · simp only [Function.update_of_ne ho]
          exact h other
      · simp [address, hm]

theorem release_held (h : Held fs models count) {name : String} (hpos : 0 < count name) :
    Held fs (models.releaseModelInstance name) (Function.update count name (count name - 1)) ∧
      ∀ other, 0 < Function.update count name (count name - 1) other →
        (models.releaseModelInstance name).address other = models.address other := by
  have hname := h name
  unfold releaseModelInstance
  split
  · next hm =>
    rw [hm] at hname
    refine ⟨fun other => ?_, fun _ _ => rfl⟩
    by_cases ho : other = name
    · subst ho
      rw [hm]
      intro hread
      exact absurd (hname hread) (Nat.ne_of_gt hpos)
    · simp only [Function.update_of_ne ho]
      exact h other
  · next m hm =>
    rw [hm] at hname
    obtain ⟨hread, hcount, -⟩ := hname
    refine ⟨fun other => ?_, fun other hother => ?_⟩
    · by_cases ho : other = name
      · subst ho
        simp only [Function.update_self]
        by_cases hlast : m.refCount - 1 = 0
        · rw [if_pos hlast]
          exact fun _ => hcount ▸ hlast
        · rw [if_neg hlast]
          exact ⟨hread, by rw [hcount], by omega⟩
      · simp only [Function.update_of_ne ho]
        exact h other
    · by_cases ho : other = name
      · subst ho
        rw [Function.update_self] at hother
        simp only [address, Function.update_self, hm]
        rw [if_neg (by omega)]
        rfl
      · simp [address, Function.update_of_ne ho]

end ModelFiles

/-! ## One spawn -/

open ModelFiles

/-- A tree whose nodes are counted by `refs`, with the models of their names. -/
structure TreeSound (models : ModelFiles) (refs : List TileSpawn) (tree : StaticMapTree) : Prop where
  counts : ∀ n, tree.loadedSpawns n = nodesIn refs n
  values : ∀ s ∈ refs, tree.treeValues s.node = ⟨s.name, models.address s.name⟩
  idle : ∀ n, tree.loadedSpawns n = 0 → (tree.treeValues n).model = none

/-- The models that some spawns name are where they were. -/
def SameModels (refs : List TileSpawn) (models models' : ModelFiles) : Prop :=
  ∀ s ∈ refs, models'.address s.name = models.address s.name

variable {models : ModelFiles} {tree : StaticMapTree} {refs others : List TileSpawn}

theorem TreeSound.same {models' : ModelFiles} (h : TreeSound models refs tree) (hs : SameModels refs models models') :
    TreeSound models' refs tree where
  counts := h.counts
  values := fun s hs' => by rw [h.values s hs', hs s hs']
  idle := h.idle

theorem TreeSound.perm {refs' : List TileSpawn} (h : TreeSound models refs tree) (hp : refs.Perm refs') :
    TreeSound models refs' tree where
  counts := fun n => (h.counts n).trans (hp.countP_eq _)
  values := fun s hs => h.values s (hp.mem_iff.2 hs)
  idle := h.idle

theorem namesIn_perm {refs refs' : List TileSpawn} (hp : refs.Perm refs') : namesIn refs = namesIn refs' :=
  funext fun _ => hp.countP_eq _

theorem nodesIn_cons (s : TileSpawn) (refs : List TileSpawn) (n : Nat) :
    nodesIn (s :: refs) n = nodesIn refs n + if s.node = n then 1 else 0 := by
  unfold nodesIn
  rw [List.countP_cons]
  simp

/-- **A spawn is loaded**, one that agrees with those of its node. -/
theorem TreeSound.load (h : TreeSound models refs tree) (hheld : Held fs models (namesIn (refs ++ others)))
    {s : TileSpawn} (hagree : ∀ s' ∈ refs, s.node = s'.node → s.name = s'.name) :
    let loaded := StaticMapTree.loadSpawn fs (models, tree) s
    TreeSound loaded.1 (s :: refs) loaded.2 ∧ Held fs loaded.1 (namesIn (s :: (refs ++ others))) ∧
      SameModels (refs ++ others) models loaded.1 ∧ loaded.2.loadedTiles = tree.loadedTiles ∧
      loaded.2.nTreeValues = tree.nTreeValues := by
  obtain ⟨hheld', hmodel, hkept⟩ := acquire_held hheld s.name
  have hsame : SameModels (refs ++ others) models (models.acquireModelInstance fs s.name).1 :=
    fun s' hs' => hkept s'.name (namesIn_pos hs')
  rw [← namesIn_cons] at hheld'
  unfold StaticMapTree.loadSpawn
  dsimp only
  refine ⟨?_, hheld', hsame, by split <;> rfl, by split <;> rfl⟩
  have hold := h.same fun s' hs' => hsame s' (List.mem_append_left _ hs')
  have hcounts : ∀ n, nodesIn (s :: refs) n = Function.update tree.loadedSpawns s.node (tree.loadedSpawns s.node + 1) n := by
    intro n
    rw [nodesIn_cons, ← h.counts]
    by_cases hn : n = s.node
    · subst hn
      rw [Function.update_self, if_pos rfl]
    · rw [Function.update_of_ne hn, if_neg (Ne.symm hn)]
      rfl
  split
  · next hzero =>
    have hnew : ∀ s' ∈ refs, s'.node ≠ s.node := by
      intro s' hs' hn
      have hpos := nodesIn_pos hs'
      rw [← h.counts, hn] at hpos
      omega
    refine ⟨fun n => ?_, fun s' hs' => ?_, fun n hn => ?_⟩
    · rw [hcounts, hzero]
    · rcases List.mem_cons.1 hs' with rfl | hs'
      · dsimp only
        rw [Function.update_self, hmodel]
      · dsimp only
        rw [Function.update_of_ne (hnew s' hs')]
        exact hold.values s' hs'
    · dsimp only at hn ⊢
      by_cases heq : n = s.node
      · rw [heq, Function.update_self] at hn
        cases hn
      · rw [Function.update_of_ne heq] at hn ⊢
        exact h.idle n hn
  · next hpos =>
    obtain ⟨s', hs', hnode⟩ : ∃ s' ∈ refs, s'.node = s.node := by
      have hcount : 0 < nodesIn refs s.node := h.counts s.node ▸ Nat.pos_of_ne_zero hpos
      obtain ⟨s', hs', hn⟩ := List.countP_pos_iff.1 hcount
      exact ⟨s', hs', beq_iff_eq.1 hn⟩
    refine ⟨fun n => (hcounts n).symm, fun s'' hs'' => ?_, fun n hn => ?_⟩
    · rcases List.mem_cons.1 hs'' with rfl | hs''
      · -- the node has its model already
        have hvalue := hold.values s' hs'
        rw [hnode, ← hagree s' hs' hnode.symm] at hvalue
        exact hvalue
      · exact hold.values s'' hs''
    · dsimp only at hn
      by_cases heq : n = s.node
      · rw [heq, Function.update_self] at hn
        cases hn
      · rw [Function.update_of_ne heq] at hn
        exact h.idle n hn

theorem release_spawn {s : TileSpawn} (hheld : Held fs models (namesIn (s :: refs))) :
    Held fs (models.releaseModelInstance s.name) (namesIn refs) ∧
      SameModels refs models (models.releaseModelInstance s.name) := by
  obtain ⟨hheld', hkept⟩ := release_held hheld (namesIn_pos (s := s) List.mem_cons_self)
  have hback : Function.update (namesIn (s :: refs)) s.name (namesIn (s :: refs) s.name - 1) = namesIn refs := by
    rw [namesIn_cons, Function.update_self, Function.update_idem, Nat.add_sub_cancel, Function.update_eq_self]
  rw [hback] at hheld' hkept
  exact ⟨hheld', fun s' hs' => hkept s'.name (namesIn_pos hs')⟩

/-- **A spawn is unloaded.** -/
theorem TreeSound.unload {s : TileSpawn} (h : TreeSound models (s :: refs) tree)
    (hheld : Held fs models (namesIn (s :: (refs ++ others)))) :
    let unloaded := StaticMapTree.unloadSpawn (models, tree) s
    TreeSound unloaded.1 refs unloaded.2 ∧ Held fs unloaded.1 (namesIn (refs ++ others)) ∧
      SameModels (refs ++ others) models unloaded.1 ∧ unloaded.2.loadedTiles = tree.loadedTiles ∧
      unloaded.2.nTreeValues = tree.nTreeValues := by
  obtain ⟨hheld', hsame⟩ := release_spawn hheld
  have hcount : tree.loadedSpawns s.node = nodesIn refs s.node + 1 := by
    rw [h.counts, nodesIn_cons, if_pos rfl]
  have hcounts : ∀ n, Function.update tree.loadedSpawns s.node (tree.loadedSpawns s.node - 1) n = nodesIn refs n := by
    intro n
    by_cases hn : n = s.node
    · subst hn
      rw [Function.update_self, hcount, Nat.add_sub_cancel]
    · rw [Function.update_of_ne hn, h.counts, nodesIn_cons, if_neg (Ne.symm hn)]
      rfl
  unfold StaticMapTree.unloadSpawn
  dsimp only
  rw [if_neg (by omega : tree.loadedSpawns s.node ≠ 0)]
  refine ⟨?_, hheld', hsame, by split <;> rfl, by split <;> rfl⟩
  have hvalues : ∀ s' ∈ refs, tree.treeValues s'.node = ⟨s'.name, (models.releaseModelInstance s.name).address s'.name⟩ := by
    intro s' hs'
    rw [h.values s' (List.mem_cons_of_mem _ hs'), hsame s' (List.mem_append_left _ hs')]
  split
  · next hlast =>
    have hnone : ∀ s' ∈ refs, s'.node ≠ s.node := by
      intro s' hs' hn
      have hpos := nodesIn_pos hs'
      rw [hn] at hpos
      omega
    refine ⟨hcounts, fun s' hs' => ?_, fun n hn => ?_⟩
    · dsimp only
      rw [Function.update_of_ne (hnone s' hs')]
      exact hvalues s' hs'
    · dsimp only at hn ⊢
      by_cases heq : n = s.node
      · rw [heq, Function.update_self]
      · rw [Function.update_of_ne heq] at hn ⊢
        exact h.idle n hn
  · next hmore =>
    refine ⟨hcounts, hvalues, fun n hn => ?_⟩
    dsimp only at hn ⊢
    by_cases heq : n = s.node
    · rw [heq, Function.update_self] at hn
      exact absurd hn hmore
    · rw [Function.update_of_ne heq] at hn
      exact h.idle n hn

/-! ## The spawns of a tile -/

theorem SameModels.trans {models' models'' : ModelFiles} {refs' : List TileSpawn} (h : SameModels refs models models')
    (h' : SameModels refs' models' models'') (hsub : refs ⊆ refs') : SameModels refs models models'' :=
  fun s hs => (h' s (hsub hs)).trans (h s hs)

theorem TreeSound.loads (spawns : List TileSpawn) (h : TreeSound models refs tree)
    (hheld : Held fs models (namesIn (refs ++ others)))
    (hagree : ∀ s ∈ spawns, ∀ s' ∈ spawns ++ refs, s.node = s'.node → s.name = s'.name) :
    let loaded := spawns.foldl (StaticMapTree.loadSpawn fs) (models, tree)
    TreeSound loaded.1 (spawns ++ refs) loaded.2 ∧ Held fs loaded.1 (namesIn (spawns ++ (refs ++ others))) ∧
      SameModels (refs ++ others) models loaded.1 ∧ loaded.2.loadedTiles = tree.loadedTiles ∧
      loaded.2.nTreeValues = tree.nTreeValues := by
  induction spawns generalizing models tree refs with
  | nil => exact ⟨h, hheld, fun _ _ => rfl, rfl, rfl⟩
  | cons s spawns ih =>
    obtain ⟨h₁, hheld₁, hsame₁, htiles₁, hn₁⟩ := h.load hheld fun s' hs' =>
      hagree s List.mem_cons_self s' (List.mem_append_right _ hs')
    have hagree₁ : ∀ s₁ ∈ spawns, ∀ s' ∈ spawns ++ s :: refs, s₁.node = s'.node → s₁.name = s'.name := by
      intro s₁ hs₁ s' hs'
      exact hagree s₁ (List.mem_cons_of_mem _ hs₁) s' (List.perm_middle.mem_iff.1 hs')
    obtain ⟨h₂, hheld₂, hsame₂, htiles₂, hn₂⟩ := ih h₁ hheld₁ hagree₁
    refine ⟨h₂.perm List.perm_middle, ?_, hsame₁.trans hsame₂ (List.subset_cons_self _ _), htiles₂.trans htiles₁,
      hn₂.trans hn₁⟩
    have hperm : (spawns ++ (s :: refs ++ others)).Perm (s :: spawns ++ (refs ++ others)) := List.perm_middle
    exact namesIn_perm hperm ▸ hheld₂

theorem TreeSound.unloads (spawns : List TileSpawn) (h : TreeSound models (spawns ++ refs) tree)
    (hheld : Held fs models (namesIn (spawns ++ (refs ++ others)))) :
    let unloaded := spawns.foldl StaticMapTree.unloadSpawn (models, tree)
    TreeSound unloaded.1 refs unloaded.2 ∧ Held fs unloaded.1 (namesIn (refs ++ others)) ∧
      SameModels (refs ++ others) models unloaded.1 ∧ unloaded.2.loadedTiles = tree.loadedTiles ∧
      unloaded.2.nTreeValues = tree.nTreeValues := by
  induction spawns generalizing models tree with
  | nil => exact ⟨h, hheld, fun _ _ => rfl, rfl, rfl⟩
  | cons s spawns ih =>
    have hheld : Held fs models (namesIn (s :: (spawns ++ refs ++ others))) := by
      rw [List.append_assoc]
      exact hheld
    have h : TreeSound models (s :: (spawns ++ refs)) tree := h
    obtain ⟨h₁, hheld₁, hsame₁, htiles₁, hn₁⟩ := h.unload hheld
    rw [List.append_assoc] at hheld₁ hsame₁
    obtain ⟨h₂, hheld₂, hsame₂, htiles₂, hn₂⟩ := ih h₁ hheld₁
    refine ⟨h₂, hheld₂, fun s' hs' => ?_, htiles₂.trans htiles₁, hn₂.trans hn₁⟩
    exact (hsame₂ s' hs').trans (hsame₁ s' (List.mem_append_right _ hs'))

/-! ## All nodes -/

/-- The references to nodes from `k` on. -/
def refsFrom (refs : List TileSpawn) (k : Nat) : List TileSpawn := refs.filter fun s => k ≤ s.node

theorem refsFrom_perm (refs : List TileSpawn) (k : Nat) :
    ((refs.filter fun s => s.node == k) ++ refsFrom refs (k + 1)).Perm (refsFrom refs k) := by
  have hfirst : (refsFrom refs k).filter (fun s => s.node == k) = refs.filter fun s => s.node == k := by
    unfold refsFrom
    rw [List.filter_filter]
    refine List.filter_congr fun s _ => ?_
    rw [Bool.and_eq_left_iff_imp]
    simp only [beq_iff_eq, decide_eq_true_eq]
    omega
  have hrest : (refsFrom refs k).filter (fun s => !(s.node == k)) = refsFrom refs (k + 1) := by
    unfold refsFrom
    rw [List.filter_filter]
    refine List.filter_congr fun s _ => ?_
    rw [Bool.eq_iff_iff]
    simp only [Bool.and_eq_true, Bool.not_eq_true', beq_eq_false_iff_ne, decide_eq_true_eq]
    omega
  have hperm := List.filter_append_perm (fun s : TileSpawn => s.node == k) (refsFrom refs k)
  rwa [hfirst, hrest] at hperm

theorem releaseTimes_held (name : String) (gone : List TileSpawn) (hname : ∀ s ∈ gone, s.name = name)
    (hheld : Held fs models (namesIn (gone ++ refs))) :
    Held fs (models.releaseTimes name gone.length) (namesIn refs) ∧
      SameModels refs models (models.releaseTimes name gone.length) := by
  induction gone generalizing refs with
  | nil => exact ⟨hheld, fun _ _ => rfl⟩
  | cons s gone ih =>
    have hperm : (gone ++ s :: refs).Perm (s :: gone ++ refs) := List.perm_middle
    obtain ⟨hheld₁, hsame₁⟩ := @ih (s :: refs) (fun s' hs' => hname s' (List.mem_cons_of_mem _ hs'))
      (namesIn_perm hperm ▸ hheld)
    obtain ⟨hheld₂, hsame₂⟩ := release_spawn hheld₁
    rw [hname s List.mem_cons_self] at hheld₂ hsame₂
    exact ⟨hheld₂, fun s' hs' => (hsame₂ s' hs').trans (hsame₁ s' (List.mem_cons_of_mem _ hs'))⟩

/-- **The first nodes are unloaded** in `UnloadMap`. -/
theorem unloadNodes_held (h : TreeSound models refs tree) (hheld : Held fs models (namesIn (refs ++ others))) (k : Nat) :
    let unloaded := (List.range k).foldl StaticMapTree.unloadNode (models, tree)
    Held fs unloaded.1 (namesIn (refsFrom refs k ++ others)) ∧ SameModels others models unloaded.1 ∧
      unloaded.2.loadedSpawns = tree.loadedSpawns ∧ ∀ n, k ≤ n → unloaded.2.treeValues n = tree.treeValues n := by
  induction k with
  | zero =>
    have hall : refsFrom refs 0 = refs := List.filter_eq_self.2 fun s _ => decide_eq_true (Nat.zero_le _)
    rw [hall]
    exact ⟨hheld, fun _ _ => rfl, rfl, fun _ _ => rfl⟩
  | succ k ih =>
    rw [List.range_succ, List.foldl_append, List.foldl_cons, List.foldl_nil]
    generalize (List.range k).foldl StaticMapTree.unloadNode (models, tree) = x at ih ⊢
    obtain ⟨hheld₁, hsame₁, hspawns, hvalues⟩ := ih
    have hperm := (refsFrom_perm refs k).append_right others
    rw [List.append_assoc] at hperm
    rw [← namesIn_perm hperm] at hheld₁
    have hlen : (refs.filter fun s => s.node == k).length = tree.loadedSpawns k := by
      rw [h.counts]
      exact List.countP_eq_length_filter.symm
    unfold StaticMapTree.unloadNode
    rw [hspawns]
    split
    · next hzero =>
      rw [hzero] at hlen
      rw [List.length_eq_zero_iff.1 hlen] at hheld₁
      exact ⟨hheld₁, hsame₁, hspawns, fun n hn => hvalues n (by omega)⟩
    · rw [hvalues k (Nat.le_refl k), ← hlen]
      have hname : ∀ s ∈ refs.filter fun s => s.node == k, s.name = (tree.treeValues k).name := by
        intro s hs
        obtain ⟨hs, hk⟩ := List.mem_filter.1 hs
        rw [← beq_iff_eq.1 hk, h.values s hs]
      obtain ⟨hheld₂, hsame₂⟩ := releaseTimes_held _ _ hname hheld₁
      refine ⟨hheld₂, fun s hs => (hsame₂ s (List.mem_append_right _ hs)).trans (hsame₁ s hs), hspawns, fun n hn => ?_⟩
      dsimp only
      rw [Function.update_of_ne (by omega), hvalues n (by omega)]

/-- **All nodes are unloaded**, those of a tree that is large enough. -/
theorem unloadMap_held (h : TreeSound models refs tree) (hheld : Held fs models (namesIn (refs ++ others)))
    (hbelow : ∀ s ∈ refs, s.node < tree.nTreeValues) :
    Held fs (tree.unloadMap models).1 (namesIn others) ∧ SameModels others models (tree.unloadMap models).1 := by
  obtain ⟨hheld', hsame, -, -⟩ := unloadNodes_held h hheld tree.nTreeValues
  have hnil : refsFrom refs tree.nTreeValues = [] :=
    List.filter_eq_nil_iff.2 fun s hs hle => Nat.not_lt.2 (of_decide_eq_true hle) (hbelow s hs)
  rw [hnil] at hheld'
  exact ⟨hheld', hsame⟩

/-! ## The manager -/

theorem packTileID_eq (t : MapTile) : packTileID t.x t.y = t.x * 65536 + t.y := by
  have hx := t.x_lt
  have hy := t.y_lt
  have hor : t.x <<< 16 + t.y = t.x <<< 16 ||| t.y := Nat.shiftLeft_add_eq_or_of_lt hy t.x
  unfold packTileID
  rw [← hor, Nat.shiftLeft_eq]
  omega

variable (fs) in
theorem tile_packTileID (t : MapTile) :
    fs.tile t.map (packTileID t.x t.y >>> 16) (packTileID t.x t.y % 65536) = fs.tile t.map t.x t.y := by
  have hx := t.x_lt
  have hy := t.y_lt
  rw [packTileID_eq, Nat.shiftRight_eq_div_pow]
  congr 1 <;> omega

/-- A manager whose trees are sound, with the files of their tiles. -/
structure ManagerSound (fs : VMapFiles) (v : VMapManager2) : Prop where
  held : Held fs v.models (namesIn (v.references fs))
  trees : ∀ m tree, v.trees.lookup m = some tree → TreeSound v.models (tree.references fs m) tree
  tiles : ∀ m tree, v.trees.lookup m = some tree → ∀ t ∈ tree.loadedTiles.entries,
    t.2 = (fs.tile m (t.1 >>> 16) (t.1 % 65536)).isSome
  sizes : ∀ m tree, v.trees.lookup m = some tree → fs.treeSize m = some tree.nTreeValues

/-- The references in all trees but one. -/
def otherRefs (fs : VMapFiles) (v : VMapManager2) (m : Nat) : List TileSpawn :=
  (v.trees.erase m).entries.flatMap fun t => t.2.references fs t.1

variable {v : VMapManager2} {m : Nat}

variable (fs) in
theorem references_perm (h : v.trees.lookup m = some tree) :
    (v.references fs).Perm (tree.references fs m ++ otherRefs fs v m) :=
  (FiniteMap.entries_perm h).flatMap_right _

theorem references_none (h : v.trees.lookup m = none) : v.references fs = otherRefs fs v m := by
  unfold VMapManager2.references otherRefs
  rw [FiniteMap.entries_erase_none h]

theorem references_insertTile (id : Nat) (b : Bool) (tree : StaticMapTree) :
    ({ tree with loadedTiles := tree.loadedTiles.insert id b } : StaticMapTree).references fs m =
      tileSpawns fs m id ++ ({ tree with loadedTiles := tree.loadedTiles.erase id } : StaticMapTree).references fs m :=
  rfl

theorem below_references (h : ManagerSound fs v) (hm : v.trees.lookup m = some tree) :
    ∀ s ∈ tree.references fs m, s.node < tree.nTreeValues := by
  intro s hs
  obtain ⟨t, -, hs⟩ := List.mem_flatMap.1 hs
  unfold tileSpawns at hs
  split at hs
  · next f hf => exact fs.below m _ _ _ f (h.sizes m tree hm) hf s hs
  · cases hs

/-- **A tree is changed**, and the models that others name stay. -/
theorem ManagerSound.change (h : ManagerSound fs v) {models' : ModelFiles} {tree' : StaticMapTree}
    (hheld : Held fs models' (namesIn (tree'.references fs m ++ otherRefs fs v m)))
    (hsame : SameModels (otherRefs fs v m) v.models models') (htree : TreeSound models' (tree'.references fs m) tree')
    (htiles : ∀ t ∈ tree'.loadedTiles.entries, t.2 = (fs.tile m (t.1 >>> 16) (t.1 % 65536)).isSome)
    (hsize : fs.treeSize m = some tree'.nTreeValues) :
    ManagerSound fs { models := models', trees := v.trees.insert m tree' } := by
  refine ⟨hheld, fun m' tree₁ hm' => ?_, fun m' tree₁ hm' => ?_, fun m' tree₁ hm' => ?_⟩
  · rcases FiniteMap.lookup_insert_cases hm' with ⟨rfl, rfl⟩ | ⟨hne, hm'⟩
    · exact htree
    · refine (h.trees m' tree₁ hm').same fun s hs => hsame s ?_
      have hin : (⟨m', tree₁⟩ : Sigma fun _ : Nat => StaticMapTree) ∈ (v.trees.erase m).entries := by
        rw [← AList.mem_lookup_iff, AList.lookup_erase_ne hne]
        exact hm'
      exact List.mem_flatMap.2 ⟨_, hin, hs⟩
  · rcases FiniteMap.lookup_insert_cases hm' with ⟨rfl, rfl⟩ | ⟨-, hm'⟩
    · exact htiles
    · exact h.tiles m' tree₁ hm'
  · rcases FiniteMap.lookup_insert_cases hm' with ⟨rfl, rfl⟩ | ⟨-, hm'⟩
    · exact hsize
    · exact h.sizes m' tree₁ hm'

/-- **A tree is deleted**, when nothing refers to it. -/
theorem ManagerSound.delete (h : ManagerSound fs v) {models' : ModelFiles}
    (hheld : Held fs models' (namesIn (otherRefs fs v m))) (hsame : SameModels (otherRefs fs v m) v.models models') :
    ManagerSound fs { models := models', trees := v.trees.erase m } := by
  refine ⟨hheld, fun m' tree₁ hm' => ?_, fun m' tree₁ hm' => h.tiles m' tree₁ (FiniteMap.lookup_of_erase hm').2,
    fun m' tree₁ hm' => h.sizes m' tree₁ (FiniteMap.lookup_of_erase hm').2⟩
  refine (h.trees m' tree₁ (FiniteMap.lookup_of_erase hm').2).same fun s hs => hsame s ?_
  exact List.mem_flatMap.2 ⟨⟨m', tree₁⟩, AList.mem_lookup_iff.1 hm', hs⟩

/-! ## Steps -/

variable (fs m) in
theorem references_loadTile (id : Nat) (b : Bool) (tree : StaticMapTree)
    (h : tileSpawns fs m id = [] ∨ tree.loadedTiles.lookup id = none) :
    (({ tree with loadedTiles := tree.loadedTiles.insert id b } : StaticMapTree).references fs m).Perm
      (tileSpawns fs m id ++ tree.references fs m) := by
  rw [references_insertTile]
  refine List.Perm.append_left _ ?_
  cases hl : tree.loadedTiles.lookup id with
  | none =>
    unfold StaticMapTree.references
    dsimp only
    rw [FiniteMap.entries_erase_none hl]
  | some b' =>
    have hnil := h.resolve_right (by rw [hl]; nofun)
    have hperm := (FiniteMap.entries_perm hl).flatMap_right fun t => tileSpawns fs m t.1
    rw [List.flatMap_cons, hnil, List.nil_append] at hperm
    exact hperm.symm

variable (fs m) in
theorem references_unloadTile {id : Nat} {b : Bool} (hl : tree.loadedTiles.lookup id = some b) :
    (tree.references fs m).Perm (tileSpawns fs m id ++
      ({ tree with loadedTiles := tree.loadedTiles.erase id } : StaticMapTree).references fs m) := by
  have hperm := (FiniteMap.entries_perm hl).flatMap_right fun t => tileSpawns fs m t.1
  rw [List.flatMap_cons] at hperm
  exact hperm

theorem references_congr {tree' : StaticMapTree} (h : tree'.loadedTiles = tree.loadedTiles) :
    tree'.references fs m = tree.references fs m := by
  unfold StaticMapTree.references
  rw [h]

theorem ManagerSound.openTree (h : ManagerSound fs v) (ho : (v.trees.lookup m).or
      ((fs.treeSize m).map fun n => ({ nTreeValues := n } : StaticMapTree)) = some tree) :
    TreeSound v.models (tree.references fs m) tree ∧
      Held fs v.models (namesIn (tree.references fs m ++ otherRefs fs v m)) ∧
      (∀ t ∈ tree.loadedTiles.entries, t.2 = (fs.tile m (t.1 >>> 16) (t.1 % 65536)).isSome) ∧
      fs.treeSize m = some tree.nTreeValues := by
  cases hl : v.trees.lookup m with
  | some tree' =>
    rw [hl, Option.some_or] at ho
    cases ho
    exact ⟨h.trees m tree hl, namesIn_perm (references_perm fs hl) ▸ h.held, h.tiles m tree hl, h.sizes m tree hl⟩
  | none =>
    rw [hl, Option.none_or] at ho
    obtain ⟨n, hn, rfl⟩ := Option.map_eq_some_iff.1 ho
    refine ⟨⟨fun _ => rfl, nofun, fun _ _ => rfl⟩, ?_, nofun, hn⟩
    have hheld := h.held
    rw [references_none hl] at hheld
    exact hheld

theorem files_insert {tiles : AList fun _ : Nat => Bool} {id : Nat}
    (h : ∀ t ∈ tiles.entries, t.2 = (fs.tile m (t.1 >>> 16) (t.1 % 65536)).isSome) {b : Bool}
    (hb : b = (fs.tile m (id >>> 16) (id % 65536)).isSome) :
    ∀ t ∈ (tiles.insert id b).entries, t.2 = (fs.tile m (t.1 >>> 16) (t.1 % 65536)).isSome := by
  intro t ht
  rcases List.mem_cons.1 ht with rfl | ht
  · exact hb
  · exact h t ((List.kerase_sublist id _).mem ht)

theorem ManagerSound.loadMap (h : ManagerSound fs v) {t : MapTile} (hagree : Agrees fs v (.loadTile t)) :
    ManagerSound fs (v.loadMap fs t) := by
  unfold VMapManager2.loadMap
  split
  · exact h
  next tree ho =>
  obtain ⟨htree, hheld, htiles, hsize⟩ := h.openTree ho
  obtain ⟨hnew, hnames⟩ := hagree.resolve_left (by rw [hsize]; nofun)
  have hrefs : tree.references fs t.map = ((v.trees.lookup t.map).map fun tree => tree.references fs t.map).getD [] := by
    cases hl : v.trees.lookup t.map with
    | some tree' =>
      rw [hl, Option.some_or] at ho
      cases ho
      rfl
    | none =>
      rw [hl, Option.none_or] at ho
      obtain ⟨n, -, rfl⟩ := Option.map_eq_some_iff.1 ho
      rfl
  have hnew : tileSpawns fs t.map (packTileID t.x t.y) = [] ∨ tree.loadedTiles.lookup (packTileID t.x t.y) = none := by
    refine hnew.imp_right fun hall => ?_
    cases hl : v.trees.lookup t.map with
    | some tree' =>
      rw [hl, Option.some_or] at ho
      cases ho
      rw [hl] at hall
      exact Option.isNone_iff_eq_none.1 hall
    | none =>
      rw [hl, Option.none_or] at ho
      obtain ⟨n, -, rfl⟩ := Option.map_eq_some_iff.1 ho
      rfl
  have hfile := tile_packTileID fs t
  unfold StaticMapTree.loadMapTile
  split
  · next f hf =>
    rw [hf] at hfile
    have hspawns : tileSpawns fs t.map (packTileID t.x t.y) = f.spawns := by
      unfold tileSpawns
      rw [hfile]
    rw [← hrefs, hspawns] at hnames
    obtain ⟨h₁, hheld₁, hsame₁, htiles₁, hn₁⟩ := htree.loads f.spawns hheld hnames
    generalize f.spawns.foldl (StaticMapTree.loadSpawn fs) (v.models, tree) = x at h₁ hheld₁ hsame₁ htiles₁ hn₁ ⊢
    have hperm := references_loadTile fs t.map (packTileID t.x t.y) true x.2
      (by rw [htiles₁]; exact hnew)
    rw [hspawns, references_congr htiles₁] at hperm
    refine h.change ?_ (fun s hs => hsame₁ s (List.mem_append_right _ hs)) ?_ ?_ (hn₁ ▸ hsize)
    · rw [← List.append_assoc] at hheld₁
      exact namesIn_perm (hperm.append_right _) ▸ hheld₁
    · have hsound := h₁.perm hperm.symm
      exact ⟨hsound.counts, hsound.values, hsound.idle⟩
    · exact files_insert (htiles₁ ▸ htiles) (by rw [hfile]; rfl)
  · next hf =>
    rw [hf] at hfile
    have hspawns : tileSpawns fs t.map (packTileID t.x t.y) = [] := by
      unfold tileSpawns
      rw [hfile]
    have hperm := references_loadTile fs t.map (packTileID t.x t.y) false tree (Or.inl hspawns)
    rw [hspawns, List.nil_append] at hperm
    refine h.change ?_ (fun _ _ => rfl) ?_ ?_ hsize
    · exact namesIn_perm (hperm.append_right _) ▸ hheld
    · have hsound := htree.perm hperm.symm
      exact ⟨hsound.counts, hsound.values, hsound.idle⟩
    · exact files_insert htiles (by rw [hfile]; rfl)

theorem ManagerSound.keepTree (h : ManagerSound fs v) {x : ModelFiles × StaticMapTree}
    (hheld : Held fs x.1 (namesIn (x.2.references fs m ++ otherRefs fs v m)))
    (hsame : SameModels (otherRefs fs v m) v.models x.1) (htree : TreeSound x.1 (x.2.references fs m) x.2)
    (htiles : ∀ t ∈ x.2.loadedTiles.entries, t.2 = (fs.tile m (t.1 >>> 16) (t.1 % 65536)).isSome)
    (hsize : fs.treeSize m = some x.2.nTreeValues) : ManagerSound fs (v.keepTree m x) := by
  unfold VMapManager2.keepTree
  split
  · next hnone =>
    have hnil : x.2.references fs m = [] := by
      unfold StaticMapTree.references
      rw [List.length_eq_zero_iff.1 hnone]
      rfl
    rw [hnil] at hheld
    exact h.delete hheld hsame
  · exact h.change hheld hsame htree htiles hsize

theorem ManagerSound.unloadTile (h : ManagerSound fs v) (t : MapTile) : ManagerSound fs (v.unloadTile fs t) := by
  unfold VMapManager2.unloadTile
  split
  · exact h
  next tree hl =>
  have htree := h.trees t.map tree hl
  have hheld := namesIn_perm (references_perm fs hl) ▸ h.held
  have htiles := h.tiles t.map tree hl
  have hsize := h.sizes t.map tree hl
  unfold StaticMapTree.unloadMapTile
  split
  · exact h.keepTree hheld (fun _ _ => rfl) htree htiles hsize
  next withFile hid =>
  have hperm := references_unloadTile fs t.map hid
  have hfile := tile_packTileID fs t
  have hwith : withFile = (fs.tile t.map t.x t.y).isSome := by
    have hin := htiles ⟨_, withFile⟩ (AList.mem_lookup_iff.1 hid)
    rw [← hfile]
    exact hin
  have herase : ∀ t' ∈ (tree.loadedTiles.erase (packTileID t.x t.y)).entries,
      t'.2 = (fs.tile t.map (t'.1 >>> 16) (t'.1 % 65536)).isSome :=
    fun t' ht' => htiles t' ((List.kerase_sublist _ _).mem ht')
  have hspawns : tileSpawns fs t.map (packTileID t.x t.y) = ((fs.tile t.map t.x t.y).map TileFile.spawns).getD [] := by
    unfold tileSpawns
    rw [hfile]
    cases fs.tile t.map t.x t.y <;> rfl
  rw [hspawns] at hperm
  dsimp only
  cases hf : fs.tile t.map t.x t.y with
  | none =>
    rw [hf] at hwith hperm
    cases hwith
    refine h.keepTree ?_ (fun _ _ => rfl) ?_ herase hsize
    · exact namesIn_perm (hperm.append_right _) ▸ hheld
    · have hsound := htree.perm hperm
      exact ⟨hsound.counts, hsound.values, hsound.idle⟩
  | some f =>
    rw [hf] at hwith hperm
    cases hwith
    have hperm' := hperm.append_right (otherRefs fs v t.map)
    rw [List.append_assoc] at hperm'
    obtain ⟨h₁, hheld₁, hsame₁, htiles₁, hn₁⟩ := TreeSound.unloads f.spawns (htree.perm hperm) (namesIn_perm hperm' ▸ hheld)
    rw [if_pos (by rfl)]
    dsimp only
    generalize f.spawns.foldl StaticMapTree.unloadSpawn (v.models, tree) = x at h₁ hheld₁ hsame₁ htiles₁ hn₁ ⊢
    rw [← htiles₁] at h₁ hheld₁ hsame₁ herase
    exact h.keepTree hheld₁ (fun s hs => hsame₁ s (List.mem_append_right _ hs)) ⟨h₁.counts, h₁.values, h₁.idle⟩ herase
      (hn₁ ▸ hsize)

theorem ManagerSound.unloadMap (h : ManagerSound fs v) (m : Nat) : ManagerSound fs (v.unloadMap m) := by
  unfold VMapManager2.unloadMap
  split
  · exact h
  next tree hl =>
  obtain ⟨hheld, hsame⟩ := unloadMap_held (h.trees m tree hl) (namesIn_perm (references_perm fs hl) ▸ h.held)
    (below_references h hl)
  have hnone : (tree.unloadMap v.models).2.numLoadedTiles = 0 := rfl
  unfold VMapManager2.keepTree
  rw [if_pos hnone]
  exact h.delete hheld hsame

theorem ManagerSound.counted (h : ManagerSound fs v) : Counted fs v where
  nodes := fun m tree hl => (h.trees m tree hl).counts
  models := h.held
  pointers := by
    intro m tree hl n p hp
    have hsound := h.trees m tree hl
    have hpos : 0 < nodesIn (tree.references fs m) n := by
      rw [← hsound.counts]
      refine Nat.pos_of_ne_zero fun hzero => ?_
      rw [hsound.idle n hzero] at hp
      cases hp
    obtain ⟨s, hs, hn⟩ := List.countP_pos_iff.1 hpos
    have hvalue := hsound.values s hs
    rw [beq_iff_eq.1 hn] at hvalue
    rw [hvalue] at hp ⊢
    exact Option.map_eq_some_iff.1 hp

/-! ## Result -/

/-- **The counts of nodes and models** in every run of loads and unloads of tiles and maps: as long as no tile with
spawns is loaded twice and the spawns of a node agree, they are right after every step. -/
theorem models_counted (fs : VMapFiles) (es : List VMapStep)
    (h : Transition.Along (VMapManager2.step fs) (Agrees fs) {} es) :
    Transition.Along (VMapManager2.step fs) (fun v e => Counted fs (v.step fs e)) {} es := by
  have hstep : ∀ v e, ManagerSound fs v → Agrees fs v e → ManagerSound fs (v.step fs e) := by
    intro v e hv he
    cases e with
    | loadTile t => exact hv.loadMap he
    | unloadTile t => exact hv.unloadTile t
    | unloadMap m => exact hv.unloadMap m
  have hstart : ManagerSound fs {} := ⟨fun name _ => rfl, nofun, nofun, nofun⟩
  exact Transition.along_of_invariant (I := ManagerSound fs) hstep (fun v e hv he => (hstep v e hv he).counted) hstart h

/-! ### Two tiles that share a node -/

/-- Two tiles with a house on their border, and a tower of which the file is missing. -/
def sampleTileFiles : VMapFiles where
  treeSize m := if m = 0 then some 2 else none
  tile m x y :=
    if m = 0 ∧ y = 0 then
      if x = 0 then some ⟨[⟨"house", 0⟩]⟩ else if x = 1 then some ⟨[⟨"house", 0⟩, ⟨"tower", 1⟩]⟩ else none
    else none
  readable name := name == "house"
  below := by
    intro m n x y f hn hf
    split at hn
    · cases hn
      split at hf
      · split at hf
        · cases hf
          decide
        · split at hf
          · cases hf
            decide
          · cases hf
      · cases hf
    · cases hn

def sampleMapTile (x : Nat) (h : x < 65536 := by decide) : MapTile := ⟨0, x, 0, h, by decide⟩

theorem models_counted_sample :
    Transition.Along (VMapManager2.step sampleTileFiles) (fun v e => Counted sampleTileFiles (v.step sampleTileFiles e)) {}
      [.loadTile (sampleMapTile 0), .loadTile (sampleMapTile 1), .unloadTile (sampleMapTile 0), .unloadMap 0] :=
  models_counted sampleTileFiles _
    ⟨Or.inr ⟨Or.inr rfl, by decide⟩, Or.inr ⟨Or.inr rfl, by decide⟩, trivial, trivial, trivial⟩

/-- A tile that is loaded twice counts twice. -/
theorem reload_miscounts : ¬ ∀ (fs : VMapFiles) (es : List VMapStep),
    Transition.Along (VMapManager2.step fs) (fun v e => Counted fs (v.step fs e)) {} es := by
  intro h
  have hcounted := (h sampleTileFiles [.loadTile (sampleMapTile 0), .loadTile (sampleMapTile 0)]).2.1
  exact absurd (hcounted.nodes 0 _ rfl 0) (by decide)

end BlizzLike
