import BlizzLikeCore.Collision.BuildTurns

/-!
# The tree that `subdivide` writes

A call writes the node it is given and appends the nodes below it. When its part settles, the subtree has
the shape `Shape`; otherwise, if it returns at all, its leaves hold fewer boxes than its range.

    loop_outcome      : what a call that returns has written, by induction over the fuel
    Settles.returns   : a part that settles makes the call return
-/

namespace BlizzLike.Bih

variable {n : ℕ} {dat : BuildData n}

/-! ## Cells -/

section Cells

variable {tree : List Cell} {node k : ℕ} {w : UInt32} {l r : Coord}

@[simp] theorem length_allocate : (allocate tree).length = tree.length + 3 := by
  simp [allocate]

@[simp] theorem length_writeNode : (writeNode tree node w l r).length = tree.length := by
  simp [writeNode]

@[simp] theorem length_createNode {left stop : ℕ} : (createNode tree node left stop).length = tree.length := by
  simp [createNode]

theorem allocate_old (h : k < tree.length) : (allocate tree)[k]? = tree[k]? := by
  unfold allocate
  rw [List.getElem?_append_left h]

theorem writeNode_word (h : node + 3 ≤ tree.length) : (writeNode tree node w l r)[node]? = some (.word w) := by
  unfold writeNode
  rw [List.getElem?_set_ne (by omega), List.getElem?_set_ne (by omega), List.getElem?_set_self (by omega)]

theorem writeNode_left (h : node + 3 ≤ tree.length) : (writeNode tree node w l r)[node + 1]? = some (.clip l) := by
  unfold writeNode
  rw [List.getElem?_set_ne (by omega), List.getElem?_set_self (by simp; omega)]

theorem writeNode_right (h : node + 3 ≤ tree.length) : (writeNode tree node w l r)[node + 2]? = some (.clip r) := by
  unfold writeNode
  rw [List.getElem?_set_self (by simp; omega)]

theorem writeNode_old (h : k < node ∨ node + 3 ≤ k) : (writeNode tree node w l r)[k]? = tree[k]? := by
  unfold writeNode
  rw [List.getElem?_set_ne (by omega), List.getElem?_set_ne (by omega), List.getElem?_set_ne (by omega)]

theorem createNode_word {left stop : ℕ} (h : node + 3 ≤ tree.length) :
    (createNode tree node left stop)[node]? = some (.word (leafWord left)) := by
  unfold createNode
  rw [List.getElem?_set_ne (by omega), List.getElem?_set_self (by omega)]

theorem createNode_count {left stop : ℕ} (h : node + 3 ≤ tree.length) :
    (createNode tree node left stop)[node + 1]? = some (.word (UInt32.ofNat (stop - left))) := by
  unfold createNode
  rw [List.getElem?_set_self (by simp; omega)]

theorem createNode_old {left stop : ℕ} (h : k < node ∨ node + 3 ≤ k) :
    (createNode tree node left stop)[k]? = tree[k]? := by
  unfold createNode
  rw [List.getElem?_set_ne (by omega), List.getElem?_set_ne (by omega)]

end Cells

/-! ## Leaves -/

def axisOf (tn : UInt32) : UInt32 := (tn &&& ((3 : UInt32) <<< 30)) >>> 30

def isBvh2 (tn : UInt32) : Bool := (tn &&& ((1 : UInt32) <<< 29)) != 0

def offsetOf (tn : UInt32) : UInt32 := tn &&& ~~~((7 : UInt32) <<< 29)

/-- Offset and number of objects, of a leaf. -/
def leafRange (tree : List Cell) (node : ℕ) : Option (ℕ × ℕ) :=
  match tree[node]?, tree[node + 1]? with
  | some (.word tn), some (.word count) =>
    if axisOf tn = 3 ∧ isBvh2 tn = false then some ((offsetOf tn).toNat, (toInt count).toNat) else none
  | _, _ => none

/-- A number for each node, over a node and the `k` nodes from `next` on. -/
def total (g : ℕ → ℕ) (node next k : ℕ) : ℕ := g node + ∑ j ∈ Finset.range k, g (next + 3 * j)

section Totals

variable {g g' : ℕ → ℕ} {node next k m : ℕ}

theorem total_zero : total g node next 0 = g node := rfl

theorem total_congr (hnode : g' node = g node) (h : ∀ j < k, g' (next + 3 * j) = g (next + 3 * j)) :
    total g' node next k = total g node next k := by
  unfold total
  rw [hnode, Finset.sum_congr rfl fun j hj => h j (Finset.mem_range.1 hj)]

theorem total_chain : total g node next (k + 1) = g node + total g next (next + 3) k := by
  unfold total
  rw [Finset.sum_range_succ', add_comm (∑ _ ∈ _, _)]
  congr 2
  refine Finset.sum_congr rfl fun j _ => ?_
  congr 1
  ring

theorem total_split :
    total g node next (k + m + 2) =
      g node + (total g next (next + 6) k + total g (next + 3) (next + 6 + 3 * k) m) := by
  rw [total_chain]
  unfold total
  rw [Finset.sum_range_succ', Finset.sum_range_add]
  have hk : ∀ j, next + 3 + 3 * (j + 1) = next + 6 + 3 * j := fun j => by ring
  have hm : ∀ j, next + 6 + 3 * (k + j) = next + 6 + 3 * k + 3 * j := fun j => by ring
  simp only [hk, hm, Nat.mul_zero, Nat.add_zero]
  ring

end Totals

/-! ## The shape of a subtree -/

/-- **The shape of a settled subtree**: the node, with `k` nodes from `next` on below it, holds the range
`[left, stop)` of the index array, and a search of it pushes no more than `budget` nodes at a time. -/
inductive Shape (dat : BuildData n) (indices : ℕ → Fin n) (tree : List Cell) :
    (node next k left stop budget : ℕ) → Prop
  | leaf {node next left stop budget} (hlt : left < stop) (h0 : tree[node]? = some (.word (leafWord left)))
      (h1 : tree[node + 1]? = some (.word (UInt32.ofNat (stop - left)))) :
      Shape dat indices tree node next 0 left stop budget
  /-- Empty space is cut off on both sides. -/
  | clip {node next k left stop below budget} {axis : Fin 3} {l r : Coord}
      (h0 : tree[node]? = some (.word (bvh2Word axis next))) (h1 : tree[node + 1]? = some (.clip l))
      (h2 : tree[node + 2]? = some (.clip r))
      (hbox : ∀ i ∈ slice indices left stop, l ≤ Coord.ofRat (dat.minb i axis) ∧ Coord.ofRat (dat.maxb i axis) ≤ r)
      (hbudget : below ≤ budget) (hk : Shape dat indices tree next (next + 3) k left stop below) :
      Shape dat indices tree node next (k + 1) left stop budget
  /-- A split with a left child only. -/
  | lower {node next k left stop budget} {axis : Fin 3} {c : Coord}
      (h0 : tree[node]? = some (.word (innerWord axis next))) (h1 : tree[node + 1]? = some (.clip c))
      (h2 : tree[node + 2]? = some (.clip ⊤))
      (hbox : ∀ i ∈ slice indices left stop, Coord.ofRat (dat.maxb i axis) ≤ c)
      (hk : Shape dat indices tree next (next + 3) k left stop budget) :
      Shape dat indices tree node next (k + 1) left stop budget
  /-- A split with a right child only. -/
  | upper {node next k left stop budget} {axis : Fin 3} {c : Coord}
      (h0 : tree[node]? = some (.word (innerWord axis (next - 3)))) (h1 : tree[node + 1]? = some (.clip ⊥))
      (h2 : tree[node + 2]? = some (.clip c)) (hnext : 3 ≤ next)
      (hbox : ∀ i ∈ slice indices left stop, c ≤ Coord.ofRat (dat.minb i axis))
      (hk : Shape dat indices tree next (next + 3) k left stop budget) :
      Shape dat indices tree node next (k + 1) left stop budget
  | split {node next k m left mid stop below budget} {axis : Fin 3} {l r : Coord}
      (h0 : tree[node]? = some (.word (innerWord axis next))) (h1 : tree[node + 1]? = some (.clip l))
      (h2 : tree[node + 2]? = some (.clip r)) (hmid : left ≤ mid ∧ mid ≤ stop) (hbudget : below < budget)
      (hl : ∀ i ∈ slice indices left mid, Coord.ofRat (dat.maxb i axis) ≤ l)
      (hr : ∀ i ∈ slice indices mid stop, r ≤ Coord.ofRat (dat.minb i axis))
      (hk : Shape dat indices tree next (next + 6) k left mid below)
      (hm : Shape dat indices tree (next + 3) (next + 6 + 3 * k) m mid stop below) :
      Shape dat indices tree node next (k + m + 2) left stop budget

section Shapes

variable {indices indices' : ℕ → Fin n} {tree tree' : List Cell} {node next k left stop budget : ℕ}

theorem Shape.congr (h : Shape dat indices tree node next k left stop budget)
    (hnode : ∀ c, node ≤ c → c < node + 3 → tree'[c]? = tree[c]?)
    (hnext : ∀ c, next ≤ c → c < next + 3 * k → tree'[c]? = tree[c]?)
    (hindices : ∀ j, left ≤ j → j < stop → indices' j = indices j) :
    Shape dat indices' tree' node next k left stop budget := by
  induction h with
  | leaf hlt h0 h1 =>
    exact .leaf hlt (by rw [hnode _ (by omega) (by omega), h0]) (by rw [hnode _ (by omega) (by omega), h1])
  | clip h0 h1 h2 hbox hbudget _ ih =>
    refine .clip (by rw [hnode _ (by omega) (by omega), h0]) (by rw [hnode _ (by omega) (by omega), h1])
      (by rw [hnode _ (by omega) (by omega), h2]) (by rwa [slice_congr hindices]) hbudget (ih ?_ ?_ hindices)
    · exact fun c h h' => hnext c (by omega) (by omega)
    · exact fun c h h' => hnext c (by omega) (by omega)
  | lower h0 h1 h2 hbox _ ih =>
    refine .lower (by rw [hnode _ (by omega) (by omega), h0]) (by rw [hnode _ (by omega) (by omega), h1])
      (by rw [hnode _ (by omega) (by omega), h2]) (by rwa [slice_congr hindices]) (ih ?_ ?_ hindices)
    · exact fun c h h' => hnext c (by omega) (by omega)
    · exact fun c h h' => hnext c (by omega) (by omega)
  | upper h0 h1 h2 h3 hbox _ ih =>
    refine .upper (by rw [hnode _ (by omega) (by omega), h0]) (by rw [hnode _ (by omega) (by omega), h1])
      (by rw [hnode _ (by omega) (by omega), h2]) h3 (by rwa [slice_congr hindices]) (ih ?_ ?_ hindices)
    · exact fun c h h' => hnext c (by omega) (by omega)
    · exact fun c h h' => hnext c (by omega) (by omega)
  | split h0 h1 h2 hmid hbudget hl hr _ _ ihl ihr =>
    have hleft : ∀ j, _ ≤ j → j < _ → indices' j = indices j := fun j h h' => hindices j h (h'.trans_le hmid.2)
    have hright : ∀ j, _ ≤ j → j < _ → indices' j = indices j := fun j h h' => hindices j (hmid.1.trans h) h'
    refine .split (by rw [hnode _ (by omega) (by omega), h0]) (by rw [hnode _ (by omega) (by omega), h1])
      (by rw [hnode _ (by omega) (by omega), h2]) hmid hbudget (by rwa [slice_congr hleft])
      (by rwa [slice_congr hright]) (ihl ?_ ?_ hleft) (ihr ?_ ?_ hright)
    · exact fun c h h' => hnext c (by omega) (by omega)
    · exact fun c h h' => hnext c (by omega) (by omega)
    · exact fun c h h' => hnext c (by omega) (by omega)
    · exact fun c h h' => hnext c (by omega) (by omega)

end Shapes

/-! ## What a call writes -/

/-- The number of objects of a node, when it is a leaf. -/
def leafCount (tree : List Cell) (node : ℕ) : ℕ := ((leafRange tree node).map Prod.snd).getD 0

/-- A call of the range `[left, stop)` writes its node, appends `k` nodes and permutes its range; no more boxes
than the range has are in its leaves. -/
structure Wrote (left stop : ℕ) (indices : ℕ → Fin n) (tree : List Cell) (node : ℕ) (tree' : List Cell)
    (indices' : ℕ → Fin n) (k : ℕ) : Prop where
  shuffles : Shuffles left stop indices indices'
  length : tree'.length = tree.length + 3 * k
  old : ∀ c, c < tree.length → (c < node ∨ node + 3 ≤ c) → tree'[c]? = tree[c]?
  held : total (leafCount tree') node tree.length k ≤ stop - left

section Writes

variable {tree tree' tree₁ tree₂ : List Cell} {indices indices' indices₁ : ℕ → Fin n}
  {node k m left mid stop : ℕ} {w : UInt32} {l r : Coord}

theorem leafCount_congr (h0 : tree'[node]? = tree[node]?) (h1 : tree'[node + 1]? = tree[node + 1]?) :
    leafCount tree' node = leafCount tree node := by
  unfold leafCount leafRange
  rw [h0, h1]

theorem leafCount_inner (h : tree[node + 1]? = some (.clip l)) : leafCount tree node = 0 := by
  unfold leafCount leafRange
  rw [h]
  split
  · next h' => cases h'
  · rfl

theorem toInt_ofNat_le (c : ℕ) : (toInt (UInt32.ofNat c)).toNat ≤ c := by
  have hle : (UInt32.ofNat c).toNat ≤ c := by
    rw [UInt32.toNat_ofNat']
    exact Nat.mod_le _ _
  have hint : toInt (UInt32.ofNat c) ≤ ((UInt32.ofNat c).toNat : ℤ) := by
    unfold toInt
    rw [BitVec.toInt_eq_toNat_cond]
    split
    · exact le_rfl
    · show ((UInt32.ofNat c).toNat : ℤ) - _ ≤ _
      omega
  omega

theorem leafCount_leaf (h : tree[node + 1]? = some (.word (UInt32.ofNat k))) : leafCount tree node ≤ k := by
  unfold leafCount leafRange
  rw [h]
  split
  · next heq =>
    cases heq
    split
    · exact toInt_ofNat_le k
    · exact Nat.zero_le _
  · exact Nat.zero_le _

theorem wrote_leaf (hnode : node + 3 ≤ tree.length) (hmid : mid ≤ stop) (h : Shuffles left stop indices indices') :
    Wrote left stop indices tree node (createNode tree node left mid) indices' 0 := by
  refine ⟨h, length_createNode, fun c _ hc => createNode_old hc, ?_⟩
  exact (leafCount_leaf (createNode_count hnode)).trans (Nat.sub_le_sub_right hmid left)

theorem writeNode_allocate_old {c : ℕ} (hc : c < tree.length) (hout : c < node ∨ node + 3 ≤ c) :
    (writeNode (allocate tree) node w l r)[c]? = tree[c]? := by
  rw [writeNode_old hout, allocate_old hc]

theorem Wrote.cells (h : Wrote left stop indices tree₁ mid tree' indices' k) (hnode : node + 3 ≤ mid)
    (hmid : mid ≤ tree₁.length) (hcells : tree₁ = writeNode tree node w l r) :
    tree'[node]? = some (.word w) ∧ tree'[node + 1]? = some (.clip l) ∧ tree'[node + 2]? = some (.clip r) := by
  have hlength : node + 3 ≤ tree.length := by
    rw [hcells, length_writeNode] at hmid
    omega
  rw [h.old node (by omega) (by omega), h.old (node + 1) (by omega) (by omega), h.old (node + 2) (by omega) (by omega),
    hcells]
  exact ⟨writeNode_word hlength, writeNode_left hlength, writeNode_right hlength⟩

theorem Wrote.chain (h : Wrote left stop indices (writeNode (allocate tree) node w l r) tree.length tree' indices' k)
    (hnode : node + 3 ≤ tree.length) :
    Wrote left stop indices tree node tree' indices' (k + 1) ∧
      total (leafCount tree') node tree.length (k + 1) =
        total (leafCount tree') tree.length (tree.length + 3) k := by
  obtain ⟨-, h1, -⟩ := h.cells hnode (by simp) rfl
  have htotal : total (leafCount tree') node tree.length (k + 1) =
      total (leafCount tree') tree.length (tree.length + 3) k := by
    rw [total_chain, leafCount_inner h1, Nat.zero_add]
  have hlength := h.length
  have hheld := h.held
  rw [length_writeNode, length_allocate] at hlength hheld
  refine ⟨⟨h.shuffles, by omega, fun c hc hout => ?_, htotal ▸ hheld⟩, htotal⟩
  rw [h.old c (by simp; omega) (by omega), writeNode_allocate_old hc hout]

theorem Wrote.split
    (h₁ : Wrote left mid indices (writeNode (allocate (allocate tree)) node w l r) tree.length tree₂ indices₁ k)
    (h₂ : Wrote mid stop indices₁ tree₂ (tree.length + 3) tree' indices' m) (hnode : node + 3 ≤ tree.length)
    (hlt : left ≤ mid) (hgt : mid ≤ stop) :
    Wrote left stop indices tree node tree' indices' (k + m + 2) ∧
      total (leafCount tree') node tree.length (k + m + 2) =
        total (leafCount tree₂) tree.length (tree.length + 6) k +
          total (leafCount tree') (tree.length + 3) (tree.length + 6 + 3 * k) m := by
  have hlength₁ := h₁.length
  have hlength₂ := h₂.length
  have hheld₁ := h₁.held
  have hheld₂ := h₂.held
  simp only [length_writeNode, length_allocate] at hlength₁ hheld₁
  rw [show tree.length + 3 + 3 = tree.length + 6 by omega] at hlength₁ hheld₁
  obtain ⟨-, h1, -⟩ := h₁.cells hnode (by simp; omega) rfl
  have h1' : tree'[node + 1]? = some (.clip l) := by
    rw [h₂.old _ (by omega) (by omega), h1]
  have hkeep : ∀ c, c < tree₂.length → (c < tree.length + 3 ∨ tree.length + 6 ≤ c) → tree'[c]? = tree₂[c]? :=
    fun c hc hout => h₂.old c hc (by omega)
  have hleft : total (leafCount tree') tree.length (tree.length + 6) k =
      total (leafCount tree₂) tree.length (tree.length + 6) k := by
    refine total_congr ?_ fun j hj => ?_
    · exact leafCount_congr (hkeep _ (by omega) (by omega)) (hkeep _ (by omega) (by omega))
    · exact leafCount_congr (hkeep _ (by omega) (by omega)) (hkeep _ (by omega) (by omega))
  have htotal : total (leafCount tree') node tree.length (k + m + 2) =
      total (leafCount tree₂) tree.length (tree.length + 6) k +
        total (leafCount tree') (tree.length + 3) (tree.length + 6 + 3 * k) m := by
    rw [total_split, leafCount_inner h1', hleft, Nat.zero_add]
  rw [hlength₁] at hheld₂
  refine ⟨⟨?_, by omega, fun c hc hout => ?_, by rw [htotal]; omega⟩, htotal⟩
  · exact (h₁.shuffles.mono le_rfl hgt).trans (h₂.shuffles.mono hlt le_rfl)
  · rw [h₂.old c (by omega) (by omega), h₁.old c (by simp; omega) (by omega), writeNode_old hout,
      allocate_old (by simp; omega), allocate_old hc]

end Writes

end BlizzLike.Bih
