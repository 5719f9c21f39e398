import BlizzLikeCore.Collision.BuildOutcomes

/-!
# `BIH::intersectPoint`

A search reads the words of the tree, keeps at most 64 nodes on its stack and calls back with the objects of
every leaf it comes to. In a subtree of the shape `Shape` it calls back with every box of the range that
holds the point, and comes back with the stack it was given.

    Shape.search    : by induction over the shape
    Shape.occurs    : the leaves of the subtree hold the range
-/

namespace BlizzLike.Bih

variable {n : ℕ}

def AABox.contains (b : AABox) (p : Vector3) : Prop := ∀ a, b.low a ≤ p a ∧ p a ≤ b.high a

instance (b : AABox) (p : Vector3) : Decidable (b.contains p) := inferInstanceAs (Decidable (∀ _, _))

theorem ofRat_lt_top {q : ℚ} : Coord.ofRat q < ⊤ := WithBot.coe_lt_coe.2 (WithTop.coe_lt_top q)

theorem bot_lt_ofRat {q : ℚ} : ⊥ < Coord.ofRat q := WithBot.bot_lt_coe _

/-! ## Words -/

section Words

variable {w : UInt32} {c x : ℕ}

theorem axisOf_toNat : (axisOf w).toNat = w.toNat / 2 ^ 30 := by
  unfold axisOf
  have hw := w.toNat_lt
  have hmask : ((3 : UInt32) <<< 30).toNat >>> 30 = 2 ^ 2 - 1 := by decide
  rw [UInt32.toNat_shiftRight, UInt32.toNat_and, show (30 : UInt32).toNat % 32 = 30 from rfl,
    Nat.shiftRight_and_distrib, hmask, Nat.and_two_pow_sub_one_eq_mod, Nat.shiftRight_eq_div_pow]
  omega

theorem isBvh2_iff : isBvh2 w = true ↔ w.toNat / 2 ^ 29 % 2 = 1 := by
  unfold isBvh2
  rw [bne_iff_ne, Ne, ← UInt32.toNat_inj, UInt32.toNat_and, show ((1 : UInt32) <<< 29).toNat = 2 ^ 29 from by decide,
    Nat.and_two_pow, Nat.testBit_eq_decide_div_mod_eq]
  simp

theorem offsetOf_toNat : (offsetOf w).toNat = w.toNat % 2 ^ 29 := by
  unfold offsetOf
  rw [UInt32.toNat_and, show (~~~((7 : UInt32) <<< 29)).toNat = 2 ^ 29 - 1 from by decide,
    Nat.and_two_pow_sub_one_eq_mod]

theorem or_toNat (hw : w.toNat = c * 2 ^ 29) (hx : x < 2 ^ 29) : (w ||| UInt32.ofNat x).toNat = c * 2 ^ 29 + x := by
  rw [UInt32.toNat_or, UInt32.toNat_ofNat', Nat.mod_eq_of_lt (by omega), hw, ← Nat.shiftLeft_eq,
    Nat.shiftLeft_add_eq_or_of_lt hx]

theorem innerWord_toNat (axis : Fin 3) (hx : x < 2 ^ 29) : (innerWord axis x).toNat = 2 * axis.val * 2 ^ 29 + x := by
  unfold innerWord
  refine or_toNat ?_ hx
  fin_cases axis <;> decide

theorem bvh2Word_toNat (axis : Fin 3) (hx : x < 2 ^ 29) :
    (bvh2Word axis x).toNat = (2 * axis.val + 1) * 2 ^ 29 + x := by
  unfold bvh2Word
  rw [← UInt32.or_assoc]
  refine or_toNat ?_ hx
  fin_cases axis <;> decide

theorem leafWord_toNat (hx : x < 2 ^ 29) : (leafWord x).toNat = 6 * 2 ^ 29 + x := by
  unfold leafWord
  exact or_toNat (by decide) hx

theorem innerWord_spec (axis : Fin 3) (hx : x < 2 ^ 29) :
    isBvh2 (innerWord axis x) = false ∧ (axisOf (innerWord axis x)).toNat = axis.val ∧
      (offsetOf (innerWord axis x)).toNat = x := by
  have hword := innerWord_toNat axis hx
  refine ⟨?_, ?_, ?_⟩
  · rw [← Bool.not_eq_true, isBvh2_iff, hword]
    omega
  · rw [axisOf_toNat, hword]
    omega
  · rw [offsetOf_toNat, hword]
    omega

theorem bvh2Word_spec (axis : Fin 3) (hx : x < 2 ^ 29) :
    isBvh2 (bvh2Word axis x) = true ∧ (axisOf (bvh2Word axis x)).toNat = axis.val ∧
      (offsetOf (bvh2Word axis x)).toNat = x := by
  have hword := bvh2Word_toNat axis hx
  refine ⟨?_, ?_, ?_⟩
  · rw [isBvh2_iff, hword]
    omega
  · rw [axisOf_toNat, hword]
    omega
  · rw [offsetOf_toNat, hword]
    omega

theorem leafWord_spec (hx : x < 2 ^ 29) :
    isBvh2 (leafWord x) = false ∧ (axisOf (leafWord x)).toNat = 3 ∧ (offsetOf (leafWord x)).toNat = x := by
  have hword := leafWord_toNat hx
  refine ⟨?_, ?_, ?_⟩
  · rw [← Bool.not_eq_true, isBvh2_iff, hword]
    omega
  · rw [axisOf_toNat, hword]
    omega
  · rw [offsetOf_toNat, hword]
    omega

theorem toInt_ofNat (hx : x < 2 ^ 31) : (toInt (UInt32.ofNat x)).toNat = x := by
  have hnat : (UInt32.ofNat x).toNat = x := by
    rw [UInt32.toNat_ofNat', Nat.mod_eq_of_lt (by omega)]
  unfold toInt
  rw [BitVec.toInt_eq_toNat_of_lt (by show 2 * (UInt32.ofNat x).toNat < _; omega)]
  show ((UInt32.ofNat x).toNat : ℤ).toNat = x
  rw [hnat]
  rfl

end Words

/-! ## The search -/

/-- The end of a turn: the node on top of the stack is next. -/
def popNext (search : ℕ → List ℕ → List (Fin n) → Option (List (Fin n))) :
    List ℕ → List (Fin n) → Option (List (Fin n))
  | [], calls => some calls
  | node :: stack, calls => search node stack calls

/-- The two clip planes of a node. -/
def clipsAt (tree : List Cell) (node : ℕ) : Option (Coord × Coord) :=
  match tree[node + 1]?, tree[node + 2]? with
  | some (.clip tl), some (.clip tr) => some (tl, tr)
  | _, _ => none

/-- The objects of a leaf. -/
def objectsAt (h : Hierarchy n) (node offset : ℕ) : Option (List (Fin n)) :=
  match h.tree[node + 1]? with
  | some (.word count) => (List.range' offset (toInt count).toNat).mapM fun k => h.objects[k]?
  | _ => none

/-- The loop of `intersectPoint`, with the objects it has called back with; there is no result where it reads
past the tree or the objects, writes past the stack, or the fuel runs out. -/
def search (h : Hierarchy n) (p : Vector3) : ℕ → ℕ → List ℕ → List (Fin n) → Option (List (Fin n))
  | 0, _, _, _ => none
  | fuel + 1, node, stack, calls =>
    match h.tree[node]? with
    | some (.word tn) =>
      let offset := (offsetOf tn).toNat
      if isBvh2 tn = false then
        if haxis : (axisOf tn).toNat < 3 then
          match clipsAt h.tree node with
          | some (tl, tr) =>
            let x := Coord.ofRat (p ⟨(axisOf tn).toNat, haxis⟩)
            -- point is between clip zones
            if tl < x ∧ x < tr then popNext (search h p fuel) stack calls
            else if tl < x then search h p fuel (offset + 3) stack calls
            else if x < tr then search h p fuel offset stack calls
            else if stack.length < maxStackSize then search h p fuel offset ((offset + 3) :: stack) calls
            else none
          | none => none
        else
          match objectsAt h node offset with
          | some called => popNext (search h p fuel) stack (calls ++ called)
          | none => none
      else if haxis : (axisOf tn).toNat < 3 then
        match clipsAt h.tree node with
        | some (tl, tr) =>
          let x := Coord.ofRat (p ⟨(axisOf tn).toNat, haxis⟩)
          if x < tl ∨ tr < x then popNext (search h p fuel) stack calls
          else search h p fuel offset stack calls
        | none => none
      -- should not happen
      else some calls
    | _ => none

def Hierarchy.intersectPoint (h : Hierarchy n) (p : Vector3) (fuel : ℕ) : Option (List (Fin n)) :=
  if h.bounds.contains p then search h p fuel 0 [] [] else some []

/-! ## The search of a subtree -/

section Searches

variable {dat : BuildData n} {h : Hierarchy n} {p : Vector3} {indices : ℕ → Fin n} {axis : Fin 3}
  {node next x k left stop budget fuel : ℕ} {stack : List ℕ} {calls : List (Fin n)} {tl tr : Coord}

theorem clipsAt_eq (h1 : h.tree[node + 1]? = some (.clip tl)) (h2 : h.tree[node + 2]? = some (.clip tr)) :
    clipsAt h.tree node = some (tl, tr) := by
  unfold clipsAt
  rw [h1, h2]

theorem search_inner (h0 : h.tree[node]? = some (.word (innerWord axis x)))
    (h1 : h.tree[node + 1]? = some (.clip tl)) (h2 : h.tree[node + 2]? = some (.clip tr)) (hx : x < 2 ^ 29) :
    search h p (fuel + 1) node stack calls =
      if tl < Coord.ofRat (p axis) ∧ Coord.ofRat (p axis) < tr then popNext (search h p fuel) stack calls
      else if tl < Coord.ofRat (p axis) then search h p fuel (x + 3) stack calls
      else if Coord.ofRat (p axis) < tr then search h p fuel x stack calls
      else if stack.length < maxStackSize then search h p fuel x ((x + 3) :: stack) calls
      else none := by
  obtain ⟨hbvh2, haxis, hoffset⟩ := innerWord_spec axis hx
  rw [search, h0]
  dsimp only
  rw [if_pos hbvh2, dif_pos (haxis ▸ axis.isLt), clipsAt_eq h1 h2, hoffset]
  dsimp only
  rw [show (⟨(axisOf (innerWord axis x)).toNat, haxis ▸ axis.isLt⟩ : Fin 3) = axis from Fin.ext haxis]

theorem search_bvh2 (h0 : h.tree[node]? = some (.word (bvh2Word axis x)))
    (h1 : h.tree[node + 1]? = some (.clip tl)) (h2 : h.tree[node + 2]? = some (.clip tr)) (hx : x < 2 ^ 29) :
    search h p (fuel + 1) node stack calls =
      if Coord.ofRat (p axis) < tl ∨ tr < Coord.ofRat (p axis) then popNext (search h p fuel) stack calls
      else search h p fuel x stack calls := by
  obtain ⟨hbvh2, haxis, hoffset⟩ := bvh2Word_spec axis hx
  rw [search, h0]
  dsimp only
  rw [if_neg (by simp [hbvh2]), dif_pos (haxis ▸ axis.isLt), clipsAt_eq h1 h2, hoffset]
  dsimp only
  rw [show (⟨(axisOf (bvh2Word axis x)).toNat, haxis ▸ axis.isLt⟩ : Fin 3) = axis from Fin.ext haxis]

theorem objects_range (hobj : ∀ j, left ≤ j → j < stop → h.objects[j]? = some (indices j)) :
    (List.range' left (stop - left)).mapM (fun j => h.objects[j]?) =
      some ((List.range' left (stop - left)).map indices) := by
  generalize hlen : stop - left = len
  induction len generalizing left with
  | zero => rfl
  | succ len ih =>
    rw [List.range'_succ, List.mapM_cons, hobj left le_rfl (by omega),
      ih (fun j hj hj' => hobj j (by omega) hj') (by omega)]
    rfl

theorem objectsAt_eq (h1 : h.tree[node + 1]? = some (.word (UInt32.ofNat (stop - left))))
    (hobj : ∀ j, left ≤ j → j < stop → h.objects[j]? = some (indices j)) (hstop : stop ≤ 2 ^ 29) :
    objectsAt h node left = some ((List.range' left (stop - left)).map indices) := by
  unfold objectsAt
  rw [h1]
  dsimp only
  rw [toInt_ofNat (by omega), objects_range hobj]

theorem search_leaf (h0 : h.tree[node]? = some (.word (leafWord left)))
    (h1 : h.tree[node + 1]? = some (.word (UInt32.ofNat (stop - left))))
    (hobj : ∀ j, left ≤ j → j < stop → h.objects[j]? = some (indices j)) (hlt : left < stop) (hstop : stop ≤ 2 ^ 29) :
    search h p (fuel + 1) node stack calls =
      popNext (search h p fuel) stack (calls ++ (List.range' left (stop - left)).map indices) := by
  obtain ⟨hbvh2, haxis, hoffset⟩ := leafWord_spec (show left < 2 ^ 29 by omega)
  rw [search, h0]
  dsimp only
  rw [if_pos hbvh2, dif_neg (by omega), hoffset, objectsAt_eq h1 hobj hstop]

/-- **The search of a subtree** calls back with every box of its range that holds the point. -/
theorem Shape.search (hs : Shape dat indices h.tree node next k left stop budget)
    (hobj : ∀ j, left ≤ j → j < stop → h.objects[j]? = some (indices j)) (hsize : next + 3 * k ≤ 2 ^ 29)
    (hstop : stop ≤ 2 ^ 29) :
    ∃ turns called,
      (∀ fuel stack calls, stack.length + budget ≤ maxStackSize →
        Bih.search h p (fuel + turns) node stack calls = popNext (Bih.search h p fuel) stack (calls ++ called)) ∧
      ∀ i ∈ slice indices left stop, (dat.primBound i).contains p → i ∈ called := by
  induction hs with
  | @leaf node next left stop budget hlt h0 h1 =>
    refine ⟨1, (List.range' left (stop - left)).map indices, fun fuel stack calls _ => ?_, fun i hi _ => ?_⟩
    · exact search_leaf h0 h1 hobj hlt hstop
    · obtain ⟨j, hj, rfl⟩ := mem_slice.1 hi
      exact List.mem_map_of_mem (List.mem_range'_1.2 (by omega))
  | @clip node next k left stop below budget axis l r h0 h1 h2 hbox hbudget _ ih =>
    obtain ⟨turns, called, hrun, hall⟩ := ih hobj (by omega) hstop
    by_cases hout : Coord.ofRat (p axis) < l ∨ r < Coord.ofRat (p axis)
    · refine ⟨1, [], fun fuel stack calls _ => ?_, fun i hi hin => ?_⟩
      · rw [search_bvh2 h0 h1 h2 (by omega), if_pos hout, List.append_nil]
      · obtain ⟨hlo, hhi⟩ := hbox i hi
        obtain ⟨hlo', hhi'⟩ := hin axis
        rcases hout with hout | hout
        · exact absurd (hlo.trans (Frame.ofRat_le.2 hlo')) (not_le.2 hout)
        · exact absurd ((Frame.ofRat_le.2 hhi').trans hhi) (not_le.2 hout)
    · refine ⟨turns + 1, called, fun fuel stack calls hstack => ?_, hall⟩
      rw [← Nat.add_assoc, search_bvh2 h0 h1 h2 (by omega), if_neg hout, hrun _ _ _ (by omega)]
  | @lower node next k left stop budget axis c h0 h1 h2 hbox _ ih =>
    obtain ⟨turns, called, hrun, hall⟩ := ih hobj (by omega) hstop
    by_cases hout : c < Coord.ofRat (p axis)
    · refine ⟨1, [], fun fuel stack calls _ => ?_, fun i hi hin => ?_⟩
      · rw [search_inner h0 h1 h2 (by omega), if_pos ⟨hout, ofRat_lt_top⟩, List.append_nil]
      · exact absurd ((Frame.ofRat_le.2 (hin axis).2).trans (hbox i hi)) (not_le.2 hout)
    · refine ⟨turns + 1, called, fun fuel stack calls hstack => ?_, hall⟩
      rw [← Nat.add_assoc, search_inner h0 h1 h2 (by omega), if_neg (fun hb => hout hb.1), if_neg hout,
        if_pos ofRat_lt_top, hrun _ _ _ hstack]
  | @upper node next k left stop budget axis c h0 h1 h2 hnext hbox _ ih =>
    obtain ⟨turns, called, hrun, hall⟩ := ih hobj (by omega) hstop
    by_cases hout : Coord.ofRat (p axis) < c
    · refine ⟨1, [], fun fuel stack calls _ => ?_, fun i hi hin => ?_⟩
      · rw [search_inner h0 h1 h2 (by omega), if_pos ⟨bot_lt_ofRat, hout⟩, List.append_nil]
      · exact absurd ((hbox i hi).trans (Frame.ofRat_le.2 (hin axis).1)) (not_le.2 hout)
    · refine ⟨turns + 1, called, fun fuel stack calls hstack => ?_, hall⟩
      rw [← Nat.add_assoc, search_inner h0 h1 h2 (by omega), if_neg (fun hb => hout hb.2), if_pos bot_lt_ofRat,
        Nat.sub_add_cancel hnext, hrun _ _ _ hstack]
  | @split node next k m left mid stop below budget axis l r h0 h1 h2 hmid hbudget hl hr _ _ ihl ihr =>
    obtain ⟨turnsL, calledL, hrunL, hallL⟩ :=
      ihl (fun j hj hj' => hobj j hj (by omega)) (by omega) (by omega)
    obtain ⟨turnsR, calledR, hrunR, hallR⟩ := ihr (fun j hj hj' => hobj j (by omega) hj') (by omega) hstop
    -- a box on the left that holds the point keeps it at or below `l`, one on the right at or above `r`
    have hleft : ∀ i ∈ slice indices left mid, (dat.primBound i).contains p → Coord.ofRat (p axis) ≤ l :=
      fun i hi hin => (Frame.ofRat_le.2 (hin axis).2).trans (hl i hi)
    have hright : ∀ i ∈ slice indices mid stop, (dat.primBound i).contains p → r ≤ Coord.ofRat (p axis) :=
      fun i hi hin => (hr i hi).trans (Frame.ofRat_le.2 (hin axis).1)
    have hsides : ∀ i ∈ slice indices left stop, i ∈ slice indices left mid ∨ i ∈ slice indices mid stop := by
      intro i hi
      rwa [← slice_append hmid.1 hmid.2, Finset.mem_union] at hi
    by_cases hgl : l < Coord.ofRat (p axis)
    · by_cases hlr : Coord.ofRat (p axis) < r
      · refine ⟨1, [], fun fuel stack calls _ => ?_, fun i hi hin => ?_⟩
        · rw [search_inner h0 h1 h2 (by omega), if_pos ⟨hgl, hlr⟩, List.append_nil]
        · rcases hsides i hi with hi | hi
          · exact absurd (hleft i hi hin) (not_le.2 hgl)
          · exact absurd (hright i hi hin) (not_le.2 hlr)
      · refine ⟨turnsR + 1, calledR, fun fuel stack calls hstack => ?_, fun i hi hin => ?_⟩
        · rw [← Nat.add_assoc, search_inner h0 h1 h2 (by omega), if_neg (fun hb => hlr hb.2), if_pos hgl,
            hrunR _ _ _ (by omega)]
        · rcases hsides i hi with hi | hi
          · exact absurd (hleft i hi hin) (not_le.2 hgl)
          · exact hallR i hi hin
    · by_cases hlr : Coord.ofRat (p axis) < r
      · refine ⟨turnsL + 1, calledL, fun fuel stack calls hstack => ?_, fun i hi hin => ?_⟩
        · rw [← Nat.add_assoc, search_inner h0 h1 h2 (by omega), if_neg (fun hb => hgl hb.1), if_neg hgl, if_pos hlr,
            hrunL _ _ _ (by omega)]
        · rcases hsides i hi with hi | hi
          · exact hallL i hi hin
          · exact absurd (hright i hi hin) (not_le.2 hlr)
      · refine ⟨turnsR + turnsL + 1, calledL ++ calledR, fun fuel stack calls hstack => ?_, fun i hi hin => ?_⟩
        · rw [← Nat.add_assoc, ← Nat.add_assoc, search_inner h0 h1 h2 (by omega), if_neg (fun hb => hgl hb.1),
            if_neg hgl, if_neg hlr, if_pos (by omega), hrunL _ _ _ (by simp; omega)]
          show Bih.search h p _ _ _ _ = _
          rw [hrunR _ _ _ (by omega), List.append_assoc]
        · rcases hsides i hi with hi | hi
          · exact List.mem_append_left _ (hallL i hi hin)
          · exact List.mem_append_right _ (hallR i hi hin)

end Searches

end BlizzLike.Bih
