import BlizzLikeCore.Lib.Bytes
import BlizzLikeCore.Objects.Fields

/-!
# Update blocks

What `_BuildValuesUpdate` writes of an object for a viewer: how many words the mask has, the mask, and the fields
whose bits are set.  A client reads it back.  What stands before it in a block, the type, the guid and where the
object is, is left out.

`mUpdateMask` is a number whose bytes are the array that `SetBit` writes to.

    sendBlock_apply : what a client has after it applied a block
    createBlock_apply, valuesBlock_apply : for the two kinds of blocks
-/

namespace BlizzLike

def unitNpcFlags : Nat := objectEnd + 0x00A2
def unitFieldBaseAttackTime : Nat := objectEnd + 0x008D
def unitFieldRangedAttackTime : Nat := objectEnd + 0x008F
def unitFieldPosStat0 : Nat := objectEnd + 0x00AA
def unitFieldPosStat4 : Nat := objectEnd + 0x00AE
def unitFieldNegStat0 : Nat := objectEnd + 0x00AF
def unitFieldNegStat4 : Nat := objectEnd + 0x00B3
def unitFieldResistanceBuffModsPositive : Nat := objectEnd + 0x00BB
def unitFieldResistanceBuffModsNegative : Nat := objectEnd + 0x00C2
def unitFieldFlags : Nat := objectEnd + 0x0028
def unitFieldDisplayId : Nat := objectEnd + 0x0092
def unitDynamicFlags : Nat := objectEnd + 0x009E
def unitFieldBytes2 : Nat := objectEnd + 0x00CB
def unitFieldFactionTemplate : Nat := objectEnd + 0x001D
def gameObjectDynFlags : Nat := objectEnd + 0x000D
def gameObjectArtKit : Nat := objectEnd + 0x0010
def gameObjectAnimProgress : Nat := objectEnd + 0x0012

/-! ## Masks -/

/-- The bits below `n` that are wanted, set one after the other. -/
def setBits (wanted : Nat → Bool) : Nat → Nat
  | 0 => 0
  | n + 1 => if wanted n then setBits wanted n ||| 1 <<< n else setBits wanted n

theorem testBit_setBits (wanted : Nat → Bool) (n i : Nat) :
    (setBits wanted n).testBit i = (decide (i < n) && wanted i) := by
  induction n with
  | zero => simp [setBits]
  | succ n ih =>
    unfold setBits
    split
    · next hw =>
      rw [Bytes.testBit_or_bit, ih]
      by_cases hi : n = i
      · subst hi
        simp [hw]
      · have hlt : (i < n + 1) ↔ i < n := by omega
        simp [hi, hlt]
    · next hw =>
      rw [ih]
      by_cases hi : n = i
      · subst hi
        simp [hw]
      · have hlt : (i < n + 1) ↔ i < n := by omega
        simp [hlt]

/-- What is asked about a viewer while a block is built; `hostileFaction` is the viewer's faction where its template
and that of the object are known and not friendly. -/
structure ViewerState where
  isGameMaster : Bool
  activateToQuest : Bool
  goType : Nat
  triggerCreature : Bool
  modelidA1 : BitVec 32
  modelidA2 : BitVec 32
  allowedToLoot : Bool
  sameGroup : Bool
  hostileFaction : Option (BitVec 32)

namespace Object

variable (o : Object) (own : Bool) (visualBits : Nat) (view : ViewerState)

/-- The fields that `target` may see: those of `updateVisualBits` when it is another player. -/
def visible (i : Nat) : Bool := if o.kind = .player ∧ own = false then visualBits.testBit i else true

/-- `_SetCreateBits` -/
def createBits : Nat := setBits (fun i => o.values i ≠ 0 ∧ o.visible own visualBits i) o.valuesCount

/-- `_SetUpdateBits` -/
def updateBits : Nat :=
  let mask := setBits (fun i => o.mirror i ≠ o.values i) o.valuesCount
  if o.kind = .player ∧ own = false then mask &&& visualBits else mask

/-- The bits set for game objects, when one is created and later. -/
def extraBits (create : Bool) (mask : Nat) : Nat :=
  if o.kind = .gameObject false then
    let mask := mask ||| 1 <<< gameObjectDynFlags
    if create then if o.values gameObjectArtKit ≠ 0 then mask ||| 1 <<< gameObjectArtKit else mask
    else mask ||| 1 <<< gameObjectAnimProgress
  else mask

/-- Attributes that are kept as floats: those that may be negative or cannot. -/
def isStat (index : Nat) : Bool :=
  (unitFieldNegStat0 ≤ index ∧ index ≤ unitFieldNegStat4) ∨
    (unitFieldResistanceBuffModsPositive ≤ index ∧ index ≤ unitFieldResistanceBuffModsPositive + 6) ∨
    (unitFieldResistanceBuffModsNegative ≤ index ∧ index ≤ unitFieldResistanceBuffModsNegative + 6) ∨
    (unitFieldPosStat0 ≤ index ∧ index ≤ unitFieldPosStat4)

/-- The model of a `CREATURE_FLAG_EXTRA_TRIGGER` creature. -/
def triggerModel : BitVec 32 :=
  if view.isGameMaster then if view.modelidA2 ≠ 0 then view.modelidA1 else 17519
  else if view.modelidA2 ≠ 0 then view.modelidA2 else 11686

/-- What is sent for a field of a unit. -/
def sentUnit (fl : FloatBits) (index : Nat) : BitVec 32 :=
  let v := o.values index
  if index = unitNpcFlags then v &&& ~~~(0x10000000 + 0x20000000)
  else if unitFieldBaseAttackTime ≤ index ∧ index ≤ unitFieldRangedAttackTime then
    if fl.negative v then 0 else fl.toUInt32 v
  else if isStat index then fl.toUInt32 v
  else if index = unitFieldFlags ∧ view.isGameMaster then v &&& ~~~0x02000000
  else if index = unitFieldDisplayId ∧ o.kind = .creature then
    if view.triggerCreature then triggerModel view else v
  else if index = unitDynamicFlags ∧ o.kind = .creature then
    if view.allowedToLoot then v &&& ~~~0x0004 else v &&& ~~~0x0001
  else if index = unitFieldBytes2 ∨ index = unitFieldFactionTemplate then
    if o.kind = .player ∧ own = false ∧ view.sameGroup then
      if index = unitFieldBytes2 then v &&& ((0x08 ||| 0x10 ||| 0x20) <<< 8) else view.hostileFaction.getD v
    else v
  else v

/-- `GAMEOBJECT_DYN_FLAGS` for a viewer. -/
def dynFlags : BitVec 32 :=
  let activate := o.kind = .gameObject false ∧ (view.activateToQuest ∨ view.isGameMaster)
  if activate ∧ (view.goType = 3 ∨ view.goType = 10) then 0xFFFF0000 + (0x01 ||| 0x08) else 0

def sent (fl : FloatBits) (index : Nat) : BitVec 32 :=
  if o.kind.isUnit then o.sentUnit own view fl index
  else
    match o.kind with
    | .gameObject _ => if index = gameObjectDynFlags then o.dynFlags view else o.values index
    | _ => o.values index

/-- The loop over the fields: `n` of them from `index` on. -/
def writeValues (mask : Nat) (value : Nat → BitVec 32) : Nat → Nat → List UInt8
  | 0, _ => []
  | n + 1, index =>
    (if mask.testBit index then Bytes.le 4 (value index).toNat else []) ++ writeValues mask value n (index + 1)

/-- `mBlocks` -/
def blockCount : Nat := (o.valuesCount + 31) / 32

/-- `_BuildValuesUpdate` with its mask. -/
def buildValuesUpdate (fl : FloatBits) (create : Bool) (mask : Nat) : List UInt8 :=
  let mask := o.extraBits create mask
  UInt8.ofNat o.blockCount ::
    (Bytes.le (4 * o.blockCount) mask ++ writeValues mask (o.sent own view fl) o.valuesCount 0)

/-- `BuildCreateUpdateBlockForPlayer` -/
def createBlock (fl : FloatBits) : List UInt8 :=
  o.buildValuesUpdate own view fl true (o.createBits own visualBits)

/-- `BuildValuesUpdateBlockForPlayer` -/
def valuesBlock (fl : FloatBits) : List UInt8 :=
  o.buildValuesUpdate own view fl false (o.updateBits own visualBits)

end Object

/-! ## Clients -/

/-- A client reads the fields whose bits are set, `n` bits from `index` on. -/
def readValues (mask : Nat) : Nat → Nat → List UInt8 → (Nat → BitVec 32) → Nat → BitVec 32
  | 0, _, _, fields => fields
  | n + 1, index, block, fields =>
    if mask.testBit index then
      readValues mask n (index + 1) (block.drop 4)
        (Function.update fields index (BitVec.ofNat 32 (Bytes.value (block.take 4))))
    else readValues mask n (index + 1) block fields

/-- A client applies what `_BuildValuesUpdate` wrote. -/
def applyBlock (fields : Nat → BitVec 32) : List UInt8 → Nat → BitVec 32
  | [] => fields
  | blocks :: rest =>
    readValues (Bytes.value (rest.take (4 * blocks.toNat))) (32 * blocks.toNat) 0 (rest.drop (4 * blocks.toNat))
      fields

/-! ## Reading what was written -/

theorem value_field (v : BitVec 32) (tail : List UInt8) :
    BitVec.ofNat 32 (Bytes.value ((Bytes.le 4 v.toNat ++ tail).take 4)) = v := by
  have htake : (Bytes.le 4 v.toNat ++ tail).take 4 = Bytes.le 4 v.toNat :=
    List.take_left' (Bytes.le_length 4 _)
  rw [htake, Bytes.value_le]
  apply BitVec.eq_of_toNat_eq
  have hv := v.isLt
  rw [BitVec.toNat_ofNat]
  omega

theorem readValues_writeValues (mask : Nat) (value : Nat → BitVec 32) (n index : Nat) (fields : Nat → BitVec 32)
    (i : Nat) :
    readValues mask n index (Object.writeValues mask value n index) fields i =
      if index ≤ i ∧ i < index + n ∧ mask.testBit i then value i else fields i := by
  induction n generalizing index fields with
  | zero =>
    have hno : ¬(index ≤ i ∧ i < index + 0 ∧ mask.testBit i = true) := by omega
    rw [if_neg hno]
    rfl
  | succ n ih =>
    unfold readValues Object.writeValues
    by_cases hbit : mask.testBit index = true
    · rw [if_pos hbit, if_pos hbit, value_field, List.drop_left' (Bytes.le_length 4 _), ih]
      by_cases hi : i = index
      · subst hi
        simp [hbit]
      · rw [Function.update_of_ne hi]
        have hsame : (index + 1 ≤ i ∧ i < index + 1 + n ∧ mask.testBit i = true) ↔
            (index ≤ i ∧ i < index + (n + 1) ∧ mask.testBit i = true) := by
          constructor
          · exact fun h => ⟨by omega, by omega, h.2.2⟩
          · exact fun h => ⟨by omega, by omega, h.2.2⟩
        simp only [hsame]
    · rw [if_neg hbit, if_neg hbit, List.nil_append, ih]
      have hsame : (index + 1 ≤ i ∧ i < index + 1 + n ∧ mask.testBit i = true) ↔
          (index ≤ i ∧ i < index + (n + 1) ∧ mask.testBit i = true) := by
        constructor
        · rintro ⟨h1, h2, h3⟩
          exact ⟨by omega, by omega, h3⟩
        · rintro ⟨h1, h2, h3⟩
          have hne : index ≠ i := by
            rintro rfl
            exact hbit h3
          exact ⟨by omega, by omega, h3⟩
      simp only [hsame]

theorem writeValues_more {mask : Nat} (value : Nat → BitVec 32) {n m : Nat} (hnm : n ≤ m)
    (hbits : ∀ i, n ≤ i → mask.testBit i = false) (index : Nat) (hindex : index ≤ n) :
    Object.writeValues mask value (m - index) index = Object.writeValues mask value (n - index) index := by
  obtain ⟨k, hk⟩ : ∃ k, k = n - index := ⟨_, rfl⟩
  induction k generalizing index with
  | zero =>
    have hzero : ∀ k i, n ≤ i → Object.writeValues mask value k i = [] := by
      intro k
      induction k with
      | zero => exact fun i hi => rfl
      | succ k ih =>
        intro i hi
        rw [Object.writeValues, ih (i + 1) (by omega), hbits i hi]
        rfl
    rw [hzero _ _ (by omega), hzero _ _ (by omega)]
  | succ k ih =>
    have hm : m - index = (m - (index + 1)) + 1 := by omega
    have hn : n - index = (n - (index + 1)) + 1 := by omega
    rw [hm, hn, Object.writeValues, Object.writeValues, ih (index + 1) (by omega) (by omega)]

namespace Object

variable {o : Object} {own : Bool} {visualBits : Nat} {view : ViewerState} {fl : FloatBits}

/-- The bits of a mask are of fields the object has. -/
def OfFields (o : Object) (mask : Nat) : Prop := ∀ i, mask.testBit i = true → i < o.valuesCount

theorem valuesCount_le (o : Object) : o.valuesCount ≤ playerEnd := by
  unfold valuesCount
  cases o.kind <;> simp only [ObjectKind.valuesCount] <;> decide

theorem testBit_extraBits (create : Bool) (mask i : Nat) (h : mask.testBit i = true) :
    (o.extraBits create mask).testBit i = true := by
  unfold extraBits
  split
  · dsimp only
    split
    · split
      · rw [Bytes.testBit_or_bit, Bytes.testBit_or_bit, h]
        rfl
      · rw [Bytes.testBit_or_bit, h]
        rfl
    · rw [Bytes.testBit_or_bit, Bytes.testBit_or_bit, h]
      rfl
  · exact h

theorem ofFields_extraBits {create : Bool} {mask : Nat} (h : o.OfFields mask) :
    o.OfFields (o.extraBits create mask) := by
  intro i hi
  unfold extraBits at hi
  split at hi
  · next hkind =>
    have hcount : o.valuesCount = gameObjectEnd := by
      unfold valuesCount
      rw [hkind]
      rfl
    have hin : mask.testBit i = true ∨ i = gameObjectDynFlags ∨ i = gameObjectArtKit ∨ i = gameObjectAnimProgress := by
      dsimp only at hi
      split at hi
      · split at hi
        · simp only [Bytes.testBit_or_bit, Bool.or_eq_true, decide_eq_true_eq] at hi
          exact hi.elim (fun hi => hi.imp_right fun he => Or.inl he.symm) fun he => Or.inr (Or.inr (Or.inl he.symm))
        · simp only [Bytes.testBit_or_bit, Bool.or_eq_true, decide_eq_true_eq] at hi
          exact hi.imp_right fun he => Or.inl he.symm
      · simp only [Bytes.testBit_or_bit, Bool.or_eq_true, decide_eq_true_eq] at hi
        exact hi.elim (fun hi => hi.imp_right fun he => Or.inl he.symm) fun he => Or.inr (Or.inr (Or.inr he.symm))
    rw [hcount]
    rcases hin with hin | rfl | rfl | rfl
    · exact hcount ▸ h i hin
    · decide
    · decide
    · decide
  · exact h i hi

/-- **A block is applied**: fields whose bits are set become what was sent. -/
theorem sendBlock_apply (fields : Nat → BitVec 32) {create : Bool} {mask : Nat} (h : o.OfFields mask) (i : Nat) :
    applyBlock fields (o.buildValuesUpdate own view fl create mask) i =
      if (o.extraBits create mask).testBit i then o.sent own view fl i else fields i := by
  have hall : o.OfFields (o.extraBits create mask) := ofFields_extraBits h
  have hcount := o.valuesCount_le
  have hblocks : (UInt8.ofNat o.blockCount).toNat = o.blockCount := by
    rw [UInt8.toNat_ofNat']
    unfold blockCount
    have : playerEnd = 1592 := by decide
    omega
  have hbits : o.valuesCount ≤ 32 * o.blockCount := by
    unfold blockCount
    omega
  unfold buildValuesUpdate applyBlock
  dsimp only
  generalize o.extraBits create mask = bits at hall ⊢
  have hlt : bits < 256 ^ (4 * o.blockCount) := by
    have hpow : 256 ^ (4 * o.blockCount) = 2 ^ (32 * o.blockCount) := by
      rw [show (256 : Nat) = 2 ^ 8 from rfl, ← Nat.pow_mul]
      congr 1
      omega
    rw [hpow]
    refine Nat.lt_pow_two_of_testBit bits fun j hj => ?_
    by_contra hbit
    have := hall j (by simpa using hbit)
    omega
  have hfree : ∀ j, o.valuesCount ≤ j → bits.testBit j = false := by
    intro j hj
    by_contra hbit
    have := hall j (by simpa using hbit)
    omega
  have hwrite := writeValues_more (o.sent own view fl) hbits hfree 0 (Nat.zero_le _)
  rw [Nat.sub_zero, Nat.sub_zero] at hwrite
  rw [hblocks, List.take_left' (Bytes.le_length _ _), List.drop_left' (Bytes.le_length _ _), Bytes.value_le,
    Nat.mod_eq_of_lt hlt, ← hwrite, readValues_writeValues]
  by_cases hi : bits.testBit i = true
  · have := hall i hi
    rw [if_pos ⟨Nat.zero_le i, by omega, hi⟩, if_pos hi]
  · rw [if_neg fun hc => hi hc.2.2, if_neg hi]

/-! ## Fields that are sent as they are -/

/-- Fields for which `_BuildValuesUpdate` has a case of its own. -/
def rewritten (o : Object) (own : Bool) (i : Nat) : Bool :=
  match o.kind with
  | .creature =>
    i = unitNpcFlags ∨ (unitFieldBaseAttackTime ≤ i ∧ i ≤ unitFieldRangedAttackTime) ∨ isStat i ∨
      i = unitFieldFlags ∨ i = unitFieldDisplayId ∨ i = unitDynamicFlags
  | .player =>
    i = unitNpcFlags ∨ (unitFieldBaseAttackTime ≤ i ∧ i ≤ unitFieldRangedAttackTime) ∨ isStat i ∨
      i = unitFieldFlags ∨ (own = false ∧ (i = unitFieldBytes2 ∨ i = unitFieldFactionTemplate))
  | .gameObject _ => i = gameObjectDynFlags
  | _ => false

/-- A field that is sent in each update. -/
def always (o : Object) (i : Nat) : Bool := o.kind = .gameObject false ∧ i = gameObjectAnimProgress

theorem sent_plain {i : Nat} (h : o.rewritten own i = false) : o.sent own view fl i = o.values i := by
  unfold rewritten at h
  unfold sent
  cases hk : o.kind <;> simp only [hk] at h <;> simp only [ObjectKind.isUnit]
  case creature =>
    simp only [decide_eq_false_iff_not, not_or] at h
    obtain ⟨hnpc, htime, hstat, hflags, hmodel, hdyn⟩ := h
    simp [sentUnit, hk, hnpc, htime, hstat, hflags, hmodel, hdyn]
  case player =>
    simp only [decide_eq_false_iff_not, not_or] at h
    obtain ⟨hnpc, htime, hstat, hflags, hfriend⟩ := h
    have hown : ¬((i = unitFieldBytes2 ∨ i = unitFieldFactionTemplate) ∧ own = false) := fun hc => hfriend hc.symm
    simp [sentUnit, hk, hnpc, htime, hstat, hflags]
    grind
  case gameObject => simp_all
  all_goals simp

/-- **The create block**: a client that begins with zeros has what it may see. -/
theorem createBlock_apply {i : Nat} (hi : i < o.valuesCount) (hvisible : o.visible own visualBits i = true)
    (hplain : o.rewritten own i = false) :
    applyBlock (fun _ => 0) (o.createBlock own visualBits view fl) i = o.values i := by
  have hof : o.OfFields (o.createBits own visualBits) := by
    intro j hj
    rw [createBits, testBit_setBits, Bool.and_eq_true, decide_eq_true_eq] at hj
    exact hj.1
  rw [createBlock, sendBlock_apply _ hof]
  split
  · exact sent_plain hplain
  · next hbit =>
    by_contra hne
    refine hbit (testBit_extraBits true _ i ?_)
    rw [createBits, testBit_setBits]
    simpa [hi, hvisible] using fun hz => hne hz.symm

/-- **A values block** of what differs from the mirror. -/
theorem valuesBlock_apply (fields : Nat → BitVec 32) {i : Nat} (hi : i < o.valuesCount)
    (hvisible : o.visible own visualBits i = true) (hplain : o.rewritten own i = false) :
    applyBlock fields (o.valuesBlock own visualBits view fl) i =
      if o.mirror i ≠ o.values i ∨ o.always i = true then o.values i else fields i := by
  have hbits : ∀ j, (o.updateBits own visualBits).testBit j =
      (decide (j < o.valuesCount) && decide (o.mirror j ≠ o.values j) && o.visible own visualBits j) := by
    intro j
    unfold updateBits visible
    dsimp only
    split
    · rw [Nat.testBit_and, testBit_setBits]
    · rw [testBit_setBits, Bool.and_true]
  have hof : o.OfFields (o.updateBits own visualBits) := by
    intro j hj
    rw [hbits] at hj
    simp only [Bool.and_eq_true, decide_eq_true_eq] at hj
    exact hj.1.1
  have hextra : (o.extraBits false (o.updateBits own visualBits)).testBit i = true ↔
      o.mirror i ≠ o.values i ∨ o.always i = true := by
    have hbit := hbits i
    rw [hvisible, decide_eq_true hi, Bool.true_and, Bool.and_true] at hbit
    unfold extraBits always
    by_cases hk : o.kind = .gameObject false
    · have hdyn : ¬gameObjectDynFlags = i := by
        rintro rfl
        simp [rewritten, hk] at hplain
      rw [if_pos hk]
      dsimp only
      rw [if_neg Bool.false_ne_true, Bytes.testBit_or_bit, Bytes.testBit_or_bit, hbit]
      simp only [Bool.or_eq_true, decide_eq_true_eq, hdyn, or_false, hk, true_and]
      exact or_congr_right eq_comm
    · simp [hk, hbit]
  rw [valuesBlock, sendBlock_apply _ hof, sent_plain hplain]
  by_cases hc : o.mirror i ≠ o.values i ∨ o.always i = true
  · rw [if_pos (hextra.2 hc), if_pos hc]
  · rw [if_neg fun h => hc (hextra.1 h), if_neg hc]

end Object

end BlizzLike
