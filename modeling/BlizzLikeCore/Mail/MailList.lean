import BlizzLikeCore.Lib.Bytes
import BlizzLikeCore.Mail.PostOffice

/-!
# The list of mails

`HandleGetMail` writes a packet with a count and the mails that are there, each behind its size.  The size is
computed before the mail is written, with eight bytes for the sender; a character has eight, an auction, a
creature or a game object four, and an item none (`sizes_exact_iff`).

    mailBlock     : what is written for one mail
    handleGetMail : the packet
-/

namespace BlizzLike

/-! ## The packet -/

/-- A mail with what only the list shows of it. -/
structure ListedMail extends Mail where
  subject : List UInt8 := []
  stationery : Nat := 0
  expireTime : Int := 0

/-- What is asked of an attached item. -/
structure MailedItem where
  guidLow : Nat
  entry : Nat
  /-- `GetEnchantmentId`, `GetEnchantmentDuration`, `GetEnchantmentCharges` by slot. -/
  enchantment : Nat → Nat × Nat × Nat := fun _ => (0, 0, 0)
  randomPropertyId : BitVec 32 := 0
  suffixFactor : Nat := 0
  count : Nat := 0
  spellCharges : BitVec 32 := 0
  maxDurability : Nat := 0
  durability : Nat := 0

/-- What the handler asks for: the clock, the items in the mailbox, and the bits of a `float`. -/
structure MailboxView where
  curTime : Nat
  getMItem : Nat → Option MailedItem
  floatBits : Int → BitVec 32

/-- `maxPacketSize`, the "max int16 value". -/
def maxPacketSize : Nat := 32767

/-- `DAY` -/
def daySeconds : Int := 86400

/-- The packet as it grows, with the bytes that were written for each mail. -/
structure MailPacket where
  data : List UInt8
  mailsCount : Nat
  written : List (List UInt8)

section Writer

variable (v : MailboxView) (m : ListedMail)

/-- `item_count`, a `uint8`. -/
def itemCount : Nat := u8 m.items.length

def nextMailSize : Nat :=
  2 + 4 + 1 + 8 + 4 * 8 + (m.subject.length + 1) + 1 + itemCount m * (1 + 4 + 4 + 6 * 3 * 4 + 4 + 4 + 1 + 4 + 4 + 4)

/-- `data << uint32(x)` -/
def writeU32 (x : Nat) : List UInt8 := Bytes.le 4 x

def writeU8 (x : Nat) : List UInt8 := Bytes.le 1 x

/-- The sender by the type of the mail. -/
def senderField : List UInt8 :=
  match m.messageType with
  | .normal => Bytes.le 8 m.sender
  | .creature | .gameobject | .auction => writeU32 m.sender
  | .item => []

/-- One enchantment slot of an item. -/
def enchantmentField (item : Option MailedItem) (j : Nat) : List UInt8 :=
  let e := (item.map fun it => it.enchantment j).getD (0, 0, 0)
  writeU32 e.1 ++ writeU32 e.2.1 ++ writeU32 e.2.2

/-- An attached item, by its index; one that is not in the mailbox is written with zeros. -/
def itemField (i : Nat) : List UInt8 :=
  let item := (m.items[i]?).bind v.getMItem
  let value := fun f : MailedItem → Nat => (item.map f).getD 0
  writeU8 i ++ writeU32 (value (·.guidLow)) ++ writeU32 (value (·.entry)) ++
    (List.range 6).flatMap (enchantmentField item) ++ writeU32 (value fun it => it.randomPropertyId.toNat) ++
    writeU32 (value (·.suffixFactor)) ++ writeU8 (value (·.count)) ++ writeU32 (value fun it => it.spellCharges.toNat) ++
    writeU32 (value (·.maxDurability)) ++ writeU32 (value (·.durability))

/-- What is written for one mail. -/
def mailBlock : List UInt8 :=
  Bytes.le 2 (nextMailSize m) ++ writeU32 m.messageID ++
    writeU8 (match m.messageType with
      | .normal => 0
      | .auction => 2
      | .creature => 3
      | .gameobject => 4
      | .item => 5) ++
    senderField m ++ writeU32 m.cod ++ writeU32 m.itemTextId ++ writeU32 0 ++ writeU32 m.stationery ++
    writeU32 m.money ++ writeU32 m.checked ++ writeU32 (v.floatBits ((m.expireTime - v.curTime).tdiv daySeconds)).toNat ++
    writeU32 m.mailTemplateId ++ (m.subject ++ [0]) ++ writeU8 (itemCount m) ++
    (List.range (itemCount m)).flatMap (itemField v m)

/-- The mail is skipped. -/
def isSkipped : Bool := m.state == .deleted || v.curTime < m.deliverTime

def MailPacket.write (p : MailPacket) : MailPacket where
  data := p.data ++ mailBlock v m
  mailsCount := p.mailsCount + 1
  written := p.written ++ [mailBlock v m]

end Writer

variable (v : MailboxView)

/-- The loop over the mails. -/
def getMailLoop : List ListedMail → MailPacket → MailPacket
  | [], p => p
  | m :: ms, p =>
    if 254 ≤ p.mailsCount then p
    else if isSkipped v m then getMailLoop ms p
    else if maxPacketSize < p.data.length + nextMailSize m then p
    else getMailLoop ms (p.write v m)

def handleGetMail (mails : List ListedMail) : MailPacket :=
  let p := getMailLoop v mails { data := [0], mailsCount := 0, written := [] }
  { p with data := p.data.set 0 (UInt8.ofNat p.mailsCount) }

/-! ## The law -/

/-- The size field of a mail. -/
def sizeField (block : List UInt8) : Nat := Bytes.value (block.take 2)

/-- **The packet tells what is in it**: the count, and behind it each mail with its size. -/
structure MailPacket.Exact (p : MailPacket) : Prop where
  count : p.data.head? = some (UInt8.ofNat p.written.length) ∧ p.written.length < 256
  data : p.data.tail = p.written.flatten
  sizes : ∀ block ∈ p.written, sizeField block = block.length

/-- The mails that are listed while there is space. -/
def delivered (mails : List ListedMail) : List ListedMail := mails.filter fun m => !isSkipped v m

/-- There is no space for the last of some mails, all sizes as computed. -/
def NoSpace (count size : Nat) (before : List ListedMail) (m : ListedMail) : Prop :=
  254 ≤ count + before.length ∨ maxPacketSize < size + ((before ++ [m]).map nextMailSize).sum

/-- No mail is reached that is not from a character. -/
def OnlyNormal (count size : Nat) (mails : List ListedMail) : Prop := ∀ before m after, mails = before ++ m :: after →
  (∀ x ∈ before, x.messageType = .normal) → m.messageType ≠ .normal → NoSpace count size before m

/-! ## One mail -/

section Block

variable (m : ListedMail)

@[simp] theorem writeU32_length (x : Nat) : (writeU32 x).length = 4 := Bytes.le_length 4 x

@[simp] theorem writeU8_length (x : Nat) : (writeU8 x).length = 1 := Bytes.le_length 1 x

theorem enchantmentField_length (item : Option MailedItem) (j : Nat) : (enchantmentField item j).length = 12 := by
  unfold enchantmentField
  simp

theorem itemField_length (i : Nat) : (itemField v m i).length = 102 := by
  unfold itemField
  simp [List.length_flatMap, enchantmentField_length]

theorem items_length (n : Nat) : ((List.range n).flatMap (itemField v m)).length = n * 102 := by
  simp [List.length_flatMap, itemField_length]

/-- **The bytes of a mail**: the computed size, but for the sender. -/
theorem mailBlock_length : (mailBlock v m).length + 8 = nextMailSize m + (senderField m).length := by
  unfold mailBlock nextMailSize
  simp only [List.length_append, Bytes.le_length, writeU32_length, writeU8_length, items_length, List.length_singleton]
  omega

theorem senderField_length_eq : (senderField m).length = 8 ↔ m.messageType = .normal := by
  unfold senderField
  cases m.messageType with
  | normal => simp
  | auction => simp
  | creature => simp
  | gameobject => simp
  | item => simp

theorem sizeField_mailBlock (h : nextMailSize m ≤ maxPacketSize) : sizeField (mailBlock v m) = nextMailSize m := by
  have htake : (mailBlock v m).take 2 = Bytes.le 2 (nextMailSize m) := by
    unfold mailBlock
    simp only [List.append_assoc]
    exact List.take_left' (Bytes.le_length 2 _)
  unfold maxPacketSize at h
  unfold sizeField
  rw [htake, Bytes.value_le, Nat.mod_eq_of_lt (by omega)]

/-- **The size of a mail is right** just if it is from a character. -/
theorem sizeField_eq_iff (h : nextMailSize m ≤ maxPacketSize) :
    sizeField (mailBlock v m) = (mailBlock v m).length ↔ m.messageType = .normal := by
  have hlen := mailBlock_length v m
  rw [sizeField_mailBlock v m h, ← senderField_length_eq]
  omega

end Block

/-! ## The loop -/

variable {v}

/-- What holds at every turn: the packet has what was written, and nothing else. -/
structure Growing (p : MailPacket) : Prop where
  head : p.data.head? = some 0
  tail : p.data.tail = p.written.flatten
  count : p.mailsCount = p.written.length
  few : p.mailsCount ≤ 254

theorem Growing.write {p : MailPacket} (h : Growing p) (hlt : p.mailsCount < 254) (m : ListedMail) :
    Growing (p.write v m) := by
  have hne : p.data ≠ [] := by
    intro hnil
    have hhead := h.head
    rw [hnil] at hhead
    cases hhead
  unfold MailPacket.write
  refine ⟨?_, ?_, ?_, hlt⟩
  · rw [List.head?_append, h.head]
    rfl
  · rw [List.tail_append_of_ne_nil hne, h.tail, List.flatten_append, List.flatten_singleton]
  · rw [List.length_append, h.count]
    rfl

theorem Growing.loop {p : MailPacket} (h : Growing p) (mails : List ListedMail) : Growing (getMailLoop v mails p) := by
  induction mails generalizing p with
  | nil => exact h
  | cons m mails ih =>
    rw [getMailLoop]
    split
    · exact h
    next hlt =>
    split
    · exact ih h
    split
    · exact h
    · exact ih (h.write (Nat.not_le.1 hlt) m)

theorem written_append (mails : List ListedMail) (p : MailPacket) : p.written <+: (getMailLoop v mails p).written := by
  induction mails generalizing p with
  | nil => exact List.prefix_rfl
  | cons m mails ih =>
    rw [getMailLoop]
    split
    · exact List.prefix_rfl
    split
    · exact ih p
    split
    · exact List.prefix_rfl
    · exact (List.prefix_append _ _).trans (ih (p.write v m))

theorem getMailLoop_delivered (mails : List ListedMail) (p : MailPacket) :
    getMailLoop v mails p = getMailLoop v (delivered v mails) p := by
  induction mails generalizing p with
  | nil => rfl
  | cons m mails ih =>
    unfold delivered
    rw [List.filter_cons]
    by_cases hskip : isSkipped v m = true
    · rw [hskip, Bool.not_true, if_neg Bool.false_ne_true, getMailLoop, if_pos hskip]
      split
      · next hfull =>
        cases hl : mails.filter fun m => !isSkipped v m with
        | nil => rfl
        | cons m' mails' => rw [getMailLoop, if_pos hfull]
      · exact ih p
    · rw [Bool.not_eq_true] at hskip
      rw [hskip, Bool.not_false, if_pos rfl, getMailLoop, getMailLoop, hskip]
      simp only [ih]
      rfl

theorem onlyNormal_cons_iff {count size : Nat} {m : ListedMail} {mails : List ListedMail} :
    OnlyNormal count size (m :: mails) ↔
      (m.messageType = .normal → OnlyNormal (count + 1) (size + nextMailSize m) mails) ∧
        (m.messageType ≠ .normal → NoSpace count size [] m) := by
  unfold OnlyNormal NoSpace
  constructor
  · intro h
    refine ⟨fun hm before m' after hsplit hbefore hm' => ?_, fun hm => h [] m mails rfl (by simp) hm⟩
    have hall : ∀ x ∈ m :: before, x.messageType = .normal := List.forall_mem_cons.2 ⟨hm, hbefore⟩
    have hno := h (m :: before) m' after (by rw [hsplit]; rfl) hall hm'
    rw [List.length_cons, List.cons_append, List.map_cons, List.sum_cons] at hno
    omega
  · rintro ⟨hnormal, hother⟩ before m' after hsplit hbefore hm'
    cases before with
    | nil =>
      rw [List.nil_append, List.cons.injEq] at hsplit
      rw [← hsplit.1] at hm' ⊢
      exact hother hm'
    | cons x before =>
      rw [List.cons_append, List.cons.injEq] at hsplit
      obtain ⟨rfl, hsplit⟩ := hsplit
      rw [List.forall_mem_cons] at hbefore
      have hno := hnormal hbefore.1 before m' after hsplit hbefore.2 hm'
      rw [List.length_cons, List.cons_append, List.map_cons, List.sum_cons]
      omega

theorem onlyNormal_of_noSpace {count size : Nat} {m : ListedMail} {mails : List ListedMail}
    (h : 254 ≤ count ∨ maxPacketSize < size + nextMailSize m) : OnlyNormal count size (m :: mails) := by
  intro before m' after hsplit _ _
  unfold NoSpace
  refine h.imp (fun h => by omega) fun h => ?_
  have hle : nextMailSize m ≤ ((before ++ [m']).map nextMailSize).sum := by
    cases before with
    | nil =>
      rw [List.nil_append, List.cons.injEq] at hsplit
      rw [hsplit.1]
      exact Nat.le_of_eq (Nat.add_zero _).symm
    | cons x before =>
      rw [List.cons_append, List.cons.injEq] at hsplit
      rw [hsplit.1, List.cons_append, List.map_cons, List.sum_cons]
      exact Nat.le_add_right ..
  omega

/-- **The sizes stay right** just if all mails that are written are from characters. -/
theorem loop_sizes_iff (mails : List ListedMail) (hmails : ∀ m ∈ mails, isSkipped v m = false) (p : MailPacket)
    (hsizes : ∀ block ∈ p.written, sizeField block = block.length) :
    (∀ block ∈ (getMailLoop v mails p).written, sizeField block = block.length) ↔
      OnlyNormal p.mailsCount p.data.length mails := by
  induction mails generalizing p with
  | nil =>
    refine iff_of_true hsizes fun before m after hsplit => ?_
    cases before <;> cases hsplit
  | cons m mails ih =>
    rw [List.forall_mem_cons] at hmails
    rw [getMailLoop, hmails.1]
    by_cases hfull : 254 ≤ p.mailsCount
    · rw [if_pos hfull]
      exact iff_of_true hsizes (onlyNormal_of_noSpace (Or.inl hfull))
    rw [if_neg hfull, if_neg Bool.false_ne_true]
    by_cases hbig : maxPacketSize < p.data.length + nextMailSize m
    · rw [if_pos hbig]
      exact iff_of_true hsizes (onlyNormal_of_noSpace (Or.inr hbig))
    rw [if_neg hbig, onlyNormal_cons_iff]
    have hfits : nextMailSize m ≤ maxPacketSize := by omega
    by_cases hm : m.messageType = .normal
    · have hsize := (sizeField_eq_iff v m hfits).2 hm
      have hlen : (mailBlock v m).length = nextMailSize m := by rw [← hsize, sizeField_mailBlock v m hfits]
      have hsizes' : ∀ block ∈ (p.write v m).written, sizeField block = block.length := by
        intro block hblock
        rcases List.mem_append.1 hblock with hold | hnew
        · exact hsizes block hold
        · rw [List.mem_singleton.1 hnew]
          exact hsize
      have hdata : (p.write v m).data.length = p.data.length + nextMailSize m := by
        unfold MailPacket.write
        rw [List.length_append, hlen]
      rw [ih hmails.2 (p.write v m) hsizes', hdata]
      exact ⟨fun h => ⟨fun _ => h, fun hne => absurd hm hne⟩, fun h => h.1 hm⟩
    · refine iff_of_false (fun hall => ?_) fun h => ?_
      · have hin : mailBlock v m ∈ (getMailLoop v mails (p.write v m)).written :=
          (written_append mails (p.write v m)).subset (List.mem_append_right _ (List.mem_singleton_self _))
        exact hm ((sizeField_eq_iff v m hfits).1 (hall _ hin))
      · rcases h.2 hm with hc | hs
        · exact hfull hc
        · exact hbig (by simpa using hs)

/-- **The list of mails tells what is in it** exactly when no mail is reached that is not from a character, for
every mailbox. -/
theorem sizes_exact_iff (v : MailboxView) (mails : List ListedMail) :
    (handleGetMail v mails).Exact ↔ OnlyNormal 0 1 (delivered v mails) := by
  have hstart : Growing { data := [0], mailsCount := 0, written := [] } := ⟨rfl, rfl, rfl, by decide⟩
  have hgrown := hstart.loop (v := v) mails
  have hsizes := loop_sizes_iff (v := v) (delivered v mails)
    (fun m hm => by simpa using (List.mem_filter.1 hm).2) { data := [0], mailsCount := 0, written := [] }
    fun block hblock => nomatch hblock
  rw [← getMailLoop_delivered] at hsizes
  unfold handleGetMail
  dsimp only
  generalize getMailLoop v mails { data := [0], mailsCount := 0, written := [] } = p at hgrown hsizes ⊢
  refine Iff.trans ⟨fun h => h.sizes, fun h => ⟨?_, ?_, h⟩⟩ hsizes
  · cases hdata : p.data with
    | nil =>
      have hhead := hgrown.head
      rw [hdata] at hhead
      cases hhead
    | cons b data =>
      have hfew := hgrown.few
      rw [hgrown.count] at hfew ⊢
      exact ⟨rfl, Nat.lt_of_le_of_lt hfew (by decide)⟩
  · have htail := hgrown.tail
    cases hdata : p.data with
    | nil =>
      rw [hdata] at htail
      exact htail
    | cons b data =>
      rw [hdata] at htail
      exact htail

/-! ## A mail from a character, and one from an auction -/

def sampleMailbox : MailboxView where
  curTime := 0
  getMItem := fun _ => none
  floatBits := fun _ => 0

def sampleMail (messageType : MailMessageType) : ListedMail :=
  { messageID := 1, messageType := messageType, sender := 5, receiver := 7, deliverTime := 0 }

theorem sizes_exact_iff_sample : (handleGetMail sampleMailbox [sampleMail .normal]).Exact := by
  refine (sizes_exact_iff sampleMailbox [sampleMail .normal]).2 fun before m after hsplit _ hm => ?_
  have hone : delivered sampleMailbox [sampleMail .normal] = [sampleMail .normal] := rfl
  rw [hone] at hsplit
  cases before with
  | nil =>
    rw [List.nil_append, List.cons.injEq] at hsplit
    exact absurd (hsplit.1 ▸ rfl) hm
  | cons x before =>
    have hlen := congrArg List.length hsplit
    simp at hlen

/-- **A mail from an auction**: 45 bytes behind a size of 49. -/
theorem auction_mail_short :
    (handleGetMail sampleMailbox [sampleMail .auction]).written.map (fun block => (sizeField block, block.length)) =
      [(49, 45)] ∧ ¬ (handleGetMail sampleMailbox [sampleMail .auction]).Exact := by
  have hsizes : (handleGetMail sampleMailbox [sampleMail .auction]).written.map (fun block =>
      (sizeField block, block.length)) = [(49, 45)] := by decide
  refine ⟨hsizes, fun h => ?_⟩
  obtain ⟨block, hblock, heq⟩ := List.mem_map.1 (hsizes ▸ List.mem_singleton_self (49, 45))
  have hsame := h.sizes block hblock
  rw [Prod.mk.injEq] at heq
  omega

end BlizzLike
