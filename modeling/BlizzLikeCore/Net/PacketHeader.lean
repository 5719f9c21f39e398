import BlizzLikeCore.Net.Outgoing

/-!
# Reading a packet's header back

The size field of a `ServerPktHeader` has two bytes, or three in a large packet, whose first has its top
bit set for the reader to tell.  Of a size from 2^23 on that bit is one of the size's own: nothing tells
that it was set before, and what is read back is 2^23 less (`header_read`).
-/

namespace BlizzLike

def isLargePacket (size : Nat) : Bool := decide (size > 0x7FFF)

def getHeaderLength (size : Nat) : Nat := 2 + if isLargePacket size then 3 else 2

/-- A reader of headers: the size, the opcode and the bytes that are left.  It takes the large form just
if the top bit of the first byte is set. -/
def readPktHeader : List UInt8 → Option (Nat × Nat × List UInt8)
  | b :: s1 :: s0 :: rest =>
    if b.toNat < 128 then
      match rest with
      | c1 :: rest => some (b.toNat * 256 + s1.toNat, s0.toNat + c1.toNat * 256, rest)
      | [] => none
    else
      match rest with
      | c0 :: c1 :: rest =>
        some ((b.toNat - 128) * 65536 + s1.toNat * 256 + s0.toNat, c0.toNat + c1.toNat * 256, rest)
      | _ => none
  | _ => none

/-- The first byte of a large packet's size. -/
theorem large_toNat (n : Nat) : (0x80 ||| UInt8.ofNat n).toNat = 128 + n % 128 := by
  have hlt : n % 128 < 128 := Nat.mod_lt n (by decide)
  have hlow : 128 ||| n % 128 = 128 + n % 128 := (@Nat.two_pow_add_eq_or_of_lt 7 (n % 128) hlt 1).symm
  have hbyte : n % 256 = n % 128 ∨ n % 256 = 128 ||| n % 128 := by
    rw [hlow]
    omega
  rw [UInt8.toNat_or, UInt8.toNat_ofNat']
  refine Eq.trans ?_ hlow
  rcases hbyte with h | h
  · rw [h]
    rfl
  · -- the flag lies on a bit of the size
    rw [h]
    exact (Nat.or_assoc _ _ _).symm.trans (congrArg (· ||| n % 128) (Nat.or_self _))

/-- **What is read back** of the header of any size and opcode. -/
theorem header_read (size cmd : Nat) (hsize : size < 16777216) (hcmd : cmd < 65536) (rest : List UInt8) :
    readPktHeader (serverPktHeader size cmd ++ rest) =
      some (if isLargePacket size then size % 8388608 else size, cmd, rest) := by
  have hu : u32 size = size := Nat.mod_eq_of_lt (by omega)
  unfold serverPktHeader isLargePacket
  rw [hu]
  by_cases h : size > 0x7FFF
  · rw [if_pos h, decide_eq_true h, if_pos rfl]
    simp only [List.cons_append, List.nil_append, readPktHeader, large_toNat, UInt8.toNat_ofNat']
    rw [if_neg (by omega)]
    simp only [Option.some.injEq, Prod.mk.injEq, and_true]
    omega
  · rw [if_neg h, decide_eq_false h, if_neg Bool.false_ne_true]
    simp only [List.cons_append, List.nil_append, readPktHeader, UInt8.toNat_ofNat']
    rw [if_pos (by omega)]
    simp only [Option.some.injEq, Prod.mk.injEq, and_true]
    omega

theorem getHeaderLength_eq (size cmd : Nat) (hsize : size < 4294967296) :
    (serverPktHeader size cmd).length = getHeaderLength size := by
  have hu : u32 size = size := Nat.mod_eq_of_lt hsize
  unfold serverPktHeader getHeaderLength isLargePacket
  rw [hu]
  by_cases h : size > 0x7FFF
  · rw [if_pos h, decide_eq_true h]
    rfl
  · rw [if_neg h, decide_eq_false h]
    rfl

namespace WorldPacket

/-- The header of a packet is read back, and nothing but it: whatever follows, the reader gets the size
and the opcode and leaves what comes `getHeaderLength` bytes on. -/
def HeaderRead (p : WorldPacket) : Prop :=
  ∀ rest, readPktHeader (p.header ++ rest) =
    some (p.size + 2, p.opcode, (p.header ++ rest).drop (getHeaderLength (p.size + 2)))

variable (p : WorldPacket)

/-- **A header is read back** just if the size, that is the payload and two bytes for the opcode, is less
than 2^23. -/
theorem header_read_iff (hsize : p.size < 10000000) (hop : p.opcode < 65536) :
    p.HeaderRead ↔ p.size + 2 < 8388608 := by
  have hdrop (rest : List UInt8) :
      (p.header ++ rest).drop (getHeaderLength (p.size + 2)) = rest := by
    rw [← getHeaderLength_eq (p.size + 2) p.opcode (by omega)]
    exact List.drop_left
  have hread := header_read (p.size + 2) p.opcode (by omega) hop
  unfold HeaderRead
  simp only [hdrop]
  constructor
  · intro h
    have heq := (hread []).symm.trans (h [])
    have hsame := (Prod.mk.inj (Option.some.inj heq)).1
    split at hsame
    · omega
    · next hlarge =>
      have := of_decide_eq_false (Bool.eq_false_iff.2 hlarge)
      omega
  · intro h rest
    refine (hread rest).trans ?_
    split
    · rw [Nat.mod_eq_of_lt h]
    · rfl

/-- A packet of two bytes. -/
theorem header_read_iff_small : ({ opcode := 0x1ED, contents := [7, 9] } : WorldPacket).HeaderRead ↔ 2 + 2 < 8388608 :=
  header_read_iff { opcode := 0x1ED, contents := [7, 9] } (by decide) (by decide)

/-- The first size that is read back wrong. -/
theorem header_misread :
    ¬ ∀ p : WorldPacket, p.size < 10000000 → p.opcode < 65536 → p.HeaderRead := by
  intro h
  let p : WorldPacket :=
    { opcode := 0x1ED, contents := List.replicate 8388606 0, rpos := 0, rpos_le := Nat.zero_le _ }
  have hsize : p.size = 8388606 := List.length_replicate
  have hread := header_read (p.size + 2) p.opcode (by omega) (by decide) []
  have heq := hread.symm.trans (h p (by omega) (by decide) [])
  have hsame := (Prod.mk.inj (Option.some.inj heq)).1
  rw [hsize] at hsame
  exact absurd hsame (by decide)

end WorldPacket

end BlizzLike
