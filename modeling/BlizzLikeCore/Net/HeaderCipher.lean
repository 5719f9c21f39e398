import BlizzLikeCore.Lib.Mealy
import BlizzLikeCore.Net.Outgoing

/-!
# Both ends of the header cipher

The loop of `DecryptRecv` undoes that of `EncryptSend` and is undone by it, byte by byte and so
header by header for a whole session.  But `EncryptSend` is given the length of the header and
transforms `CRYPTED_SEND_LEN` bytes of it, which is all of a small header and not the last byte
of a large one (`whole_header_iff`).
-/

namespace BlizzLike

namespace AuthCrypt

/-! ## Algorithm -/

/-- The other end of the line, where what is sent here is received. -/
def peer (c : AuthCrypt) : AuthCrypt :=
  { c with sendI := c.recvI, sendJ := c.recvJ, recvI := c.sendI, recvJ := c.sendJ }

/-- The loop of `EncryptSend` or `DecryptRecv` over the first `len` bytes of a header: with the one's
loop and the other's length it is what the client does. -/
def cryptHeader (f : AuthCrypt → UInt8 → AuthCrypt × UInt8) (len : Nat) (c : AuthCrypt) (data : List UInt8) :
    AuthCrypt × List UInt8 :=
  if c.initialized = false then (c, data) else Mealy.onFirst len f c data

/-- **The round trips** over the headers of a session: the other loop, started where the one was,
brings back the headers and ends where the one does. -/
def MutuallyInverse (c : AuthCrypt) : Prop :=
  ∀ headers : List (List UInt8),
    Mealy.run (cryptHeader decryptByte cryptedSendLen) c.peer (Mealy.run encryptSend c headers).2 =
        ((Mealy.run encryptSend c headers).1.peer, headers) ∧
      Mealy.run (cryptHeader encryptByte cryptedRecvLen) c.peer (Mealy.run decryptRecv c headers).2 =
        ((Mealy.run decryptRecv c headers).1.peer, headers)

/-- Every byte of a header is transformed, whatever the key and the state. -/
def TransformsAll (header : List UInt8) : Prop :=
  ∀ c : AuthCrypt, c.initialized = true → c.key ≠ [] → c.encryptSend header = cryptBytes encryptByte c header

/-! ## Lemmas -/

theorem cryptBytes_eq (f : AuthCrypt → UInt8 → AuthCrypt × UInt8) (c : AuthCrypt) (data : List UInt8) :
    cryptBytes f c data = Mealy.run f c data := by
  induction data generalizing c with
  | nil => rfl
  | cons d ds ih => simp only [cryptBytes, Mealy.run, ih]

theorem encryptSend_eq : encryptSend = cryptHeader encryptByte cryptedSendLen := by
  funext c data
  unfold encryptSend cryptHeader Mealy.onFirst
  simp only [cryptBytes_eq]

theorem decryptRecv_eq : decryptRecv = cryptHeader decryptByte cryptedRecvLen := by
  funext c data
  unfold decryptRecv cryptHeader Mealy.onFirst
  simp only [cryptBytes_eq]

/-- **One byte** that is encrypted is decrypted again. -/
theorem decrypt_undoes : Mealy.Undoes peer encryptByte decryptByte := by
  intro c d
  unfold decryptByte encryptByte peer keyIndex keyAt
  simp [UInt8.xor_assoc]

/-- **One byte** that is decrypted is encrypted again. -/
theorem encrypt_undoes : Mealy.Undoes peer decryptByte encryptByte := by
  intro c d
  unfold decryptByte encryptByte peer keyIndex keyAt
  simp [UInt8.xor_assoc]

theorem cryptHeader_undoes {f g : AuthCrypt → UInt8 → AuthCrypt × UInt8} (h : Mealy.Undoes peer f g) (len : Nat) :
    Mealy.Undoes peer (cryptHeader f len) (cryptHeader g len) := by
  intro c data
  have hpeer : c.peer.initialized = c.initialized := rfl
  unfold cryptHeader
  rw [hpeer]
  by_cases hinit : c.initialized = false
  · rw [if_pos hinit, if_pos hinit]
  · rw [if_neg hinit, if_neg hinit]
    exact h.onFirst len c data

theorem mutuallyInverse (c : AuthCrypt) : c.MutuallyInverse := by
  intro headers
  rw [encryptSend_eq, decryptRecv_eq]
  exact ⟨(cryptHeader_undoes decrypt_undoes cryptedSendLen).run c headers,
    (cryptHeader_undoes encrypt_undoes cryptedRecvLen).run c headers⟩

/-! ### The bytes of a header -/

theorem transformsAll_small {header : List UInt8} (h : header.length = cryptedSendLen) : TransformsAll header := by
  intro c hinit _
  unfold encryptSend
  rw [if_neg (by simp [hinit]), if_neg (by omega), List.take_of_length_le (by omega), List.drop_of_length_le (by omega)]
  simp only [List.append_nil]

/-- A key that is longer than the header and a fresh state. -/
def sample : AuthCrypt := { initialized := true, key := [1, 2, 3, 4, 5, 6, 7] }

theorem not_transformsAll_large {header : List UInt8} (h : header.length = cryptedSendLen + 1) :
    ¬ TransformsAll header := by
  intro hall
  obtain ⟨a, b, c, d, e, rfl⟩ : ∃ a b c d e, header = [a, b, c, d, e] := by
    match header, h with
    | [a, b, c, d, e], _ => exact ⟨a, b, c, d, e, rfl⟩
  have hindex := congrArg (fun r => r.1.sendI) (hall sample rfl (by decide))
  exact absurd hindex (show (4 : UInt8) ≠ 5 by decide)

end AuthCrypt

theorem serverPktHeader_length (size cmd : Nat) :
    (serverPktHeader size cmd).length = AuthCrypt.cryptedSendLen + if u32 size > 0x7FFF then 1 else 0 := by
  unfold serverPktHeader AuthCrypt.cryptedSendLen
  split <;> rfl

/-- **Every byte of the headers is transformed** exactly as long as no packet is large; the loops are
mutually inverse on any headers. -/
theorem whole_header_iff (packets : List WorldPacket) :
    ((∀ c : AuthCrypt, c.initialized = true → c.key ≠ [] → c.MutuallyInverse) ∧
        ∀ p ∈ packets, AuthCrypt.TransformsAll p.header) ↔
      ∀ p ∈ packets, u32 (p.size + 2) ≤ 0x7FFF := by
  have hheader : ∀ p : WorldPacket, AuthCrypt.TransformsAll p.header ↔ u32 (p.size + 2) ≤ 0x7FFF := by
    intro p
    have hlen := serverPktHeader_length (p.size + 2) p.opcode
    constructor
    · intro hall
      by_contra hlarge
      rw [if_pos (by omega)] at hlen
      exact AuthCrypt.not_transformsAll_large hlen hall
    · intro hsmall
      rw [if_neg (by omega)] at hlen
      exact AuthCrypt.transformsAll_small hlen
  constructor
  · rintro ⟨_, hall⟩ p hp
    exact (hheader p).1 (hall p hp)
  · intro hsmall
    exact ⟨fun c _ _ => c.mutuallyInverse, fun p hp => (hheader p).2 (hsmall p hp)⟩

/-- **A large packet**: the last byte of its header is sent as it is. -/
theorem large_header_left :
    ¬ ∀ p : WorldPacket, u32 (p.size + 2) > 0x7FFF → AuthCrypt.TransformsAll p.header := by
  intro hall
  let p : WorldPacket := { opcode := 502, contents := List.replicate 32766 0, rpos_le := Nat.zero_le _ }
  have hlarge : u32 (p.size + 2) > 0x7FFF := by
    rw [show p.size = 32766 from List.length_replicate]
    decide
  have hlen := serverPktHeader_length (p.size + 2) p.opcode
  rw [if_pos hlarge] at hlen
  exact AuthCrypt.not_transformsAll_large hlen (hall p hlarge)

end BlizzLike
