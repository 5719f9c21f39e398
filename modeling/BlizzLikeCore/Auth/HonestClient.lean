import BlizzLikeCore.Auth.Accounts
import BlizzLikeCore.Lib.Sha1

/-!
# What an honest client computes

A client that knows the password makes of what a challenge sends, and of what it sends itself, the same secret as
the server.  It hashes numbers at their full width: 32 bytes for `A`, `B` and `s`, 20 for a digest, 40 for the
session key.  The server hashes those it has at their shortest, and its `AsByteArray` puts the zeros that fill a
size up at the low end.  So the proofs are the same just when nothing is to be filled (`restored_and_agreed_iff`).

    secrets_agree : the secrets are the same
    proofs_iff    : what it takes for the proofs to be the same
-/

namespace BlizzLike

namespace BigNumber

/-- `BN_bin2bn` -/
def bin2bn (bytes : List UInt8) : Nat := bytes.foldl (fun n byte => 256 * n + byte.toNat) 0

/-- `SetBinary`: there must be that many bytes, and its own array has 1000. -/
def setBinary (bytes : List UInt8) (len : Nat) : Option Nat :=
  if len ≤ bytes.length ∧ len ≤ 1000 then some (bin2bn (bytes.take len).reverse) else none

theorem bin2bn_reverse (bytes : List UInt8) : bin2bn bytes.reverse = Bytes.value bytes := by
  rw [bin2bn, List.foldl_reverse]
  induction bytes with
  | nil => rfl
  | cons byte bytes ih =>
    rw [List.foldr_cons, ih, Bytes.value_cons]
    exact Nat.add_comm _ _

/-- Zeros at the low end leave a number what it is only where there are none, or it is 0. -/
theorem scaled_eq_iff {n size : Nat} (h : numBytes n ≤ size) :
    256 ^ (size - numBytes n) * n = n ↔ n = 0 ∨ numBytes n = size := by
  constructor
  · intro heq
    refine or_iff_not_imp_left.2 fun hn => ?_
    have hpow : 256 ^ (size - numBytes n) = 1 :=
      Nat.eq_of_mul_eq_mul_right (Nat.pos_of_ne_zero hn) (heq.trans (Nat.one_mul n).symm)
    rcases (Nat.pow_eq_one).1 hpow with h256 | hzero
    · cases h256
    · omega
  · rintro (rfl | hfull)
    · rw [Nat.mul_zero]
    · rw [hfull, Nat.sub_self, Nat.pow_zero, Nat.one_mul]

/-- **A number comes back** when the size is its own, or it is 0. -/
theorem setBinary_asByteArray {x n : Nat} (h : numBytes x ≤ n) :
    setBinary (asByteArray x n) n = some x ↔ n ≤ 1000 ∧ (x = 0 ∨ numBytes x = n) := by
  have hlen : (asByteArray x n).length = n := by rw [asByteArray_length, Nat.max_eq_left h]
  unfold setBinary
  rw [hlen, List.take_of_length_le hlen.le, bin2bn_reverse, value_asByteArray]
  by_cases hn : n ≤ 1000
  · rw [if_pos ⟨Nat.le_refl n, hn⟩, Option.some.injEq, scaled_eq_iff h]
    exact (and_iff_right hn).symm
  · rw [if_neg fun hh => hn hh.2]
    exact iff_of_false (fun hh => nomatch hh) fun hh => hn hh.1

theorem interleave_lt (fuel m n : Nat) : interleave fuel m n < 256 ^ (2 * fuel) := by
  induction fuel generalizing m n with
  | zero => exact Nat.one_pos
  | succ fuel ih =>
    have hrest := ih (m / 256) (n / 256)
    have hm := Nat.mod_lt m (show 0 < 256 by decide)
    have hn := Nat.mod_lt n (show 0 < 256 by decide)
    rw [interleave, show 2 * (fuel + 1) = 2 * fuel + 2 from rfl, Nat.pow_add]
    omega

theorem le_of_numBytes {n size : Nat} (h : numBytes n = size) : Bytes.le size n = asByteArray n 0 := by
  rw [asByteArray_zero, h]

theorem asByteArray_full_iff {n size : Nat} (h : n < 256 ^ size) :
    asByteArray n size = Bytes.le size n ↔ n = 0 ∨ numBytes n = size := by
  have hle := numBytes_le h
  constructor
  · intro heq
    have hvalue := congrArg Bytes.value heq
    rw [value_asByteArray, Bytes.value_le, Nat.mod_eq_of_lt h] at hvalue
    exact (scaled_eq_iff hle).1 hvalue
  · rintro (rfl | hfull)
    · rw [asByteArray_eq, show numBytes 0 = 0 from rfl, Bytes.le, List.append_nil, Nat.sub_zero, Bytes.le_zero]
    · rw [asByteArray_eq, hfull, Nat.sub_self, List.replicate_zero, List.nil_append]

end BigNumber

/-- A logon with the right password: the account's `s` and the digest of its name and password, and the numbers
that the server and the client draw.  Digests have 20 bytes. -/
structure Logon where
  sha1 : List UInt8 → Nat
  sha1_lt : ∀ bytes, sha1 bytes < 256 ^ 20
  login : List UInt8
  password : List UInt8
  s : Nat
  s_lt : s < 256 ^ 32
  b : Nat
  unk3 : Nat
  a : Nat

namespace Logon

open BigNumber Srp6 PowMod

variable (l : Logon)

/-! ## The server -/

/-- `x` of `_SetVSFields`. -/
def x : Nat := l.sha1 (asByteArray l.s 0 ++ l.password)

/-- The verifier. -/
def v : Nat := powMod g l.x N

/-- After the challenge. -/
def socket : AuthSocket where
  s := l.s
  v := l.v
  b := l.b
  B := (l.v * 3 + powMod g l.b N) % N
  login := l.login

/-- What the challenge sends after `WOW_SUCCESS`. -/
def challengePacket : List UInt8 :=
  asByteArray l.socket.B 32 ++ [1] ++ (asByteArray g 0).take 1 ++ [32] ++ (asByteArray N 32).take 32 ++
    asByteArray l.s 0 ++ (asByteArray l.unk3 16).take 16 ++ [0]

/-! ## The client -/

/-- The 32 bytes that are sent for `A`. -/
def wireA : List UInt8 := Bytes.le 32 (powMod g l.a N)

def wireB : List UInt8 := l.challengePacket.take 32

/-- The 32 bytes behind `B`, the lengths, `g` and `N`. -/
def wireS : List UInt8 := (l.challengePacket.drop 67).take 32

/-- `(B - 3 * g ^ x) ^ (a + u * x)`. -/
def clientSecret : Nat :=
  let x := l.sha1 (l.wireS ++ l.password)
  let u := l.sha1 (l.wireA ++ l.wireB)
  powMod (Bytes.value l.wireB + 3 * (N - powMod g x N)) (l.a + u * x) N

def clientK : Nat :=
  let t := Bytes.le 32 l.clientSecret
  interleave 20 (l.sha1 (evens t)) (l.sha1 (odds t))

def clientMessage : List UInt8 :=
  Bytes.le 20 (l.sha1 (Bytes.le 32 N) ^^^ l.sha1 (Bytes.le 1 g)) ++ Bytes.le 20 (l.sha1 l.login) ++
    l.wireS ++ l.wireA ++ l.wireB ++ Bytes.le 40 l.clientK

def clientM1 : Nat := l.sha1 l.clientMessage

/-! ## The server's proof -/

/-- `A` as the server reads it. -/
def A : Nat := (setBinary l.wireA 32).getD 0

def u : Nat := l.sha1 (asByteArray l.A 0 ++ asByteArray l.socket.B 0)

def S : Nat := l.socket.sharedSecret l.sha1 l.A

def K : Nat := AuthSocket.sessionKey l.sha1 l.S

/-- `M` of `_HandleLogonProof`. -/
def serverM1 : Nat := l.socket.proofM l.sha1 l.A l.K

def t3 : Nat := l.sha1 (asByteArray N 0) ^^^ l.sha1 (asByteArray g 0)

def serverMessage : List UInt8 :=
  asByteArray l.t3 0 ++ digest (l.sha1 l.login) ++ asByteArray l.s 0 ++ asByteArray l.A 0 ++
    asByteArray l.socket.B 0 ++ asByteArray l.K 0

/-- **The condition**: no number is shorter than its width. -/
structure Full : Prop where
  t3 : numBytes l.t3 = 20
  s : numBytes l.s = 32
  A : numBytes l.A = 32
  B : numBytes l.socket.B = 32
  S : l.S = 0 ∨ numBytes l.S = 32
  K : numBytes l.K = 40

/-- The hash has no collision among what is hashed on both sides. -/
structure NoCollision : Prop where
  proof : l.sha1 l.serverMessage = l.sha1 l.clientMessage → l.serverMessage = l.clientMessage
  even : l.sha1 (evens (asByteArray l.S 32)) = l.sha1 (evens (Bytes.le 32 l.S)) →
    evens (asByteArray l.S 32) = evens (Bytes.le 32 l.S)
  odd : l.sha1 (odds (asByteArray l.S 32)) = l.sha1 (odds (Bytes.le 32 l.S)) →
    odds (asByteArray l.S 32) = odds (Bytes.le 32 l.S)

variable {l}

/-! ## What is sent -/

theorem powMod_lt (x k : Nat) : powMod x k N < N := by
  rw [powMod_eq]
  exact Nat.mod_lt _ (by decide)

theorem A_eq : l.A = powMod g l.a N := by
  have hlt : powMod g l.a N < 256 ^ 32 := (powMod_lt g l.a).trans (by decide)
  have hlen : l.wireA.length = 32 := Bytes.le_length 32 _
  unfold A setBinary
  rw [if_pos ⟨hlen.ge, by decide⟩, List.take_of_length_le hlen.le, bin2bn_reverse, Option.getD_some, wireA,
    Bytes.value_le, Nat.mod_eq_of_lt hlt]

theorem A_lt : l.A < 256 ^ 32 := by
  rw [A_eq]
  exact (powMod_lt g l.a).trans (by decide)

theorem B_lt : l.socket.B < 256 ^ 32 := (Nat.mod_lt _ (by decide : 0 < N)).trans (by decide)

theorem S_lt : l.S < 256 ^ 32 := AuthSocket.sharedSecret_lt.trans (by decide)

theorem wireA_eq : l.wireA = Bytes.le 32 l.A := by rw [A_eq, wireA]

theorem wireB_eq : l.wireB = asByteArray l.socket.B 32 := by
  have hlen : (asByteArray l.socket.B 32).length = 32 := by rw [asByteArray_length, Nat.max_eq_left (numBytes_le B_lt)]
  unfold wireB challengePacket
  simp only [List.append_assoc]
  rw [List.take_append_of_le_length hlen.ge, List.take_of_length_le hlen.le]

theorem wireS_eq : l.wireS = (asByteArray l.s 0 ++ ((asByteArray l.unk3 16).take 16 ++ [0])).take 32 := by
  have hlen : (asByteArray l.socket.B 32 ++ [1] ++ (asByteArray g 0).take 1 ++ [32] ++ (asByteArray N 32).take 32).length
      = 67 := by
    have hg : ((asByteArray g 0).take 1).length = 1 := by decide +kernel
    have hN : ((asByteArray N 32).take 32).length = 32 := by decide +kernel
    simp only [List.length_append, asByteArray_length, hg, hN, List.length_singleton]
    rw [Nat.max_eq_left (numBytes_le B_lt)]
  unfold wireS challengePacket
  rw [List.append_assoc, List.append_assoc, List.drop_left' hlen]

theorem wireS_length : l.wireS.length = min 32 (numBytes l.s + 17) := by
  have hunk : ((asByteArray l.unk3 16).take 16).length = 16 := by
    rw [List.length_take, asByteArray_length]
    omega
  rw [wireS_eq, List.length_take, List.length_append, List.length_append, hunk, asByteArray_length, Nat.zero_max]
  rfl

theorem wireS_full (h : numBytes l.s = 32) : l.wireS = asByteArray l.s 0 := by
  have hlen : (asByteArray l.s 0).length = 32 := by rw [asByteArray_length, Nat.zero_max, h]
  rw [wireS_eq, List.take_append_of_le_length hlen.ge, List.take_of_length_le hlen.le]

theorem wireB_full (h : numBytes l.socket.B = 32) : l.wireB = asByteArray l.socket.B 0 := by
  rw [wireB_eq, (asByteArray_full_iff B_lt).2 (.inr h), le_of_numBytes h]

theorem wireA_full (h : numBytes l.A = 32) : l.wireA = asByteArray l.A 0 := by rw [wireA_eq, le_of_numBytes h]

/-! ## The secret -/

theorem pow_exchange {R : Type*} [CommMonoid R] (y : R) (a b u x : Nat) :
    (y ^ b) ^ (a + u * x) = (y ^ a * (y ^ x) ^ u) ^ b := by
  rw [← pow_mul, ← pow_mul, ← pow_add, ← pow_mul, Nat.mul_comm b, Nat.mul_comm u]

theorem powMod_cast (k : Nat) : ((powMod g k N : Nat) : ZMod N) = (g : ZMod N) ^ k := by
  rw [powMod_eq, ZMod.natCast_mod, Nat.cast_pow]

theorem base_cast : ((l.socket.B + 3 * (N - l.v) : Nat) : ZMod N) = (g : ZMod N) ^ l.b := by
  have hB : (l.socket.B : ZMod N) = l.v * 3 + (g : ZMod N) ^ l.b := by
    unfold socket
    rw [ZMod.natCast_mod, Nat.cast_add, Nat.cast_mul, powMod_cast]
    rfl
  have hv : l.v < N := powMod_lt g l.x
  rw [Nat.cast_add, Nat.cast_mul, Nat.cast_sub hv.le, ZMod.natCast_self, hB, zero_sub, mul_neg, mul_comm ((3 : Nat) : ZMod N)]
  exact add_neg_cancel_comm _ _

theorem S_cast : (l.S : ZMod N) = ((g : ZMod N) ^ l.a * ((g : ZMod N) ^ l.x) ^ l.u) ^ l.b := by
  have hA : (l.A : ZMod N) = (g : ZMod N) ^ l.a := by rw [A_eq, powMod_cast]
  have hv : (l.socket.v : ZMod N) = (g : ZMod N) ^ l.x := powMod_cast l.x
  rw [S, AuthSocket.sharedSecret_cast, hA, hv]
  rfl

theorem clientSecret_eq (hs : numBytes l.s = 32) (hA : numBytes l.A = 32) (hB : numBytes l.socket.B = 32) :
    l.clientSecret = powMod (l.socket.B + 3 * (N - l.v)) (l.a + l.u * l.x) N := by
  have hvalue : Bytes.value l.wireB = l.socket.B := by rw [wireB_full hB, asByteArray_zero, value_le_numBytes]
  unfold clientSecret
  rw [hvalue, wireS_full hs, wireA_full hA, wireB_full hB]
  rfl

/-- **The secrets are the same** then. -/
theorem secrets_agree (hs : numBytes l.s = 32) (hA : numBytes l.A = 32) (hB : numBytes l.socket.B = 32) :
    l.clientSecret = l.S := by
  have hclient := clientSecret_eq hs hA hB
  have hlt : l.clientSecret < N := hclient ▸ powMod_lt _ _
  have hcast : ((l.clientSecret : Nat) : ZMod N) = l.S := by
    rw [hclient, powMod_eq, ZMod.natCast_mod, Nat.cast_pow, base_cast, S_cast, pow_exchange]
  have hmod := (ZMod.natCast_eq_natCast_iff' _ _ N).1 hcast
  rwa [Nat.mod_eq_of_lt hlt, Nat.mod_eq_of_lt (show l.S < N from AuthSocket.sharedSecret_lt)] at hmod

/-! ## The session key -/

theorem K_eq : l.K = interleave 20 (l.sha1 (evens (asByteArray l.S 32))) (l.sha1 (odds (asByteArray l.S 32))) := by
  have hlen : (asByteArray l.S 32).length = 32 := by rw [asByteArray_length, Nat.max_eq_left (numBytes_le S_lt)]
  have hsize : ∀ bytes, numBytes (l.sha1 bytes) ≤ 20 := fun bytes => numBytes_le (l.sha1_lt bytes)
  have hlt : ∀ bytes k, numBytes (l.sha1 bytes) ≤ k → l.sha1 bytes < 256 ^ k := fun bytes k hk =>
    Nat.lt_of_lt_of_le (lt_numBytes _) (Nat.pow_le_pow_right (by decide) hk)
  unfold K AuthSocket.sessionKey
  rw [List.take_of_length_le hlen.le]
  exact (interleave_more (Nat.max_le.2 ⟨hsize _, hsize _⟩) (hlt _ _ (Nat.le_max_left _ _))
    (hlt _ _ (Nat.le_max_right _ _))).symm

theorem K_lt : l.K < 256 ^ 40 := by
  rw [K_eq]
  exact interleave_lt 20 _ _

/-- **The session keys are the same** just when the secret needs no zeros. -/
theorem keys_iff (hno : l.NoCollision) (hsecret : l.clientSecret = l.S) :
    l.K = l.clientK ↔ l.S = 0 ∨ numBytes l.S = 32 := by
  rw [← asByteArray_full_iff S_lt, K_eq, clientK, hsecret]
  constructor
  · intro h
    obtain ⟨heven, hodd⟩ := interleave_inj_for (l.sha1_lt _) (l.sha1_lt _) (l.sha1_lt _) (l.sha1_lt _) h
    refine evens_odds_inj _ _ ?_ (hno.even heven) (hno.odd hodd)
    rw [asByteArray_length, Nat.max_eq_left (numBytes_le S_lt), Bytes.le_length]
  · intro h
    rw [h]

/-! ## The messages -/

theorem t3_lt : l.t3 < 256 ^ 20 := by
  have hlt : ∀ bytes, l.sha1 bytes < 2 ^ 160 := l.sha1_lt
  exact Nat.xor_lt_two_pow (hlt _) (hlt _)

theorem clientK_lt : l.clientK < 256 ^ 40 := interleave_lt 20 _ _

theorem digest_eq (bytes : List UInt8) : digest (l.sha1 bytes) = Bytes.le 20 (l.sha1 bytes) := by
  rw [digest, Nat.max_eq_left (numBytes_le (l.sha1_lt bytes))]

theorem clientMessage_eq : l.clientMessage =
    Bytes.le 20 l.t3 ++ digest (l.sha1 l.login) ++ l.wireS ++ l.wireA ++ l.wireB ++ Bytes.le 40 l.clientK := by
  have hN : Bytes.le 32 N = asByteArray N 0 := le_of_numBytes (by decide +kernel)
  have hg : Bytes.le 1 g = asByteArray g 0 := le_of_numBytes (by decide +kernel)
  unfold clientMessage t3
  rw [hN, hg, digest_eq]

/-- **The messages are the same** when each number has its width and the keys are the same. -/
theorem messages_iff : l.serverMessage = l.clientMessage ↔
    numBytes l.t3 = 20 ∧ numBytes l.s = 32 ∧ numBytes l.A = 32 ∧ numBytes l.socket.B = 32 ∧
      numBytes l.K = 40 ∧ l.K = l.clientK := by
  rw [clientMessage_eq, serverMessage]
  constructor
  · intro h
    -- none is longer for the server, so by the length of the whole none is shorter
    have hlen := congrArg List.length h
    simp only [List.length_append, asByteArray_length, Bytes.le_length, wireS_length, wireA_eq, wireB_eq] at hlen
    have ht3 := numBytes_le (t3_lt (l := l))
    have hs := numBytes_le l.s_lt
    have hA := numBytes_le (A_lt (l := l))
    have hB := numBytes_le (B_lt (l := l))
    have hK := numBytes_le (K_lt (l := l))
    have hK40 : numBytes l.K = 40 := by omega
    refine ⟨by omega, by omega, by omega, by omega, hK40, ?_⟩
    have hkeys : asByteArray l.K 0 = Bytes.le 40 l.clientK :=
      (List.append_inj' h (by rw [asByteArray_length, Bytes.le_length, hK40]; rfl)).2
    rw [asByteArray_zero, hK40] at hkeys
    have hvalue := congrArg Bytes.value hkeys
    rwa [Bytes.value_le, Bytes.value_le, Nat.mod_eq_of_lt K_lt, Nat.mod_eq_of_lt clientK_lt] at hvalue
  · rintro ⟨ht3, hs, hA, hB, hK, hkeys⟩
    rw [wireS_full hs, wireA_full hA, wireB_full hB, ← hkeys, le_of_numBytes ht3, le_of_numBytes hK]

/-- **What it takes for the proofs to be the same.** -/
theorem proofs_iff (hno : l.NoCollision) : l.clientM1 = l.serverM1 ↔ l.Full := by
  have hmessages : l.clientM1 = l.serverM1 ↔ l.serverMessage = l.clientMessage :=
    ⟨fun h => hno.proof h.symm, fun h => (congrArg l.sha1 h).symm⟩
  rw [hmessages, messages_iff]
  constructor
  · rintro ⟨ht3, hs, hA, hB, hK, hkeys⟩
    exact ⟨ht3, hs, hA, hB, (keys_iff hno (secrets_agree hs hA hB)).1 hkeys, hK⟩
  · rintro ⟨ht3, hs, hA, hB, hS, hK⟩
    exact ⟨ht3, hs, hA, hB, hK, (keys_iff hno (secrets_agree hs hA hB)).2 hS⟩

/-- **A number comes back** from its bytes when none are to be filled, and then the client's proof is the server's. -/
theorem restored_and_agreed_iff (l : Logon) (hno : l.NoCollision) :
    (∀ x n, numBytes x ≤ n → (setBinary (asByteArray x n) n = some x ↔ n ≤ 1000 ∧ (x = 0 ∨ numBytes x = n))) ∧
      (l.clientM1 = l.serverM1 ↔ l.Full) :=
  ⟨fun _ _ h => setBinary_asByteArray h, proofs_iff hno⟩

/-! ## Two logons -/

/-- A logon of `AB` with the password `C` and a number that the client draws. -/
def logonAB (a : Nat) : Logon where
  sha1 m := Bytes.value (Sha1.digest m)
  sha1_lt m := by
    have hlt := Bytes.value_lt (Sha1.digest m)
    rwa [Sha1.digest_length] at hlt
  login := [0x41, 0x42]
  password := Sha1.digest [0x41, 0x42, 0x3A, 0x43]
  s := 2 ^ 255 + 1
  s_lt := by decide
  b := 2 ^ 151 + 1
  unk3 := 2 ^ 127 + 1
  a := a

/-- Nothing collides when the client draws 100. -/
theorem restored_and_agreed_sample :
    (∀ x n, numBytes x ≤ n → (setBinary (asByteArray x n) n = some x ↔ n ≤ 1000 ∧ (x = 0 ∨ numBytes x = n))) ∧
      ((logonAB 100).clientM1 = (logonAB 100).serverM1 ↔ (logonAB 100).Full) :=
  restored_and_agreed_iff (logonAB 100)
    ⟨fun _ => by decide +kernel, fun _ => by decide +kernel, fun _ => by decide +kernel⟩

/-- **The zeros are at the low end**: of 1 in two bytes comes 256.  And with 86 `A` has 31 bytes, so the right proof
is refused. -/
theorem zeros_at_low_end :
    (numBytes 1 ≤ 2 ∧ setBinary (asByteArray 1 2) 2 = some 256) ∧
      numBytes (logonAB 86).A = 31 ∧ (logonAB 86).clientM1 ≠ (logonAB 86).serverM1 := by
  refine ⟨⟨?_, ?_⟩, ?_, ?_⟩ <;> decide +kernel

end Logon

end BlizzLike
