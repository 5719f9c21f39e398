import BlizzLikeCore.Auth.AuthSocket
import BlizzLikeCore.Lib.Transition
import Mathlib.FieldTheory.Finite.Basic

/-!
# Whose proof is accepted

Who becomes `_authed`, or gets a session key stored, should have proved that he knows what belongs to the account
`_login`: its verifier, or its session key.  But `_login`, the verifier and the session key are set by different
handlers: a challenge that fails, or a reconnect challenge, leaves the verifier of another account, or none; a
logon proof leaves its own session key.  And with a multiple of `N` for `A` every verifier does.

    secretOf_inj     : which verifiers make the same secret
    verifiers_of_key : how many of them can make the same session key
    Lawful           : what should hold of a step
    Careful          : the condition
    accepted_lawful  : the result
-/

namespace BlizzLike

/-! ## Bytes of numbers -/

namespace BigNumber

theorem lt_numBytes (n : Nat) : n < 256 ^ numBytes n := by
  unfold numBytes
  split
  · next hz =>
    rw [hz]
    decide
  · have hlog : n < 2 ^ (n.log2 + 1) := Nat.lt_log2_self
    have hpow : 2 ^ (n.log2 + 1) ≤ 2 ^ (8 * (n.log2 / 8 + 1)) := Nat.pow_le_pow_right (by decide) (by omega)
    rw [Nat.pow_mul] at hpow
    exact Nat.lt_of_lt_of_le hlog hpow

theorem numBytes_le {n size : Nat} (h : n < 256 ^ size) : numBytes n ≤ size := by
  unfold numBytes
  split
  · exact Nat.zero_le _
  · next hpos =>
    have hlog : n.log2 < 8 * size := by
      rw [Nat.log2_lt hpos, Nat.pow_mul]
      exact h
    omega

theorem asByteArray_eq (n minSize : Nat) :
    asByteArray n minSize = List.replicate (minSize - numBytes n) 0 ++ Bytes.le (numBytes n) n := by
  rw [asByteArray, List.reverse_append, List.reverse_reverse, List.reverse_replicate]

theorem asByteArray_length (n minSize : Nat) : (asByteArray n minSize).length = max minSize (numBytes n) := by
  rw [asByteArray_eq, List.length_append, List.length_replicate, Bytes.le_length]
  omega

theorem value_le_numBytes (n : Nat) : Bytes.value (Bytes.le (numBytes n) n) = n := by
  rw [Bytes.value_le, Nat.mod_eq_of_lt (lt_numBytes n)]

/-- **What the bytes stand for**: zeros at the low end multiply. -/
theorem value_asByteArray (n minSize : Nat) :
    Bytes.value (asByteArray n minSize) = 256 ^ (minSize - numBytes n) * n := by
  rw [asByteArray_eq, Bytes.value_replicate_append, value_le_numBytes]

theorem asByteArray_zero (n : Nat) : asByteArray n 0 = Bytes.le (numBytes n) n := by
  rw [asByteArray_eq, Nat.zero_sub, List.replicate_zero, List.nil_append]

theorem asByteArray_inj {m n : Nat} (h : asByteArray m 0 = asByteArray n 0) : m = n := by
  rw [asByteArray_zero, asByteArray_zero] at h
  rw [← value_le_numBytes m, h, value_le_numBytes]

/-- The numbers with the same bytes at a size are among as many quotients as it has bytes. -/
theorem asByteArray_quotient {m n size : Nat} (hsize : 0 < size) (hm : m < 256 ^ size)
    (h : asByteArray m size = asByteArray n size) :
    ∃ j < size, m = Bytes.value (asByteArray n size) / 256 ^ j := by
  have hvalue := value_asByteArray m size
  rw [h] at hvalue
  rcases Nat.eq_zero_or_pos m with rfl | hpos
  · exact ⟨0, hsize, by rw [hvalue, Nat.mul_zero, Nat.zero_div]⟩
  · refine ⟨size - numBytes m, ?_, ?_⟩
    · have hbytes : 0 < numBytes m := by
        rw [numBytes, if_neg hpos.ne']
        omega
      omega
    · rw [hvalue, Nat.mul_div_cancel_left _ (Nat.pow_pos (by decide))]

theorem evens_odds_inj : ∀ xs ys : List UInt8, xs.length = ys.length → evens xs = evens ys → odds xs = odds ys → xs = ys
  | [], [], _, _, _ => rfl
  | [], _ :: _, h, _, _ => by cases h
  | _ :: _, [], h, _, _ => by cases h
  | [x], [y], _, he, _ => he
  | [_], _ :: _ :: _, h, _, _ => by simp at h
  | _ :: _ :: _, [_], h, _, _ => by simp at h
  | x :: x' :: xs, y :: y' :: ys, h, he, ho => by
    simp only [evens, odds, List.cons.injEq] at he ho
    rw [he.1, ho.1, evens_odds_inj xs ys (by simpa using h) he.2 ho.2]

theorem interleave_more {fuel fuel' m n : Nat} (hle : fuel ≤ fuel') (hm : m < 256 ^ fuel) (hn : n < 256 ^ fuel) :
    interleave fuel' m n = interleave fuel m n := by
  induction fuel generalizing fuel' m n with
  | zero =>
    have hm0 : m = 0 := by simpa using hm
    have hn0 : n = 0 := by simpa using hn
    subst hm0 hn0
    clear hle hm hn
    induction fuel' with
    | zero => rfl
    | succ fuel' ih => simp [interleave, ih]
  | succ fuel ih =>
    cases fuel' with
    | zero => omega
    | succ fuel' =>
      rw [Nat.pow_succ] at hm hn
      rw [interleave, interleave, ih (Nat.le_of_succ_le_succ hle) (Nat.div_lt_of_lt_mul (by omega))
        (Nat.div_lt_of_lt_mul (by omega))]

theorem interleave_inj_for {fuel m n m' n' : Nat} (hm : m < 256 ^ fuel) (hn : n < 256 ^ fuel) (hm' : m' < 256 ^ fuel)
    (hn' : n' < 256 ^ fuel) (h : interleave fuel m n = interleave fuel m' n') : m = m' ∧ n = n' := by
  induction fuel generalizing m n m' n' with
  | zero =>
    simp only [Nat.pow_zero, Nat.lt_one_iff] at hm hn hm' hn'
    omega
  | succ fuel ih =>
    rw [Nat.pow_succ] at hm hn hm' hn'
    simp only [interleave] at h
    have hrest : m / 256 = m' / 256 ∧ n / 256 = n' / 256 :=
      ih (Nat.div_lt_of_lt_mul (by omega)) (Nat.div_lt_of_lt_mul (by omega)) (Nat.div_lt_of_lt_mul (by omega))
        (Nat.div_lt_of_lt_mul (by omega)) (by omega)
    omega

theorem interleave_inj {m n m' n' : Nat} (h : interleave (max (numBytes m) (numBytes n)) m n =
    interleave (max (numBytes m') (numBytes n')) m' n') : m = m' ∧ n = n' := by
  have hlt : ∀ x fuel, numBytes x ≤ fuel → x < 256 ^ fuel := fun x fuel hx =>
    Nat.lt_of_lt_of_le (lt_numBytes x) (Nat.pow_le_pow_right (by decide) hx)
  have hmore : ∀ x y fuel, max (numBytes x) (numBytes y) ≤ fuel →
      interleave (max (numBytes x) (numBytes y)) x y = interleave fuel x y := fun x y fuel hle =>
    (interleave_more hle (hlt x _ (Nat.le_max_left _ _)) (hlt y _ (Nat.le_max_right _ _))).symm
  have hall : ∀ x ∈ [m, n, m', n'], x < 256 ^ (numBytes m + numBytes n + numBytes m' + numBytes n') := by
    intro x hx
    refine hlt x _ ?_
    simp only [List.mem_cons, List.not_mem_nil, or_false] at hx
    rcases hx with rfl | rfl | rfl | rfl <;> omega
  rw [hmore m n (numBytes m + numBytes n + numBytes m' + numBytes n') (by omega),
    hmore m' n' (numBytes m + numBytes n + numBytes m' + numBytes n') (by omega)] at h
  exact interleave_inj_for (hall m (by simp)) (hall n (by simp)) (hall m' (by simp)) (hall n' (by simp)) h

theorem setHexStr_digits {str : List Char} (h : hexDigits str ≠ []) (n : Nat) : setHexStr n str = setHexStr 0 str := by
  rw [setHexStr, setHexStr, if_neg h, if_neg h]

end BigNumber

/-! ## Secrets -/

namespace Srp6

instance : Fact (Nat.Prime N) := ⟨prime_N⟩

instance : Fact (Nat.Prime ((N - 1) / 2)) := ⟨prime_half⟩

/-- Only a number and its negative have the same power, when half of `N - 1` does not divide the exponent. -/
theorem pow_inj {x y : ZMod N} {k : Nat} (hk : ¬(N - 1) / 2 ∣ k) (h : x ^ k = y ^ k) : x = y ∨ x = -y := by
  have hk0 : k ≠ 0 := by
    rintro rfl
    exact hk (Nat.dvd_zero _)
  by_cases hy : y = 0
  · rw [hy, zero_pow hk0] at h
    exact .inl ((pow_eq_zero_iff hk0).1 h ▸ hy.symm)
  have hx : x ≠ 0 := by
    rintro rfl
    rw [zero_pow hk0] at h
    exact hy ((pow_eq_zero_iff hk0).1 h.symm)
  have hone : (x / y) ^ k = 1 := by rw [div_pow, h, div_self (pow_ne_zero k hy)]
  have hcard : (x / y) ^ (2 * ((N - 1) / 2)) = 1 := by
    have hN : 2 * ((N - 1) / 2) = N - 1 := by decide
    rw [hN]
    exact ZMod.pow_card_sub_one_eq_one (div_ne_zero hx hy)
  -- the order divides the exponent, so it is 1 or 2
  have horder : orderOf (x / y) ∣ 2 := by
    refine Nat.Coprime.dvd_of_dvd_mul_right ?_ (orderOf_dvd_of_pow_eq_one hcard)
    exact Nat.Coprime.coprime_dvd_left (orderOf_dvd_of_pow_eq_one hone)
      ((Nat.Prime.coprime_iff_not_dvd prime_half).2 hk).symm
  have hsq : (x / y) ^ 2 = 1 := orderOf_dvd_iff_pow_eq_one.1 horder
  rcases sq_eq_one_iff.1 hsq with hpos | hneg
  · exact .inl (by rwa [div_eq_one_iff_eq hy] at hpos)
  · exact .inr (by rwa [div_eq_iff hy, neg_one_mul] at hneg)

end Srp6

namespace AuthSocket

open BigNumber Srp6 PowMod

variable {sha1 : List UInt8 → Nat} {a : AuthSocket} {A M1 v' : Nat}

theorem sharedSecret_lt : a.sharedSecret sha1 A < N := by
  rw [sharedSecret, powMod_eq]
  exact Nat.mod_lt _ (by decide)

theorem sharedSecret_cast : (a.sharedSecret sha1 A : ZMod N) =
    ((A : ZMod N) * (a.v : ZMod N) ^ sha1 (asByteArray A 0 ++ asByteArray a.B 0)) ^ a.b := by
  rw [sharedSecret, powMod_eq, powMod_eq]
  simp [ZMod.natCast_mod]

/-- The secret that a verifier makes, as an element of the field. -/
def secretOf (sha1 : List UInt8 → Nat) (a : AuthSocket) (A : Nat) (x : ZMod N) : ZMod N :=
  ((A : ZMod N) * x ^ sha1 (asByteArray A 0 ++ asByteArray a.B 0)) ^ a.b

/-- **A secret is that of one verifier**, or of its negative too, when `A` is not a multiple of `N`. -/
theorem secretOf_inj (hA : A % N ≠ 0) (hb : ¬(N - 1) / 2 ∣ a.b)
    (hu : ¬(N - 1) / 2 ∣ sha1 (asByteArray A 0 ++ asByteArray a.B 0)) {x y : ZMod N}
    (h : secretOf sha1 a A x = secretOf sha1 a A y) : x = y ∨ x = -y := by
  unfold secretOf at h
  have hA0 : (A : ZMod N) ≠ 0 := fun hz => hA (Nat.mod_eq_zero_of_dvd ((ZMod.natCast_eq_zero_iff _ _).1 hz))
  rw [mul_pow, mul_pow, ← pow_mul, ← pow_mul] at h
  have hpow := mul_left_cancel₀ (pow_ne_zero a.b hA0) h
  exact pow_inj (fun hdvd => ((Nat.Prime.dvd_mul prime_half).1 hdvd).elim hu hb) hpow

/-- **Few secrets have a session key**: those whose bytes at 32 are the same. -/
theorem sessionKey_inj (hsha : Function.Injective sha1) {S S' : Nat} (hS : S < N) (hS' : S' < N)
    (h : sessionKey sha1 S = sessionKey sha1 S') : asByteArray S 32 = asByteArray S' 32 := by
  have hN : N < 256 ^ 32 := by decide
  obtain ⟨heven, hodd⟩ := interleave_inj h
  have hlen : ∀ x, x < N → (asByteArray x 32).length = 32 := fun x hx => by
    rw [asByteArray_length, Nat.max_eq_left (numBytes_le (hx.trans hN))]
  have hbytes := evens_odds_inj _ _ (by simp [hlen S hS, hlen S' hS']) (hsha heven) (hsha hodd)
  rwa [List.take_of_length_le (hlen S hS).le, List.take_of_length_le (hlen S' hS').le] at hbytes

open Classical in
/-- **Few verifiers have a session key.** -/
theorem verifiers_of_key (hA : A % N ≠ 0) (hb : ¬(N - 1) / 2 ∣ a.b)
    (hu : ¬(N - 1) / 2 ∣ sha1 (asByteArray A 0 ++ asByteArray a.B 0)) (bytes : List UInt8) :
    ∃ F : Finset (ZMod N), F.card ≤ 64 ∧
      ∀ v' : Nat, asByteArray ({ a with v := v' }.sharedSecret sha1 A) 32 = bytes → (v' : ZMod N) ∈ F := by
  -- their secrets are among the 32 quotients, and each has two of them
  let quotients : Finset (ZMod N) :=
    (Finset.range 32).image fun j => ((Bytes.value bytes / 256 ^ j : Nat) : ZMod N)
  let F : Finset (ZMod N) := Finset.univ.filter fun x => secretOf sha1 a A x ∈ quotients
  refine ⟨F, ?_, fun v' hbytes => ?_⟩
  · have htwo : ∀ z ∈ F.image (secretOf sha1 a A), (F.filter fun x => secretOf sha1 a A x = z).card ≤ 2 := by
      intro z hz
      obtain ⟨y, -, rfl⟩ := Finset.mem_image.1 hz
      refine (Finset.card_le_card (t := {y, -y}) fun x hx => ?_).trans Finset.card_le_two
      rw [Finset.mem_insert, Finset.mem_singleton]
      exact secretOf_inj hA hb hu (Finset.mem_filter.1 hx).2
    have himage : F.image (secretOf sha1 a A) ⊆ quotients := by
      intro z hz
      obtain ⟨y, hy, rfl⟩ := Finset.mem_image.1 hz
      exact (Finset.mem_filter.1 hy).2
    have hquotients : quotients.card ≤ 32 := Finset.card_image_le.trans (Finset.card_range 32).le
    calc F.card ≤ 2 * (F.image (secretOf sha1 a A)).card := Finset.card_le_mul_card_image F 2 htwo
      _ ≤ 2 * 32 := Nat.mul_le_mul_left 2 ((Finset.card_le_card himage).trans hquotients)
  · rw [Finset.mem_filter]
    refine ⟨Finset.mem_univ _, Finset.mem_image.2 ?_⟩
    have hlt : { a with v := v' }.sharedSecret sha1 A < 256 ^ 32 := sharedSecret_lt.trans (by decide)
    obtain ⟨j, hj, heq⟩ := asByteArray_quotient (by decide) hlt rfl
    rw [hbytes] at heq
    exact ⟨j, Finset.mem_range.2 hj, by rw [← heq, sharedSecret_cast]; rfl⟩

theorem proofM_inj (hsha : Function.Injective sha1) {K K' : Nat} (h : a.proofM sha1 A K = a.proofM sha1 A K') : K = K' :=
  asByteArray_inj (List.append_cancel_left (hsha h))

/-! ## The condition -/

/-- The verifier of an account, from its row or new. -/
def verifier (sha1 : List UInt8 → Nat) (w : AuthView) (row : AccountRow) : Nat :=
  if row.v.length ≠ 64 ∨ row.s.length ≠ 64 then (({} : AuthSocket).setVSFields sha1 w row.shaPassHash).v
  else setHexStr 0 row.v

/-- A challenge for an account succeeds: it is there, and neither it nor the address is banned, nor is it locked. -/
def Welcomes (w : AuthView) (login : List UInt8) (row : AccountRow) : Prop :=
  w.ipBanned = false ∧ w.account login = some row ∧ refuses w row = none

/-- A verifier that is in the row is a number. -/
def HasVerifier (row : AccountRow) : Prop := row.v.length ≠ 64 ∨ row.s.length ≠ 64 ∨ hexDigits row.v ≠ []

end AuthSocket

/-- A connection with the commands that came before. -/
structure AuthRun where
  socket : AuthSocket := {}
  past : List (AuthView × AuthCommand) := []

namespace AuthRun

open BigNumber Srp6 AuthSocket

variable (sha1 : List UInt8 → Nat) (r : AuthRun)

/-- A command is handled; a realm list only for those who are `_authed`. -/
def step (e : AuthView × AuthCommand) : AuthRun where
  socket := if e.2 = .realmList ∧ r.socket.authed = false then r.socket else (r.socket.handle sha1 e.1 e.2).2
  past := r.past ++ [e]

def isChallenge : AuthCommand → Bool
  | .logonChallenge _ _ _ => true
  | .reconnectChallenge _ _ => true
  | _ => false

/-- `_login` or `K` may be set by it. -/
def changesKey : AuthCommand → Bool
  | .logonProof _ _ => true
  | c => isChallenge c

/-- The last of the commands of a kind. -/
def lastOf (p : AuthCommand → Bool) (past : List (AuthView × AuthCommand)) : Option (AuthView × AuthCommand) :=
  past.reverse.find? fun e => p e.2

/-- The condition on a command.  For a logon proof the last challenge was a logon challenge that succeeded, `A` is
not a multiple of `N` and the hash of `A` and `B` not one of `(N - 1) / 2`.  For a reconnect proof the last
challenge or logon proof was a reconnect challenge for an account that may log on and has a session key. -/
def Careful (e : AuthView × AuthCommand) : Prop :=
  match e.2 with
  | .logonProof A _ => isExpectedBuild r.socket.build = true →
      (∃ w build country login row, lastOf isChallenge r.past = some (w, .logonChallenge build country login) ∧
        Welcomes w login row ∧ HasVerifier row) ∧
      A % N ≠ 0 ∧ ¬(N - 1) / 2 ∣ sha1 (asByteArray A 0 ++ asByteArray r.socket.B 0)
  | .reconnectProof _ _ =>
      ∃ w build login row, lastOf changesKey r.past = some (w, .reconnectChallenge build login) ∧
        Welcomes w login row ∧ hexDigits row.sessionkey ≠ []
  | _ => True

/-! ## What should hold -/

/-- The proof depends on the verifier of the account, which a logon challenge for it has loaded: of all verifiers
modulo `N` no more than 64 make it accepted. -/
def ByVerifier (w : AuthView) (A M1 : Nat) : Prop :=
  (∃ w' build country row, (w', AuthCommand.logonChallenge build country r.socket.login) ∈ r.past ∧
    Welcomes w' r.socket.login row ∧ r.socket.v = verifier sha1 w' row ∧ r.socket.b = w'.bRand.val) ∧
  ∃ F : Finset (ZMod N), F.card ≤ 64 ∧
    ∀ v' : Nat, ({ r.socket with v := v' }.handleLogonProof sha1 w A M1).2.stored ≠ r.socket.stored → (v' : ZMod N) ∈ F

/-- The proof depends on the session key of the account, which a reconnect challenge for it has loaded: no other
key makes it accepted. -/
def BySessionKey (R1 R2 : Nat) : Prop :=
  (∃ w' build row, (w', AuthCommand.reconnectChallenge build r.socket.login) ∈ r.past ∧
    Welcomes w' r.socket.login row ∧ r.socket.K = setHexStr 0 row.sessionkey) ∧
  ∀ K', ({ r.socket with K := K', authed := false }.handleReconnectProof sha1 R1 R2).2.authed = true → K' = r.socket.K

/-- Who becomes `_authed`, or gets a session key stored, does so by such a proof, and the key is stored for the
account `_login`. -/
def Lawful (e : AuthView × AuthCommand) : Prop :=
  ((r.step sha1 e).socket.authed = true ∧ r.socket.authed = false) ∨ (r.step sha1 e).socket.stored ≠ r.socket.stored →
    (∃ A M1 K, e.2 = .logonProof A M1 ∧ r.ByVerifier sha1 e.1 A M1 ∧
      (r.step sha1 e).socket.stored = r.socket.stored ++ [(r.socket.login, K)]) ∨
    ∃ R1 R2, e.2 = .reconnectProof R1 R2 ∧ r.BySessionKey sha1 R1 R2 ∧
      (r.step sha1 e).socket.stored = r.socket.stored

/-! ## The invariant -/

variable {sha1 r}

/-- What the last challenge has loaded. -/
structure Loaded (sha1 : List UInt8 → Nat) (r : AuthRun) : Prop where
  verifier : ∀ w build country login row, lastOf isChallenge r.past = some (w, .logonChallenge build country login) →
    Welcomes w login row → HasVerifier row →
      r.socket.login = login ∧ r.socket.v = verifier sha1 w row ∧ r.socket.b = w.bRand.val
  key : ∀ w build login row, lastOf changesKey r.past = some (w, .reconnectChallenge build login) →
    w.account login = some row → hexDigits row.sessionkey ≠ [] →
      r.socket.login = login ∧ r.socket.K = setHexStr 0 row.sessionkey

theorem lastOf_append (p : AuthCommand → Bool) (past : List (AuthView × AuthCommand)) (e : AuthView × AuthCommand) :
    lastOf p (past ++ [e]) = if p e.2 then some e else lastOf p past := by
  rw [lastOf, List.reverse_append, List.reverse_singleton, List.singleton_append, List.find?_cons]
  split <;> simp_all [lastOf]

theorem mem_of_lastOf {p : AuthCommand → Bool} {past : List (AuthView × AuthCommand)} {e : AuthView × AuthCommand}
    (h : lastOf p past = some e) : e ∈ past :=
  List.mem_reverse.1 (List.mem_of_find?_eq_some h)

variable {a : AuthSocket} {w : AuthView}

theorem handleLogonProof_keeps (A M1 : Nat) :
    (a.handleLogonProof sha1 w A M1).2.login = a.login ∧ (a.handleLogonProof sha1 w A M1).2.v = a.v ∧
      (a.handleLogonProof sha1 w A M1).2.b = a.b := by
  unfold handleLogonProof
  split
  · split
    · exact ⟨rfl, rfl, rfl⟩
    · dsimp only
      split <;> exact ⟨rfl, rfl, rfl⟩
  · unfold handleOldVersion
    split
    · exact ⟨rfl, rfl, rfl⟩
    · split
      · dsimp only
        split <;> exact ⟨rfl, rfl, rfl⟩
      · exact ⟨rfl, rfl, rfl⟩

variable (sha1 a w) in
theorem handle_keeps {command : AuthCommand} (h : changesKey command = false) :
    (a.handle sha1 w command).2.login = a.login ∧ (a.handle sha1 w command).2.v = a.v ∧
      (a.handle sha1 w command).2.b = a.b ∧ (a.handle sha1 w command).2.K = a.K := by
  have hpatch : (a.initPatch w).login = a.login ∧ (a.initPatch w).v = a.v ∧ (a.initPatch w).b = a.b ∧
      (a.initPatch w).K = a.K := by
    unfold initPatch
    split <;> exact ⟨rfl, rfl, rfl, rfl⟩
  cases command with
  | logonChallenge build country login => cases h
  | logonProof A M1 => cases h
  | reconnectChallenge build login => cases h
  | reconnectProof R1 R2 =>
    simp only [handle, handleReconnectProof]
    split
    · exact ⟨rfl, rfl, rfl, rfl⟩
    · split <;> exact ⟨rfl, rfl, rfl, rfl⟩
  | realmList =>
    simp only [handle, handleRealmList]
    split <;> exact ⟨rfl, rfl, rfl, rfl⟩
  | xferAccept => exact hpatch
  | xferResume startPos =>
    simp only [handle, handleXferResume]
    split
    · split
      · exact ⟨rfl, rfl, rfl, rfl⟩
      · split
        · exact hpatch
        · exact ⟨rfl, rfl, rfl, rfl⟩
    · exact ⟨rfl, rfl, rfl, rfl⟩
  | xferCancel => exact ⟨rfl, rfl, rfl, rfl⟩

theorem handleLogonChallenge_loads {build : Nat} {country login : List UInt8} {row : AccountRow}
    (hw : Welcomes w login row) (hv : HasVerifier row) :
    (a.handleLogonChallenge sha1 w build country login).login = login ∧
      (a.handleLogonChallenge sha1 w build country login).v = AuthSocket.verifier sha1 w row ∧
      (a.handleLogonChallenge sha1 w build country login).b = w.bRand.val := by
  obtain ⟨hip, hrow, hrefuses⟩ := hw
  simp only [handleLogonChallenge, hip, Bool.false_eq_true, if_false, hrow, hrefuses, send]
  unfold loadVSFields AuthSocket.verifier
  split
  · exact ⟨rfl, rfl, trivial⟩
  · next hlen =>
    have hdigits : hexDigits row.v ≠ [] := by
      rcases hv with hv | hv | hv
      · exact absurd (.inl hv) hlen
      · exact absurd (.inr hv) hlen
      · exact hv
    exact ⟨rfl, setHexStr_digits hdigits _, trivial⟩

theorem Loaded.step (h : Loaded sha1 r) (e : AuthView × AuthCommand) : Loaded sha1 (r.step sha1 e) := by
  obtain ⟨w, command⟩ := e
  have hother : isChallenge command = false → (r.step sha1 (w, command)).socket.login = r.socket.login ∧
      (r.step sha1 (w, command)).socket.v = r.socket.v ∧ (r.step sha1 (w, command)).socket.b = r.socket.b := by
    intro hch
    unfold AuthRun.step
    dsimp only
    split
    · exact ⟨rfl, rfl, rfl⟩
    · have hcases : changesKey command = false ∨ ∃ A M1, command = .logonProof A M1 := by
        cases command <;> simp_all [changesKey, isChallenge]
      rcases hcases with hkey | ⟨A, M1, rfl⟩
      · obtain ⟨hlogin, hv, hb, -⟩ := handle_keeps sha1 r.socket w hkey
        exact ⟨hlogin, hv, hb⟩
      · exact handleLogonProof_keeps A M1
  have hpast : (r.step sha1 (w, command)).past = r.past ++ [(w, command)] := rfl
  refine ⟨fun w' build country login row hlast hw hv => ?_, fun w' build login row hlast hrow hdigits => ?_⟩
  · rw [hpast, lastOf_append] at hlast
    split at hlast
    · cases hlast
      simp only [AuthRun.step, handle]
      rw [if_neg (by simp)]
      exact handleLogonChallenge_loads hw hv
    · next hch =>
      obtain ⟨hlogin, hsame, hb⟩ := hother (by simpa using hch)
      rw [hlogin, hsame, hb]
      exact h.verifier w' build country login row hlast hw hv
  · rw [hpast, lastOf_append] at hlast
    split at hlast
    · cases hlast
      simp only [AuthRun.step, handle, handleReconnectChallenge, hrow]
      rw [if_neg (by simp)]
      exact ⟨rfl, setHexStr_digits hdigits _⟩
    · next hkey =>
      have hsame : (r.step sha1 (w, command)).socket.login = r.socket.login ∧
          (r.step sha1 (w, command)).socket.K = r.socket.K := by
        unfold AuthRun.step
        dsimp only
        split
        · exact ⟨rfl, rfl⟩
        · obtain ⟨hlogin, -, -, hK⟩ := handle_keeps sha1 r.socket w (by simpa using hkey)
          exact ⟨hlogin, hK⟩
      rw [hsame.1, hsame.2]
      exact h.key w' build login row hlast hrow hdigits

/-! ## Accepted proofs -/

theorem handleLogonProof_accepts {A M1 : Nat}
    (h : ((a.handleLogonProof sha1 w A M1).2.authed = true ∧ a.authed = false) ∨
      (a.handleLogonProof sha1 w A M1).2.stored ≠ a.stored) :
    isExpectedBuild a.build = true ∧ a.proofM sha1 A (sessionKey sha1 (a.sharedSecret sha1 A)) = M1 ∧
      (a.handleLogonProof sha1 w A M1).2.stored =
        a.stored ++ [(a.login, sessionKey sha1 (a.sharedSecret sha1 A))] := by
  have hsame : ∀ x : AuthSocket, x.authed = a.authed → x.stored = a.stored →
      ¬((x.authed = true ∧ a.authed = false) ∨ x.stored ≠ a.stored) := by
    intro x hauthed hstored
    rintro (⟨htrue, hfalse⟩ | hne)
    · rw [hauthed, hfalse] at htrue
      cases htrue
    · exact hne hstored
  unfold handleLogonProof at h ⊢
  split at h
  · next hbuild =>
    rw [if_pos hbuild]
    split at h
    · exact absurd h (hsame _ rfl rfl)
    · next hA =>
      dsimp only at h
      split at h
      · next hM =>
        rw [if_neg hA]
        refine ⟨hbuild, hM, ?_⟩
        dsimp only
        rw [if_pos hM]
        rfl
      · exact absurd h (hsame _ rfl rfl)
  · refine absurd h ?_
    unfold handleOldVersion
    split
    · exact hsame _ rfl rfl
    · split
      · dsimp only
        split
        · exact hsame _ rfl rfl
        · exact hsame _ rfl rfl
      · exact hsame _ rfl rfl

theorem handleReconnectProof_accepts {R1 R2 : Nat} :
    (a.handleReconnectProof sha1 R1 R2).2.stored = a.stored ∧
      (a.authed = false → (a.handleReconnectProof sha1 R1 R2).2.authed = true → a.reconnectDigest sha1 R1 = R2) := by
  unfold handleReconnectProof
  split
  · exact ⟨rfl, fun hfalse htrue => by rw [hfalse] at htrue; cases htrue⟩
  · split
    · next hdigest => exact ⟨rfl, fun _ _ => hdigest⟩
    · exact ⟨rfl, fun hfalse htrue => by rw [closeConnection, hfalse] at htrue; cases htrue⟩

variable (sha1 a w) in
theorem handle_grants {command : AuthCommand} (hp : ∀ A M1, command ≠ .logonProof A M1)
    (hr : ∀ R1 R2, command ≠ .reconnectProof R1 R2) :
    (a.handle sha1 w command).2.authed = a.authed ∧ (a.handle sha1 w command).2.stored = a.stored := by
  have hpatch : (a.initPatch w).authed = a.authed ∧ (a.initPatch w).stored = a.stored := by
    unfold initPatch
    split <;> exact ⟨rfl, rfl⟩
  cases command with
  | logonChallenge build country login =>
    simp only [handle, handleLogonChallenge]
    split
    · exact ⟨rfl, rfl⟩
    · split
      · exact ⟨rfl, rfl⟩
      · split
        · exact ⟨rfl, rfl⟩
        · simp only [send, loadVSFields]
          split <;> exact ⟨rfl, rfl⟩
  | logonProof A M1 => exact absurd rfl (hp A M1)
  | reconnectChallenge build login =>
    simp only [handle, handleReconnectChallenge]
    split <;> exact ⟨rfl, rfl⟩
  | reconnectProof R1 R2 => exact absurd rfl (hr R1 R2)
  | realmList =>
    simp only [handle, handleRealmList]
    split <;> exact ⟨rfl, rfl⟩
  | xferAccept => exact hpatch
  | xferResume startPos =>
    simp only [handle, handleXferResume]
    split
    · split
      · exact ⟨rfl, rfl⟩
      · split
        · exact hpatch
        · exact ⟨rfl, rfl⟩
    · exact ⟨rfl, rfl⟩
  | xferCancel => exact ⟨rfl, rfl⟩

theorem bRand_not_dvd (b : BnRand 152) : ¬(N - 1) / 2 ∣ b.val := by
  have hhigh := b.high
  have hlt := b.lt
  have hN : 2 ^ 152 < (N - 1) / 2 := by decide
  exact Nat.not_dvd_of_pos_of_lt (Nat.lt_of_lt_of_le (by decide) hhigh) (hlt.trans hN)

theorem byVerifier (hsha : Function.Injective sha1) (h : Loaded sha1 r) {A M1 : Nat}
    (hc : r.Careful sha1 (w, .logonProof A M1))
    (haccept : ((r.socket.handleLogonProof sha1 w A M1).2.authed = true ∧ r.socket.authed = false) ∨
      (r.socket.handleLogonProof sha1 w A M1).2.stored ≠ r.socket.stored) : r.ByVerifier sha1 w A M1 := by
  obtain ⟨hbuild, hM, -⟩ := handleLogonProof_accepts haccept
  obtain ⟨⟨w', build, country, login, row, hlast, hwelcome, hverifier⟩, hA, hu⟩ := hc hbuild
  obtain ⟨hlogin, hv, hb⟩ := h.verifier w' build country login row hlast hwelcome hverifier
  obtain ⟨F, hF, hmem⟩ := verifiers_of_key (a := r.socket) hA (hb ▸ bRand_not_dvd w'.bRand) hu
    (asByteArray (r.socket.sharedSecret sha1 A) 32)
  refine ⟨⟨w', build, country, row, ?_, ?_, hv, hb⟩, F, hF, fun v' hstored => ?_⟩
  · rw [hlogin]
    exact mem_of_lastOf hlast
  · rw [hlogin]
    exact hwelcome
  · obtain ⟨-, hM', -⟩ := handleLogonProof_accepts (a := { r.socket with v := v' }) (.inr hstored)
    have hK : sessionKey sha1 ({ r.socket with v := v' }.sharedSecret sha1 A) =
        sessionKey sha1 (r.socket.sharedSecret sha1 A) := proofM_inj hsha (hM'.trans hM.symm)
    exact hmem v' (sessionKey_inj hsha sharedSecret_lt sharedSecret_lt hK)

theorem bySessionKey (hsha : Function.Injective sha1) (h : Loaded sha1 r) {R1 R2 : Nat}
    (hc : r.Careful sha1 (w, .reconnectProof R1 R2)) (hauthed : r.socket.authed = false)
    (haccept : (r.socket.handleReconnectProof sha1 R1 R2).2.authed = true) : r.BySessionKey sha1 R1 R2 := by
  obtain ⟨w', build, login, row, hlast, hwelcome, hdigits⟩ := hc
  obtain ⟨hlogin, hK⟩ := h.key w' build login row hlast hwelcome.2.1 hdigits
  refine ⟨⟨w', build, row, ?_, ?_, hK⟩, fun K' htrue => ?_⟩
  · rw [hlogin]
    exact mem_of_lastOf hlast
  · rw [hlogin]
    exact hwelcome
  · have hdigest := handleReconnectProof_accepts.2 hauthed haccept
    have hdigest' := (handleReconnectProof_accepts (a := { r.socket with K := K', authed := false })).2 rfl htrue
    exact asByteArray_inj (List.append_cancel_left (hsha (hdigest'.trans hdigest.symm)))

/-- **A careful command** is lawful. -/
theorem lawful_of_loaded (hsha : Function.Injective sha1) (h : Loaded sha1 r) (e : AuthView × AuthCommand)
    (hc : r.Careful sha1 e) : r.Lawful sha1 e := by
  obtain ⟨w, command⟩ := e
  intro hgrant
  by_cases hrealm : command = .realmList ∧ r.socket.authed = false
  · exfalso
    simp only [step, if_pos hrealm] at hgrant
    rcases hgrant with ⟨htrue, hfalse⟩ | hne
    · rw [hfalse] at htrue
      cases htrue
    · exact hne rfl
  simp only [step, if_neg hrealm] at hgrant ⊢
  by_cases hproof : ∃ A M1, command = .logonProof A M1
  · obtain ⟨A, M1, rfl⟩ := hproof
    obtain ⟨-, -, hstored⟩ := handleLogonProof_accepts hgrant
    exact .inl ⟨A, M1, _, rfl, byVerifier hsha h hc hgrant, hstored⟩
  by_cases hreconnect : ∃ R1 R2, command = .reconnectProof R1 R2
  · obtain ⟨R1, R2, rfl⟩ := hreconnect
    have hstored : (r.socket.handleReconnectProof sha1 R1 R2).2.stored = r.socket.stored := handleReconnectProof_accepts.1
    obtain ⟨htrue, hfalse⟩ := hgrant.resolve_right (not_not.2 hstored)
    exact .inr ⟨R1, R2, rfl, bySessionKey hsha h hc hfalse htrue, hstored⟩
  · exfalso
    obtain ⟨hauthed, hstored⟩ := handle_grants sha1 r.socket w
      (fun A M1 he => hproof ⟨A, M1, he⟩) fun R1 R2 he => hreconnect ⟨R1, R2, he⟩
    rcases hgrant with ⟨htrue, hfalse⟩ | hne
    · rw [hauthed, hfalse] at htrue
      cases htrue
    · exact hne hstored

/-- **No proof is accepted but that of the account** in a run of careful commands. -/
theorem accepted_lawful (sha1 : List UInt8 → Nat) (hsha : Function.Injective sha1) (es : List (AuthView × AuthCommand))
    (h : Transition.Along (step sha1) (Careful sha1) {} es) : Transition.Along (step sha1) (Lawful sha1) {} es :=
  Transition.along_of_invariant (fun _ e hl _ => Loaded.step hl e) (fun _ e hl hc => lawful_of_loaded hsha hl e hc)
    ⟨fun _ _ _ _ _ hlast => (nomatch hlast), fun _ _ _ _ hlast => (nomatch hlast)⟩ h

/-! ## Two runs -/

/-- A hash without collisions whose values are no multiples of half of `N - 1`. -/
def idealHash (bytes : List UInt8) : Nat := (N - 1) / 2 * Encodable.encode (bytes.map UInt8.toNat) + 1

theorem idealHash_injective : Function.Injective idealHash := by
  intro xs ys h
  have hencode := Nat.eq_of_mul_eq_mul_left (by decide) (Nat.add_right_cancel h)
  exact List.map_injective_iff.2 (fun _ _ he => UInt8.toNat_inj.1 he) (Encodable.encode_injective hencode)

theorem idealHash_not_dvd (bytes : List UInt8) : ¬(N - 1) / 2 ∣ idealHash bytes := fun hdvd =>
  absurd ((Nat.dvd_add_right (Nat.dvd_mul_right _ _)).1 hdvd) (by decide)

/-- The view of a server that has the account `AB` only, which is not banned or locked. -/
def accountAB : AuthView where
  account := fun login => if login = [0x41, 0x42] then some { id := 1, sessionkey := ['1', 'F'] } else none
  sRand := ⟨2 ^ 255 + 1, by decide, by decide, by decide⟩
  bRand := ⟨2 ^ 151 + 1, by decide, by decide, by decide⟩
  unk3Rand := ⟨2 ^ 127 + 1, by decide, by decide, by decide⟩
  reconnectRand := ⟨2 ^ 127 + 1, by decide, by decide, by decide⟩

/-- A challenge for `AB` and the proof of one who knows its verifier. -/
def logonAB : List (AuthView × AuthCommand) :=
  let a := (({} : AuthSocket).handleLogonChallenge idealHash accountAB 8606 [] [0x41, 0x42])
  [(accountAB, .logonChallenge 8606 [] [0x41, 0x42]),
    (accountAB, .logonProof 1 (a.proofM idealHash 1 (sessionKey idealHash (a.sharedSecret idealHash 1))))]

theorem accepted_lawful_logonAB : Transition.Along (step idealHash) (Lawful idealHash) {} logonAB := by
  refine accepted_lawful idealHash idealHash_injective logonAB ⟨trivial, fun _ => ⟨?_, by decide, ?_⟩, trivial⟩
  · exact ⟨accountAB, 8606, [], [0x41, 0x42], { id := 1, sessionkey := ['1', 'F'] }, rfl, ⟨rfl, rfl, rfl⟩, .inl (by decide)⟩
  · exact idealHash_not_dvd _

/-- What anyone can do: a reconnect challenge for `AB`, and the proof with the secret 1, which is that of no
verifier. -/
def stealAB (sha1 : List UInt8 → Nat) : List (AuthView × AuthCommand) :=
  [(accountAB, .reconnectChallenge 8606 [0x41, 0x42]),
    (accountAB, .logonProof 1 (({ login := [0x41, 0x42] } : AuthSocket).proofM sha1 1 (sessionKey sha1 1)))]

theorem proof_accepted {M1 : Nat} (hbuild : isExpectedBuild a.build = true) (hb : a.b = 0)
    (hM : a.proofM sha1 1 (sessionKey sha1 1) = M1) : (a.handleLogonProof sha1 w 1 M1).2.authed = true := by
  have hsecret : a.sharedSecret sha1 1 = 1 := by
    rw [sharedSecret, hb, PowMod.powMod_eq, Nat.pow_zero]
    decide
  unfold handleLogonProof
  rw [if_pos hbuild, if_neg (by decide)]
  dsimp only
  rw [hsecret, if_pos hM]
  rfl

theorem stealAB_not_along (sha1 : List UInt8 → Nat) :
    ¬Transition.Along (step sha1) (Lawful sha1) {} (stealAB sha1) := by
  rintro ⟨-, hlaw, -⟩
  have hsocket : (step sha1 {} (accountAB, .reconnectChallenge 8606 [0x41, 0x42])).socket =
      { K := 0x1F
        reconnectProof := 2 ^ 127 + 1
        login := [0x41, 0x42]
        build := 8606
        replies := [.reconnectChallenge (2 ^ 127 + 1)] } := rfl
  have hpast : (step sha1 {} (accountAB, .reconnectChallenge 8606 [0x41, 0x42])).past =
      [(accountAB, .reconnectChallenge 8606 [0x41, 0x42])] := rfl
  generalize step sha1 {} (accountAB, .reconnectChallenge 8606 [0x41, 0x42]) = r at *
  have hgrant : (r.socket.handleLogonProof sha1 accountAB 1
      (({ login := [0x41, 0x42] } : AuthSocket).proofM sha1 1 (sessionKey sha1 1))).2.authed = true := by
    refine proof_accepted (by rw [hsocket]; decide) (by rw [hsocket]) ?_
    simp only [proofM, hsocket]
  have hclosed : r.socket.authed = false := by rw [hsocket]
  rcases hlaw (.inl ⟨by simpa [step, handle] using hgrant, hclosed⟩) with
    ⟨A, M1, K, -, ⟨⟨w, build, country, row, hmem, -⟩, -⟩, -⟩ | ⟨R1, R2, he, -⟩
  · rw [hpast, List.mem_singleton] at hmem
    cases (Prod.mk.inj hmem).2
  · cases he

/-- A session key is stored for `AB` without its password. -/
theorem stealAB_not_lawful :
    ¬∀ sha1, Function.Injective sha1 → ∀ es, Transition.Along (step sha1) (Lawful sha1) {} es := fun h =>
  stealAB_not_along idealHash (h idealHash idealHash_injective (stealAB idealHash))

end AuthRun

end BlizzLike
