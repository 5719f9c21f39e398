import BlizzLikeCore.Lib.Bytes

/-!
# SHA-1

The hash of a list of bytes, on words of 32 bits as natural numbers.

    digest_length : a digest has 20 bytes
-/

namespace Sha1

/-- The words that bytes make, the highest byte first. -/
def words : List UInt8 → List Nat
  | a :: b :: c :: d :: rest => (((a.toNat * 256 + b.toNat) * 256 + c.toNat) * 256 + d.toNat) :: words rest
  | _ => []

/-- One bit, zeros and the length in bits fill up the last block. -/
def pad (m : List UInt8) : List UInt8 :=
  m ++ [0x80] ++ List.replicate ((119 - m.length % 64) % 64) 0 ++ (Bytes.le 8 (8 * m.length)).reverse

def rotl (n x : Nat) : Nat := (x <<< n ||| x >>> (32 - n)) % 2 ^ 32

structure State where
  a : Nat
  b : Nat
  c : Nat
  d : Nat
  e : Nat

def start : State := ⟨0x67452301, 0xEFCDAB89, 0x98BADCFE, 0x10325476, 0xC3D2E1F0⟩

/-- The function of round `t` and its constant. -/
def round (t : Nat) (s : State) : Nat :=
  if t < 20 then (s.d ^^^ (s.b &&& (s.c ^^^ s.d))) + 0x5A827999
  else if t < 40 then (s.b ^^^ s.c ^^^ s.d) + 0x6ED9EBA1
  else if t < 60 then ((s.b &&& s.c) ||| (s.d &&& (s.b ||| s.c))) + 0x8F1BBCDC
  else (s.b ^^^ s.c ^^^ s.d) + 0xCA62C1D6

/-- `n` rounds from `t` on, with the next 16 words. -/
def rounds : Nat → Nat → List Nat → State → State
  | 0, _, _, s => s
  | n + 1, t, ws, s =>
    let w := ws.headD 0
    let next := rotl 1 (ws.getD 13 0 ^^^ ws.getD 8 0 ^^^ ws.getD 2 0 ^^^ w)
    rounds n (t + 1) (ws.tail ++ [next])
      ⟨(rotl 5 s.a + round t s + s.e + w) % 2 ^ 32, s.a, rotl 30 s.b, s.c, s.d⟩

def compress (s : State) (block : List Nat) : State :=
  let r := rounds 80 0 block s
  ⟨(s.a + r.a) % 2 ^ 32, (s.b + r.b) % 2 ^ 32, (s.c + r.c) % 2 ^ 32, (s.d + r.d) % 2 ^ 32, (s.e + r.e) % 2 ^ 32⟩

/-- `n` blocks. -/
def blocks : Nat → List Nat → State → State
  | 0, _, s => s
  | n + 1, ws, s => blocks n (ws.drop 16) (compress s (ws.take 16))

def digest (m : List UInt8) : List UInt8 :=
  let ws := words (pad m)
  let s := blocks (ws.length / 16) ws start
  [s.a, s.b, s.c, s.d, s.e].flatMap fun x => (Bytes.le 4 x).reverse

theorem digest_length (m : List UInt8) : (digest m).length = 20 := by
  simp [digest]

example : digest [0x61, 0x62, 0x63] =
    [0xA9, 0x99, 0x3E, 0x36, 0x47, 0x06, 0x81, 0x6A, 0xBA, 0x3E, 0x25, 0x71, 0x78, 0x50, 0xC2, 0x6C, 0x9C, 0xD0, 0xD8,
      0x9D] := by
  decide +kernel

end Sha1
