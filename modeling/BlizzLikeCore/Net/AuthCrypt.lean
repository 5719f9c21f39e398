import Mathlib.Tactic.Common

/-!
# The header cipher

`AuthCrypt` encrypts the headers of outgoing packets and decrypts those of incoming ones, each
with a running index into the key and the last byte on the wire.  Before the client has
authenticated it changes nothing.
-/

namespace BlizzLike

structure AuthCrypt where
  initialized : Bool := false
  key : List UInt8 := []
  sendI : UInt8 := 0
  sendJ : UInt8 := 0
  recvI : UInt8 := 0
  recvJ : UInt8 := 0
  deriving DecidableEq, Repr

namespace AuthCrypt

def cryptedSendLen : Nat := 4
def cryptedRecvLen : Nat := 6

/-- The index into the key, `i % _key.size()`. -/
def keyIndex (c : AuthCrypt) (i : UInt8) : UInt8 := UInt8.ofNat (i.toNat % c.key.length)

def keyAt (c : AuthCrypt) (i : UInt8) : UInt8 := c.key.getD i.toNat 0

/-- One byte of `EncryptSend`. -/
def encryptByte (c : AuthCrypt) (d : UInt8) : AuthCrypt × UInt8 :=
  let i := c.keyIndex c.sendI
  let x := (d ^^^ c.keyAt i) + c.sendJ
  ({ c with sendI := i + 1, sendJ := x }, x)

/-- One byte of `DecryptRecv`. -/
def decryptByte (c : AuthCrypt) (d : UInt8) : AuthCrypt × UInt8 :=
  let i := c.keyIndex c.recvI
  let x := (d - c.recvJ) ^^^ c.keyAt i
  ({ c with recvI := i + 1, recvJ := d }, x)

/-- The loop of both. -/
def cryptBytes (f : AuthCrypt → UInt8 → AuthCrypt × UInt8) (c : AuthCrypt) : List UInt8 → AuthCrypt × List UInt8
  | [] => (c, [])
  | d :: ds => ((cryptBytes f (f c d).1 ds).1, (f c d).2 :: (cryptBytes f (f c d).1 ds).2)

def encryptSend (c : AuthCrypt) (data : List UInt8) : AuthCrypt × List UInt8 :=
  if c.initialized = false then (c, data)
  else if data.length < cryptedSendLen then (c, data)
  else
    let r := cryptBytes encryptByte c (data.take cryptedSendLen)
    (r.1, r.2 ++ data.drop cryptedSendLen)

def decryptRecv (c : AuthCrypt) (data : List UInt8) : AuthCrypt × List UInt8 :=
  if c.initialized = false then (c, data)
  else if data.length < cryptedRecvLen then (c, data)
  else
    let r := cryptBytes decryptByte c (data.take cryptedRecvLen)
    (r.1, r.2 ++ data.drop cryptedRecvLen)

theorem cryptBytes_length (f : AuthCrypt → UInt8 → AuthCrypt × UInt8) (c : AuthCrypt) (data : List UInt8) :
    (cryptBytes f c data).2.length = data.length := by
  induction data generalizing c with
  | nil => rfl
  | cons d ds ih => simp [cryptBytes, ih]

@[simp] theorem encryptSend_length (c : AuthCrypt) (data : List UInt8) :
    (c.encryptSend data).2.length = data.length := by
  unfold encryptSend
  split
  · rfl
  split
  · rfl
  · simp only [List.length_append, cryptBytes_length, List.length_take, List.length_drop]
    omega

@[simp] theorem decryptRecv_length (c : AuthCrypt) (data : List UInt8) :
    (c.decryptRecv data).2.length = data.length := by
  unfold decryptRecv
  split
  · rfl
  split
  · rfl
  · simp only [List.length_append, cryptBytes_length, List.length_take, List.length_drop]
    omega

end AuthCrypt

end BlizzLike
