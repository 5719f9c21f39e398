import BlizzLikeCore.Auth.Srp6
import BlizzLikeCore.Lib.Bytes

/-!
# Connections to the auth server

What the handlers of `AuthSocket` do with a command that is there as a whole.  A digest is the number that
`SetBinary` makes of it, and the hash is an argument, so it can be the real one, whose numbers have 20 bytes,
or an ideal one without collisions.  `_safelogin` is `_login` escaped, so a query about it is one about
`_login`.

Left out: the content of realm lists, the counts of wrong passwords and the bans for them, and the patch that
is sent, which no handler reads.  What `M1` is compared with is as long as the digest; the source reads past a
digest whose last bytes are 0.
-/

namespace BlizzLike

/-! ## Numbers -/

namespace BigNumber

/-- `GetNumBytes` -/
def numBytes (n : Nat) : Nat := if n = 0 then 0 else n.log2 / 8 + 1

/-- `AsByteArray`: the bytes of `BN_bn2bin`, which come highest first, and behind them the zeros that make up the
size are reversed together. -/
def asByteArray (n minSize : Nat) : List UInt8 :=
  ((Bytes.le (numBytes n) n).reverse ++ List.replicate (minSize - numBytes n) 0).reverse

/-- The bytes of a digest: with the real hash there are 20. -/
def digest (n : Nat) : List UInt8 := Bytes.le (max 20 (numBytes n)) n

def hexDigit (c : Char) : Option Nat :=
  if '0' ≤ c ∧ c ≤ '9' then some (c.toNat - 48)
  else if 'A' ≤ c ∧ c ≤ 'F' then some (c.toNat - 55)
  else if 'a' ≤ c ∧ c ≤ 'f' then some (c.toNat - 87)
  else none

/-- The digits up to the first character that is none. -/
def hexDigits (str : List Char) : List Nat := (str.map hexDigit).takeWhile Option.isSome |>.reduceOption

/-- `SetHexStr`: nothing is set when there are no digits. -/
def setHexStr (n : Nat) (str : List Char) : Nat :=
  if hexDigits str = [] then n else (hexDigits str).foldl (fun acc d => 16 * acc + d) 0

/-- The bytes at even places. -/
def evens : List UInt8 → List UInt8
  | [] => []
  | [x] => [x]
  | x :: _ :: xs => x :: evens xs

/-- The bytes at odd places. -/
def odds : List UInt8 → List UInt8
  | [] => []
  | [_] => []
  | _ :: y :: xs => y :: odds xs

/-- The two digests of a session key, a byte of one and a byte of the other in turn. -/
def interleave : Nat → Nat → Nat → Nat
  | 0, _, _ => 0
  | fuel + 1, m, n => m % 256 + 256 * (n % 256) + 65536 * interleave fuel (m / 256) (n / 256)

end BigNumber

/-- What `SetRand` makes: the highest bit is set and the number is odd. -/
structure BnRand (numbits : Nat) where
  val : Nat
  high : 2 ^ (numbits - 1) ≤ val
  lt : val < 2 ^ numbits
  odd : val % 2 = 1

/-! ## The database and the rest -/

/-- A row of `account`; `gmlevel` is not read here. -/
structure AccountRow where
  id : Nat
  shaPassHash : List Char := []
  locked : Bool := false
  lastIp : List UInt8 := []
  v : List Char := []
  s : List Char := []
  sessionkey : List Char := []

/-- What a handler is told. -/
structure AuthView where
  remoteAddress : List UInt8 := []
  /-- A ban of the address is in force. -/
  ipBanned : Bool := false
  /-- The row of a `username`. -/
  account : List UInt8 → Option AccountRow
  /-- `bandate` and `unbandate` of a ban of the account that is in force. -/
  accountBanned : Nat → Option (Nat × Nat) := fun _ => none
  sRand : BnRand 256
  bRand : BnRand 152
  unk3Rand : BnRand 128
  reconnectRand : BnRand 128
  /-- There is a patch for a build and a localization. -/
  patchFile : Nat → List UInt8 → Bool := fun _ _ => false
  filesize : Option Nat := none
  lseek : Bool := true
  patchHandlerOpens : Bool := true

inductive AuthResult where
  | banned | unknownAccount | suspended | lockedEnforced | versionInvalid
  deriving DecidableEq, Repr

inductive AuthReply where
  | challenge (B s unk3 : Nat)
  | challengeFails (result : AuthResult)
  | xferInitiate (fileSize : Nat)
  | proof (M2 : Nat)
  | proofFails
  | reconnectChallenge (reconnectProof : Nat)
  | reconnectProof
  | realmList (id : Nat)
  deriving DecidableEq, Repr

/-- A command with what is read of it. -/
inductive AuthCommand where
  | logonChallenge (build : Nat) (country login : List UInt8)
  | logonProof (A M1 : Nat)
  | reconnectChallenge (build : Nat) (login : List UInt8)
  | reconnectProof (R1 R2 : Nat)
  | realmList
  | xferAccept
  | xferResume (startPos : Nat)
  | xferCancel
  deriving DecidableEq, Repr

/-! ## State -/

/-- `stored` are the session keys that were written to accounts. -/
structure AuthSocket where
  s : Nat := 0
  v : Nat := 0
  b : Nat := 0
  B : Nat := 0
  K : Nat := 0
  reconnectProof : Nat := 0
  authed : Bool := false
  login : List UInt8 := []
  localizationName : List UInt8 := []
  build : Nat := 0
  patch : Bool := false
  closed : Bool := false
  stored : List (List UInt8 × Nat) := []
  replies : List AuthReply := []
  deriving DecidableEq

/-- `FindBuildInfo` finds it. -/
def isExpectedBuild (build : Nat) : Bool := decide (12340 ≤ build) || [11723, 11403, 11159, 10505, 8606, 6005, 5875].contains build

namespace AuthSocket

open BigNumber Srp6 PowMod

variable (sha1 : List UInt8 → Nat) (w : AuthView) (a : AuthSocket)

def send (reply : AuthReply) : AuthSocket := { a with replies := a.replies ++ [reply] }

def closeConnection : AuthSocket := { a with closed := true }

/-! ## Handlers -/

def setVSFields (rI : List Char) : AuthSocket :=
  let I := setHexStr 0 rI
  -- the bytes are copied over the zeros of `mDigest`
  let mDigest := if numBytes I ≤ 20 then (asByteArray I 0 ++ List.replicate (20 - numBytes I) 0).reverse
    else List.replicate 20 0
  let x := sha1 (asByteArray w.sRand.val 0 ++ mDigest)
  { a with s := w.sRand.val, v := powMod g x N }

/-- `s` and `v` of a row, or new ones. -/
def loadVSFields (row : AccountRow) : AuthSocket :=
  if row.v.length ≠ 64 ∨ row.s.length ≠ 64 then a.setVSFields sha1 w row.shaPassHash
  else { a with s := setHexStr a.s row.s, v := setHexStr a.v row.v }

/-- Why a challenge for a row fails. -/
def refuses (row : AccountRow) : Option AuthResult :=
  if row.locked && row.lastIp != w.remoteAddress then some .lockedEnforced
  else (w.accountBanned row.id).map fun ban => if ban.1 = ban.2 then .banned else .suspended

def handleLogonChallenge (build : Nat) (country login : List UInt8) : AuthSocket :=
  let a := { a with login := login, build := build }
  if w.ipBanned then a.send (.challengeFails .banned)
  else
    match w.account login with
    | none => a.send (.challengeFails .unknownAccount)
    | some row =>
      match refuses w row with
      | some result => a.send (.challengeFails result)
      | none =>
        let a := a.loadVSFields sha1 w row
        let gmod := powMod g w.bRand.val N
        let B := (a.v * 3 + gmod) % N
        { a with b := w.bRand.val, B := B, localizationName := country.reverse }.send (.challenge B a.s w.unk3Rand.val)

/-- `S` of a logon proof. -/
def sharedSecret (A : Nat) : Nat :=
  let u := sha1 (asByteArray A 0 ++ asByteArray a.B 0)
  powMod (A * powMod a.v u N) a.b N

/-- The session key that comes of `S`. -/
def sessionKey (S : Nat) : Nat :=
  let t := (asByteArray S 32).take 32
  let even := sha1 (evens t)
  let odd := sha1 (odds t)
  interleave (max (numBytes even) (numBytes odd)) even odd

/-- `M` of a logon proof with a session key. -/
def proofM (A K : Nat) : Nat :=
  let t3 := sha1 (asByteArray N 0) ^^^ sha1 (asByteArray g 0)
  let t4 := digest (sha1 a.login)
  sha1 (asByteArray t3 0 ++ t4 ++ asByteArray a.s 0 ++ asByteArray A 0 ++ asByteArray a.B 0 ++ asByteArray K 0)

/-- The part of `_HandleLogonProof` for a client with another version. -/
def handleOldVersion : Bool × AuthSocket :=
  if a.patch then (false, a)
  else if w.patchFile a.build a.localizationName then
    let a := { a with patch := true }
    match w.filesize with
    | none => (false, a.closeConnection)
    | some fileSize => (true, a.send (.xferInitiate fileSize))
  else (true, a.send (.challengeFails .versionInvalid))

def handleLogonProof (A M1 : Nat) : Bool × AuthSocket :=
  if isExpectedBuild a.build then
    if A = 0 then (false, a)
    else
      let K := sessionKey sha1 (a.sharedSecret sha1 A)
      let M := a.proofM sha1 A K
      let a := { a with K := K }
      if M = M1 then
        (true, { a with stored := a.stored ++ [(a.login, K)], authed := true }.send
          (.proof (sha1 (asByteArray A 0 ++ asByteArray M 0 ++ asByteArray K 0))))
      else (true, a.send .proofFails)
  else a.handleOldVersion w

def handleReconnectChallenge (build : Nat) (login : List UInt8) : Bool × AuthSocket :=
  let a := { a with login := login, build := build }
  match w.account login with
  | none => (false, a.closeConnection)
  | some row =>
    let a := { a with K := setHexStr a.K row.sessionkey, reconnectProof := w.reconnectRand.val }
    (true, a.send (.reconnectChallenge a.reconnectProof))

/-- What `R2` of a reconnect proof is compared with. -/
def reconnectDigest (R1 : Nat) : Nat :=
  sha1 (a.login ++ asByteArray R1 0 ++ asByteArray a.reconnectProof 0 ++ asByteArray a.K 0)

def handleReconnectProof (R1 R2 : Nat) : Bool × AuthSocket :=
  if a.login = [] ∨ a.reconnectProof = 0 ∨ a.K = 0 then (false, a)
  else if a.reconnectDigest sha1 R1 = R2 then (true, { a with authed := true }.send .reconnectProof)
  else (false, a.closeConnection)

def handleRealmList : Bool × AuthSocket :=
  match w.account a.login with
  | none => (false, a.closeConnection)
  | some row => (true, a.send (.realmList row.id))

def initPatch : AuthSocket :=
  if a.patch && w.patchHandlerOpens then { a with patch := false } else { a with patch := false }.closeConnection

def handleXferResume (startPos : Nat) : Bool × AuthSocket :=
  if a.patch then
    match w.filesize with
    | none => (false, a.closeConnection)
    | some fileSize =>
      if startPos < fileSize ∧ w.lseek = true then (true, a.initPatch w) else (false, a.closeConnection)
  else (false, a.closeConnection)

/-- The handler of a command, and what it returns. -/
def handle : AuthCommand → Bool × AuthSocket
  | .logonChallenge build country login => (true, a.handleLogonChallenge sha1 w build country login)
  | .logonProof A M1 => a.handleLogonProof sha1 w A M1
  | .reconnectChallenge build login => a.handleReconnectChallenge w build login
  | .reconnectProof R1 R2 => a.handleReconnectProof sha1 R1 R2
  | .realmList => a.handleRealmList w
  | .xferAccept => (true, a.initPatch w)
  | .xferResume startPos => a.handleXferResume w startPos
  | .xferCancel => (true, a.closeConnection)

end AuthSocket

end BlizzLike
