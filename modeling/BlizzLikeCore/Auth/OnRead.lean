import BlizzLikeCore.Auth.AuthSocket

/-!
# Reading commands

`BufferedSocket` takes what `recv` gives it and `AuthSocket::OnRead` calls handlers as long as they return
true; each reads its packet from the buffer itself.

A connection that was closed gives no more bytes.  What a handler is told may depend on how many commands were
handled before.
-/

namespace BlizzLike

/-! ## Packets -/

inductive AuthCmd where
  | logonChallenge | logonProof | reconnectChallenge | reconnectProof | realmList | xferAccept | xferResume | xferCancel
  deriving DecidableEq, Repr

/-- `table`: a byte, its command, and whether that is for those who are `_authed` only. -/
def authTable : List (UInt8 × AuthCmd × Bool) :=
  [(0x00, .logonChallenge, false), (0x01, .logonProof, false), (0x02, .reconnectChallenge, false),
    (0x03, .reconnectProof, false), (0x10, .realmList, true), (0x32, .xferAccept, false), (0x33, .xferResume, false),
    (0x34, .xferCancel, false)]

def findCommand (authed : Bool) (cmd : UInt8) : Option AuthCmd :=
  (authTable.find? fun x => x.1 == cmd && (!x.2.2 || authed)).map fun x => x.2.1

/-- The command that the first byte tells. -/
def firstCommand (authed : Bool) (input : List UInt8) : Option AuthCmd := input.head?.bind (findCommand authed)

/-- `sizeof(sAuthLogonChallenge_C)` -/
def sizeofLogonChallenge : Nat := 35

/-- How many bytes a packet of fixed length has. -/
def AuthCmd.fixedLength : AuthCmd → Nat
  | .logonChallenge => sizeofLogonChallenge
  | .reconnectChallenge => sizeofLogonChallenge
  | .logonProof => 75
  | .reconnectProof => 58
  | .realmList => 5
  | .xferAccept => 1
  | .xferResume => 9
  | .xferCancel => 1

def AuthCmd.isChallenge (cmd : AuthCmd) : Bool := cmd == .logonChallenge || cmd == .reconnectChallenge

/-- `size` of a challenge. -/
def challengeSize (buf : List UInt8) : Nat := Bytes.value ((buf.drop 2).take 2)

def field (packet : List UInt8) (pos len : Nat) : List UInt8 := (packet.drop pos).take len

/-- What is read of a packet. -/
def AuthCmd.parse (packet : List UInt8) : AuthCmd → AuthCommand
  | .logonChallenge =>
    .logonChallenge (Bytes.value (field packet 11 2)) (field packet 21 4) ((packet.drop 34).takeWhile fun c => c != 0)
  | .logonProof => .logonProof (Bytes.value (field packet 1 32)) (Bytes.value (field packet 33 20))
  | .reconnectChallenge =>
    .reconnectChallenge (Bytes.value (field packet 11 2)) ((packet.drop 34).takeWhile fun c => c != 0)
  | .reconnectProof => .reconnectProof (Bytes.value (field packet 1 16)) (Bytes.value (field packet 17 20))
  | .realmList => .realmList
  | .xferAccept => .xferAccept
  | .xferResume => .xferResume (Bytes.value (field packet 1 8))
  | .xferCancel => .xferCancel

/-! ## State -/

/-- `sent` was sent by the client and not received yet, `input` was received and not read; `overrun` says that
the read position has been moved past what was received. -/
structure AuthConnection where
  socket : AuthSocket := {}
  sent : List UInt8 := []
  input : List UInt8 := []
  handled : List (List UInt8) := []
  overrun : Bool := false
  deriving DecidableEq

namespace AuthConnection

variable (sha1 : List UInt8 → Nat) (env : Nat → AuthView) (c : AuthConnection)

def recvLen : Nat := c.input.length

def recvSkip (len : Nat) : AuthConnection :=
  { c with input := c.input.drop len, overrun := c.overrun || decide (c.input.length < len) }

/-- A handler from where it has its packet. -/
def complete (cmd : AuthCmd) (packet : List UInt8) : Bool × AuthConnection :=
  let r := c.socket.handle sha1 (env c.handled.length) (cmd.parse packet)
  (r.1, { c with socket := r.2, handled := c.handled ++ [packet] })

/-- The beginning of `_HandleLogonChallenge` and `_HandleReconnectChallenge`. -/
def readChallenge (cmd : AuthCmd) : Bool × AuthConnection :=
  if c.recvLen < sizeofLogonChallenge then (false, c)
  else
    let buf := c.input.take 4
    let c := c.recvSkip 4
    let remaining := challengeSize buf
    if remaining < sizeofLogonChallenge - 4 ∨ c.recvLen < remaining then (false, c)
    else (c.recvSkip remaining).complete sha1 env cmd (buf ++ c.input.take remaining)

/-- The other handlers: nothing is read of a packet that is not there as a whole. -/
def readFixed (cmd : AuthCmd) : Bool × AuthConnection :=
  if c.recvLen < cmd.fixedLength then (false, c)
  else (c.recvSkip cmd.fixedLength).complete sha1 env cmd (c.input.take cmd.fixedLength)

/-- A turn of the loop of `OnRead`, and if there is another: there is none without a byte or with one that is not
in the table. -/
def turn : Bool × AuthConnection :=
  match firstCommand c.socket.authed c.input with
  | none => (false, c)
  | some cmd => if cmd.isChallenge then c.readChallenge sha1 env cmd else c.readFixed sha1 env cmd

/-- `OnRead`, for so many turns. -/
def onReadFor : Nat → AuthConnection → AuthConnection
  | 0, c => c
  | fuel + 1, c =>
    let r := c.turn sha1 env
    if r.1 then onReadFor fuel r.2 else r.2

/-- `OnRead`: each turn but the last reads a byte at least. -/
def onRead : AuthConnection := c.onReadFor sha1 env (c.input.length + 1)

/-- `input_buffer_` has room for so many bytes. -/
def inputSpace : Nat := 4096

/-- `handle_input`: `recv` gives `n` of the bytes that were sent, or those for which there is room.  When there is
no room for any, that is taken for the end of the stream. -/
def handleInput (n : Nat) : AuthConnection :=
  if c.socket.closed then c
  else if inputSpace ≤ c.input.length then { c with socket := c.socket.closeConnection }
  else
    let n := min n (min c.sent.length (inputSpace - c.input.length))
    if n = 0 then c
    else { c with input := c.input ++ c.sent.take n, sent := c.sent.drop n }.onRead sha1 env

end AuthConnection

end BlizzLike
