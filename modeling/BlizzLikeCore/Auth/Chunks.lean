import BlizzLikeCore.Auth.OnRead
import BlizzLikeCore.Lib.Transition

/-!
# Commands that come in pieces

However the bytes of a client are cut, the commands in them should be handled as if they had come at once.  A
challenge loses its first four bytes when it is cut after `sizeof(sAuthLogonChallenge_C)`; a command that is
refused keeps those behind it waiting for bytes to come; one that closes the connection does not keep those
behind it from being handled when they are there.

    nextPacket    : the command that is there as a whole
    careful       : the condition
    chunks_agree  : the result
-/

namespace BlizzLike

/-! ## The condition -/

/-- The first command, if all of its packet is there, and the length of that. -/
def nextPacket (authed : Bool) (input : List UInt8) : Option (AuthCmd × Nat) :=
  match firstCommand authed input with
  | none => none
  | some cmd =>
    let n := if cmd.isChallenge then 4 + challengeSize (input.take 4) else cmd.fixedLength
    if cmd.fixedLength ≤ n ∧ cmd.fixedLength ≤ input.length ∧ n ≤ input.length then some (cmd, n) else none

/-- A packet of a command that is in `authTable`. -/
def IsPacket (packet : List UInt8) : Prop := ∃ cmd, nextPacket true packet = some (cmd, packet.length)

namespace AuthSocket

/-- The handler returns false and leaves the connection open. -/
def refusesCommand (a : AuthSocket) : AuthCommand → Bool
  | .logonProof A _ => if isExpectedBuild a.build then A == 0 else a.patch
  | .reconnectProof _ _ => a.login == [] || a.reconnectProof == 0 || a.K == 0
  | _ => false

/-- The handler closes the connection and returns true. -/
def lingersAfter (a : AuthSocket) (w : AuthView) : AuthCommand → Bool
  | .xferCancel => true
  | .xferAccept => !(a.patch && w.patchHandlerOpens)
  | .xferResume startPos =>
    a.patch && (w.filesize.any fun fileSize => startPos < fileSize) && w.lseek && !w.patchHandlerOpens
  | _ => false

end AuthSocket

namespace AuthConnection

variable (sha1 : List UInt8 → Nat) (env : Nat → AuthView) (c : AuthConnection)

/-- A challenge is cut after so many bytes that its handler begins to read it, or tells too small a size. -/
def cutsChallenge : Bool :=
  (firstCommand c.socket.authed c.input).any AuthCmd.isChallenge &&
    decide (sizeofLogonChallenge ≤ c.input.length) && (nextPacket c.socket.authed c.input).isNone

/-- No challenge is cut, and a command that is refused, or closes the connection and goes on, has no other behind
it. -/
def carefulTurn : Bool :=
  !c.cutsChallenge &&
    match nextPacket c.socket.authed c.input with
    | none => true
    | some (cmd, n) =>
      !(c.socket.refusesCommand (cmd.parse (c.input.take n)) ||
        c.socket.lingersAfter (env c.handled.length) (cmd.parse (c.input.take n))) ||
      (nextPacket c.socket.authed (c.input.drop n ++ c.sent)).isNone

/-- The condition on the turns of `OnRead`. -/
def carefulFor : Nat → AuthConnection → Bool
  | 0, _ => true
  | fuel + 1, c => c.carefulTurn env && (!(c.turn sha1 env).1 || carefulFor fuel (c.turn sha1 env).2)

/-- The condition on a chunk. -/
def careful (n : Nat) : Bool :=
  c.socket.closed || decide (inputSpace ≤ c.input.length) ||
    let n := min n (min c.sent.length (inputSpace - c.input.length))
    n == 0 || carefulFor sha1 env (c.input.length + n + 1)
      { c with input := c.input ++ c.sent.take n, sent := c.sent.drop n }

/-! ## Packets -/

variable {sha1 env c} {authed : Bool} {xs ys : List UInt8} {cmd : AuthCmd} {n : Nat}

theorem fixedLength_le (cmd : AuthCmd) : 0 < cmd.fixedLength ∧ cmd.fixedLength ≤ 75 := by
  cases cmd <;> decide

theorem isChallenge_fixedLength (h : cmd.isChallenge = true) : cmd.fixedLength = 35 := by
  cases cmd <;> first | rfl | cases h

theorem nextPacket_iff : nextPacket authed xs = some (cmd, n) ↔
    firstCommand authed xs = some cmd ∧
      n = (if cmd.isChallenge then 4 + challengeSize (xs.take 4) else cmd.fixedLength) ∧
      cmd.fixedLength ≤ n ∧ cmd.fixedLength ≤ xs.length ∧ n ≤ xs.length := by
  unfold nextPacket
  cases firstCommand authed xs with
  | none => simp
  | some cmd' =>
    simp only [Option.ite_none_right_eq_some, Option.some.injEq, Prod.mk.injEq]
    constructor
    · rintro ⟨hle, rfl, rfl⟩
      exact ⟨rfl, rfl, hle⟩
    · rintro ⟨rfl, rfl, hle⟩
      exact ⟨hle, rfl, rfl⟩

theorem firstCommand_append (h : firstCommand authed xs = some cmd) (ys : List UInt8) :
    firstCommand authed (xs ++ ys) = some cmd := by
  cases xs with
  | nil => cases h
  | cons byte rest => exact h

theorem firstCommand_take (h : firstCommand authed xs = some cmd) (hn : 0 < n) :
    firstCommand authed (xs.take n) = some cmd := by
  rw [firstCommand, List.head?_take, if_neg (by omega)]
  exact h

theorem nextPacket_append (h : nextPacket authed xs = some (cmd, n)) (ys : List UInt8) :
    nextPacket authed (xs ++ ys) = some (cmd, n) := by
  obtain ⟨hcmd, hn, hmin, hlen, hle⟩ := nextPacket_iff.1 h
  rw [nextPacket_iff, List.length_append]
  refine ⟨firstCommand_append hcmd ys, ?_, hmin, by omega, by omega⟩
  rw [hn]
  split
  · next hch =>
    have h35 := isChallenge_fixedLength hch
    rw [List.take_append_of_le_length (by omega)]
  · rfl

theorem nextPacket_take (h : nextPacket authed xs = some (cmd, n)) :
    nextPacket authed (xs.take n) = some (cmd, n) := by
  obtain ⟨hcmd, hn, hmin, hlen, hle⟩ := nextPacket_iff.1 h
  have hpos := (fixedLength_le cmd).1
  rw [nextPacket_iff, List.length_take]
  refine ⟨firstCommand_take hcmd (by omega), ?_, hmin, by omega, by omega⟩
  conv_lhs => rw [hn]
  split
  · next hch =>
    have h35 := isChallenge_fixedLength hch
    rw [List.take_take, Nat.min_eq_left (by omega)]
  · rfl

theorem findCommand_authed {byte : UInt8} (h : findCommand authed byte = some cmd) : findCommand true byte = some cmd := by
  by_cases hb : byte = 0x10
  · subst hb
    cases authed with
    | true => exact h
    | false => exact absurd h (by decide +revert)
  · have hsame : findCommand authed byte = findCommand true byte := by
      have hb' : (0x10 == byte) = false := by simpa using Ne.symm hb
      simp [findCommand, authTable, List.find?_cons, hb']
    exact hsame ▸ h

theorem isPacket_take (h : nextPacket authed xs = some (cmd, n)) : IsPacket (xs.take n) := by
  obtain ⟨hcmd, hrest⟩ := nextPacket_iff.1 (nextPacket_take h)
  obtain ⟨byte, hb, hfind⟩ := Option.bind_eq_some_iff.1 hcmd
  refine ⟨cmd, ?_⟩
  rw [List.length_take, Nat.min_eq_left (nextPacket_iff.1 h).2.2.2.2]
  exact nextPacket_iff.2 ⟨Option.bind_eq_some_iff.2 ⟨byte, hb, findCommand_authed hfind⟩, hrest⟩

/-! ## Turns -/

/-- What a command that is there as a whole does. -/
def serve (sha1 : List UInt8 → Nat) (env : Nat → AuthView) (c : AuthConnection) (cmd : AuthCmd) (n : Nat) :
    Bool × AuthConnection :=
  { c with input := c.input.drop n }.complete sha1 env cmd (c.input.take n)

theorem recvSkip_eq (h : n ≤ c.input.length) : c.recvSkip n = { c with input := c.input.drop n } := by
  simp [recvSkip, Nat.not_lt.2 h]

theorem turn_packet (h : nextPacket c.socket.authed c.input = some (cmd, n)) :
    c.turn sha1 env = c.serve sha1 env cmd n := by
  obtain ⟨hcmd, hn, hmin, hlen, hle⟩ := nextPacket_iff.1 h
  simp only [turn, hcmd]
  split
  · next hch =>
    rw [if_pos hch] at hn
    have h35 : cmd.fixedLength = sizeofLogonChallenge := isChallenge_fixedLength hch
    have h4 : 4 ≤ sizeofLogonChallenge := by decide
    have hgood : ¬(challengeSize (c.input.take 4) < sizeofLogonChallenge - 4 ∨
        (c.input.drop 4).length < challengeSize (c.input.take 4)) := by
      rw [List.length_drop]
      omega
    unfold readChallenge recvLen
    rw [if_neg (by omega), recvSkip_eq (by omega)]
    dsimp only
    rw [if_neg hgood, recvSkip_eq (by rw [List.length_drop]; omega), ← List.take_add, ← hn]
    dsimp only
    rw [List.drop_drop, ← hn]
    rfl
  · next hch =>
    rw [if_neg hch] at hn
    unfold readFixed recvLen
    rw [if_neg (Nat.not_lt.2 hlen), recvSkip_eq hlen, hn]
    rfl

variable (sha1 env) in
theorem turn_none (h : nextPacket c.socket.authed c.input = none) :
    (c.turn sha1 env).1 = false ∧ (c.turn sha1 env).2.handled = c.handled ∧
      (c.cutsChallenge = false → (c.turn sha1 env).2 = c) := by
  cases hcmd : firstCommand c.socket.authed c.input with
  | none => simp [turn, hcmd]
  | some cmd =>
    have hnone : ∀ n, ¬(n = (if cmd.isChallenge then 4 + challengeSize (c.input.take 4) else cmd.fixedLength) ∧
        cmd.fixedLength ≤ n ∧ cmd.fixedLength ≤ c.input.length ∧ n ≤ c.input.length) := by
      intro n hn
      have hsome := nextPacket_iff.2 ⟨hcmd, hn⟩
      rw [h] at hsome
      cases hsome
    simp only [turn, hcmd]
    by_cases hch : cmd.isChallenge = true
    · have h35 : cmd.fixedLength = sizeofLogonChallenge := isChallenge_fixedLength hch
      have h4 : 4 ≤ sizeofLogonChallenge := by decide
      rw [if_pos hch]
      unfold readChallenge recvLen
      split
      · exact ⟨rfl, rfl, fun _ => rfl⟩
      · next hlen =>
        have hbad : challengeSize (c.input.take 4) < sizeofLogonChallenge - 4 ∨
            (c.recvSkip 4).input.length < challengeSize (c.input.take 4) := by
          have hn := hnone (4 + challengeSize (c.input.take 4))
          rw [if_pos hch] at hn
          simp only [recvSkip, List.length_drop]
          omega
        dsimp only
        rw [if_pos hbad]
        refine ⟨rfl, rfl, fun hno => ?_⟩
        rw [cutsChallenge, hcmd, h, Option.any_some, hch, decide_eq_true (Nat.not_lt.1 hlen)] at hno
        cases hno
    · have hlen : c.input.length < cmd.fixedLength := by
        have hn := hnone cmd.fixedLength
        rw [if_neg hch] at hn
        omega
      rw [if_neg hch]
      unfold readFixed recvLen
      rw [if_pos hlen]
      exact ⟨rfl, rfl, fun _ => rfl⟩

variable (sha1 env) in
theorem turn_length (h : (c.turn sha1 env).1 = true) :
    (c.turn sha1 env).2.input.length < c.input.length := by
  cases hp : nextPacket c.socket.authed c.input with
  | none =>
    rw [(turn_none sha1 env hp).1] at h
    cases h
  | some p =>
    obtain ⟨cmd, n⟩ := p
    obtain ⟨-, -, hmin, -, hle⟩ := nextPacket_iff.1 hp
    have hpos := (fixedLength_le cmd).1
    rw [turn_packet hp]
    simp only [serve, complete, List.length_drop]
    omega

theorem onReadFor_enough (fuel fuel' : Nat) (c : AuthConnection) (h : c.input.length < fuel) (h' : c.input.length < fuel') :
    c.onReadFor sha1 env fuel = c.onReadFor sha1 env fuel' := by
  induction fuel generalizing fuel' c with
  | zero => omega
  | succ fuel ih =>
    cases fuel' with
    | zero => omega
    | succ fuel' =>
      simp only [onReadFor]
      split
      · next hgo =>
        have hlt := turn_length sha1 env hgo
        exact ih _ _ (by omega) (by omega)
      · rfl

theorem onRead_turn (c : AuthConnection) :
    c.onRead sha1 env = if (c.turn sha1 env).1 then (c.turn sha1 env).2.onRead sha1 env else (c.turn sha1 env).2 := by
  rw [onRead, onReadFor]
  split
  · next hgo =>
    have hlt := turn_length sha1 env hgo
    exact onReadFor_enough _ _ _ hlt (Nat.lt_succ_self _)
  · rfl

theorem onRead_none (h : nextPacket c.socket.authed c.input = none) : (c.onRead sha1 env).handled = c.handled := by
  obtain ⟨hstop, hhandled, -⟩ := turn_none sha1 env h
  rw [onRead_turn, hstop]
  exact hhandled

end AuthConnection

/-! ## What handlers return -/

namespace AuthSocket

variable {sha1 : List UInt8 → Nat} {w : AuthView} {a : AuthSocket}

/-- How a handler can end. -/
inductive HandlerEnd (a : AuthSocket) (refuses lingers : Bool) : Bool × AuthSocket → Prop where
  | goesOn {a' : AuthSocket} (hclosed : a'.closed = a.closed) : HandlerEnd a refuses lingers (true, a')
  | lingers {a' : AuthSocket} (h : lingers = true) (hauthed : a'.authed = a.authed) (hclosed : a'.closed = true) :
      HandlerEnd a refuses lingers (true, a')
  | closes {a' : AuthSocket} (hclosed : a'.closed = true) : HandlerEnd a refuses lingers (false, a')
  | refuses (h : refuses = true) : HandlerEnd a refuses lingers (false, a)

theorem handleLogonChallenge_closed (build : Nat) (country login : List UInt8) :
    (a.handleLogonChallenge sha1 w build country login).closed = a.closed := by
  unfold handleLogonChallenge
  dsimp only
  split
  · rfl
  · split
    · rfl
    · split
      · rfl
      · simp only [send, loadVSFields]
        split <;> rfl

theorem handleLogonProof_end (A M1 : Nat) :
    HandlerEnd a (a.refusesCommand (.logonProof A M1)) false (a.handleLogonProof sha1 w A M1) := by
  unfold handleLogonProof
  split
  · next hbuild =>
    split
    · next hA => exact .refuses (by simp [refusesCommand, hbuild, hA])
    · dsimp only
      split <;> exact .goesOn rfl
  · next hbuild =>
    unfold handleOldVersion
    split
    · next hpatch => exact .refuses (by simp [refusesCommand, hbuild, hpatch])
    · split
      · dsimp only
        split
        · exact .closes rfl
        · exact .goesOn rfl
      · exact .goesOn rfl

theorem handleReconnectProof_end (R1 R2 : Nat) :
    HandlerEnd a (a.refusesCommand (.reconnectProof R1 R2)) false (a.handleReconnectProof sha1 R1 R2) := by
  unfold handleReconnectProof
  split
  · next hempty => exact .refuses (by simpa [refusesCommand, or_assoc] using hempty)
  · split
    · exact .goesOn rfl
    · exact .closes rfl

theorem initPatch_closed : (a.initPatch w).authed = a.authed ∧
    ((a.initPatch w).closed = a.closed ∨ ((a.patch && w.patchHandlerOpens) = false ∧ (a.initPatch w).closed = true)) := by
  unfold initPatch
  split
  · exact ⟨rfl, .inl rfl⟩
  · next hopen => exact ⟨rfl, .inr ⟨by simpa using hopen, rfl⟩⟩

variable (sha1 w a) in
/-- **What handlers return.** -/
theorem handle_end (command : AuthCommand) :
    HandlerEnd a (a.refusesCommand command) (a.lingersAfter w command) (a.handle sha1 w command) := by
  cases command with
  | logonChallenge build country login => exact .goesOn (handleLogonChallenge_closed build country login)
  | logonProof A M1 => exact handleLogonProof_end A M1
  | reconnectChallenge build login =>
    simp only [handle, handleReconnectChallenge]
    split
    · exact .closes rfl
    · exact .goesOn rfl
  | reconnectProof R1 R2 => exact handleReconnectProof_end R1 R2
  | realmList =>
    simp only [handle, handleRealmList]
    split
    · exact .closes rfl
    · exact .goesOn rfl
  | xferAccept =>
    obtain ⟨hauthed, hclosed | ⟨hopen, hclosed⟩⟩ := (initPatch_closed : _ ∧ ((a.initPatch w).closed = _ ∨ _))
    · exact .goesOn hclosed
    · exact .lingers (by simp [lingersAfter, hopen]) hauthed hclosed
  | xferResume startPos =>
    simp only [handle, handleXferResume]
    split
    · next hpatch =>
      split
      · exact .closes rfl
      · next hsize =>
        split
        · next hpos =>
          obtain ⟨hauthed, hclosed | ⟨hopen, hclosed⟩⟩ := (initPatch_closed : _ ∧ ((a.initPatch w).closed = _ ∨ _))
          · exact .goesOn hclosed
          · refine .lingers ?_ hauthed hclosed
            rw [hpatch, Bool.true_and] at hopen
            simp [lingersAfter, hpatch, hsize, hpos, hopen]
        · exact .closes rfl
    · exact .closes rfl
  | xferCancel => exact .lingers rfl rfl rfl

end AuthSocket

/-! ## All that was sent -/

namespace AuthConnection

variable {sha1 : List UInt8 → Nat} {env : Nat → AuthView} {c : AuthConnection} {cmd : AuthCmd} {n : Nat}
  {stream : List UInt8} {target : List (List UInt8)}

/-- All that was sent is there. -/
def whole (c : AuthConnection) : AuthConnection := { c with input := c.input ++ c.sent, sent := [] }

/-- The commands that are handled when a stream arrives at once. -/
def handledAtOnce (sha1 : List UInt8 → Nat) (env : Nat → AuthView) (stream : List UInt8) : List (List UInt8) :=
  (onRead sha1 env { input := stream }).handled

theorem serve_whole (h : nextPacket c.socket.authed c.input = some (cmd, n)) :
    c.whole.serve sha1 env cmd n = ((c.serve sha1 env cmd n).1, (c.serve sha1 env cmd n).2.whole) := by
  have hle : n ≤ c.input.length := (nextPacket_iff.1 h).2.2.2.2
  simp only [serve, whole, complete]
  rw [List.take_append_of_le_length hle, List.drop_append_of_le_length hle]

theorem onRead_whole (h : nextPacket c.socket.authed c.input = some (cmd, n)) :
    c.whole.onRead sha1 env = if (c.serve sha1 env cmd n).1 then (c.serve sha1 env cmd n).2.whole.onRead sha1 env
      else (c.serve sha1 env cmd n).2.whole := by
  have hnext : nextPacket c.whole.socket.authed c.whole.input = some (cmd, n) := nextPacket_append h c.sent
  rw [onRead_turn, turn_packet hnext, serve_whole h]

/-! ## The invariant -/

/-- Every byte is in the packet of a command that was handled, or waits. -/
structure Kept (stream : List UInt8) (c : AuthConnection) : Prop where
  all : c.handled.flatten ++ c.input ++ c.sent = stream
  packets : ∀ packet ∈ c.handled, IsPacket packet
  inside : c.overrun = false

/-- What is still to be handled will be handled, or there is nothing. -/
def Inside (sha1 : List UInt8 → Nat) (env : Nat → AuthView) (target : List (List UInt8)) (c : AuthConnection) : Prop :=
  (c.socket.closed = false ∧ (c.whole.onRead sha1 env).handled = target) ∨
    (c.handled = target ∧ nextPacket c.socket.authed (c.input ++ c.sent) = none)

/-- The same when `OnRead` has returned. -/
def AtRest (sha1 : List UInt8 → Nat) (env : Nat → AuthView) (target : List (List UInt8)) (c : AuthConnection) : Prop :=
  (c.socket.closed = false ∧ (c.whole.onRead sha1 env).handled = target ∧
      nextPacket c.socket.authed c.input = none ∧ c.cutsChallenge = false) ∨
    (c.handled = target ∧ (c.socket.closed = true ∨ nextPacket c.socket.authed (c.input ++ c.sent) = none))

theorem Kept.serve (hk : Kept stream c) (h : nextPacket c.socket.authed c.input = some (cmd, n)) :
    Kept stream (c.serve sha1 env cmd n).2 := by
  refine ⟨?_, fun packet hp => ?_, hk.inside⟩
  · have hall := hk.all
    simp only [AuthConnection.serve, complete, List.flatten_append, List.flatten_cons, List.flatten_nil,
      List.append_nil, List.append_assoc]
    rw [← List.append_assoc (c.input.take n), List.take_append_drop, ← List.append_assoc]
    exact hall
  · simp only [AuthConnection.serve, complete, List.mem_append, List.mem_singleton] at hp
    rcases hp with hp | rfl
    · exact hk.packets packet hp
    · exact isPacket_take h

/-- **A careful `OnRead`** handles what would be handled if all were there. -/
theorem onReadFor_rest (fuel : Nat) (c : AuthConnection) (hfuel : c.input.length < fuel)
    (hcare : c.carefulFor sha1 env fuel = true) (hk : Kept stream c) (hi : Inside sha1 env target c) :
    Kept stream (c.onReadFor sha1 env fuel) ∧ AtRest sha1 env target (c.onReadFor sha1 env fuel) := by
  induction fuel generalizing c with
  | zero => omega
  | succ fuel ih =>
    rw [carefulFor, Bool.and_eq_true, Bool.or_eq_true, Bool.not_eq_true', carefulTurn, Bool.and_eq_true,
      Bool.not_eq_true'] at hcare
    obtain ⟨⟨huncut, hturn⟩, hnext⟩ := hcare
    simp only [onReadFor]
    cases hp : nextPacket c.socket.authed c.input with
    | none =>
      obtain ⟨hstop, -, hsame⟩ := turn_none sha1 env hp
      rw [hstop, if_neg (by simp), hsame huncut]
      exact ⟨hk, hi.imp (fun hlive => ⟨hlive.1, hlive.2, hp, huncut⟩) fun hdone => ⟨hdone.1, .inr hdone.2⟩⟩
    | some p =>
      obtain ⟨cmd, n⟩ := p
      have hlive : c.socket.closed = false ∧ (c.whole.onRead sha1 env).handled = target := by
        refine hi.resolve_right fun hdone => ?_
        have hsome := nextPacket_append hp c.sent
        rw [hdone.2] at hsome
        cases hsome
      obtain ⟨hopen, htarget⟩ := hlive
      have hkept : Kept stream (c.serve sha1 env cmd n).2 := hk.serve hp
      have hlength := turn_length sha1 env (c := c)
      have hend := AuthSocket.handle_end sha1 (env c.handled.length) c.socket
        (cmd.parse (c.input.take n))
      rw [hp] at hturn
      simp only [turn_packet hp] at hnext hlength ⊢
      rw [onRead_whole hp] at htarget
      have hserve : c.serve sha1 env cmd n =
          ((c.socket.handle sha1 (env c.handled.length) (cmd.parse (c.input.take n))).1,
            { c with
              input := c.input.drop n
              socket := (c.socket.handle sha1 (env c.handled.length) (cmd.parse (c.input.take n))).2
              handled := c.handled ++ [c.input.take n] }) := rfl
      rw [hserve] at hkept hnext hlength htarget ⊢
      generalize c.socket.handle sha1 (env c.handled.length) (cmd.parse (c.input.take n)) = r at *
      cases hend with
      | goesOn hclosed =>
        exact ih _ (Nat.lt_of_lt_of_le (hlength rfl) (Nat.lt_succ_iff.1 hfuel)) (hnext.resolve_left (by simp)) hkept
          (.inl ⟨hclosed.trans hopen, htarget⟩)
      | lingers hlingers hauthed hclosed =>
        have hidle : nextPacket c.socket.authed (c.input.drop n ++ c.sent) = none := by
          simpa [hlingers] using hturn
        rw [← hauthed] at hidle
        refine ih _ (Nat.lt_of_lt_of_le (hlength rfl) (Nat.lt_succ_iff.1 hfuel)) (hnext.resolve_left (by simp)) hkept
          (.inr ⟨?_, hidle⟩)
        rw [if_pos rfl, onRead_none hidle] at htarget
        exact htarget
      | closes hclosed => exact ⟨hkept, .inr ⟨htarget, .inl hclosed⟩⟩
      | refuses hrefuses =>
        have hidle : nextPacket c.socket.authed (c.input.drop n ++ c.sent) = none := by
          simpa [hrefuses] using hturn
        exact ⟨hkept, .inr ⟨htarget, .inr hidle⟩⟩

theorem handleInput_rest (hcare : c.careful sha1 env n = true) (hk : Kept stream c) (hr : AtRest sha1 env target c) :
    Kept stream (c.handleInput sha1 env n) ∧ AtRest sha1 env target (c.handleInput sha1 env n) := by
  unfold handleInput
  split
  · exact ⟨hk, hr⟩
  · next hopen =>
    split
    · next hfull =>
      refine ⟨⟨hk.all, hk.packets, hk.inside⟩, .inr ⟨?_, .inl rfl⟩⟩
      rcases hr with ⟨-, htarget, hnone, huncut⟩ | ⟨hdone, -⟩
      · -- the buffer is full, so the first byte is that of no command
        have hcmd : firstCommand c.socket.authed c.input = none := by
          by_contra hne
          obtain ⟨cmd, hcmd⟩ := Option.ne_none_iff_exists'.1 hne
          have hfixed := fixedLength_le cmd
          have hbuf : inputSpace = 4096 := rfl
          by_cases hch : cmd.isChallenge = true
          · have h35 : sizeofLogonChallenge = 35 := rfl
            rw [cutsChallenge, hcmd, hnone, Option.any_some, hch, decide_eq_true (by omega)] at huncut
            cases huncut
          · have hsome : nextPacket c.socket.authed c.input = some (cmd, cmd.fixedLength) :=
              nextPacket_iff.2 ⟨hcmd, by rw [if_neg hch], Nat.le_refl _, by omega, by omega⟩
            rw [hnone] at hsome
            cases hsome
        have hidle : nextPacket c.whole.socket.authed c.whole.input = none := by
          have hcmd' : firstCommand c.socket.authed (c.input ++ c.sent) = none := by
            cases hc : c.input with
            | nil =>
              rw [hc] at hfull
              cases hfull
            | cons byte rest =>
              rw [hc] at hcmd
              exact hcmd
          simp only [nextPacket, whole, hcmd']
        rw [onRead_none hidle] at htarget
        exact htarget
      · exact hdone
    · next hroom =>
      dsimp only
      split
      · exact ⟨hk, hr⟩
      · next hsome =>
        have hcare' : carefulFor sha1 env (c.input.length + min n (min c.sent.length (inputSpace - c.input.length)) + 1)
            { c with
              input := c.input ++ c.sent.take (min n (min c.sent.length (inputSpace - c.input.length)))
              sent := c.sent.drop (min n (min c.sent.length (inputSpace - c.input.length))) } = true := by
          simpa [careful, hopen, hroom, hsome] using hcare
        have hlen : (c.input ++ c.sent.take (min n (min c.sent.length (inputSpace - c.input.length)))).length =
            c.input.length + min n (min c.sent.length (inputSpace - c.input.length)) := by
          rw [List.length_append, List.length_take]
          omega
        generalize min n (min c.sent.length (inputSpace - c.input.length)) = m at *
        unfold onRead
        dsimp only
        rw [hlen]
        refine onReadFor_rest _ _ (by rw [hlen]; omega) hcare' ⟨?_, hk.packets, hk.inside⟩ ?_
        · rw [← hk.all]
          simp [List.append_assoc]
        · rcases hr with ⟨hclosed, htarget, -⟩ | ⟨hdone, hclosed | hidle⟩
          · refine .inl ⟨hclosed, ?_⟩
            rw [← htarget]
            simp [whole, List.append_assoc]
          · exact absurd hclosed hopen
          · refine .inr ⟨hdone, ?_⟩
            rw [← hidle]
            simp [List.append_assoc]

/-- **The commands do not depend on the cuts** when the chunks are careful: nothing is read but packets of commands
that are handled, nothing is skipped that was not received, and when all is received or the connection is closed
the commands that were handled are those that are handled when the stream arrives at once. -/
theorem chunks_agree (sha1 : List UInt8 → Nat) (env : Nat → AuthView) (stream : List UInt8) (ns : List Nat)
    (h : Transition.Along (handleInput sha1 env) (fun c n => c.careful sha1 env n = true) { sent := stream } ns) :
    Kept stream (Transition.run (handleInput sha1 env) { sent := stream } ns) ∧
      ((Transition.run (handleInput sha1 env) { sent := stream } ns).sent = [] ∨
          (Transition.run (handleInput sha1 env) { sent := stream } ns).socket.closed = true →
        (Transition.run (handleInput sha1 env) { sent := stream } ns).handled = handledAtOnce sha1 env stream) := by
  obtain ⟨hk, hr⟩ : Kept stream (Transition.run (handleInput sha1 env) { sent := stream } ns) ∧
      AtRest sha1 env (handledAtOnce sha1 env stream) (Transition.run (handleInput sha1 env) { sent := stream } ns) :=
    Transition.run_invariant (I := fun c => Kept stream c ∧ AtRest sha1 env (handledAtOnce sha1 env stream) c)
      (fun _ _ hc hcare => handleInput_rest hcare hc.1 hc.2)
      ⟨⟨rfl, fun _ hp => absurd hp List.not_mem_nil, rfl⟩, .inl ⟨rfl, rfl, rfl, rfl⟩⟩ h
  generalize Transition.run (handleInput sha1 env) { sent := stream } ns = c at *
  refine ⟨hk, fun hend => ?_⟩
  rcases hr with ⟨hopen, htarget, hnone, -⟩ | ⟨hdone, -⟩
  · rcases hend with hsent | hclosed
    · have hidle : nextPacket c.whole.socket.authed c.whole.input = none := by
        simpa [whole, hsent] using hnone
      rw [onRead_none hidle] at htarget
      exact htarget
    · rw [hopen] at hclosed
      cases hclosed
  · exact hdone

/-- The view of a server without accounts. -/
def noAccounts : AuthView where
  account := fun _ => none
  sRand := ⟨2 ^ 255 + 3, by decide, by decide, by decide⟩
  bRand := ⟨2 ^ 151 + 3, by decide, by decide, by decide⟩
  unk3Rand := ⟨2 ^ 127 + 3, by decide, by decide, by decide⟩
  reconnectRand := ⟨2 ^ 127 + 3, by decide, by decide, by decide⟩

/-- A logon challenge of 36 bytes for the account `AB`. -/
def challengeAB : List UInt8 :=
  [0x00, 0x08, 32, 0, 0x57, 0x6f, 0x57, 0, 2, 4, 3, 0x9e, 0x21, 0x36, 0x38, 0x78, 0, 0x6e, 0x69, 0x57, 0,
    0x53, 0x55, 0x6e, 0x65, 0, 0, 0, 0, 127, 0, 0, 1, 2, 0x41, 0x42]

theorem chunks_agree_challengeAB :
    (Transition.run (handleInput (fun _ => 0) fun _ => noAccounts) { sent := challengeAB } [20, 16]).handled =
      handledAtOnce (fun _ => 0) (fun _ => noAccounts) challengeAB :=
  (chunks_agree (fun _ => 0) (fun _ => noAccounts) challengeAB [20, 16] (by decide)).2 (.inl (by decide))

/-- The challenge is lost when its last byte comes later. -/
theorem challengeAB_lost :
    ¬∀ sha1 env stream ns, Kept stream (Transition.run (handleInput sha1 env) { sent := stream } ns) ∧
      ((Transition.run (handleInput sha1 env) { sent := stream } ns).sent = [] ∨
          (Transition.run (handleInput sha1 env) { sent := stream } ns).socket.closed = true →
        (Transition.run (handleInput sha1 env) { sent := stream } ns).handled = handledAtOnce sha1 env stream) := by
  intro h
  have hsame := (h (fun _ => 0) (fun _ => noAccounts) challengeAB [35, 1]).2 (.inl (by decide))
  revert hsame
  decide

end AuthConnection

end BlizzLike
