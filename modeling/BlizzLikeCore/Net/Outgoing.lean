import BlizzLikeCore.Item
import BlizzLikeCore.Lib.Transition
import BlizzLikeCore.Net.AuthCrypt

/-!
# Outgoing packets

`WorldSocket` writes a packet to its output buffer at once when nothing waits and it fits, else it
queues a copy, and flushes the queue into the buffer as far as it goes.  Whether the header of a
queued packet was written is told by its read position alone.

The bytes on the socket, those in the buffer and those the queue will come to are the packets of
all calls in order, as long as no flush meets a packet of at most 1024 bytes for which there is
room for the header and no more, and no packet that has been read from is queued
(`stream_in_order`).  Such a header is written and written again (`header_twice`).
-/

namespace BlizzLike

/-- `WorldPacket`; reading checks its position against the size. -/
structure WorldPacket where
  opcode : Nat
  contents : List UInt8
  rpos : Nat := 0
  rpos_le : rpos ≤ contents.length := by decide

/-- The bytes of a `ServerPktHeader`: a large packet has one more for its size. -/
def serverPktHeader (size cmd : Nat) : List UInt8 :=
  (if u32 size > 0x7FFF then [0x80 ||| UInt8.ofNat (u32 size / 65536)] else []) ++
    [UInt8.ofNat (u32 size / 256), UInt8.ofNat (u32 size), UInt8.ofNat cmd, UInt8.ofNat (cmd / 256)]

namespace WorldPacket

variable (p : WorldPacket)

def size : Nat := p.contents.length

def header : List UInt8 := serverPktHeader (p.size + 2) p.opcode

/-- What is not read yet. -/
def rest : List UInt8 := p.contents.drop p.rpos

theorem rest_length : p.rest.length + p.rpos = p.contents.length := by
  have := p.rpos_le
  unfold rest
  rw [List.length_drop]
  omega

/-- `read_skip` of no more than what is left. -/
def readSkip (skip : Nat) (h : skip ≤ p.rest.length) : WorldPacket :=
  { p with rpos := p.rpos + skip, rpos_le := by have := p.rest_length; omega }

end WorldPacket

/-- `Network.OutUBuff`, the size of the output buffer, which has to be positive. -/
abbrev OutUBuff := { n : Nat // 0 < n }

/-- The sending side of `WorldSocket`.  `sent` is what the kernel has taken, `calls` are the packets of
the calls of `SendPacket` before the socket was closing, and `aborted` tells that an assertion
has failed. -/
structure WorldSocket where
  crypt : AuthCrypt
  outBufferSize : OutUBuff
  outBuffer : List UInt8 := []
  packetQueue : List WorldPacket := []
  closing : Bool := false
  aborted : Bool := false
  sent : List UInt8 := []
  calls : List WorldPacket := []

/-- What `peer().send` returns. -/
inductive SendOutcome where
  | accepted (n : Nat)
  | wouldBlock
  | error

inductive OutEvent where
  | sendPacket (pct : WorldPacket)
  | handleOutput (outcome : SendOutcome)

namespace WorldSocket

variable (w : WorldSocket)

def space : Nat := w.outBufferSize - w.outBuffer.length

/-- `copy` into the buffer; every call asserts that it does not fail. -/
def copy (bytes : List UInt8) : Option WorldSocket :=
  if w.space < bytes.length then none else some { w with outBuffer := w.outBuffer ++ bytes }

/-- Encrypting a header and copying it. -/
def copyHeader (pct : WorldPacket) : Option WorldSocket :=
  let r := w.crypt.encryptSend pct.header
  ({ w with crypt := r.1 } : WorldSocket).copy r.2

/-- `iSendPacket`; `false` when there is no space. -/
def iSendPacket (pct : WorldPacket) : Option (WorldSocket × Bool) :=
  if w.space < pct.size + pct.header.length then some (w, false)
  else
    match w.copyHeader pct with
    | none => none
    | some w1 => if pct.contents = [] then some (w1, true) else (w1.copy pct.contents).map fun w2 => (w2, true)

/-- What `iSendPartialPacket` returns: 1, 0, or -1 with the packet as it is pushed back. -/
inductive PartialResult where
  | completed
  | nothing
  | remaining (pct : WorldPacket)

/-- The payload's part of `iSendPartialPacket`. -/
def iSendPayload (pct : WorldPacket) : Option (WorldSocket × PartialResult) :=
  if h : w.space < pct.rest.length then
    (w.copy (pct.rest.take w.space)).map fun w1 => (w1, .remaining (pct.readSkip w.space (Nat.le_of_lt h)))
  else (w.copy pct.rest).map fun w1 => (w1, .completed)

def iSendPartialPacket (pct : WorldPacket) : Option (WorldSocket × PartialResult) :=
  if pct.rpos = 0 then
    if w.space < pct.size + pct.header.length ∧ pct.size > 1024 ∧ w.space < pct.header.length + 1024 then
      some (w, .nothing)
    else
      match w.copyHeader pct with
      | none => none
      | some w1 => if pct.contents = [] then some (w1, .completed) else w1.iSendPayload pct
  else w.iSendPayload pct

/-- The loop of `iFlushPacketQueue` over what is in the queue; the flag tells if bytes were written. -/
def flushQueue (w : WorldSocket) (haveone : Bool) : List WorldPacket → Option (WorldSocket × Bool)
  | [] => some ({ w with packetQueue := [] }, haveone)
  | pct :: rest =>
    match w.iSendPartialPacket pct with
    | none => none
    | some (w1, .completed) => flushQueue w1 true rest
    | some (w1, .nothing) => some ({ w1 with packetQueue := pct :: rest }, haveone)
    | some (w1, .remaining pct1) => some ({ w1 with packetQueue := pct1 :: rest }, true)

def iFlushPacketQueue : Option (WorldSocket × Bool) := w.flushQueue false w.packetQueue

/-- The queueing part of `SendPacket`. -/
def enqueue (pct : WorldPacket) : Option WorldSocket :=
  ({ w with packetQueue := w.packetQueue ++ [pct] } : WorldSocket).iFlushPacketQueue.map Prod.fst

def sendPacket (pct : WorldPacket) : Option WorldSocket :=
  if w.closing then some w
  else
    let w1 := { w with calls := w.calls ++ [pct] }
    if w1.packetQueue ≠ [] then w1.enqueue pct
    else
      match w1.iSendPacket pct with
      | none => none
      | some (w2, true) => some w2
      | some (w2, false) => w2.enqueue pct

/-- `peer().send` of the buffer in `handle_output`, and what follows on it.  When it fails the reactor
closes the socket. -/
def sendBuffer (outcome : SendOutcome) : Option WorldSocket :=
  match outcome with
  | .wouldBlock => some w
  | .error => some { w with closing := true }
  | .accepted n =>
    let n := min n w.outBuffer.length
    let w1 := { w with sent := w.sent ++ w.outBuffer.take n, outBuffer := w.outBuffer.drop n }
    if n = 0 then some { w with closing := true }
    else if n < w.outBuffer.length then some w1
    else w1.iFlushPacketQueue.map Prod.fst

def handleOutput (outcome : SendOutcome) : Option WorldSocket :=
  if w.closing then some w
  else if w.outBuffer = [] then
    match w.iFlushPacketQueue with
    | none => none
    | some (w1, false) => some w1
    | some (w1, true) => w1.sendBuffer outcome
  else w.sendBuffer outcome

def handle : OutEvent → Option WorldSocket
  | .sendPacket pct => w.sendPacket pct
  | .handleOutput outcome => w.handleOutput outcome

/-- A failed assertion ends the process. -/
def step (w : WorldSocket) (e : OutEvent) : WorldSocket :=
  if w.aborted then w else (w.handle e).getD { w with aborted := true }

/-- After `open`. -/
def opened (size : OutUBuff) (crypt : AuthCrypt) : WorldSocket := { crypt := crypt, outBufferSize := size }

end WorldSocket

/-! ## The stream -/

/-- The packets of all calls as they are to be on the wire, each with its header encrypted once. -/
def wire : AuthCrypt → List WorldPacket → List UInt8
  | _, [] => []
  | c, p :: ps => (c.encryptSend p.header).2 ++ p.contents ++ wire (c.encryptSend p.header).1 ps

/-- The cipher after the headers of some packets. -/
def cipherAfter : AuthCrypt → List WorldPacket → AuthCrypt
  | c, [] => c
  | c, p :: ps => cipherAfter (c.encryptSend p.header).1 ps

/-- What the queue comes to: a packet that was begun has its header behind it. -/
def pending : AuthCrypt → List WorldPacket → List UInt8
  | _, [] => []
  | c, p :: ps =>
    if p.rpos = 0 then (c.encryptSend p.header).2 ++ p.contents ++ pending (c.encryptSend p.header).1 ps
    else p.rest ++ pending c ps

namespace WorldSocket

/-- **The law**: what is on the socket, in the buffer and in the queue are the packets of all calls in
order, each with its header once and its payload once, and for each of them the cipher is
advanced once, now or when it leaves the queue. -/
structure InOrder (c : AuthCrypt) (w : WorldSocket) : Prop where
  alive : w.aborted = false
  stream : w.sent ++ w.outBuffer ++ pending w.crypt w.packetQueue = wire c w.calls
  cipher : cipherAfter w.crypt (w.packetQueue.filter fun p => p.rpos = 0) = cipherAfter c w.calls

/-- The first packet that does not fit behind those before it was begun already, is large enough to be
cut with a part of its payload or to wait, or leaves room for more than its header. -/
def Cuttable : Nat → List WorldPacket → Prop
  | _, [] => True
  | space, p :: ps =>
    if p.rpos = 0 then
      if p.size + p.header.length ≤ space then Cuttable (space - (p.size + p.header.length)) ps
      else 1024 < p.size ∨ p.header.length < space
    else if p.rest.length ≤ space then Cuttable (space - p.rest.length) ps
    else True

/-- A call that does not meet the slip, and gives no packet that has been read from to the queue. -/
def Heedful (w : WorldSocket) : OutEvent → Prop
  | .sendPacket pct => w.closing = true ∨ w.packetQueue = [] ∧ pct.size + pct.header.length ≤ w.space ∨
      pct.rpos = 0 ∧ Cuttable w.space (w.packetQueue ++ [pct])
  | .handleOutput (.accepted n) => w.closing = true ∨ w.outBuffer = [] ∨ n < w.outBuffer.length ∨
      Cuttable w.outBufferSize w.packetQueue
  | .handleOutput _ => True

end WorldSocket

/-! ## The lengths and the whole -/

theorem header_length (p : WorldPacket) : 4 ≤ p.header.length := by
  unfold WorldPacket.header serverPktHeader
  simp

theorem header_length_small (p : WorldPacket) (h : p.size ≤ 1024) : p.header.length = 4 := by
  unfold WorldPacket.header serverPktHeader
  rw [u32_eq _ (by omega), if_neg (by omega)]
  rfl

theorem rest_of_rpos_zero {p : WorldPacket} (h : p.rpos = 0) : p.rest = p.contents := by
  unfold WorldPacket.rest
  rw [h, List.drop_zero]

theorem cipherAfter_append (c : AuthCrypt) (ps qs : List WorldPacket) :
    cipherAfter c (ps ++ qs) = cipherAfter (cipherAfter c ps) qs := by
  induction ps generalizing c with
  | nil => rfl
  | cons p ps ih => exact ih _

theorem wire_append (c : AuthCrypt) (ps qs : List WorldPacket) :
    wire c (ps ++ qs) = wire c ps ++ wire (cipherAfter c ps) qs := by
  induction ps generalizing c with
  | nil => rfl
  | cons p ps ih => simp only [List.cons_append, wire, cipherAfter, ih, List.append_assoc]

theorem pending_append (c : AuthCrypt) (ps qs : List WorldPacket) :
    pending c (ps ++ qs) = pending c ps ++ pending (cipherAfter c (ps.filter fun p => p.rpos = 0)) qs := by
  induction ps generalizing c with
  | nil => rfl
  | cons p ps ih =>
    by_cases h : p.rpos = 0
    · simp only [List.cons_append, pending, if_pos h, ih, List.append_assoc, List.filter_cons, decide_eq_true_eq,
        cipherAfter]
    · simp only [List.cons_append, pending, if_neg h, ih, List.append_assoc, List.filter_cons, decide_eq_true_eq]

theorem pending_cons_length {p : WorldPacket} (h : p.rpos = 0) (c : AuthCrypt) (ps : List WorldPacket) :
    (pending c (p :: ps)).length =
      p.header.length + p.contents.length + (pending (c.encryptSend p.header).1 ps).length := by
  have h1 : pending c (p :: ps) = (c.encryptSend p.header).2 ++ p.contents ++
      pending (c.encryptSend p.header).1 ps := if_pos h
  rw [h1, List.length_append, List.length_append, AuthCrypt.encryptSend_length]

theorem pending_length (c c' : AuthCrypt) (ps : List WorldPacket) :
    (pending c ps).length = (pending c' ps).length := by
  induction ps generalizing c c' with
  | nil => rfl
  | cons p ps ih =>
    unfold pending
    split
    · simp only [List.length_append, AuthCrypt.encryptSend_length]
      rw [ih]
    · rw [List.length_append, List.length_append, ih]

namespace WorldSocket

/-- A flush leaves all else as it is. -/
structure SameCalls (w v : WorldSocket) : Prop where
  sent : v.sent = w.sent
  calls : v.calls = w.calls
  aborted : v.aborted = w.aborted
  closing : v.closing = w.closing
  size : v.outBufferSize = w.outBufferSize

section
variable {w : WorldSocket} {p : WorldPacket}

theorem copy_some {bytes : List UInt8} (h : bytes.length ≤ w.space) :
    w.copy bytes = some { w with outBuffer := w.outBuffer ++ bytes } := if_neg (by omega)

/-- The packet's header behind what is in the buffer. -/
def withHeader (w : WorldSocket) (p : WorldPacket) : WorldSocket :=
  { w with crypt := (w.crypt.encryptSend p.header).1, outBuffer := w.outBuffer ++ (w.crypt.encryptSend p.header).2 }

theorem copyHeader_some (h : p.header.length ≤ w.space) : w.copyHeader p = some (w.withHeader p) :=
  if_neg (by rw [AuthCrypt.encryptSend_length]; exact Nat.not_lt.2 h)

theorem copyHeader_none (h : w.space < p.header.length) : w.copyHeader p = none :=
  if_pos (by rw [AuthCrypt.encryptSend_length]; exact h)

theorem withHeader_space (w : WorldSocket) (p : WorldPacket) : (w.withHeader p).space = w.space - p.header.length := by
  unfold withHeader space
  simp only [List.length_append, AuthCrypt.encryptSend_length]
  omega

theorem payload_whole (h : p.rest.length ≤ w.space) :
    w.iSendPayload p = some ({ w with outBuffer := w.outBuffer ++ p.rest }, .completed) := by
  unfold iSendPayload
  rw [dif_neg (by omega), copy_some h]
  rfl

theorem payload_cut (h : w.space < p.rest.length) :
    w.iSendPayload p = some ({ w with outBuffer := w.outBuffer ++ p.rest.take w.space },
      .remaining (p.readSkip w.space (Nat.le_of_lt h))) := by
  unfold iSendPayload
  rw [dif_pos h, copy_some (by rw [List.length_take]; exact Nat.min_le_left _ _)]
  rfl

theorem partial_whole (hr : p.rpos = 0) (h : p.size + p.header.length ≤ w.space) :
    w.iSendPartialPacket p =
      some ({ w.withHeader p with outBuffer := (w.withHeader p).outBuffer ++ p.contents }, .completed) := by
  unfold iSendPartialPacket
  rw [if_pos hr, if_neg (by omega), copyHeader_some (by omega)]
  simp only
  split
  · next h0 => simp [h0]
  · rw [payload_whole (by rw [rest_of_rpos_zero hr, withHeader_space]; unfold WorldPacket.size at h; omega),
      rest_of_rpos_zero hr]

theorem partial_cut (hr : p.rpos = 0) (hlt : w.space < p.size + p.header.length)
    (hc : ¬(p.size > 1024 ∧ w.space < p.header.length + 1024)) (hh : p.header.length ≤ w.space) :
    ∃ h, w.iSendPartialPacket p =
      some ({ w.withHeader p with
          outBuffer := (w.withHeader p).outBuffer ++ p.contents.take (w.space - p.header.length) },
        .remaining (p.readSkip (w.space - p.header.length) h)) := by
  have hrest := rest_of_rpos_zero hr
  have hlen : (w.withHeader p).space < p.rest.length := by
    rw [hrest, withHeader_space]
    unfold WorldPacket.size at hlt
    omega
  have hne : p.contents ≠ [] := by
    intro h0
    rw [hrest, h0] at hlen
    exact absurd hlen (Nat.not_lt_zero _)
  refine ⟨by rw [← withHeader_space]; exact Nat.le_of_lt hlen, ?_⟩
  unfold iSendPartialPacket
  rw [if_pos hr, if_neg (fun h => hc h.2), copyHeader_some hh]
  simp only
  rw [if_neg hne, payload_cut hlen]
  simp only [hrest, withHeader_space]

theorem partial_nothing (hr : p.rpos = 0) (hlt : w.space < p.size + p.header.length)
    (hc : p.size > 1024 ∧ w.space < p.header.length + 1024) : w.iSendPartialPacket p = some (w, .nothing) := by
  unfold iSendPartialPacket
  rw [if_pos hr, if_pos ⟨hlt, hc⟩]

theorem partial_begun (hr : p.rpos ≠ 0) : w.iSendPartialPacket p = w.iSendPayload p := if_neg hr

end

/-- **A flush** under the condition: buffer and queue come to the same bytes, and the cipher to the same
end. -/
theorem flushQueue_spec (q : List WorldPacket) (w : WorldSocket) (b : Bool) (hc : Cuttable w.space q) :
    ∃ v b', w.flushQueue b q = some (v, b') ∧ SameCalls w v ∧
      v.outBuffer ++ pending v.crypt v.packetQueue = w.outBuffer ++ pending w.crypt q ∧
      cipherAfter v.crypt (v.packetQueue.filter fun p => p.rpos = 0) =
        cipherAfter w.crypt (q.filter fun p => p.rpos = 0) := by
  induction q generalizing w b with
  | nil => exact ⟨_, _, rfl, ⟨rfl, rfl, rfl, rfl, rfl⟩, rfl, rfl⟩
  | cons p q ih =>
    unfold Cuttable at hc
    unfold flushQueue
    by_cases hr : p.rpos = 0
    · rw [if_pos hr] at hc
      have hpend : pending w.crypt (p :: q) = (w.crypt.encryptSend p.header).2 ++ p.contents ++
          pending (w.crypt.encryptSend p.header).1 q := if_pos hr
      have hciph : cipherAfter w.crypt ((p :: q).filter fun p => p.rpos = 0) =
          cipherAfter (w.crypt.encryptSend p.header).1 (q.filter fun p => p.rpos = 0) := by
        rw [List.filter_cons_of_pos (by simpa using hr)]
        rfl
      rw [hpend, hciph]
      by_cases hfit : p.size + p.header.length ≤ w.space
      · rw [if_pos hfit] at hc
        rw [partial_whole hr hfit]
        obtain ⟨v, b', h1, h2, h3, h4⟩ := ih
          { w.withHeader p with outBuffer := (w.withHeader p).outBuffer ++ p.contents } true (by
            unfold space withHeader WorldPacket.size at *
            simp only [List.length_append, AuthCrypt.encryptSend_length]
            convert hc using 1
            omega)
        refine ⟨v, b', h1, ⟨h2.sent, h2.calls, h2.aborted, h2.closing, h2.size⟩, h3.trans ?_, h4⟩
        simp only [withHeader, List.append_assoc]
      · rw [if_neg hfit] at hc
        by_cases hno : p.size > 1024 ∧ w.space < p.header.length + 1024
        · rw [partial_nothing hr (by omega) hno]
          exact ⟨_, _, rfl, ⟨rfl, rfl, rfl, rfl, rfl⟩, congrArg _ hpend, hciph⟩
        · -- more than the header fits, so that the read position moves
          have hlt : p.header.length < w.space := by omega
          obtain ⟨hle, hcut⟩ := partial_cut hr (by omega) hno (Nat.le_of_lt hlt)
          rw [hcut]
          refine ⟨_, _, rfl, ⟨rfl, rfl, rfl, rfl, rfl⟩, ?_, ?_⟩
          · have hrpos : (p.readSkip (w.space - p.header.length) hle).rpos ≠ 0 := by
              show p.rpos + _ ≠ 0
              omega
            have hrest : (p.readSkip (w.space - p.header.length) hle).rest =
                p.contents.drop (w.space - p.header.length) := by
              show p.contents.drop (p.rpos + _) = _
              rw [hr, Nat.zero_add]
            simp only [pending, if_neg hrpos, hrest, withHeader, List.append_assoc]
            rw [← List.append_assoc (p.contents.take _), List.take_append_drop]
          · rw [List.filter_cons_of_neg (by
              simp only [decide_eq_true_eq]
              show p.rpos + _ ≠ 0
              omega)]
            rfl
    · rw [if_neg hr] at hc
      have hpend : pending w.crypt (p :: q) = p.rest ++ pending w.crypt q := if_neg hr
      have hciph : (p :: q).filter (fun p => p.rpos = 0) = q.filter fun p => p.rpos = 0 :=
        List.filter_cons_of_neg (by simpa using hr)
      rw [hpend, hciph, partial_begun hr]
      by_cases hfit : p.rest.length ≤ w.space
      · rw [if_pos hfit] at hc
        rw [payload_whole hfit]
        obtain ⟨v, b', h1, h2, h3, h4⟩ := ih { w with outBuffer := w.outBuffer ++ p.rest } true (by
          unfold space at *
          simp only [List.length_append]
          convert hc using 1
          omega)
        refine ⟨v, b', h1, ⟨h2.sent, h2.calls, h2.aborted, h2.closing, h2.size⟩, h3.trans ?_, h4⟩
        simp only [List.append_assoc]
      · have hlt : w.space < p.rest.length := by omega
        rw [payload_cut hlt]
        have hrpos : (p.readSkip w.space (Nat.le_of_lt hlt)).rpos ≠ 0 := by
          show p.rpos + _ ≠ 0
          omega
        refine ⟨_, _, rfl, ⟨rfl, rfl, rfl, rfl, rfl⟩, ?_, ?_⟩
        · have hrest : (p.readSkip w.space (Nat.le_of_lt hlt)).rest = p.rest.drop w.space := by
            show p.contents.drop (p.rpos + _) = _
            unfold WorldPacket.rest
            rw [List.drop_drop]
          simp only [pending, if_neg hrpos, hrest, List.append_assoc]
          rw [← List.append_assoc (p.rest.take _), List.take_append_drop]
        · rw [List.filter_cons_of_neg (by simpa using hrpos)]

/-- **The slip**: a packet of which the header alone fits is left as if nothing of it had been written,
so that four bytes more are to come; when not even the header fits the assertion fails. -/
theorem flushQueue_slip (q : List WorldPacket) (w : WorldSocket) (b : Bool) (hc : ¬ Cuttable w.space q) :
    w.flushQueue b q = none ∨ ∃ v b', w.flushQueue b q = some (v, b') ∧ SameCalls w v ∧
      v.outBuffer.length + (pending v.crypt v.packetQueue).length =
        w.outBuffer.length + (pending w.crypt q).length + 4 := by
  induction q generalizing w b with
  | nil => exact absurd trivial hc
  | cons p q ih =>
    unfold Cuttable at hc
    unfold flushQueue
    by_cases hr : p.rpos = 0
    · rw [if_pos hr] at hc
      have hpend := fun c => pending_cons_length hr c q
      by_cases hfit : p.size + p.header.length ≤ w.space
      · rw [if_pos hfit] at hc
        rw [partial_whole hr hfit]
        rcases ih { w.withHeader p with outBuffer := (w.withHeader p).outBuffer ++ p.contents } true (by
          unfold space withHeader WorldPacket.size at *
          simp only [List.length_append, AuthCrypt.encryptSend_length]
          convert hc using 2
          omega) with h | ⟨v, b', h1, h2, h3⟩
        · exact Or.inl h
        · refine Or.inr ⟨v, b', h1, ⟨h2.sent, h2.calls, h2.aborted, h2.closing, h2.size⟩, h3.trans ?_⟩
          rw [hpend]
          simp only [withHeader, List.length_append, AuthCrypt.encryptSend_length]
          omega
      · rw [if_neg hfit] at hc
        rw [not_or] at hc
        have h4 := header_length_small p (by omega)
        by_cases hlt : w.space < p.header.length
        · left
          unfold iSendPartialPacket
          rw [if_pos hr, if_neg (by omega), copyHeader_none hlt]
        · right
          obtain ⟨hle, hcut⟩ := partial_cut (w := w) hr (by omega) (by omega) (by omega)
          rw [hcut]
          refine ⟨_, _, rfl, ⟨rfl, rfl, rfl, rfl, rfl⟩, ?_⟩
          have hzero : w.space - p.header.length = 0 := by omega
          have hrpos : (p.readSkip (w.space - p.header.length) hle).rpos = 0 := by
            show p.rpos + _ = 0
            omega
          rw [hpend, pending_cons_length hrpos, pending_length _ (w.crypt.encryptSend p.header).1]
          simp only [hzero, withHeader, List.length_append, List.take_zero, List.length_nil,
            AuthCrypt.encryptSend_length]
          show _ + (p.header.length + p.contents.length + _) = _
          omega
    · rw [if_neg hr] at hc
      rw [partial_begun hr]
      have hpend : pending w.crypt (p :: q) = p.rest ++ pending w.crypt q := if_neg hr
      by_cases hfit : p.rest.length ≤ w.space
      · rw [if_pos hfit] at hc
        rw [payload_whole hfit]
        rcases ih { w with outBuffer := w.outBuffer ++ p.rest } true (by
          unfold space at *
          simp only [List.length_append]
          convert hc using 2
          omega) with h | ⟨v, b', h1, h2, h3⟩
        · exact Or.inl h
        · refine Or.inr ⟨v, b', h1, ⟨h2.sent, h2.calls, h2.aborted, h2.closing, h2.size⟩, h3.trans ?_⟩
          rw [hpend]
          simp only [List.length_append]
          omega
      · exact absurd (by rw [if_neg hfit]; trivial) hc

/-! ## Nothing to flush -/

/-- When the buffer is empty there is nothing to flush. -/
def Idle (w : WorldSocket) : Prop :=
  w.aborted = false → w.closing = false → w.outBuffer = [] → w.iFlushPacketQueue = some (w, false)

theorem remaining_nonempty {w v : WorldSocket} {p p1 : WorldPacket}
    (h : w.iSendPartialPacket p = some (v, .remaining p1)) : v.outBuffer ≠ [] := by
  have hpay : ∀ u : WorldSocket, u.iSendPayload p = some (v, .remaining p1) → v.outBuffer ≠ [] := by
    intro u hu
    by_cases hlt : u.space < p.rest.length
    · rw [payload_cut hlt] at hu
      cases hu
      intro hnil
      have hlen := congrArg List.length hnil
      have hpos := u.outBufferSize.2
      simp only [List.length_append, List.length_take, List.length_nil] at hlen
      unfold space at *
      omega
    · rw [payload_whole (by omega)] at hu
      cases (Prod.mk.inj (Option.some.inj hu)).2
  unfold iSendPartialPacket at h
  split at h
  · split at h
    · cases (Prod.mk.inj (Option.some.inj h)).2
    split at h
    · cases h
    split at h
    · cases (Prod.mk.inj (Option.some.inj h)).2
    · exact hpay _ h
  · exact hpay w h

theorem nothing_eq {w v : WorldSocket} {p : WorldPacket} (h : w.iSendPartialPacket p = some (v, .nothing)) :
    v = w ∧ p.rpos = 0 ∧ w.space < p.size + p.header.length ∧ p.size > 1024 ∧
      w.space < p.header.length + 1024 := by
  have hpay : ∀ u : WorldSocket, u.iSendPayload p ≠ some (v, .nothing) := by
    intro u hu
    unfold iSendPayload at hu
    split at hu
    · obtain ⟨_, _, h1⟩ := Option.map_eq_some_iff.1 hu
      cases (Prod.mk.inj h1).2
    · obtain ⟨_, _, h1⟩ := Option.map_eq_some_iff.1 hu
      cases (Prod.mk.inj h1).2
  unfold iSendPartialPacket at h
  split at h
  · next hr =>
    split at h
    · next hc =>
      cases h
      exact ⟨rfl, hr, hc.1, hc.2.1, hc.2.2⟩
    split at h
    · cases h
    split at h
    · cases (Prod.mk.inj (Option.some.inj h)).2
    · exact absurd h (hpay _)
  · exact absurd h (hpay _)

theorem flushQueue_idle (q : List WorldPacket) (w v : WorldSocket) (b b' : Bool)
    (h : w.flushQueue b q = some (v, b')) : v.Idle := by
  induction q generalizing w b with
  | nil =>
    cases h
    exact fun _ _ _ => rfl
  | cons p q ih =>
    unfold flushQueue at h
    split at h
    · cases h
    · exact ih _ _ h
    · next w1 h1 =>
      obtain ⟨rfl, hr, hlt, hc⟩ := nothing_eq h1
      cases h
      intro _ _ _
      have hagain : ({ w1 with packetQueue := p :: q } : WorldSocket).iSendPartialPacket p =
          some ({ w1 with packetQueue := p :: q }, .nothing) := partial_nothing hr hlt hc
      unfold iFlushPacketQueue flushQueue
      rw [hagain]
    · next w1 p1 h1 =>
      cases h
      exact fun _ _ hnil => (remaining_nonempty h1 hnil).elim

theorem header_nonempty (w : WorldSocket) (p : WorldPacket) : (w.crypt.encryptSend p.header).2 ≠ [] := by
  intro h
  have := header_length p
  rw [← AuthCrypt.encryptSend_length w.crypt, h] at this
  cases this

theorem iSendPacket_some {w : WorldSocket} {p : WorldPacket} (h : p.size + p.header.length ≤ w.space) :
    w.iSendPacket p =
      some ({ w.withHeader p with outBuffer := (w.withHeader p).outBuffer ++ p.contents }, true) := by
  unfold iSendPacket
  rw [if_neg (by omega), copyHeader_some (by omega)]
  simp only
  split
  · next h0 => simp [h0]
  · rw [copy_some (by rw [withHeader_space]; unfold WorldPacket.size at h; omega)]
    rfl

theorem iSendPacket_false {w : WorldSocket} {p : WorldPacket} (h : ¬ p.size + p.header.length ≤ w.space) :
    w.iSendPacket p = some (w, false) := if_pos (by omega)

theorem enqueue_idle {w v : WorldSocket} {p : WorldPacket} (h : w.enqueue p = some v) : v.Idle := by
  obtain ⟨⟨v1, b⟩, h1, rfl⟩ := Option.map_eq_some_iff.1 h
  exact flushQueue_idle _ _ _ _ _ h1

theorem sendBuffer_idle {w v : WorldSocket} {outcome : SendOutcome} (hw : w.Idle)
    (h : w.sendBuffer outcome = some v) : v.Idle := by
  unfold sendBuffer at h
  split at h
  · cases h
    exact hw
  · cases h
    exact fun _ hc => by cases hc
  next n =>
  simp only at h
  split at h
  · cases h
    exact fun _ hc => by cases hc
  split at h
  · next hlt =>
    cases h
    intro _ _ hnil
    have := congrArg List.length hnil
    simp only [List.length_drop, List.length_nil] at this
    omega
  · obtain ⟨⟨v1, b⟩, h1, rfl⟩ := Option.map_eq_some_iff.1 h
    exact flushQueue_idle _ _ _ _ _ h1

theorem step_idle (w : WorldSocket) (e : OutEvent) (hw : w.Idle) : (w.step e).Idle := by
  have hhandle : ∀ v, w.handle e = some v → v.Idle := by
    intro v hv
    cases e with
    | sendPacket pct =>
      have hv : w.sendPacket pct = some v := hv
      unfold sendPacket at hv
      split at hv
      · cases hv
        exact hw
      simp only at hv
      split at hv
      · exact enqueue_idle hv
      by_cases hfit : pct.size + pct.header.length ≤ space { w with calls := w.calls ++ [pct] }
      · rw [iSendPacket_some hfit] at hv
        cases hv
        intro _ _ hnil
        have hnil : w.outBuffer ++ (w.crypt.encryptSend pct.header).2 ++ pct.contents = [] := hnil
        rw [List.append_eq_nil_iff, List.append_eq_nil_iff] at hnil
        exact absurd hnil.1.2 (header_nonempty w pct)
      · rw [iSendPacket_false hfit] at hv
        exact enqueue_idle hv
    | handleOutput outcome =>
      have hv : w.handleOutput outcome = some v := hv
      unfold handleOutput at hv
      split at hv
      · cases hv
        exact hw
      split at hv
      · split at hv
        · cases hv
        · next h1 =>
          cases hv
          exact flushQueue_idle _ _ _ _ _ h1
        · next h1 => exact sendBuffer_idle (flushQueue_idle _ _ _ _ _ h1) hv
      · exact sendBuffer_idle hw hv
  unfold step
  split
  · exact hw
  cases hv : w.handle e with
  | none => exact fun h => by cases h
  | some v => exact hhandle v hv

/-! ## The law -/

section
variable {c : AuthCrypt} {w v : WorldSocket}

theorem InOrder.length (h : InOrder c w) :
    w.sent.length + (w.outBuffer.length + (pending w.crypt w.packetQueue).length) = (wire c w.calls).length := by
  rw [← h.stream, List.length_append, List.length_append, Nat.add_assoc]

theorem InOrder.flush (h : InOrder c w) (hc : Cuttable w.space w.packetQueue) :
    ∃ v, w.iFlushPacketQueue.map Prod.fst = some v ∧ InOrder c v := by
  obtain ⟨v, b, h1, h2, h3, h4⟩ := flushQueue_spec w.packetQueue w false hc
  refine ⟨v, by unfold iFlushPacketQueue; rw [h1]; rfl, h2.aborted.trans h.alive, ?_, ?_⟩
  · rw [h2.sent, h2.calls, List.append_assoc, h3, ← List.append_assoc]
    exact h.stream
  · rw [h4, h2.calls]
    exact h.cipher

theorem slip_breaks {n : Nat} (hw : w.sent.length + (w.outBuffer.length + (pending w.crypt w.packetQueue).length) = n)
    (hn : n + 4 ≠ (wire c w.calls).length) (hc : ¬ Cuttable w.space w.packetQueue) :
    ∀ v, w.iFlushPacketQueue.map Prod.fst = some v → ¬ InOrder c v := by
  intro v hv hin
  rcases flushQueue_slip w.packetQueue w false hc with h | ⟨v1, b, h1, h2, h3⟩
  · unfold iFlushPacketQueue at hv
    rw [h] at hv
    cases hv
  · unfold iFlushPacketQueue at hv
    rw [h1] at hv
    cases hv
    have := hin.length
    rw [h2.sent, h2.calls, h3] at this
    omega

theorem wire_one_length (c : AuthCrypt) (ps : List WorldPacket) (p : WorldPacket) :
    (wire c (ps ++ [p])).length = (wire c ps).length + p.header.length + p.contents.length := by
  rw [wire_append, List.length_append]
  simp only [wire, List.append_nil, List.length_append, AuthCrypt.encryptSend_length]
  omega

/-- **Queueing** a packet of which nothing was read, and flushing. -/
theorem InOrder.enqueue_iff {p : WorldPacket} (h : InOrder c w) :
    (∃ v, ({ w with calls := w.calls ++ [p] } : WorldSocket).enqueue p = some v ∧ InOrder c v) ↔
      p.rpos = 0 ∧ Cuttable w.space (w.packetQueue ++ [p]) := by
  let w1 : WorldSocket := { w with calls := w.calls ++ [p], packetQueue := w.packetQueue ++ [p] }
  have hlen := h.length
  have hwire := wire_one_length c w.calls p
  have hhead := header_length p
  have hrest := p.rest_length
  have hpend : (pending w.crypt (w.packetQueue ++ [p])).length = (pending w.crypt w.packetQueue).length +
      if p.rpos = 0 then p.header.length + p.contents.length else p.rest.length := by
    rw [pending_append, List.length_append]
    congr 1
    split
    · next hr => rw [pending_cons_length hr]; simp [pending]
    · next hr => simp [pending, hr]
  constructor
  · rintro ⟨v, hv, hin⟩
    have hv : w1.iFlushPacketQueue.map Prod.fst = some v := hv
    by_cases hc : Cuttable w.space (w.packetQueue ++ [p])
    · refine ⟨?_, hc⟩
      by_contra hr
      rw [if_neg hr] at hpend
      obtain ⟨v1, b, h1, h2, h3, _⟩ := flushQueue_spec w1.packetQueue w1 false hc
      unfold iFlushPacketQueue at hv
      rw [h1] at hv
      cases hv
      have hout := hin.length
      rw [← List.length_append, h3, h2.sent, h2.calls, List.length_append] at hout
      have hout : w.sent.length + (w.outBuffer.length + (pending w.crypt (w.packetQueue ++ [p])).length) =
        (wire c (w.calls ++ [p])).length := hout
      omega
    · refine absurd hin (slip_breaks (w := w1) rfl ?_ hc v hv)
      show w.sent.length + (w.outBuffer.length + (pending w.crypt (w.packetQueue ++ [p])).length) + 4 ≠
        (wire c (w.calls ++ [p])).length
      split at hpend <;> omega
  · rintro ⟨hr, hc⟩
    refine InOrder.flush (w := w1) ⟨h.alive, ?_, ?_⟩ hc
    · show w.sent ++ w.outBuffer ++ pending w.crypt (w.packetQueue ++ [p]) = wire c (w.calls ++ [p])
      rw [pending_append, wire_append, ← List.append_assoc, h.stream, h.cipher]
      simp [pending, wire, hr]
    · show cipherAfter w.crypt ((w.packetQueue ++ [p]).filter fun p => p.rpos = 0) = cipherAfter c (w.calls ++ [p])
      rw [List.filter_append, cipherAfter_append, cipherAfter_append, h.cipher]
      simp [hr]

theorem InOrder.sendPacket_iff {p : WorldPacket} (h : InOrder c w) :
    (∃ v, w.sendPacket p = some v ∧ InOrder c v) ↔ w.Heedful (.sendPacket p) := by
  unfold sendPacket Heedful
  by_cases hclose : w.closing = true
  · rw [if_pos hclose]
    exact ⟨fun _ => Or.inl hclose, fun _ => ⟨w, rfl, h⟩⟩
  rw [if_neg hclose]
  simp only
  by_cases hq : w.packetQueue = []
  · rw [if_neg (by simpa using hq)]
    by_cases hfit : p.size + p.header.length ≤ w.space
    · -- nothing waits and the packet fits
      rw [iSendPacket_some (w := { w with calls := w.calls ++ [p] }) hfit]
      refine ⟨fun _ => Or.inr (Or.inl ⟨hq, hfit⟩), fun _ => ⟨_, rfl, h.alive, ?_, ?_⟩⟩
      · have hs := h.stream
        have hcip := h.cipher
        rw [hq] at hs hcip
        have hs : w.sent ++ w.outBuffer = wire c w.calls := by simpa [pending] using hs
        have hcip : w.crypt = cipherAfter c w.calls := hcip
        show w.sent ++ (w.outBuffer ++ (w.crypt.encryptSend p.header).2 ++ p.contents) ++
          pending _ w.packetQueue = wire c (w.calls ++ [p])
        rw [wire_append, ← hs, ← hcip, hq]
        simp [pending, wire]
      · have hcip := h.cipher
        rw [hq] at hcip
        have hcip : w.crypt = cipherAfter c w.calls := hcip
        show cipherAfter (w.crypt.encryptSend p.header).1 (w.packetQueue.filter _) = cipherAfter c (w.calls ++ [p])
        rw [cipherAfter_append, ← hcip, hq]
        rfl
    · rw [iSendPacket_false (w := { w with calls := w.calls ++ [p] }) hfit]
      simp only
      rw [h.enqueue_iff]
      exact ⟨fun k => Or.inr (Or.inr k), fun k => k.resolve_left hclose |>.resolve_left fun k => hfit k.2⟩
  · rw [if_pos (by simpa using hq), h.enqueue_iff]
    exact ⟨fun k => Or.inr (Or.inr k), fun k => k.resolve_left hclose |>.resolve_left fun k => hq k.1⟩

theorem InOrder.handleOutput_iff {outcome : SendOutcome} (h : InOrder c w) (hidle : w.Idle) :
    (∃ v, w.handleOutput outcome = some v ∧ InOrder c v) ↔ w.Heedful (.handleOutput outcome) := by
  unfold handleOutput
  by_cases hclose : w.closing = true
  · rw [if_pos hclose]
    refine ⟨fun _ => ?_, fun _ => ⟨w, rfl, h⟩⟩
    cases outcome with
    | accepted n => exact Or.inl hclose
    | wouldBlock => trivial
    | error => trivial
  rw [if_neg hclose]
  by_cases hb : w.outBuffer = []
  · rw [if_pos hb, hidle h.alive (by simpa using hclose) hb]
    refine ⟨fun _ => ?_, fun _ => ⟨w, rfl, h⟩⟩
    cases outcome with
    | accepted n => exact Or.inr (Or.inl hb)
    | wouldBlock => trivial
    | error => trivial
  rw [if_neg hb]
  have hpos : 0 < w.outBuffer.length := List.length_pos_iff.2 hb
  have hclosed : InOrder c { w with closing := true } := ⟨h.alive, h.stream, h.cipher⟩
  unfold sendBuffer Heedful
  cases outcome with
  | wouldBlock => exact ⟨fun _ => trivial, fun _ => ⟨w, rfl, h⟩⟩
  | error => exact ⟨fun _ => trivial, fun _ => ⟨_, rfl, hclosed⟩⟩
  | accepted n =>
    simp only
    by_cases hn : min n w.outBuffer.length = 0
    · rw [if_pos hn]
      exact ⟨fun _ => Or.inr (Or.inr (Or.inl (by omega))), fun _ => ⟨_, rfl, hclosed⟩⟩
    rw [if_neg hn]
    have hmoved : ∀ m, InOrder c { w with sent := w.sent ++ w.outBuffer.take m, outBuffer := w.outBuffer.drop m } := by
      intro m
      refine ⟨h.alive, ?_, h.cipher⟩
      show w.sent ++ w.outBuffer.take m ++ w.outBuffer.drop m ++ _ = _
      rw [List.append_assoc w.sent, List.take_append_drop]
      exact h.stream
    by_cases hlt : min n w.outBuffer.length < w.outBuffer.length
    · rw [if_pos hlt]
      exact ⟨fun _ => Or.inr (Or.inr (Or.inl (by omega))), fun _ => ⟨_, rfl, hmoved _⟩⟩
    · -- the buffer is empty now and the queue is flushed
      rw [if_neg hlt]
      have hall : min n w.outBuffer.length = w.outBuffer.length := by omega
      rw [hall]
      have hin := hmoved w.outBuffer.length
      rw [List.take_length, List.drop_length] at hin ⊢
      have hspace : ({ w with sent := w.sent ++ w.outBuffer, outBuffer := [] } : WorldSocket).space =
        w.outBufferSize := rfl
      constructor
      · rintro ⟨v, hv, hvin⟩
        by_cases hc : Cuttable w.outBufferSize w.packetQueue
        · exact Or.inr (Or.inr (Or.inr hc))
        · refine absurd hvin (slip_breaks (c := c) rfl ?_ (hspace ▸ hc) v hv)
          rw [hin.length]
          omega
      · intro hh
        rcases hh with hh | hh | hh | hh
        · exact absurd hh hclose
        · exact absurd hh hb
        · omega
        · exact hin.flush (hspace ▸ hh)

/-- **Every call** keeps the law just if it is heedful. -/
theorem step_inOrder_iff (h : InOrder c w) (hidle : w.Idle) (e : OutEvent) :
    InOrder c (w.step e) ↔ w.Heedful e := by
  have hhandle : (∃ v, w.handle e = some v ∧ InOrder c v) ↔ w.Heedful e := by
    cases e with
    | sendPacket pct => exact h.sendPacket_iff
    | handleOutput outcome => exact h.handleOutput_iff hidle
  rw [← hhandle]
  unfold step
  rw [if_neg (by simp [h.alive])]
  cases hv : w.handle e with
  | none =>
    constructor
    · intro hin
      cases hin.alive
    · rintro ⟨v, hv, _⟩
      cases hv
  | some v =>
    constructor
    · intro hin
      exact ⟨v, rfl, hin⟩
    · rintro ⟨v1, h1, hin⟩
      rw [Option.some.inj h1]
      exact hin

end

theorem opened_inOrder (size : OutUBuff) (crypt : AuthCrypt) : InOrder crypt (opened size crypt) := ⟨rfl, rfl, rfl⟩

theorem opened_idle (size : OutUBuff) (crypt : AuthCrypt) : (opened size crypt).Idle := fun _ _ _ => rfl

/-- **The stream** of every run of calls, with any packets and any partial lengths, is in order after
each of them just if each call is heedful. -/
theorem stream_in_order (size : OutUBuff) (crypt : AuthCrypt) (es : List OutEvent) :
    Transition.Along step (fun w e => InOrder crypt (w.step e)) (opened size crypt) es ↔
      Transition.Along step Heedful (opened size crypt) es :=
  Transition.along_iff (J := Idle) (I := InOrder crypt) step_idle (fun _ _ _ h => h)
    (fun _ e hidle h => step_inOrder_iff h hidle e) (opened_idle size crypt) (opened_inOrder size crypt)

/-! ## The header written twice -/

theorem step_direct {w : WorldSocket} {p : WorldPacket} (ha : w.aborted = false) (hc : w.closing = false)
    (hq : w.packetQueue = []) (hfit : p.size + p.header.length ≤ w.space) :
    w.step (.sendPacket p) =
      { w.withHeader p with outBuffer := (w.withHeader p).outBuffer ++ p.contents, calls := w.calls ++ [p] } := by
  have h1 := iSendPacket_some (w := { w with calls := w.calls ++ [p] }) hfit
  have hsend : w.sendPacket p = some { w.withHeader p with
      outBuffer := (w.withHeader p).outBuffer ++ p.contents, calls := w.calls ++ [p] } := by
    unfold sendPacket
    rw [if_neg (by simp [hc])]
    simp only
    rw [if_neg (by simpa using hq), h1]
    rfl
  unfold step
  rw [if_neg (by simp [ha])]
  show (w.sendPacket p).getD _ = _
  rw [hsend]
  rfl

/-- Where the header of a small packet alone fits it is written, and the packet is queued as it was. -/
theorem step_header_alone {w : WorldSocket} {p : WorldPacket} (ha : w.aborted = false) (hc : w.closing = false)
    (hq : w.packetQueue = []) (hr : p.rpos = 0) (hsmall : p.size ≤ 1024) (hne : p.contents ≠ [])
    (hspace : w.space = p.header.length) :
    w.step (.sendPacket p) = { w.withHeader p with packetQueue := [p], calls := w.calls ++ [p] } := by
  have hsize : 0 < p.size := List.length_pos_iff.2 hne
  let w1 : WorldSocket := { w with calls := w.calls ++ [p], packetQueue := w.packetQueue ++ [p] }
  have hspace1 : w1.space = p.header.length := hspace
  obtain ⟨hle, hcut⟩ := partial_cut (w := w1) hr (by omega) (by omega) (by omega)
  have hskip : p.readSkip (w1.space - p.header.length) hle = p := by
    have hzero : w1.space - p.header.length = 0 := by omega
    unfold WorldPacket.readSkip
    simp only [hzero, Nat.add_zero]
  have hflush : w1.iFlushPacketQueue = some ({ w1.withHeader p with packetQueue := [p] }, true) := by
    unfold iFlushPacketQueue
    show w1.flushQueue false (w.packetQueue ++ [p]) = _
    rw [hq]
    show w1.flushQueue false [p] = _
    unfold flushQueue
    rw [hcut]
    simp only [hskip]
    rw [show w1.space - p.header.length = 0 by omega, List.take_zero, List.append_nil]
  have h1 := iSendPacket_false (w := { w with calls := w.calls ++ [p] }) (p := p) (by
    show ¬ p.size + p.header.length ≤ w.space
    omega)
  have hsend : w.sendPacket p = some { w.withHeader p with packetQueue := [p], calls := w.calls ++ [p] } := by
    unfold sendPacket
    rw [if_neg (by simp [hc])]
    simp only
    rw [if_neg (by simpa using hq), h1]
    show w1.iFlushPacketQueue.map Prod.fst = _
    rw [hflush]
    rfl
  unfold step
  rw [if_neg (by simp [ha])]
  show (w.sendPacket p).getD _ = _
  rw [hsend]
  rfl

/-- A packet that leaves room for a header in a buffer of 65536 bytes. -/
def fillingPacket : WorldPacket := { opcode := 1, contents := List.replicate 65527 0, rpos_le := Nat.zero_le _ }

def smallPacket : WorldPacket := { opcode := 2, contents := [7] }

theorem filling_size {p : WorldPacket} (h : p.contents.length = 65527) : p.size + p.header.length = 65532 := by
  have hsize : p.size = 65527 := h
  unfold WorldPacket.header
  rw [hsize]
  rfl

theorem filled (p : WorldPacket) (hp : p.size + p.header.length = 65532) :
    Transition.run step (opened ⟨65536, by decide⟩ {}) [.sendPacket p, .sendPacket smallPacket] =
      { crypt := {}, outBufferSize := ⟨65536, by decide⟩, outBuffer := p.header ++ p.contents ++ smallPacket.header,
        packetQueue := [smallPacket], calls := [p, smallPacket] } := by
  have hopen : (opened ⟨65536, by decide⟩ {}).space = 65536 := rfl
  have h1 := step_direct (w := opened ⟨65536, by decide⟩ {}) (p := p) rfl rfl rfl (by rw [hopen]; omega)
  show step (step _ _) _ = _
  rw [h1, step_header_alone rfl rfl rfl rfl (by decide) (by decide) ?_]
  · rfl
  · show 65536 - ([] ++ p.header ++ p.contents).length = 4
    unfold WorldPacket.size at hp
    rw [List.nil_append, List.length_append]
    omega

theorem filled_twice {p : WorldPacket} (hp : p.size + p.header.length = 65532) :
    ∃ w, Transition.run step (opened ⟨65536, by decide⟩ {}) [.sendPacket p, .sendPacket smallPacket] = w ∧
      w.outBuffer = p.header ++ p.contents ++ smallPacket.header ∧ w.packetQueue = [smallPacket] ∧
      ¬ InOrder {} w := by
  refine ⟨_, filled p hp, rfl, rfl, fun hin => ?_⟩
  have := hin.length
  simp only [wire, List.length_append, List.length_nil, AuthCrypt.encryptSend_length] at this
  rw [pending_cons_length rfl] at this
  simp only [pending, List.length_nil] at this
  have h4 : smallPacket.header.length = 4 := rfl
  omega

/-- **A header that is written twice**: with an output buffer of 65536 bytes the header of the second
packet fills it, and the packet is queued again as if it had none. -/
theorem header_twice :
    ∃ w, Transition.run step (opened ⟨65536, by decide⟩ {})
        [.sendPacket fillingPacket, .sendPacket smallPacket] = w ∧
      w.outBuffer = fillingPacket.header ++ fillingPacket.contents ++ smallPacket.header ∧
      w.packetQueue = [smallPacket] ∧ ¬ InOrder {} w :=
  filled_twice (filling_size List.length_replicate)

end WorldSocket

end BlizzLike
