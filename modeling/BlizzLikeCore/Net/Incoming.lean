import BlizzLikeCore.Net.AuthCrypt
import BlizzLikeCore.Net.Outgoing

/-!
# Incoming packets

`WorldSocket` takes what `recv` gives it in chunks, fills its header buffer, decrypts the header
when it is complete, fills the payload, and gives the packet to `ProcessIncoming`.  However the
stream is cut, the packets are those of its parse as a whole (`Parses`, `input_parsed`).

`ProcessIncoming` and the session behind it are an argument: they may change the session and set up
the cipher, and refuse the packet.
-/

namespace BlizzLike

/-- `ClientPktHeader` after its bytes are put in order, and the checks of `handle_input_header`: the
opcode and the size of the payload, `none` when the header is malformed. -/
def clientPktHeader : List UInt8 → Option (Nat × Nat)
  | [s1, s0, c0, c1, c2, c3] =>
    let size := s1.toNat * 256 + s0.toNat
    let cmd := c0.toNat + c1.toNat * 256 + c2.toNat * 65536 + c3.toNat * 16777216
    if size < 4 ∨ size > 10240 ∨ cmd > 10240 then none else some (cmd, size - 4)
  | _ => none

def clientHeaderSize : Nat := 6

/-- `m_RecvWPct` with what `m_RecvPct` has copied to its storage. -/
structure RecvPacket where
  opcode : Nat
  size : Nat
  got : List UInt8 := []

/-- The receiving side of `WorldSocket`.  `delivered` are the packets `ProcessIncoming` was given, and
`closing` is set when an error was returned. -/
structure Receiver (σ : Type*) where
  crypt : AuthCrypt
  session : σ
  header : List UInt8 := []
  recvPct : Option RecvPacket := none
  delivered : List WorldPacket := []
  closing : Bool := false

/-- `ProcessIncoming`: the session and the cipher after it, and if it returns without an error. -/
abbrev Processor (σ : Type*) := σ → AuthCrypt → WorldPacket → σ × AuthCrypt × Bool

namespace Receiver

variable {σ : Type*} (process : Processor σ) (s : Receiver σ)

/-- `m_RecvPct.space()`. -/
def payloadSpace : Nat := (s.recvPct.map fun p => p.size - p.got.length).getD 0

def closed : Receiver σ := { s with closing := true }

/-- `handle_input_header`; `none` when the header is malformed. -/
def handleInputHeader : Receiver σ × Bool :=
  let r := s.crypt.decryptRecv s.header
  let s1 := { s with crypt := r.1, header := r.2 }
  match clientPktHeader r.2 with
  | none => (s1, false)
  | some (opcode, size) => ({ s1 with recvPct := some { opcode := opcode, size := size } }, true)

def handleInputPayload (p : RecvPacket) : Receiver σ × Bool :=
  let pct : WorldPacket := { opcode := p.opcode, contents := p.got, rpos_le := Nat.zero_le _ }
  let r := process s.session s.crypt pct
  ({ s with session := r.1, crypt := r.2.1, header := [], recvPct := none, delivered := s.delivered ++ [pct] }, r.2.2)

/-- How a turn of the loop ends: in the next turn, in the return with `EWOULDBLOCK`, in an error. -/
inductive Turn (σ : Type*) where
  | next (s : Receiver σ) (message : List UInt8)
  | wouldBlock (s : Receiver σ)
  | error (s : Receiver σ)

/-- A turn from where the header is complete. -/
def payloadTurn (message : List UInt8) : Turn σ :=
  match s.recvPct with
  | none => .error s
  | some p =>
    let toData := min message.length s.payloadSpace
    let p1 := { p with got := p.got ++ message.take toData }
    let s1 := { s with recvPct := some p1 }
    if s1.payloadSpace > 0 then .wouldBlock s1
    else
      match s1.handleInputPayload process p1 with
      | (s2, true) => .next s2 (message.drop toData)
      | (s2, false) => .error s2

/-- A turn of the loop of `handle_input_missing_data`. -/
def turn (message : List UInt8) : Turn σ :=
  if s.header.length < clientHeaderSize then
    let toHeader := min message.length (clientHeaderSize - s.header.length)
    let s1 := { s with header := s.header ++ message.take toHeader }
    if s1.header.length < clientHeaderSize then .wouldBlock s1
    else
      match s1.handleInputHeader with
      | (s2, false) => .error s2
      | (s2, true) => s2.payloadTurn process (message.drop toHeader)
  else s.payloadTurn process message

theorem payloadTurn_next {message rest : List UInt8} {s' : Receiver σ}
    (h : s.payloadTurn process message = .next s' rest) : s'.header = [] ∧ rest.length ≤ message.length := by
  unfold payloadTurn at h
  split at h
  · cases h
  simp only at h
  split at h
  · cases h
  · split at h
    · next h1 =>
      cases h
      refine ⟨?_, by rw [List.length_drop]; omega⟩
      have := congrArg (fun r => Receiver.header r.1) h1
      exact this.symm
    · cases h

/-- Every turn takes bytes of the message, or ends a packet whose header it did not read. -/
theorem turn_next {message rest : List UInt8} {s' : Receiver σ} (hm : message ≠ [])
    (h : s.turn process message = .next s' rest) :
    2 * rest.length + (if s'.header.length < clientHeaderSize then 0 else 1) <
      2 * message.length + (if s.header.length < clientHeaderSize then 0 else 1) := by
  have hpos : 0 < message.length := List.length_pos_iff.2 hm
  unfold turn at h
  split at h
  · next hlt =>
    simp only at h
    split at h
    · cases h
    · split at h
      · cases h
      · obtain ⟨h1, h2⟩ := payloadTurn_next process _ h
        rw [List.length_drop] at h2
        rw [h1, if_pos hlt, if_pos (by decide)]
        omega
  · next hge =>
    obtain ⟨h1, h2⟩ := payloadTurn_next process _ h
    rw [h1, if_neg hge, if_pos (by decide)]
    omega

/-- The loop of `handle_input_missing_data`. -/
def loop (s : Receiver σ) (message : List UInt8) : Receiver σ :=
  if _hm : message = [] then s
  else
    match _h : s.turn process message with
    | .next s' rest => loop s' rest
    | .wouldBlock s' => s'
    | .error s' => s'.closed
termination_by 2 * message.length + if s.header.length < clientHeaderSize then 0 else 1
decreasing_by exact turn_next process s _hm _h

/-- `handle_input` with a chunk from `recv`; an empty one tells that the peer has closed. -/
def handleInput (s : Receiver σ) (chunk : List UInt8) : Receiver σ :=
  if s.closing then s else if chunk = [] then s.closed else s.loop process chunk

/-- The chunks `recv` gives one after the other. -/
def receive (s : Receiver σ) (chunks : List (List UInt8)) : Receiver σ := chunks.foldl (handleInput process) s

/-- After `open`. -/
def opened (crypt : AuthCrypt) (session : σ) : Receiver σ := { crypt := crypt, session := session }

end Receiver

/-! ## The stream as a whole -/

/-- What the stream from a header on is parsed to: the packets given to `ProcessIncoming`, and if the
parse ends in an error.  Every header is decrypted once, with the cipher the one before left. -/
inductive Parses {σ : Type*} (process : Processor σ) :
    σ → AuthCrypt → List UInt8 → List WorldPacket → Bool → Prop
  | inHeader {session : σ} {crypt : AuthCrypt} {raw : List UInt8} (hraw : raw.length < clientHeaderSize) :
      Parses process session crypt raw [] false
  | malformed {session : σ} {crypt : AuthCrypt} {raw rest : List UInt8} (hraw : raw.length = clientHeaderSize)
      (hheader : clientPktHeader (crypt.decryptRecv raw).2 = none) :
      Parses process session crypt (raw ++ rest) [] true
  | inPayload {session : σ} {crypt : AuthCrypt} {raw got : List UInt8} {opcode size : Nat}
      (hraw : raw.length = clientHeaderSize)
      (hheader : clientPktHeader (crypt.decryptRecv raw).2 = some (opcode, size)) (hgot : got.length < size) :
      Parses process session crypt (raw ++ got) [] false
  | refused {session : σ} {crypt : AuthCrypt} {raw payload rest : List UInt8} {opcode size : Nat} {pct : WorldPacket}
      (hraw : raw.length = clientHeaderSize)
      (hheader : clientPktHeader (crypt.decryptRecv raw).2 = some (opcode, size)) (hsize : payload.length = size)
      (hpct : pct.opcode = opcode ∧ pct.contents = payload ∧ pct.rpos = 0)
      (hprocess : (process session (crypt.decryptRecv raw).1 pct).2.2 = false) :
      Parses process session crypt (raw ++ payload ++ rest) [pct] true
  | packet {session session' : σ} {crypt crypt' : AuthCrypt} {raw payload rest : List UInt8} {opcode size : Nat}
      {pct : WorldPacket} {pcts : List WorldPacket} {failed : Bool} (hraw : raw.length = clientHeaderSize)
      (hheader : clientPktHeader (crypt.decryptRecv raw).2 = some (opcode, size)) (hsize : payload.length = size)
      (hpct : pct.opcode = opcode ∧ pct.contents = payload ∧ pct.rpos = 0)
      (hprocess : process session (crypt.decryptRecv raw).1 pct = (session', crypt', true))
      (hrest : Parses process session' crypt' rest pcts failed) :
      Parses process session crypt (raw ++ payload ++ rest) (pct :: pcts) failed

namespace Receiver

section
variable {σ : Type*} {process : Processor σ} {s : Receiver σ}

/-- Between two calls of `handle_input` the header is incomplete, or else the payload is. -/
def Ready (s : Receiver σ) : Prop :=
  s.header.length < clientHeaderSize ∧ s.recvPct = none ∨
    s.header.length = clientHeaderSize ∧ ∃ p, s.recvPct = some p ∧ p.got.length < p.size

theorem loop_nil (s : Receiver σ) : s.loop process [] = s := by
  unfold loop
  rw [dif_pos rfl]

/-- What follows on a turn. -/
def finish (process : Processor σ) : Turn σ → Receiver σ
  | .next s' rest => s'.loop process rest
  | .wouldBlock s' => s'
  | .error s' => s'.closed

theorem loop_of_turn {message : List UInt8} (hm : message ≠ []) :
    s.loop process message = finish process (s.turn process message) := by
  rw [loop, dif_neg hm]
  unfold finish
  split <;> rename_i h <;> rw [h]

theorem handleInput_loop {chunk : List UInt8} (hc : s.closing = false) (hm : chunk ≠ []) :
    s.handleInput process chunk = s.loop process chunk := by
  unfold handleInput
  rw [if_neg (by simp [hc]), if_neg hm]

theorem handleInput_closing {chunk : List UInt8} (hc : s.closing = true) : s.handleInput process chunk = s :=
  if_pos hc

/-! ### Turns -/

theorem turn_in_header {message : List UInt8} (h : s.header.length + message.length < clientHeaderSize) :
    s.turn process message = .wouldBlock { s with header := s.header ++ message } := by
  unfold turn
  rw [if_pos (by omega)]
  simp only
  rw [show min message.length (clientHeaderSize - s.header.length) = message.length by omega, List.take_length,
    if_pos (by rw [List.length_append]; exact h)]

theorem turn_header {first rest : List UInt8} (hs : s.header.length < clientHeaderSize)
    (h : s.header.length + first.length = clientHeaderSize) :
    s.turn process (first ++ rest) =
      match ({ s with header := s.header ++ first } : Receiver σ).handleInputHeader with
      | (s2, false) => .error s2
      | (s2, true) => s2.payloadTurn process rest := by
  unfold turn
  rw [if_pos hs]
  simp only
  rw [show min (first ++ rest).length (clientHeaderSize - s.header.length) = first.length by
      rw [List.length_append]; omega,
    List.take_left', List.drop_left', if_neg (by rw [List.length_append]; omega)] <;> rfl

theorem turn_payload (hs : s.header.length = clientHeaderSize) (message : List UInt8) :
    s.turn process message = s.payloadTurn process message := if_neg (by omega)

theorem payloadTurn_in {p : RecvPacket} {message : List UInt8} (hp : s.recvPct = some p)
    (h : p.got.length + message.length < p.size) :
    s.payloadTurn process message =
      .wouldBlock { s with recvPct := some { p with got := p.got ++ message } } := by
  unfold payloadTurn payloadSpace
  simp only [hp, Option.map_some, Option.getD_some]
  rw [show min message.length (p.size - p.got.length) = message.length by omega, List.take_length,
    if_pos (by rw [List.length_append]; omega)]

theorem payloadTurn_done {p : RecvPacket} {first rest : List UInt8} (hp : s.recvPct = some p)
    (h : p.got.length + first.length = p.size) :
    s.payloadTurn process (first ++ rest) =
      match ({ s with recvPct := some { p with got := p.got ++ first } } : Receiver σ).handleInputPayload process
          { p with got := p.got ++ first } with
      | (s2, true) => .next s2 rest
      | (s2, false) => .error s2 := by
  unfold payloadTurn payloadSpace
  simp only [hp, Option.map_some, Option.getD_some]
  rw [show min (first ++ rest).length (p.size - p.got.length) = first.length by rw [List.length_append]; omega,
    List.take_left', List.drop_left', if_neg (by rw [List.length_append]; omega)] <;> rfl

theorem handleInputHeader_spec (s : Receiver σ) :
    s.handleInputHeader =
      (match clientPktHeader (s.crypt.decryptRecv s.header).2 with
        | none => ({ s with crypt := (s.crypt.decryptRecv s.header).1, header := (s.crypt.decryptRecv s.header).2 }, false)
        | some (opcode, size) =>
          ({ s with crypt := (s.crypt.decryptRecv s.header).1, header := (s.crypt.decryptRecv s.header).2,
                    recvPct := some { opcode := opcode, size := size } }, true)) := rfl

theorem handleInputHeader_true {s2 : Receiver σ} (h : s.handleInputHeader = (s2, true)) :
    s2.closing = s.closing ∧ s2.header.length = s.header.length ∧
      ∃ p, s2.recvPct = some p ∧ p.got = [] := by
  rw [handleInputHeader_spec] at h
  split at h
  · cases (Prod.mk.inj h).2
  · cases h
    exact ⟨rfl, AuthCrypt.decryptRecv_length _ _, _, rfl, rfl⟩

/-! ### A chunk that is cut -/

theorem payload_cut {p : RecvPacket} {first rest : List UInt8} (hc : s.closing = false)
    (hs : s.header.length = clientHeaderSize) (hp : s.recvPct = some p)
    (hle : p.got.length + first.length ≤ p.size) (hrest : rest ≠ []) :
    finish process (s.payloadTurn process (first ++ rest)) =
      (finish process (s.payloadTurn process first)).handleInput process rest := by
  rcases Nat.lt_or_eq_of_le hle with hlt | heq
  · -- it stays incomplete: the next turn goes on with it
    let s1 : Receiver σ := { s with recvPct := some { p with got := p.got ++ first } }
    rw [payloadTurn_in hp hlt]
    show _ = s1.handleInput process rest
    rw [handleInput_loop (s := s1) hc hrest, loop_of_turn hrest, turn_payload (s := s1) hs]
    congr 1
    have hlen : (p.got ++ first).length = p.got.length + first.length := List.length_append
    by_cases hin : p.got.length + first.length + rest.length < p.size
    · rw [payloadTurn_in hp (by rw [List.length_append]; omega),
        payloadTurn_in (s := s1) (p := { p with got := p.got ++ first }) rfl (by simp only [hlen]; omega)]
      simp only [s1, List.append_assoc]
    · obtain ⟨r1, r2, rfl, hr1⟩ : ∃ r1 r2, rest = r1 ++ r2 ∧ r1.length = p.size - (p.got.length + first.length) :=
        ⟨rest.take (p.size - (p.got.length + first.length)), rest.drop _, (List.take_append_drop _ _).symm,
          by rw [List.length_take]; omega⟩
      rw [← List.append_assoc, payloadTurn_done hp (by rw [List.length_append]; omega),
        payloadTurn_done (s := s1) (p := { p with got := p.got ++ first }) rfl (by simp only [hlen]; omega)]
      simp only [s1, List.append_assoc]
  · have h1 := @payloadTurn_done _ process _ _ _ rest hp heq
    have h2 := @payloadTurn_done _ process _ _ _ [] hp heq
    rw [List.append_nil] at h2
    rw [h1, h2]
    split
    · next s2 h =>
      have hc2 : s2.closing = false := by
        have := congrArg (fun r => Receiver.closing r.1) h
        exact this.symm.trans hc
      show s2.loop process rest = (s2.loop process []).handleInput process rest
      rw [loop_nil, handleInput_loop hc2 hrest]
    · exact (handleInput_closing rfl).symm

/-- **One byte first**: a chunk of more has the same effect in two. -/
theorem handleInput_cons {bs : List UInt8} (hc : s.closing = false) (hr : s.Ready) (b : UInt8) (hbs : bs ≠ []) :
    s.handleInput process (b :: bs) = (s.handleInput process [b]).handleInput process bs := by
  rw [handleInput_loop hc (List.cons_ne_nil _ _), handleInput_loop hc (List.cons_ne_nil _ _),
    loop_of_turn (List.cons_ne_nil _ _), loop_of_turn (List.cons_ne_nil _ _)]
  rcases hr with ⟨hs, hp⟩ | ⟨hs, p, hp, hlt⟩
  · by_cases hone : s.header.length + 1 < clientHeaderSize
    · -- the header stays incomplete
      let s1 : Receiver σ := { s with header := s.header ++ [b] }
      have hlen : s1.header.length = s.header.length + 1 := List.length_append
      rw [@turn_in_header _ process _ [b] hone]
      show _ = s1.handleInput process bs
      rw [handleInput_loop (s := s1) hc hbs, loop_of_turn hbs]
      congr 1
      by_cases hin : s.header.length + 1 + bs.length < clientHeaderSize
      · rw [turn_in_header (by rw [List.length_cons]; omega), turn_in_header (by omega)]
        simp only [s1, List.append_assoc, List.singleton_append]
      · obtain ⟨r1, r2, rfl, hr1⟩ : ∃ r1 r2, bs = r1 ++ r2 ∧ r1.length = clientHeaderSize - (s.header.length + 1) :=
          ⟨bs.take (clientHeaderSize - (s.header.length + 1)), bs.drop _, (List.take_append_drop _ _).symm,
            by rw [List.length_take]; omega⟩
        rw [← List.cons_append, turn_header hs (by rw [List.length_cons]; omega),
          turn_header (by omega) (by omega)]
        simp only [s1, List.append_assoc, List.singleton_append]
    · have h1 := @turn_header _ process _ [b] bs hs (by rw [List.length_singleton]; omega)
      have h2 := @turn_header _ process _ [b] [] hs (by rw [List.length_singleton]; omega)
      rw [List.append_nil] at h2
      rw [List.singleton_append] at h1
      rw [h1, h2]
      split
      · exact (handleInput_closing rfl).symm
      · next s2 h =>
        obtain ⟨k1, k2, p, k3, k4⟩ := handleInputHeader_true h
        have hlen : s2.header.length = clientHeaderSize := by
          rw [k2, List.length_append, List.length_singleton]
          omega
        exact @payload_cut _ process _ _ [] _ (k1.trans hc) hlen k3 (by rw [k4]; exact Nat.zero_le _) hbs
  · have := @payload_cut _ process _ _ [b] _ hc hs hp (by rw [List.length_singleton]; omega) hbs
    rw [turn_payload hs, turn_payload hs]
    exact this

theorem payload_ready {p : RecvPacket} {first : List UInt8} (hs : s.header.length = clientHeaderSize)
    (hp : s.recvPct = some p) (hle : p.got.length + first.length ≤ p.size) :
    (finish process (s.payloadTurn process first)).closing = true ∨
      (finish process (s.payloadTurn process first)).Ready := by
  rcases Nat.lt_or_eq_of_le hle with hlt | heq
  · rw [payloadTurn_in hp hlt]
    exact Or.inr (Or.inr ⟨hs, _, rfl, by rw [List.length_append]; exact hlt⟩)
  · have h := @payloadTurn_done _ process _ _ _ [] hp heq
    rw [List.append_nil] at h
    rw [h]
    split
    · next s2 h2 =>
      have k1 := congrArg (fun r => Receiver.header r.1) h2
      have k2 := congrArg (fun r => Receiver.recvPct r.1) h2
      show (s2.loop process []).closing = true ∨ (s2.loop process []).Ready
      rw [loop_nil]
      refine Or.inr (Or.inl ⟨?_, k2.symm⟩)
      rw [show s2.header = [] from k1.symm]
      decide
    · exact Or.inl rfl

theorem handleInput_ready (hc : s.closing = false) (hr : s.Ready) (b : UInt8) :
    (s.handleInput process [b]).closing = true ∨ (s.handleInput process [b]).Ready := by
  rw [handleInput_loop hc (List.cons_ne_nil _ _), loop_of_turn (List.cons_ne_nil _ _)]
  rcases hr with ⟨hs, hp⟩ | ⟨hs, p, hp, hlt⟩
  · by_cases hone : s.header.length + 1 < clientHeaderSize
    · rw [@turn_in_header _ process _ [b] hone]
      refine Or.inr (Or.inl ⟨?_, hp⟩)
      show (s.header ++ [b]).length < clientHeaderSize
      rw [List.length_append]
      exact hone
    · have h := @turn_header _ process _ [b] [] hs (by rw [List.length_singleton]; omega)
      rw [List.append_nil] at h
      rw [h]
      split
      · exact Or.inl rfl
      · next s2 h2 =>
        obtain ⟨_, k2, p, k3, k4⟩ := handleInputHeader_true h2
        refine payload_ready ?_ k3 (by rw [k4]; exact Nat.zero_le _)
        rw [k2, List.length_append, List.length_singleton]
        omega
  · rw [turn_payload hs]
    exact payload_ready hs hp (by rw [List.length_singleton]; omega)

/-- **Byte by byte**: a chunk has the effect of its bytes one after the other. -/
theorem handleInput_bytes (chunk : List UInt8) (s : Receiver σ) (hs : s.closing = true ∨ s.Ready) (hm : chunk ≠ []) :
    s.handleInput process chunk = chunk.foldl (fun s b => s.handleInput process [b]) s := by
  induction chunk generalizing s with
  | nil => exact absurd rfl hm
  | cons b bs ih =>
    by_cases hbs : bs = []
    · rw [hbs]
      rfl
    rw [List.foldl_cons]
    cases hc : s.closing with
    | true =>
      rw [handleInput_closing hc, handleInput_closing hc, ← ih s (Or.inl hc) hbs, handleInput_closing hc]
    | false =>
      have hr : s.Ready := hs.resolve_left (by simp [hc])
      rw [handleInput_cons hc hr b hbs]
      exact ih _ (handleInput_ready hc hr b) hbs

theorem bytes_ready (bs : List UInt8) (s : Receiver σ) (hs : s.closing = true ∨ s.Ready) :
    (bs.foldl (fun s b => s.handleInput process [b]) s).closing = true ∨
      (bs.foldl (fun s b => s.handleInput process [b]) s).Ready := by
  induction bs generalizing s with
  | nil => exact hs
  | cons b bs ih =>
    refine ih _ ?_
    show (s.handleInput process [b]).closing = true ∨ (s.handleInput process [b]).Ready
    cases hc : s.closing with
    | true =>
      rw [handleInput_closing hc]
      exact Or.inl hc
    | false => exact handleInput_ready hc (hs.resolve_left (by simp [hc])) b

theorem receive_bytes (chunks : List (List UInt8)) (s : Receiver σ) (hs : s.closing = true ∨ s.Ready)
    (hm : ∀ c ∈ chunks, c ≠ []) :
    s.receive process chunks = chunks.flatten.foldl (fun s b => s.handleInput process [b]) s := by
  induction chunks generalizing s with
  | nil => rfl
  | cons c cs ih =>
    unfold receive
    rw [List.foldl_cons, List.flatten_cons, List.foldl_append,
      ← handleInput_bytes c s hs (hm c List.mem_cons_self)]
    refine ih _ ?_ fun c' hc' => hm c' (List.mem_cons_of_mem _ hc')
    rw [handleInput_bytes c s hs (hm c List.mem_cons_self)]
    exact bytes_ready c s hs

/-! ### The parse -/

/-- **The loop parses**: from the start of a header on. -/
theorem loop_parses (n : Nat) : ∀ (s : Receiver σ) (stream : List UInt8), stream.length ≤ n → s.closing = false →
    s.header = [] → ∃ pcts, (s.loop process stream).delivered = s.delivered ++ pcts ∧
      Parses process s.session s.crypt stream pcts (s.loop process stream).closing := by
  induction n with
  | zero =>
    intro s stream hn hc _
    rw [List.length_eq_zero_iff.1 (Nat.le_zero.1 hn), loop_nil, hc]
    exact ⟨[], (List.append_nil _).symm, .inHeader (by decide)⟩
  | succ n ih =>
    intro s stream hn hc hs
    by_cases hnil : stream = []
    · rw [hnil, loop_nil, hc]
      exact ⟨[], (List.append_nil _).symm, .inHeader (by decide)⟩
    have hs0 : s.header.length = 0 := by rw [hs]; rfl
    rw [loop_of_turn hnil]
    by_cases hin : stream.length < clientHeaderSize
    · rw [turn_in_header (by omega)]
      refine ⟨[], (List.append_nil _).symm, ?_⟩
      show Parses process s.session s.crypt stream [] s.closing
      rw [hc]
      exact .inHeader hin
    obtain ⟨raw, rest, rfl, hraw⟩ : ∃ raw rest, stream = raw ++ rest ∧ raw.length = clientHeaderSize :=
      ⟨stream.take clientHeaderSize, stream.drop _, (List.take_append_drop _ _).symm, by rw [List.length_take]; omega⟩
    rw [turn_header (by rw [hs0]; decide) (by omega), handleInputHeader_spec]
    simp only [hs, List.nil_append]
    cases hheader : clientPktHeader (s.crypt.decryptRecv raw).2 with
    | none => exact ⟨[], (List.append_nil _).symm, .malformed hraw hheader⟩
    | some h =>
      obtain ⟨opcode, size⟩ := h
      simp only
      by_cases hgot : rest.length < size
      · rw [payloadTurn_in rfl (by simpa using hgot)]
        refine ⟨[], (List.append_nil _).symm, ?_⟩
        show Parses process s.session s.crypt (raw ++ rest) [] s.closing
        rw [hc]
        exact .inPayload hraw hheader hgot
      obtain ⟨payload, rest, rfl, hsize⟩ : ∃ payload rest', rest = payload ++ rest' ∧ payload.length = size :=
        ⟨rest.take size, rest.drop _, (List.take_append_drop _ _).symm, by rw [List.length_take]; omega⟩
      rw [payloadTurn_done rfl (by simpa using hsize)]
      unfold handleInputPayload
      simp only [List.nil_append]
      rw [← List.append_assoc]
      let pct : WorldPacket := { opcode := opcode, contents := payload, rpos_le := Nat.zero_le _ }
      cases hprocess : (process s.session (s.crypt.decryptRecv raw).1 pct).2.2 with
      | false => exact ⟨[pct], rfl, .refused hraw hheader hsize ⟨rfl, rfl, rfl⟩ hprocess⟩
      | true =>
        have hpos : 0 < clientHeaderSize := by decide
        rw [List.length_append, List.length_append] at hn
        obtain ⟨pcts, h1, h2⟩ := ih
          { s with
            session := (process s.session (s.crypt.decryptRecv raw).1 pct).1
            crypt := (process s.session (s.crypt.decryptRecv raw).1 pct).2.1
            header := [], recvPct := none, delivered := s.delivered ++ [pct] } rest (by omega) hc rfl
        refine ⟨pct :: pcts, ?_, .packet hraw hheader hsize ⟨rfl, rfl, rfl⟩ (Prod.ext rfl (Prod.ext rfl hprocess)) h2⟩
        refine h1.trans ?_
        simp only [List.append_assoc, List.singleton_append]

end

/-- **Every cut of a stream** into chunks leads to the parse of the whole: the packets that are
delivered and whether it failed are those of the parse, and every other cut leads to the same
state. -/
theorem input_parsed {σ : Type*} (process : Processor σ) (crypt : AuthCrypt) (session : σ)
    (chunks : List (List UInt8)) (h : ∀ c ∈ chunks, c ≠ []) :
    Parses process session crypt chunks.flatten ((opened crypt session).receive process chunks).delivered
        ((opened crypt session).receive process chunks).closing ∧
      ∀ chunks' : List (List UInt8), (∀ c ∈ chunks', c ≠ []) → chunks'.flatten = chunks.flatten →
        (opened crypt session).receive process chunks' = (opened crypt session).receive process chunks := by
  have hready : (opened crypt session).closing = true ∨ (opened crypt session).Ready :=
    Or.inr (Or.inl ⟨by show 0 < 6; decide, rfl⟩)
  constructor
  · obtain ⟨pcts, h1, h2⟩ := @loop_parses _ process chunks.flatten.length (opened crypt session)
      chunks.flatten (Nat.le_refl _) rfl rfl
    have hloop : (opened crypt session).receive process chunks = (opened crypt session).loop process chunks.flatten := by
      rw [receive_bytes chunks _ hready h]
      by_cases hnil : chunks.flatten = []
      · rw [hnil, loop_nil]
        rfl
      · rw [← handleInput_bytes _ _ hready hnil, handleInput_loop rfl hnil]
    rw [hloop, h1]
    exact h2
  · intro chunks' h' heq
    rw [receive_bytes chunks _ hready h, receive_bytes chunks' _ hready h', heq]

/-- A packet without a payload, cut in its header, and one with a byte. -/
theorem input_parsed_sample :
    Parses (fun (_ : Unit) c _ => ((), c, true)) () {} [0, 4, 1, 0, 0, 0, 0, 5, 2, 0, 0, 0, 9]
        ((opened {} ()).receive (fun _ c _ => ((), c, true)) [[0, 4, 1], [0, 0, 0, 0, 5, 2, 0, 0, 0, 9]]).delivered
        ((opened {} ()).receive (fun _ c _ => ((), c, true)) [[0, 4, 1], [0, 0, 0, 0, 5, 2, 0, 0, 0, 9]]).closing :=
  (input_parsed (fun _ c _ => ((), c, true)) {} () [[0, 4, 1], [0, 0, 0, 0, 5, 2, 0, 0, 0, 9]] (by decide)).1

end Receiver

end BlizzLike
