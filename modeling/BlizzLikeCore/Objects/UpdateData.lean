import BlizzLikeCore.Item
import BlizzLikeCore.Net.ByteBuffer

/-!
# Update packets

`UpdateData` collects the update blocks of a client, one buffer behind the other, and the GUIDs that
went out of its range.  `BuildPacket` writes the number of blocks in front of them, the out-of-range
block with it, and compresses what is longer than 100 bytes.

A packet that was built inflates to one content, whichever form it has, and the content is read as
a count and exactly that many blocks: the out-of-range GUIDs, if there are any, and each block that
was added, in order (`buildPacket_decodes`).
-/

namespace BlizzLike

open ByteBuffer (writeEach append appendInt)

/-! ## The data -/

/-- Insertion into a `std::set`, kept as its GUIDs in ascending order. -/
def insertGuid (guid : BitVec 64) : List (BitVec 64) → List (BitVec 64)
  | [] => [guid]
  | g :: gs => if guid < g then guid :: g :: gs else if g < guid then g :: insertGuid guid gs else g :: gs

/-- `append` of a buffer, which takes what is before its write position. -/
def appendBuffer (asserts : Bool) (buffer : ByteBuffer) : BufferM Unit :=
  if buffer.wpos ≠ 0 then append asserts (buffer.storage.take buffer.wpos) else pure ()

structure UpdateData where
  blockCount : Nat := 0
  outOfRangeGUIDs : List (BitVec 64) := []
  data : ByteBuffer := {}

/-- What is added to the data of a client. -/
inductive UpdateDataCall where
  | outOfRangeGUID (guid : BitVec 64)
  | updateBlock (block : ByteBuffer)

namespace UpdateData

def addOutOfRangeGUID (d : UpdateData) (guid : BitVec 64) : UpdateData :=
  { d with outOfRangeGUIDs := insertGuid guid d.outOfRangeGUIDs }

def addUpdateBlock (asserts : Bool) (d : UpdateData) (block : ByteBuffer) : Except BufferError UpdateData :=
  match appendBuffer asserts block d.data with
  | .ok _ data => .ok { d with data := data, blockCount := u32 (d.blockCount + 1) }
  | .error e _ => .error e

/-- The calls of an update, one after the other. -/
def addAll (asserts : Bool) (d : UpdateData) : List UpdateDataCall → Except BufferError UpdateData
  | [] => .ok d
  | .outOfRangeGUID guid :: calls => addAll asserts (d.addOutOfRangeGUID guid) calls
  | .updateBlock block :: calls => do
    let d ← d.addUpdateBlock asserts block
    addAll asserts d calls

end UpdateData

/-! ## Compression -/

inductive ZFlush where
  | noFlush
  | finish
  deriving DecidableEq

/-- The part of a `z_stream` that the caller sets and reads; `out` is what was written. -/
structure ZStream where
  nextIn : List UInt8
  availOut : Nat
  out : List UInt8 := []

def zOk : Int := 0
def zStreamEnd : Int := 1

/-- The calls of zlib, each with its result code, over the state zlib keeps. -/
structure Zlib (σ : Type) where
  deflateInit : Int → Int × σ
  deflate : ZFlush → σ × ZStream → Int × σ × ZStream
  deflateEnd : σ → Int

/-- What zlib promises of a stream that went through these calls well. -/
def Zlib.Lossless {σ : Type} (z : Zlib σ) (inflate : List UInt8 → Option (List UInt8)) : Prop :=
  ∀ (level : Int) (src : List UInt8) (room : Nat) (s s1 s2 : σ) (io1 io2 : ZStream),
    z.deflateInit level = (zOk, s) → z.deflate .noFlush (s, ⟨src, room, []⟩) = (zOk, s1, io1) →
    io1.nextIn = [] → z.deflate .finish (s1, io1) = (zStreamEnd, s2, io2) → z.deflateEnd s2 = zOk →
    inflate io2.out = some src

def compressBound (sourceLen : Nat) : Nat :=
  sourceLen + sourceLen / 2 ^ 12 + sourceLen / 2 ^ 14 + sourceLen / 2 ^ 25 + 13

/-- `Compress`: what is at its destination, nothing where the size is set to 0. -/
def compress {σ : Type} (z : Zlib σ) (level : Int) (dstSize : Nat) (src : List UInt8) : List UInt8 :=
  match z.deflateInit level with
  | (res, s) =>
    if res ≠ zOk then []
    else match z.deflate .noFlush (s, ⟨src.take (u32 src.length), dstSize, []⟩) with
      | (res, s1, io1) =>
        if res ≠ zOk then []
        else if io1.nextIn ≠ [] then []
        else match z.deflate .finish (s1, io1) with
          | (res, s2, io2) =>
            if res ≠ zStreamEnd then [] else if z.deflateEnd s2 ≠ zOk then [] else io2.out

/-! ## The packet -/

inductive UpdateOpcode where
  | smsgUpdateObject
  | smsgCompressedUpdateObject
  deriving DecidableEq

structure UpdatePacket where
  opcode : Option UpdateOpcode := none
  buffer : ByteBuffer := {}

namespace ByteBuffer

/-- `resize`, new bytes are 0. -/
def resize (b : ByteBuffer) (n : Nat) : ByteBuffer :=
  { storage := b.storage.take n ++ List.replicate (n - b.storage.length) 0, rpos := 0, wpos := n }

/-- `put<uint32>`, at a position within the storage. -/
def putUInt32 (b : ByteBuffer) (pos value : Nat) : ByteBuffer :=
  { b with storage := overwrite b.storage pos (Bytes.le 4 value) }

end ByteBuffer

namespace UpdateData

def updatetypeOutOfRangeObjects : Nat := 4

/-- The part of the content for the GUIDs out of range. -/
def writeOutOfRange (asserts : Bool) (guids : List (BitVec 64)) : BufferM Unit :=
  if guids ≠ [] then do
    appendInt asserts .uint8 (BitVec.ofNat _ updatetypeOutOfRangeObjects)
    appendInt asserts .uint32 (BitVec.ofNat _ guids.length)
    writeEach (fun guid => do
      appendInt asserts .uint8 0xFF
      appendInt asserts .uint64 guid) guids
  else pure ()

/-- What `BuildPacket` writes to its buffer. -/
def writeContent (asserts : Bool) (d : UpdateData) (hasTransport : Bool) : BufferM Unit := do
  appendInt asserts .uint32
    (BitVec.ofNat _ (if d.outOfRangeGUIDs ≠ [] then u32 (d.blockCount + 1) else d.blockCount))
  appendInt asserts .uint8 (if hasTransport then 1 else 0)
  writeOutOfRange asserts d.outOfRangeGUIDs
  appendBuffer asserts d.data

/-- `BuildPacket`: the packet, where it returns `true`. -/
def buildPacket {σ : Type} (asserts : Bool) (z : Zlib σ) (level : Int) (d : UpdateData) (hasTransport : Bool)
    (packet : UpdatePacket) : Except BufferError (Option UpdatePacket) :=
  match writeContent asserts d hasTransport {} with
  | .error e _ => .error e
  | .ok _ buf =>
    if buf.wpos > 100 then
      let destsize := u32 (compressBound buf.wpos)
      let room := (packet.buffer.resize (destsize + 4)).putUInt32 0 (u32 buf.wpos)
      let out := compress z level destsize buf.storage
      if out = [] then .ok none
      else
        let filled := { room with storage := ByteBuffer.overwrite room.storage 4 out }
        .ok (some ⟨some .smsgCompressedUpdateObject, filled.resize (out.length + 4)⟩)
    else
      match appendBuffer asserts buf packet.buffer with
      | .error e _ => .error e
      | .ok _ buffer => .ok (some ⟨some .smsgUpdateObject, buffer⟩)

end UpdateData

/-! ## Reading -/

/-- What a client finds at the start of a packet's content: GUIDs that are out of its range, or an
update block of an object. -/
inductive UpdateEntry where
  | outOfRange (guids : List (BitVec 64))
  | block (bytes : List UInt8)
  deriving DecidableEq

/-- The content of a packet: its bytes, or what those behind the size inflate to. -/
def UpdatePacket.content (inflate : List UInt8 → Option (List UInt8)) (p : UpdatePacket) : Option (List UInt8) :=
  match p.opcode with
  | some .smsgUpdateObject => some p.buffer.storage
  | some .smsgCompressedUpdateObject => do
    let content ← inflate (p.buffer.storage.drop 4)
    if Bytes.value (p.buffer.storage.take 4) = content.length then some content else none
  | none => none

namespace UpdateEntry

def readUInt (n : Nat) (bytes : List UInt8) : Option (Nat × List UInt8) :=
  if n ≤ bytes.length then some (Bytes.value (bytes.take n), bytes.drop n) else none

/-- GUIDs, each packed with all its bytes. -/
def readGuids : Nat → List UInt8 → Option (List (BitVec 64) × List UInt8)
  | 0, bytes => some ([], bytes)
  | n + 1, bytes => do
    let (mask, bytes) ← readUInt 1 bytes
    if mask = 0xFF then
      let (guid, bytes) ← readUInt 8 bytes
      let (guids, bytes) ← readGuids n bytes
      some (BitVec.ofNat 64 guid :: guids, bytes)
    else none

/-- One block; `split` tells where a block of an object ends. -/
def read (split : List UInt8 → Option (List UInt8 × List UInt8)) (bytes : List UInt8) :
    Option (UpdateEntry × List UInt8) := do
  let (updatetype, rest) ← readUInt 1 bytes
  if updatetype = UpdateData.updatetypeOutOfRangeObjects then
    let (count, rest) ← readUInt 4 rest
    let (guids, rest) ← readGuids count rest
    some (.outOfRange guids, rest)
  else
    let (found, rest) ← split bytes
    some (.block found, rest)

def readTimes (split : List UInt8 → Option (List UInt8 × List UInt8)) :
    Nat → List UInt8 → Option (List UpdateEntry × List UInt8)
  | 0, bytes => some ([], bytes)
  | n + 1, bytes => do
    let (entry, bytes) ← read split bytes
    let (entries, bytes) ← readTimes split n bytes
    some (entry :: entries, bytes)

/-- A whole content: the transport flag and as many blocks as the count tells, with nothing behind. -/
def decode (split : List UInt8 → Option (List UInt8 × List UInt8)) (content : List UInt8) :
    Option (Bool × List UpdateEntry) := do
  let (count, bytes) ← readUInt 4 content
  let (hasTransport, bytes) ← readUInt 1 bytes
  let (entries, bytes) ← readTimes split count bytes
  if bytes = [] then some (decide (hasTransport ≠ 0), entries) else none

end UpdateEntry

/-! ## The set of GUIDs -/

theorem mem_insertGuid {guid g : BitVec 64} {gs : List (BitVec 64)} : g ∈ insertGuid guid gs ↔ g = guid ∨ g ∈ gs := by
  induction gs with
  | nil => simp [insertGuid]
  | cons x xs ih =>
    unfold insertGuid
    split
    · exact List.mem_cons
    · split
      · rw [List.mem_cons, ih, List.mem_cons]
        tauto
      · next hlt hgt =>
        have heq : guid = x := BitVec.le_antisymm (BitVec.not_lt.1 hgt) (BitVec.not_lt.1 hlt)
        rw [heq, List.mem_cons]
        tauto

theorem sorted_insertGuid (guid : BitVec 64) {gs : List (BitVec 64)} (h : gs.Pairwise (· < ·)) :
    (insertGuid guid gs).Pairwise (· < ·) := by
  induction gs with
  | nil => simp [insertGuid]
  | cons x xs ih =>
    obtain ⟨hx, hxs⟩ := List.pairwise_cons.1 h
    unfold insertGuid
    split
    · next hlt =>
      refine List.pairwise_cons.2 ⟨fun g hg => ?_, h⟩
      rcases List.mem_cons.1 hg with rfl | hg
      · exact hlt
      · exact BitVec.lt_trans hlt (hx g hg)
    · split
      · next hgt =>
        refine List.pairwise_cons.2 ⟨fun g hg => ?_, ih hxs⟩
        rcases mem_insertGuid.1 hg with rfl | hg
        · exact hgt
        · exact hx g hg
      · exact h

namespace UpdateDataCall

/-- The blocks that were added. -/
def blocks (calls : List UpdateDataCall) : List ByteBuffer :=
  calls.filterMap fun
    | .updateBlock block => some block
    | .outOfRangeGUID _ => none

end UpdateDataCall

/-! ## What is written -/

namespace ByteBuffer

theorem appendBuffer_appends (asserts : Bool) {buffer : ByteBuffer} (h : buffer.AtEnd) :
    Appends (appendBuffer asserts buffer) buffer.storage := by
  have htake : buffer.storage.take buffer.wpos = buffer.storage := by
    rw [h.wpos]
    exact List.take_length
  unfold appendBuffer
  split
  · rw [htake]
    exact append_appends asserts _
  · next hwpos =>
    have hsize : buffer.size = 0 := h.wpos ▸ of_not_not hwpos
    rw [List.length_eq_zero_iff.1 hsize]
    exact Appends.pure

end ByteBuffer

namespace UpdateData

open ByteBuffer

/-- The bytes of the block of the GUIDs out of range. -/
def outOfRangeBytes (guids : List (BitVec 64)) : List UInt8 :=
  if guids ≠ [] then
    [4] ++ (Bytes.le 4 guids.length ++ guids.flatMap fun guid => [0xFF] ++ Bytes.le 8 guid.toNat)
  else []

/-- The bytes of a content. -/
def content (d : UpdateData) (hasTransport : Bool) : List UInt8 :=
  Bytes.le 4 (if d.outOfRangeGUIDs ≠ [] then d.blockCount + 1 else d.blockCount) ++
    ([if hasTransport then 1 else 0] ++ (outOfRangeBytes d.outOfRangeGUIDs ++ d.data.storage))

theorem appendUInt32_appends (asserts : Bool) (n : Nat) :
    Appends (appendInt asserts .uint32 (BitVec.ofNat _ n)) (Bytes.le 4 n) := by
  have hle : Bytes.le 4 (BitVec.ofNat 32 n).toNat = Bytes.le 4 n := by
    rw [BitVec.toNat_ofNat]
    exact Bytes.le_mod 4 n
  rw [← hle]
  exact append_appends asserts _

theorem writeOutOfRange_appends (asserts : Bool) (guids : List (BitVec 64)) :
    Appends (writeOutOfRange asserts guids) (outOfRangeBytes guids) := by
  unfold writeOutOfRange outOfRangeBytes
  split
  · refine (append_appends asserts _).bind ((appendUInt32_appends asserts _).bind (writeEach_appends ?_ guids))
    intro guid
    exact (append_appends asserts _).bind (append_appends asserts _)
  · exact Appends.pure

theorem writeContent_appends (asserts : Bool) {d : UpdateData} (hdata : d.data.AtEnd) (hasTransport : Bool) :
    Appends (writeContent asserts d hasTransport) (d.content hasTransport) := by
  have hcount : Bytes.le 4 (if d.outOfRangeGUIDs ≠ [] then u32 (d.blockCount + 1) else d.blockCount) =
      Bytes.le 4 (if d.outOfRangeGUIDs ≠ [] then d.blockCount + 1 else d.blockCount) := by
    split
    · exact Bytes.le_mod 4 _
    · rfl
  have hflag : Appends (appendInt asserts .uint8 (if hasTransport then 1 else 0))
      [if hasTransport then 1 else 0] := by
    cases hasTransport <;> exact append_appends asserts _
  unfold writeContent content
  rw [← hcount]
  exact (appendUInt32_appends asserts _).bind
    (hflag.bind ((writeOutOfRange_appends asserts _).bind (appendBuffer_appends asserts hdata)))

/-- What the calls have done to the blocks: each is in the data, in order, and was counted. -/
theorem addAll_blocks {asserts : Bool} {calls : List UpdateDataCall} {d d' : UpdateData} (hd : d.data.AtEnd)
    (hblocks : ∀ block ∈ UpdateDataCall.blocks calls, block.AtEnd) (h : addAll asserts d calls = .ok d') :
    d'.data.AtEnd ∧ d'.data.storage = d.data.storage ++ (UpdateDataCall.blocks calls).flatMap storage ∧
      u32 d'.blockCount = u32 (d.blockCount + (UpdateDataCall.blocks calls).length) := by
  induction calls generalizing d with
  | nil =>
    obtain ⟨⟩ := h
    exact ⟨hd, (List.append_nil _).symm, rfl⟩
  | cons call calls ih =>
    cases call with
    | outOfRangeGUID guid => exact ih (d := d.addOutOfRangeGUID guid) hd hblocks h
    | updateBlock block =>
      obtain ⟨hblock, hrest⟩ := List.forall_mem_cons.1 hblocks
      unfold addAll addUpdateBlock at h
      cases hwrite : appendBuffer asserts block d.data with
      | error e b =>
        rw [hwrite] at h
        exact nomatch h
      | ok _ data =>
        rw [hwrite] at h
        obtain ⟨hend, hstorage, -⟩ := appendBuffer_appends asserts hblock _ _ hd hwrite
        obtain ⟨hend', hstorage', hcount'⟩ := ih (d := { d with data := data, blockCount := u32 (d.blockCount + 1) })
          hend hrest h
        refine ⟨hend', ?_, ?_⟩
        · rw [hstorage', hstorage, List.append_assoc]
          rfl
        · rw [hcount']
          show u32 (u32 (d.blockCount + 1) + (UpdateDataCall.blocks calls).length) =
            u32 (d.blockCount + ((UpdateDataCall.blocks calls).length + 1))
          unfold u32
          omega

theorem addAll_outOfRange {asserts : Bool} {calls : List UpdateDataCall} {d d' : UpdateData}
    (hsorted : d.outOfRangeGUIDs.Pairwise (· < ·)) (h : addAll asserts d calls = .ok d') :
    d'.outOfRangeGUIDs.Pairwise (· < ·) ∧
      ∀ g, g ∈ d'.outOfRangeGUIDs ↔ g ∈ d.outOfRangeGUIDs ∨ .outOfRangeGUID g ∈ calls := by
  induction calls generalizing d with
  | nil =>
    obtain ⟨⟩ := h
    exact ⟨hsorted, fun g => by simp⟩
  | cons call calls ih =>
    cases call with
    | outOfRangeGUID guid =>
      obtain ⟨hsorted', hmem⟩ := ih (d := d.addOutOfRangeGUID guid) (sorted_insertGuid guid hsorted) h
      refine ⟨hsorted', fun g => ?_⟩
      rw [hmem, addOutOfRangeGUID, mem_insertGuid, List.mem_cons, UpdateDataCall.outOfRangeGUID.injEq]
      tauto
    | updateBlock block =>
      unfold addAll addUpdateBlock at h
      cases hwrite : appendBuffer asserts block d.data with
      | error e b =>
        rw [hwrite] at h
        exact nomatch h
      | ok _ data =>
        rw [hwrite] at h
        obtain ⟨hsorted', hmem⟩ := ih (d := { d with data := data, blockCount := u32 (d.blockCount + 1) }) hsorted h
        refine ⟨hsorted', fun g => ?_⟩
        rw [hmem]
        simp

end UpdateData

/-! ## Sizes

Where assertions are compiled in, nothing is written behind 10000000 bytes. -/

namespace ByteBuffer

/-- An operation that leaves a buffer as long as it was, or within the limit but for the last piece
of at most `k` bytes. -/
def Bounds (k : Nat) (w : BufferM Unit) : Prop :=
  ∀ b b', b.AtEnd → w b = .ok () b' → b'.size = b.size ∨ b'.size < 10000000 + k

theorem Bounds.pure (k : Nat) : Bounds k (pure ()) := by
  intro b b' _ heq
  obtain ⟨⟩ := heq
  exact .inl rfl

theorem Bounds.bind {k : Nat} {w v : BufferM Unit} {bytes : List UInt8} (hw : Appends w bytes)
    (hwk : Bounds k w) (hvk : Bounds k v) : Bounds k (w >>= fun _ => v) := by
  intro b b' h heq
  obtain ⟨_, b1, h1, h2⟩ := of_bind_ok heq
  rcases hvk b1 b' (hw b b1 h h1).1 h2 with hsame | hlt
  · rw [hsame]
    exact hwk b b1 h h1
  · exact .inr hlt

theorem append_bounds {k : Nat} {src : List UInt8} (hk : src.length ≤ k) : Bounds k (append true src) := by
  intro b b' h heq
  obtain ⟨-, hstorage, -⟩ := append_appends true src b b' h heq
  unfold append at heq
  split at heq
  · exact nomatch heq
  split at heq
  · exact nomatch heq
  next hassert =>
  right
  have hsize : b.size < 10000000 := by simpa using hassert
  show b'.storage.length < _
  rw [hstorage, List.length_append]
  exact Nat.add_lt_add_of_lt_of_le hsize hk

theorem writeEach_bounds {α : Type} {k : Nat} {write : α → BufferM Unit} {encode : α → List UInt8} {vs : List α}
    (h : ∀ v ∈ vs, Appends (write v) (encode v) ∧ Bounds k (write v)) : Bounds k (writeEach write vs) := by
  induction vs with
  | nil => exact Bounds.pure k
  | cons v vs ih =>
    obtain ⟨hv, hvs⟩ := List.forall_mem_cons.1 h
    exact Bounds.bind hv.1 hv.2 (ih hvs)

/-- A buffer that was written piece by piece, as those of update blocks are, no piece longer than
64 KiB. -/
def Written (asserts : Bool) (b : ByteBuffer) : Prop :=
  ∃ pieces : List (List UInt8), (∀ piece ∈ pieces, piece.length ≤ 65536) ∧
    writeEach (append asserts) pieces {} = .ok () b

theorem Written.atEnd {asserts : Bool} {b : ByteBuffer} (h : Written asserts b) : b.AtEnd := by
  obtain ⟨pieces, -, hwrite⟩ := h
  exact (writeEach_appends (append_appends asserts) pieces {} b ⟨rfl, Nat.zero_le _⟩ hwrite).1

theorem Written.size_lt {b : ByteBuffer} (h : Written true b) : b.size < 10065536 := by
  obtain ⟨pieces, hpieces, hwrite⟩ := h
  have hbounds : Bounds 65536 (writeEach (append true) pieces) :=
    writeEach_bounds fun piece hpiece => ⟨append_appends true piece, append_bounds (hpieces piece hpiece)⟩
  rcases hbounds {} b ⟨rfl, Nat.zero_le _⟩ hwrite with hsame | hlt
  · rw [hsame]
    decide
  · exact hlt

theorem appendBuffer_bounds {k : Nat} {buffer : ByteBuffer} (hk : buffer.size ≤ k) :
    Bounds k (appendBuffer true buffer) := by
  unfold appendBuffer
  split
  · refine append_bounds (Nat.le_trans ?_ hk)
    rw [List.length_take]
    exact Nat.min_le_right _ _
  · exact Bounds.pure k

end ByteBuffer

namespace UpdateData

open ByteBuffer

theorem addAll_size_lt {calls : List UpdateDataCall} {d d' : UpdateData} (hd : d.data.AtEnd)
    (hlt : d.data.size < 20065536) (hblocks : ∀ block ∈ UpdateDataCall.blocks calls, Written true block)
    (h : addAll true d calls = .ok d') : d'.data.size < 20065536 := by
  induction calls generalizing d with
  | nil =>
    obtain ⟨⟩ := h
    exact hlt
  | cons call calls ih =>
    cases call with
    | outOfRangeGUID guid => exact ih (d := d.addOutOfRangeGUID guid) hd hlt hblocks h
    | updateBlock block =>
      obtain ⟨hblock, hrest⟩ := List.forall_mem_cons.1 hblocks
      unfold addAll addUpdateBlock at h
      cases hwrite : appendBuffer true block d.data with
      | error e b =>
        rw [hwrite] at h
        exact nomatch h
      | ok _ data =>
        rw [hwrite] at h
        obtain ⟨hend, -⟩ := appendBuffer_appends true hblock.atEnd _ _ hd hwrite
        have hdata : data.size < 20065536 := by
          rcases appendBuffer_bounds (Nat.le_of_lt hblock.size_lt) d.data data hd hwrite with hsame | hbound
          · exact hsame ▸ hlt
          · exact hbound
        exact ih (d := { d with data := data, blockCount := u32 (d.blockCount + 1) }) hend hdata hrest h

/-- **A content is short** where assertions are compiled in. -/
theorem content_lt {d : UpdateData} (hlt : d.data.size < 20065536) {hasTransport : Bool}
    {buf : ByteBuffer} (h : writeContent true d hasTransport {} = .ok () buf) : buf.size < 4294967296 := by
  have hint (t : IntType) (x : BitVec (8 * t.size)) : Bounds 20065536 (appendInt true t x) := by
    refine append_bounds ?_
    rw [Bytes.le_length]
    cases t <;> decide
  have hguids : Bounds 20065536 (writeOutOfRange true d.outOfRangeGUIDs) := by
    unfold writeOutOfRange
    split
    · refine Bounds.bind (append_appends true _) (hint _ _) (Bounds.bind (append_appends true _) (hint _ _) ?_)
      exact writeEach_bounds fun guid _ => ⟨(append_appends true _).bind (append_appends true _),
        Bounds.bind (append_appends true _) (hint .uint8 0xFF) (hint .uint64 guid)⟩
    · exact Bounds.pure _
  have hbounds : Bounds 20065536 (writeContent true d hasTransport) :=
    Bounds.bind (append_appends true _) (hint _ _) (Bounds.bind (append_appends true _) (hint _ _)
      (Bounds.bind (writeOutOfRange_appends true _) hguids (appendBuffer_bounds (Nat.le_of_lt hlt))))
  rcases hbounds {} buf ⟨rfl, Nat.zero_le _⟩ h with hsame | hbound
  · rw [hsame]
    decide
  · omega

end UpdateData

/-! ## What is read -/

namespace UpdateEntry

theorem readUInt_append {n : Nat} {bytes : List UInt8} (h : bytes.length = n) (rest : List UInt8) :
    readUInt n (bytes ++ rest) = some (Bytes.value bytes, rest) := by
  unfold readUInt
  rw [if_pos (by rw [List.length_append]; omega), List.take_left' h, List.drop_left' h]

theorem readUInt_le {n x : Nat} (h : x < 256 ^ n) (rest : List UInt8) :
    readUInt n (Bytes.le n x ++ rest) = some (x, rest) := by
  rw [readUInt_append (Bytes.le_length n x), Bytes.value_le, Nat.mod_eq_of_lt h]

theorem readUInt_byte (byte : UInt8) (rest : List UInt8) : readUInt 1 ([byte] ++ rest) = some (byte.toNat, rest) := by
  rw [readUInt_append (n := 1) rfl, Bytes.value_cons, Bytes.value_nil, Nat.mul_zero, Nat.add_zero]

theorem readGuids_append (guids : List (BitVec 64)) (rest : List UInt8) :
    readGuids guids.length (guids.flatMap (fun guid => [0xFF] ++ Bytes.le 8 guid.toNat) ++ rest) =
      some (guids, rest) := by
  induction guids with
  | nil => rfl
  | cons guid guids ih =>
    rw [List.flatMap_cons, List.append_assoc, List.append_assoc, List.length_cons]
    unfold readGuids
    simp only [readUInt_byte, Option.bind_eq_bind, Option.bind_some]
    rw [if_pos (by decide), readUInt_le (guid.isLt.trans_eq (by decide))]
    simp only [Option.bind_some, ih]
    rw [BitVec.ofNat_toNat, BitVec.setWidth_eq]

/-- An update block that a client can tell from what is behind it. -/
structure Delimited (split : List UInt8 → Option (List UInt8 × List UInt8)) (bytes : List UInt8) : Prop where
  updatetype : ∃ t rest, bytes = t :: rest ∧ t.toNat ≠ UpdateData.updatetypeOutOfRangeObjects
  split : ∀ rest, split (bytes ++ rest) = some (bytes, rest)

variable {split : List UInt8 → Option (List UInt8 × List UInt8)}

theorem read_block {bytes : List UInt8} (h : Delimited split bytes) (rest : List UInt8) :
    read split (bytes ++ rest) = some (.block bytes, rest) := by
  obtain ⟨t, tail, rfl, ht⟩ := h.updatetype
  have hbyte : readUInt 1 (t :: tail ++ rest) = some (t.toNat, tail ++ rest) := readUInt_byte t (tail ++ rest)
  unfold read
  simp only [hbyte, Option.bind_eq_bind, Option.bind_some]
  rw [if_neg ht, h.split]
  rfl

theorem read_outOfRange {guids : List (BitVec 64)} (hne : guids ≠ []) (hlen : guids.length < 4294967296)
    (rest : List UInt8) : read split (UpdateData.outOfRangeBytes guids ++ rest) = some (.outOfRange guids, rest) := by
  unfold read UpdateData.outOfRangeBytes
  rw [if_pos hne, List.append_assoc, List.append_assoc]
  simp only [readUInt_byte, Option.bind_eq_bind, Option.bind_some]
  rw [if_pos (by decide), readUInt_le (hlen.trans_eq (by decide))]
  simp only [Option.bind_some, readGuids_append]

theorem readTimes_blocks {blocks : List (List UInt8)} (h : ∀ block ∈ blocks, Delimited split block) :
    readTimes split blocks.length blocks.flatten = some (blocks.map .block, []) := by
  induction blocks with
  | nil => rfl
  | cons block blocks ih =>
    obtain ⟨hblock, hrest⟩ := List.forall_mem_cons.1 h
    rw [List.length_cons, List.flatten_cons]
    unfold readTimes
    simp only [read_block hblock, ih hrest, Option.bind_eq_bind, Option.bind_some, List.map_cons]

theorem Delimited.length_pos {bytes : List UInt8} (h : Delimited split bytes) : 0 < bytes.length := by
  obtain ⟨t, rest, rfl, -⟩ := h.updatetype
  exact Nat.succ_pos _

theorem length_le_flatten {blocks : List (List UInt8)} (h : ∀ block ∈ blocks, Delimited split block) :
    blocks.length ≤ blocks.flatten.length := by
  induction blocks with
  | nil => exact Nat.le_refl _
  | cons block blocks ih =>
    obtain ⟨hblock, hrest⟩ := List.forall_mem_cons.1 h
    rw [List.flatten_cons, List.length_append, List.length_cons]
    have := hblock.length_pos
    have := ih hrest
    omega

/-- **A content is read** as the GUIDs and the blocks it was made of. -/
theorem decode_content {d : UpdateData} {blocks : List (List UInt8)} {hasTransport : Bool}
    (hdata : d.data.storage = blocks.flatten) (hcount : u32 d.blockCount = u32 blocks.length)
    (hblocks : ∀ block ∈ blocks, Delimited split block) (hlt : (d.content hasTransport).length < 4294967296) :
    decode split (d.content hasTransport) = some (hasTransport,
      (if d.outOfRangeGUIDs ≠ [] then [.outOfRange d.outOfRangeGUIDs] else []) ++ blocks.map .block) := by
  have hlen := length_le_flatten hblocks
  unfold UpdateData.content at hlt ⊢
  rw [hdata] at hlt ⊢
  simp only [List.length_append, Bytes.le_length, List.length_singleton] at hlt
  have hflag : decide ((if hasTransport then 1 else 0 : UInt8).toNat ≠ 0) = hasTransport := by
    cases hasTransport <;> rfl
  unfold decode
  by_cases hne : d.outOfRangeGUIDs ≠ []
  · have hguids : d.outOfRangeGUIDs.length + 5 ≤ (UpdateData.outOfRangeBytes d.outOfRangeGUIDs).length := by
      unfold UpdateData.outOfRangeBytes
      rw [if_pos hne, List.length_append, List.length_append, List.length_flatMap]
      simp only [List.length_append, Bytes.le_length, List.length_singleton, List.map_const',
        List.sum_replicate_nat]
      omega
    have hle : Bytes.le 4 (d.blockCount + 1) = Bytes.le 4 (blocks.length + 1) := by
      rw [← Bytes.le_mod 4 (d.blockCount + 1), ← Bytes.le_mod 4 (blocks.length + 1)]
      congr 1
      unfold u32 at hcount
      omega
    rw [if_pos hne, if_pos hne, hle, readUInt_le (by omega)]
    simp only [readUInt_byte, Option.bind_eq_bind, Option.bind_some]
    unfold readTimes
    rw [read_outOfRange hne (by omega)]
    simp only [Option.bind_eq_bind, Option.bind_some, readTimes_blocks hblocks, hflag]
    rfl
  · have hle : Bytes.le 4 d.blockCount = Bytes.le 4 blocks.length := by
      rw [← Bytes.le_mod 4 d.blockCount, ← Bytes.le_mod 4 blocks.length]
      exact congrArg (Bytes.le 4) hcount
    rw [if_neg hne, if_neg hne, hle, readUInt_le (by omega)]
    simp only [readUInt_byte, Option.bind_eq_bind, Option.bind_some]
    unfold UpdateData.outOfRangeBytes
    rw [if_neg hne, List.nil_append, readTimes_blocks hblocks]
    simp only [Option.bind_some, hflag]
    rfl

end UpdateEntry

/-! ## The forms of a packet -/

/-- What `Compress` leaves is inflated to its source, as long as zlib can tell the source's length. -/
theorem compress_inflate {σ : Type} {z : Zlib σ} {inflate : List UInt8 → Option (List UInt8)}
    (hz : z.Lossless inflate) {level : Int} {room : Nat} {src : List UInt8} (hlt : src.length < 4294967296)
    (hne : compress z level room src ≠ []) : inflate (compress z level room src) = some src := by
  have htake : src.take (u32 src.length) = src := by
    rw [u32_eq _ hlt]
    exact List.take_length
  unfold compress at hne ⊢
  rw [htake] at hne ⊢
  split at hne
  next res s hinit =>
  split at hne
  · exact absurd rfl hne
  next hres =>
  split at hne
  next res1 s1 io1 hdeflate =>
  split at hne
  · exact absurd rfl hne
  next hres1 =>
  split at hne
  · exact absurd rfl hne
  next hin =>
  split at hne
  next res2 s2 io2 hfinish =>
  split at hne
  · exact absurd rfl hne
  next hres2 =>
  split at hne
  · exact absurd rfl hne
  next hend =>
  have hout := hz level src room s s1 s2 io1 io2 (of_not_not hres ▸ hinit) (of_not_not hres1 ▸ hdeflate)
    (of_not_not hin) (of_not_not hres2 ▸ hfinish) (of_not_not hend)
  simpa only [hinit, hdeflate, hfinish, if_neg hres, if_neg hres1, if_neg hin, if_neg hres2, if_neg hend] using hout

namespace ByteBuffer

theorem overwrite_append {before after src : List UInt8} {pos : Nat} (h : before.length = pos) :
    overwrite (before ++ after) pos src = before ++ src ++ after.drop src.length := by
  unfold overwrite
  rw [List.take_left' h, List.length_append, Nat.sub_eq_zero_of_le (by omega), List.replicate_zero,
    List.append_nil, ← h, List.drop_length_add_append]

/-- The storage of a packet that got room, its size, the compressed bytes, and its final length. -/
theorem resize_put_resize (room size : Nat) (out : List UInt8) :
    let b := (({} : ByteBuffer).resize (room + 4)).putUInt32 0 size
    (({ b with storage := overwrite b.storage 4 out } : ByteBuffer).resize (out.length + 4)).storage =
      Bytes.le 4 size ++ out := by
  intro b
  have hb : b.storage = Bytes.le 4 size ++ List.replicate room 0 := by
    show overwrite ([].take (room + 4) ++ List.replicate (room + 4 - 0) 0) 0 (Bytes.le 4 size) = _
    rw [List.take_nil, overwrite_append List.length_nil, List.nil_append, Bytes.le_length, List.drop_replicate]
    rfl
  show (overwrite b.storage 4 out).take (out.length + 4) ++
    List.replicate (out.length + 4 - (overwrite b.storage 4 out).length) 0 = _
  rw [hb, overwrite_append (Bytes.le_length 4 size)]
  have hlen : (Bytes.le 4 size ++ out).length = out.length + 4 := by
    rw [List.length_append, Bytes.le_length, Nat.add_comm]
  rw [List.take_left' hlen, List.length_append, hlen, Nat.sub_eq_zero_of_le (Nat.le_add_right _ _)]
  exact List.append_nil _

end ByteBuffer

namespace UpdateData

open ByteBuffer

/-- **A packet** that was built has the content, in either form. -/
theorem buildPacket_content {σ : Type} {asserts : Bool} {z : Zlib σ} {inflate : List UInt8 → Option (List UInt8)}
    (hz : z.Lossless inflate) {level : Int} {d : UpdateData} (hdata : d.data.AtEnd) {hasTransport : Bool}
    (hlt : (d.content hasTransport).length < 4294967296) {packet : UpdatePacket}
    (h : buildPacket asserts z level d hasTransport {} = .ok (some packet)) :
    packet.content inflate = some (d.content hasTransport) := by
  unfold buildPacket at h
  cases hwrite : writeContent asserts d hasTransport {} with
  | error e b =>
    rw [hwrite] at h
    exact nomatch h
  | ok _ buf =>
    rw [hwrite] at h
    obtain ⟨hend, hstorage, -⟩ :=
      writeContent_appends asserts hdata hasTransport {} buf ⟨rfl, Nat.zero_le _⟩ hwrite
    have hbuf : buf.storage = d.content hasTransport := hstorage
    have hwpos : buf.wpos = (d.content hasTransport).length := by
      rw [hend.wpos, ← hbuf]
      rfl
    simp only at h
    by_cases hlarge : buf.wpos > 100
    · rw [if_pos hlarge] at h
      split at h
      · exact nomatch h
      next hout =>
      obtain ⟨⟩ := h
      have hinflate := compress_inflate hz (hbuf ▸ hlt) hout
      have hsize : Bytes.value (Bytes.le 4 (u32 buf.wpos)) = buf.storage.length := by
        rw [Bytes.value_le, hwpos, u32_eq _ hlt, Nat.mod_eq_of_lt (hlt.trans_eq (by decide)), hbuf]
      unfold UpdatePacket.content
      simp only [resize_put_resize, List.drop_left' (Bytes.le_length 4 _), List.take_left' (Bytes.le_length 4 _),
        hinflate, hsize, Option.bind_eq_bind, Option.bind_some, if_pos]
      rw [hbuf]
    · rw [if_neg hlarge] at h
      cases happend : appendBuffer asserts buf {} with
      | error e b =>
        rw [happend] at h
        exact nomatch h
      | ok _ buffer =>
        rw [happend] at h
        obtain ⟨⟩ := h
        obtain ⟨-, hbuffer, -⟩ := appendBuffer_appends asserts hend {} buffer ⟨rfl, Nat.zero_le _⟩ happend
        show some buffer.storage = _
        rw [hbuffer, ← hbuf]
        rfl

/-- **The packet of an update** is read as what was added.  For every run of calls that add blocks and
GUIDs, in any order, a packet that is built has one content whether or not it is compressed, and the
content is read as a count of blocks and these blocks: the GUIDs, if there are any, as a set, and
each block that was added, once and in order.  The content has to be shorter than 4 GiB where no
assertion keeps it so. -/
theorem buildPacket_decodes {σ : Type} (asserts : Bool) (z : Zlib σ) (inflate : List UInt8 → Option (List UInt8))
    (split : List UInt8 → Option (List UInt8 × List UInt8)) (level : Int) (calls : List UpdateDataCall) (d : UpdateData)
    (hasTransport : Bool) (packet : UpdatePacket) (hz : z.Lossless inflate)
    (hblocks : ∀ block ∈ UpdateDataCall.blocks calls,
      Written asserts block ∧ UpdateEntry.Delimited split block.storage)
    (hadded : addAll asserts {} calls = .ok d)
    (hbuilt : buildPacket asserts z level d hasTransport {} = .ok (some packet))
    (hsize : asserts = true ∨ (d.content hasTransport).length < 4294967296) :
    packet.content inflate = some (d.content hasTransport) ∧
      ∃ guids : List (BitVec 64), guids.Pairwise (· < ·) ∧ (∀ g, g ∈ guids ↔ .outOfRangeGUID g ∈ calls) ∧
        UpdateEntry.decode split (d.content hasTransport) = some (hasTransport,
          (if guids ≠ [] then [.outOfRange guids] else []) ++
            (UpdateDataCall.blocks calls).map fun block => .block block.storage) := by
  have hempty : ({} : ByteBuffer).AtEnd := ⟨rfl, Nat.zero_le _⟩
  obtain ⟨hdata, hstorage, hcount⟩ :=
    addAll_blocks (d := {}) hempty (fun block hblock => (hblocks block hblock).1.atEnd) hadded
  obtain ⟨hsorted, hguids⟩ := addAll_outOfRange (d := {}) List.Pairwise.nil hadded
  have hlt : (d.content hasTransport).length < 4294967296 := by
    rcases hsize with rfl | hlt
    · have hdatalt := addAll_size_lt (d := {}) hempty (by decide) (fun block hblock => (hblocks block hblock).1) hadded
      cases hwrite : writeContent true d hasTransport {} with
      | error e b =>
        unfold buildPacket at hbuilt
        rw [hwrite] at hbuilt
        exact nomatch hbuilt
      | ok _ buf =>
        obtain ⟨-, hbuf, -⟩ := writeContent_appends true hdata hasTransport {} buf hempty hwrite
        have hbuflt := content_lt hdatalt hwrite
        unfold size at hbuflt
        rw [hbuf] at hbuflt
        exact hbuflt
    · exact hlt
  refine ⟨buildPacket_content hz hdata hlt hbuilt, d.outOfRangeGUIDs, hsorted, fun g => ?_, ?_⟩
  · rw [hguids]
    simp
  · have hflatten : d.data.storage = ((UpdateDataCall.blocks calls).map storage).flatten := by
      rw [hstorage, List.flatMap_def]
      rfl
    rw [UpdateEntry.decode_content hflatten (by rw [hcount, List.length_map]; simp) ?_ hlt, List.map_map]
    · rfl
    · intro block hblock
      obtain ⟨b, hb, rfl⟩ := List.mem_map.1 hblock
      exact (hblocks b hb).2

/-! ### A sample -/

/-- A zlib that stores its input, as it does at level 0, without the frame around it. -/
def storing : Zlib Unit where
  deflateInit _ := (zOk, ())
  deflate
    | .noFlush, (_, io) => (zOk, (), { io with nextIn := [], out := io.out ++ io.nextIn })
    | .finish, (_, io) => (zStreamEnd, (), io)
  deflateEnd _ := zOk

theorem storing_lossless : storing.Lossless some := by
  rintro level src room s s1 s2 io1 io2 - hdeflate - hfinish -
  obtain ⟨⟩ := hdeflate
  obtain ⟨⟩ := hfinish
  rfl

/-- The bits of a byte. -/
def bitCount (byte : UInt8) : Nat := (List.range 8).countP fun i => byte.toNat.testBit i

/-- Where a block of the type `UPDATETYPE_VALUES` ends: behind the packed GUID there are the words of
the mask and a value for each of its bits. -/
def splitValues (bytes : List UInt8) : Option (List UInt8 × List UInt8) :=
  let guid := 1 + bitCount (bytes.getD 1 0)
  let words := (bytes.getD (1 + guid) 0).toNat
  let mask := (bytes.drop (2 + guid)).take (4 * words)
  let len := 2 + guid + 4 * words + 4 * (mask.map bitCount).sum
  if bytes.head? = some 0 then some (bytes.take len, bytes.drop len) else none

/-- The value of field 4 of the object 7. -/
def sampleBlock : List UInt8 := [0, 1, 7, 1, 16, 0, 0, 0, 5, 0, 0, 0]

theorem sampleBlock_delimited : UpdateEntry.Delimited splitValues sampleBlock := by
  refine ⟨⟨0, _, rfl, by decide⟩, fun rest => ?_⟩
  have hguid : bitCount 1 = 1 := by decide
  have hmask : bitCount 16 + (bitCount 0 + (bitCount 0 + bitCount 0)) = 1 := by decide
  simp [splitValues, sampleBlock, hguid, hmask]

def sampleCalls : List UpdateDataCall :=
  [.updateBlock { storage := sampleBlock, wpos := 12 }, .outOfRangeGUID 9, .outOfRangeGUID 9]

def sampleData : UpdateData := ⟨1, [9], { storage := sampleBlock, wpos := 12 }⟩

def samplePacket : UpdatePacket :=
  ⟨some .smsgUpdateObject,
    { storage := [2, 0, 0, 0, 1, 4, 1, 0, 0, 0, 255, 9, 0, 0, 0, 0, 0, 0, 0] ++ sampleBlock, wpos := 31 }⟩

theorem buildPacket_decodes_sample :
    samplePacket.content some = some (sampleData.content true) ∧
      ∃ guids : List (BitVec 64), guids.Pairwise (· < ·) ∧ (∀ g, g ∈ guids ↔ .outOfRangeGUID g ∈ sampleCalls) ∧
        UpdateEntry.decode splitValues (sampleData.content true) = some (true,
          (if guids ≠ [] then [.outOfRange guids] else []) ++
            (UpdateDataCall.blocks sampleCalls).map fun block => .block block.storage) := by
  refine buildPacket_decodes true storing some splitValues 1 sampleCalls sampleData true samplePacket
    storing_lossless ?_ rfl rfl (.inl rfl)
  intro block hblock
  obtain rfl : block = { storage := sampleBlock, wpos := 12 } := List.mem_singleton.1 hblock
  exact ⟨⟨[sampleBlock], by decide, rfl⟩, sampleBlock_delimited⟩

end UpdateData

end BlizzLike
