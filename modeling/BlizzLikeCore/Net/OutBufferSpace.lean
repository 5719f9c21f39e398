import BlizzLikeCore.Net.Outgoing

/-!
# Room in the output buffer

Each copy into the output buffer is asserted to fit.  `iSendPacket` looks for the room first.
`iSendPartialPacket` does so for packets larger than 1024 bytes only: of a smaller one the header is
copied though there may be less room than the header takes, and the assertion fails just then
(`copies_fit_iff`).  The flush comes to such a packet where those before it have used the buffer up to
a few bytes (`flush_overruns`).
-/

namespace BlizzLike.WorldSocket

/-- The packets of the queue up to the first that is not written as a whole are such that it is large, or
begun, or that its header has room behind those before it. -/
def Roomy : Nat → List WorldPacket → Prop
  | _, [] => True
  | space, p :: ps =>
    if p.rpos = 0 then
      if p.size + p.header.length ≤ space then Roomy (space - (p.size + p.header.length)) ps
      else 1024 < p.size ∨ p.header.length ≤ space
    else if p.rest.length ≤ space then Roomy (space - p.rest.length) ps
    else True

/-! ## The two ways to send -/

section
variable {w : WorldSocket} {p : WorldPacket}

theorem iSendPacket_fits (w : WorldSocket) (p : WorldPacket) : w.iSendPacket p ≠ none := by
  by_cases h : p.size + p.header.length ≤ w.space
  · rw [iSendPacket_some h]
    exact Option.some_ne_none _
  · rw [iSendPacket_false h]
    exact Option.some_ne_none _

theorem iSendPayload_fits (w : WorldSocket) (p : WorldPacket) : w.iSendPayload p ≠ none := by
  by_cases h : p.rest.length ≤ w.space
  · rw [payload_whole h]
    exact Option.some_ne_none _
  · rw [payload_cut (Nat.lt_of_not_le h)]
    exact Option.some_ne_none _

/-- The header of a packet that is not large is copied into whatever room there is. -/
theorem partial_none (hr : p.rpos = 0) (hsmall : p.size ≤ 1024) (hspace : w.space < p.header.length) :
    w.iSendPartialPacket p = none := by
  unfold iSendPartialPacket
  rw [if_pos hr, if_neg (by omega), copyHeader_none hspace]

/-- **A partial packet** runs into the assertion just if it is not begun, of at most 1024 bytes, and its
header does not fit. -/
theorem partial_fits_iff (w : WorldSocket) (p : WorldPacket) :
    w.iSendPartialPacket p ≠ none ↔ ¬(p.rpos = 0 ∧ p.size ≤ 1024 ∧ w.space < p.header.length) := by
  by_cases hr : p.rpos = 0
  swap
  · rw [partial_begun hr]
    exact ⟨fun _ h => hr h.1, fun _ => iSendPayload_fits w p⟩
  by_cases hfit : p.size + p.header.length ≤ w.space
  · rw [partial_whole hr hfit]
    refine ⟨fun _ h => ?_, fun _ => Option.some_ne_none _⟩
    omega
  by_cases hno : p.size > 1024 ∧ w.space < p.header.length + 1024
  · rw [partial_nothing hr (by omega) hno]
    refine ⟨fun _ h => ?_, fun _ => Option.some_ne_none _⟩
    omega
  by_cases hh : p.header.length ≤ w.space
  · obtain ⟨_, hcut⟩ := partial_cut hr (by omega) hno hh
    rw [hcut]
    refine ⟨fun _ h => ?_, fun _ => Option.some_ne_none _⟩
    omega
  · -- no room for the header, and none of the large packets that wait for it
    have hsmall : p.size ≤ 1024 := by omega
    constructor
    · intro h
      exact absurd (partial_none hr hsmall (by omega)) h
    · intro h
      exact absurd ⟨hr, hsmall, by omega⟩ h

end

/-! ## The flush -/

theorem whole_space (w : WorldSocket) (p : WorldPacket) :
    ({ w.withHeader p with outBuffer := (w.withHeader p).outBuffer ++ p.contents } : WorldSocket).space =
      w.space - (p.size + p.header.length) := by
  unfold space withHeader WorldPacket.size
  simp only [List.length_append, AuthCrypt.encryptSend_length]
  omega

theorem rest_space (w : WorldSocket) (p : WorldPacket) :
    ({ w with outBuffer := w.outBuffer ++ p.rest } : WorldSocket).space = w.space - p.rest.length := by
  unfold space
  simp only [List.length_append]
  omega

/-- **A flush**, from any packet of the queue on. -/
theorem flushQueue_fits_iff (q : List WorldPacket) (w : WorldSocket) (b : Bool) :
    w.flushQueue b q ≠ none ↔ Roomy w.space q := by
  induction q generalizing w b with
  | nil => exact ⟨fun _ => trivial, fun _ => Option.some_ne_none _⟩
  | cons p q ih =>
    unfold flushQueue Roomy
    by_cases hr : p.rpos = 0
    · rw [if_pos hr]
      by_cases hfit : p.size + p.header.length ≤ w.space
      · rw [if_pos hfit, partial_whole hr hfit, ← whole_space]
        exact ih _ true
      · rw [if_neg hfit]
        have hiff := partial_fits_iff w p
        cases hres : w.iSendPartialPacket p with
        | none =>
          rw [hres] at hiff
          have hbad : p.rpos = 0 ∧ p.size ≤ 1024 ∧ w.space < p.header.length := by
            by_contra h
            exact hiff.2 h rfl
          constructor
          · intro h
            exact absurd rfl h
          · intro h
            omega
        | some r =>
          rw [hres] at hiff
          have hgood := hiff.1 (Option.some_ne_none r)
          have hroom : 1024 < p.size ∨ p.header.length ≤ w.space := by
            by_contra h
            exact hgood ⟨hr, by omega, by omega⟩
          obtain ⟨v, res⟩ := r
          cases res with
          | nothing => exact ⟨fun _ => hroom, fun _ => Option.some_ne_none _⟩
          | remaining p1 => exact ⟨fun _ => hroom, fun _ => Option.some_ne_none _⟩
          | completed =>
            -- a packet that does not fit is not completed
            exfalso
            by_cases hno : p.size > 1024 ∧ w.space < p.header.length + 1024
            · rw [partial_nothing hr (by omega) hno] at hres
              cases hres
            · obtain ⟨_, hcut⟩ := partial_cut (w := w) hr (by omega) hno (by omega)
              rw [hcut] at hres
              cases hres
    · rw [if_neg hr, partial_begun hr]
      by_cases hfit : p.rest.length ≤ w.space
      · rw [if_pos hfit, payload_whole hfit, ← rest_space]
        exact ih _ true
      · rw [if_neg hfit, payload_cut (Nat.lt_of_not_le hfit)]
        exact ⟨fun _ => trivial, fun _ => Option.some_ne_none _⟩

/-- **Every copy fits**: for every buffer, every packet and every queue, `iSendPacket` never copies more
than there is room for; `iSendPartialPacket` does so just for a packet of at most 1024 bytes that is
not begun and whose header does not fit; and a flush just if it comes to such a packet. -/
theorem copies_fit_iff (w : WorldSocket) :
    (∀ pct, w.iSendPacket pct ≠ none) ∧
      (∀ pct, w.iSendPartialPacket pct ≠ none ↔
        ¬(pct.rpos = 0 ∧ pct.size ≤ 1024 ∧ w.space < pct.header.length)) ∧
      (w.iFlushPacketQueue ≠ none ↔ Roomy w.space w.packetQueue) :=
  ⟨iSendPacket_fits w, partial_fits_iff w, flushQueue_fits_iff w.packetQueue w false⟩

/-! ## A buffer with two bytes left -/

/-- A packet that leaves two bytes of a buffer of 65536 bytes. -/
def nearlyFilling : WorldPacket := { opcode := 1, contents := List.replicate 65529 0, rpos_le := Nat.zero_le _ }

theorem nearly_size {p : WorldPacket} (h : p.contents.length = 65529) : p.size + p.header.length = 65534 := by
  have hsize : p.size = 65529 := h
  unfold WorldPacket.header
  rw [hsize]
  rfl

/-- With two bytes left a small packet that is sent is queued, and flushed into the assertion. -/
theorem two_left {w : WorldSocket} (hspace : w.space = 2) (hq : w.packetQueue = []) (hclosing : w.closing = false) :
    w.iSendPartialPacket smallPacket = none ∧ w.sendPacket smallPacket = none := by
  have hnone : ∀ v : WorldSocket, v.space = 2 → v.iSendPartialPacket smallPacket = none := fun v hv =>
    partial_none rfl (by decide) (by rw [hv]; decide)
  have hdirect := iSendPacket_false (w := { w with calls := w.calls ++ [smallPacket] }) (p := smallPacket) (by
    show ¬ _ ≤ w.space
    rw [hspace]
    decide)
  refine ⟨hnone w hspace, ?_⟩
  unfold sendPacket
  rw [if_neg (by simp [hclosing])]
  simp only
  rw [if_neg (by simpa using hq), hdirect]
  simp only
  unfold enqueue iFlushPacketQueue
  simp only [hq, List.nil_append]
  unfold flushQueue
  rw [hnone { w with calls := w.calls ++ [smallPacket], packetQueue := [smallPacket] } hspace]
  rfl

theorem nearly_filled {p : WorldPacket} (hp : p.size + p.header.length = 65534) :
    ∃ w, Transition.run step (opened ⟨65536, by decide⟩ {}) [.sendPacket p] = w ∧ w.space = 2 ∧
      w.iSendPartialPacket smallPacket = none ∧ w.sendPacket smallPacket = none := by
  have hopen : (opened ⟨65536, by decide⟩ {}).space = 65536 := rfl
  have hrun := step_direct (w := opened ⟨65536, by decide⟩ {}) (p := p) rfl rfl rfl (by rw [hopen]; omega)
  have hspace := whole_space (opened ⟨65536, by decide⟩ {}) p
  rw [hopen, hp] at hspace
  exact ⟨_, hrun, hspace, two_left hspace rfl rfl⟩

/-- **A flush that overruns**: with an output buffer of 65536 bytes a first packet leaves two of them, and
sending one of a single byte comes to the assertion, as its header takes four. -/
theorem flush_overruns :
    (∃ w, Transition.run step (opened ⟨65536, by decide⟩ {}) [.sendPacket nearlyFilling] = w ∧ w.space = 2 ∧
      w.iSendPartialPacket smallPacket = none ∧ w.sendPacket smallPacket = none) ∧
    ¬ ∀ w : WorldSocket, (∀ pct, w.iSendPacket pct ≠ none) ∧ (∀ pct, w.iSendPartialPacket pct ≠ none) ∧
      w.iFlushPacketQueue ≠ none := by
  have h := nearly_filled (nearly_size (p := nearlyFilling) List.length_replicate)
  refine ⟨h, fun hall => ?_⟩
  obtain ⟨w, _, _, hnone, _⟩ := h
  exact (hall w).2.1 smallPacket hnone

end BlizzLike.WorldSocket
