import Mathlib.Tactic.Common

/-!
# UTF-8 to UTF-16

`Utf8toWStr` and `utf8truncate` size their buffers by the number of code points, and `utf8to16` writes two
units for a code point past 0xFFFF.  A valid text is the list of its code points here, which is what
`distance` counts; at U+FFFE and U+FFFF it throws.

    utf8to16_isSome   : the converter stays inside just if there is room for all units
    inside_iff        : when each of the functions does
-/

namespace BlizzLike.Utf8

/-- A unit written through a pointer into a buffer; outside of it there is no result. -/
def storeUnit (buf : List UInt16) (pos : Nat) (unit : UInt16) : Option (List UInt16) :=
  if pos < buf.length then some (buf.set pos unit) else none

/-- `utf8::utf8to16`, that writes from `pos` on. -/
def utf8to16 : List Char → List UInt16 → Nat → Option (List UInt16)
  | [], buf, _ => some buf
  | c :: cs, buf, pos =>
    if c.toNat > 0xFFFF then do
      let buf ← storeUnit buf pos (UInt16.ofNat (c.toNat / 1024 + 0xD7C0))
      let buf ← storeUnit buf (pos + 1) (UInt16.ofNat (c.toNat % 1024 + 0xDC00))
      utf8to16 cs buf (pos + 2)
    else do
      let buf ← storeUnit buf pos (UInt16.ofNat c.toNat)
      utf8to16 cs buf (pos + 1)

/-- `is_code_point_valid`, of what is no surrogate. -/
def isCodePointValid (cp : Nat) : Bool := cp != 0xFFFE && cp != 0xFFFF

/-- `utf8::distance`, which checks each code point. -/
def distance (utf8str : List Char) : Option Nat :=
  if utf8str.all fun c => isCodePointValid c.toNat then some utf8str.length else none

def isLeadSurrogate (u : UInt16) : Bool := decide (0xD800 ≤ u.toNat ∧ u.toNat ≤ 0xDBFF)

def isTrailSurrogate (u : UInt16) : Bool := decide (0xDC00 ≤ u.toNat ∧ u.toNat ≤ 0xDFFF)

/-- `utf8::append`. -/
def appendCodePoint (cp : Nat) (cs : List Char) : Option (List Char) :=
  if isCodePointValid cp then some (Char.ofNat cp :: cs) else none

/-- `utf8::utf16to8`; a surrogate without its pair is thrown at. -/
def utf16to8 : List UInt16 → Option (List Char)
  | [] => some []
  | u :: us =>
    if isLeadSurrogate u then
      match us with
      | t :: us =>
        if isTrailSurrogate t then
          (utf16to8 us).bind (appendCodePoint ((u.toNat - 0xD7C0) * 1024 + (t.toNat - 0xDC00)))
        else none
      | [] => none
    else if isTrailSurrogate u then none
    else (utf16to8 us).bind (appendCodePoint u.toNat)

/-- `Utf8toWStr` into a buffer: what it returns, `wsize` and the buffer. -/
def utf8toWStrBuffer (utf8str : List Char) (wsize : Nat) (wstr : List UInt16) :
    Option (Bool × Nat × List UInt16) :=
  match distance utf8str with
  | none => (storeUnit wstr 0 0).map fun buf => (false, 0, buf)
  | some len =>
    if len > wsize then (storeUnit wstr 0 0).map fun buf => (false, 0, buf)
    else do
      let buf ← utf8to16 utf8str wstr 0
      let buf ← storeUnit buf len 0
      some (true, len, buf)

/-- `Utf8toWStr` into a `wstring`. -/
def utf8toWStr (utf8str : List Char) : Option (Bool × List UInt16) :=
  match distance utf8str with
  | none => some (false, [])
  | some len => (utf8to16 utf8str (List.replicate len 0) 0).map fun wstr => (true, wstr)

def utf8truncate (utf8str : List Char) (len : Nat) : Option (List Char) :=
  match distance utf8str with
  | none => some []
  | some wlen =>
    if wlen ≤ len then some utf8str
    else (utf8to16 utf8str (List.replicate wlen 0) 0).map fun wstr => (utf16to8 (wstr.take len)).getD []

/-- The UTF-16 units of a text. -/
def utf16Length : List Char → Nat
  | [] => 0
  | c :: cs => (if c.toNat > 0xFFFF then 2 else 1) + utf16Length cs

/-! ## The converter -/

theorem storeUnit_length {buf buf' : List UInt16} {pos : Nat} {unit : UInt16}
    (h : storeUnit buf pos unit = some buf') : buf'.length = buf.length := by
  unfold storeUnit at h
  split at h
  · cases h
    exact List.length_set
  · cases h

theorem storeUnit_bind {α : Type} (buf : List UInt16) (pos : Nat) (unit : UInt16) (f : List UInt16 → Option α) :
    (storeUnit buf pos unit >>= f).isSome ↔ pos < buf.length ∧ (f (buf.set pos unit)).isSome := by
  unfold storeUnit
  split
  · next h => exact (and_iff_right h).symm
  · next h => exact iff_of_false Bool.false_ne_true fun hs => h hs.1

theorem utf8to16_length {cs : List Char} {buf buf' : List UInt16} {pos : Nat}
    (h : utf8to16 cs buf pos = some buf') : buf'.length = buf.length := by
  induction cs generalizing buf pos with
  | nil =>
    cases h
    rfl
  | cons c cs ih =>
    unfold utf8to16 at h
    split at h
    · obtain ⟨b1, h1, h⟩ := Option.bind_eq_some_iff.1 h
      obtain ⟨b2, h2, h⟩ := Option.bind_eq_some_iff.1 h
      rw [ih h, storeUnit_length h2, storeUnit_length h1]
    · obtain ⟨b1, h1, h⟩ := Option.bind_eq_some_iff.1 h
      rw [ih h, storeUnit_length h1]

/-- **The converter** stays inside the buffer just if there is room for every unit. -/
theorem utf8to16_isSome (cs : List Char) (buf : List UInt16) (pos : Nat) (hpos : pos ≤ buf.length) :
    (utf8to16 cs buf pos).isSome ↔ pos + utf16Length cs ≤ buf.length := by
  induction cs generalizing buf pos with
  | nil => exact iff_of_true rfl hpos
  | cons c cs ih =>
    unfold utf8to16 utf16Length
    split
    · rw [storeUnit_bind, storeUnit_bind, List.length_set]
      constructor
      · rintro ⟨-, h2, h⟩
        rw [ih _ _ (by rw [List.length_set, List.length_set]; omega), List.length_set, List.length_set] at h
        omega
      · intro h
        refine ⟨by omega, by omega, ?_⟩
        rw [ih _ _ (by rw [List.length_set, List.length_set]; omega), List.length_set, List.length_set]
        omega
    · rw [storeUnit_bind]
      constructor
      · rintro ⟨h1, h⟩
        rw [ih _ _ (by rw [List.length_set]; omega), List.length_set] at h
        omega
      · intro h
        refine ⟨by omega, ?_⟩
        rw [ih _ _ (by rw [List.length_set]; omega), List.length_set]
        omega

/-- There are as many units as code points just if none is past 0xFFFF. -/
theorem utf16Length_le_iff (cs : List Char) :
    cs.length ≤ utf16Length cs ∧ (utf16Length cs ≤ cs.length ↔ ∀ c ∈ cs, c.toNat ≤ 0xFFFF) := by
  induction cs with
  | nil => exact ⟨Nat.le_refl 0, iff_of_true (Nat.le_refl 0) fun c hc => absurd hc List.not_mem_nil⟩
  | cons c cs ih =>
    obtain ⟨hle, hiff⟩ := ih
    unfold utf16Length
    rw [List.length_cons, List.forall_mem_cons, ← hiff]
    split
    · exact ⟨by omega, by omega⟩
    · exact ⟨by omega, by omega⟩

theorem distance_eq {s : List Char} {len : Nat} (h : distance s = some len) : len = s.length := by
  unfold distance at h
  split at h
  · exact (Option.some.inj h).symm
  · cases h

/-- A buffer of as many units as there are code points. -/
theorem sized_isSome (s : List Char) :
    (utf8to16 s (List.replicate s.length 0) 0).isSome ↔ ∀ c ∈ s, c.toNat ≤ 0xFFFF := by
  rw [utf8to16_isSome _ _ _ (Nat.zero_le _), List.length_replicate, Nat.zero_add]
  exact (utf16Length_le_iff s).2

theorem utf8toWStrBuffer_inside (s : List Char) (wsize : Nat) (wstr : List UInt16) (h : wsize < wstr.length) :
    (utf8toWStrBuffer s wsize wstr).isSome ↔
      distance s = none ∨ wsize < s.length ∨ utf16Length s ≤ wstr.length := by
  have hrefused : ((storeUnit wstr 0 0).map fun buf => (false, 0, buf)).isSome := by
    rw [Option.isSome_map, storeUnit, if_pos (by omega)]
    rfl
  unfold utf8toWStrBuffer
  split
  · next hthrown => exact iff_of_true hrefused (Or.inl hthrown)
  · next len hlen =>
    cases distance_eq hlen
    rw [hlen, or_iff_right (Option.some_ne_none _)]
    split
    · next hlong => exact iff_of_true hrefused (Or.inl hlong)
    · next hshort =>
      have hsome := utf8to16_isSome s wstr 0 (Nat.zero_le _)
      rw [Nat.zero_add] at hsome
      rw [or_iff_right hshort, ← hsome]
      cases hconv : utf8to16 s wstr 0 with
      | none => rfl
      | some buf =>
        refine iff_of_true ((storeUnit_bind buf s.length 0 _).2 ⟨?_, rfl⟩) rfl
        rw [utf8to16_length hconv]
        omega

theorem utf8toWStr_inside (s : List Char) :
    (utf8toWStr s).isSome ↔ distance s = none ∨ ∀ c ∈ s, c.toNat ≤ 0xFFFF := by
  unfold utf8toWStr
  split
  · next hthrown => exact iff_of_true rfl (Or.inl hthrown)
  · next len hlen =>
    cases distance_eq hlen
    rw [hlen, or_iff_right (Option.some_ne_none _), Option.isSome_map]
    exact sized_isSome s

theorem utf8truncate_inside (s : List Char) (len : Nat) :
    (utf8truncate s len).isSome ↔ distance s = none ∨ s.length ≤ len ∨ ∀ c ∈ s, c.toNat ≤ 0xFFFF := by
  unfold utf8truncate
  split
  · next hthrown => exact iff_of_true rfl (Or.inl hthrown)
  · next wlen hlen =>
    cases distance_eq hlen
    rw [hlen, or_iff_right (Option.some_ne_none _)]
    split
    · next hle => exact iff_of_true rfl (Or.inl hle)
    · next hle =>
      rw [or_iff_right hle, Option.isSome_map]
      exact sized_isSome s

/-- **Inside the buffers.**  For every text at which `distance` does not throw and every capacity: `Utf8toWStr`
into a buffer that has room for `wsize` units and the terminating zero stays inside just if it refuses the
text or the buffer has room for all its units; into a `wstring`, just if no code point is past 0xFFFF;
and `utf8truncate` just if there is nothing to cut or no code point is past 0xFFFF. -/
theorem inside_iff (s : List Char) (wsize len : Nat) (wstr : List UInt16) (h : wsize < wstr.length) :
    ((utf8toWStrBuffer s wsize wstr).isSome ↔
        distance s = none ∨ wsize < s.length ∨ utf16Length s ≤ wstr.length) ∧
      ((utf8toWStr s).isSome ↔ distance s = none ∨ ∀ c ∈ s, c.toNat ≤ 0xFFFF) ∧
      ((utf8truncate s len).isSome ↔ distance s = none ∨ s.length ≤ len ∨ ∀ c ∈ s, c.toNat ≤ 0xFFFF) :=
  ⟨utf8toWStrBuffer_inside s wsize wstr h, utf8toWStr_inside s, utf8truncate_inside s len⟩

/-- A face and a letter, with a buffer of two units and the zero. -/
theorem inside_iff_face :
    ((utf8toWStrBuffer ['😀', 'a'] 2 [0, 0, 0]).isSome ↔
        distance ['😀', 'a'] = none ∨ 2 < 2 ∨ utf16Length ['😀', 'a'] ≤ 3) ∧
      ((utf8toWStr ['😀', 'a']).isSome ↔ distance ['😀', 'a'] = none ∨ ∀ c ∈ ['😀', 'a'], c.toNat ≤ 0xFFFF) ∧
      ((utf8truncate ['😀', 'a'] 1).isSome ↔
        distance ['😀', 'a'] = none ∨ 2 ≤ 1 ∨ ∀ c ∈ ['😀', 'a'], c.toNat ≤ 0xFFFF) :=
  inside_iff ['😀', 'a'] 2 1 [0, 0, 0] (by decide)

/-- One face is one code point and two units. -/
theorem face_outside :
    ¬ ∀ (s : List Char) (wsize len : Nat) (wstr : List UInt16), wsize < wstr.length →
      (utf8toWStrBuffer s wsize wstr).isSome ∧ (utf8toWStr s).isSome ∧ (utf8truncate s len).isSome := by
  intro h
  exact absurd (h ['😀'] 1 0 [0, 0] (by decide)).2.1 (by decide)

end BlizzLike.Utf8
