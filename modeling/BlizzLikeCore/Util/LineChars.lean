import Mathlib.Data.List.Chain
import Mathlib.Data.List.Infix
import Mathlib.Tactic.Common

/-!
# Invisible characters of a chat line

`stripLineInvisibleChars` squeezes each run of invisible characters to one space, in place: what it
has written never gets ahead of what it reads.

    stripLoop_squeeze : the loop writes what one pass over the line would (`squeeze`)
    strip_squeezes    : the visible characters stay, in order, no two invisible ones are adjacent, and
                        a second time changes nothing; a line with an interface texture is emptied
-/

namespace BlizzLike.LineChars

/-- `invChars`, that is `" \t\7\n"`. -/
def invChars : List UInt8 := [32, 9, 7, 10]

def invisible (c : UInt8) : Bool := invChars.contains c

/-- `"|TInterface"`. -/
def textureTag : List UInt8 := [124, 84, 73, 110, 116, 101, 114, 102, 97, 99, 101]

structure StripState where
  str : List UInt8
  wpos : Nat := 0
  space : Bool := false

/-- The body of the loop, at position `pos`. -/
def StripState.step (s : StripState) (pos : Nat) : StripState :=
  match s.str[pos]? with
  | none => s
  | some c =>
    if invisible c then
      if s.space then s else { str := s.str.set s.wpos 32, wpos := s.wpos + 1, space := true }
    else
      { str := if s.wpos ≠ pos then s.str.set s.wpos c else s.str, wpos := s.wpos + 1, space := false }

def stripLineInvisibleChars (str : List UInt8) : List UInt8 :=
  let s := (List.range str.length).foldl StripState.step { str }
  let out := if s.wpos < s.str.length then s.str.take s.wpos else s.str
  if textureTag <:+: out then [] else out

/-- The characters to be seen. -/
def visibleChars (str : List UInt8) : List UInt8 := str.filter fun c => !invisible c

/-- Not both are invisible. -/
def Apart (a b : UInt8) : Prop := ¬(invisible a = true ∧ invisible b = true)

/-- One pass over a line; `space` tells that an invisible character has just been seen. -/
def squeeze : Bool → List UInt8 → List UInt8
  | _, [] => []
  | space, c :: cs =>
    if invisible c then if space then squeeze true cs else 32 :: squeeze true cs else c :: squeeze false cs

section
variable {space : Bool} {c : UInt8} {cs : List UInt8}

theorem squeeze_skip (hc : invisible c = true) : squeeze true (c :: cs) = squeeze true cs := by
  rw [squeeze, if_pos hc, if_pos rfl]

theorem squeeze_space (hc : invisible c = true) : squeeze false (c :: cs) = 32 :: squeeze true cs := by
  rw [squeeze, if_pos hc, if_neg Bool.false_ne_true]

theorem squeeze_char (hc : invisible c = false) : squeeze space (c :: cs) = c :: squeeze false cs := by
  rw [squeeze, if_neg (Bool.eq_false_iff.1 hc)]

end

theorem squeeze_cons (space : Bool) (c : UInt8) (cs : List UInt8) :
    squeeze space (c :: cs) = squeeze space [c] ++ squeeze (invisible c) cs := by
  cases hc : invisible c with
  | false =>
    rw [squeeze_char hc, squeeze_char hc]
    rfl
  | true =>
    cases space with
    | true =>
      rw [squeeze_skip hc, squeeze_skip hc]
      rfl
    | false =>
      rw [squeeze_space hc, squeeze_space hc]
      rfl

/-! ## The loop -/

/-- One turn; `out` is what has been written, `junk` lies between the two positions. -/
theorem step_squeeze (out junk : List UInt8) (space : Bool) (c : UInt8) (rest : List UInt8) :
    ∃ junk', StripState.step ⟨out ++ junk ++ c :: rest, out.length, space⟩ (out ++ junk).length =
        ⟨out ++ squeeze space [c] ++ junk' ++ rest, (out ++ squeeze space [c]).length, invisible c⟩ ∧
      (out ++ squeeze space [c] ++ junk').length = (out ++ junk).length + 1 := by
  have hread : (out ++ junk ++ c :: rest)[(out ++ junk).length]? = some c := by simp
  -- the place that is written holds the first of what lies between, or the character itself
  obtain ⟨y, ys, hys⟩ : ∃ y ys, junk ++ [c] = y :: ys := List.exists_cons_of_ne_nil (by simp)
  have hlen : ys.length = junk.length := by
    have := congrArg List.length hys
    simp only [List.length_append, List.length_cons, List.length_nil] at this
    omega
  have hstr : out ++ junk ++ c :: rest = out ++ (y :: ys) ++ rest := by
    rw [← hys]
    simp
  have hset (d : UInt8) : (out ++ junk ++ c :: rest).set out.length d = out ++ [d] ++ ys ++ rest := by
    rw [hstr]
    simp
  unfold StripState.step
  simp only [hread]
  cases hc : invisible c with
  | true =>
    rw [if_pos rfl]
    cases space with
    | true =>
      rw [squeeze_skip hc]
      refine ⟨junk ++ [c], ?_, ?_⟩
      · simp [squeeze]
      · simp [squeeze, Nat.add_assoc]
    | false =>
      rw [squeeze_space hc, if_neg Bool.false_ne_true, hset]
      refine ⟨ys, ?_, ?_⟩
      · simp [squeeze]
      · simp only [squeeze, List.length_append, List.length_cons, List.length_nil, hlen]
        omega
  | false =>
    rw [squeeze_char hc, if_neg Bool.false_ne_true]
    refine ⟨ys, ?_, ?_⟩
    · have hwrite : (if out.length ≠ (out ++ junk).length then (out ++ junk ++ c :: rest).set out.length c
          else out ++ junk ++ c :: rest) = out ++ [c] ++ ys ++ rest := by
        split
        · exact hset c
        · next h =>
          have hjunk : junk = [] := by
            apply List.eq_nil_of_length_eq_zero
            rw [List.length_append] at h
            omega
          rw [hjunk] at hys
          cases hys
          rw [hjunk]
          simp
      rw [hwrite]
      simp [squeeze]
    · simp only [squeeze, List.length_append, List.length_cons, List.length_nil, hlen]
      omega

/-- **The loop**, from any position on. -/
theorem stripLoop_squeeze (rest out junk : List UInt8) (space : Bool) :
    ∃ junk' space', (List.range' (out ++ junk).length rest.length).foldl StripState.step
        ⟨out ++ junk ++ rest, out.length, space⟩ =
      ⟨out ++ squeeze space rest ++ junk', (out ++ squeeze space rest).length, space'⟩ := by
  induction rest generalizing out junk space with
  | nil => exact ⟨junk, space, by simp [squeeze]⟩
  | cons c rest ih =>
    obtain ⟨junk1, hstep, hlen⟩ := step_squeeze out junk space c rest
    rw [List.length_cons, List.range'_succ, List.foldl_cons, hstep, ← hlen, squeeze_cons space c rest,
      ← List.append_assoc out]
    exact ih (out ++ squeeze space [c]) junk1 (invisible c)

theorem stripLineInvisibleChars_eq (str : List UInt8) :
    stripLineInvisibleChars str = if textureTag <:+: squeeze false str then [] else squeeze false str := by
  obtain ⟨junk, space, hloop⟩ := stripLoop_squeeze str [] [] false
  simp only [List.nil_append, List.length_nil, ← List.range_eq_range'] at hloop
  have hout : (if (squeeze false str).length < (squeeze false str ++ junk).length then
      (squeeze false str ++ junk).take (squeeze false str).length else squeeze false str ++ junk) =
        squeeze false str := by
    split
    · exact List.take_left' rfl
    · next h =>
      have hjunk : junk = [] := by
        apply List.eq_nil_of_length_eq_zero
        rw [List.length_append] at h
        omega
      rw [hjunk, List.append_nil]
  unfold stripLineInvisibleChars
  simp only [hloop, hout]

/-! ## What one pass leaves -/

theorem visibleChars_cons (c : UInt8) (cs : List UInt8) :
    visibleChars (c :: cs) = if invisible c then visibleChars cs else c :: visibleChars cs := by
  unfold visibleChars
  rw [List.filter_cons]
  cases invisible c <;> rfl

theorem squeeze_visible (space : Bool) (str : List UInt8) :
    visibleChars (squeeze space str) = visibleChars str := by
  induction str generalizing space with
  | nil => rfl
  | cons c cs ih =>
    rw [visibleChars_cons c cs]
    cases hc : invisible c with
    | false =>
      rw [squeeze_char hc, visibleChars_cons, hc, ih]
    | true =>
      rw [if_pos rfl, ← ih true]
      cases space with
      | true => rw [squeeze_skip hc]
      | false =>
        rw [squeeze_space hc, visibleChars_cons]
        exact if_pos (by decide)

theorem squeeze_apart (space : Bool) (str : List UInt8) :
    (squeeze space str).IsChain Apart ∧ (space = true → ∀ c ∈ (squeeze space str).head?, invisible c = false) := by
  induction str generalizing space with
  | nil => exact ⟨List.IsChain.nil, fun _ c hc => by cases hc⟩
  | cons c cs ih =>
    obtain ⟨hchain, hhead⟩ := ih (invisible c)
    cases hc : invisible c with
    | false =>
      rw [hc] at hchain
      rw [squeeze_char hc]
      refine ⟨List.isChain_cons.2 ⟨fun d _ h => Bool.eq_false_iff.1 hc h.1, hchain⟩, fun _ d hd => ?_⟩
      cases hd
      exact hc
    | true =>
      rw [hc] at hchain hhead
      cases space with
      | true =>
        rw [squeeze_skip hc]
        exact ⟨hchain, fun _ => hhead rfl⟩
      | false =>
        rw [squeeze_space hc]
        refine ⟨List.isChain_cons.2 ⟨fun d hd h => ?_, hchain⟩, fun h => by cases h⟩
        exact Bool.eq_false_iff.1 (hhead rfl d hd) h.2

/-- A second pass changes nothing. -/
theorem squeeze_squeeze (space : Bool) (str : List UInt8) :
    squeeze space (squeeze space str) = squeeze space str := by
  induction str generalizing space with
  | nil => rfl
  | cons c cs ih =>
    cases hc : invisible c with
    | false => rw [squeeze_char hc, squeeze_char hc, ih]
    | true =>
      cases space with
      | true => rw [squeeze_skip hc, ih]
      | false => rw [squeeze_space hc, squeeze_space (by decide), ih]

/-! ## Text without invisible characters -/

theorem prefix_squeeze (tag str : List UInt8) (h : ∀ c ∈ tag, invisible c = false) :
    tag <+: squeeze false str ↔ tag <+: str := by
  induction tag generalizing str with
  | nil => exact ⟨fun _ => List.nil_prefix, fun _ => List.nil_prefix⟩
  | cons d tag ih =>
    have hd := h d List.mem_cons_self
    cases str with
    | nil => rfl
    | cons c cs =>
      cases hc : invisible c with
      | false =>
        rw [squeeze_char hc, List.cons_prefix_cons, List.cons_prefix_cons,
          ih cs fun x hx => h x (List.mem_cons_of_mem _ hx)]
      | true =>
        rw [squeeze_space hc, List.cons_prefix_cons, List.cons_prefix_cons]
        constructor
        · rintro ⟨rfl, -⟩
          exact absurd hd (by decide)
        · rintro ⟨rfl, -⟩
          exact absurd hc (Bool.eq_false_iff.1 hd)

theorem infix_squeeze (tag str : List UInt8) (hne : tag ≠ []) (h : ∀ c ∈ tag, invisible c = false)
    (space : Bool) : tag <:+: squeeze space str ↔ tag <:+: str := by
  have hno {c : UInt8} (hc : invisible c = true) (cs : List UInt8) : ¬ tag <+: c :: cs := by
    obtain ⟨d, tag, rfl⟩ := List.exists_cons_of_ne_nil hne
    intro hp
    obtain ⟨rfl, -⟩ := List.cons_prefix_cons.1 hp
    exact absurd hc (Bool.eq_false_iff.1 (h d List.mem_cons_self))
  induction str generalizing space with
  | nil => rfl
  | cons c cs ih =>
    cases hc : invisible c with
    | false =>
      have hp := prefix_squeeze tag (c :: cs) h
      rw [squeeze_char hc] at hp ⊢
      rw [List.infix_cons_iff, List.infix_cons_iff, hp]
      exact or_congr_right (ih false)
    | true =>
      rw [List.infix_cons_iff, or_iff_right (hno hc cs)]
      refine Iff.trans ?_ (ih true)
      cases space with
      | true => rw [squeeze_skip hc]
      | false => rw [squeeze_space hc, List.infix_cons_iff, or_iff_right (hno (by decide) _)]

/-- **Stripped lines**: for every line the visible characters stay as they are, unless it has an interface
texture, for which it is emptied; no two invisible characters are adjacent, and stripping a second
time changes nothing. -/
theorem strip_squeezes (str : List UInt8) :
    visibleChars (stripLineInvisibleChars str) = (if textureTag <:+: str then [] else visibleChars str) ∧
      (stripLineInvisibleChars str).IsChain Apart ∧
      stripLineInvisibleChars (stripLineInvisibleChars str) = stripLineInvisibleChars str := by
  have htag : textureTag <:+: squeeze false str ↔ textureTag <:+: str :=
    infix_squeeze textureTag str (by decide) (by simp [textureTag, invisible, invChars]) false
  rw [stripLineInvisibleChars_eq]
  by_cases h : textureTag <:+: str
  · rw [if_pos h, if_pos (htag.2 h)]
    exact ⟨rfl, List.IsChain.nil, by decide⟩
  · have hno := fun hs => h (htag.1 hs)
    rw [if_neg h, if_neg hno, stripLineInvisibleChars_eq, squeeze_squeeze, if_neg hno]
    exact ⟨squeeze_visible false str, (squeeze_apart false str).1, rfl⟩

/-- A line with a texture loses what can be seen. -/
theorem strip_empties :
    ¬ ∀ str, visibleChars (stripLineInvisibleChars str) = visibleChars str ∧
      (stripLineInvisibleChars str).IsChain Apart ∧
      stripLineInvisibleChars (stripLineInvisibleChars str) = stripLineInvisibleChars str := by
  intro h
  exact absurd (h textureTag).1 (by decide)

end BlizzLike.LineChars
