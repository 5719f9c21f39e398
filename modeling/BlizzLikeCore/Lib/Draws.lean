import Mathlib.Algebra.BigOperators.Group.List.Basic
import Mathlib.Algebra.GroupWithZero.Nat
import Mathlib.Computability.Language
import Mathlib.Tactic.Common

/-!
# Programs that draw

A program is given all that a generator yields and changes a state that counts how much of it has been
drawn.  What it does, whatever is drawn, is told by a language: a `Meaning` says which change a word
stands for, and `Realizes m f L` that every run of `f` is a word of `L` and every word of `L` a run
for some draws.  Programs compose as their languages do.

    Realizes.seq     : one after the other, the product
    Realizes.branch  : a test that draws, the sum
    Realizes.forEach : a loop over a list, the product of the languages of its members
    Realizes.loop    : a loop that counts, a power
-/

namespace Draws

variable {σ δ α γ β : Type*}

/-- What is drawn from the `n`-th draw on begins with `l`. -/
def Shows (dice : Nat → δ) (n : Nat) (l : List δ) : Prop := ∀ i d, l[i]? = some d → dice (n + i) = d

/-- How many draws a state counts, and which change of it a word stands for. -/
structure Meaning (σ α : Type*) where
  drawn : σ → Nat
  effect : List α → σ → σ → Prop
  nil : ∀ s, effect [] s s
  append : ∀ u v s s' s'', effect u s s' → effect v s' s'' → effect (u ++ v) s s''

/-- For some draws a program started in `s` returns `r` when as much has been drawn as in `s'`. -/
def Can (m : Meaning σ α) (f : (Nat → δ) → γ) (s s' : σ) (r : γ) : Prop :=
  ∃ l : List δ, m.drawn s' = m.drawn s + l.length ∧ ∀ dice, Shows dice (m.drawn s) l → f dice = r

structure Realizes (m : Meaning σ α) (f : (Nat → δ) → σ → Option σ) (L : Language α) : Prop where
  sound : ∀ dice s s', f dice s = some s' → ∃ u ∈ L, m.effect u s s'
  complete : ∀ u ∈ L, ∀ s, ∃ s', m.effect u s s' ∧ Can m (fun dice => f dice s) s s' (some s')

/-- The words of a language, if there is any reason to have them. -/
def given (p : Prop) (L : Language α) : Language α := {u : List α | p ∧ u ∈ L}

/-- A test that draws: `yes` when it can succeed, `no` when it can fail. -/
structure Tests (m : Meaning σ α) (test : (Nat → δ) → σ → Bool × σ) (yes no : Prop) : Prop where
  effect : ∀ dice s, m.effect [] s (test dice s).2
  yes_of : ∀ dice s, (test dice s).1 = true → yes
  no_of : ∀ dice s, (test dice s).1 = false → no
  can_yes : yes → ∀ s, ∃ s', m.effect [] s s' ∧ Can m (fun dice => test dice s) s s' (true, s')
  can_no : no → ∀ s, ∃ s', m.effect [] s s' ∧ Can m (fun dice => test dice s) s s' (false, s')

theorem mem_given {p : Prop} {L : Language α} {u : List α} : u ∈ given p L ↔ p ∧ u ∈ L := Iff.rfl

theorem Shows.append {dice : Nat → δ} {n : Nat} {l l' : List δ} (h : Shows dice n (l ++ l')) :
    Shows dice n l ∧ Shows dice (n + l.length) l' := by
  refine ⟨fun i d hi => h i d ?_, fun i d hi => ?_⟩
  · obtain ⟨hlt, -⟩ := List.getElem?_eq_some_iff.1 hi
    rw [List.getElem?_append_left hlt, hi]
  · rw [Nat.add_assoc]
    refine h (l.length + i) d ?_
    rw [List.getElem?_append_right (Nat.le_add_right _ _), Nat.add_sub_cancel_left, hi]

theorem shows_exists [Inhabited δ] (n : Nat) (l : List δ) : ∃ dice, Shows dice n l :=
  ⟨fun k => (l[k - n]?).getD default, fun i d hi => by
    dsimp only
    rw [Nat.add_sub_cancel_left, hi]
    rfl⟩

variable {m : Meaning σ α} {f g : (Nat → δ) → σ → Option σ} {L M : Language α} {s s' s'' : σ}

theorem Can.pure (r : γ) : Can m (fun _ : Nat → δ => r) s s r :=
  ⟨[], rfl, fun _ _ => rfl⟩

theorem Can.trans {p : (Nat → δ) → γ} {k : (Nat → δ) → γ → β} {r : γ} {r' : β} (hp : Can m p s s' r)
    (hk : Can m (fun dice => k dice r) s' s'' r') : Can m (fun dice => k dice (p dice)) s s'' r' := by
  obtain ⟨l, hlen, hl⟩ := hp
  obtain ⟨l', hlen', hl'⟩ := hk
  refine ⟨l ++ l', by rw [hlen', hlen, List.length_append, Nat.add_assoc], fun dice hdice => ?_⟩
  obtain ⟨hfirst, hrest⟩ := hdice.append
  rw [← hlen] at hrest
  dsimp only
  rw [hl dice hfirst]
  exact hl' dice hrest

theorem Can.draw {p : (Nat → δ) → γ} {r : γ} (d : δ) (hlen : m.drawn s' = m.drawn s + 1)
    (h : ∀ dice, dice (m.drawn s) = d → p dice = r) : Can m p s s' r :=
  ⟨[d], hlen, fun dice hdice => h dice (hdice 0 d rfl)⟩

theorem Can.exists [Inhabited δ] {p : (Nat → δ) → γ} {r : γ} (h : Can m p s s' r) : ∃ dice, p dice = r := by
  obtain ⟨l, -, hl⟩ := h
  obtain ⟨dice, hdice⟩ := shows_exists (m.drawn s) l
  exact ⟨dice, hl dice hdice⟩

theorem pow_eq_prod (L : Language α) (n : Nat) : L ^ n = ((List.range n).map fun _ => L).prod := by
  rw [List.map_const', List.prod_replicate, List.length_range]

namespace Realizes

theorem stuck : Realizes m (fun (_ : Nat → δ) _ => none) (0 : Language α) where
  sound := fun _ _ _ h => nomatch h
  complete := fun u hu => absurd hu (Language.notMem_zero u)

theorem skip : Realizes m (fun (_ : Nat → δ) s => some s) (1 : Language α) where
  sound := fun _ s s' h => ⟨[], Language.nil_mem_one, Option.some.inj h ▸ m.nil s⟩
  complete := fun u hu s => by
    rw [Language.mem_one] at hu
    subst hu
    exact ⟨s, m.nil s, Can.pure _⟩

theorem seq (hf : Realizes m f L) (hg : Realizes m g M) :
    Realizes m (fun dice s => (f dice s).bind (g dice)) (L * M) where
  sound := fun dice s s'' h => by
    obtain ⟨s', hs', hs''⟩ := Option.bind_eq_some_iff.1 h
    obtain ⟨u, hu, hus⟩ := hf.sound dice s s' hs'
    obtain ⟨v, hv, hvs⟩ := hg.sound dice s' s'' hs''
    exact ⟨u ++ v, Language.append_mem_mul hu hv, m.append u v s s' s'' hus hvs⟩
  complete := fun w hw s => by
    obtain ⟨u, hu, v, hv, rfl⟩ := Language.mem_mul.1 hw
    obtain ⟨s', hus, hcan⟩ := hf.complete u hu s
    obtain ⟨s'', hvs, hcan'⟩ := hg.complete v hv s'
    exact ⟨s'', m.append u v s s' s'' hus hvs, hcan.trans (k := fun dice r => r.bind (g dice)) hcan'⟩

/-- **A test** and the two ways to go on after it. -/
theorem branch {test : (Nat → δ) → σ → Bool × σ} {yes no : Prop} (ht : Tests m test yes no)
    (hf : Realizes m f L) (hg : Realizes m g M) :
    Realizes m (fun dice s => if (test dice s).1 = false then g dice (test dice s).2 else f dice (test dice s).2)
      (given yes L + given no M) where
  sound := fun dice s s' h => by
    by_cases hit : (test dice s).1 = false
    · rw [if_pos hit] at h
      obtain ⟨u, hu, hus⟩ := hg.sound dice _ s' h
      exact ⟨u, (Language.mem_add _ _ _).2 (Or.inr ⟨ht.no_of dice s hit, hu⟩),
        m.append [] u s _ s' (ht.effect dice s) hus⟩
    · rw [if_neg hit] at h
      obtain ⟨u, hu, hus⟩ := hf.sound dice _ s' h
      exact ⟨u, (Language.mem_add _ _ _).2 (Or.inl ⟨ht.yes_of dice s (Bool.eq_true_of_not_eq_false hit), hu⟩),
        m.append [] u s _ s' (ht.effect dice s) hus⟩
  complete := fun u hu s => by
    let next := fun (dice : Nat → δ) (r : Bool × σ) => if r.1 = false then g dice r.2 else f dice r.2
    rcases (Language.mem_add _ _ _).1 hu with ⟨hyes, hu⟩ | ⟨hno, hu⟩
    · obtain ⟨s', htest, hcan⟩ := ht.can_yes hyes s
      obtain ⟨s'', hus, hcan'⟩ := hf.complete u hu s'
      exact ⟨s'', m.append [] u s s' s'' htest hus, hcan.trans (k := next) hcan'⟩
    · obtain ⟨s', htest, hcan⟩ := ht.can_no hno s
      obtain ⟨s'', hus, hcan'⟩ := hg.complete u hu s'
      exact ⟨s'', m.append [] u s s' s'' htest hus, hcan.trans (k := next) hcan'⟩

/-- **A loop** over a list. -/
theorem forEach {body : (Nat → δ) → σ → γ → Option σ} {lang : γ → Language α} {l : List γ}
    (h : ∀ a ∈ l, Realizes m (fun dice s => body dice s a) (lang a)) :
    Realizes m (fun dice s => l.foldlM (body dice) s) (l.map lang).prod := by
  induction l with
  | nil => exact skip
  | cons a l ih =>
    rw [List.map_cons, List.prod_cons]
    exact (h a List.mem_cons_self).seq (ih fun b hb => h b (List.mem_cons_of_mem a hb))

/-- **A loop** that counts. -/
theorem loop (hf : Realizes m f L) (n : Nat) :
    Realizes m (fun dice s => (List.range n).foldlM (fun s _ => f dice s) s) (L ^ n) := by
  rw [pow_eq_prod]
  exact forEach fun _ _ => hf

end Realizes

/-! ## Words -/

theorem exists_mem_prod {l : List γ} {K : γ → Language α} (h : ∀ a ∈ l, ∃ u, u ∈ K a) :
    ∃ u, u ∈ (l.map K).prod := by
  induction l with
  | nil => exact ⟨[], Language.nil_mem_one⟩
  | cons a l ih =>
    obtain ⟨u, hu⟩ := h a List.mem_cons_self
    obtain ⟨v, hv⟩ := ih fun b hb => h b (List.mem_cons_of_mem a hb)
    rw [List.map_cons, List.prod_cons]
    exact ⟨u ++ v, Language.append_mem_mul hu hv⟩

variable {l : List γ} {K : γ → Language α} {x : α}

theorem exists_letter_prod (h : ∀ a ∈ l, ∃ u, u ∈ K a) (hx : ∃ a ∈ l, ∃ u ∈ K a, x ∈ u) :
    ∃ u ∈ (l.map K).prod, x ∈ u := by
  induction l with
  | nil =>
    obtain ⟨a, ha, -⟩ := hx
    cases ha
  | cons a l ih =>
    rw [List.map_cons, List.prod_cons]
    have hrest : ∀ b ∈ l, ∃ u, u ∈ K b := fun b hb => h b (List.mem_cons_of_mem a hb)
    obtain ⟨b, hb, u, hu, hxu⟩ := hx
    rcases List.mem_cons.1 hb with rfl | hb
    · obtain ⟨v, hv⟩ := exists_mem_prod hrest
      exact ⟨u ++ v, Language.append_mem_mul hu hv, List.mem_append_left v hxu⟩
    · obtain ⟨u', hu'⟩ := h a List.mem_cons_self
      obtain ⟨v, hv, hxv⟩ := ih hrest ⟨b, hb, u, hu, hxu⟩
      exact ⟨u' ++ v, Language.append_mem_mul hu' hv, List.mem_append_right u' hxv⟩

theorem letter_of_prod {u : List α} (hu : u ∈ (l.map K).prod) (hx : x ∈ u) :
    ∃ a ∈ l, ∃ v ∈ K a, x ∈ v := by
  induction l generalizing u with
  | nil =>
    rw [List.map_nil, List.prod_nil, Language.mem_one] at hu
    subst hu
    cases hx
  | cons a l ih =>
    rw [List.map_cons, List.prod_cons] at hu
    obtain ⟨v, hv, v', hv', rfl⟩ := Language.mem_mul.1 hu
    rcases List.mem_append.1 hx with hx | hx
    · exact ⟨a, List.mem_cons_self, v, hv, hx⟩
    · obtain ⟨b, hb, hrest⟩ := ih hv' hx
      exact ⟨b, List.mem_cons_of_mem a hb, hrest⟩

theorem count_le_prod {count : List α → Nat} (hnil : count [] = 0)
    (happend : ∀ u v, count (u ++ v) = count u + count v) {c : γ → Nat}
    (h : ∀ a ∈ l, ∀ u ∈ K a, count u ≤ c a) {u : List α} (hu : u ∈ (l.map K).prod) :
    count u ≤ (l.map c).sum := by
  induction l generalizing u with
  | nil =>
    rw [List.map_nil, List.prod_nil, Language.mem_one] at hu
    rw [hu, hnil]
    exact Nat.zero_le _
  | cons a l ih =>
    rw [List.map_cons, List.prod_cons] at hu
    obtain ⟨v, hv, v', hv', rfl⟩ := Language.mem_mul.1 hu
    rw [happend, List.map_cons, List.sum_cons]
    exact Nat.add_le_add (h a List.mem_cons_self v hv) (ih (fun b hb => h b (List.mem_cons_of_mem a hb)) hv')

end Draws
