import BlizzLikeCore.Lib.Chains
import Mathlib.Order.Filter.AtTopBot.Basic
import Mathlib.Order.Filter.Finite

/-!
# Recursive calls

`body call p` is the procedure `p` when it reaches the others through `call`, and `run` ties the knot
up to a depth, below which every procedure is `stuck`.  A relation `calls p q` says which others a
procedure depends on.

    eventually_run : what a procedure inherits from those it calls holds at every great enough depth,
                     unless its calls lead to a circle
    run_of_circle  : what it inherits from any of them holds at no depth less when they do
-/

namespace Calls

open Relation Filter

variable {ι β : Type*}

/-- The recursion, `stuck` where the calls go deeper than allowed. -/
def run (body : (ι → β) → ι → β) (stuck : β) : Nat → ι → β
  | 0 => fun _ => stuck
  | depth + 1 => body (run body stuck depth)

variable {body : (ι → β) → ι → β} {stuck : β} {calls : ι → ι → Prop} {p q : ι}

/-- **Without circles** the procedures come to an end, those called first. -/
theorem eventually_run {Q : ι → β → Prop}
    (h : ∀ call x, ReflTransGen calls p x → (∀ q, calls x q → Q q (call q)) → Q x (body call x))
    (hfin : {q | ReflTransGen calls p q}.Finite)
    (hcircle : ∀ q, ReflTransGen calls p q → ¬ TransGen calls q q) :
    ∀ᶠ depth in atTop, Q p (run body stuck depth p) := by
  have hwf : WellFounded fun y x => calls x y ∧ ReflTransGen calls p x := by
    refine Chains.wellFounded_of_acyclic hfin (fun y x hyx => ⟨hyx.2.tail hyx.1, hyx.2⟩) fun x hx => ?_
    have hswap : TransGen (Function.swap calls) x x := hx.lift id fun _ _ hyx => hyx.1
    have hback : TransGen calls x x := transGen_swap.1 hswap
    obtain ⟨y, -, hyx⟩ := TransGen.tail'_iff.1 hx
    exact hcircle x hyx.2 hback
  have hall : ∀ x, ReflTransGen calls p x → ∀ᶠ depth in atTop, Q x (run body stuck depth x) := by
    intro x
    induction x using hwf.induction with
    | _ x ih =>
      intro hx
      have hcallees : {y | calls x y}.Finite := hfin.subset fun y hy => hx.tail hy
      have hdeep : ∀ᶠ depth in atTop, ∀ y ∈ {y | calls x y}, Q y (run body stuck depth y) :=
        (eventually_all_finite hcallees).2 fun y hy => ih y ⟨hy, hx⟩ (hx.tail hy)
      obtain ⟨depth, hdepth⟩ := eventually_atTop.1 hdeep
      refine eventually_atTop.2 ⟨depth + 1, fun d hd => ?_⟩
      obtain ⟨d, rfl⟩ : ∃ e, d = e + 1 := ⟨d - 1, by omega⟩
      exact h _ x hx (hdepth d (by omega))
  exact hall p ReflTransGen.refl

/-- **A circle of calls** is never left. -/
theorem run_of_circle {Q : β → Prop} (hstuck : Q stuck)
    (h : ∀ call p q, calls p q → Q (call q) → Q (body call p))
    (hlead : ReflTransGen calls p q) (hq : TransGen calls q q) (depth : Nat) :
    Q (run body stuck depth p) := by
  -- whatever leads to the circle calls something that leads there
  have hpq : TransGen calls p q := TransGen.trans_right hlead hq
  clear hlead
  induction depth generalizing p with
  | zero => exact hstuck
  | succ depth ih =>
    obtain ⟨x, hpx, hxq⟩ := TransGen.head'_iff.1 hpq
    exact h _ p x hpx (ih (TransGen.trans_right hxq hq))

/-! ## What is led to -/

/-- The calls of a procedure lead to one with the property. -/
def Leads (calls : ι → ι → Prop) (P : ι → Prop) (p : ι) : Prop := ∃ q, ReflTransGen calls p q ∧ P q

theorem leads_iff {P : ι → Prop} : Leads calls P p ↔ P p ∨ ∃ q, calls p q ∧ Leads calls P q := by
  constructor
  · rintro ⟨q, hq, hP⟩
    rcases ReflTransGen.cases_head hq with rfl | ⟨x, hpx, hxq⟩
    · exact Or.inl hP
    · exact Or.inr ⟨x, hpx, q, hxq, hP⟩
  · rintro (hP | ⟨x, hpx, q, hxq, hP⟩)
    · exact ⟨p, ReflTransGen.refl, hP⟩
    · exact ⟨q, ReflTransGen.head hpx hxq, hP⟩

theorem Leads.mono {calls' : ι → ι → Prop} {P P' : ι → Prop} (hcalls : ∀ x y, calls x y → calls' x y)
    (hP : ∀ x, P x → P' x) (h : Leads calls P p) : Leads calls' P' p := by
  obtain ⟨q, hq, hPq⟩ := h
  exact ⟨q, hq.lift id hcalls, hP q hPq⟩

theorem leads_congr {P P' : ι → Prop} (h : ∀ q, ReflTransGen calls p q → (P q ↔ P' q)) :
    Leads calls P p ↔ Leads calls P' p := by
  constructor
  · rintro ⟨q, hq, hP⟩
    exact ⟨q, hq, (h q hq).1 hP⟩
  · rintro ⟨q, hq, hP⟩
    exact ⟨q, hq, (h q hq).2 hP⟩

/-! ## Loops -/

variable {σ α : Type*} {f : σ → α → Option σ} {l : List α} {a : α}

theorem foldlM_isSome (h : ∀ a ∈ l, ∀ s, (f s a).isSome) (s : σ) : (l.foldlM f s).isSome := by
  induction l generalizing s with
  | nil => rfl
  | cons a l ih =>
    obtain ⟨t, ht⟩ := Option.isSome_iff_exists.1 (h a List.mem_cons_self s)
    rw [List.foldlM_cons, ht]
    exact ih (fun b hb => h b (List.mem_cons_of_mem a hb)) t

theorem foldlM_eq_none (ha : a ∈ l) (h : ∀ s, f s a = none) (s : σ) : l.foldlM f s = none := by
  induction l generalizing s with
  | nil => cases ha
  | cons b l ih =>
    rw [List.foldlM_cons]
    rcases List.mem_cons.1 ha with rfl | hl
    · rw [h s]
      rfl
    · cases f s b with
      | none => rfl
      | some t => exact ih hl t

end Calls
