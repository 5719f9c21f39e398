import Mathlib.Tactic.Common

/-!
# Transition systems: runs, guarded runs, invariants

A deterministic system `step : σ → α → σ` driven by a list of inputs.  `Along P s as` says that
`P` holds at every step of the run from `s` over `as`; guards and step laws are both of this
form, and `along_of_invariant` gets the second from the first.

    run_invariant      : an invariant that guarded steps keep holds after a guarded run
    along_of_invariant : a law that guarded steps meet under the invariant holds all along
    along_iff          : a guard that is exact for steps is exact for runs
    along_iff_of_invariant : it is when that holds under an invariant of guarded steps
-/

namespace Transition

variable {σ α : Type*} (step : σ → α → σ)

def run : σ → List α → σ
  | s, [] => s
  | s, a :: as => run (step s a) as

/-- `P` holds at every step of a run. -/
def Along (P : σ → α → Prop) : σ → List α → Prop
  | _, [] => True
  | s, a :: as => P s a ∧ Along P (step s a) as

instance decidableAlong (P : σ → α → Prop) [∀ s a, Decidable (P s a)] :
    ∀ (s : σ) (as : List α), Decidable (Along step P s as)
  | _, [] => inferInstanceAs (Decidable True)
  | s, a :: as =>
    have := decidableAlong P (step s a) as
    inferInstanceAs (Decidable (_ ∧ _))

variable {step} {I J : σ → Prop} {G P Q : σ → α → Prop}

theorem run_append (s : σ) (as bs : List α) : run step s (as ++ bs) = run step (run step s as) bs := by
  induction as generalizing s with
  | nil => rfl
  | cons a as ih => exact ih (step s a)

theorem along_append (s : σ) (as bs : List α) :
    Along step P s (as ++ bs) ↔ Along step P s as ∧ Along step P (run step s as) bs := by
  induction as generalizing s with
  | nil => exact ⟨fun h => ⟨trivial, h⟩, fun h => h.2⟩
  | cons a as ih => exact (and_congr_right fun _ => ih (step s a)).trans and_assoc.symm

theorem Along.mono (h : ∀ s a, P s a → Q s a) {s : σ} {as : List α} (hp : Along step P s as) :
    Along step Q s as := by
  induction as generalizing s with
  | nil => trivial
  | cons a as ih => exact ⟨h s a hp.1, ih hp.2⟩

theorem Along.and {s : σ} {as : List α} (hp : Along step P s as) (hq : Along step Q s as) :
    Along step (fun s a => P s a ∧ Q s a) s as := by
  induction as generalizing s with
  | nil => trivial
  | cons a as ih => exact ⟨⟨hp.1, hq.1⟩, ih hp.2 hq.2⟩

/-- **An invariant of all steps** holds after every run. -/
theorem invariant_run (hI : ∀ s a, I s → I (step s a)) {s : σ} (hs : I s) (as : List α) :
    I (run step s as) := by
  induction as generalizing s with
  | nil => exact hs
  | cons a as ih => exact ih (hI s a hs)

/-- **An invariant of guarded steps** holds after a guarded run. -/
theorem run_invariant (hI : ∀ s a, I s → G s a → I (step s a)) {s : σ} {as : List α} (hs : I s)
    (hg : Along step G s as) : I (run step s as) := by
  induction as generalizing s with
  | nil => exact hs
  | cons a as ih => exact ih (hI s a hs hg.1) hg.2

/-- **A law of guarded steps** holds all along a guarded run. -/
theorem along_of_invariant (hI : ∀ s a, I s → G s a → I (step s a)) (hP : ∀ s a, I s → G s a → P s a)
    {s : σ} {as : List α} (hs : I s) (hg : Along step G s as) : Along step P s as := by
  induction as generalizing s with
  | nil => trivial
  | cons a as ih => exact ⟨hP s a hs hg.1, ih (hI s a hs hg.1) hg.2⟩

/-- **The exact guard under an invariant**: when guarded steps keep the invariant, and under it a
step is lawful just if it is guarded, a run is lawful just if it is guarded. -/
theorem along_iff_of_invariant (hI : ∀ s a, I s → G s a → I (step s a)) (h : ∀ s a, I s → (P s a ↔ G s a))
    {s : σ} {as : List α} (hs : I s) : Along step P s as ↔ Along step G s as := by
  induction as generalizing s with
  | nil => exact Iff.rfl
  | cons a as ih =>
    constructor
    · rintro ⟨h1, h2⟩
      have hg := (h s a hs).1 h1
      exact ⟨hg, (ih (hI s a hs hg)).1 h2⟩
    · rintro ⟨h1, h2⟩
      exact ⟨(h s a hs).2 h1, (ih (hI s a hs h1)).2 h2⟩

/-- **The exact guard**: when a step from a good state is lawful just if it is guarded, and lawful
steps lead to good states, a run is lawful just if it is guarded. -/
theorem along_iff (hJ : ∀ s a, J s → J (step s a)) (hI : ∀ s a, J s → P s a → I (step s a))
    (h : ∀ s a, J s → I s → (P s a ↔ G s a)) {s : σ} {as : List α} (hj : J s) (hs : I s) :
    Along step P s as ↔ Along step G s as := by
  have hstep : ∀ s a, J s ∧ I s → G s a → J (step s a) ∧ I (step s a) := fun s a hs hg =>
    ⟨hJ s a hs.1, hI s a hs.1 ((h s a hs.1 hs.2).2 hg)⟩
  exact along_iff_of_invariant hstep (fun s a hs => h s a hs.1 hs.2) ⟨hj, hs⟩

/-- **Refinement along a run**: when every guarded step comes to a lawful run of another system
on the image of the state, so does every guarded run. -/
theorem run_refines {τ β : Type*} (abs : σ → τ) {step' : τ → β → τ} {L : τ → β → Prop}
    (h : ∀ s a, I s → G s a → I (step s a) ∧
      ∃ bs, abs (step s a) = run step' (abs s) bs ∧ Along step' L (abs s) bs)
    {s : σ} {as : List α} (hs : I s) (hg : Along step G s as) :
    ∃ bs, abs (run step s as) = run step' (abs s) bs ∧ Along step' L (abs s) bs := by
  induction as generalizing s with
  | nil => exact ⟨[], rfl, trivial⟩
  | cons a as ih =>
    obtain ⟨hI, bs, hb, hl⟩ := h s a hs hg.1
    obtain ⟨cs, hc, hk⟩ := ih hI hg.2
    rw [hb] at hc hk
    exact ⟨bs ++ cs, by rw [run_append]; exact hc, (along_append _ _ _).2 ⟨hl, hk⟩⟩

end Transition
