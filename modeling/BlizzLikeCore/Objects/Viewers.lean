import BlizzLikeCore.Lib.Transition
import BlizzLikeCore.Objects.UpdateBlocks

/-!
# What viewers hold

A viewer gets the create block of an object in the world and then what each round of updates sends.  Rounds tell
changes by the mirror, which is what the object was at the last round, while the create block is built from what the
object is.  A field that was changed since the last round, is shown so to a new viewer, and is set back before the
next round counts as unchanged there: the viewer is left with the value in between.

    up_to_date : viewers hold what the object has exactly when no field is set back like this
-/

namespace BlizzLike

open Transition

/-- What happens to an object. -/
inductive ObjectEvent where
  | call (c : FieldCall)
  | addToWorld
  | removeFromWorld
  | force (i : Nat)
  | update
  deriving DecidableEq, Repr

namespace Object

/-- What `ObjectAccessor::Update` does with an object that it has: it is taken from the list, and the mirror follows
when all blocks are built. -/
def update (o : Object) : Object :=
  if o.queued then { o with queued := false }.clearUpdateMask false else o

def event (fl : FloatBits) (o : Object) : ObjectEvent → Object
  | .call c => o.call fl c
  | .addToWorld => o.addToWorld
  | .removeFromWorld => o.removeFromWorld
  | .force i => o.forceValuesUpdateAtIndex i
  | .update => o.update

end Object

/-- An object and the fields one viewer holds of it. -/
structure Viewing where
  object : Object
  client : Nat → BitVec 32

/-- After the create block: a setter is called, or there is a round with the viewer as it is then. -/
inductive ViewStep where
  | call (c : FieldCall)
  | round (view : ViewerState)

namespace Viewing

section

variable (fl : FloatBits) (own : Bool) (visualBits : Nat)

/-- The viewer gets the create block. -/
def start (o : Object) (view : ViewerState) : Viewing where
  object := o
  client := applyBlock (fun _ => 0) (o.createBlock own visualBits view fl)

def step (v : Viewing) : ViewStep → Viewing
  | .call c => { v with object := v.object.call fl c }
  | .round view =>
    { object := v.object.update
      client :=
        if v.object.queued then applyBlock v.client (v.object.valuesBlock own visualBits view fl) else v.client }

/-- Fields a viewer may see and that are sent as they are. -/
def Shown (o : Object) (i : Nat) : Prop :=
  i < o.valuesCount ∧ o.visible own visualBits i = true ∧ o.rewritten own i = false

/-- The viewer holds what the object has. -/
def Holds (v : Viewing) : Prop := ∀ i, Shown own visualBits v.object i → v.client i = v.object.values i

/-- It does so after each round. -/
def UpToDate (v : Viewing) (steps : List ViewStep) : Prop :=
  ∀ pre view post, steps = pre ++ .round view :: post →
    Holds own visualBits (run (step fl own visualBits) v (pre ++ [.round view]))

/-- **No field is set back**: what had been changed when the create block was built is, at the first round after it,
not what it was in the round before. -/
def NoneSetBack (v : Viewing) (steps : List ViewStep) : Prop :=
  ∀ pre view post, steps = pre ++ .round view :: post → (∀ s ∈ pre, ∃ c, s = .call c) →
    ∀ i, Shown own visualBits v.object i → v.object.always i = false → v.object.values i ≠ v.object.mirror i →
      (run (step fl own visualBits) v pre).object.values i ≠ v.object.mirror i

end

end Viewing

/-! ## Objects -/

namespace Object

/-- In the world, an object that is not listed is as its mirror. -/
structure Listed (o : Object) : Prop where
  updated : o.queued = o.objectUpdated
  mirror : o.inWorld = true → o.queued = false → o.mirror = o.values

/-- What a setter keeps. -/
structure Follows (o o' : Object) : Prop where
  kind : o'.kind = o.kind
  mirror : o'.mirror = o.mirror
  inWorld : o'.inWorld = o.inWorld
  queued : o.queued = true → o'.queued = true

theorem Follows.refl (o : Object) : Follows o o := ⟨rfl, rfl, rfl, fun h => h⟩

theorem Follows.trans {o o' o'' : Object} (h : Follows o o') (h' : Follows o' o'') : Follows o o'' :=
  ⟨h'.kind.trans h.kind, h'.mirror.trans h.mirror, h'.inWorld.trans h.inWorld, fun hq => h'.queued (h.queued hq)⟩

theorem changed_noted {o : Object} (hu : o.queued = o.objectUpdated) (hw : o.inWorld = true) :
    o.changed.queued = true ∧ o.changed.objectUpdated = true := by
  unfold changed
  rw [if_pos hw]
  split
  · next h => exact ⟨hu.trans h, h⟩
  · exact ⟨rfl, rfl⟩

theorem changed_outside {o : Object} (hw : o.inWorld = false) : o.changed = o := by
  unfold changed
  rw [hw]
  rfl

theorem changed_queued {o : Object} (hq : o.queued = true) : o.changed.queued = true := by
  unfold changed
  split
  · split
    · exact hq
    · rfl
  · exact hq

theorem listed_changed {o : Object} (hu : o.queued = o.objectUpdated) : Listed o.changed := by
  cases hw : o.inWorld with
  | true =>
    obtain ⟨hq, hnoted⟩ := changed_noted hu hw
    exact ⟨hq.trans hnoted.symm, fun _ hno => by rw [hq] at hno; cases hno⟩
  | false =>
    rw [changed_outside hw]
    exact ⟨hu, fun hin => by rw [hw] at hin; cases hin⟩

theorem call_listed {fl : FloatBits} {o : Object} {c : FieldCall} (h : Listed o) : Listed (o.call fl c) := by
  rcases touches_call fl o c with he | ⟨values, he⟩
  · rw [he]
    exact h
  · rw [he]
    exact listed_changed h.updated

theorem call_follows {fl : FloatBits} {o : Object} (c : FieldCall) : Follows o (o.call fl c) := by
  rcases touches_call fl o c with he | ⟨values, he⟩
  · rw [he]
    exact Follows.refl o
  · rw [he]
    obtain ⟨hkind, -, hmirror, hworld⟩ := changed_eq { o with values := values }
    exact ⟨hkind, hmirror, hworld, fun hq => changed_queued hq⟩

theorem update_listed {o : Object} (h : Listed o) : Listed o.update := by
  unfold update
  split
  · exact ⟨by simp [clearUpdateMask], fun _ _ => rfl⟩
  · exact h

theorem event_listed {fl : FloatBits} {o : Object} (h : Listed o) (e : ObjectEvent) : Listed (o.event fl e) := by
  have hclear : ∀ o : Object, o.queued = o.objectUpdated → Listed (o.clearUpdateMask true) := by
    intro o hu
    refine ⟨?_, fun _ _ => rfl⟩
    simp only [clearUpdateMask, hu, Bool.and_true]
    cases o.objectUpdated <;> rfl
  cases e with
  | call c => exact call_listed h
  | addToWorld =>
    change Listed o.addToWorld
    unfold addToWorld
    split
    · exact h
    · exact hclear _ h.updated
  | removeFromWorld =>
    change Listed o.removeFromWorld
    unfold removeFromWorld
    split
    · exact hclear _ h.updated
    · exact h
  | force i =>
    change Listed (o.forceValuesUpdateAtIndex i)
    unfold forceValuesUpdateAtIndex
    split
    · exact h
    · exact listed_changed h.updated
  | update => exact update_listed h

/-- **Every object**, whatever has been done with it. -/
theorem listed (fl : FloatBits) (kind : ObjectKind) (life : List ObjectEvent) :
    Listed (run (event fl) { kind := kind } life) :=
  invariant_run (I := Listed) (fun _ e h => event_listed h e) ⟨rfl, fun _ _ => rfl⟩ life

theorem update_eq (o : Object) :
    o.update.kind = o.kind ∧ o.update.values = o.values ∧ o.update.inWorld = o.inWorld ∧
      (o.queued = true → o.update.mirror = o.values) := by
  unfold update
  split
  · exact ⟨rfl, rfl, rfl, fun _ => rfl⟩
  · next h => exact ⟨rfl, rfl, rfl, fun hq => absurd hq h⟩

theorem update_mirror {o : Object} (h : Listed o) (hw : o.inWorld = true) : o.update.mirror = o.update.values := by
  obtain ⟨-, hvalues, -, hmirror⟩ := o.update_eq
  cases hq : o.queued with
  | true => rw [hmirror hq, hvalues]
  | false =>
    have hsame : o.update = o := by
      unfold update
      rw [hq]
      rfl
    rw [hsame]
    exact h.mirror hw hq

end Object

/-! ## Rounds -/

namespace Viewing

variable {fl : FloatBits} {own : Bool} {visualBits : Nat}

theorem shown_congr {o o' : Object} (h : o'.kind = o.kind) (i : Nat) :
    Shown own visualBits o' i ↔ Shown own visualBits o i := by
  simp only [Shown, Object.valuesCount, Object.visible, Object.rewritten, h]

theorem step_round (v : Viewing) (view : ViewerState) {i : Nat} (hi : Shown own visualBits v.object i) :
    (step fl own visualBits v (.round view)).client i =
      if v.object.queued = true ∧ (v.object.mirror i ≠ v.object.values i ∨ v.object.always i = true) then
        v.object.values i
      else v.client i := by
  unfold step
  cases hq : v.object.queued with
  | true =>
    simp only [if_true, true_and]
    exact Object.valuesBlock_apply v.client hi.1 hi.2.1 hi.2.2
  | false => simp

/-- The viewer holds what was there at the last round. -/
structure Agrees (own : Bool) (visualBits : Nat) (v : Viewing) : Prop where
  listed : v.object.Listed
  inWorld : v.object.inWorld = true
  mirror : ∀ i, Shown own visualBits v.object i → v.client i = v.object.mirror i

theorem Agrees.call {v : Viewing} (h : Agrees own visualBits v) (c : FieldCall) :
    Agrees own visualBits (step fl own visualBits v (.call c)) := by
  have hf : v.object.Follows (v.object.call fl c) := Object.call_follows c
  refine ⟨Object.call_listed h.listed, hf.inWorld.trans h.inWorld, fun i hi => ?_⟩
  have hi := (shown_congr hf.kind i).1 hi
  exact (h.mirror i hi).trans (congrFun hf.mirror i).symm

theorem Agrees.holds {v : Viewing} (h : Agrees own visualBits v) (view : ViewerState) :
    Holds own visualBits (step fl own visualBits v (.round view)) := by
  intro i hi
  have hvalues := v.object.update_eq.2.1
  have hi := (shown_congr v.object.update_eq.1 i).1 hi
  rw [step_round v view hi]
  change _ = v.object.update.values i
  rw [hvalues]
  split
  · rfl
  · next hno =>
    rw [h.mirror i hi]
    by_cases hq : v.object.queued = true
    · by_contra hne
      exact hno ⟨hq, Or.inl hne⟩
    · rw [h.listed.mirror h.inWorld (by simpa using hq)]

theorem agrees_of_holds {v : Viewing} (hl : v.object.Listed) (hw : v.object.inWorld = true) (view : ViewerState)
    (h : Holds own visualBits (step fl own visualBits v (.round view))) :
    Agrees own visualBits (step fl own visualBits v (.round view)) := by
  refine ⟨Object.update_listed hl, v.object.update_eq.2.2.1.trans hw, fun i hi => (h i hi).trans ?_⟩
  exact (congrFun (Object.update_mirror hl hw) i).symm

theorem Agrees.step {v : Viewing} (h : Agrees own visualBits v) (s : ViewStep) :
    Agrees own visualBits (Viewing.step fl own visualBits v s) := by
  cases s with
  | call c => exact h.call c
  | round view => exact agrees_of_holds h.listed h.inWorld view (h.holds view)

/-! ## The first round -/

variable (fl own visualBits) in
theorem run_calls {o : Object} (hl : o.Listed) (view₀ : ViewerState) {pre : List ViewStep}
    (hpre : ∀ s ∈ pre, ∃ c, s = .call c) :
    o.Follows (run (step fl own visualBits) (start fl own visualBits o view₀) pre).object ∧
      (run (step fl own visualBits) (start fl own visualBits o view₀) pre).object.Listed ∧
      (run (step fl own visualBits) (start fl own visualBits o view₀) pre).client =
        (start fl own visualBits o view₀).client := by
  have hstart : o.Follows (start fl own visualBits o view₀).object ∧ (start fl own visualBits o view₀).object.Listed :=
    ⟨Object.Follows.refl o, hl⟩
  generalize start fl own visualBits o view₀ = v at hstart ⊢
  induction pre generalizing v with
  | nil => exact ⟨hstart.1, hstart.2, rfl⟩
  | cons s pre ih =>
    obtain ⟨c, rfl⟩ := hpre s List.mem_cons_self
    exact ih (fun s hs => hpre s (List.mem_cons_of_mem _ hs)) _
      ⟨hstart.1.trans (Object.call_follows c), Object.call_listed hstart.2⟩

/-- **The first round** brings the viewer up to date exactly when no field has been set back. -/
theorem first_round {o : Object} (hl : o.Listed) (hw : o.inWorld = true) (view₀ view : ViewerState)
    {pre : List ViewStep} (hpre : ∀ s ∈ pre, ∃ c, s = .call c) :
    Holds own visualBits (run (step fl own visualBits) (start fl own visualBits o view₀) (pre ++ [.round view])) ↔
      ∀ i, Shown own visualBits o i → o.always i = false → o.values i ≠ o.mirror i →
        (run (step fl own visualBits) (start fl own visualBits o view₀) pre).object.values i ≠ o.mirror i := by
  obtain ⟨hf, hlisted, hclient⟩ := run_calls fl own visualBits hl view₀ hpre
  rw [run_append]
  generalize run (step fl own visualBits) (start fl own visualBits o view₀) pre = v at hf hlisted hclient ⊢
  change Holds own visualBits (step fl own visualBits v (.round view)) ↔ _
  have hcreate : ∀ i, Shown own visualBits o i → v.client i = o.values i := by
    intro i hi
    rw [hclient]
    exact Object.createBlock_apply hi.1 hi.2.1 hi.2.2
  have hkind : v.object.update.kind = o.kind := v.object.update_eq.1.trans hf.kind
  have halways : ∀ i, v.object.always i = o.always i := fun i => by simp only [Object.always, hf.kind]
  -- one that is not listed has not changed since the mirror
  have hunlisted : v.object.queued = false → o.mirror = o.values := by
    intro hq
    refine hl.mirror hw ?_
    by_contra hno
    rw [hf.queued (by simpa using hno)] at hq
    cases hq
  constructor
  · intro h i hi halw hne hback
    have hv := h i ((shown_congr hkind i).2 hi)
    rw [step_round v view ((shown_congr hf.kind i).2 hi)] at hv
    have hno : ¬(v.object.queued = true ∧ (v.object.mirror i ≠ v.object.values i ∨ v.object.always i = true)) := by
      rintro ⟨-, hm | ha⟩
      · rw [hf.mirror] at hm
        exact hm hback.symm
      · rw [halways, halw] at ha
        cases ha
    rw [if_neg hno, hcreate i hi] at hv
    refine hne (hv.trans ?_)
    change v.object.update.values i = _
    rw [v.object.update_eq.2.1, hback]
  · intro h i hi
    have hi := (shown_congr hkind i).1 hi
    rw [step_round v view ((shown_congr hf.kind i).2 hi)]
    change _ = v.object.update.values i
    rw [v.object.update_eq.2.1]
    split
    · rfl
    · next hno =>
      rw [hcreate i hi]
      by_cases hq : v.object.queued = true
      · have hm : o.mirror i = v.object.values i := by
          by_contra hm
          refine hno ⟨hq, Or.inl ?_⟩
          rw [hf.mirror]
          exact hm
        have halw : o.always i = false := by
          by_contra ha
          refine hno ⟨hq, Or.inr ?_⟩
          rw [halways]
          simpa using ha
        by_contra hne
        exact h i hi halw (fun he => hne (he.trans hm)) hm.symm
      · have hq : v.object.queued = false := by simpa using hq
        rw [← hlisted.mirror (hf.inWorld.trans hw) hq, hf.mirror, hunlisted hq]

theorem split_first (steps : List ViewStep) :
    (∀ s ∈ steps, ∃ c, s = .call c) ∨
      ∃ pre view post, steps = pre ++ .round view :: post ∧ ∀ s ∈ pre, ∃ c, s = ViewStep.call c := by
  induction steps with
  | nil => exact Or.inl fun s hs => nomatch hs
  | cons s steps ih =>
    cases s with
    | round view => exact Or.inr ⟨[], view, steps, rfl, fun s hs => nomatch hs⟩
    | call c =>
      rcases ih with hall | ⟨pre, view, post, rfl, hpre⟩
      · exact Or.inl fun s hs => (List.mem_cons.1 hs).elim (fun h => ⟨c, h⟩) (hall s)
      · exact Or.inr ⟨.call c :: pre, view, post, rfl,
          fun s hs => (List.mem_cons.1 hs).elim (fun h => ⟨c, h⟩) (hpre s)⟩

/-- **What viewers hold.**  For every object that came to the world somehow, every viewer and whatever setters and
rounds follow the create block, the viewer holds after each round what the object has, exactly when no field has been
set back at the first. -/
theorem up_to_date (fl : FloatBits) (own : Bool) (visualBits : Nat) (kind : ObjectKind) (life : List ObjectEvent)
    (hw : (run (Object.event fl) { kind := kind } life).inWorld = true) (view₀ : ViewerState) (steps : List ViewStep) :
    UpToDate fl own visualBits (start fl own visualBits (run (Object.event fl) { kind := kind } life) view₀) steps ↔
      NoneSetBack fl own visualBits (start fl own visualBits (run (Object.event fl) { kind := kind } life) view₀)
        steps := by
  have hl := Object.listed fl kind life
  generalize run (Object.event fl) ({ kind := kind } : Object) life = o at hl hw ⊢
  constructor
  · intro h pre view post hsteps hpre
    exact (first_round hl hw view₀ view hpre).1 (h pre view post hsteps)
  · intro h pre view post hsteps
    rcases split_first pre with hpre | ⟨pre₁, view₁, pre₂, rfl, hpre₁⟩
    · exact (first_round hl hw view₀ view hpre).2 (h pre view post hsteps hpre)
    · -- the first round has been, and since then the viewer keeps up
      have hfirst := (first_round hl hw view₀ view₁ hpre₁).2
        (h pre₁ view₁ (pre₂ ++ .round view :: post) (by simpa using hsteps) hpre₁)
      obtain ⟨hf, hlisted, -⟩ := run_calls fl own visualBits hl view₀ hpre₁
      rw [run_append] at hfirst
      have hagrees := agrees_of_holds hlisted (hf.inWorld.trans hw) view₁ hfirst
      have hlater : Agrees own visualBits (run (step fl own visualBits) _ pre₂) :=
        invariant_run (fun v s hv => hv.step s) hagrees pre₂
      have hround : Holds own visualBits (step fl own visualBits _ (.round view)) := hlater.holds view
      rw [List.append_assoc, List.cons_append, run_append]
      change Holds own visualBits (run _ (step fl own visualBits _ (.round view₁)) (pre₂ ++ [.round view]))
      rw [run_append]
      exact hround

/-! An item whose stack grows, is shown to its owner and shrinks again. -/

/-- Where nothing is done with floats. -/
def noFloats : FloatBits where
  ne a b := a != b
  add a _ := a
  neg a := a
  negative _ := false
  toUInt32 a := a

def someView : ViewerState := ⟨false, false, 0, false, 0, 0, false, false, none⟩

/-- `ITEM_FIELD_STACK_COUNT` -/
def stackCount : Nat := objectEnd + 0x0008

def stackGrows : List ObjectEvent := [.addToWorld, .call (.setUInt32Value stackCount 5)]

theorem up_to_date_stack :
    UpToDate noFloats true 0 (start noFloats true 0 (run (Object.event noFloats) { kind := .item } stackGrows) someView)
      [.round someView] := by
  refine (up_to_date noFloats true 0 .item stackGrows rfl someView [.round someView]).2 ?_
  intro pre view post hsteps _ i _ _ hne
  cases pre with
  | nil => exact hne
  | cons s pre => cases pre <;> cases hsteps

theorem stack_not_up_to_date :
    ¬∀ (fl : FloatBits) (own : Bool) (visualBits : Nat) (kind : ObjectKind) (life : List ObjectEvent),
      (run (Object.event fl) { kind := kind } life).inWorld = true →
        ∀ (view₀ : ViewerState) (steps : List ViewStep),
          UpToDate fl own visualBits
            (start fl own visualBits (run (Object.event fl) { kind := kind } life) view₀) steps := by
  intro hall
  have h := hall noFloats true 0 .item stackGrows rfl someView [.call (.setUInt32Value stackCount 0), .round someView]
    [.call (.setUInt32Value stackCount 0)] someView [] rfl stackCount ⟨by decide, rfl, rfl⟩
  exact absurd h (by decide +kernel)

end Viewing

end BlizzLike
