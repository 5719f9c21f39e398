import Mathlib.Data.List.Perm.Basic
import Mathlib.Order.Basic
import Mathlib.Order.Lattice

/-!
# Timed queues

A multimap from times to entries, as the list of what it holds in order: a new entry goes behind all
of its time.

    insert_perm    : what is held after an insertion
    insert_sorted  : an insertion keeps the order
    insert_cons    : an entry that is not earlier than the first goes behind it
-/

namespace TimedQueue

variable {κ β : Type*} [LinearOrder κ]

def insert (k : κ) (b : β) : List (κ × β) → List (κ × β)
  | [] => [(k, b)]
  | y :: q => if k < y.1 then (k, b) :: y :: q else y :: insert k b q

/-- The times of a queue go up. -/
def Sorted (q : List (κ × β)) : Prop := q.Pairwise fun x y => x.1 ≤ y.1

theorem insert_cons {k k' : κ} (b b' : β) (q : List (κ × β)) (h : k' ≤ k) :
    insert k b ((k', b') :: q) = (k', b') :: insert k b q :=
  if_neg (not_lt.2 h)

theorem insert_perm (k : κ) (b : β) (q : List (κ × β)) : (insert k b q).Perm ((k, b) :: q) := by
  induction q with
  | nil => exact List.Perm.refl _
  | cons y q ih =>
    unfold insert
    split
    · exact List.Perm.refl _
    · exact (List.Perm.cons y ih).trans (List.Perm.swap (k, b) y q)

theorem mem_insert {k : κ} {b : β} {q : List (κ × β)} {x : κ × β} : x ∈ insert k b q ↔ x = (k, b) ∨ x ∈ q :=
  (insert_perm k b q).mem_iff.trans List.mem_cons

theorem countP_insert (p : κ × β → Bool) (k : κ) (b : β) (q : List (κ × β)) :
    (insert k b q).countP p = q.countP p + if p (k, b) then 1 else 0 := by
  rw [(insert_perm k b q).countP_eq, List.countP_cons]

theorem insert_sorted (k : κ) (b : β) {q : List (κ × β)} (h : Sorted q) : Sorted (insert k b q) := by
  induction q with
  | nil => exact List.pairwise_singleton _ _
  | cons y q ih =>
    obtain ⟨hy, hq⟩ := List.pairwise_cons.1 h
    unfold insert
    split
    · next hlt =>
      refine List.pairwise_cons.2 ⟨fun x hx => ?_, h⟩
      rcases List.mem_cons.1 hx with rfl | hx
      · exact le_of_lt hlt
      · exact (le_of_lt hlt).trans (hy x hx)
    · next hlt =>
      refine List.pairwise_cons.2 ⟨fun x hx => ?_, ih hq⟩
      rcases mem_insert.1 hx with rfl | hx
      · exact not_lt.1 hlt
      · exact hy x hx

theorem Sorted.tail {y : κ × β} {q : List (κ × β)} (h : Sorted (y :: q)) : Sorted q := (List.pairwise_cons.1 h).2

theorem Sorted.head_le {y x : κ × β} {q : List (κ × β)} (h : Sorted (y :: q)) (hx : x ∈ y :: q) : y.1 ≤ x.1 := by
  rcases List.mem_cons.1 hx with rfl | hx
  · exact le_refl _
  · exact (List.pairwise_cons.1 h).1 x hx

end TimedQueue
