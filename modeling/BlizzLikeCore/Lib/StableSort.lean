import Mathlib.Data.List.Basic

/-!
# Sorting a list that is sorted in part

The merge sort of the library is stable, and puts an element in front of the sorted rest where it
belongs.  A sorted part that has its place at either end of a list stays there.
-/

namespace StableSort

variable {α : Type} {le : α → α → Bool}

/-- A list is split in one place only into elements that fail a test and elements that pass it. -/
theorem split_unique {p : α → Bool} {a b c d : List α} (h : a ++ b = c ++ d) (ha : ∀ x ∈ a, p x = false)
    (hc : ∀ x ∈ c, p x = false) (hb : ∀ x ∈ b, p x = true) (hd : ∀ x ∈ d, p x = true) : a = c ∧ b = d := by
  induction a generalizing c with
  | nil =>
    cases c with
    | nil => exact ⟨rfl, h⟩
    | cons x c =>
      have hx := hb x (by rw [show b = x :: c ++ d from h]; simp)
      rw [hc x List.mem_cons_self] at hx
      cases hx
  | cons y a ih =>
    cases c with
    | nil =>
      have hy := hd y (by rw [← show y :: a ++ b = d from h]; simp)
      rw [ha y List.mem_cons_self] at hy
      cases hy
    | cons x c =>
      obtain ⟨rfl, htail⟩ := List.cons.inj h
      obtain ⟨rfl, rfl⟩ := ih htail (fun z hz => ha z (List.mem_cons_of_mem _ hz))
        (fun z hz => hc z (List.mem_cons_of_mem _ hz))
      exact ⟨rfl, rfl⟩

variable (trans : ∀ a b c, le a b = true → le b c = true → le a c = true)
  (total : ∀ a b, (le a b || le b a) = true)

include trans total

theorem mergeSort_front {l k : List α} (hl : l.Pairwise fun a b => le a b = true)
    (hlk : ∀ a ∈ l, ∀ b ∈ k, le a b = true) : (l ++ k).mergeSort le = l ++ k.mergeSort le := by
  induction l with
  | nil => rfl
  | cons a l ih =>
    rw [List.pairwise_cons] at hl
    have ih := ih hl.2 fun x hx => hlk x (List.mem_cons_of_mem _ hx)
    obtain ⟨l1, l2, hs, hr, h1⟩ := List.mergeSort_cons trans total a (l ++ k)
    have hnil : l1 = [] := by
      cases l1 with
      | nil => rfl
      | cons b l1 =>
        -- what stands before the new element is not above it
        have hb : b ∈ l ++ k := by
          have hsorted : b ∈ (l ++ k).mergeSort le := by
            rw [hr]
            simp
          exact List.mem_mergeSort.1 hsorted
        have hle : le a b = true := by
          rcases List.mem_append.1 hb with hb | hb
          · exact hl.1 b hb
          · exact hlk a List.mem_cons_self b hb
        have hnot := h1 b List.mem_cons_self
        rw [hle] at hnot
        cases hnot
    rw [hnil, List.nil_append] at hs hr
    rw [List.cons_append, hs, ← hr, ih, List.cons_append]

theorem mergeSort_back {l k : List α} (hk : k.Pairwise fun a b => le a b = true)
    (hlk : ∀ a ∈ l, ∀ b ∈ k, le a b = true) : (l ++ k).mergeSort le = l.mergeSort le ++ k := by
  induction l with
  | nil =>
    rw [List.nil_append, List.mergeSort_nil, List.nil_append]
    exact List.mergeSort_of_pairwise hk
  | cons a l ih =>
    have ih := ih fun x hx => hlk x (List.mem_cons_of_mem _ hx)
    obtain ⟨l1, l2, hs, hr, h1⟩ := List.mergeSort_cons trans total a (l ++ k)
    obtain ⟨k1, k2, ht, hu, h2⟩ := List.mergeSort_cons trans total a l
    have hbehind : ∀ {r s l}, List.mergeSort (a :: l) le = r ++ a :: s → ∀ x ∈ s, le a x = true := by
      intro r s l h x hx
      have hsorted := List.pairwise_mergeSort trans total (a :: l)
      rw [h, List.pairwise_append, List.pairwise_cons] at hsorted
      exact hsorted.2.1.1 x hx
    have heq : l1 ++ l2 = k1 ++ (k2 ++ k) := by rw [← hr, ih, hu, List.append_assoc]
    obtain ⟨rfl, rfl⟩ := split_unique heq (fun x hx => by simpa using h1 x hx) (fun x hx => by simpa using h2 x hx)
      (hbehind hs) (by
        intro x hx
        rcases List.mem_append.1 hx with hx | hx
        · exact hbehind ht x hx
        · exact hlk a List.mem_cons_self x hx)
    rw [List.cons_append, hs, ht, List.append_assoc, List.cons_append]

end StableSort
