import Mathlib.Data.List.AList
import Mathlib.Tactic.Common

/-!
# Finite maps: the entries beside one key

What an `AList` holds, as the entry of one key and the entries of the others.

    entries_perm     : the entries of a map that has the key
    lookup_insert_cases : an entry of a map after a value has been stored
    count_insert     : how many entries have a property, after a value has been replaced
    count_erase      : and after one has been taken out
-/

namespace FiniteMap

variable {α : Type*} [DecidableEq α] {β : Type*} {s : AList fun _ : α => β} {k : α} {b : β}

theorem entries_perm (h : s.lookup k = some b) : s.entries.Perm (⟨k, b⟩ :: (s.erase k).entries) := by
  have hmem : k ∈ s.entries.keys := AList.lookup_isSome.1 (h ▸ rfl)
  obtain ⟨b', l₁, l₂, -, hl, hk⟩ := List.exists_of_kerase hmem
  have hb : s.lookup k = some b' := by
    rw [← Option.mem_def, AList.mem_lookup_iff, hl]
    exact List.mem_append_right _ List.mem_cons_self
  rw [h] at hb
  cases hb
  change s.entries.Perm (⟨k, b⟩ :: s.entries.kerase k)
  rw [hk, hl]
  exact List.perm_middle

theorem entries_erase_none (h : s.lookup k = none) : (s.erase k).entries = s.entries :=
  List.kerase_of_notMem_keys (AList.lookup_eq_none.1 h)

theorem lookup_insert_cases {k' : α} {b' : β} (h : (s.insert k b).lookup k' = some b') :
    k' = k ∧ b' = b ∨ k' ≠ k ∧ s.lookup k' = some b' := by
  by_cases hk : k' = k
  · subst hk
    rw [AList.lookup_insert] at h
    exact Or.inl ⟨rfl, (Option.some.inj h).symm⟩
  · rw [AList.lookup_insert_ne hk] at h
    exact Or.inr ⟨hk, h⟩

theorem lookup_of_erase {k' : α} {b' : β} (h : (s.erase k).lookup k' = some b') :
    k' ≠ k ∧ s.lookup k' = some b' := by
  by_cases hk : k' = k
  · rw [hk, AList.lookup_erase] at h
    cases h
  · exact ⟨hk, by rwa [AList.lookup_erase_ne hk] at h⟩

/-! ## How many entries have a property -/

variable (p : β → Bool)

/-- The number of entries whose value has a property. -/
def count (s : AList fun _ : α => β) : Nat := s.entries.countP fun e => p e.2

theorem count_insert_erase : count p (s.insert k b) = count p (s.erase k) + if p b then 1 else 0 := by
  unfold count
  rw [AList.entries_insert, List.countP_cons]
  rfl

theorem count_erase (h : s.lookup k = some b) : count p s = count p (s.erase k) + if p b then 1 else 0 := by
  unfold count
  rw [(entries_perm h).countP_eq, List.countP_cons]

theorem count_erase_none (h : s.lookup k = none) : count p (s.erase k) = count p s := by
  unfold count
  rw [entries_erase_none h]

/-- **A value is replaced.** -/
theorem count_insert {b' : β} (h : s.lookup k = some b) :
    count p (s.insert k b') + (if p b then 1 else 0) = count p s + if p b' then 1 else 0 := by
  rw [count_insert_erase, count_erase p h]
  omega

/-- **A value is added** for a key that had none. -/
theorem count_insert_none (h : s.lookup k = none) : count p (s.insert k b) = count p s + if p b then 1 else 0 := by
  rw [count_insert_erase, count_erase_none p h]

theorem count_pos (h : s.lookup k = some b) (hb : p b = true) : 0 < count p s := by
  rw [count_erase p h, if_pos hb]
  omega

theorem exists_of_count_pos (h : 0 < count p s) : ∃ k b, s.lookup k = some b ∧ p b = true := by
  obtain ⟨⟨k, b⟩, he, hb⟩ := List.countP_pos_iff.1 h
  exact ⟨k, b, AList.mem_lookup_iff.2 he, hb⟩

end FiniteMap
