import Mathlib.Data.List.Sort
import Mathlib.Data.List.Nodup

/-!
# The front of a sorted list

Sorting a list and cutting it off keeps the elements with few smaller ones.
-/

namespace Holabrain

variable {α : Type*} [LinearOrder α]

theorem mem_take_of_pairwise_lt {l : List α} (h : l.Pairwise (· < ·)) (n : ℕ) (x : α) :
    x ∈ l.take n ↔ x ∈ l ∧ l.countP (· < x) < n := by
  induction l generalizing n with
  | nil => simp
  | cons a l ih =>
      obtain ⟨ha, hl⟩ := List.pairwise_cons.mp h
      cases n with
      | zero => simp
      | succ n =>
          rw [List.take_succ_cons, List.mem_cons, ih hl, List.mem_cons, List.countP_cons]
          by_cases hx : x = a
          · subst hx
            have hnone : l.countP (· < x) = 0 := by
              rw [List.countP_eq_zero]
              intro b hb
              rw [decide_eq_true_iff]
              exact (ha b hb).not_gt
            simp [hnone]
          · have hafter : x ∈ l → a < x := ha x
            constructor
            · rintro (hxa | ⟨hmem, hcount⟩)
              · exact absurd hxa hx
              · rw [if_pos (decide_eq_true (hafter hmem))]
                exact ⟨.inr hmem, Nat.succ_lt_succ hcount⟩
            · rintro ⟨hmem, hcount⟩
              have hmem' := hmem.resolve_left hx
              rw [if_pos (decide_eq_true (hafter hmem'))] at hcount
              exact .inr ⟨hmem', Nat.lt_of_succ_lt_succ hcount⟩

/-- What stays in front are the elements with fewer than `n` smaller ones. -/
theorem mem_take_insertionSort {l : List α} (h : l.Nodup) (n : ℕ) (x : α) :
    x ∈ (l.insertionSort (· ≤ ·)).take n ↔ x ∈ l ∧ l.countP (· < x) < n := by
  have hperm := List.perm_insertionSort (· ≤ ·) l
  have hsorted : (l.insertionSort (· ≤ ·)).Pairwise (· < ·) := by
    apply List.Pairwise.imp₂ _ (List.pairwise_insertionSort (· ≤ ·) l) (hperm.nodup_iff.mpr h)
    intro a b hle hne
    exact lt_of_le_of_ne hle hne
  rw [mem_take_of_pairwise_lt hsorted, hperm.mem_iff, hperm.countP_eq]

end Holabrain
