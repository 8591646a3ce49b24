import Mathlib.Data.List.Dedup
import Mathlib.Data.List.Induction
import Holabrain.Core.Dict

/-!
# The order of first appearance

Dropping every repetition of a list leaves its elements in the order in which they appear first.
The keys of an insertion-ordered dictionary stand in that order of the writes that built it.
-/

namespace Holabrain

section FirstSeen

variable {α : Type} [DecidableEq α]

theorem eraseDups_append_singleton (l : List α) (x : α) :
    (l ++ [x]).eraseDups = if x ∈ l then l.eraseDups else l.eraseDups ++ [x] := by
  rw [List.eraseDups_append]
  by_cases hmem : x ∈ l
  · simp [List.removeAll, hmem]
  · simp [List.removeAll, hmem, List.eraseDups_cons]

theorem eraseDups_eq (l : List α) : l.reverse.dedup.reverse = l.eraseDups := by
  induction l using List.reverseRecOn with
  | nil => rfl
  | append_singleton l x ih =>
      rw [List.reverse_append, List.reverse_singleton, List.singleton_append,
        eraseDups_append_singleton, ← ih]
      by_cases hmem : x ∈ l
      · rw [List.dedup_cons_of_mem (List.mem_reverse.mpr hmem), if_pos hmem]
      · rw [List.dedup_cons_of_notMem (mt List.mem_reverse.mp hmem), List.reverse_cons,
          if_neg hmem]

theorem nodup_eraseDups (l : List α) : l.eraseDups.Nodup := by
  rw [← eraseDups_eq, List.nodup_reverse]
  exact List.nodup_dedup _

theorem eraseDups_eraseDups_append (l l' : List α) :
    (l.eraseDups ++ l').eraseDups = (l ++ l').eraseDups := by
  have hremoved : l'.removeAll l.eraseDups = l'.removeAll l := by
    simp only [List.removeAll, List.elem_eq_contains, List.contains_eq_mem, List.mem_eraseDups]
  have hidem : l.eraseDups.eraseDups = l.eraseDups := by
    rw [← eraseDups_eq, ← eraseDups_eq, List.reverse_reverse, List.dedup_idem]
  rw [List.eraseDups_append, List.eraseDups_append, hremoved, hidem]

theorem eraseDups_append_eraseDups (l l' : List α) :
    (l ++ l'.eraseDups).eraseDups = (l ++ l').eraseDups := by
  induction l' using List.reverseRecOn with
  | nil => rfl
  | append_singleton l' x ih =>
      rw [← List.append_assoc, eraseDups_append_singleton, eraseDups_append_singleton, ← ih]
      by_cases hmem : x ∈ l'
      · rw [if_pos hmem, if_pos (List.mem_append_right _ hmem)]
      · rw [if_neg hmem, ← List.append_assoc, eraseDups_append_singleton]
        simp only [List.mem_append, List.mem_eraseDups]

end FirstSeen

namespace Dict

variable {κ α β : Type} [DecidableEq κ]

omit [DecidableEq κ] in
theorem map_fst_items (d : Dict κ α) : d.items.map Prod.fst = d.keys := by
  rw [items, List.map_map]
  rfl

theorem keys_setItem (d : Dict κ α) (k : κ) (v : α) :
    (d.setItem k v).keys = if k ∈ d then d.keys else d.keys ++ [k] := by
  by_cases hmem : k ∈ d
  · rw [setItem, dif_pos hmem, if_pos hmem]
    simp [keys, AList.keys, mapValues, List.keys, Function.comp_def]
  · rw [setItem, dif_neg hmem, if_neg hmem]
    simp [keys, AList.keys, List.keys]

/-- Whatever a loop writes, its keys stand in the order in which it wrote them first. -/
theorem keys_foldl_setItem (key : β → κ) (value : Dict κ α → β → α) (l : List β) :
    (l.foldl (fun d b => d.setItem (key b) (value d b)) empty).keys = (l.map key).eraseDups := by
  induction l using List.reverseRecOn with
  | nil => rfl
  | append_singleton l b ih =>
      rw [List.foldl_append, List.foldl_cons, List.foldl_nil, keys_setItem, List.map_append,
        List.map_cons, List.map_nil, eraseDups_append_singleton, ← ih]
      generalize l.foldl (fun d b => d.setItem (key b) (value d b)) empty = d at ih
      have hmem : key b ∈ d ↔ key b ∈ l.map key := by
        rw [← List.mem_eraseDups, ← ih]
        exact Iff.rfl
      simp only [hmem]

end Dict

end Holabrain
