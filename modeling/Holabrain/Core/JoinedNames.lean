import Mathlib.Data.List.Nodup
import Mathlib.Data.Multiset.Bind

/-!
# Names joined to codes

A name is told apart from those of other groups by the code of its group, joined to it with a
separator that codes and names may contain themselves.  Joined names are distinct exactly if the
names of each group are and no code takes up the front of a name.
-/

namespace Holabrain

variable {χ κ : Type*} {sep : χ}

/-- Two joined names are the same, or one code goes on where the other ends. -/
theorem append_cons_eq_append_cons_iff {code name code' name' : List χ} :
    code ++ sep :: name = code' ++ sep :: name' ↔ (code = code' ∧ name = name') ∨
      (∃ middle, code' = code ++ sep :: middle ∧ name = middle ++ sep :: name') ∨
        ∃ middle, code = code' ++ sep :: middle ∧ name' = middle ++ sep :: name := by
  constructor
  · intro heq
    obtain ⟨rest, hcode, hname⟩ | ⟨rest, hcode, hname⟩ := List.append_eq_append_iff.mp heq
    · cases rest with
      | nil =>
          rw [List.append_nil] at hcode
          exact .inl ⟨hcode.symm, (List.cons.inj hname).2⟩
      | cons c middle =>
          obtain ⟨rfl, hrest⟩ := List.cons.inj hname
          exact .inr (.inl ⟨middle, hcode, hrest⟩)
    · cases rest with
      | nil =>
          rw [List.append_nil] at hcode
          exact .inl ⟨hcode, (List.cons.inj hname).2.symm⟩
      | cons c middle =>
          obtain ⟨rfl, hrest⟩ := List.cons.inj hname
          exact .inr (.inr ⟨middle, hcode, hrest⟩)
  · rintro (⟨rfl, rfl⟩ | ⟨middle, rfl, rfl⟩ | ⟨middle, rfl, rfl⟩)
    · rfl
    · rw [List.append_assoc, List.cons_append]
    · rw [List.append_assoc, List.cons_append]

/-- The names of all groups, joined to their codes, are distinct exactly if the names of each
group are, and no name of a group goes on as a name of a group whose code goes on. -/
theorem nodup_joined_iff {groups : List κ} {code : κ → List χ} {names : κ → List (List χ)}
    (hcodes : groups.Pairwise fun g g' => code g ≠ code g') :
    (groups.flatMap fun g => (names g).map fun name => code g ++ sep :: name).Nodup ↔
      (∀ g ∈ groups, (names g).Nodup) ∧
        ∀ g ∈ groups, ∀ g' ∈ groups, ∀ middle, code g' = code g ++ sep :: middle →
          ∀ name ∈ names g', middle ++ sep :: name ∉ names g := by
  have hinjective : ∀ g, Function.Injective fun name => code g ++ sep :: name := by
    intro g name name' heq
    exact (List.cons.inj (List.append_cancel_left heq)).2
  rw [List.nodup_flatMap]
  apply and_congr
  · exact forall₂_congr fun g _ => List.nodup_map_iff (hinjective g)
  · constructor
    · intro hdisjoint g hg g' hg' middle hcode name hname hmember
      have hne : g ≠ g' := by
        rintro rfl
        have hlength := congrArg List.length hcode
        simp at hlength
      have hsymm : Std.Symm (Function.onFun List.Disjoint fun g =>
          (names g).map fun name => code g ++ sep :: name) :=
        ⟨fun _ _ h => h.symm⟩
      have hjoined : code g' ++ sep :: name = code g ++ sep :: (middle ++ sep :: name) := by
        rw [hcode, List.append_assoc, List.cons_append]
      apply hdisjoint.forall hg hg' hne (List.mem_map_of_mem hmember)
      rw [← hjoined]
      exact List.mem_map_of_mem hname
    · intro hapart
      apply hcodes.imp_of_mem
      intro g g' hg hg' hne joined hjoined hjoined'
      obtain ⟨name, hname, rfl⟩ := List.mem_map.mp hjoined
      obtain ⟨name', hname', heq⟩ := List.mem_map.mp hjoined'
      obtain ⟨hcode, -⟩ | ⟨middle, hcode, rfl⟩ | ⟨middle, hcode, rfl⟩ :=
        append_cons_eq_append_cons_iff.mp heq
      · exact hne hcode.symm
      · exact hapart g' hg' g hg middle hcode name hname hname'
      · exact hapart g hg g' hg' middle hcode name' hname' hname

/-- Two loops may be exchanged. -/
theorem perm_flatMap_comm {α β γ : Type*} (as : List α) (bs : List β) (f : α → β → List γ) :
    (as.flatMap fun a => bs.flatMap fun b => f a b).Perm
      (bs.flatMap fun b => as.flatMap fun a => f a b) := by
  rw [← Multiset.coe_eq_coe, ← Multiset.coe_bind, ← Multiset.coe_bind]
  simp only [← Multiset.coe_bind]
  exact Multiset.bind_bind _ _

end Holabrain
