import Mathlib.Order.BooleanAlgebra.Set

/-!
# Keeping what is open in step with what is wanted

Things are opened and closed elsewhere; whoever does so looks at what it remembers having open,
not at what is.  A report opens what is wanted and not remembered and closes what is remembered
and not wanted.  It sets right what was remembered; what was forgotten stays open.
-/

namespace Holabrain

/-- What is open, and what is remembered of it. -/
@[ext]
structure Ledger (τ : Type*) where
  opened : Set τ
  remembered : Set τ

namespace Ledger

variable {τ : Type*} {l : Ledger τ} {wanted wanted' : Set τ}

def report (l : Ledger τ) (wanted : Set τ) : Ledger τ where
  opened := (l.opened ∪ (wanted \ l.remembered)) \ (l.remembered \ wanted)
  remembered := wanted

def forget (l : Ledger τ) : Ledger τ := { l with remembered := ∅ }

/-- Exactly what is wanted is open, and remembered. -/
structure InStep (l : Ledger τ) (wanted : Set τ) : Prop where
  opened : l.opened = wanted
  remembered : l.remembered = wanted

/-- Exactly what is open is remembered, whether it is wanted or not. -/
def Synced (l : Ledger τ) : Prop := l.opened = l.remembered

/-- A report sets right what is open exactly if nothing unwanted is open unremembered, and
nothing wanted is remembered without being open. -/
theorem inStep_report_iff : (l.report wanted).InStep wanted ↔
    l.opened \ wanted ⊆ l.remembered ∧ wanted ∩ l.remembered ⊆ l.opened := by
  constructor
  · intro h
    have hopened : ∀ t, t ∈ (l.report wanted).opened ↔ t ∈ wanted := fun t => by rw [h.opened]
    simp only [report, Set.mem_sdiff, Set.mem_union] at hopened
    constructor
    · rintro t ⟨hopen, hunwanted⟩
      by_contra hforgotten
      exact hunwanted ((hopened t).mp ⟨.inl hopen, fun hclosed => hforgotten hclosed.1⟩)
    · rintro t ⟨hwanted, hremembered⟩
      obtain hopen | hnew := ((hopened t).mpr hwanted).1
      · exact hopen
      · exact absurd hremembered hnew.2
  · rintro ⟨hclosed, hopen⟩
    refine ⟨Set.ext fun t => ?_, rfl⟩
    simp only [report, Set.mem_sdiff, Set.mem_union]
    constructor
    · rintro ⟨hopened | hnew, hkept⟩
      · by_contra hunwanted
        exact hkept ⟨hclosed ⟨hopened, hunwanted⟩, hunwanted⟩
      · exact hnew.1
    · intro hwanted
      refine ⟨?_, fun hunwanted => hunwanted.2 hwanted⟩
      by_cases hremembered : t ∈ l.remembered
      · exact .inl (hopen ⟨hwanted, hremembered⟩)
      · exact .inr ⟨hwanted, hremembered⟩

theorem InStep.synced (h : l.InStep wanted) : l.Synced := h.opened.trans h.remembered.symm

/-- Where nothing was forgotten, every report sets right what is open. -/
theorem Synced.report (h : l.Synced) (wanted : Set τ) : (l.report wanted).InStep wanted := by
  rw [Synced] at h
  rw [inStep_report_iff, h]
  exact ⟨Set.sdiff_subset, Set.inter_subset_right⟩

/-- After a report it is remembered what is wanted. -/
theorem inStep_of_synced_report (h : (l.report wanted).Synced) :
    (l.report wanted).InStep wanted := ⟨h, rfl⟩

/-- After forgetting, what is open has to be wanted still. -/
theorem inStep_forget_report_iff :
    (l.forget.report wanted).InStep wanted ↔ l.opened ⊆ wanted := by
  rw [inStep_report_iff]
  simp only [forget, Set.inter_empty, Set.empty_subset, and_true, Set.subset_empty_iff,
    Set.sdiff_eq_empty]

end Ledger

end Holabrain
