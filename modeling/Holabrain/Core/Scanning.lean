import Mathlib.Data.List.Defs

/-!
# Scanning a text

A scanner goes through a text symbol by symbol and may fail at any of them.  `Scans` says that it
gets over a text from one state to another; such scans compose, and what every symbol preserves
holds at the end.
-/

namespace Holabrain.Scanning

variable {σ α ε : Type}

/-- The scanner gets from one state to the other over the text. -/
def Scans (step : σ → α → Except ε σ) (before : σ) (text : List α) (after : σ) : Prop :=
  text.foldlM step before = .ok after

theorem exists_of_bind_eq_ok {β : Type} {x : Except ε α} {f : α → Except ε β} {b : β}
    (h : (x >>= f) = .ok b) : ∃ a, x = .ok a ∧ f a = .ok b := by
  cases x with
  | error e => cases h
  | ok a => exact ⟨a, rfl, h⟩

variable {step : σ → α → Except ε σ} {before next after : σ} {c : α} {text more : List α}

theorem scans_nil (state : σ) : Scans step state [] state := rfl

theorem Scans.cons (h : step before c = .ok next) (hrest : Scans step next text after) :
    Scans step before (c :: text) after := by
  rw [Scans, List.foldlM_cons, h]
  exact hrest

theorem Scans.append (h : Scans step before text next) (hmore : Scans step next more after) :
    Scans step before (text ++ more) after := by
  rw [Scans, List.foldlM_append, h]
  exact hmore

theorem Scans.single (h : step before c = .ok after) : Scans step before [c] after :=
  .cons h (scans_nil after)

/-- What every symbol preserves holds at the end. -/
theorem Scans.invariant {holds : σ → Prop}
    (hstep : ∀ state c next, holds state → step state c = .ok next → holds next)
    (h : Scans step before text after) (hbefore : holds before) : holds after := by
  induction text generalizing before with
  | nil =>
      cases h
      exact hbefore
  | cons c rest ih =>
      rw [Scans, List.foldlM_cons] at h
      obtain ⟨middle, hmiddle, hrest⟩ := exists_of_bind_eq_ok h
      exact ih hrest (hstep before c middle hbefore hmiddle)

end Holabrain.Scanning
