import Mathlib.Data.List.Basic

/-!
# Loops that keep the first offer

Two shapes of a loop over a list.  In the first, a register takes the first offer that is made
to it and keeps it; what is left in it does not depend on the order of the list exactly if all
offers agree.  In the second, a fact is established by any of the elements and never lost.
-/

namespace Holabrain

variable {σ α β : Type}

/-- A register that takes an offer only while it is empty holds the first one. -/
theorem foldl_firstWins {step : σ → α → σ} (read : σ → Option β) {offer : α → Option β}
    (hstep : ∀ s a, read (step s a) = (read s).or (offer a)) (s : σ) (l : List α) :
    read (l.foldl step s) = (read s).or (l.findSome? offer) := by
  induction l generalizing s with
  | nil => rw [List.foldl_nil, List.findSome?_nil, Option.or_none]
  | cons a rest ih =>
      rw [List.foldl_cons, ih, hstep, Option.or_assoc, List.findSome?_cons]
      cases offer a <;> rfl

/-- A register that takes every offer holds the last one. -/
theorem foldl_lastWins {step : σ → α → σ} (read : σ → Option β) {offer : α → Option β}
    (hstep : ∀ s a, read (step s a) = (offer a).or (read s)) (s : σ) (l : List α) :
    read (l.foldl step s) = (l.reverse.findSome? offer).or (read s) := by
  induction l generalizing s with
  | nil => rfl
  | cons a rest ih =>
      rw [List.foldl_cons, ih, hstep, List.reverse_cons, List.findSome?_append, Option.or_assoc,
        List.findSome?_cons, List.findSome?_nil]
      cases offer a <;> rfl

/-- Passing an element over is letting it make no offer. -/
theorem findSome?_filter_eq (p : α → Bool) (offer : α → Option β) (l : List α) :
    (l.filter p).findSome? offer = l.findSome? fun a => if p a then offer a else none := by
  induction l with
  | nil => rfl
  | cons a rest ih =>
      by_cases hp : p a = true
      · rw [List.filter_cons_of_pos hp, List.findSome?_cons, List.findSome?_cons, if_pos hp, ih]
      · rw [List.filter_cons_of_neg hp, List.findSome?_cons, if_neg hp, ih]

/-- A fact that any element establishes, and none takes back. -/
theorem foldl_established {step : σ → α → σ} (fact : σ → Prop) {gives : α → Prop}
    (hstep : ∀ s a, fact (step s a) ↔ fact s ∨ gives a) (s : σ) (l : List α) :
    fact (l.foldl step s) ↔ fact s ∨ ∃ a ∈ l, gives a := by
  induction l generalizing s with
  | nil => simp
  | cons a rest ih =>
      rw [List.foldl_cons, ih, hstep, or_assoc]
      simp only [List.mem_cons, exists_eq_or_imp]

/-- The elements of the list that make an offer all make the same one. -/
def OffersAgree (offer : α → Option β) (l : List α) : Prop :=
  ∀ a ∈ l, ∀ a' ∈ l, ∀ b b', offer a = some b → offer a' = some b' → b = b'

theorem findSome?_eq_some_iff_of_agree {offer : α → Option β} {l : List α}
    (h : OffersAgree offer l) (b : β) :
    l.findSome? offer = some b ↔ ∃ a ∈ l, offer a = some b := by
  constructor
  · exact List.exists_of_findSome?_eq_some
  · rintro ⟨a, ha, hoffer⟩
    cases hfirst : l.findSome? offer with
    | none =>
        rw [List.findSome?_eq_none_iff] at hfirst
        exact absurd (hoffer.symm.trans (hfirst a ha)) (Option.some_ne_none b)
    | some b' =>
        obtain ⟨a', ha', hoffer'⟩ := List.exists_of_findSome?_eq_some hfirst
        rw [h a ha a' ha' b b' hoffer hoffer']

/-- Where the offers agree, only the members of the list count. -/
theorem findSome?_congr_of_agree {offer : α → Option β} {l l' : List α}
    (h : OffersAgree offer l) (hmem : ∀ a, a ∈ l ↔ a ∈ l') :
    l.findSome? offer = l'.findSome? offer := by
  have h' : OffersAgree offer l' := fun a ha a' ha' =>
    h a ((hmem a).mpr ha) a' ((hmem a').mpr ha')
  apply Option.ext
  intro b
  rw [findSome?_eq_some_iff_of_agree h, findSome?_eq_some_iff_of_agree h']
  simp only [hmem]

end Holabrain
