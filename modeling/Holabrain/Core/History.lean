import Mathlib.Data.List.Basic
import Holabrain.Core.Interference

/-!
# Recorded schedules

A schedule of a pool with what its launches record, in order, and the question such a record
is asked most: whether something has happened and nothing has answered it since.
-/

namespace Holabrain

/-! ## What is still open -/

section Pending

variable {L : Type} {opens closes : L → Prop}

/-- Something opened, and nothing has closed it since. -/
def Pending (opens closes : L → Prop) (history : List L) : Prop :=
  ∃ earlier moment later, history = earlier ++ moment :: later ∧ opens moment ∧
    ∀ since ∈ later, ¬ closes since

theorem not_pending_nil : ¬ Pending opens closes [] := by
  intro ⟨earlier, moment, later, heq, _⟩
  exact absurd heq.symm (List.append_ne_nil_of_right_ne_nil _ (List.cons_ne_nil _ _))

theorem pending_concat {history : List L} {moment : L} :
    Pending opens closes (history ++ [moment]) ↔
      opens moment ∨ (Pending opens closes history ∧ ¬ closes moment) := by
  constructor
  · intro ⟨earlier, opened, later, heq, hopens, hopen⟩
    rcases later.eq_nil_or_concat' with rfl | ⟨later', last, rfl⟩
    · obtain ⟨_, hlast⟩ := List.append_inj' heq rfl
      obtain rfl := List.head_eq_of_cons_eq hlast
      exact .inl hopens
    · rw [← List.cons_append, ← List.append_assoc] at heq
      obtain ⟨rfl, hlast⟩ := List.append_inj' heq rfl
      obtain rfl := List.head_eq_of_cons_eq hlast
      refine .inr ⟨⟨earlier, opened, later', rfl, hopens, fun since hsince => ?_⟩, ?_⟩
      · exact hopen since (List.mem_append_left _ hsince)
      · exact hopen moment (List.mem_append_right _ List.mem_cons_self)
  · rintro (hopens | ⟨⟨earlier, opened, later, rfl, hopens, hopen⟩, hcloses⟩)
    · exact ⟨history, moment, [], rfl, hopens, fun _ hsince => absurd hsince List.not_mem_nil⟩
    · refine ⟨earlier, opened, later ++ [moment], by simp, hopens, fun since hsince => ?_⟩
      rcases List.mem_append.mp hsince with hold | hnew
      · exact hopen since hold
      · rwa [List.mem_singleton.mp hnew]

/-- What opened stays open until something closes it. -/
theorem Pending.of_opens {history : List L} {moment : L} (hopens : opens moment) {later : List L}
    (hopen : ∀ since ∈ later, ¬ closes since) :
    Pending opens closes (history ++ moment :: later) :=
  ⟨history, moment, later, rfl, hopens, hopen⟩

end Pending

/-! ## Schedules -/

namespace Pool

variable {σ ι : Type} {ο : ι → Type} {ε α L : Type}

/-- The schedules from `start`, each with what its launches have recorded. -/
inductive History (env : Environment σ ι ο) (admits : σ → Coro σ ι ο ε α → Option L → Prop)
    (start : Pool σ ι ο ε α) : Pool σ ι ο ε α → List L → Prop
  | start : History env admits start start []
  | resume {pool pool' : Pool σ ι ο ε α} {history : List L}
      (hsofar : History env admits start pool history)
      (hstep : Step env (fun _ _ => False) pool pool') : History env admits start pool' history
  | launch {pool : Pool σ ι ο ε α} {history : List L} {p : Coro σ ι ο ε α} {moment : Option L}
      (hsofar : History env admits start pool history) (hadmits : admits pool.shared p moment) :
      History env admits start (pool.launch p) (history ++ moment.toList)

namespace History

variable {env : Environment σ ι ο} {admits : σ → Coro σ ι ο ε α → Option L → Prop}
  {start pool : Pool σ ι ο ε α} {history : List L}

/-- A moment was recorded by a launch, after what the record says came before. -/
theorem launched {earlier later : List L} {moment : L}
    (h : History env admits start pool (earlier ++ moment :: later)) :
    ∃ before p, History env admits start before earlier ∧
      admits before.shared p (some moment) := by
  generalize heq : earlier ++ moment :: later = history at h
  induction h generalizing later with
  | start => exact absurd heq (List.append_ne_nil_of_right_ne_nil _ (List.cons_ne_nil _ _))
  | resume _ _ ih => exact ih heq
  | @launch before history p recorded hsofar hadmits ih =>
      cases recorded with
      | none => exact ih (heq.trans (List.append_nil _))
      | some last =>
          rcases later.eq_nil_or_concat' with rfl | ⟨later', last', rfl⟩
          · obtain ⟨rfl, hlast⟩ := List.append_inj' heq rfl
            obtain rfl := List.head_eq_of_cons_eq hlast
            exact ⟨before, p, hsofar, hadmits⟩
          · rw [← List.cons_append, ← List.append_assoc] at heq
            exact ih (List.append_inj' heq rfl).1

/-- An invariant of the record and the state that survives every block of a parked coroutine,
and that every launch keeps, holds of every schedule. -/
theorem invariant {rel : σ → σ → Prop} {inv : List L → σ → Prop}
    (hkeep : ∀ history s t, rel s t → inv history s → inv history t)
    (hlaunch : ∀ history s p moment, admits s p moment → inv history s →
      (p.settle s).1.ObeysParked env rel (p.settle s).2 ∧
        inv (history ++ moment.toList) (p.settle s).2)
    (h : History env admits start pool history)
    (hparked : ∀ p ∈ start.threads, p.ObeysParked env rel start.shared)
    (hinit : inv [] start.shared) :
    (∀ p ∈ pool.threads, p.ObeysParked env rel pool.shared) ∧ inv history pool.shared := by
  induction h with
  | start => exact ⟨hparked, hinit⟩
  | resume _ hstep ih =>
      cases hstep with
      | launch p hnever => exact hnever.elim
      | resume k hthread hanswer =>
          have hnext : Coro.Obeys env rel _ _ _ :=
            ih.1 _ (List.mem_of_getElem? hthread) _ trivial _ _ hanswer
          obtain ⟨hrel, hsettled⟩ := hnext.settle
          refine ⟨fun p hp => ?_, hkeep _ _ _ hrel ih.2⟩
          rcases List.mem_or_eq_of_mem_set hp with hold | rfl
          · exact (ih.1 p hold).mono _
          · exact hsettled
  | launch _ hadmits ih =>
      obtain ⟨hsettled, hinv⟩ := hlaunch _ _ _ _ hadmits ih.2
      refine ⟨fun q hq => ?_, hinv⟩
      rcases List.mem_append.mp hq with hold | hnew
      · exact (ih.1 q hold).mono _
      · rwa [List.mem_singleton.mp hnew]

end History

end Pool

end Holabrain
