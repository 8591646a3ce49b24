import Mathlib.Algebra.Order.Group.Defs
import Mathlib.Algebra.Order.Group.Unbundled.Basic
import Mathlib.Data.List.Induction

/-!
# Fixed-window budgets

A budget of so many grants in each window of time.  A window begins with the first request
after the last one is over, so that windows do not overlap, and every request within a window
counts, granted or not.  No interval of a window's length touches more than two windows, which
is why it sees at most twice the budget.
-/

namespace Holabrain

/-- The start of the current window, if there is one, and the requests counted in it. -/
@[ext]
structure Budget (T : Type) where
  start : Option T
  spent : ℕ

/-- One request to a budget: when it came, the start of the window it was counted in, and
whether it was granted. -/
structure Grant (T : Type) where
  time : T
  window : T
  granted : Bool

namespace Budget

section Windows

variable {T : Type} [LinearOrder T] {grants : List (Grant T)}

/-- The requests counted in the window that starts at `w`. -/
def inWindow (w : T) (grants : List (Grant T)) : ℕ :=
  grants.countP fun g => decide (g.window = w)

/-- Those of them that were granted. -/
def grantedIn (w : T) (grants : List (Grant T)) : ℕ :=
  grants.countP fun g => g.granted && decide (g.window = w)

theorem inWindow_append (w : T) (g : Grant T) :
    inWindow w (grants ++ [g]) = inWindow w grants + if g.window = w then 1 else 0 := by
  rw [inWindow, List.countP_append, List.countP_singleton]
  simp [inWindow]

theorem inWindow_eq_zero {w : T} (h : ∀ g ∈ grants, g.window ≠ w) : inWindow w grants = 0 := by
  simpa [inWindow] using h

theorem grantedIn_append (w : T) (g : Grant T) :
    grantedIn w (grants ++ [g]) =
      grantedIn w grants + if g.granted = true ∧ g.window = w then 1 else 0 := by
  rw [grantedIn, List.countP_append, List.countP_singleton]
  simp [grantedIn]

theorem grantedIn_le_inWindow (w : T) : grantedIn w grants ≤ inWindow w grants := by
  refine List.countP_mono_left fun g _ hg => ?_
  exact (Bool.and_eq_true _ _ ▸ hg).2

end Windows

section Take

variable {T : Type} [AddCommGroup T] [LinearOrder T] (limit : ℕ) (length : T)

/-- A request at `now` begins a new window. -/
def restarts (b : Budget T) (now : T) : Bool :=
  match b.start with
  | none => true
  | some start => decide (length < now - start)

/-- The budget after one more request. -/
def count (b : Budget T) (now : T) : Budget T where
  start := if b.restarts length now then some now else b.start
  spent := (if b.restarts length now then 0 else b.spent) + 1

/-- The record of a request at `now`. -/
def take (b : Budget T) (now : T) : Grant T where
  time := now
  window := (b.count length now).start.getD now
  granted := decide ((b.count length now).spent ≤ limit)

/-- The requests a budget has been asked, none of them before an earlier one. -/
inductive Spends (b₀ : Budget T) : List (Grant T) → Budget T → Prop
  | start : Spends b₀ [] b₀
  | take {grants : List (Grant T)} {b : Budget T} (now : T) (hspends : Spends b₀ grants b)
      (hlater : ∀ g ∈ grants, g.time ≤ now) :
      Spends b₀ (grants ++ [b.take limit length now]) (b.count length now)

/-- What every record of requests satisfies, together with the budget they leave. -/
structure Kept (grants : List (Grant T)) (b : Budget T) : Prop where
  /-- Without a window nothing has been counted. -/
  empty : b.start = none → grants = []
  /-- The current window is the last one, and its requests are counted. -/
  current : ∀ w, b.start = some w → b.spent = inWindow w grants ∧
    (∃ g ∈ grants, g.window = w) ∧ ∀ g ∈ grants, g.window ≤ w
  /-- A request is counted in a window that has begun and is not over. -/
  placed : ∀ g ∈ grants, g.window ≤ g.time ∧ g.time ≤ g.window + length
  /-- A window begins after the one before is over. -/
  spaced : ∀ g ∈ grants, ∀ g' ∈ grants, g.window < g'.window → g.window + length < g'.window
  /-- A request is granted while its window has seen fewer than `limit`. -/
  answered : ∀ earlier g, earlier ++ [g] <+: grants →
    (g.granted = true ↔ inWindow g.window earlier < limit)

end Take

section Bounds

variable {T : Type} [AddCommGroup T] [LinearOrder T] [IsOrderedAddMonoid T] {limit : ℕ}
  {length : T} {b b₀ : Budget T} {grants : List (Grant T)} {now : T}

namespace Kept

omit [IsOrderedAddMonoid T] in
/-- One more request, in the last window or in one that begins after it. -/
theorem concat (h : Kept limit length grants b) {g : Grant T}
    (hplaced : g.window ≤ g.time ∧ g.time ≤ g.window + length)
    (hlast : ∀ g' ∈ grants, g'.window ≤ g.window)
    (hspaced : ∀ g' ∈ grants, g'.window < g.window → g'.window + length < g.window)
    (hanswer : g.granted = true ↔ inWindow g.window grants < limit) :
    Kept limit length (grants ++ [g]) ⟨some g.window, inWindow g.window grants + 1⟩ where
  empty hnone := by cases hnone
  current w hw := by
    obtain rfl := Option.some.inj hw
    refine ⟨by rw [inWindow_append, if_pos rfl], ⟨g, by simp, rfl⟩, fun g' hg' => ?_⟩
    rcases List.mem_append.mp hg' with hg' | hg'
    · exact hlast g' hg'
    · rw [List.mem_singleton.mp hg']
  placed g' hg' := by
    rcases List.mem_append.mp hg' with hg' | hg'
    · exact h.placed g' hg'
    · rwa [List.mem_singleton.mp hg']
  spaced g₁ hg₁ g₂ hg₂ hlt := by
    rcases List.mem_append.mp hg₁ with hg₁ | hg₁ <;> rcases List.mem_append.mp hg₂ with hg₂ | hg₂
    · exact h.spaced g₁ hg₁ g₂ hg₂ hlt
    · rw [List.mem_singleton.mp hg₂] at hlt ⊢
      exact hspaced g₁ hg₁ hlt
    · rw [List.mem_singleton.mp hg₁] at hlt
      exact absurd hlt (hlast g₂ hg₂).not_gt
    · rw [List.mem_singleton.mp hg₁, List.mem_singleton.mp hg₂] at hlt
      exact absurd hlt (lt_irrefl _)
  answered earlier g' hearlier := by
    rcases List.prefix_concat_iff.mp hearlier with heq | hold
    · obtain ⟨rfl, hsingle⟩ := List.append_inj' heq rfl
      rwa [List.head_eq_of_cons_eq hsingle]
    · exact h.answered earlier g' hold

/-- A request that begins a window. -/
theorem restart (h : Kept limit length grants b) (hlength : 0 ≤ length)
    (hrestarts : b.restarts length now = true) :
    Kept limit length (grants ++ [b.take limit length now]) (b.count length now) := by
  have hover : ∀ g ∈ grants, g.window + length < now := by
    intro g hg
    rw [restarts] at hrestarts
    cases hstart : b.start with
    | none =>
        rw [h.empty hstart] at hg
        exact absurd hg List.not_mem_nil
    | some start =>
        rw [hstart, decide_eq_true_iff, lt_sub_iff_add_lt'] at hrestarts
        exact (add_le_add_left ((h.current start hstart).2.2 g hg) length).trans_lt hrestarts
  have hbefore : ∀ g ∈ grants, g.window < now := fun g hg =>
    (le_add_of_nonneg_right hlength).trans_lt (hover g hg)
  have hzero : inWindow now grants = 0 := inWindow_eq_zero fun g hg => (hbefore g hg).ne
  have hcount : b.count length now = ⟨some now, inWindow now grants + 1⟩ := by
    simp [count, hrestarts, hzero]
  have htake : b.take limit length now = ⟨now, now, decide (inWindow now grants + 1 ≤ limit)⟩ := by
    simp [take, hcount]
  rw [hcount, htake]
  refine h.concat ⟨le_rfl, le_add_of_nonneg_right hlength⟩ (fun g hg => (hbefore g hg).le)
    (fun g hg _ => hover g hg) ?_
  exact decide_eq_true_iff

/-- A request within the current window. -/
theorem within (h : Kept limit length grants b) (hlater : ∀ g ∈ grants, g.time ≤ now)
    (hrestarts : b.restarts length now = false) :
    Kept limit length (grants ++ [b.take limit length now]) (b.count length now) := by
  cases hstart : b.start with
  | none => simp [restarts, hstart] at hrestarts
  | some w =>
      obtain ⟨hspent, ⟨g₀, hg₀, hwindow⟩, hlast⟩ := h.current w hstart
      have hnow : now ≤ w + length := by
        rw [restarts, hstart, decide_eq_false_iff_not, not_lt, sub_le_iff_le_add'] at hrestarts
        exact hrestarts
      have hcount : b.count length now = ⟨some w, inWindow w grants + 1⟩ := by
        simp [count, hrestarts, hstart, hspent]
      have htake : b.take limit length now = ⟨now, w, decide (inWindow w grants + 1 ≤ limit)⟩ := by
        simp [take, hcount]
      have hbegun : w ≤ now := by
        rw [← hwindow]
        exact (h.placed g₀ hg₀).1.trans (hlater g₀ hg₀)
      rw [hcount, htake]
      refine h.concat ⟨hbegun, hnow⟩ hlast (fun g hg hlt => ?_) decide_eq_true_iff
      have hspaced := h.spaced g hg g₀ hg₀
      rw [hwindow] at hspaced
      exact hspaced hlt

omit [IsOrderedAddMonoid T] in
/-- No window grants more than the budget. -/
theorem grantedIn_le (h : Kept limit length grants b) (w : T) : grantedIn w grants ≤ limit := by
  suffices hall : ∀ earlier, earlier <+: grants → grantedIn w earlier ≤ limit from
    hall grants (List.prefix_refl _)
  intro earlier hearlier
  induction earlier using List.reverseRecOn with
  | nil => exact Nat.zero_le _
  | append_singleton earlier g ih =>
      have hbefore := ih ((List.prefix_append _ _).trans hearlier)
      rw [grantedIn_append]
      split
      next hgranted =>
        obtain ⟨hgranted, rfl⟩ := hgranted
        have hfewer := (h.answered earlier g hearlier).mp hgranted
        exact Nat.succ_le_of_lt ((grantedIn_le_inWindow _).trans_lt hfewer)
      next => exact hbefore

omit [IsOrderedAddMonoid T] in
/-- Nor do requests that share one window. -/
theorem countP_le_of_same_window (h : Kept limit length grants b) {p : Grant T → Bool}
    (hsame : ∀ g ∈ grants, ∀ g' ∈ grants, p g = true → p g' = true → g.window = g'.window) :
    (grants.countP fun g => g.granted && p g) ≤ limit := by
  rcases Nat.eq_zero_or_pos (grants.countP fun g => g.granted && p g) with hzero | hpos
  · rw [hzero]
    exact Nat.zero_le _
  · obtain ⟨g₀, hg₀, hp₀⟩ := List.countP_pos_iff.mp hpos
    rw [Bool.and_eq_true] at hp₀
    refine (List.countP_mono_left fun g hg hp => ?_).trans (h.grantedIn_le g₀.window)
    rw [Bool.and_eq_true] at hp ⊢
    exact ⟨hp.1, decide_eq_true (hsame g hg g₀ hg₀ hp.2 hp₀.2)⟩

/-- An interval of a window's length touches one window that began before it and one that
began within it, and no other. -/
theorem countP_interval_le (h : Kept limit length grants b) (a : T) :
    (grants.countP fun g => g.granted && decide (a ≤ g.time ∧ g.time ≤ a + length)) ≤
      2 * limit := by
  have hbefore : (grants.countP fun g => g.granted &&
      decide ((a ≤ g.time ∧ g.time ≤ a + length) ∧ g.window < a)) ≤ limit := by
    apply h.countP_le_of_same_window
    intro g hg g' hg' hp hp'
    rw [decide_eq_true_iff] at hp hp'
    -- a window that begins before the other one does is over before `a`
    have hnot : ∀ g₁ ∈ grants, ∀ g₂ ∈ grants, a ≤ g₁.time → g₂.window < a →
        ¬ g₁.window < g₂.window := by
      intro g₁ hg₁ g₂ hg₂ hfrom hwindow hlt
      have hover := (h.placed g₁ hg₁).2.trans_lt (h.spaced g₁ hg₁ g₂ hg₂ hlt)
      exact absurd (hfrom.trans_lt (hover.trans hwindow)) (lt_irrefl a)
    exact le_antisymm (not_lt.mp (hnot g' hg' g hg hp'.1.1 hp.2))
      (not_lt.mp (hnot g hg g' hg' hp.1.1 hp'.2))
  have hduring : (grants.countP fun g => g.granted &&
      decide ((a ≤ g.time ∧ g.time ≤ a + length) ∧ ¬ g.window < a)) ≤ limit := by
    apply h.countP_le_of_same_window
    intro g hg g' hg' hp hp'
    rw [decide_eq_true_iff] at hp hp'
    -- the window after one that begins at `a` or later begins after the interval
    have hnot : ∀ g₁ ∈ grants, ∀ g₂ ∈ grants, ¬ g₁.window < a → g₂.time ≤ a + length →
        ¬ g₁.window < g₂.window := by
      intro g₁ hg₁ g₂ hg₂ hwindow hto hlt
      have hspaced := (h.spaced g₁ hg₁ g₂ hg₂ hlt).trans_le ((h.placed g₂ hg₂).1.trans hto)
      exact hwindow (lt_of_add_lt_add_right hspaced)
    exact le_antisymm (not_lt.mp (hnot g' hg' g hg hp'.2 hp.1.2))
      (not_lt.mp (hnot g hg g' hg' hp.2 hp'.1.2))
  rw [List.countP_eq_countP_filter_add _ _ fun g => decide (g.window < a), List.countP_filter,
    List.countP_filter, Nat.two_mul]
  refine Nat.add_le_add (le_trans ?_ hbefore) (le_trans ?_ hduring)
  · refine List.countP_mono_left fun g _ hp => ?_
    simpa [and_assoc] using hp
  · refine List.countP_mono_left fun g _ hp => ?_
    simpa [and_assoc] using hp

end Kept

theorem Spends.kept (hspends : Spends limit length b₀ grants b) (hfresh : b₀.start = none)
    (hlength : 0 ≤ length) : Kept limit length grants b := by
  induction hspends with
  | start =>
      refine ⟨fun _ => rfl, fun w hw => ?_, by simp, by simp, fun earlier g hearlier => ?_⟩
      · rw [hfresh] at hw
        cases hw
      · exact absurd (List.prefix_nil.mp hearlier) (by simp)
  | @take grants b now _ hlater ih =>
      cases hrestarts : b.restarts length now with
      | true => exact ih.restart hlength hrestarts
      | false => exact ih.within hlater hrestarts

end Bounds

end Budget

end Holabrain
