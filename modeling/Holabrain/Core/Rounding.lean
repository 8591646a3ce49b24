import Mathlib.Data.Int.ConditionallyCompleteOrder
import Mathlib.Data.Rat.Floor
import Mathlib.Algebra.Order.Field.Basic
import Mathlib.Tactic.Linarith
import Mathlib.Tactic.FieldSimp
import Mathlib.Tactic.Ring

/-!
# Rounding between two scales

A scale of `steps` steps is laid over a span of integers that starts at `start`, and points of
either are rounded to points of the other.  Nothing is assumed of the rounding but that it is
monotone and goes to a nearest integer: which one it takes in the middle does not matter.
-/

namespace Holabrain

/-- A monotone rounding to a nearest integer. -/
structure NearestRounding (round : ℚ → ℤ) : Prop where
  mono : Monotone round
  error : ∀ q, |(round q : ℚ) - q| ≤ 1 / 2

namespace NearestRounding

variable {round : ℚ → ℤ}

/-- Only one integer is closer than a half. -/
theorem eq_of_abs_lt (h : NearestRounding round) {q : ℚ} {n : ℤ} (hclose : |q - n| < 1 / 2) :
    round q = n := by
  have herror := abs_le.mp (h.error q)
  have hnear := abs_lt.mp hclose
  have hlow : (n : ℚ) < round q + 1 := by linarith
  have hhigh : (round q : ℚ) < n + 1 := by linarith
  have hlow' : n < round q + 1 := by exact_mod_cast hlow
  have hhigh' : round q < n + 1 := by exact_mod_cast hhigh
  omega

theorem intCast (h : NearestRounding round) (n : ℤ) : round n = n :=
  h.eq_of_abs_lt (by norm_num)

/-- Rounding does not leave a range of integers. -/
theorem mem_Icc (h : NearestRounding round) {low high : ℤ} {q : ℚ} (hlow : low ≤ q)
    (hhigh : q ≤ high) : low ≤ round q ∧ round q ≤ high := by
  constructor
  · rw [← h.intCast low]
    exact h.mono hlow
  · rw [← h.intCast high]
    exact h.mono hhigh

/-- Away from the middles between two integers there is less to round. -/
theorem error_of_gap (h : NearestRounding round) {x gap : ℚ}
    (hgap : ∀ n : ℤ, gap ≤ |x - (n + 1 / 2)|) : |(round x : ℚ) - x| ≤ 1 / 2 - gap := by
  have herror := abs_le.mp (h.error x)
  have habove : gap ≤ round x + 1 / 2 - x := by
    have hmiddle := hgap (round x)
    rwa [abs_sub_comm, abs_of_nonneg (by linarith)] at hmiddle
  have hbelow : gap ≤ x - (round x - 1 / 2) := by
    have hmiddle := hgap (round x - 1)
    push_cast at hmiddle
    rw [abs_of_nonneg (by linarith)] at hmiddle
    linarith
  rw [abs_le]
  constructor <;> linarith

/-- Numbers closer together than to any middle between two integers round alike. -/
theorem eq_of_near (h : NearestRounding round) {x y gap : ℚ}
    (hgap : ∀ n : ℤ, gap ≤ |x - (n + 1 / 2)|) (hnear : |y - x| < gap) : round y = round x := by
  apply h.eq_of_abs_lt
  calc |y - round x| ≤ |y - x| + |x - round x| := abs_sub_le _ _ _
    _ < gap + (1 / 2 - gap) := by
      rw [abs_sub_comm x]
      exact add_lt_add_of_lt_of_le hnear (h.error_of_gap hgap)
    _ = 1 / 2 := by ring

section Scales

variable {steps span : ℚ} {start : ℤ}

/-- A point laid over a span of at least as many integers as there are steps is found again: the
first rounding moves it by half an integer at most, which is less than half a step unless steps
and integers coincide. -/
theorem there_and_back (h : NearestRounding round) (hsteps : 0 < steps) (hspan : steps ≤ span)
    (point : ℤ) :
    round (((round (start + point / steps * span) : ℚ) - start) / span * steps) = point := by
  have hpos : 0 < span := lt_of_lt_of_le hsteps hspan
  obtain hsame | hwider := hspan.eq_or_lt
  · have hlaid : (start : ℚ) + point / steps * span = ((start + point : ℤ) : ℚ) := by
      rw [← hsame, div_mul_cancel₀ _ hsteps.ne']
      push_cast
      rfl
    have hback : (((start + point : ℤ) : ℚ) - start) / span * steps = point := by
      rw [← hsame, div_mul_cancel₀ _ hsteps.ne']
      push_cast
      ring
    rw [hlaid, h.intCast, hback, h.intCast]
  · apply h.eq_of_abs_lt
    have herror := h.error (start + point / steps * span)
    generalize (round (start + point / steps * span) : ℚ) = laid at herror ⊢
    have hmoved : (laid - start) / span * steps - point =
        (laid - (start + point / steps * span)) * (steps / span) := by
      field_simp
      ring
    have hratio : steps / span < 1 := (div_lt_one hpos).mpr hwider
    calc |(laid - start) / span * steps - point|
        = |laid - (start + point / steps * span)| * (steps / span) := by
          rw [hmoved, abs_mul, abs_of_pos (div_pos hsteps hpos)]
      _ ≤ 1 / 2 * (steps / span) :=
          mul_le_mul_of_nonneg_right herror (div_pos hsteps hpos).le
      _ < 1 / 2 := by linarith

/-- A point of the span read back from the scale is half a step and half an integer off at
most. -/
theorem back_error (h : NearestRounding round) (hsteps : 0 < steps) (hspan : 0 < span)
    (value : ℚ) :
    |(round (start + (round ((value - start) / span * steps) : ℚ) / steps * span) : ℚ) - value| ≤
      span / (2 * steps) + 1 / 2 := by
  have hscale := h.error ((value - start) / span * steps)
  generalize (round ((value - start) / span * steps) : ℚ) = point at hscale ⊢
  have hread := h.error (start + point / steps * span)
  generalize (round (start + point / steps * span) : ℚ) = read at hread ⊢
  have hstep : start + point / steps * span - value =
      (point - (value - start) / span * steps) * (span / steps) := by
    field_simp
    ring
  calc |read - value|
      ≤ |read - (start + point / steps * span)| + |start + point / steps * span - value| :=
        abs_sub_le _ _ _
    _ ≤ 1 / 2 + 1 / 2 * (span / steps) := by
        rw [hstep, abs_mul, abs_of_pos (div_pos hspan hsteps)]
        exact add_le_add hread (mul_le_mul_of_nonneg_right hscale (div_pos hspan hsteps).le)
    _ = span / (2 * steps) + 1 / 2 := by
        field_simp
        ring

end Scales

end NearestRounding

end Holabrain
