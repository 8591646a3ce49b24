import Holabrain.Cloud.Number
import Holabrain.Core.Rounding

/-!
# Numbers beyond the doubles

`float` of an integer and `int` of an infinity raise an `OverflowError`, which the conversions of
the entities do not catch.  A rational rounds to an infinity exactly from `overflowBound` on, and
each conversion raises exactly for the values named here.
-/

namespace Holabrain

/-! ## Rounding to an infinity -/

/-- The least magnitude that rounds to an infinity. -/
def Double.overflowBound : ℚ := 2 ^ 1024 - 2 ^ 970

/-- Rounding moves by a half at most. -/
theorem roundHalfEven_mem_Icc (q : ℚ) :
    (roundHalfEven q : ℚ) - 1 / 2 ≤ q ∧ q ≤ roundHalfEven q + 1 / 2 := by
  have hlow : (⌊q⌋ : ℚ) ≤ q := Int.floor_le q
  have hhigh : q < (⌊q⌋ : ℚ) + 1 := Int.lt_floor_add_one q
  simp only [roundHalfEven]
  split_ifs with hbelow habove htie <;> push_cast <;> constructor <;> linarith

/-- From a half below or above it moves to the even integer. -/
theorem roundHalfEven_tie {q : ℚ}
    (htie : q = roundHalfEven q + 1 / 2 ∨ q = roundHalfEven q - 1 / 2) :
    roundHalfEven q % 2 = 0 := by
  have hlow : (⌊q⌋ : ℚ) ≤ q := Int.floor_le q
  have hhigh : q < (⌊q⌋ : ℚ) + 1 := Int.lt_floor_add_one q
  simp only [roundHalfEven] at htie ⊢
  split_ifs at htie ⊢ with hbelow habove heven
  · obtain htie | htie := htie <;> linarith
  · push_cast at htie
    obtain htie | htie := htie <;> linarith
  · exact heven
  · omega

/-- Rounding reaches an even integer from half below it. -/
theorem le_roundHalfEven_iff {m : ℤ} (heven : m % 2 = 0) (q : ℚ) :
    m ≤ roundHalfEven q ↔ (m : ℚ) - 1 / 2 ≤ q := by
  obtain ⟨hlow, hhigh⟩ := roundHalfEven_mem_Icc q
  constructor
  · intro h
    have hcast : (m : ℚ) ≤ roundHalfEven q := by exact_mod_cast h
    linarith
  · intro h
    by_contra hless
    have hle : (roundHalfEven q : ℚ) ≤ m - 1 := by
      exact_mod_cast Int.le_sub_one_of_lt (not_le.mp hless)
    -- the odd integer below is no place to go from the middle
    have heq : (roundHalfEven q : ℚ) = m - 1 := by linarith
    have hodd := roundHalfEven_tie (.inl (by linarith : q = roundHalfEven q + 1 / 2))
    have hint : roundHalfEven q = m - 1 := by exact_mod_cast heq
    omega

section Units

variable {unit : ℚ} (hunit : 0 < unit) (x : ℚ)

include hunit

/-- An even number of units is reached from half a unit below it. -/
theorem mul_le_roundHalfEven_mul_iff {m : ℤ} (heven : m % 2 = 0) :
    (m : ℚ) * unit ≤ roundHalfEven (x / unit) * unit ↔ ((m : ℚ) - 1 / 2) * unit ≤ x := by
  rw [mul_le_mul_iff_left₀ hunit, Int.cast_le, le_roundHalfEven_iff heven, le_div_iff₀ hunit]

theorem roundHalfEven_mul_le : (roundHalfEven (x / unit) : ℚ) * unit ≤ x + unit / 2 := by
  have hround : (roundHalfEven (x / unit) : ℚ) ≤ x / unit + 1 / 2 := by
    linarith only [(roundHalfEven_mem_Icc (x / unit)).1]
  calc (roundHalfEven (x / unit) : ℚ) * unit ≤ (x / unit + 1 / 2) * unit :=
        mul_le_mul_of_nonneg_right hround hunit.le
    _ = x + unit / 2 := by field_simp

end Units

/-- What a magnitude rounds to is beyond the doubles from the bound on. -/
theorem pow_le_round_iff {x : ℚ} (hpos : 0 < x) :
    (2 : ℚ) ^ (1024 : ℕ) ≤
      (roundHalfEven (x / 2 ^ max (Int.log 2 x - 52) (-1074)) : ℚ) *
        2 ^ max (Int.log 2 x - 52) (-1074) ↔ Double.overflowBound ≤ x := by
  have hlow : ((2 : ℕ) : ℚ) ^ Int.log 2 x ≤ x := Int.zpow_log_le_self (by norm_num) hpos
  have hhigh : x < ((2 : ℕ) : ℚ) ^ (Int.log 2 x + 1) := Int.lt_zpow_succ_log_self (by norm_num) x
  push_cast at hlow hhigh
  obtain ⟨step, hstep⟩ : ∃ step : ℚ, step = 2 ^ (970 : ℕ) := ⟨_, rfl⟩
  have hsteppos : 0 < step := by rw [hstep]; exact pow_pos two_pos _
  have htop : (2 : ℚ) ^ (1024 : ℕ) = 2 ^ 54 * step := by rw [hstep, ← pow_add]
  have hhalf : (2 : ℚ) ^ (1023 : ℕ) = 2 ^ 53 * step := by rw [hstep, ← pow_add]
  have hbound : Double.overflowBound = 2 ^ 54 * step - step := by
    rw [Double.overflowBound, htop, hstep]
  obtain ⟨unit, hunit⟩ : ∃ unit : ℚ, unit = 2 ^ max (Int.log 2 x - 52) (-1074) := ⟨_, rfl⟩
  have hunitpos : 0 < unit := by rw [hunit]; exact zpow_pos two_pos _
  rw [← hunit, htop, hbound]
  obtain hsmall | hedge | hlarge := lt_trichotomy (Int.log 2 x) 1023
  · -- half a unit does not make up for a factor of two
    have hbelow : x < 2 ^ 53 * step := by
      rw [← hhalf, ← zpow_natCast]
      exact hhigh.trans_le (zpow_le_zpow_right₀ (by norm_num) (by push_cast; omega))
    have hsmallUnit : unit ≤ step := by
      rw [hunit, hstep, ← zpow_natCast]
      exact zpow_le_zpow_right₀ (by norm_num) (by push_cast; omega)
    have hround := roundHalfEven_mul_le hunitpos x
    refine iff_of_false ?_ ?_ <;> rw [not_le]
    · linarith only [hround, hbelow, hsmallUnit, hsteppos]
    · linarith only [hbelow, hsteppos]
  · -- the last binade, in units of `2 ^ 971`
    have hvalue : unit = 2 * step := by
      have hexp : max (Int.log 2 x - 52) (-1074) = (971 : ℕ) := by
        rw [hedge]
        norm_num
      rw [hunit, hstep, hexp, zpow_natCast, ← pow_succ']
    have hreach := mul_le_roundHalfEven_mul_iff hunitpos x (m := 2 ^ 53) (by norm_num)
    have hscaled : ((2 ^ 53 : ℤ) : ℚ) * unit = 2 ^ 54 * step := by
      rw [hvalue]
      push_cast
      ring
    rw [hscaled] at hreach
    rw [hreach, hvalue]
    push_cast
    constructor <;> intro h <;> linarith only [h]
  · have hexp : max (Int.log 2 x - 52) (-1074) = Int.log 2 x - 52 := by omega
    -- a whole number of units lies in between
    have hwhole : ((2 ^ 52 : ℤ) : ℚ) * unit = 2 ^ Int.log 2 x := by
      have hsum : (2 : ℚ) ^ (52 : ℤ) * 2 ^ (Int.log 2 x - 52) = 2 ^ Int.log 2 x := by
        rw [← zpow_add₀ two_ne_zero, add_sub_cancel]
      rw [hunit, hexp, ← hsum]
      norm_num
    have habove : 2 ^ 54 * step ≤ (2 : ℚ) ^ Int.log 2 x := by
      rw [← htop, ← zpow_natCast]
      exact zpow_le_zpow_right₀ (by norm_num) (by push_cast; omega)
    refine iff_of_true ?_ (by linarith only [habove, hlow, hsteppos])
    calc 2 ^ 54 * step ≤ (2 : ℚ) ^ Int.log 2 x := habove
      _ = ((2 ^ 52 : ℤ) : ℚ) * unit := hwhole.symm
      _ ≤ (roundHalfEven (x / unit) : ℚ) * unit := by
        rw [mul_le_roundHalfEven_mul_iff hunitpos x (by norm_num), sub_mul, hwhole]
        linarith only [hlow, hunitpos]

/-- A rational rounds to an infinity from the bound on. -/
theorem Double.ofRat_eq_infinite_iff (q : ℚ) :
    (∃ negative, Double.ofRat q = .infinite negative) ↔ Double.overflowBound ≤ |q| := by
  by_cases hzero : q = 0
  · have hpos : 0 < Double.overflowBound := by
      rw [Double.overflowBound, sub_pos]
      exact pow_lt_pow_right₀ (by norm_num) (by norm_num)
    simp [hzero, Double.ofRat, hpos]
  · rw [← pow_le_round_iff (abs_pos.mpr hzero)]
    simp only [Double.ofRat, if_neg hzero]
    split
    next h => simp [h]
    next h => simp [h]

/-- Nothing rounds to a NaN. -/
theorem Double.ofRat_cases (q : ℚ) :
    (Double.overflowBound ≤ |q| ∧ ∃ negative, Double.ofRat q = .infinite negative) ∨
      ¬ Double.overflowBound ≤ |q| ∧ ∃ p, Double.ofRat q = .finite p := by
  rw [← Double.ofRat_eq_infinite_iff]
  cases hround : Double.ofRat q with
  | infinite negative => exact .inl ⟨⟨negative, rfl⟩, negative, rfl⟩
  | finite p => exact .inr ⟨nofun, p, rfl⟩
  | nan =>
      simp only [Double.ofRat] at hround
      split at hround
      · cases hround
      · split at hround <;> cases hround

theorem nearestRounding_roundHalfEven : NearestRounding roundHalfEven where
  mono := by
    intro x y hle
    obtain hlt | hge := lt_or_ge (roundHalfEven y) (roundHalfEven x)
    · -- both middles coincide, so both numbers do
      have hcast : (roundHalfEven y : ℚ) + 1 ≤ roundHalfEven x := by exact_mod_cast hlt
      have hsame : x = y := by
        linarith [(roundHalfEven_mem_Icc x).1, (roundHalfEven_mem_Icc y).2]
      rw [hsame]
    · exact hge
  error := by
    intro q
    rw [abs_le]
    obtain ⟨hlow, hhigh⟩ := roundHalfEven_mem_Icc q
    constructor <;> linarith

/-- Below a power of two a double is half a unit of its binade off at most. -/
theorem Double.ofRat_near {q : ℚ} {n : ℕ} (hn : n < 1024) (hq : |q| < 2 ^ n) :
    ∃ y, Double.ofRat q = .finite y ∧ |y - q| ≤ 2 ^ n / 2 ^ 54 := by
  by_cases hzero : q = 0
  · refine ⟨0, by rw [hzero]; rfl, ?_⟩
    rw [hzero, sub_zero, abs_zero]
    positivity
  have hpos : 0 < |q| := abs_pos.mpr hzero
  obtain ⟨unit, hunit⟩ : ∃ unit : ℚ, unit = 2 ^ max (Int.log 2 |q| - 52) (-1074) := ⟨_, rfl⟩
  have hunitpos : 0 < unit := by rw [hunit]; exact zpow_pos two_pos _
  have hlog : Int.log 2 |q| < n := by
    rw [← Int.lt_zpow_iff_log_lt (by norm_num) hpos]
    simpa using hq
  have hunitle : unit ≤ 2 ^ n / 2 ^ 53 := by
    rw [hunit, ← zpow_natCast, ← zpow_natCast, ← zpow_sub₀ two_ne_zero]
    exact zpow_le_zpow_right₀ (by norm_num) (by push_cast; omega)
  have hround : |(roundHalfEven (|q| / unit) : ℚ) * unit - (|q|)| ≤ unit / 2 := by
    have hscaled : (roundHalfEven (|q| / unit) : ℚ) * unit - (|q|) =
        (roundHalfEven (|q| / unit) - |q| / unit) * unit := by
      field_simp
    rw [hscaled, abs_mul, abs_of_pos hunitpos]
    have herror := nearestRounding_roundHalfEven.error (|q| / unit)
    linarith [mul_le_mul_of_nonneg_right herror hunitpos.le]
  have hbelow : ¬ (2 : ℚ) ^ (1024 : ℕ) ≤ roundHalfEven (|q| / unit) * unit := by
    rw [not_le]
    have htop : (2 : ℚ) * 2 ^ n ≤ 2 ^ (1024 : ℕ) := by
      rw [← pow_succ']
      exact pow_le_pow_right₀ (by norm_num) hn
    have hhalf : (2 : ℚ) ^ n / 2 ^ 53 ≤ 2 ^ n := div_le_self (by positivity) (by norm_num)
    refine lt_of_lt_of_le ?_ htop
    linarith only [(abs_le.mp hround).2, hq, hunitle, hhalf, hunitpos]
  simp only [Double.ofRat, if_neg hzero, ← hunit, if_neg hbelow]
  refine ⟨_, rfl, ?_⟩
  have hmoved : |(if q < 0 then -((roundHalfEven (|q| / unit) : ℚ) * unit)
      else roundHalfEven (|q| / unit) * unit) - q| =
        |(roundHalfEven (|q| / unit) : ℚ) * unit - (|q|)| := by
    split
    next hneg => rw [abs_of_neg hneg, abs_sub_comm]; ring_nf
    next hnonneg => rw [abs_of_nonneg (not_lt.mp hnonneg)]
  rw [hmoved]
  calc _ ≤ unit / 2 := hround
    _ ≤ 2 ^ n / 2 ^ 53 / 2 := by linarith
    _ = 2 ^ n / 2 ^ 54 := by ring

/-! ## Conversions -/

/-- The integer a value can be read as. -/
def integerOf : Json → Option ℤ
  | .bool b => some (if b then 1 else 0)
  | .int n => some n
  | .float (.finite x) => some (truncate x.double)
  | .str s => parseInt s
  | _ => none

/-- An infinite double. -/
def isInfinite : Json → Bool
  | .float (.infinite _) => true
  | _ => false

/-- An integer that no double comes near. -/
def IsHuge : Json → Prop
  | .int n => Double.overflowBound ≤ |(n : ℚ)|
  | _ => False

/-- A huge integer, an infinite double, or a text that names an infinity or a number as large. -/
def IsUnbounded : Json → Prop
  | .int n => Double.overflowBound ≤ |(n : ℚ)|
  | .float (.infinite _) => True
  | .float (.finite x) => Double.overflowBound ≤ |x.value|
  | .str s => ∃ negative, parseFloat s = some (.infinite negative)
  | _ => False

/-- A value that `float` reads as a number. -/
def isNumber (value : Json) : Bool :=
  match pyFloat value with
  | .ok (.finite _) => true
  | _ => false

/-- The call returns. -/
def Returns {α : Type} (result : Except Exn α) : Prop := ∃ value, result = .ok value

@[simp]
theorem returns_ok {α : Type} (value : α) : Returns (.ok value : Except Exn α) := ⟨value, rfl⟩

@[simp]
theorem returns_pure {α : Type} (value : α) : Returns (pure value : Except Exn α) :=
  returns_ok value

@[simp]
theorem not_returns_error {α : Type} (exn : Exn) : ¬ Returns (.error exn : Except Exn α) := nofun

@[simp]
theorem returns_map {α β : Type} (f : α → β) (result : Except Exn α) :
    Returns (result.map f) ↔ Returns result := by
  cases result with
  | error exn => exact iff_of_false (not_returns_error exn) (not_returns_error exn)
  | ok value => exact iff_of_true (returns_ok (f value)) (returns_ok value)

/-- `int(value)` reads the integer, if any, and fails on an infinite double. -/
theorem pyIntOrNone_eq (value : Json) :
    pyIntOrNone value = if isInfinite value = true then .error (.builtin "OverflowError")
      else .ok (integerOf value) := by
  cases value with
  | float x => cases x <;> rfl
  | _ => rfl

theorem returns_pyIntOrNone_iff (value : Json) :
    Returns (pyIntOrNone value) ↔ ¬ isInfinite value = true := by
  rw [pyIntOrNone_eq]
  split
  next h => exact iff_of_false (not_returns_error _) (not_not.mpr h)
  next h => exact iff_of_true (returns_ok _) h

/-- `float` returns an infinity where it does not overflow, and overflows where it does not
return one. -/
theorem pyFloat_int (n : ℤ) :
    (Double.overflowBound ≤ |(n : ℚ)| ∧ pyFloat (.int n) = .error (.builtin "OverflowError")) ∨
      ¬ Double.overflowBound ≤ |(n : ℚ)| ∧ ∃ x, pyFloat (.int n) = .ok x ∧
        ∀ negative, x ≠ .infinite negative := by
  rw [pyFloat]
  obtain ⟨hhuge, negative, hround⟩ | ⟨hsmall, p, hround⟩ := Double.ofRat_cases n
  · exact .inl ⟨hhuge, by rw [hround]⟩
  · exact .inr ⟨hsmall, .finite p, by rw [hround], fun negative => by simp⟩

theorem returns_toFloatOrNone_iff (value : Json) :
    Returns (toFloatOrNone value) ↔ ¬ IsHuge value := by
  cases value with
  | int n =>
      rw [toFloatOrNone, IsHuge]
      obtain ⟨hhuge, hfloat⟩ | ⟨hsmall, x, hfloat, -⟩ := pyFloat_int n
      · simp [hfloat, hhuge]
      · simp [hfloat, hsmall]
  | float x => cases x <;> simp [toFloatOrNone, pyFloat, IsHuge]
  | str s => cases hread : parseFloat s <;> simp [toFloatOrNone, pyFloat, hread, IsHuge]
  | null | bool b | arr items | obj members => simp [toFloatOrNone, pyFloat, IsHuge]

/-- `int(float(value))` fails where `float` overflows or returns an infinity. -/
theorem returns_toIntOrNone_of_ok {value : Json} {x : Double} (hfloat : pyFloat value = .ok x) :
    Returns (toIntOrNone value) ↔ ∀ negative, x ≠ .infinite negative := by
  cases x <;> simp [toIntOrNone, hfloat, Double.toInt]

theorem returns_toIntOrNone_iff (value : Json) :
    Returns (toIntOrNone value) ↔ ¬ IsUnbounded value := by
  cases value with
  | int n =>
      obtain ⟨hhuge, hfloat⟩ | ⟨hsmall, x, hfloat, hfinite⟩ := pyFloat_int n
      · simp [toIntOrNone, hfloat, IsUnbounded, hhuge]
      · rw [returns_toIntOrNone_of_ok hfloat, IsUnbounded]
        exact iff_of_true hfinite hsmall
  | float x =>
      cases x with
      | finite x =>
          have hfloat : pyFloat (.float (.finite x)) = .ok (Double.ofRat x.value) := rfl
          rw [returns_toIntOrNone_of_ok hfloat, IsUnbounded, ← Double.ofRat_eq_infinite_iff,
            not_exists]
      | infinite negative => simp [toIntOrNone, pyFloat, Double.toInt, IsUnbounded]
      | nan => simp [toIntOrNone, pyFloat, Double.toInt, IsUnbounded]
  | str s =>
      cases hread : parseFloat s with
      | none => simp [toIntOrNone, pyFloat, hread, IsUnbounded]
      | some x =>
          have hfloat : pyFloat (.str s) = .ok x := by rw [pyFloat, hread]
          simp [returns_toIntOrNone_of_ok hfloat, IsUnbounded, hread]
  | null | bool b | arr items | obj members =>
      simp [toIntOrNone, pyFloat, Double.toInt, IsUnbounded]

/-- An integer comes out of what `float` reads as a number, nothing out of what it refuses. -/
theorem toIntOrNone_cases (value : Json) :
    (IsUnbounded value ∧ ∃ exn, toIntOrNone value = .error exn) ∨
      ¬ IsUnbounded value ∧
        ∃ read, toIntOrNone value = .ok read ∧ read.isSome = isNumber value := by
  have hreturns := returns_toIntOrNone_iff value
  cases hint : toIntOrNone value with
  | error exn =>
      rw [hint] at hreturns
      have hunbounded : ¬ ¬ IsUnbounded value :=
        fun hbounded => not_returns_error exn (hreturns.mpr hbounded)
      exact .inl ⟨not_not.mp hunbounded, exn, rfl⟩
  | ok read =>
      rw [hint] at hreturns
      refine .inr ⟨hreturns.mp (returns_ok read), read, rfl, ?_⟩
      rw [isNumber]
      simp only [toIntOrNone] at hint
      split at hint
      next x hfloat =>
        rw [hfloat]
        cases x with
        | finite q =>
            cases hint
            rfl
        | infinite negative => cases hint
        | nan =>
            cases hint
            rfl
      next => cases hint
      next exn _ hfloat =>
        rw [hfloat]
        cases hint
        rfl

end Holabrain
