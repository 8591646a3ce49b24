import Holabrain.Cloud.Overflow
import Holabrain.Entity.Native

/-!
# Colour temperatures

A lamp reports its colour temperature on a scale of bytes, which is laid over the span from its
warm to its cool end.  The two conversions are first taken in exact rationals, where they are
inverse on the bytes as soon as the span is as long as the scale.  The doubles of the lamp are
too close to the rationals to round to another byte.
-/

namespace Holabrain

namespace LightConfig

variable (cfg : LightConfig)

/-- The arithmetic of `color_temp_kelvin` in rationals. -/
def exactKelvin (device : ℤ) : ℤ :=
  roundHalfEven (cfg.warmKelvin + (device : ℚ) / deviceScale * cfg.span)

def clamped (kelvin : ℤ) : ℤ := min (max kelvin cfg.warmKelvin) cfg.coolKelvin

/-- The arithmetic of `_kelvin_to_device` in rationals. -/
def exactDevice (kelvin : ℤ) : ℤ :=
  roundHalfEven (((cfg.clamped kelvin : ℚ) - cfg.warmKelvin) / cfg.span * deviceScale)

theorem deviceScale_pos : (0 : ℚ) < deviceScale := by norm_num [deviceScale]

theorem cast_span : (cfg.span : ℚ) = cfg.coolKelvin - cfg.warmKelvin := by
  rw [span]
  push_cast
  rfl

variable {cfg}

section Exact

variable (hspan : deviceScale ≤ cfg.span)

include hspan

theorem deviceScale_le_span : (deviceScale : ℚ) ≤ cfg.span := by exact_mod_cast hspan

theorem span_pos : (0 : ℚ) < cfg.span := lt_of_lt_of_le deviceScale_pos (deviceScale_le_span hspan)

theorem clamped_mem (kelvin : ℤ) :
    cfg.warmKelvin ≤ cfg.clamped kelvin ∧ cfg.clamped kelvin ≤ cfg.coolKelvin := by
  have hscale : deviceScale = 255 := rfl
  rw [span] at hspan
  rw [clamped]
  omega

/-- A byte reads as a temperature between the ends of the span. -/
theorem exactKelvin_mem {device : ℤ} (hlow : 0 ≤ device) (hhigh : device ≤ deviceScale) :
    cfg.warmKelvin ≤ cfg.exactKelvin device ∧ cfg.exactKelvin device ≤ cfg.coolKelvin := by
  have hshare : 0 ≤ (device : ℚ) / deviceScale :=
    div_nonneg (by exact_mod_cast hlow) deviceScale_pos.le
  have hshare' : (device : ℚ) / deviceScale ≤ 1 :=
    (div_le_one deviceScale_pos).mpr (by exact_mod_cast hhigh)
  have hpart : (device : ℚ) / deviceScale * cfg.span ≤ 1 * cfg.span :=
    mul_le_mul_of_nonneg_right hshare' (span_pos hspan).le
  apply nearestRounding_roundHalfEven.mem_Icc
  · linarith [mul_nonneg hshare (span_pos hspan).le]
  · linarith [cast_span cfg]

/-- Every byte is found again. -/
theorem exactDevice_exactKelvin {device : ℤ} (hlow : 0 ≤ device) (hhigh : device ≤ deviceScale) :
    cfg.exactDevice (cfg.exactKelvin device) = device := by
  obtain ⟨hwarm, hcool⟩ := exactKelvin_mem hspan hlow hhigh
  have hinside : cfg.clamped (cfg.exactKelvin device) = cfg.exactKelvin device := by
    rw [clamped, max_eq_left hwarm, min_eq_left hcool]
  rw [exactDevice, hinside]
  exact nearestRounding_roundHalfEven.there_and_back deviceScale_pos (deviceScale_le_span hspan)
    device

theorem exactDevice_mem (kelvin : ℤ) :
    0 ≤ cfg.exactDevice kelvin ∧ cfg.exactDevice kelvin ≤ deviceScale := by
  obtain ⟨hwarm, hcool⟩ := clamped_mem hspan kelvin
  have hwarm' : (cfg.warmKelvin : ℚ) ≤ cfg.clamped kelvin := by exact_mod_cast hwarm
  have hcool' : (cfg.clamped kelvin : ℚ) ≤ cfg.coolKelvin := by exact_mod_cast hcool
  have hshare : ((cfg.clamped kelvin : ℚ) - cfg.warmKelvin) / cfg.span ≤ 1 := by
    rw [div_le_one (span_pos hspan), cast_span]
    linarith
  apply nearestRounding_roundHalfEven.mem_Icc
  · rw [Int.cast_zero]
    exact mul_nonneg (div_nonneg (by linarith) (span_pos hspan).le) deviceScale_pos.le
  · exact mul_le_of_le_one_left deviceScale_pos.le hshare

theorem exactDevice_mono : Monotone cfg.exactDevice := by
  intro kelvin kelvin' hle
  have hclamped : (cfg.clamped kelvin : ℚ) ≤ cfg.clamped kelvin' := by
    have hint : cfg.clamped kelvin ≤ cfg.clamped kelvin' :=
      min_le_min_right _ (max_le_max_right _ hle)
    exact_mod_cast hint
  apply nearestRounding_roundHalfEven.mono
  apply mul_le_mul_of_nonneg_right _ deviceScale_pos.le
  exact div_le_div_of_nonneg_right (sub_le_sub_right hclamped _) (span_pos hspan).le

/-- The temperature that a byte stands for is near the one that was asked for. -/
theorem exactKelvin_exactDevice_near (kelvin : ℤ) :
    |(cfg.exactKelvin (cfg.exactDevice kelvin) : ℚ) - cfg.clamped kelvin| ≤
      cfg.span / 510 + 1 / 2 := by
  have hscale : (2 : ℚ) * deviceScale = 510 := by norm_num [deviceScale]
  rw [← hscale]
  exact nearestRounding_roundHalfEven.back_error deviceScale_pos (span_pos hspan)
    (cfg.clamped kelvin)

end Exact

/-- Colour temperatures are stable under conversion: bytes are found again, every temperature has
a byte, the warmer the lower, and the byte stands for a temperature near it. -/
theorem color_temperature_stable (cfg : LightConfig)
    (hspan : 255 ≤ cfg.coolKelvin - cfg.warmKelvin) :
    (∀ device : ℤ, 0 ≤ device → device ≤ 255 →
      cfg.exactDevice (cfg.exactKelvin device) = device) ∧
    (∀ kelvin : ℤ, 0 ≤ cfg.exactDevice kelvin ∧ cfg.exactDevice kelvin ≤ 255) ∧
    (∀ kelvin kelvin' : ℤ, kelvin ≤ kelvin' → cfg.exactDevice kelvin ≤ cfg.exactDevice kelvin') ∧
    ∀ kelvin : ℤ, |(cfg.exactKelvin (cfg.exactDevice kelvin) : ℚ) -
        (min (max kelvin cfg.warmKelvin) cfg.coolKelvin : ℤ)| ≤
      ((cfg.coolKelvin - cfg.warmKelvin : ℤ) : ℚ) / 510 + 1 / 2 :=
  ⟨fun _ => exactDevice_exactKelvin hspan, exactDevice_mem hspan,
    fun _ _ hle => exactDevice_mono hspan hle, exactKelvin_exactDevice_near hspan⟩

/-- From 2700 K to 6500 K. -/
theorem color_temperature_stable_default : exactDevice {} (exactKelvin {} 128) = 128 ∧
    0 ≤ exactDevice {} 4000 ∧ exactDevice {} 4000 ≤ 255 := by
  obtain ⟨hbytes, hmem, -⟩ := color_temperature_stable {} (by decide)
  exact ⟨hbytes 128 (by decide) (by decide), hmem 4000⟩

/-! ## Doubles -/

section Doubles

/-- Half an integer stands between two bytes' temperatures or is far from either: the middle of
two integers is an odd number of parts, a temperature an even one. -/
theorem exactKelvin_gap (cfg : LightConfig) (device n : ℤ) :
    (1 : ℚ) / 510 ≤ |cfg.warmKelvin + (device : ℚ) / deviceScale * cfg.span - (n + 1 / 2)| := by
  have hparts : cfg.warmKelvin + (device : ℚ) / deviceScale * cfg.span - (n + 1 / 2) =
      ((510 * cfg.warmKelvin + 2 * device * cfg.span - 510 * n - 255 : ℤ) : ℚ) / 510 := by
    have hscale : (deviceScale : ℚ) = 255 := by norm_num [deviceScale]
    rw [hscale]
    push_cast
    ring
  have hodd : 1 ≤ |510 * cfg.warmKelvin + 2 * device * cfg.span - 510 * n - 255| := by
    apply Int.one_le_abs
    intro hzero
    have heven : 2 * device * cfg.span = 2 * (device * cfg.span) := by ring
    omega
  rw [hparts, abs_div, abs_of_pos (by norm_num : (0 : ℚ) < 510)]
  apply div_le_div_of_nonneg_right _ (by norm_num)
  exact_mod_cast hodd

/-- A share of the scale or of the span. -/
theorem pyDivide_near {a b : ℤ} (hb : 0 < b) (hlow : 0 ≤ a) (hhigh : a ≤ b) :
    ∃ share, pyDivide a b = .ok share ∧ |share - (a : ℚ) / b| ≤ 1 / 2 ^ 53 := by
  have hb' : (0 : ℚ) < b := by exact_mod_cast hb
  have hshare : |(a : ℚ) / b| < 2 ^ 1 := by
    rw [abs_of_nonneg (div_nonneg (by exact_mod_cast hlow) hb'.le)]
    have hle : (a : ℚ) / b ≤ 1 := (div_le_one hb').mpr (by exact_mod_cast hhigh)
    linarith
  obtain ⟨share, hround, herror⟩ := Double.ofRat_near (by norm_num) hshare
  refine ⟨share, by rw [pyDivide, if_neg hb.ne', hround], ?_⟩
  calc |share - (a : ℚ) / b| ≤ 2 ^ 1 / 2 ^ 54 := herror
    _ = 1 / 2 ^ 53 := by norm_num

/-- A span of at least a Kelvin a byte, far from the ends of the doubles. -/
structure Ordinary (cfg : LightConfig) : Prop where
  wide : deviceScale ≤ cfg.span
  short : cfg.span ≤ 2 ^ 32
  near : |cfg.warmKelvin| ≤ 2 ^ 32

theorem ordinary_of_registered {category : CategorySpec} (hcategory : category ∈ categories)
    (hlight : category.light = some cfg) : Ordinary cfg := by
  have hall : ∀ category ∈ categories, ∀ light ∈ category.light,
      deviceScale ≤ light.span ∧ light.span ≤ 2 ^ 32 ∧ |light.warmKelvin| ≤ 2 ^ 32 := by
    decide
  obtain ⟨hwide, hshort, hnear⟩ := hall category hcategory cfg hlight
  exact ⟨hwide, hshort, hnear⟩

variable {device : ℤ} (h : Ordinary cfg) (hlow : 0 ≤ device) (hhigh : device ≤ deviceScale)

include h hlow hhigh

/-- The doubles of `color_temp_kelvin` round as the rationals do. -/
theorem roundKelvin_eq {share : ℚ} (hshare : |share - (device : ℚ) / deviceScale| ≤ 1 / 2 ^ 53) :
    ((Double.ofRat (share * cfg.span)).map fun q => cfg.warmKelvin + q).round =
      .ok (cfg.exactKelvin device) := by
  have hspan : (0 : ℚ) < cfg.span := span_pos h.wide
  have hshort : (cfg.span : ℚ) ≤ 2 ^ 32 := by exact_mod_cast h.short
  have hnear : |(cfg.warmKelvin : ℚ)| ≤ 2 ^ 32 := by exact_mod_cast h.near
  have hexact : 0 ≤ (device : ℚ) / deviceScale :=
    div_nonneg (by exact_mod_cast hlow) deviceScale_pos.le
  have hexact' : (device : ℚ) / deviceScale ≤ 1 :=
    (div_le_one deviceScale_pos).mpr (by exact_mod_cast hhigh)
  have hlaid : (device : ℚ) / deviceScale * cfg.span ≤ 2 ^ 32 :=
    le_trans (mul_le_of_le_one_left hspan.le hexact') hshort
  have hlaid' : 0 ≤ (device : ℚ) / deviceScale * cfg.span := mul_nonneg hexact hspan.le
  have hmoved : |share * cfg.span - (device : ℚ) / deviceScale * cfg.span| ≤ 1 / 2 ^ 21 := by
    rw [← sub_mul, abs_mul, abs_of_pos hspan]
    calc |share - (device : ℚ) / deviceScale| * cfg.span ≤ 1 / 2 ^ 53 * 2 ^ 32 :=
          mul_le_mul hshare hshort hspan.le (by norm_num)
      _ = 1 / 2 ^ 21 := by norm_num
  have hpart : |share * cfg.span| < 2 ^ 33 := by
    rw [abs_lt]
    have hbounds := abs_le.mp hmoved
    constructor <;> linarith
  obtain ⟨part, hround, herror⟩ := Double.ofRat_near (by norm_num) hpart
  have hsum : |cfg.warmKelvin + part| < 2 ^ 35 := by
    rw [abs_lt]
    have hwarm := abs_le.mp hnear
    have hbounds := abs_lt.mp hpart
    have herrors := abs_le.mp herror
    constructor <;> linarith
  obtain ⟨kelvin, hround', herror'⟩ := Double.ofRat_near (by norm_num) hsum
  rw [hround, Double.map, hround', Double.round, exactKelvin]
  apply congrArg
  apply nearestRounding_roundHalfEven.eq_of_near (exactKelvin_gap cfg device)
  have herrors := abs_le.mp herror
  have herrors' := abs_le.mp herror'
  have hbounds := abs_le.mp hmoved
  rw [abs_lt]
  constructor <;> linarith

/-- A lamp that reports a byte reads as the exact temperature of the byte. -/
theorem colorTempKelvin_eq_exactKelvin {thingCode key : String} {w : World}
    (hkey : configured cfg.colorTempKey = some key)
    (hread : pyIntOrNone ((cfg.entity thingCode).value w key) = .ok (some device)) :
    cfg.colorTempKelvin thingCode w = .ok (some (cfg.exactKelvin device)) := by
  obtain ⟨share, hdivide, hshare⟩ := pyDivide_near (by decide : 0 < deviceScale) hlow hhigh
  simp only [colorTempKelvin, hkey, hread, hdivide, roundKelvin_eq h hlow hhigh hshare, bind,
    Except.bind, pure, Except.pure]

omit hlow hhigh in
/-- A step of the scale is a Kelvin or more, so the byte is as near to its temperature as the
temperature was to its reading. -/
theorem exactKelvin_back (device : ℤ) :
    |((cfg.exactKelvin device - cfg.warmKelvin : ℤ) : ℚ) / cfg.span * deviceScale - device| ≤
      1 / 2 - 1 / 510 := by
  have hspan : (0 : ℚ) < cfg.span := span_pos h.wide
  have herror := nearestRounding_roundHalfEven.error_of_gap (exactKelvin_gap cfg device)
  rw [← exactKelvin] at herror
  have hratio : (deviceScale : ℚ) / cfg.span ≤ 1 :=
    (div_le_one hspan).mpr (deviceScale_le_span h.wide)
  have hratio' : 0 ≤ (deviceScale : ℚ) / cfg.span := div_nonneg deviceScale_pos.le hspan.le
  have hmoved : ((cfg.exactKelvin device - cfg.warmKelvin : ℤ) : ℚ) / cfg.span * deviceScale -
      device = (cfg.exactKelvin device -
        (cfg.warmKelvin + (device : ℚ) / deviceScale * cfg.span)) * (deviceScale / cfg.span) := by
    push_cast
    have hne := deviceScale_pos.ne'
    field_simp
    ring
  rw [hmoved, abs_mul, abs_of_nonneg hratio']
  calc _ ≤ (1 / 2 - 1 / 510) * (1 : ℚ) := mul_le_mul herror hratio hratio' (by norm_num)
    _ = 1 / 2 - 1 / 510 := mul_one _

/-- Set to the temperature that a byte reads as, the lamp is sent that byte. -/
theorem kelvinToDevice_exactKelvin : cfg.kelvinToDevice (cfg.exactKelvin device) = .ok device := by
  obtain ⟨hwarm, hcool⟩ := exactKelvin_mem h.wide hlow hhigh
  have hspan : (0 : ℚ) < cfg.span := span_pos h.wide
  have hpos : 0 < cfg.span := by exact_mod_cast hspan
  have hrange : cfg.exactKelvin device - cfg.warmKelvin ≤ cfg.span := by
    rw [span]
    omega
  obtain ⟨share, hdivide, hshare⟩ := pyDivide_near hpos (sub_nonneg.mpr hwarm) hrange
  have hclamped : min (max (cfg.exactKelvin device) cfg.warmKelvin) cfg.coolKelvin =
      cfg.exactKelvin device := by
    rw [max_eq_left hwarm, min_eq_left hcool]
  have hscale : (deviceScale : ℚ) = 255 := by norm_num [deviceScale]
  have hback := exactKelvin_back h device
  have hscaled : |share * deviceScale -
      ((cfg.exactKelvin device - cfg.warmKelvin : ℤ) : ℚ) / cfg.span * deviceScale| ≤
        1 / 2 ^ 45 := by
    rw [← sub_mul, abs_mul, abs_of_pos deviceScale_pos]
    calc _ ≤ (1 : ℚ) / 2 ^ 53 * 2 ^ 8 :=
          mul_le_mul hshare (by rw [hscale]; norm_num) deviceScale_pos.le (by norm_num)
      _ = 1 / 2 ^ 45 := by norm_num
  have hsmall : |share * deviceScale| < 2 ^ 9 := by
    have hbounds := abs_le.mp hback
    have hbounds' := abs_le.mp hscaled
    have hlow' : (0 : ℚ) ≤ device := by exact_mod_cast hlow
    have hhigh' : (device : ℚ) ≤ 255 := by
      rw [← hscale]
      exact_mod_cast hhigh
    rw [abs_lt]
    constructor <;> linarith
  obtain ⟨point, hround, herror⟩ := Double.ofRat_near (by norm_num) hsmall
  have hpoint : roundHalfEven point = device := by
    apply nearestRounding_roundHalfEven.eq_of_abs_lt
    have hbounds := abs_le.mp hback
    have hbounds' := abs_le.mp hscaled
    have hbounds'' := abs_le.mp herror
    rw [abs_lt]
    constructor <;> linarith
  simp only [kelvinToDevice, hclamped, hdivide, hround, Double.round, hpoint, bind, Except.bind]

end Doubles

end LightConfig

end Holabrain
