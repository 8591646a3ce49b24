import Holabrain.Cloud.Overflow
import Holabrain.Entity.CookLimits
import Holabrain.Entity.Modelled

/-!
# What a reported value can break

The entities convert what an appliance reports with `int` and `float`, and catch what these raise
for a text that is no number.  They do not catch the overflow of a number that is too large.  Each
entity's conversions are listed here with their values; its properties return exactly if none of
them overflows.
-/

namespace Holabrain

open Coordinator

/-! ## Readings -/

/-- A property by whether reading it can raise. -/
inductive Reading : Type 1
  | total (property : Property)
  | fallible {α : Type} (read : World → Except Exn α)

namespace Reading

def property : Reading → Property
  | total property => property
  | fallible read => ⟨_, read⟩

/-- Reading the property raises nothing. -/
def Returns : Reading → World → Prop
  | total _, _ => True
  | fallible read, w => Holabrain.Returns (read w)

end Reading

namespace ModelledEntity

/-- The properties of an entity, with those that can raise told apart. -/
def readings (thingCode : String) (entity : ModelledEntity) : List Reading :=
  let base := entity.base thingCode
  let available : Reading := .total ⟨Bool, base.available⟩
  let availableIf (extra : World → Bool) : Reading :=
    .total ⟨Bool, fun w => base.available w && extra w⟩
  match entity with
  | sensor spec => [available, .fallible (spec.nativeValue thingCode)]
  | binarySensor spec => [available, .fallible (spec.isOn thingCode)]
  | switch spec => [available, .total ⟨_, spec.isOn thingCode⟩]
  | number spec => [available, .fallible (spec.nativeValue thingCode),
      .total ⟨_, spec.resolveMax thingCode⟩]
  | select spec labelToCode => [available, .total ⟨_, spec.currentOption thingCode labelToCode⟩]
  | button _ => [available]
  | light cfg => [available, .total ⟨_, cfg.isOn thingCode⟩, .fallible (cfg.brightness thingCode),
      .fallible (cfg.colorTempKelvin thingCode), .total ⟨_, cfg.effect thingCode⟩]
  | climate cfg => [available, .total ⟨_, cfg.hvacMode thingCode⟩,
      .fallible (cfg.currentTemperature thingCode), .fallible (cfg.targetTemperature thingCode),
      .total ⟨_, cfg.fanMode thingCode⟩]
  | waterHeater cfg => [available, .fallible (cfg.currentTemperature thingCode),
      .fallible (cfg.targetTemperature thingCode), .total ⟨_, cfg.currentOperation thingCode⟩]
  | ovenMode cfg => [available, .total ⟨_, cfg.label base⟩]
  | ovenTemperature cfg => [availableIf (cfg.tempAllowed base),
      .total ⟨_, cfg.temperatureRange base⟩, .total ⟨_, cfg.temperatureStep base⟩,
      .fallible (cfg.temperatureValue base)]
  | ovenDuration cfg => [available, .total ⟨_, cfg.maxMinutes base⟩, .fallible (cfg.minutes base)]
  | ovenProbe cfg => [availableIf (cfg.tempAllowed base), .fallible (cfg.probeValue base)]
  | ovenPreheat cfg => [availableIf (cfg.preheatAllowed base), .total ⟨_, cfg.preheatIsOn base⟩]
  | ovenStart _ => [available]
  | dishwasherProgram cfg => [available, .total ⟨_, cfg.modelPrograms thingCode⟩,
      .total ⟨_, cfg.currentProgram base⟩]
  | dishwasherExtra cfg => [available, .total ⟨_, cfg.choices thingCode⟩,
      .total ⟨_, cfg.currentExtra base⟩]
  | dishwasherZone cfg => [available, .total ⟨_, cfg.currentZone base⟩]
  | dishwasherStart _ => [available]

/-- They are its properties, no more and no less. -/
theorem map_property_readings (thingCode : String) (entity : ModelledEntity) :
    (entity.readings thingCode).map Reading.property = entity.properties thingCode := by
  cases entity <;> rfl

end ModelledEntity

/-! ## Conversions -/

/-- A colour temperature that leaves the doubles on its way from the device scale to Kelvin: in
the share of the scale, in the share of the span, or in the sum. -/
def LightConfig.KelvinOverflows (cfg : LightConfig) (device : ℤ) : Prop :=
  Double.overflowBound ≤ |(device : ℚ) / deviceScale| ∨
    ∃ share, Double.ofRat (device / deviceScale) = .finite share ∧
      (Double.overflowBound ≤ |share * cfg.span| ∨
        ∃ part, Double.ofRat (share * cfg.span) = .finite part ∧
          Double.overflowBound ≤ |cfg.warmKelvin + part|)

/-- A conversion with the value it is made of. -/
inductive Conversion
  /-- `int(float(value))`. -/
  | whole (value : Json)
  | float (value : Json)
  | int (value : Json)
  /-- The colour temperature of a lamp. -/
  | kelvin (cfg : LightConfig) (value : Json)

/-- The value is too large for the conversion. -/
def Conversion.Overflows : Conversion → Prop
  | whole value => IsUnbounded value
  | float value => IsHuge value
  | int value => isInfinite value = true
  | kelvin cfg value => isInfinite value = true ∨
      ∃ device, integerOf value = some device ∧ cfg.KelvinOverflows device

/-- None of the conversions overflows. -/
def Fit (conversions : List Conversion) : Prop :=
  ∀ conversion ∈ conversions, ¬ conversion.Overflows

@[simp]
theorem fit_nil : Fit [] := nofun

@[simp]
theorem fit_cons (conversion : Conversion) (rest : List Conversion) :
    Fit (conversion :: rest) ↔ ¬ conversion.Overflows ∧ Fit rest := List.forall_mem_cons

@[simp]
theorem fit_append (conversions rest : List Conversion) :
    Fit (conversions ++ rest) ↔ Fit conversions ∧ Fit rest := List.forall_mem_append

/-! ## Sensors -/

namespace SensorSpec

/-- The high byte is converted only if the low one is a number. -/
def conversionsOf (spec : SensorSpec) (state : DeviceState) : List Conversion :=
  if spec.transform = some "remain_minutes" then
    .whole (state.get "remainTimeL") ::
      if isNumber (state.get "remainTimeL") then [.whole (state.get "remainTimeH")] else []
  else if spec.transform = some "seconds_minutes" then [.whole (state.get spec.key)]
  else []

def conversions (spec : SensorSpec) (thingCode : String) (w : World) : List Conversion :=
  if !(spec.entity thingCode).isMeaningful w then []
  else match w.states.get? thingCode with
    | none => []
    | some state => spec.conversionsOf state

theorem returns_remainMinutes_iff (state : DeviceState) :
    Returns (remainMinutes state) ↔ ¬ IsUnbounded (state.get "remainTimeL") ∧
      (isNumber (state.get "remainTimeL") = true → ¬ IsUnbounded (state.get "remainTimeH")) := by
  rw [remainMinutes]
  obtain ⟨hlarge, exn, hlow⟩ | ⟨hfits, read, hlow, hnumber⟩ :=
    toIntOrNone_cases (state.get "remainTimeL")
  · rw [hlow]
    exact iff_of_false (not_returns_error exn) fun h => h.1 hlarge
  · rw [hlow, ← hnumber]
    cases read with
    | none => exact iff_of_true (returns_ok none) ⟨hfits, nofun⟩
    | some low =>
        have hhigh := returns_map (fun high : Option ℤ => some (high.getD 0 * 256 + low))
          (toIntOrNone (state.get "remainTimeH"))
        rw [returns_toIntOrNone_iff] at hhigh
        exact ⟨fun h => ⟨hfits, fun _ => hhigh.mp h⟩, fun h => hhigh.mpr (h.2 rfl)⟩

theorem returns_shown_iff (spec : SensorSpec) (state : DeviceState) :
    Returns (spec.shown state) ↔ Fit (spec.conversionsOf state) := by
  rw [shown, conversionsOf]
  unfold transforms
  split
  next transform htransform =>
    split at htransform
    next hremain =>
      cases htransform
      simp only [hremain, if_true, returns_map, returns_remainMinutes_iff, fit_cons,
        Conversion.Overflows]
      cases isNumber (state.get "remainTimeL") <;> simp [Conversion.Overflows]
    next hseconds =>
      cases htransform
      have hmapped := returns_map (fun seconds : Option ℤ =>
        seconds.map fun seconds => -(-max seconds 0 / 60)) (toIntOrNone (state.get spec.key))
      rw [returns_map, hseconds, if_neg (by decide), if_pos rfl, fit_cons, Conversion.Overflows,
        ← returns_toIntOrNone_iff, ← hmapped]
      exact (and_iff_left fit_nil).symm
    next hoven =>
      cases htransform
      simp [hoven]
    next => cases htransform
  next htransform =>
    have hremain : spec.transform ≠ some "remain_minutes" := by
      intro heq
      rw [heq] at htransform
      cases htransform
    have hseconds : spec.transform ≠ some "seconds_minutes" := by
      intro heq
      rw [heq] at htransform
      cases htransform
    rw [if_neg hremain, if_neg hseconds]
    refine iff_of_true ?_ fit_nil
    split <;> exact returns_ok _

theorem returns_nativeValue_iff (spec : SensorSpec) (thingCode : String) (w : World) :
    Returns (spec.nativeValue thingCode w) ↔ Fit (spec.conversions thingCode w) := by
  rw [nativeValue, conversions]
  split
  · simp
  · cases w.states.get? thingCode with
    | none => simp
    | some state => exact returns_shown_iff spec state

end SensorSpec

/-! ## Binary sensors -/

namespace BinarySensorSpec

/-- What is converted of the packed status. -/
def summaryConversions (spec : BinarySensorSpec) (thingCode : String) (w : World) :
    List Conversion :=
  match spec.summaryKey, spec.summaryBit with
  | some key, some _ => [.int ((spec.entity thingCode).value w key)]
  | _, _ => []

/-- The packed status is converted only where the flag itself is not reported. -/
def conversions (spec : BinarySensorSpec) (thingCode : String) (w : World) : List Conversion :=
  if (spec.entity thingCode).isMeaningful w = true ∧ (spec.entity thingCode).value w "" = .null then
    spec.summaryConversions thingCode w
  else []

theorem returns_fromSummary_iff (spec : BinarySensorSpec) (thingCode : String) (w : World) :
    Returns (spec.fromSummary thingCode w) ↔ Fit (spec.summaryConversions thingCode w) := by
  rw [fromSummary, summaryConversions]
  cases spec.summaryKey with
  | none => simp
  | some key =>
      cases spec.summaryBit with
      | none => simp
      | some bit => simp [returns_pyIntOrNone_iff, Conversion.Overflows]

theorem returns_isOn_iff (spec : BinarySensorSpec) (thingCode : String) (w : World) :
    Returns (spec.isOn thingCode w) ↔ Fit (spec.conversions thingCode w) := by
  rw [isOn, conversions]
  by_cases hmeaningful : (spec.entity thingCode).isMeaningful w = true
  · cases hvalue : (spec.entity thingCode).value w "" with
    | null => simpa [hmeaningful] using returns_fromSummary_iff spec thingCode w
    | _ => simp [hmeaningful]
  · simp [hmeaningful]

end BinarySensorSpec

/-! ## Lamps -/

namespace LightConfig

/-- What is converted of a configured key. -/
def conversionOf (cfg : LightConfig) (thingCode : String) (w : World)
    (conversion : Json → Conversion) (key : Option String) : List Conversion :=
  ((configured key).map fun key => conversion ((cfg.entity thingCode).value w key)).toList

theorem returns_brightness_iff (cfg : LightConfig) (thingCode : String) (w : World) :
    Returns (cfg.brightness thingCode w) ↔
      Fit (cfg.conversionOf thingCode w .int cfg.brightnessKey) := by
  rw [brightness, conversionOf]
  cases configured cfg.brightnessKey with
  | none => simp
  | some key => simp [returns_pyIntOrNone_iff, Conversion.Overflows]

/-- The steps from the device scale to Kelvin. -/
theorem returns_kelvin_iff (cfg : LightConfig) (device : ℤ) :
    Returns (do
      let share ← pyDivide device deviceScale
      let kelvin ← ((Double.ofRat (share * cfg.span)).map fun q => cfg.warmKelvin + q).round
      return some kelvin : Except Exn (Option ℤ)) ↔ ¬ cfg.KelvinOverflows device := by
  have hscale : deviceScale ≠ 0 := by decide
  rw [KelvinOverflows, pyDivide, if_neg hscale]
  obtain ⟨hlarge, negative, hshare⟩ | ⟨hfits, share, hshare⟩ :=
    Double.ofRat_cases ((device : ℚ) / deviceScale)
  · rw [hshare]
    exact iff_of_false (not_returns_error _) (not_not.mpr (.inl hlarge))
  rw [hshare]
  refine (returns_map some ((Double.ofRat (share * cfg.span)).map fun q =>
    cfg.warmKelvin + q).round).trans ?_
  obtain ⟨hlarge, negative, hpart⟩ | ⟨hfits', part, hpart⟩ := Double.ofRat_cases (share * cfg.span)
  · rw [hpart]
    exact iff_of_false (not_returns_error _) (not_not.mpr (.inr ⟨share, rfl, .inl hlarge⟩))
  rw [hpart, Double.map]
  obtain ⟨hlarge, negative, hsum⟩ | ⟨hfits'', sum, hsum⟩ :=
    Double.ofRat_cases (cfg.warmKelvin + part)
  · rw [hsum]
    have hover : ∃ share', Double.finite share = .finite share' ∧
        (Double.overflowBound ≤ |share' * cfg.span| ∨
          ∃ part', Double.ofRat (share' * cfg.span) = .finite part' ∧
            Double.overflowBound ≤ |cfg.warmKelvin + part'|) :=
      ⟨share, rfl, .inr ⟨part, hpart, hlarge⟩⟩
    exact iff_of_false (not_returns_error _) (not_not.mpr (.inr hover))
  · rw [hsum]
    refine iff_of_true (returns_ok _) ?_
    rintro (hlarge | ⟨share', hshare', hlarge | ⟨part', hpart', hlarge⟩⟩)
    · exact hfits hlarge
    · cases hshare'
      exact hfits' hlarge
    · cases hshare'
      rw [hpart] at hpart'
      cases hpart'
      exact hfits'' hlarge

theorem returns_colorTempKelvin_iff (cfg : LightConfig) (thingCode : String) (w : World) :
    Returns (cfg.colorTempKelvin thingCode w) ↔
      Fit (cfg.conversionOf thingCode w (.kelvin cfg) cfg.colorTempKey) := by
  rw [colorTempKelvin, conversionOf]
  cases configured cfg.colorTempKey with
  | none => simp
  | some key =>
      simp only [pyIntOrNone_eq, Option.map_some, Option.toList_some, fit_cons, fit_nil, and_true,
        Conversion.Overflows]
      split
      next hinfinite => exact iff_of_false (not_returns_error _) (not_not.mpr (.inl hinfinite))
      next hfinite =>
        cases hread : integerOf ((cfg.entity thingCode).value w key) with
        | none => exact iff_of_true (returns_ok none) (by simp [hfinite])
        | some device =>
            simp only [Option.some.injEq, exists_eq_left']
            rw [or_iff_right hfinite]
            exact returns_kelvin_iff cfg device

end LightConfig

/-! ## Air conditioners and water heaters -/

namespace ClimateConfig

def conversions (cfg : ClimateConfig) (thingCode : String) (w : World) : List Conversion :=
  ((configured cfg.currentTempKey).map fun key =>
    Conversion.float ((cfg.entity thingCode).value w key)).toList ++
    [.float ((cfg.entity thingCode).value w cfg.targetTempKey)]

theorem returns_currentTemperature_iff (cfg : ClimateConfig) (thingCode : String) (w : World) :
    Returns (cfg.currentTemperature thingCode w) ↔
      Fit ((configured cfg.currentTempKey).map fun key =>
        Conversion.float ((cfg.entity thingCode).value w key)).toList := by
  rw [currentTemperature]
  cases configured cfg.currentTempKey with
  | none => simp
  | some key => simp [returns_toFloatOrNone_iff, Conversion.Overflows]

end ClimateConfig

namespace WaterHeaterConfig

/-- The first temperature that is reported. -/
def reportedTemperature (cfg : WaterHeaterConfig) (thingCode : String) (w : World) : Option Json :=
  (cfg.currentTempKeys.map ((cfg.entity thingCode).value w)).find? fun value =>
    decide (value ≠ .null ∧ value ≠ .str "")

def conversions (cfg : WaterHeaterConfig) (thingCode : String) (w : World) : List Conversion :=
  ((cfg.reportedTemperature thingCode w).map Conversion.float).toList ++
    [.float ((cfg.entity thingCode).value w cfg.targetTempKey)]

theorem returns_currentTemperature_iff (cfg : WaterHeaterConfig) (thingCode : String)
    (w : World) : Returns (cfg.currentTemperature thingCode w) ↔
      Fit ((cfg.reportedTemperature thingCode w).map Conversion.float).toList := by
  rw [currentTemperature, ← reportedTemperature]
  cases cfg.reportedTemperature thingCode w with
  | none => simp
  | some value => simp [returns_toFloatOrNone_iff, Conversion.Overflows]

end WaterHeaterConfig

/-! ## Ovens -/

namespace OvenConfig

variable (cfg : OvenConfig) (oven : HolabrainEntity) (w : World)

theorem returns_stagedInt_iff (key : String) :
    Returns (stagedInt oven w key) ↔ Fit [.whole (oven.stagedValue w key)] := by
  simp [stagedInt, returns_toIntOrNone_iff, Conversion.Overflows]

/-- The duration is converted where it is staged as well as where it is reported. -/
theorem returns_minutes_iff :
    Returns (cfg.minutes oven w) ↔ Fit [.whole (oven.stagedValue w cfg.timeKey)] := by
  rw [minutes, HolabrainEntity.stagedValue]
  cases (w.draft oven.thingCode).get? cfg.timeKey with
  | none => simp [returns_toIntOrNone_iff, Conversion.Overflows]
  | some staged => simp [returns_toIntOrNone_iff, Conversion.Overflows]

end OvenConfig

/-! ## Every entity -/

namespace ModelledEntity

/-- The conversions an entity makes of what is staged, or of what is reported where nothing
is. -/
def conversions (thingCode : String) (w : World) (entity : ModelledEntity) : List Conversion :=
  let base := entity.base thingCode
  match entity with
  | sensor spec => spec.conversions thingCode w
  | binarySensor spec => spec.conversions thingCode w
  | number _ => [.float (base.value w "")]
  | light cfg => cfg.conversionOf thingCode w .int cfg.brightnessKey ++
      cfg.conversionOf thingCode w (.kelvin cfg) cfg.colorTempKey
  | climate cfg => cfg.conversions thingCode w
  | waterHeater cfg => cfg.conversions thingCode w
  | ovenTemperature cfg => [.whole (base.stagedValue w cfg.tempKey)]
  | ovenDuration cfg => [.whole (base.stagedValue w cfg.timeKey)]
  | ovenProbe cfg => [.whole (base.stagedValue w cfg.probeKey)]
  | switch _ | select .. | button _ | ovenMode _ | ovenPreheat _ | ovenStart _
  | dishwasherProgram _ | dishwasherExtra _ | dishwasherZone _ | dishwasherStart _ => []

/-- Reading the properties of an entity raises nothing exactly if no number that it converts is
too large. -/
theorem readings_return_iff (thingCode : String) (w : World) (entity : ModelledEntity) :
    (∀ reading ∈ entity.readings thingCode, reading.Returns w) ↔
      Fit (entity.conversions thingCode w) := by
  cases entity with
  | sensor spec => simpa [readings, conversions, Reading.Returns] using
      spec.returns_nativeValue_iff thingCode w
  | binarySensor spec => simpa [readings, conversions, Reading.Returns] using
      spec.returns_isOn_iff thingCode w
  | number spec => simp [readings, conversions, Reading.Returns, NumberSpec.nativeValue, base,
      returns_toFloatOrNone_iff, Conversion.Overflows]
  | light cfg => simp [readings, conversions, Reading.Returns, cfg.returns_brightness_iff,
      cfg.returns_colorTempKelvin_iff]
  | climate cfg => simp [readings, conversions, Reading.Returns, ClimateConfig.conversions,
      cfg.returns_currentTemperature_iff, ClimateConfig.targetTemperature,
      returns_toFloatOrNone_iff, Conversion.Overflows]
  | waterHeater cfg => simp [readings, conversions, Reading.Returns,
      WaterHeaterConfig.conversions, cfg.returns_currentTemperature_iff,
      WaterHeaterConfig.targetTemperature, returns_toFloatOrNone_iff, Conversion.Overflows]
  | ovenTemperature cfg => simp [readings, conversions, Reading.Returns,
      OvenConfig.temperatureValue, OvenConfig.returns_stagedInt_iff]
  | ovenDuration cfg => simp [readings, conversions, Reading.Returns, cfg.returns_minutes_iff]
  | ovenProbe cfg => simp [readings, conversions, Reading.Returns, OvenConfig.probeValue,
      OvenConfig.returns_stagedInt_iff]
  | _ => simp [readings, conversions, Reading.Returns]

end ModelledEntity

/-! ## What is staged -/

namespace OvenConfig

/-- Every number staged for a cook is one of a range far below the largest double. -/
def StagesNumbers (cfg : OvenConfig) (thingCode : String) (w : World) : Prop :=
  ∀ key ∈ [cfg.tempKey, cfg.timeKey, cfg.probeKey], ∀ text,
    (w.draft thingCode).get? key = some text → ∃ n : ℕ, n < 2 ^ 53 ∧ text = toString n

section Staged

variable {cfg : OvenConfig} {thingCode : String} {w w' : World}

theorem StagesNumbers.stage (h : StagesNumbers cfg thingCode w) {values : List (String × String)}
    (hvalues : ∀ key ∈ [cfg.tempKey, cfg.timeKey, cfg.probeKey], ∀ text,
      Dict.written values key = some text → ∃ n : ℕ, n < 2 ^ 53 ∧ text = toString n) :
    StagesNumbers cfg thingCode (stage thingCode values w) := by
  intro key hkey text htext
  rw [draft_stage, if_pos rfl, Dict.get?_update] at htext
  cases hwritten : Dict.written values key with
  | none =>
      rw [hwritten, Option.none_or] at htext
      exact h key hkey text htext
  | some written =>
      rw [hwritten, Option.some_or] at htext
      cases htext
      exact hvalues key hkey text hwritten

/-- A number within a range is staged as one. -/
theorem StagesNumbers.setNumber (h : StagesNumbers cfg thingCode w) {key : String} {value : Double}
    {low high : ℤ} (hlow : 0 ≤ low) (hhigh : high < 2 ^ 53) (hrange : InRange low high value)
    (hset : OvenConfig.setNumber thingCode key value w = .ok w') :
    StagesNumbers cfg thingCode w' := by
  obtain ⟨n, -, hn, rfl⟩ := setNumber_eq_ok hlow hrange hset
  refine h.stage fun other _ text htext => ?_
  rw [written_single] at htext
  split at htext
  · cases htext
    exact ⟨n, by omega, rfl⟩
  · cases htext

/-- The numbers are staged under keys of their own. -/
theorem Sound.number_key_ne (hsound : cfg.Sound) {key : String}
    (hkey : key ∈ [cfg.tempKey, cfg.timeKey, cfg.probeKey]) :
    key ≠ cfg.modeKey ∧ key ≠ cfg.preheatKey := by
  have hkeys := hsound.keys
  simp only [List.nodup_cons, List.mem_cons, List.not_mem_nil, or_false, not_or] at hkeys hkey
  obtain rfl | rfl | rfl := hkey <;> tauto

/-- A mode comes with the setpoint of its table. -/
theorem StagesNumbers.selectMode (hsound : cfg.Sound) (h : StagesNumbers cfg thingCode w)
    (option : String) : StagesNumbers cfg thingCode (cfg.selectMode thingCode option w) := by
  rw [OvenConfig.selectMode]
  cases hoption : (Dict.ofList cfg.programs).get? option with
  | none => exact h
  | some program =>
      have hmem := Dict.mem_of_written ((Dict.get?_ofList _ _).symm.trans hoption)
      refine h.stage fun key hkey text htext => ?_
      rw [Dict.written_cons, if_neg (hsound.number_key_ne hkey).1, Option.or_none] at htext
      split at htext
      · rw [written_single] at htext
        split at htext
        · cases htext
          obtain ⟨n, hsmall, -, htext⟩ := hsound.defaultTemp_eq hmem
          exact ⟨n, hsmall, htext⟩
        · cases htext
      · cases htext

variable {category : CategorySpec} {onMode onStatus : World → Prop}

/-- Whatever the controls stage, only what is reported can be too large. -/
theorem Composing.stagesNumbers (hcategory : category ∈ categories)
    (hcfg : category.oven = some cfg) (h : Composing cfg thingCode onMode onStatus w) :
    StagesNumbers cfg thingCode w := by
  have hsound := sound_of_mem_categories hcategory hcfg
  induction h with
  | nothing hempty _ =>
      intro key _ text htext
      rw [hempty, Dict.get?_empty] at htext
      cases htext
  | mode option _ _ ih => exact ih.selectMode hsound option
  | temperature _ hrange hset ih =>
      obtain ⟨hlow, hhigh⟩ := temperatureRange_bounds hsound _ _
      exact ih.setNumber hlow hhigh hrange hset
  | duration _ hrange hset ih => exact ih.setNumber le_rfl (maxMinutes_lt hsound _ _) hrange hset
  | probe _ hrange hset ih =>
      have hprobe : 0 ≤ cfg.probeMinTemp ∧ cfg.probeMaxTemp < 2 ^ 53 := by
        rw [eq_of_oven_eq_some hcategory hcfg]
        decide
      exact ih.setNumber hprobe.1 hprobe.2 hrange hset
  | preheat on _ ih =>
      refine ih.stage fun key hkey text htext => ?_
      rw [written_single, if_neg (hsound.number_key_ne hkey).2] at htext
      cases htext
  | status _ hdraft _ ih =>
      rw [StagesNumbers, hdraft]
      exact ih

/-- So no conversion of a staged value overflows. -/
theorem StagesNumbers.fits (h : StagesNumbers cfg thingCode w) {key text : String}
    (hkey : key ∈ [cfg.tempKey, cfg.timeKey, cfg.probeKey])
    (htext : (w.draft thingCode).get? key = some text) : ¬ IsUnbounded (.str text) := by
  obtain ⟨n, hn, rfl⟩ := h key hkey text htext
  rw [← returns_toIntOrNone_iff, toIntOrNone_toString hn]
  exact returns_ok _

end Staged

end OvenConfig

/-! ## A remaining time -/

def remainingTime : SensorSpec where
  key := "remainTimeL"
  translationKey := "remaining_time"
  transform := some "remain_minutes"
  gates := { meaningfulWhen := some Registry.dishwasherRunning }

def running (low : Json) : DeviceState where
  thingCode := "D"
  attributes := Dict.ofList [("runState", .str "1"), ("remainTimeL", low)]

/-- A dishwasher in its cycle that reports this low byte. -/
def runningDishwasher (low : Json) : World :=
  { World.fresh with
    devices := Dict.ofList [("D", appliance "D" "0xE1")]
    data := some (Dict.ofList [("D", running low)]) }

/-- A text beyond the doubles reads as an infinity, which is no integer. -/
theorem not_returns_remainingTime :
    remainingTime.nativeValue "D" (runningDishwasher (.str "1e999")) =
        .error (.builtin "OverflowError") ∧
      ¬ ∀ category ∈ categories, ∀ entity : ModelledEntity, entity.Of category →
        ∀ thingCode w, ∀ reading ∈ entity.readings thingCode, reading.Returns w := by
  have hraised : remainingTime.nativeValue "D" (runningDishwasher (.str "1e999")) =
      .error (.builtin "OverflowError") := by decide +kernel
  refine ⟨hraised, fun hall => ?_⟩
  have hof : (ModelledEntity.sensor remainingTime).Of Registry.dishwasher :=
    .tail _ (.tail _ (.tail _ (.head _)))
  have hreturns := hall _ List.mem_cons_self _ hof "D" (runningDishwasher (.str "1e999"))
    (.fallible (remainingTime.nativeValue "D")) (.tail _ (.head _))
  rw [Reading.Returns, hraised] at hreturns
  exact not_returns_error _ hreturns

end Holabrain
