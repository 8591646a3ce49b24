import Holabrain.Entity.Composer

/-!
# The limits of a programme

Every control of the oven keeps what it stages within the programme of that moment, and a mode
brings its own setpoint.  What was staged before, or is reported, stays as it is when the mode
changes: the start submits it whatever the limits of the new programme are.
-/

namespace Holabrain

open Coordinator

namespace OvenConfig

/-! ## An instruction that fits -/

/-- A step that the programme it names allows. -/
structure Within (cfg : OvenConfig) (program : OvenProgram) (step : Members) : Prop where
  time : ∃ seconds : ℤ, step.get cfg.timeKey = .str (toString seconds) ∧
    0 ≤ seconds ∧ seconds ≤ program.maxMinutes * 60
  temperature : ∀ key ∈ [cfg.tempKey, cfg.lowerTempKey], step.get key ≠ .null →
    ∃ degrees : ℤ, step.get key = .str (toString degrees) ∧
      program.minTemp ≤ degrees ∧ degrees ≤ program.maxTemp
  timeOnly : program.supportsTemp = false →
    ∀ key ∈ [cfg.tempKey, cfg.lowerTempKey, cfg.probeKey], step.get key = .null
  preheat : step.get cfg.preheatKey = .str "1" → program.supportsPreheat = true

/-- The instruction names a programme of the table, and keeps within its limits. -/
structure Fits (cfg : OvenConfig) (instruction : Members) : Prop where
  named : ∃ e ∈ cfg.programs, (cookStep instruction).get cfg.modeKey = .str e.2.code
  within : ∀ e ∈ cfg.programs, (cookStep instruction).get cfg.modeKey = .str e.2.code →
    cfg.Within e.2 (cookStep instruction)

/-! ## What is in effect -/

section Effect

variable (cfg : OvenConfig) (thingCode : String) (w : World)

/-- The duration that is staged, reported or the default is one of the programme's. -/
def DurationFits : Prop :=
  ∀ program minutes, cfg.program (cfg.entity thingCode cfg.modeKey) w = some program →
    cfg.minutes (cfg.entity thingCode cfg.modeKey) w = .ok minutes →
    minutes ≤ program.maxMinutes

/-- The setpoint that is staged, reported or the default is one of the programme's, unless it
takes none. -/
def SetpointFits : Prop :=
  ∀ program temperature, cfg.program (cfg.entity thingCode cfg.modeKey) w = some program →
    cfg.tempAllowed (cfg.entity thingCode cfg.modeKey) w = true →
    stagedInt (cfg.entity thingCode cfg.modeKey) w cfg.tempKey = .ok temperature →
    program.minTemp ≤ orDefault temperature program.defaultTemp ∧
      orDefault temperature program.defaultTemp ≤ program.maxTemp

/-- A list of the profile, if it carries one, excludes the programme. -/
def Excludes (param label : String) : Prop :=
  ∀ excluded, (w.capabilityFor thingCode).bind (fun profile => profile.param param) =
    some (.arr excluded) → Json.str label ∈ excluded

/-- The profile allows no programme what the table denies it. -/
structure ProfileAgrees : Prop where
  degrees : ∀ e ∈ cfg.programs, e.2.supportsTemp = false →
    Excludes thingCode w paramNonDegree e.1
  preheat : ∀ e ∈ cfg.programs, e.2.supportsPreheat = false →
    Excludes thingCode w paramNonPreheat e.1

end Effect

/-- The number lies in the range. -/
def InRange (low high : ℤ) (value : Double) : Prop :=
  ∃ q : ℚ, value = .finite q ∧ low ≤ q ∧ q ≤ high

/-- What is in effect is within the limits of the programme in effect. -/
structure InEffect (cfg : OvenConfig) (thingCode : String) (w : World) : Prop where
  profile : ProfileAgrees cfg thingCode w
  duration : DurationFits cfg thingCode w
  setpoint : SetpointFits cfg thingCode w

/-- The states a cook can be in while it is composed.  The controls stage within the range
they advertise; a mode may be chosen and a status may come in at any time, as long as the state
it leads to is as `onMode` or `onStatus` asks. -/
inductive Composing (cfg : OvenConfig) (thingCode : String) (onMode onStatus : World → Prop) :
    World → Prop
  | nothing {w} : w.draft thingCode = Dict.empty → onStatus w →
      Composing cfg thingCode onMode onStatus w
  | mode {w} (option : String) : Composing cfg thingCode onMode onStatus w →
      onMode (cfg.selectMode thingCode option w) →
      Composing cfg thingCode onMode onStatus (cfg.selectMode thingCode option w)
  | temperature {w w'} {value : Double} : Composing cfg thingCode onMode onStatus w →
      InRange (cfg.temperatureRange (cfg.entity thingCode cfg.modeKey) w).1
        (cfg.temperatureRange (cfg.entity thingCode cfg.modeKey) w).2 value →
      setNumber thingCode cfg.tempKey value w = .ok w' →
      Composing cfg thingCode onMode onStatus w'
  | duration {w w'} {value : Double} : Composing cfg thingCode onMode onStatus w →
      InRange 0 (cfg.maxMinutes (cfg.entity thingCode cfg.modeKey) w) value →
      setNumber thingCode cfg.timeKey value w = .ok w' →
      Composing cfg thingCode onMode onStatus w'
  | probe {w w'} {value : Double} : Composing cfg thingCode onMode onStatus w →
      InRange cfg.probeMinTemp cfg.probeMaxTemp value →
      setNumber thingCode cfg.probeKey value w = .ok w' →
      Composing cfg thingCode onMode onStatus w'
  | preheat {w} (on : Bool) : Composing cfg thingCode onMode onStatus w →
      Composing cfg thingCode onMode onStatus (cfg.setPreheat thingCode on w)
  | status {w w'} : Composing cfg thingCode onMode onStatus w →
      w'.draft thingCode = w.draft thingCode → onStatus w' →
      Composing cfg thingCode onMode onStatus w'

/-! ## Frames -/

section Frames

variable {cfg : OvenConfig} {thingCode : String} {values : List (String × String)} {w : World}

theorem label_stage (hmode : Dict.written values cfg.modeKey = none) :
    cfg.label (cfg.entity thingCode cfg.modeKey) (stage thingCode values w) =
      cfg.label (cfg.entity thingCode cfg.modeKey) w := by
  have hstaged := (cfg.entity thingCode cfg.modeKey).stagedValue_stage values w cfg.modeKey
  rw [hmode] at hstaged
  rw [label, label]
  exact congrArg (fun code => cfg.byCode.get? (Json.pyStr code)) hstaged

theorem program_stage (hmode : Dict.written values cfg.modeKey = none) :
    cfg.program (cfg.entity thingCode cfg.modeKey) (stage thingCode values w) =
      cfg.program (cfg.entity thingCode cfg.modeKey) w := by
  rw [program, program, label_stage hmode]

theorem tempAllowed_stage (hmode : Dict.written values cfg.modeKey = none) :
    cfg.tempAllowed (cfg.entity thingCode cfg.modeKey) (stage thingCode values w) =
      cfg.tempAllowed (cfg.entity thingCode cfg.modeKey) w := by
  rw [tempAllowed, tempAllowed, program_stage hmode]
  cases cfg.program (cfg.entity thingCode cfg.modeKey) w with
  | none => rfl
  | some program =>
      simp only [modeAllows, label_stage hmode]
      rfl

theorem stagedInt_stage {key : String} (hkey : Dict.written values key = none) :
    stagedInt (cfg.entity thingCode cfg.modeKey) (stage thingCode values w) key =
      stagedInt (cfg.entity thingCode cfg.modeKey) w key := by
  have hstaged := (cfg.entity thingCode cfg.modeKey).stagedValue_stage values w key
  rw [hkey] at hstaged
  rw [stagedInt, stagedInt]
  exact congrArg toIntOrNone hstaged

theorem stagedInt_stage_of_written {key text : String}
    (hkey : Dict.written values key = some text) :
    stagedInt (cfg.entity thingCode cfg.modeKey) (stage thingCode values w) key =
      toIntOrNone (.str text) := by
  have hstaged := (cfg.entity thingCode cfg.modeKey).stagedValue_stage values w key
  rw [hkey] at hstaged
  rw [stagedInt]
  exact congrArg toIntOrNone hstaged

theorem minutes_stage (htime : Dict.written values cfg.timeKey = none) :
    cfg.minutes (cfg.entity thingCode cfg.modeKey) (stage thingCode values w) =
      cfg.minutes (cfg.entity thingCode cfg.modeKey) w := by
  have hcode : (cfg.entity thingCode cfg.modeKey).thingCode = thingCode := rfl
  rw [minutes, minutes, hcode, draft_stage, if_pos rfl, Dict.get?_update, htime, Option.none_or]
  rfl

theorem minutes_stage_of_written {text : String}
    (htime : Dict.written values cfg.timeKey = some text) :
    cfg.minutes (cfg.entity thingCode cfg.modeKey) (stage thingCode values w) =
      (toIntOrNone (.str text)).map fun n => n.getD 0 := by
  have hcode : (cfg.entity thingCode cfg.modeKey).thingCode = thingCode := rfl
  rw [minutes, hcode, draft_stage, if_pos rfl, Dict.get?_update, htime]
  rfl

end Frames

/-! ## The table -/

/-- What the programme table and the status keys keep to. -/
structure Sound (cfg : OvenConfig) : Prop where
  labels : (cfg.programs.map Prod.fst).Nodup
  codes : (cfg.programs.map fun e => e.2.code).Nodup
  keys : [cfg.modeKey, cfg.tempKey, cfg.timeKey, cfg.probeKey, cfg.preheatKey].Nodup
  minTemp : ∀ e ∈ cfg.programs, 0 ≤ e.2.minTemp
  default : ∀ e ∈ cfg.programs,
    e.2.minTemp ≤ e.2.defaultTemp ∧ e.2.defaultTemp ≤ e.2.maxTemp
  maxTemp : ∀ e ∈ cfg.programs, e.2.maxTemp < 2 ^ 53
  maxMinutes : ∀ e ∈ cfg.programs, 0 ≤ e.2.maxMinutes ∧ e.2.maxMinutes < 2 ^ 53

theorem sound_of_mem_categories {category : CategorySpec} {cfg : OvenConfig}
    (hcategory : category ∈ categories) (hcfg : category.oven = some cfg) : cfg.Sound := by
  rw [eq_of_oven_eq_some hcategory hcfg]
  constructor <;> decide +kernel

section Programs

variable {cfg : OvenConfig} {oven : HolabrainEntity} {thingCode : String} {w : World}
  {program : OvenProgram}

theorem Sound.mem (hsound : cfg.Sound) (h : cfg.program oven w = some program) :
    ∃ label, cfg.label oven w = some label ∧ (label, program) ∈ cfg.programs :=
  (mem_of_program_eq_some hsound.labels h).1

/-- A code names one programme. -/
theorem Sound.eq_of_code (hsound : cfg.Sound) {e e' : String × OvenProgram}
    (he : e ∈ cfg.programs) (he' : e' ∈ cfg.programs) (hcode : e.2.code = e'.2.code) : e = e' :=
  List.inj_on_of_nodup_map hsound.codes he he' hcode

/-- The ranges the controls advertise. -/
theorem temperatureRange_bounds (hsound : cfg.Sound) (oven : HolabrainEntity) (w : World) :
    0 ≤ (cfg.temperatureRange oven w).1 ∧ (cfg.temperatureRange oven w).2 < 2 ^ 53 := by
  rw [temperatureRange]
  cases hprogram : cfg.program oven w with
  | none => decide
  | some program =>
      obtain ⟨label, -, hmem⟩ := hsound.mem hprogram
      exact ⟨hsound.minTemp _ hmem, hsound.maxTemp _ hmem⟩

theorem maxMinutes_lt (hsound : cfg.Sound) (oven : HolabrainEntity) (w : World) :
    cfg.maxMinutes oven w < 2 ^ 53 := by
  rw [maxMinutes]
  cases hprogram : cfg.program oven w with
  | none => decide
  | some program =>
      obtain ⟨label, -, hmem⟩ := hsound.mem hprogram
      exact (hsound.maxMinutes _ hmem).2

/-- The setpoint of the table is staged as the text of a small number. -/
theorem Sound.defaultTemp_eq (hsound : cfg.Sound) {e : String × OvenProgram}
    (he : e ∈ cfg.programs) :
    ∃ n : ℕ, n < 2 ^ 53 ∧ e.2.defaultTemp = n ∧ toString e.2.defaultTemp = toString n := by
  obtain ⟨hmin, hmax⟩ := hsound.default e he
  obtain ⟨n, hn⟩ := Int.eq_ofNat_of_zero_le ((hsound.minTemp e he).trans hmin)
  have hsmall : (n : ℤ) < 2 ^ 53 := hn ▸ hmax.trans_lt (hsound.maxTemp e he)
  refine ⟨n, by omega, hn, ?_⟩
  rw [hn]
  rfl

/-- What the table denies a programme, the list of the profile denies it too. -/
theorem modeAllows_of_excludes {param label : String}
    (hlabel : cfg.label (cfg.entity thingCode cfg.modeKey) w = some label)
    (hexcludes : Excludes thingCode w param label) :
    cfg.modeAllows (cfg.entity thingCode cfg.modeKey) w param false = false := by
  have hcode : (cfg.entity thingCode cfg.modeKey).thingCode = thingCode := rfl
  rw [modeAllows, hlabel, hcode]
  split
  next excluded label' hlist heq =>
    cases heq
    simp [hexcludes excluded hlist]
  next => rfl

theorem supportsTemp_of_tempAllowed (hsound : cfg.Sound)
    (hprofile : ProfileAgrees cfg thingCode w)
    (hprogram : cfg.program (cfg.entity thingCode cfg.modeKey) w = some program)
    (hallowed : cfg.tempAllowed (cfg.entity thingCode cfg.modeKey) w = true) :
    program.supportsTemp = true := by
  obtain ⟨label, hlabel, hmem⟩ := hsound.mem hprogram
  by_contra hnot
  rw [Bool.not_eq_true] at hnot
  rw [tempAllowed, hprogram] at hallowed
  simp only [hnot] at hallowed
  rw [modeAllows_of_excludes hlabel (hprofile.degrees _ hmem hnot)] at hallowed
  cases hallowed

theorem supportsPreheat_of_preheatAllowed (hsound : cfg.Sound)
    (hprofile : ProfileAgrees cfg thingCode w)
    (hprogram : cfg.program (cfg.entity thingCode cfg.modeKey) w = some program)
    (hallowed : cfg.preheatAllowed (cfg.entity thingCode cfg.modeKey) w = true) :
    program.supportsPreheat = true := by
  obtain ⟨label, hlabel, hmem⟩ := hsound.mem hprogram
  by_contra hnot
  rw [Bool.not_eq_true] at hnot
  rw [preheatAllowed, hprogram] at hallowed
  simp only [hnot] at hallowed
  rw [modeAllows_of_excludes hlabel (hprofile.preheat _ hmem hnot)] at hallowed
  cases hallowed

end Programs

/-! ## The controls keep to the limits -/

section Steps

variable {cfg : OvenConfig} {thingCode : String} {w w' : World}

theorem setNumber_eq_stage {key : String} {value : Double}
    (h : setNumber thingCode key value w = .ok w') :
    ∃ text, w' = stage thingCode [(key, text)] w := by
  rw [setNumber] at h
  cases hint : value.toInt with
  | error exn =>
      rw [hint] at h
      cases h
  | ok n =>
      rw [hint] at h
      exact ⟨toString n, (Except.ok.inj h).symm⟩

/-- A number within a range is staged as an integer within it. -/
theorem setNumber_eq_ok {key : String} {value : Double} {low high : ℤ} (hlow : 0 ≤ low)
    (hrange : InRange low high value) (h : setNumber thingCode key value w = .ok w') :
    ∃ n : ℕ, low ≤ n ∧ n ≤ high ∧ w' = stage thingCode [(key, toString n)] w := by
  obtain ⟨q, rfl, hmin, hmax⟩ := hrange
  obtain ⟨hfrom, hto⟩ := truncate_mem_Icc hlow hmin hmax
  obtain ⟨n, hn⟩ := Int.eq_ofNat_of_zero_le (le_trans hlow hfrom)
  rw [hn] at hfrom hto
  refine ⟨n, hfrom, hto, ?_⟩
  have hw' := Except.ok.inj h
  rw [← hw', hn]
  rfl

theorem DurationFits.stage (h : DurationFits cfg thingCode w) {values : List (String × String)}
    (hmode : Dict.written values cfg.modeKey = none)
    (htime : Dict.written values cfg.timeKey = none) :
    DurationFits cfg thingCode (stage thingCode values w) := by
  intro program minutes hprogram hminutes
  rw [program_stage hmode] at hprogram
  rw [minutes_stage htime] at hminutes
  exact h program minutes hprogram hminutes

theorem SetpointFits.stage (h : SetpointFits cfg thingCode w) {values : List (String × String)}
    (hmode : Dict.written values cfg.modeKey = none)
    (htemp : Dict.written values cfg.tempKey = none) :
    SetpointFits cfg thingCode (stage thingCode values w) := by
  intro program temperature hprogram hallowed htemperature
  rw [program_stage hmode] at hprogram
  rw [tempAllowed_stage hmode] at hallowed
  rw [stagedInt_stage htemp] at htemperature
  exact h program temperature hprogram hallowed htemperature

/-- Staging what neither the programme, the duration nor the setpoint is read from. -/
theorem InEffect.stage (h : InEffect cfg thingCode w) {values : List (String × String)}
    (hmode : Dict.written values cfg.modeKey = none)
    (htime : Dict.written values cfg.timeKey = none)
    (htemp : Dict.written values cfg.tempKey = none) :
    InEffect cfg thingCode (stage thingCode values w) :=
  ⟨⟨h.profile.degrees, h.profile.preheat⟩, h.duration.stage hmode htime,
    h.setpoint.stage hmode htemp⟩

theorem written_single (key text other : String) :
    Dict.written [(key, text)] other = if other = key then some text else none := by
  rw [Dict.written_cons, Dict.written_nil, Option.none_or]

/-- The keys of the controls, told apart. -/
structure KeysDiffer (cfg : OvenConfig) : Prop where
  mode_temp : cfg.modeKey ≠ cfg.tempKey
  mode_time : cfg.modeKey ≠ cfg.timeKey
  mode_probe : cfg.modeKey ≠ cfg.probeKey
  mode_preheat : cfg.modeKey ≠ cfg.preheatKey
  temp_time : cfg.tempKey ≠ cfg.timeKey
  temp_probe : cfg.tempKey ≠ cfg.probeKey
  temp_preheat : cfg.tempKey ≠ cfg.preheatKey
  time_probe : cfg.timeKey ≠ cfg.probeKey
  time_preheat : cfg.timeKey ≠ cfg.preheatKey

theorem Sound.keysDiffer (hsound : cfg.Sound) : cfg.KeysDiffer := by
  have hkeys := hsound.keys
  simp only [List.nodup_cons, List.mem_cons, not_or] at hkeys
  constructor <;> tauto

theorem InEffect.setTemperature (hsound : cfg.Sound) (h : InEffect cfg thingCode w)
    {value : Double}
    (hrange : InRange (cfg.temperatureRange (cfg.entity thingCode cfg.modeKey) w).1
      (cfg.temperatureRange (cfg.entity thingCode cfg.modeKey) w).2 value)
    (hset : setNumber thingCode cfg.tempKey value w = .ok w') :
    InEffect cfg thingCode w' := by
  have hkeys := hsound.keysDiffer
  obtain ⟨hlow, hhigh⟩ := temperatureRange_bounds hsound (cfg.entity thingCode cfg.modeKey) w
  obtain ⟨n, hmin, hmax, rfl⟩ := setNumber_eq_ok hlow hrange hset
  have hsmall : n < 2 ^ 53 := by omega
  have hmode : Dict.written [(cfg.tempKey, toString n)] cfg.modeKey = none := by
    rw [written_single, if_neg hkeys.mode_temp]
  have htime : Dict.written [(cfg.tempKey, toString n)] cfg.timeKey = none := by
    rw [written_single, if_neg hkeys.temp_time.symm]
  have htemp : Dict.written [(cfg.tempKey, toString n)] cfg.tempKey = some (toString n) := by
    rw [written_single, if_pos rfl]
  have hsetpoint : SetpointFits cfg thingCode
      (Coordinator.stage thingCode [(cfg.tempKey, toString n)] w) := by
    intro program temperature hprogram _ htemperature
    rw [program_stage hmode] at hprogram
    obtain ⟨label, -, hmem⟩ := hsound.mem hprogram
    rw [temperatureRange, hprogram] at hmin hmax
    rw [stagedInt_stage_of_written htemp, toIntOrNone_toString hsmall] at htemperature
    rw [← Except.ok.inj htemperature, orDefault]
    split
    · exact hsound.default _ hmem
    · exact ⟨hmin, hmax⟩
  exact ⟨⟨h.profile.degrees, h.profile.preheat⟩, h.duration.stage hmode htime, hsetpoint⟩

theorem InEffect.setDuration (hsound : cfg.Sound) (h : InEffect cfg thingCode w)
    {value : Double}
    (hrange : InRange 0 (cfg.maxMinutes (cfg.entity thingCode cfg.modeKey) w) value)
    (hset : setNumber thingCode cfg.timeKey value w = .ok w') :
    InEffect cfg thingCode w' := by
  have hkeys := hsound.keysDiffer
  have hmax := maxMinutes_lt hsound (cfg.entity thingCode cfg.modeKey) w
  obtain ⟨n, -, hn, rfl⟩ := setNumber_eq_ok le_rfl hrange hset
  have hsmall : n < 2 ^ 53 := by omega
  have hmode : Dict.written [(cfg.timeKey, toString n)] cfg.modeKey = none := by
    rw [written_single, if_neg hkeys.mode_time]
  have htemp : Dict.written [(cfg.timeKey, toString n)] cfg.tempKey = none := by
    rw [written_single, if_neg hkeys.temp_time]
  have htime : Dict.written [(cfg.timeKey, toString n)] cfg.timeKey = some (toString n) := by
    rw [written_single, if_pos rfl]
  have hduration : DurationFits cfg thingCode
      (Coordinator.stage thingCode [(cfg.timeKey, toString n)] w) := by
    intro program minutes hprogram hminutes
    rw [program_stage hmode] at hprogram
    rw [maxMinutes, hprogram] at hn
    rw [minutes_stage_of_written htime, toIntOrNone_toString hsmall] at hminutes
    rw [← Except.ok.inj hminutes]
    exact hn
  exact ⟨⟨h.profile.degrees, h.profile.preheat⟩, hduration, h.setpoint.stage hmode htemp⟩

theorem InEffect.selectMode (hsound : cfg.Sound) (h : InEffect cfg thingCode w)
    (option : String)
    (hduration : DurationFits cfg thingCode (cfg.selectMode thingCode option w)) :
    InEffect cfg thingCode (cfg.selectMode thingCode option w) := by
  have hkeys := hsound.keysDiffer
  rw [OvenConfig.selectMode] at hduration ⊢
  cases hoption : (Dict.ofList cfg.programs).get? option with
  | none => exact h
  | some chosen =>
      simp only [hoption] at hduration
      have hchosen := Dict.mem_of_written ((Dict.get?_ofList _ _).symm.trans hoption)
      let values := (cfg.modeKey, chosen.code) ::
        if chosen.supportsTemp then [(cfg.tempKey, toString chosen.defaultTemp)] else []
      have hmode : Dict.written values cfg.modeKey = some chosen.code := by
        simp only [values, Dict.written_cons]
        split <;> simp [written_single, hkeys.mode_temp]
      have hprofile : ProfileAgrees cfg thingCode (Coordinator.stage thingCode values w) :=
        ⟨h.profile.degrees, h.profile.preheat⟩
      refine ⟨hprofile, hduration, ?_⟩
      intro program temperature hprogram hallowed htemperature
      have hcode : program.code = chosen.code := by
        have hstaged := (cfg.entity thingCode cfg.modeKey).stagedValue_stage values w cfg.modeKey
        rw [hmode] at hstaged
        exact (mem_of_program_eq_some hsound.labels hprogram).2.trans
          (congrArg Json.pyStr hstaged)
      obtain ⟨label, -, hmem⟩ := hsound.mem hprogram
      obtain ⟨-, rfl⟩ := Prod.mk.inj (hsound.eq_of_code hmem hchosen hcode)
      -- The programme in effect is the chosen one, and it came with its setpoint.
      have hsupports := supportsTemp_of_tempAllowed hsound hprofile hprogram hallowed
      have hdefault : program.minTemp ≤ program.defaultTemp ∧
          program.defaultTemp ≤ program.maxTemp := hsound.default _ hmem
      have htemp : Dict.written values cfg.tempKey = some (toString program.defaultTemp) := by
        simp [values, hsupports, Dict.written_cons, hkeys.mode_temp.symm]
      obtain ⟨n, hsmall, hn, htext⟩ : ∃ n : ℕ, n < 2 ^ 53 ∧ program.defaultTemp = n ∧
          toString program.defaultTemp = toString n := hsound.defaultTemp_eq hmem
      rw [htext] at htemp
      have hread := (stagedInt_stage_of_written htemp).symm.trans htemperature
      rw [toIntOrNone_toString hsmall] at hread
      rw [← Except.ok.inj hread, orDefault]
      split
      · exact hdefault
      · rwa [hn] at hdefault

/-- Whatever is staged, chosen and reported on the way, what is in effect stays within the
limits. -/
theorem Composing.inEffect (hsound : cfg.Sound)
    (h : Composing cfg thingCode (DurationFits cfg thingCode) (InEffect cfg thingCode) w) :
    InEffect cfg thingCode w := by
  have hkeys := hsound.keysDiffer
  induction h with
  | nothing _ hstatus => exact hstatus
  | mode option _ hduration ih => exact ih.selectMode hsound option hduration
  | temperature _ hrange hset ih => exact ih.setTemperature hsound hrange hset
  | duration _ hrange hset ih => exact ih.setDuration hsound hrange hset
  | probe _ _ hset ih =>
      obtain ⟨text, rfl⟩ := setNumber_eq_stage hset
      apply ih.stage
      · rw [written_single, if_neg hkeys.mode_probe]
      · rw [written_single, if_neg hkeys.time_probe]
      · rw [written_single, if_neg hkeys.temp_probe]
  | preheat on _ ih =>
      apply ih.stage
      · rw [written_single, if_neg hkeys.mode_preheat]
      · rw [written_single, if_neg hkeys.time_preheat]
      · rw [written_single, if_neg hkeys.temp_preheat]
  | status _ _ hstatus _ => exact hstatus

variable {category : CategorySpec}

/-- What is composed fits its programme where what is in effect does. -/
theorem InEffect.fits (hcategory : category ∈ categories) (hcfg : category.oven = some cfg)
    (h : InEffect cfg thingCode w) {instruction : Members}
    (hcompose : cfg.compose thingCode w = .ok instruction) : cfg.Fits instruction := by
  have hsound := sound_of_mem_categories hcategory hcfg
  have htable := eq_of_oven_eq_some hcategory hcfg
  subst htable
  obtain ⟨program, temperature, minutes, probe, hprogram, htemperature, hminutes, -, rfl⟩ :=
    compose_eq_ok hcompose
  obtain ⟨label, -, hmem⟩ := hsound.mem hprogram
  refine ⟨⟨(label, program), hmem, ?_⟩, fun e he hcode => ?_⟩
  · rw [get_cookStep, get_modeKey]
  rw [get_cookStep, get_modeKey] at hcode
  obtain rfl := hsound.eq_of_code hmem he (Json.str.inj hcode)
  have hduration := h.duration program minutes hprogram hminutes
  have hmaximum : 0 ≤ program.maxMinutes := (hsound.maxMinutes _ hmem).1
  have hsupports := supportsTemp_of_tempAllowed hsound h.profile hprogram
  refine ⟨⟨max minutes 0 * 60, ?_, ?_, ?_⟩, ?_, ?_, ?_⟩
  · rw [get_cookStep, get_timeKey]
  · omega
  · dsimp only
    omega
  · intro key hkey hpresent
    have hname : key = "upperTemp" ∨ key = "lowerTemp" := by simpa using hkey
    rw [get_cookStep, get_tempKeys _ _ _ _ _ _ _ _ hname] at hpresent ⊢
    split at hpresent
    next hallowed =>
      rw [if_pos hallowed]
      exact ⟨_, rfl, h.setpoint program temperature hprogram hallowed htemperature⟩
    next => exact absurd rfl hpresent
  · intro htimeOnly key hkey
    have hdenied : ¬ tempAllowed { programs := Registry.ovenPrograms }
        (entity { programs := Registry.ovenPrograms } thingCode "cookMode") w = true := by
      intro hallowed
      rw [hsupports hallowed] at htimeOnly
      cases htimeOnly
    have hname : (key = "upperTemp" ∨ key = "lowerTemp") ∨ key = "probeTemp" := by
      simpa [or_assoc] using hkey
    obtain hname | rfl := hname
    · rw [get_cookStep, get_tempKeys _ _ _ _ _ _ _ _ hname]
      exact if_neg hdenied
    · rw [get_cookStep, get_probeKey]
      exact if_neg hdenied
  · intro hpreheat
    rw [get_cookStep, get_preheatKey] at hpreheat
    split at hpreheat
    next hon =>
      rw [Bool.and_eq_true] at hon
      exact supportsPreheat_of_preheatAllowed hsound h.profile hprogram hon.2
    next => exact absurd (Json.str.inj hpreheat) (by decide)

theorem submits_asyncPress_iff {instruction : Members} :
    SubmitsInstruction (cfg.asyncPress thingCode) thingCode instruction w ↔
      cfg.compose thingCode w = .ok instruction := by
  rw [asyncPress_eq]
  exact submits_composedPress_iff

/-- As long as a chosen mode takes the duration in effect, and a status reports nothing that
the programme does not take, every instruction fits its programme. -/
theorem fits_of_composing (hcategory : category ∈ categories) (hcfg : category.oven = some cfg)
    (h : Composing cfg thingCode (DurationFits cfg thingCode) (InEffect cfg thingCode) w)
    {instruction : Members}
    (hsubmits : SubmitsInstruction (cfg.asyncPress thingCode) thingCode instruction w) :
    cfg.Fits instruction :=
  (h.inEffect (sound_of_mem_categories hcategory hcfg)).fits hcategory hcfg
    (submits_asyncPress_iff.mp hsubmits)

end Steps

/-! ## Nine hours of conventional heat -/

def ovenConfig : OvenConfig where
  programs := Registry.ovenPrograms

/-- An oven in standby that reports no programme, with nothing staged. -/
def idleOven : World :=
  { World.fresh with
    devices := Dict.ofList [("O",
      { thingCode := "O", name := "O", deviceType := "0xB1", model := "", online := true })]
    data := some (Dict.ofList
      [("O", { thingCode := "O", attributes := Dict.ofList [("devstatus", .str "2")] })]) }

/-- Keep warm for nine hours. -/
def keptWarm : World :=
  stage "O" [("cookTime", "540")] (ovenConfig.selectMode "O" "keep_warm" idleOven)

theorem inEffect_idleOven : InEffect ovenConfig "O" idleOven := by
  have hprofile : idleOven.capabilityFor "O" = none := by decide +kernel
  have hprogram : (ovenConfig.program (ovenConfig.entity "O" ovenConfig.modeKey) idleOven).isNone =
      true := by
    decide +kernel
  rw [Option.isNone_iff_eq_none] at hprogram
  refine ⟨⟨?_, ?_⟩, fun program minutes h => ?_, fun program temperature h => ?_⟩
  · intro e _ _ excluded hlist
    rw [hprofile] at hlist
    cases hlist
  · intro e _ _ excluded hlist
    rw [hprofile] at hlist
    cases hlist
  · cases hprogram.symm.trans h
  · cases hprogram.symm.trans h

theorem composing_keptWarm {onMode onStatus : World → Prop} (hidle : onStatus idleOven)
    (hmode : onMode (ovenConfig.selectMode "O" "keep_warm" idleOven)) :
    Composing ovenConfig "O" onMode onStatus keptWarm := by
  have hrange : ovenConfig.maxMinutes (ovenConfig.entity "O" ovenConfig.modeKey)
      (ovenConfig.selectMode "O" "keep_warm" idleOven) = 540 := by
    decide +kernel
  apply Composing.duration (.mode "keep_warm" (.nothing rfl hidle) hmode)
  · rw [hrange]
    exact ⟨540, rfl, by norm_num, by norm_num⟩
  · have hint : (Double.finite 540).toInt = .ok 540 := by decide +kernel
    rw [setNumber, hint]
    rfl

/-- What a press submits, where it submits anything. -/
def submitted (w : World) : Members :=
  match ovenConfig.compose "O" w with
  | .ok instruction => instruction
  | .error _ => []

/-- Nine hours are fine for keeping warm. -/
theorem fits_keptWarm :
    SubmitsInstruction (ovenConfig.asyncPress "O") "O" (submitted keptWarm) keptWarm ∧
      ovenConfig.Fits (submitted keptWarm) := by
  have hcategory : Registry.oven ∈ categories := by simp [categories]
  have hsubmits : SubmitsInstruction (ovenConfig.asyncPress "O") "O" (submitted keptWarm)
      keptWarm := submits_asyncPress_iff.mpr (by decide +kernel)
  have hduration : DurationFits ovenConfig "O"
      (ovenConfig.selectMode "O" "keep_warm" idleOven) := by
    intro program minutes hprogram hminutes
    have hdefault : ovenConfig.minutes (ovenConfig.entity "O" ovenConfig.modeKey)
        (ovenConfig.selectMode "O" "keep_warm" idleOven) = .ok 30 := by
      decide +kernel
    have hmaximum : (ovenConfig.program (ovenConfig.entity "O" ovenConfig.modeKey)
        (ovenConfig.selectMode "O" "keep_warm" idleOven)).map OvenProgram.maxMinutes =
          some 540 := by
      decide +kernel
    rw [hprogram] at hmaximum
    rw [← Except.ok.inj (hdefault.symm.trans hminutes), Option.some.inj hmaximum]
    decide
  exact ⟨hsubmits, fits_of_composing hcategory rfl
    (composing_keptWarm inEffect_idleOven hduration) hsubmits⟩

/-- A mode that takes five hours at most is started for nine. -/
theorem not_fits_conventional :
    Composing ovenConfig "O" (fun _ => True) (fun _ => True)
        (ovenConfig.selectMode "O" "conventional" keptWarm) ∧
      SubmitsInstruction (ovenConfig.asyncPress "O") "O"
        (submitted (ovenConfig.selectMode "O" "conventional" keptWarm))
        (ovenConfig.selectMode "O" "conventional" keptWarm) ∧
      ¬ ovenConfig.Fits (submitted (ovenConfig.selectMode "O" "conventional" keptWarm)) := by
  refine ⟨.mode "conventional" (composing_keptWarm trivial trivial) trivial,
    submits_asyncPress_iff.mpr (by decide +kernel), fun hfits => ?_⟩
  have hwithin := hfits.within
    ("conventional", { code := "21249", minTemp := 30, defaultTemp := 180 })
    List.mem_cons_self (by decide +kernel)
  obtain ⟨seconds, htime, hpos, hmax⟩ := hwithin.time
  have hsent : (cookStep (submitted (ovenConfig.selectMode "O" "conventional" keptWarm))).get
      ovenConfig.timeKey = .str "32400" := by
    decide +kernel
  obtain ⟨n, rfl⟩ := Int.eq_ofNat_of_zero_le hpos
  have hread : toIntOrNone (.str (toString n)) = .ok (some n) := by
    apply toIntOrNone_toString
    dsimp only at hmax
    omega
  have htext : (.str (toString n) : Json) = .str "32400" := htime.symm.trans hsent
  have hnine : toIntOrNone (.str "32400") = .ok (some 32400) := by decide +kernel
  rw [htext, hnine] at hread
  have hvalue := Option.some.inj (Except.ok.inj hread)
  dsimp only at hmax
  omega

end OvenConfig

end Holabrain
