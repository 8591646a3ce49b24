import Holabrain.Registry.Spec

/-!
# The modelled categories

The table of `registry.py`, one `CategorySpec` for each appliance category.
-/

namespace Holabrain

namespace Registry

/-- Categories that meter their own water and electricity. -/
def meteredCategories : List String := ["dishwasher", "washer"]

/-! ## 0xE1: dishwasher -/

def washingStage : List (String × String) :=
  [("0", "idle"), ("1", "pre_wash"), ("2", "main_wash"), ("3", "rinse"), ("4", "drying"),
    ("5", "finished")]

def faultCode : List (String × String) :=
  [("0", "none"), ("1", "e1"), ("2", "e2"), ("3", "e3"), ("4", "e4"), ("8", "e8"),
    ("12", "ec"), ("14", "eh"), ("16", "c4"), ("17", "l4")]

def program : List (String × String) :=
  [("1", "auto"), ("2", "intensive"), ("3", "universal"), ("4", "eco"), ("5", "delicate"),
    ("6", "90mins"), ("7", "rapid"), ("8", "soak"), ("12", "party"), ("15", "hygiene"),
    ("16", "self_cleaning")]

def dishwasherPrograms : List (String × String) :=
  [("auto", "1"), ("intensive", "2"), ("universal", "3"), ("eco", "4"), ("delicate", "5"),
    ("90mins", "6"), ("rapid", "7"), ("soak", "8"), ("party", "12"), ("hygiene", "15"),
    ("self_cleaning", "16")]

/-- Label, cloud code, and the capability the model must advertise. -/
def dishwasherExtras : List (String × String × String) :=
  [("extra_drying", "1", "extra_drying"), ("half_load", "2", "half"),
    ("power_wash", "4", "power_wash"), ("turbo_speed", "6", "turbo_speed")]

def dishwasherZones : List (String × String) := [("upper", "1"), ("lower", "2"), ("both", "3")]

def dishwasherStates : List StateRule :=
  [⟨"power_off", .is "power" ["0"]⟩,
    ⟨"fault", faulted "faultCode" faultCode⟩,
    ⟨"standby", .is "power" ["1", "5"]⟩,
    ⟨"delay", .is "power" ["2"]⟩,
    ⟨"finished", .and (.is "power" ["3"]) (.is "washingState" ["5"])⟩,
    ⟨"running", .is "runState" ["1"]⟩,
    ⟨"pause", .is "runState" ["2"]⟩]

def dishwasherRunning : Cond := .stateIs ["running", "pause"]

def dishwasherCycle : Cond := .stateIs ["running", "pause", "finished"]

def dishwasherGuard : List Block :=
  [⟨.stateIs ["power_off"], "appliance_off"⟩,
    ⟨.stateIs ["fault"], "appliance_fault"⟩,
    ⟨.is "doorstatus" ["0"], "door_open"⟩,
    ⟨.is "childLock" ["1"], "child_lock"⟩]

def powerExempt : Finset String :=
  {"appliance_off", "appliance_fault", "door_open", "child_lock"}

def dishwasher : CategorySpec where
  deviceType := "0xE1"
  category := "dishwasher"
  states := dishwasherStates
  guard := dishwasherGuard
  dishwasher := some
    { programs := dishwasherPrograms, extras := dishwasherExtras, zones := dishwasherZones }
  snapshotAfter := some ⟨"washingState", ["0", "5"]⟩
  sensors :=
    [{ key := "washingState", translationKey := "wash_stage", valueMap := some washingStage,
       gates := { meaningfulWhen := some dishwasherCycle } },
      { key := "modeEU", translationKey := "program", valueMap := some program,
        gates := { meaningfulWhen := some (.not (.stateIs ["power_off"])) } },
      { key := "faultCode", translationKey := "fault", valueMap := some faultCode },
      { key := "remainTimeL", translationKey := "remaining_time",
        transform := some "remain_minutes",
        gates := { meaningfulWhen := some dishwasherRunning } },
      { key := "realTemp", translationKey := "temperature",
        gates := { meaningfulWhen := some dishwasherRunning } },
      { key := "saltTimes", translationKey := "salt_refills", capability := some "salt" },
      { key := "brightenAgentTimes", translationKey := "rinse_aid_refills",
        capability := some "rinse_aid" }]
  binarySensors :=
    [{ key := "doorstatus", translationKey := "door", onValues := ["0"] },
      { key := "salt", translationKey := "salt_low", capability := some "salt" },
      { key := "brightenAgent", translationKey := "rinse_aid_low",
        capability := some "rinse_aid" }]
  switches :=
    [{ key := "power", translationKey := "power", onCommand := [("power", "1")],
       offCommand := [("power", "0")], onValues := ["1", "2", "3", "5"],
       gates := { exempt := powerExempt } },
      { key := "runState", translationKey := "running", onCommand := [("runState", "1")],
        offCommand := [("runState", "2")],
        gates := { meaningfulWhen := some dishwasherRunning } },
      { key := "autoDoorOpen", translationKey := "auto_door_open",
        onCommand := [("autoDoorOpen", "1")], offCommand := [("autoDoorOpen", "2")],
        capability := some "auto_open" }]
  numbers :=
    [{ key := "distributorGear", translationKey := "rinse_aid_level",
       commandKey := "distributorGear", nativeMin := 1, nativeMax := 5,
       maxFromGear := some "rinse_aid", capability := some "rinse_aid" },
      { key := "softWaterGear", translationKey := "water_softener",
        commandKey := "softWaterGear", nativeMin := 1, nativeMax := 6,
        maxFromGear := some "salt", capability := some "salt" }]

/-! ## 0x13: ceiling lamp -/

def lampStates : List StateRule := [⟨"off", .is "power" ["0"]⟩, ⟨"on", .is "power" ["1"]⟩]

def lamp : CategorySpec where
  deviceType := "0x13"
  category := "light"
  primaryPlatform := some .light
  states := lampStates
  light := some
    { effects := [("manual", "1"), ("life", "2"), ("read", "3"), ("soft", "4"),
        ("cinema", "5"), ("night", "6")] }

/-! ## 0xE2: water heater -/

def waterHeaterStates : List StateRule :=
  [⟨"power_off", .is "power" ["0"]⟩, ⟨"heating", .is "heatStatus" ["1"]⟩,
    ⟨"keep_warm", .is "heatStatus" ["2"]⟩, ⟨"standby", .is "heatStatus" ["0"]⟩]

def waterHeater : CategorySpec where
  deviceType := "0xE2"
  category := "water_heater"
  primaryPlatform := some .waterHeater
  states := waterHeaterStates
  waterHeater := some
    { currentTempKeys := ["cur_temperature", "targetTemp", "temp"]
      operations := [("single", [("cloudSmart", "0"), ("bodyNum", "1")]),
        ("double", [("cloudSmart", "0"), ("bodyNum", "2")]), ("smart", [("cloudSmart", "1")])]
      operationFlags := [("cloudSmart", "1", "smart"), ("bodyNum", "1", "single"),
        ("bodyNum", "2", "double")]
      defaultOperation := "double"
      tempLockedWhen := some ("cloudSmart", "1") }
  sensors :=
    [{ key := "heatStatus", translationKey := "heat_status",
       valueMap := some [("0", "standby"), ("1", "heating"), ("2", "keep_warm")],
       gates := { meaningfulWhen := some (.not (.stateIs ["power_off"])) } },
      { key := "remainTime", translationKey := "remaining_time",
        gates := { meaningfulWhen := some (.stateIs ["heating"]) } }]
  binarySensors :=
    [{ key := "faultCode", translationKey := "fault", onValues := ["0"], invert := true,
       uid := some "faultStatus" }]

/-! ## 0xAC: air conditioner -/

def airConditionerStates : List StateRule :=
  [⟨"off", .is "power" ["0"]⟩, ⟨"on", .is "power" ["1"]⟩]

def airConditioner : CategorySpec where
  deviceType := "0xAC"
  category := "air_conditioner"
  primaryPlatform := some .climate
  states := airConditionerStates
  climate := some
    { hvacModeCodes := [("1", "auto"), ("2", "cool"), ("3", "dry"), ("4", "heat"),
        ("5", "fan_only")]
      fanModes := [("low", "40"), ("medium", "60"), ("high", "80"), ("auto", "102")] }

/-! ## 0xB1: oven -/

def ovenPrograms : List (String × OvenProgram) :=
  [("conventional", { code := "21249", minTemp := 30, defaultTemp := 180 }),
    ("convection", { code := "21505", defaultTemp := 160 }),
    ("conventional_fan", { code := "24320", defaultTemp := 160 }),
    ("radiant_heat", { code := "26112", minTemp := 150, defaultTemp := 180 }),
    ("double_grill_fan", { code := "25344", defaultTemp := 180 }),
    ("double_grill", { code := "26368", defaultTemp := 180 }),
    ("pizza", { code := "22272", defaultTemp := 180 }),
    ("bottom_heat", { code := "20993", defaultTemp := 180 }),
    ("eco", { code := "41472", minTemp := 140, maxTemp := 240, tempStep := 20,
              defaultTemp := 140, supportsPreheat := false }),
    ("fermentation", { code := "22528", minTemp := 30, maxTemp := 50, defaultTemp := 40,
                       supportsPreheat := false }),
    ("keep_warm", { code := "24064", minTemp := 60, maxTemp := 100, tempStep := 1,
                    defaultTemp := 75, supportsPreheat := false, maxMinutes := 540 }),
    ("defrost", { code := "41984", supportsTemp := false, supportsPreheat := false })]

def ovenMachineStates : List String :=
  ["offline", "off", "standby", "cooking", "preheating", "preheat_finish", "cook_complete",
    "delay", "pause"]

def ovenFault : List (String × String) :=
  [("0", "none"), ("1", "e01"), ("2", "e02"), ("5", "e72"), ("17", "e03"), ("255", "d11")]

def ovenSummary : String := "transportStatusSummary1"

def ovenStates : List StateRule :=
  [⟨"fault", faulted "faultCode" ovenFault⟩,
    ⟨"off", .is "devstatus" ["1"]⟩,
    ⟨"standby", .is "devstatus" ["2"]⟩,
    ⟨"cooking", .is "devstatus" ["3"]⟩,
    ⟨"cook_complete", .is "devstatus" ["4"]⟩,
    ⟨"delay", .is "devstatus" ["5"]⟩,
    ⟨"pause", .is "devstatus" ["6"]⟩]

def ovenCooking : Cond := .stateIs ["cooking", "pause"]

def ovenGuard : List Block :=
  [⟨.stateIs ["off"], "appliance_off"⟩,
    ⟨.stateIs ["fault"], "appliance_fault"⟩,
    ⟨.is "childLock" ["1"], "child_lock"⟩]

def oven : CategorySpec where
  deviceType := "0xB1"
  category := "oven"
  states := ovenStates
  guard := ovenGuard
  oven := some { programs := ovenPrograms }
  sensors :=
    [{ key := "devstatus", translationKey := "machine_status", transform := some "oven_status",
       options := some ovenMachineStates },
      { key := "cookRemainTime", translationKey := "remaining_time",
        transform := some "seconds_minutes", gates := { meaningfulWhen := some ovenCooking } },
      { key := "upperTemp", translationKey := "working_temperature",
        gates := { meaningfulWhen := some ovenCooking } },
      { key := "faultCode", translationKey := "oven_fault", valueMap := some ovenFault }]
  binarySensors :=
    [{ key := "doorStatus", translationKey := "door", summaryKey := some ovenSummary,
       summaryBit := some 1 },
      { key := "faultCode", translationKey := "fault", onValues := ["0"], invert := true,
        uid := some "faultStatus" },
      { key := "preheatState", translationKey := "preheating", uid := some "preheatActive",
        summaryKey := some ovenSummary, summaryBit := some 5 },
      { key := "preheatState", translationKey := "preheat_reached", onValues := ["2", "3"],
        uid := some "preheatReached", summaryKey := some ovenSummary, summaryBit := some 6 },
      { key := "waterTankStatus", translationKey := "water_tank", capability := some "steam",
        summaryKey := some ovenSummary, summaryBit := some 2 },
      { key := "lackOfWaterStatus", translationKey := "water_low", capability := some "steam",
        summaryKey := some ovenSummary, summaryBit := some 3 },
      { key := "changeWaterStatus", translationKey := "water_change",
        capability := some "steam", summaryKey := some ovenSummary, summaryBit := some 4 }]
  switches :=
    [{ key := "childLock", translationKey := "child_lock", onCommand := [("childLock", "1")],
       offCommand := [("childLock", "0")], capability := some "child_lock",
       gates := { blocks := [⟨.is "doorStatus" ["1"], "door_open"⟩] } }]
  buttons :=
    [{ key := "resume", translationKey := "resume", command := [("power", "3")] },
      { key := "pause", translationKey := "pause", command := [("power", "6")] },
      { key := "stop", translationKey := "stop", command := [("power", "2")] },
      { key := "standby", translationKey := "standby", command := [("power", "1")] }]

/-! ## 0xDB: washing machine -/

def washerRunState : List (String × String) :=
  [("0", "power_off"), ("1", "standby"), ("2", "running"), ("3", "pause"), ("4", "finished"),
    ("5", "fault")]

def washerPhase : List (String × String) :=
  [("0", "idle"), ("2", "rinse"), ("4", "wash"), ("8", "pre_wash"), ("16", "spin"),
    ("32", "auto_weight"), ("64", "drying")]

def washerFault : List (String × String) :=
  [("0", "none"), ("16", "e10"), ("18", "e12"), ("33", "e21"), ("48", "e30"), ("51", "e33"),
    ("55", "e37")]

def washerProgram : List (String × String) :=
  [("cotton", "0"), ("cotton_eco", "1"), ("quick", "2"), ("mix", "3"), ("synthetic", "4"),
    ("wool", "5"), ("baby", "6"), ("sport", "7"), ("rinse_spin", "8"), ("spin_only", "9"),
    ("drum_clean", "10"), ("steam_wash", "11"), ("wash_dry", "12"), ("dry", "13"),
    ("my_cycle", "14")]

def washerTemperature : List (String × String) :=
  [("tap_cold", "1"), ("20", "2"), ("30", "3"), ("40", "4"), ("60", "5"), ("70", "7"),
    ("90", "8")]

def washerSpin : List (String × String) :=
  [("no_spin", "0"), ("400", "1"), ("600", "2"), ("800", "3"), ("1000", "4"), ("1200", "5"),
    ("1400", "6")]

def washerDry : List (String × String) :=
  [("no_dry", "0"), ("auto", "1"), ("auto_extra", "2"), ("auto_less", "3")]

def washerStates : List StateRule :=
  [⟨"power_off", .or (.is "power" ["0"]) (.is "runState" ["0"])⟩,
    ⟨"fault", .or (.is "runState" ["5"]) (faulted "faultCode" washerFault)⟩,
    ⟨"standby", .is "runState" ["1"]⟩,
    ⟨"running", .is "runState" ["2"]⟩,
    ⟨"pause", .is "runState" ["3"]⟩,
    ⟨"finished", .is "runState" ["4"]⟩]

def washerRunning : Cond := .stateIs ["running", "pause"]

def washerGuard : List Block :=
  [⟨.stateIs ["power_off"], "appliance_off"⟩,
    ⟨.stateIs ["fault"], "appliance_fault"⟩,
    ⟨.is "childLock" ["1"], "child_lock"⟩]

def washerPowerExempt : Finset String := {"appliance_off", "appliance_fault", "child_lock"}

def washer : CategorySpec where
  deviceType := "0xDB"
  category := "washer"
  states := washerStates
  guard := washerGuard
  sensors :=
    [{ key := "runState", translationKey := "machine_status", valueMap := some washerRunState },
      { key := "washingStatus", translationKey := "washing_phase", valueMap := some washerPhase,
        gates := { meaningfulWhen := some washerRunning } },
      { key := "faultCode", translationKey := "fault", valueMap := some washerFault },
      { key := "remainTime", translationKey := "remaining_time",
        gates := { meaningfulWhen := some washerRunning } },
      { key := "washTimeFromClean", translationKey := "washes_since_clean" }]
  binarySensors :=
    [{ key := "detergentShortage", translationKey := "detergent_low",
       capability := some "auto_dose_supported" },
      { key := "softenerLiquidShortage", translationKey := "softener_low",
        capability := some "auto_dose_supported" },
      { key := "barrelSelfClean", translationKey := "drum_clean_due" },
      { key := "remoteControl", translationKey := "remote_control" }]
  switches :=
    [{ key := "power", translationKey := "power", onCommand := [("power", "1")],
       offCommand := [("power", "0")], gates := { exempt := washerPowerExempt } },
      { key := "startPause", translationKey := "running", onCommand := [("startPause", "1")],
        offCommand := [("startPause", "0")] },
      { key := "addRinse", translationKey := "extra_rinse", onCommand := [("addRinse", "1")],
        offCommand := [("addRinse", "0")], capability := some "extra_rinse_editable" },
      { key := "addSpeedWash", translationKey := "speed_wash",
        onCommand := [("addSpeedWash", "1")], offCommand := [("addSpeedWash", "0")],
        capability := some "speed_wash_supported" },
      { key := "autoDose", translationKey := "auto_dose", onCommand := [("autoDose", "1")],
        offCommand := [("autoDose", "0")], capability := some "auto_dose_supported" }]
  selects :=
    [{ key := "cycle", translationKey := "program", commandKey := "cycle",
       options := washerProgram, capability := some "program_supported" },
      { key := "temp", translationKey := "wash_temperature", commandKey := "temp",
        options := washerTemperature, capability := some "temp_editable" },
      { key := "speed", translationKey := "spin_speed", commandKey := "speed",
        options := washerSpin },
      { key := "dry", translationKey := "dry_level", commandKey := "dry",
        options := washerDry, capability := some "drying_supported" }]
  numbers :=
    [{ key := "orderTime", translationKey := "delay_start", commandKey := "orderTime",
       nativeMin := 0, nativeMax := 1440, step := 30 }]

end Registry

/-- `CATEGORIES`. -/
def categories : List CategorySpec :=
  [Registry.dishwasher, Registry.lamp, Registry.waterHeater, Registry.airConditioner,
    Registry.oven, Registry.washer]

def getCategory (deviceType : String) : Option CategorySpec :=
  categories.find? fun category => category.deviceType = deviceType

/-- The categories are told apart by their device types. -/
theorem getCategory_deviceType {category : CategorySpec} (h : category ∈ categories) :
    getCategory category.deviceType = some category := by
  simp only [categories, List.mem_cons, List.not_mem_nil, or_false] at h
  obtain rfl | rfl | rfl | rfl | rfl | rfl := h <;> rfl

/-- There is one kind of oven, and one kind of dishwasher. -/
theorem eq_of_oven_eq_some {category : CategorySpec} {cfg : OvenConfig}
    (h : category ∈ categories) (hcfg : category.oven = some cfg) :
    cfg = { programs := Registry.ovenPrograms } := by
  simp only [categories, List.mem_cons, List.not_mem_nil, or_false] at h
  obtain rfl | rfl | rfl | rfl | rfl | rfl := h <;> cases hcfg
  rfl

theorem eq_of_dishwasher_eq_some {category : CategorySpec} {cfg : DishwasherConfig}
    (h : category ∈ categories) (hcfg : category.dishwasher = some cfg) :
    cfg = { programs := Registry.dishwasherPrograms, extras := Registry.dishwasherExtras
            zones := Registry.dishwasherZones } := by
  simp only [categories, List.mem_cons, List.not_mem_nil, or_false] at h
  obtain rfl | rfl | rfl | rfl | rfl | rfl := h <;> cases hcfg
  rfl

/-- `_gating_tokens`: every capability some descriptor is gated on. -/
def gatingTokens : Finset String :=
  (categories.flatMap fun category =>
    category.sensors.filterMap SensorSpec.capability ++
      category.binarySensors.filterMap BinarySensorSpec.capability ++
      category.switches.filterMap SwitchSpec.capability ++
      category.selects.filterMap SelectSpec.capability ++
      category.selects.filterMap SelectSpec.optionsFromCapability ++
      category.numbers.filterMap NumberSpec.capability ++
      category.buttons.filterMap ButtonSpec.capability).toFinset

end Holabrain
