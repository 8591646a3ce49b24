import Holabrain.Cloud.Capability
import Holabrain.Cloud.Errors

/-!
# Capabilities from reported status keys

Every chain ends with a resolver that looks at the keys an appliance reports: its rules raise
flags for some of them, and the keys themselves are published beside.
-/

namespace Holabrain

/-- Raise `flag` when the device reports the listed status keys. -/
structure PresenceRule where
  flag : String
  keys : List String
  requireAll : Bool := false

namespace PresenceRule

/-- `matches`, on the reported keys. -/
def matchesKeys (rule : PresenceRule) (reported : Finset String) : Bool :=
  if rule.requireAll then rule.keys.all fun key => decide (key ∈ reported)
  else rule.keys.any fun key => decide (key ∈ reported)

/-- More keys match no fewer rules. -/
theorem matchesKeys_mono {rule : PresenceRule} {reported more : Finset String}
    (hsubset : reported ⊆ more) (h : rule.matchesKeys reported = true) :
    rule.matchesKeys more = true := by
  rw [matchesKeys] at h ⊢
  split at h
  next hall =>
    rw [if_pos hall, List.all_eq_true]
    rw [List.all_eq_true] at h
    intro key hkey
    exact decide_eq_true (hsubset (of_decide_eq_true (h key hkey)))
  next hany =>
    rw [if_neg hany, List.any_eq_true]
    obtain ⟨key, hkey, hreported⟩ := List.any_eq_true.mp h
    exact ⟨key, hkey, decide_eq_true (hsubset (of_decide_eq_true hreported))⟩

end PresenceRule

/-! ## The tables -/

def lampPresence : List PresenceRule :=
  [{ flag := "color_temp", keys := ["colorTemp", "color_temperature"] },
    { flag := "brightness", keys := ["bright", "brightness"] },
    { flag := "fan_light", keys := ["fan_power", "led_power"] },
    { flag := "fan_speed", keys := ["fan_speed"] },
    { flag := "oscillation", keys := ["oscillating_switch", "en_oscillating_switch"] },
    { flag := "thermostat", keys := ["const_temperature_value", "indoor_temperature"] },
    { flag := "delay_off", keys := ["delay_light_off"] }]

def acPresence : List PresenceRule :=
  [{ flag := "outdoor_temp", keys := ["outTemp", "outdoor_temperature"] },
    { flag := "indoor_humidity", keys := ["indoor_humidity", "humidity"] },
    { flag := "energy_total", keys := ["total_elec"] },
    { flag := "power_meter", keys := ["real_time_power_value", "real_time_power"] },
    { flag := "fresh_air", keys := ["new_wind_machine"] },
    { flag := "prevent_super_cool", keys := ["prevent_super_cool"] }]

def ovenPresence : List PresenceRule :=
  [{ flag := "steam", keys := ["waterTankStatus", "lackOfWaterStatus", "changeWaterStatus"] },
    { flag := "food_probe", keys := ["probeTemp"] },
    { flag := "child_lock", keys := ["childLock"] },
    { flag := "status_summary", keys := ["transportStatusSummary1"] }]

def washerPresence : List PresenceRule :=
  [{ flag := "auto_dose", keys := ["complianceDose", "washingDose"] },
    { flag := "detergent_lack", keys := ["detergentShortage"] },
    { flag := "softener_lack", keys := ["softenerLiquidShortage"] },
    { flag := "drying", keys := ["dry"] },
    { flag := "speed_wash", keys := ["addSpeedWash"] },
    { flag := "remote_control", keys := ["remoteControl"] },
    { flag := "self_clean", keys := ["barrelSelfClean"] },
    { flag := "child_lock", keys := ["funcOption"] }]

def waterHeaterPresence : List PresenceRule :=
  [{ flag := "current_temp", keys := ["cur_temperature"] },
    { flag := "dual_tank", keys := ["bodyNum", "singleOrDouble"] },
    { flag := "high_temp", keys := ["highTemp"] },
    { flag := "smart", keys := ["cloudSmart"] },
    { flag := "eco", keys := ["eco"] },
    { flag := "water_level", keys := ["heat_water_level"] }]

def dishwasherPresence : List PresenceRule :=
  [{ flag := "statistics", keys := ["totalwashTimes", "totalWaterVol", "totalElectricVol"] },
    { flag := "auto_open", keys := ["autoDoorOpen"] },
    { flag := "salt", keys := ["salt", "softWaterGear"] },
    { flag := "rinse_aid", keys := ["brightenAgent", "distributorGear"] }]

/-- The rules of the presence resolver in the chain of a device type. -/
def presenceRules (deviceType : String) : List PresenceRule :=
  match deviceType with
  | "0x13" => lampPresence
  | "0xAC" => acPresence
  | "0xB1" => ovenPresence
  | "0xDB" => washerPresence
  | "0xE2" => waterHeaterPresence
  | "0xE1" => dishwasherPresence
  | _ => []

/-! ## The resolver -/

/-- The status it looks at: what is known, or what the status provider answers. -/
def presenceStatus (provided : Except Exn (Dict String Json)) (ctx : ResolutionContext) :
    Except Exn (Dict String Json) :=
  if ctx.status.isEmpty && decide (ctx.thingCode ≠ "") then provided else .ok ctx.status

/-- What it publishes of a status. -/
def presenceProfile (rules : List PresenceRule) (ctx : ResolutionContext)
    (status : Dict String Json) : CapabilityProfile where
  model := ctx.model
  features := ((rules.filter fun rule =>
    rule.matchesKeys status.keys.toFinset).map PresenceRule.flag).toFinset
  deviceType := ctx.deviceType
  presentFields := status.keys.toFinset
  sources := [Resolver.presence.name]

/-- `async_resolve` of `StatusPresenceResolver`. -/
def presenceResolve (rules : List PresenceRule) (provided : Except Exn (Dict String Json))
    (ctx : ResolutionContext) : Except Exn (Option CapabilityProfile) :=
  (presenceStatus provided ctx).map fun status =>
    if status.isEmpty then none else some (presenceProfile rules ctx status)

/-- The keys it sees, none where the provider fails. -/
def seenKeys (provided : Except Exn (Dict String Json)) (ctx : ResolutionContext) :
    Finset String :=
  match presenceStatus provided ctx with
  | .ok status => status.keys.toFinset
  | .error _ => ∅

end Holabrain
