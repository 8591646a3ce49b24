import Mathlib.Data.List.Sort
import Holabrain.Coordinator.Coverage
import Holabrain.Entity.Dishwasher
import Holabrain.Registry.ReferencedKeys

/-!
# Which entities exist

A platform builds its entities once for every appliance: at every notification its builders go
through the inventory, skip the appliances of the notifications before, and hand what they make
to Home Assistant.  An appliance is skipped from then on, also if its state was not known yet,
and also if it has left in the meantime.
-/

namespace Holabrain

namespace Coordinator

/-- The platforms with entities of appliances. -/
inductive EntityPlatform
  | sensor
  | binarySensor
  | switch
  | select
  | number
  | button
  | light
  | climate
  | waterHeater
  deriving DecidableEq

/-- An entity, by the two parts of its unique id. -/
structure EntityRef where
  thingCode : String
  uid : String
  deriving DecidableEq

/-! ## The builders

Every builder is a loop over the inventory that skips what was seen; what it makes of one
appliance are the ends of the unique ids. -/

/-- What a builder makes of one appliance. -/
abbrev Uids := World → String → Device → List String

/-- The loop of a builder. -/
def forUnseen (uids : Uids) (seen : Finset String) (w : World) : List EntityRef :=
  w.devices.items.flatMap fun (thingCode, device) =>
    if thingCode ∈ seen then [] else (uids w thingCode device).map (EntityRef.mk thingCode)

/-- A descriptor as `build_entities` reads it. -/
structure Descriptor where
  uid : String
  capability : Option String

/-- `_is_gated_out`. -/
def isGatedOut (w : World) (thingCode : String) (descriptor : Descriptor) : Bool :=
  descriptor.capability.any fun feature => !supports w thingCode feature

/-- `iter_specs` with the entities made of the descriptors. -/
def specUids (specs : CategorySpec → List Descriptor) : Uids := fun w thingCode device =>
  match getCategory device.deviceType with
  | none => []
  | some category =>
      ((specs category).filter fun descriptor => !isGatedOut w thingCode descriptor).map
        Descriptor.uid

def sensorDescriptors (category : CategorySpec) : List Descriptor :=
  category.sensors.map fun spec => ⟨spec.key, spec.capability⟩

/-- Binary sensors that read one key have a `uid` of their own. -/
def binarySensorDescriptors (category : CategorySpec) : List Descriptor :=
  category.binarySensors.map fun spec =>
    ⟨(spec.uid.filter (· ≠ "")).getD spec.key, spec.capability⟩

def switchDescriptors (category : CategorySpec) : List Descriptor :=
  category.switches.map fun spec => ⟨spec.key, spec.capability⟩

def selectDescriptors (category : CategorySpec) : List Descriptor :=
  category.selects.map fun spec => ⟨spec.key, spec.capability⟩

def numberDescriptors (category : CategorySpec) : List Descriptor :=
  category.numbers.map fun spec => ⟨spec.key, spec.capability⟩

def buttonDescriptors (category : CategorySpec) : List Descriptor :=
  category.buttons.map fun spec => ⟨spec.key, spec.capability⟩

/-- `build_consumption_entities`. -/
def consumptionUids : Uids := fun _ _ device =>
  match getCategory device.deviceType with
  | none => []
  | some category =>
      if category.category ∈ Registry.meteredCategories then
        reportPeriods.flatMap fun period => ["energy_" ++ period.name, "water_" ++ period.name]
      else []

/-- `_ENVELOPE`. -/
def envelope : List String :=
  ["messageNo", "clientId", "timeStamp", "online", "deviceType", "thingCode", "_cache"]

def maxGenericSensors : ℕ := 120

/-- `_HIDDEN_LIFETIME_COUNTERS`. -/
def hiddenLifetimeCounters : List String :=
  ["totalEnergy", "totalWater", "totalwashTimes", "totalWaterVol", "totalElectricVol"]

/-- `generic_status_keys`. -/
def genericStatusKeys (stateKeys : List String) : List String :=
  ((stateKeys.filter (· ∉ envelope)).insertionSort (· ≤ ·)).take maxGenericSensors

/-- `build_generic_entities`. -/
def genericUids : Uids := fun w thingCode device =>
  match getCategory device.deviceType, w.states.get? thingCode with
  | none, some state => genericStatusKeys state.attributes.keys
  | _, _ => []

/-- `build_unmapped_entities`. -/
def unmappedUids : Uids := fun w thingCode device =>
  match getCategory device.deviceType, w.states.get? thingCode with
  | some category, some state =>
      (genericStatusKeys state.attributes.keys).filter fun key =>
        decide (key ∉ category.referencedKeys) && decide (key ∉ hiddenLifetimeCounters)
  | _, _ => []

/-- `build_oven_entities`, with what it makes of an oven on one platform. -/
def ovenUids (made : World → String → List String) : Uids := fun w thingCode device =>
  match (getCategory device.deviceType).bind CategorySpec.oven with
  | none => []
  | some _ => made w thingCode

def capPreheat : String := "preheat"

def capFoodProbe : String := "food_probe"

/-- `build_dishwasher_entities`, with what it makes of a dishwasher on one platform. -/
def dishwasherUids (made : DishwasherConfig → World → String → List String) : Uids :=
  fun w thingCode device =>
    match (getCategory device.deviceType).bind CategorySpec.dishwasher with
    | none => []
    | some cfg => made cfg w thingCode

/-- `iter_native` with the one entity made of a category that defines the platform. -/
def nativeUids (platform : Platform) (defines : CategorySpec → Bool) (uid : String) : Uids :=
  fun _ _ device =>
    match getCategory device.deviceType with
    | none => []
    | some category =>
        if category.primaryPlatform = some platform ∧ defines category then [uid] else []

/-- The builders of a platform, in the order their results are put together. -/
def builders : EntityPlatform → List Uids
  | .sensor => [specUids sensorDescriptors, consumptionUids, genericUids, unmappedUids]
  | .binarySensor => [specUids binarySensorDescriptors]
  | .switch =>
      [specUids switchDescriptors,
        ovenUids fun w thingCode =>
          if supports w thingCode capPreheat then ["oven_preheat"] else []]
  | .select =>
      [specUids selectDescriptors, ovenUids fun _ _ => ["oven_mode"],
        dishwasherUids fun cfg w thingCode =>
          "program_select" ::
            (if (cfg.availableExtras thingCode w).isEmpty then [] else ["extra_option"]) ++
            (if supports w thingCode cfg.zoneCapability then ["wash_zone"] else [])]
  | .number =>
      [specUids numberDescriptors,
        ovenUids fun w thingCode =>
          ["oven_temperature", "oven_duration"] ++
            (if supports w thingCode capFoodProbe then ["oven_probe"] else [])]
  | .button =>
      [specUids buttonDescriptors, ovenUids fun _ _ => ["oven_start"],
        dishwasherUids fun _ _ _ => ["start_cycle"]]
  | .light => [nativeUids .light (fun category => category.light.isSome) "light"]
  | .climate => [nativeUids .climate (fun category => category.climate.isSome) "climate"]
  | .waterHeater =>
      [nativeUids .waterHeater (fun category => category.waterHeater.isSome) "water_heater"]

/-- `builder`, as the platforms pass it. -/
def build (platform : EntityPlatform) (seen : Finset String) (w : World) : List EntityRef :=
  (builders platform).flatMap fun uids => forUnseen uids seen w

/-- What the category, the profile and the reported keys of an appliance call for. -/
def calledFor (platform : EntityPlatform) (w : World) (thingCode : String) : List EntityRef :=
  match w.devices.get? thingCode with
  | none => []
  | some device => (builders platform).flatMap fun uids =>
      (uids w thingCode device).map (EntityRef.mk thingCode)

/-! ## Notifications -/

/-- One platform of a loaded entry.  `built` is a history: for which appliances the builder has
run with a state there, and in which world, less the appliances that have left since. -/
structure Discovery where
  world : World
  seen : Finset String := ∅
  handed : List EntityRef := []
  built : List (String × World) := []

namespace Discovery

/-- The appliances that the builder does not skip and that have a state. -/
def readied (d : Discovery) : List String :=
  d.world.devices.keys.filter fun code =>
    decide (code ∉ d.seen) && decide (code ∈ d.world.states)

/-- `_sync`, the listener of the platform. -/
def sync (platform : EntityPlatform) (d : Discovery) : Discovery where
  world := d.world
  seen := d.seen ∪ d.world.devices.keys.toFinset
  handed := d.handed ++ build platform d.seen d.world
  built := d.built ++ d.readied.map fun code => (code, d.world)

/-- One block of a scan, a poll or a frame: the inventory changes at most once in it. -/
def move (d : Discovery) (w' : World) : Discovery :=
  { d with world := w', built := d.built.filter fun entry => decide (entry.1 ∈ w'.devices) }

/-- The builder has run for the appliance with a state there since it was last added, and what
it calls for is handed over. -/
def Served (platform : EntityPlatform) (d : Discovery) (code : String) : Prop :=
  ∃ w₁, (code, w₁) ∈ d.built ∧ code ∈ w₁.states ∧
    ∀ entity ∈ calledFor platform w₁ code, entity ∈ d.handed

end Discovery

/-- The runs of a platform whose steps are of this kind. -/
inductive DiscoveryRun (platform : EntityPlatform) (step : Discovery → World → Prop) :
    Discovery → Prop
  | setup (w : World) : DiscoveryRun platform step { world := w }
  | notified {d : Discovery} (hrun : DiscoveryRun platform step d) :
      DiscoveryRun platform step (d.sync platform)
  | moved {d : Discovery} {w' : World} (hrun : DiscoveryRun platform step d)
      (hstep : step d w') : DiscoveryRun platform step (d.move w')

/-- An appliance with a state that the platform has already been notified of was there with a
state before. -/
def Timely (d : Discovery) (w' : World) : Prop :=
  ∀ code ∈ w'.devices, code ∈ d.seen → code ∈ w'.states →
    code ∈ d.world.devices ∧ code ∈ d.world.states

/-! ## What is handed over -/

section Built

variable {platform : EntityPlatform} {step : Discovery → World → Prop} {d : Discovery}

/-- A builder makes exactly what the unseen appliances call for. -/
theorem mem_build {seen : Finset String} {w : World} {entity : EntityRef} :
    entity ∈ build platform seen w ↔
      entity.thingCode ∉ seen ∧ entity ∈ calledFor platform w entity.thingCode := by
  have hloop : ∀ uids : Uids, entity ∈ forUnseen uids seen w ↔ entity.thingCode ∉ seen ∧
      ∃ device, w.devices.get? entity.thingCode = some device ∧
        entity.uid ∈ uids w entity.thingCode device := by
    intro uids
    simp only [forUnseen, List.mem_flatMap, Prod.exists, Dict.mem_items]
    constructor
    · intro hmade
      obtain ⟨thingCode, device, hdevice, hentity⟩ := hmade
      split at hentity
      · cases hentity
      next hunseen =>
        obtain ⟨uid, huid, rfl⟩ := List.mem_map.mp hentity
        exact ⟨hunseen, device, hdevice, huid⟩
    · intro hmade
      obtain ⟨hunseen, device, hdevice, huid⟩ := hmade
      refine ⟨_, device, hdevice, ?_⟩
      rw [if_neg hunseen]
      exact List.mem_map_of_mem huid
  simp only [build, List.mem_flatMap, hloop, calledFor]
  cases hdevice : w.devices.get? entity.thingCode with
  | none => simp
  | some device =>
      simp only [List.mem_flatMap, List.mem_map, Option.some.injEq, exists_eq_left']
      constructor
      · intro hmade
        obtain ⟨uids, huids, hunseen, huid⟩ := hmade
        exact ⟨hunseen, uids, huids, _, huid, rfl⟩
      · intro hmade
        obtain ⟨hunseen, uids, huids, uid, huid, hentity⟩ := hmade
        rw [← hentity] at hunseen ⊢
        exact ⟨uids, huids, hunseen, huid⟩

theorem thingCode_of_calledFor {w : World} {thingCode : String} {entity : EntityRef}
    (h : entity ∈ calledFor platform w thingCode) : entity.thingCode = thingCode := by
  rw [calledFor] at h
  split at h
  · cases h
  · obtain ⟨uids, -, hentity⟩ := List.mem_flatMap.mp h
    obtain ⟨uid, -, rfl⟩ := List.mem_map.mp hentity
    rfl

theorem Discovery.mem_readied {code : String} : code ∈ d.readied ↔
    code ∈ d.world.devices ∧ code ∉ d.seen ∧ code ∈ d.world.states := by
  rw [readied, List.mem_filter, Bool.and_eq_true, decide_eq_true_iff, decide_eq_true_iff]
  exact Iff.rfl

/-- What a listed appliance called for when its builder ran is handed over, in every run. -/
theorem DiscoveryRun.handed (hrun : DiscoveryRun platform step d) {code : String} {w₁ : World}
    (hbuilt : (code, w₁) ∈ d.built) :
    code ∈ w₁.states ∧ ∀ entity ∈ calledFor platform w₁ code, entity ∈ d.handed := by
  induction hrun with
  | setup w => cases hbuilt
  | @notified d _ ih =>
      obtain hbefore | hnow := List.mem_append.mp hbuilt
      · obtain ⟨hstate, hhanded⟩ := ih hbefore
        exact ⟨hstate, fun entity hentity => List.mem_append_left _ (hhanded entity hentity)⟩
      · obtain ⟨_, hready, heq⟩ := List.mem_map.mp hnow
        cases heq
        obtain ⟨-, hunseen, hstate⟩ := Discovery.mem_readied.mp hready
        refine ⟨hstate, fun entity hentity => List.mem_append_right _ (mem_build.mpr ?_)⟩
        have hcode := thingCode_of_calledFor hentity
        subst hcode
        exact ⟨hunseen, hentity⟩
  | moved _ _ ih => exact ih (List.mem_of_mem_filter hbuilt)

/-- If every step is timely, the platform has built whatever it was notified of. -/
theorem DiscoveryRun.built (hrun : DiscoveryRun platform Timely d) {code : String}
    (hlisted : code ∈ d.world.devices) (hseen : code ∈ d.seen) (hstate : code ∈ d.world.states) :
    ∃ w₁, (code, w₁) ∈ d.built := by
  induction hrun with
  | setup w => cases hseen
  | @notified d _ ih =>
      by_cases hbefore : code ∈ d.seen
      · obtain ⟨w₁, hbuilt⟩ := ih hlisted hbefore hstate
        exact ⟨w₁, List.mem_append_left _ hbuilt⟩
      · refine ⟨d.world, List.mem_append_right _ ?_⟩
        exact List.mem_map_of_mem (Discovery.mem_readied.mpr ⟨hlisted, hbefore, hstate⟩)
  | moved _ hstep ih =>
      obtain ⟨hthere, hknown⟩ := hstep code hlisted hseen hstate
      obtain ⟨w₁, hbuilt⟩ := ih hthere hseen hknown
      exact ⟨w₁, List.mem_filter.mpr ⟨hbuilt, decide_eq_true hlisted⟩⟩

end Built

/-! ## What is timely -/

/-- Frames, patches and moments are timely: they give no appliance a place or a first state. -/
theorem LiveStep.timely {d : Discovery} {w' : World} (h : LiveStep d.world w') :
    Timely d w' := by
  have hunpolled : Unpolled d.world w' := Live.unpolled (.single h)
  intro code hlisted _ hstate
  rw [hunpolled.devices] at hlisted
  exact ⟨hlisted, (hunpolled.published code).mp hstate⟩

/-- A scan is timely unless it lists an appliance again whose state is still published. -/
theorem timely_of_scan {d : Discovery} {w' : World} {result : Except Exn (ℕ × ℕ)}
    (hexec : Coro.Exec between asyncScanDevices d.world result w') :
    Timely d w' ↔ ∀ code ∈ w'.devices, code ∈ d.seen → code ∈ d.world.states →
      code ∈ d.world.devices := by
  have hscanned := between_of_scan hexec
  constructor
  · intro htimely code hlisted hseen hstate
    exact (htimely code hlisted hseen ((hscanned.published code).mpr hstate)).1
  · intro hthere code hlisted hseen hstate
    have hknown := (hscanned.published code).mp hstate
    exact ⟨hthere code hlisted hseen hknown, hknown⟩

/-! ## Every appliance gets its entities -/

/-- After a notification in a run of timely steps, every appliance of the inventory that has a
state is served. -/
theorem served_of_timely {platform : EntityPlatform} {d : Discovery}
    (hrun : DiscoveryRun platform Timely d) :
    ∀ code ∈ d.world.devices, code ∈ d.world.states → (d.sync platform).Served platform code := by
  intro code hlisted hstate
  have hseen : code ∈ (d.sync platform).seen :=
    Finset.mem_union_right _ (List.mem_toFinset.mpr hlisted)
  obtain ⟨w₁, hbuilt⟩ := hrun.notified.built hlisted hseen hstate
  exact ⟨w₁, hbuilt, hrun.notified.handed hbuilt⟩

/-! ## A fridge that is paired later -/

/-- What the coordinator itself does between two notifications. -/
inductive CoordinatorStep : World → World → Prop
  | live {w w' : World} (h : LiveStep w w') : CoordinatorStep w w'
  | asked (w : World) : CoordinatorStep w (askRefresh w)
  | scanned {w w' : World} {result : Except Exn (ℕ × ℕ)}
      (hexec : Coro.Exec interleaved asyncScanDevices w result w') : CoordinatorStep w w'
  | polled {w w' : World} {states : Dict String DeviceState}
      (hexec : Coro.Exec interleaved asyncUpdateData w (.ok states) w') :
      CoordinatorStep w (w'.setData states)

/-- The account lists an oven and a fridge, and every status request is answered. -/
def pairedFridge : ℕ → World → (op : ClientOp) → ClientAnswer op × World :=
  Client.scripted
    (fun path =>
      if path = Auth.epHomeIndex then
        .ok [("data", .arr [.obj [("thingCode", .str "A"), ("deviceType", .str "0xB1")],
          .obj [("thingCode", .str "F"), ("deviceType", .str "0xCA")]])]
      else if path = Client.epApplianceQuery "A" then
        .ok [("data", .obj [("work_switch", .str "standby")])]
      else .ok [("data", .obj [("fridgeTemp", .str "4")])])
    (fun _ _ => .ok none) fun _ w => w

theorem interleaved_pairedFridge (n : ℕ) (w : World) (op : ClientOp) :
    interleaved w op (pairedFridge n w op).1 (pairedFridge n w op).2 := by
  cases op <;> exact .refl

/-- The oven, with the state of its setup. -/
def ovenAtSetup : World :=
  { World.fresh with
    devices := Dict.ofList [("A", oven "A")]
    data := some stateOfA }

/-- The platform after the setup, and some time. -/
def ovenLater : Discovery :=
  ({ world := ovenAtSetup : Discovery }.sync .sensor).move { ovenAtSetup with now := 60 }

/-- The next notification finds the sensors of the oven there. -/
theorem served_ovenLater : (ovenLater.sync .sensor).Served .sensor "A" := by
  have hrun : DiscoveryRun .sensor Timely ovenLater :=
    (DiscoveryRun.setup ovenAtSetup).notified.moved (LiveStep.timely (.time 60 ovenAtSetup))
  exact served_of_timely hrun "A" (by decide +kernel) (by decide +kernel)

def afterPairing : World := (asyncScanDevices.play pairedFridge 0 ovenAtSetup).2

def askedAgain : World := askRefresh afterPairing

def fridgePolled : World := (asyncUpdateData.play pairedFridge 0 askedAgain).2

def fridgeStates : Dict String DeviceState :=
  Dict.ofList
    [("A", ovenState "A" "standby"),
      ("F", { thingCode := "F", attributes := Dict.ofList [("fridgeTemp", .str "4")] })]

/-- The platform after the setup, the scan that finds the fridge, and its first poll, each with
the notification that follows. -/
def fridgeReported : Discovery :=
  ((((({ world := ovenAtSetup : Discovery }.sync .sensor).move afterPairing).sync .sensor).move
    askedAgain).move (fridgePolled.setData fridgeStates)).sync .sensor

/-- The fridge has a state and calls for a sensor, and gets none. -/
theorem not_served_fridgeReported :
    DiscoveryRun .sensor (fun d => CoordinatorStep d.world) fridgeReported ∧
      "F" ∈ fridgeReported.world.devices ∧ "F" ∈ fridgeReported.world.states ∧
      calledFor .sensor fridgeReported.world "F" = [⟨"F", "fridgeTemp"⟩] ∧
      (∀ entity ∈ fridgeReported.handed, entity.thingCode ≠ "F") ∧
      ¬ fridgeReported.Served .sensor "F" := by
  have hscan : Coro.Exec interleaved asyncScanDevices ovenAtSetup
      (asyncScanDevices.play pairedFridge 0 ovenAtSetup).1 afterPairing :=
    Coro.exec_play _ interleaved_pairedFridge _ 0 _
  have hpoll : Coro.Exec interleaved asyncUpdateData askedAgain (.ok fridgeStates)
      fridgePolled := by
    have hresult : (asyncUpdateData.play pairedFridge 0 askedAgain).1 = .ok fridgeStates := by
      decide +kernel
    rw [← hresult]
    exact Coro.exec_play _ interleaved_pairedFridge _ 0 _
  refine ⟨?_, by decide +kernel, by decide +kernel, by decide +kernel, by decide +kernel, ?_⟩
  · apply DiscoveryRun.notified
    apply DiscoveryRun.moved _ (CoordinatorStep.polled hpoll)
    apply DiscoveryRun.moved _ (CoordinatorStep.asked afterPairing)
    exact (DiscoveryRun.setup ovenAtSetup).notified.moved (.scanned hscan) |>.notified
  · intro hserved
    obtain ⟨w₁, hbuilt, -⟩ := hserved
    have hcodes : fridgeReported.built.map Prod.fst = ["A"] := by decide +kernel
    have hcode : "F" ∈ fridgeReported.built.map Prod.fst := List.mem_map_of_mem hbuilt
    rw [hcodes] at hcode
    exact absurd hcode (by decide)

end Coordinator

end Holabrain
