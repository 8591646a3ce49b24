import Holabrain.Coordinator.Inventory

/-!
# Updates

A scheduled update either skips polling and returns what is there, or asks for the status
of one appliance after the other and publishes what it gathered when the last answer is in.
The consumption figures are fetched by a task of their own that an update or a push frame
schedules.
-/

namespace Holabrain

namespace Coordinator

def pollFailureGrace : ℕ := 2

def tokenExtendMarginSeconds : ℚ := 3600

/-! ## Consumption -/

/-- `consumption`. -/
def consumptionOf (w : World) (thingCode : String) (period : Period) :
    Option Statistics.Report :=
  w.consumption.get? (thingCode, period)

/-- `_async_fetch_consumption_once`. -/
def fetchConsumptionOnce (w : World) : World :=
  if w.consumptionPending then
    (({ w with consumptionPending := false } : World).schedule .fetchConsumption).note .fetchStarted
  else w

def storeReport (thingCode : String) (period : Period) (report : Statistics.Report)
    (w : World) : World :=
  { w with consumption := w.consumption.setItem (thingCode, period) report }.note
    (.reported thingCode period report)

/-- The reports of one fetch, in the order they are asked for: the first that fails ends
it. -/
def fetchReports : List (String × Period) → CoordM Unit
  | [] => return ()
  | (thingCode, period) :: rest => do
      let answer ← Coro.attempt (Client.asyncReport thingCode period)
      match answer with
      | .error _ => return ()
      | .ok report =>
          Coro.modify (storeReport thingCode period report)
          fetchReports rest

/-- The devices of the inventory that meter consumption. -/
def meteredDevices (w : World) : List String :=
  (w.devices.items.filter fun entry => match getCategory entry.2.deviceType with
    | some category => decide (category.category ∈ Registry.meteredCategories)
    | none => false).map Prod.fst

def reportPeriods : List Period := [.month, .year]

/-- `async_fetch_consumption`. -/
def asyncFetchConsumption : CoordM Unit := do
  let catalog ← Coro.gets World.catalog
  if catalog.types.isEmpty then
    let answer ← Coro.attempt Client.asyncTree
    match answer with
    | .error _ => pure ()
    | .ok catalog => Coro.modify fun w =>
        reportUnsupported { w with catalog := catalog, unsupported := [] }
  let w ← Coro.gets id
  fetchReports ((meteredDevices w).flatMap fun thingCode =>
    reportPeriods.map fun period => (thingCode, period))

/-- What the fetch writes, each at once after the answer it needs. -/
inductive FetchWrite : World → World → Prop
  | catalogued (catalog : DeviceCatalog) (w : World) :
      FetchWrite w (reportUnsupported { w with catalog := catalog, unsupported := [] })
  | stored (thingCode : String) (period : Period) (report : Statistics.Report) (w : World) :
      FetchWrite w (storeReport thingCode period report w)

/-! ## The poll -/

/-- `remaining is None or remaining > TOKEN_EXTEND_MARGIN_SECONDS`. -/
def tokenLastsLongEnough : Option Double → Bool
  | none => true
  | some (.finite remaining) => decide (tokenExtendMarginSeconds < remaining)
  | some (.infinite negative) => !negative
  | some .nan => false

/-- `_async_maybe_extend_token`. -/
def asyncMaybeExtendToken (explicit : Bool) : CoordM Unit := do
  let w ← Coro.gets id
  if ¬ (explicit ∨ w.mode = .exclusive) then return ()
  else if tokenLastsLongEnough w.tokenSecondsRemaining then return ()
  else do
    Coro.modify fun w => w.note .extendSent
    let answer ← Coro.attempt Client.extendToken
    match answer with
    | .ok _ => return ()
    | .error (.dollin _) => return ()
    | .error exn => throw exn

/-- One status request. -/
def queryState (thingCode : String) : CoordM (Except Exn DeviceState) := do
  Coro.modify fun w => w.note (.querySent thingCode)
  let answer ← Coro.attempt (Client.asyncGetState thingCode)
  Coro.modify fun w => w.note (.querySettled thingCode answer.toOption)
  return answer

/-- The loop of `_async_update_data`: the states gathered and the errors counted.  An error
that stops the loop counts every appliance of the inventory as failed. -/
def pollLoop : List String → Dict String DeviceState → ℕ → CoordM (Dict String DeviceState × ℕ)
  | [], states, errors => return (states, errors)
  | thingCode :: rest, states, errors => do
      let answer ← queryState thingCode
      match answer with
      | .ok state => pollLoop rest (states.setItem thingCode state) errors
      | .error (.dollin err) =>
          if err.isSessionTakeover ∨ err.isTokenExpired then do
            let w ← Coro.gets id
            return (states, w.devices.keys.length)
          else if err.isAuthError then throw (.configEntryAuthFailed err.message)
          else if err.isRateLimit then do
            let w ← Coro.gets id
            return (states, w.devices.keys.length)
          else pollLoop rest states (errors + 1)
      | .error exn => throw exn

/-- `UpdateFailed`, with the number of failed cycles. -/
def updateFailed (cycles : ℕ) : Exn :=
  .updateFailed ("the cloud could not be reached for any appliance (" ++ toString cycles ++
    " cycle(s) in a row)")

/-- What follows the loop. -/
def finishPoll (states : Dict String DeviceState) (errors : ℕ) :
    CoordM (Dict String DeviceState) := do
  let w ← Coro.gets id
  if errors ≠ 0 ∧ w.devices.keys.length ≤ errors then do
    Coro.modify fun w => { w with failedPolls := w.failedPolls + 1 }
    if pollFailureGrace < w.failedPolls + 1 ∨ states.isEmpty then
      throw (updateFailed (w.failedPolls + 1))
    else do
      Coro.modify (absorbStatusFields states.items)
      return states
  else do
    Coro.modify fun w => fetchConsumptionOnce { w with failedPolls := 0 }
    Coro.modify (absorbStatusFields states.items)
    return states

/-- The states a poll starts from: those published, less the appliances that left. -/
def pollStart (w : World) : Dict String DeviceState :=
  w.states.filterKeys fun code => decide (code ∈ w.devices)

/-- The polled path of `_async_update_data`. -/
def pollDevices (explicit : Bool) : CoordM (Dict String DeviceState) := do
  asyncMaybeExtendToken explicit
  let w ← Coro.gets id
  Coro.modify fun w => w.note (.pollStarted w.devices.keys (pollStart w))
  let (states, errors) ← pollLoop w.devices.keys (pollStart w) 0
  finishPoll states errors

/-- What every update resets before it decides anything. -/
def beginUpdate (w : World) : World :=
  { w with
    explicitRefresh := false
    consumption := Dict.empty
    catalog := {}
    consumptionPending := true }

/-- Whether a scheduled update returns what is there. -/
def skipsPoll (w : World) : Bool :=
  (!w.states.isEmpty && decide (w.mode = .cooperative)) || (w.pushIsHealthy && !w.snapshotDue)

/-- A scheduled update returns what is there. -/
def Skips (w : World) : Prop := w.explicitRefresh = false ∧ skipsPoll w = true

/-- `_async_update_data`. -/
def asyncUpdateData : CoordM (Dict String DeviceState) := do
  let explicit ← Coro.gets World.explicitRefresh
  Coro.modify beginUpdate
  let w ← Coro.gets id
  if !explicit && skipsPoll w then return w.states
  else do
    Coro.modify fun w => { w with snapshotDue := false }
    pollDevices explicit

/-- One refresh of Home Assistant's coordinator: what the update returns is published. -/
def asyncRefresh : CoordM Unit := do
  let answer ← Coro.attempt asyncUpdateData
  match answer with
  | .ok states => Coro.modify fun w => w.setData states
  | .error _ => return ()

/-! ## User actions -/

/-- `async_refresh_now`, up to the refresh it requests. -/
def askRefresh (w : World) : World := { w with explicitRefresh := true }.schedule .requestRefresh

/-- `async_set_mode`, up to the refresh it asks for. -/
def setMode (mode : Mode) (w : World) : World :=
  if w.mode = mode then w
  else match mode with
    | .exclusive => askRefresh { w with mode := mode }
    | .cooperative => { w with mode := mode }

end Coordinator

end Holabrain
