import Holabrain.Core.Interference
import Holabrain.Cloud.Auth
import Holabrain.Cloud.Capability
import Holabrain.Cloud.Catalog
import Holabrain.Cloud.Device
import Holabrain.Cloud.Statistics
import Holabrain.Registry.Tables

/-!
# The coordinator's world

`World` is what the coordinator owns and what it reads and writes of Home Assistant: the
device registry, the repair issues, the scheduled tasks and the published data.  Its methods
are coroutines that suspend at every request to the account and at every operation of the
capability store.

As with the authentication manager, `log` is a history that no method reads.
-/

namespace Holabrain

inductive Mode
  | cooperative
  | exclusive
  deriving DecidableEq

inductive Period
  | day
  | month
  | year
  deriving DecidableEq

def Period.name : Period → String
  | day => "day"
  | month => "month"
  | year => "year"

/-- A device registry entry: its identifier under the integration's domain, and the config
entries it belongs to. -/
structure RegistryDevice where
  identifier : String
  entries : List String
  deriving DecidableEq

/-- A repair issue with its two placeholders. -/
structure Issue where
  deviceType : String
  models : String
  deriving DecidableEq

/-- What the coordinator schedules on the event loop. -/
inductive Task
  | fetchConsumption
  | requestRefresh
  deriving DecidableEq

/-- The entries of the history. -/
inductive Event
  /-- A poll of the listed appliances has copied the published data. -/
  | pollStarted (listed : List String) (states : Dict String DeviceState)
  /-- The status of an appliance is asked for. -/
  | querySent (thingCode : String)
  /-- That request has been answered, or has failed. -/
  | querySettled (thingCode : String) (answer : Option DeviceState)
  | extendSent
  | fetchStarted
  | reported (thingCode : String) (period : Period) (report : Statistics.Report)
  /-- A frame or an optimistic patch has been folded into the published data. -/
  | folded (thingCode : String) (payload : Members)
  deriving DecidableEq

/-- What is fixed for one config entry. -/
structure Wiring where
  entryId : String
  region : String
  /-- `pseudonym`, for the messages that quote an appliance. -/
  pseudonym : String → String
  /-- `_jwt_expiry` of a non-empty token, where it returns. -/
  jwtExpiry : String → Option Double

structure World where
  wiring : Wiring
  devices : Dict String Device := Dict.empty
  capabilities : Dict String CapabilityProfile := Dict.empty
  drafts : Dict String (Dict String String) := Dict.empty
  data : Option (Dict String DeviceState) := none
  mode : Mode := .cooperative
  /-- The topics of the push connection, while there is one. -/
  mqtt : Option (List String) := none
  lastPush : Option ℚ := none
  setupDone : Bool := false
  failedPolls : ℕ := 0
  unsupported : List String := []
  snapshotDue : Bool := false
  explicitRefresh : Bool := false
  consumption : Dict (String × Period) Statistics.Report := Dict.empty
  catalog : DeviceCatalog := {}
  consumptionPending : Bool := true
  /-- `DeviceApi._protocols`. -/
  protocols : Dict String ℤ := Dict.empty
  registry : List RegistryDevice := []
  issues : Dict String Issue := Dict.empty
  tasks : List Task := []
  /-- A delayed save of the profiles is pending. -/
  saveScheduled : Bool := false
  /-- How often a reload of the entry was scheduled. -/
  reloads : ℕ := 0
  now : ℚ
  auth : AuthState
  log : List Event := []

/-- What the coordinator suspends for. -/
inductive ClientOp
  /-- One authenticated call. -/
  | call (scheme : Scheme) (path : String) (payload : Json)
  | extendToken
  /-- One resolver of a capability chain. -/
  | resolve (resolver : Resolver) (ctx : ResolutionContext)
  /-- The cached profiles, read back from the store. -/
  | loadCache
  | saveCache (profiles : Dict String CapabilityProfile)
  /-- Certificate files, TLS context and connection of the push channel. -/
  | connectPush (certificate : Members)

abbrev ClientAnswer : ClientOp → Type
  | .call .. => Except Exn Members
  | .extendToken => Except Exn (Option String)
  | .resolve .. => Except Exn (Option CapabilityProfile)
  | .loadCache => Except Exn (Dict String CapabilityProfile)
  | .saveCache _ => Except Exn Unit
  | .connectPush _ => Except Exn Unit

abbrev CoordM := Coro World ClientOp ClientAnswer Exn

/-- A call of the coordinator's own, as opposed to one of a resolver or the store. -/
def ClientOp.isCall : ClientOp → Bool
  | .call .. => true
  | .extendToken => true
  | _ => false

/-- What an answer raises. -/
def ClientAnswer.raised : (op : ClientOp) → ClientAnswer op → Option Exn
  | .call .., .error exn => some exn
  | .extendToken, .error exn => some exn
  | .resolve .., .error exn => some exn
  | .loadCache, .error exn => some exn
  | .saveCache _, .error exn => some exn
  | .connectPush _, .error exn => some exn
  | _, _ => none

namespace World

/-- A coordinator before its setup, which the concrete runs start from. -/
def fresh : World where
  wiring := { entryId := "entry", region := "EU", pseudonym := id, jwtExpiry := fun _ => none }
  now := 0
  auth :=
    { config :=
        { account := "user", password := "secret", country := "RU", region := "eu",
          encryptPassword := id, redactPath := id }
      clock := 0 }

@[simps]
def note (w : World) (event : Event) : World := { w with log := w.log ++ [event] }

@[simps]
def setData (w : World) (data : Dict String DeviceState) : World := { w with data := some data }

@[simps]
def setDevices (w : World) (devices : Dict String Device) : World :=
  { w with devices := devices }

@[simps]
def schedule (w : World) (task : Task) : World := { w with tasks := w.tasks ++ [task] }

/-- `self.data or {}`. -/
def states (w : World) : Dict String DeviceState := w.data.getD Dict.empty

/-- `profile_key`. -/
def profileKey (device : Device) : String :=
  if device.model = "" then device.thingCode else device.model

/-- `capability_for`. -/
def capabilityFor (w : World) (thingCode : String) : Option CapabilityProfile :=
  (w.devices.get? thingCode).bind fun device => w.capabilities.get? (profileKey device)

/-- `draft`, without the empty entry it leaves behind. -/
def draft (w : World) (thingCode : String) : Dict String String :=
  (w.drafts.get? thingCode).getD Dict.empty

def pushSilenceLimit : ℚ := 20 * 60

/-- `_push_is_healthy`. -/
def pushIsHealthy (w : World) : Bool :=
  match w.mqtt, w.lastPush with
  | some _, some lastPush =>
      !w.states.isEmpty && decide (w.now - lastPush < pushSilenceLimit)
  | _, _ => false

/-- `token_seconds_remaining`. -/
def tokenSecondsRemaining (w : World) : Option Double :=
  match w.auth.token with
  | none => none
  | some token => if token = "" then none else
      (w.wiring.jwtExpiry token).map fun expiry => match expiry with
        | .finite exp => .finite (exp - w.now)
        | expiry => expiry

end World

/-- What was written into the history since `w`. -/
def Coordinator.since (w w' : World) : List Event := w'.log.drop w.log.length

/-! ## The client -/

namespace Client

def call (scheme : Scheme) (path : String) (payload : Json) : CoordM Members := do
  let answer ← (Coro.perform (ClientOp.call scheme path payload) : CoordM (Except Exn Members))
  Coro.ofExcept answer

def extendToken : CoordM (Option String) := do
  let answer ← (Coro.perform ClientOp.extendToken : CoordM (Except Exn (Option String)))
  Coro.ofExcept answer

def resolve (resolver : Resolver) (ctx : ResolutionContext) :
    CoordM (Option CapabilityProfile) := do
  let answer ← (Coro.perform (ClientOp.resolve resolver ctx) :
    CoordM (Except Exn (Option CapabilityProfile)))
  Coro.ofExcept answer

def loadCache : CoordM (Dict String CapabilityProfile) := do
  let answer ← (Coro.perform ClientOp.loadCache :
    CoordM (Except Exn (Dict String CapabilityProfile)))
  Coro.ofExcept answer

def saveCache (profiles : Dict String CapabilityProfile) : CoordM Unit := do
  let answer ← (Coro.perform (ClientOp.saveCache profiles) : CoordM (Except Exn Unit))
  Coro.ofExcept answer

def connectPush (certificate : Members) : CoordM Unit := do
  let answer ← (Coro.perform (ClientOp.connectPush certificate) : CoordM (Except Exn Unit))
  Coro.ofExcept answer

section Specs

variable {env : Environment World ClientOp ClientAnswer} {rely guar : World → World → Prop}
  {w w₀ : World}

@[simp]
theorem wp_call {scheme : Scheme} {path : String} {payload : Json}
    {post : Except Exn Members → World → Prop} :
    Coro.wp env (call scheme path payload) post w ↔
      ∀ answer w', env w (.call scheme path payload) answer w' → post answer w' := Iff.rfl

@[simp]
theorem wp_extendToken {post : Except Exn (Option String) → World → Prop} :
    Coro.wp env extendToken post w ↔
      ∀ answer w', env w .extendToken answer w' → post answer w' := Iff.rfl

@[simp]
theorem wp_resolve {resolver : Resolver} {ctx : ResolutionContext}
    {post : Except Exn (Option CapabilityProfile) → World → Prop} :
    Coro.wp env (resolve resolver ctx) post w ↔
      ∀ answer w', env w (.resolve resolver ctx) answer w' → post answer w' := Iff.rfl

@[simp]
theorem wp_loadCache {post : Except Exn (Dict String CapabilityProfile) → World → Prop} :
    Coro.wp env loadCache post w ↔
      ∀ answer w', env w .loadCache answer w' → post answer w' := Iff.rfl

@[simp]
theorem wp_saveCache {profiles : Dict String CapabilityProfile}
    {post : Except Exn Unit → World → Prop} :
    Coro.wp env (saveCache profiles) post w ↔
      ∀ answer w', env w (.saveCache profiles) answer w' → post answer w' := Iff.rfl

@[simp]
theorem under_call {scheme : Scheme} {path : String} {payload : Json}
    {post : Except Exn Members → World → World → Prop} :
    Coro.under env rely guar (call scheme path payload) post w₀ w ↔
      guar w₀ w ∧ ∀ u, rely w u → ∀ answer w', env u (.call scheme path payload) answer w' →
        post answer u w' := Iff.rfl

end Specs

def epCertCreate : String := "/v1/certificate/create/app/cert"

def epApplianceQuery (thingCode : String) : String :=
  "/midea/open/business/v1/appliance/query/" ++ thingCode

def epApplianceQueryAlt (thingCode : String) : String :=
  "/v1/appliance/deviceCommands/query/" ++ thingCode

def epDeviceCommand (thingCode : String) : String :=
  "/midea/open/business/v1/device/command/" ++ thingCode

def epDeviceCommandAlt (thingCode : String) : String :=
  "/v1/appliance/deviceCommands/requestNoReply/" ++ thingCode

def epDeviceTypeTree : String := "/v1/product/category/devicetype/tree"

def statisticsPath (period : Period) : String := "/v1/statistics/data/report/" ++ period.name

def thingProtocolDirect : ℤ := 1

/-- `{d.thing_code: d for d in devices}`. -/
def byThingCode (devices : List Device) : Dict String Device :=
  Dict.ofList (devices.map fun device => (device.thingCode, device))

/-- The records of an inventory that are objects, read one after the other. -/
def readInventory (items : List Json) : Except Exn (List Device) :=
  (items.filterMap Json.asObj).mapM Device.fromDict

/-- `DeviceApi.async_list`. -/
def asyncList : CoordM (List Device) := do
  let data ← call .oem Auth.epHomeIndex .null
  match data.get "data" with
  | .arr items =>
      let devices ← Coro.ofExcept (readInventory items)
      Coro.modify fun w => { w with
        protocols := Dict.ofList (devices.map fun device =>
          (device.thingCode, device.thingProtocol)) }
      return devices
  | _ => return []

/-- `_is_direct`. -/
def isDirect (w : World) (thingCode : String) : Bool :=
  (w.protocols.get? thingCode).getD thingProtocolDirect = thingProtocolDirect

/-- The status body of an answer. -/
def readState (wiring : Wiring) (thingCode : String) (data : Members) : Except Exn DeviceState :=
  match data.get "data" with
  | .obj body => .ok (DeviceState.fromQuery thingCode body)
  | _ => .error (.dollin (.apiError
      ("query for " ++ wiring.pseudonym thingCode ++ " returned no status body") none))

/-- The request for the status of one appliance, in the dialect it speaks. -/
def queryCall (thingCode : String) (direct : Bool) : CoordM Members :=
  let payload : Json := .obj [("query", .str "1")]
  if direct then call .tob (epApplianceQuery thingCode) payload
  else call .oem (epApplianceQueryAlt thingCode) payload

/-- `DeviceApi.async_get_state`. -/
def asyncGetState (thingCode : String) : CoordM DeviceState := do
  let w ← Coro.gets id
  let data ← queryCall thingCode (isDirect w thingCode)
  Coro.ofExcept (readState w.wiring thingCode data)

/-- `DeviceApi.async_send_instruction`. -/
def asyncSendInstruction (thingCode : String) (instruction : Members) : CoordM Unit := do
  let w ← Coro.gets id
  let payload : Json := .obj [("instruction", .obj instruction)]
  let _ ← if isDirect w thingCode then call .tob (epDeviceCommand thingCode) payload
    else call .oem (epDeviceCommandAlt thingCode) payload

/-- A status request awaits once. -/
theorem wp_asyncGetState {env : Environment World ClientOp ClientAnswer}
    (reaches : World → World → Prop)
    (henv : ∀ w op answer w', env w op answer w' → reaches w w') {thingCode : String} {w : World}
    {post : Except Exn DeviceState → World → Prop}
    (h : ∀ result w', reaches w w' → post result w') :
    Coro.wp env (asyncGetState thingCode) post w := by
  have hcall : Coro.wp env (queryCall thingCode (isDirect w thingCode))
      (fun _ w' => reaches w w') w := by
    simp only [queryCall, Coro.wp_ite, wp_call]
    split <;> exact fun answer w' hanswer => henv _ _ _ _ hanswer
  simp only [asyncGetState, Coro.wp_bind, Coro.wp_gets, Coro.wp_ofExcept]
  apply Coro.wp_mono _ hcall
  intro result w' hw'
  cases result with
  | error exn => exact h _ _ hw'
  | ok data => exact h _ _ hw'

/-- `CatalogApi.async_tree`. -/
def asyncTree : CoordM DeviceCatalog := do
  let response ← call .oem epDeviceTypeTree (.obj [])
  return DeviceCatalog.fromTree (response.get "data")

/-- `StatisticsApi.async_report`. -/
def asyncReport (thingCode : String) (period : Period) : CoordM Statistics.Report := do
  let response ← call .oem (statisticsPath period) (.obj [("thingCode", .str thingCode)])
  Coro.ofExcept (Statistics.fromDict period.name (response.get "data"))

/-- `CertificateApi.async_create`, up to the record it returns. -/
def asyncCreateCertificate : CoordM Members := do
  let data ← call .oem epCertCreate (.obj [])
  match data.get "data" with
  | .obj body =>
      if "privateKey" ∈ body.map Prod.fst then return body
      else throw (.dollin (.apiError "certificate endpoint returned no certificate material" none))
  | _ => throw (.dollin (.apiError "certificate endpoint returned no certificate material" none))

def mqttChannels : List String := ["dev", "will", "hbt"]

/-- `push_topics`. -/
def pushTopics (region thingCode : String) : List String :=
  mqttChannels.map fun channel => region ++ "/" ++ region ++ "_" ++ thingCode ++ "/" ++ channel

/-- The answers of a concrete run: calls by their path, resolvers, and what happens while the
`n`-th answer is awaited. -/
def scripted (calls : String → Except Exn Members)
    (resolvers : Resolver → ResolutionContext → Except Exn (Option CapabilityProfile))
    (meanwhile : ℕ → World → World) : ℕ → World → (op : ClientOp) → ClientAnswer op × World
  | n, w, .call _ path _ => (calls path, meanwhile n w)
  | n, w, .extendToken => (.ok none, meanwhile n w)
  | n, w, .resolve resolver ctx => (resolvers resolver ctx, meanwhile n w)
  | n, w, .loadCache => (.ok Dict.empty, meanwhile n w)
  | n, w, .saveCache _ => (.ok (), meanwhile n w)
  | n, w, .connectPush _ => (.ok (), meanwhile n w)

end Client

end Holabrain
