import Holabrain.Coordinator.Capabilities

/-!
# Setup and scans

The inventory is read once at setup and again when the user asks for a scan.  Both compare
what the account lists with what is there and drop the rest: the setup prunes the device
registry, the scan forgets the appliances that left.
-/

namespace Holabrain

namespace Coordinator

/-! ## Repair issues -/

/-- The categories of the inventory that are not modelled. -/
def unsupportedTypes (w : World) : List String :=
  ((w.devices.values.map Device.deviceType).filter fun deviceType =>
    (getCategory deviceType).isNone && deviceType != "").dedup

/-- `ISSUE_UNSUPPORTED` with the device type it is raised for. -/
def issueId (deviceType : String) : String := "unsupported_category_" ++ deviceType

def issueFor (w : World) (deviceType : String) : Issue where
  deviceType := w.catalog.describe deviceType
  models := String.intercalate ", "
    (((w.devices.values.filter fun device => device.deviceType = deviceType).map fun device =>
      if device.model = "" then "?" else device.model).mergeSort fun a b => decide (a ≤ b))

/-- `_async_report_unsupported`. -/
def reportUnsupported (w : World) : World :=
  let unsupported := unsupportedTypes w
  let created := (unsupported.filter (· ∉ w.unsupported)).foldl
    (fun issues deviceType => issues.setItem (issueId deviceType) (issueFor w deviceType)) w.issues
  let issues := (w.unsupported.filter (· ∉ unsupported)).foldl
    (fun issues deviceType => issues.erase (issueId deviceType)) created
  { w with issues := issues, unsupported := unsupported }

/-! ## The device registry -/

/-- `async_update_device` with `remove_config_entry_id`: an entry that belongs to nothing is
removed. -/
def removeEntry (entryId : String) (device : RegistryDevice) : Option RegistryDevice :=
  let entries := device.entries.filter (· ≠ entryId)
  if entries = [] then none else some { device with entries := entries }

/-- One appliance of `_async_forget_devices`. -/
def forgetDevice (w : World) (thingCode : String) : World :=
  if w.registry.any fun device => device.identifier = thingCode then
    { w with
      registry := w.registry.filterMap fun device =>
        if device.identifier = thingCode then removeEntry w.wiring.entryId device
        else some device
      drafts := w.drafts.erase thingCode }
  else w

/-- `_async_forget_devices`. -/
def forgetDevices (thingCodes : List String) (w : World) : World :=
  thingCodes.foldl forgetDevice w

/-- The registry entries of this config entry that the inventory does not list. -/
def staleDevices (w : World) : List String :=
  ((w.registry.filter fun device => device.entries.contains w.wiring.entryId).map
    RegistryDevice.identifier).filter fun identifier => identifier ∉ w.devices

/-- `_async_prune_registry`. -/
def pruneRegistry (w : World) : World := forgetDevices (staleDevices w) w

/-! ## Push -/

/-- Topics are remembered, each once. -/
def subscribe (topics : List String) (w : World) : World :=
  { w with mqtt := w.mqtt.map fun subscribed =>
      topics.foldl (fun acc topic => if topic ∈ acc then acc else acc ++ [topic]) subscribed }

def subscribeAll (thingCodes : List String) (w : World) : World :=
  thingCodes.foldl (fun w thingCode =>
    subscribe (Client.pushTopics w.wiring.region thingCode) w) w

/-- The certificate and the connection, which `_async_start_push` tries. -/
def openPush : CoordM Unit := do
  let certificate ← Client.asyncCreateCertificate
  Client.connectPush certificate

/-- What `_async_start_push` makes of the outcome. -/
def settlePush : Except Exn Unit → CoordM Unit
  | .ok () => Coro.modify fun w => subscribeAll w.devices.keys { w with mqtt := some [] }
  | .error (.dollin _) => Coro.modify fun w => { w with mqtt := none }
  | .error .osError => Coro.modify fun w => { w with mqtt := none }
  | .error exn => throw exn

/-- `_async_start_push`. -/
def asyncStartPush : CoordM Unit := do
  let answer ← Coro.attempt openPush
  settlePush answer

/-! ## Setup -/

/-- The `except` clauses of `_async_setup`. -/
def setupError (err : DollinError) : Exn :=
  if err.isSessionTakeover then .configEntryNotReady err.message
  else if err.isTokenExpired then .configEntryNotReady err.message
  else if err.isAuthError then .configEntryAuthFailed err.message
  else .configEntryNotReady err.message

/-- `_async_setup`. -/
def asyncSetup : CoordM Unit := do
  let answer ← Coro.attempt Client.asyncList
  match answer with
  | .error (.dollin err) => throw (setupError err)
  | .error exn => throw exn
  | .ok devices =>
      Coro.modify fun w => reportUnsupported (pruneRegistry
        (w.setDevices (Client.byThingCode devices)))
      asyncLoadCapabilities
      asyncStartPush
      Coro.modify fun w => { w with setupDone := true }

/-! ## Scan -/

/-- The codes of one inventory that the other lacks. -/
def missingFrom (devices other : Dict String Device) : List String :=
  devices.keys.filter fun code => code ∉ other

/-- What a scan does once the new appliances have their profiles. -/
def finishScan (added removed : List String) (w : World) : World :=
  let w := if removed ≠ [] then forgetDevices removed w else w
  let w := if added ≠ [] then subscribeAll added w else w
  reportUnsupported w

/-- `async_scan_devices`. -/
def asyncScanDevices : CoordM (ℕ × ℕ) := do
  let listed ← Client.asyncList
  let latest := Client.byThingCode listed
  let devices ← Coro.gets World.devices
  let added := missingFrom latest devices
  let removed := missingFrom devices latest
  Coro.modify fun w => w.setDevices latest
  if added = [] ∧ removed = [] then return (0, 0)
  else do
    if added ≠ [] then asyncLoadCapabilities
    Coro.modify (finishScan added removed)
    return (added.length, removed.length)

/-! ## Frames -/

/-- Forgetting and subscribing nothing is nothing. -/
theorem finishScan_eq (added removed : List String) (w : World) : finishScan added removed w =
    reportUnsupported (subscribeAll added (forgetDevices removed w)) := by
  cases added <;> cases removed <;> rfl

theorem forgetDevices_eq (thingCodes : List String) (w : World) : ∃ registry drafts,
    forgetDevices thingCodes w = { w with registry := registry, drafts := drafts } := by
  induction thingCodes generalizing w with
  | nil => exact ⟨_, _, rfl⟩
  | cons thingCode rest ih =>
      obtain ⟨registry, drafts, hrest⟩ := ih (forgetDevice w thingCode)
      refine ⟨registry, drafts, hrest.trans ?_⟩
      simp only [forgetDevice]
      split <;> rfl

theorem subscribeAll_eq (thingCodes : List String) (w : World) : ∃ mqtt,
    subscribeAll thingCodes w = { w with mqtt := mqtt } := by
  induction thingCodes generalizing w with
  | nil => exact ⟨_, rfl⟩
  | cons thingCode rest ih =>
      obtain ⟨mqtt, hrest⟩ := ih (subscribe (Client.pushTopics w.wiring.region thingCode) w)
      exact ⟨mqtt, hrest⟩

section StartPush

variable {env : Environment World ClientOp ClientAnswer} {rel : World → World → Prop}
  {raised : Exn → Prop} {w₀ w : World}

/-- The request for a certificate, which goes through the account, wherever an operation that
started in `w₀` makes it. -/
def CertificateKept (env : Environment World ClientOp ClientAnswer) (rel : World → World → Prop)
    (raised : Exn → Prop) (w₀ : World) : Prop :=
  ∀ w answer w', rel w₀ w → env w (.call .oem Client.epCertCreate (.obj [])) answer w' →
    rel w w' ∧ ∀ exn, answer = .error exn → raised exn

theorem Keeps.wp_openPush (h : Keeps env rel raised) (hcert : CertificateKept env rel raised w₀)
    (hw : rel w₀ w) : Coro.wp env openPush (Kept rel raised w₀) w := by
  simp only [openPush, Client.asyncCreateCertificate, Coro.wp_bind, Client.wp_call]
  intro answer w₁ hanswer
  obtain ⟨hrel, hraised⟩ := hcert _ _ _ hw hanswer
  have hw₁ : rel w₀ w₁ := h.trans hw hrel
  cases answer with
  | error exn => exact .error hw₁ (hraised exn rfl)
  | ok data =>
      dsimp only
      split
      · rw [Coro.wp_ite]
        split
        · intro result w₂ hconnected
          have hw₂ : rel w₀ w₂ := h.trans hw₁ (h.await rfl hconnected)
          cases result with
          | error exn => exact .error hw₂ (h.raises rfl hconnected exn rfl)
          | ok connected => exact .ok hw₂
        · exact .error hw₁ (h.dollin _)
      · exact .error hw₁ (h.dollin _)

/-- Starting the push connection touches its topics, nothing else. -/
theorem Keeps.wp_asyncStartPush (h : Keeps env rel raised)
    (hcert : CertificateKept env rel raised w₀)
    (hmqtt : ∀ (w : World) mqtt, rel w { w with mqtt := mqtt }) (hw : rel w₀ w) :
    Coro.wp env asyncStartPush (Kept rel raised w₀) w := by
  simp only [asyncStartPush, Coro.wp_bind, Coro.wp_attempt]
  apply Coro.wp_mono _ (h.wp_openPush hcert hw)
  intro result w' hw'
  cases result with
  | error exn =>
      cases exn with
      | dollin err => exact .ok (h.trans hw'.1 (hmqtt w' none))
      | osError => exact .ok (h.trans hw'.1 (hmqtt w' none))
      | _ => exact .error hw'.1 (hw'.2 _ rfl)
  | ok connected =>
      obtain ⟨mqtt, hsubscribed⟩ := subscribeAll_eq w'.devices.keys { w' with mqtt := some [] }
      simp only [settlePush, Coro.wp_modify, hsubscribed]
      exact .ok (h.trans hw'.1 (hmqtt w' mqtt))

end StartPush

/-- Forgetting appliances takes only their own entries out of the registry. -/
theorem mem_forgetDevices_registry {thingCodes : List String} {w : World}
    {device : RegistryDevice} (hmem : device ∈ w.registry)
    (hkept : device.identifier ∉ thingCodes) :
    device ∈ (forgetDevices thingCodes w).registry := by
  induction thingCodes generalizing w with
  | nil => exact hmem
  | cons thingCode rest ih =>
      rw [List.mem_cons, not_or] at hkept
      refine ih (w := forgetDevice w thingCode) ?_ hkept.2
      simp only [forgetDevice]
      split
      · exact List.mem_filterMap.mpr ⟨device, hmem, if_neg hkept.1⟩
      · exact hmem

end Coordinator

end Holabrain
