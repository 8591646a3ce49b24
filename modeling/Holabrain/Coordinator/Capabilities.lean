import Holabrain.Coordinator.World

/-!
# Capability profiles of the coordinator

`_async_resolve_devices` runs the resolver chain of every model whose profile is missing,
stale or to be forced, and `_absorb_status_fields` feeds reported status keys back into the
profiles.  A chain skips a resolver that fails and raises only if a required one failed and
nothing else produced anything.
-/

namespace Holabrain

namespace Coordinator

def capabilityTtl : ℚ := 7 * 24 * 3600

/-! ## The chain -/

/-- The profile one resolver contributes. -/
def contribution (ctx : ResolutionContext) (now : ℚ) (resolver : Resolver)
    (partialProfile : CapabilityProfile) : CapabilityProfile where
  model := if partialProfile.model = "" then ctx.model else partialProfile.model
  features := partialProfile.features
  params := partialProfile.params
  deviceType :=
    if partialProfile.deviceType = "" then ctx.deviceType else partialProfile.deviceType
  presentFields := partialProfile.presentFields
  sources :=
    if partialProfile.sources = [] then [resolver.name] else partialProfile.sources
  fetchedAt := now

/-- Where a chain stands: what it has merged, whether anything was produced, and the last
error of a required resolver. -/
structure ChainState where
  profile : CapabilityProfile
  produced : Bool := false
  requiredError : Option DollinError := none

/-- One resolver's outcome, unless it is an exception the chain does not catch. -/
def ChainState.step (ctx : ResolutionContext) (now : ℚ) (state : ChainState)
    (resolver : Resolver) (outcome : Except DollinError (Option CapabilityProfile)) :
    ChainState :=
  match outcome with
  | .error err => if resolver.required then { state with requiredError := some err } else state
  | .ok none => state
  | .ok (some partialProfile) =>
      { state with
        profile := state.profile.merge (contribution ctx now resolver partialProfile)
        produced := true }

/-- The loop of `ResolverChain.async_resolve`. -/
def runChain (ctx : ResolutionContext) (now : ℚ) : List Resolver → ChainState → CoordM ChainState
  | [], state => return state
  | resolver :: rest, state => do
      let answer ← Coro.attempt (Client.resolve resolver ctx)
      match answer with
      | .ok partialProfile =>
          runChain ctx now rest (state.step ctx now resolver (.ok partialProfile))
      | .error (.dollin err) =>
          runChain ctx now rest (state.step ctx now resolver (.error err))
      | .error exn => throw exn

/-- `ResolverChain.async_resolve` of the chain of a device type. -/
def asyncResolve (ctx : ResolutionContext) : CoordM CapabilityProfile := do
  let now ← Coro.gets World.now
  let state ← runChain ctx now (chainFor ctx.deviceType)
    { profile := emptyProfile ctx.model ctx.deviceType now }
  match state.requiredError, state.produced with
  | some err, false => throw (.dollin err)
  | _, _ => return state.profile

/-! ## Profiles per model -/

/-- `_gating_differs`. -/
def gatingDiffers (before after : CapabilityProfile) : Bool :=
  decide ((before.features ∪ before.presentFields) ∩ gatingTokens ≠
    (after.features ∪ after.presentFields) ∩ gatingTokens)

/-- `_known_status`. -/
def knownStatus (w : World) (thingCode : String) : Dict String Json :=
  ((w.states.get? thingCode).map DeviceState.attributes).getD Dict.empty

def resolutionContext (w : World) (thingCode : String) (device : Device) : ResolutionContext where
  deviceType := device.deviceType
  model := device.model
  thingCode := thingCode
  metadata := device.metadata
  status := knownStatus w thingCode

/-- A freshly resolved profile under the cache's timestamp and with the cached fields. -/
def carryOver (now : ℚ) (cached : Option CapabilityProfile) (profile : CapabilityProfile) :
    CapabilityProfile :=
  let profile := { profile with fetchedAt := now }
  match cached with
  | some cached => profile.withFields cached.presentFields
  | none => profile

/-- A cached profile that need not be resolved again. -/
def isFresh (force : Bool) (now : ℚ) (cached : Option CapabilityProfile) : Bool :=
  !force && match cached with
    | some cached => !cached.isStale now capabilityTtl
    | none => false

/-- Whether storing `profile` over `cached` counts as a change. -/
def profileChanged (cached : Option CapabilityProfile) (profile : CapabilityProfile) : Bool :=
  match cached with
  | some cached =>
      decide (profile.fingerprint ≠ cached.fingerprint) || gatingDiffers cached profile
  | none => true

/-- The loop of `_async_resolve_devices`. -/
def resolveLoop (force : Bool) (now : ℚ) :
    List (String × Device) → List String → Bool → CoordM Bool
  | [], _, changed => return changed
  | (thingCode, device) :: rest, seen, changed => do
      let key := World.profileKey device
      if key ∈ seen then resolveLoop force now rest seen changed
      else do
        let w ← Coro.gets id
        let cached := w.capabilities.get? key
        if isFresh force now cached then resolveLoop force now rest (key :: seen) changed
        else do
          let answer ← Coro.attempt (asyncResolve (resolutionContext w thingCode device))
          match answer with
          | .ok profile =>
              let profile := carryOver now cached profile
              Coro.modify fun w =>
                { w with capabilities := w.capabilities.setItem key profile }
              resolveLoop force now rest (key :: seen)
                (changed || profileChanged cached profile)
          | .error (.dollin _) => resolveLoop force now rest (key :: seen) changed
          | .error exn => throw exn

/-- `_async_resolve_devices`. -/
def asyncResolveDevices (force : Bool) : CoordM Bool := do
  let w ← Coro.gets id
  let changed ← resolveLoop force w.now w.devices.items [] false
  let capabilities ← Coro.gets World.capabilities
  if capabilities.isEmpty then return changed
  else do
    Client.saveCache capabilities
    return changed

/-- `_async_load_capabilities`. -/
def asyncLoadCapabilities : CoordM Unit := do
  let cache ← Client.loadCache
  Coro.modify fun w => { w with capabilities := cache }
  let _ ← asyncResolveDevices false

/-- `async_refresh_capabilities`. -/
def asyncRefreshCapabilities (force : Bool) : CoordM Bool := do
  let changed ← asyncResolveDevices force
  Coro.modify fun w =>
    if changed ∧ w.setupDone then { w with reloads := w.reloads + 1 } else w
  return changed

/-! ## Absorbing reported fields -/

/-- One appliance of `_absorb_status_fields`, with the two flags the loop gathers. -/
def absorbOne (acc : World × Bool × Bool) (entry : String × DeviceState) : World × Bool × Bool :=
  let (w, dirty, needsReload) := acc
  match w.devices.get? entry.1 with
  | none => acc
  | some device =>
      let key := World.profileKey device
      match w.capabilities.get? key with
      | none => acc
      | some profile =>
          match profile.withFields? entry.2.attributes.keys.toFinset with
          | none => (w, dirty, needsReload)
          | some updated =>
              ({ w with capabilities := w.capabilities.setItem key updated }, true,
                needsReload || gatingDiffers profile updated)

/-- `_absorb_status_fields`. -/
def absorbStatusFields (states : List (String × DeviceState)) (w : World) : World :=
  let (w, dirty, needsReload) := states.foldl absorbOne (w, false, false)
  let w := if dirty then { w with saveScheduled := true } else w
  if needsReload ∧ w.setupDone then { w with reloads := w.reloads + 1 } else w

/-- Absorbing touches the profiles and what is scheduled for them, nothing else. -/
def OnlyProfiles (w w' : World) : Prop :=
  ∃ capabilities saveScheduled reloads,
    w' = { w with
      capabilities := capabilities, saveScheduled := saveScheduled, reloads := reloads }

theorem OnlyProfiles.refl (w : World) : OnlyProfiles w w := ⟨_, _, _, rfl⟩

theorem OnlyProfiles.trans {w w' w'' : World} (h : OnlyProfiles w w') (h' : OnlyProfiles w' w'') :
    OnlyProfiles w w'' := by
  obtain ⟨_, _, _, rfl⟩ := h
  obtain ⟨_, _, _, rfl⟩ := h'
  exact ⟨_, _, _, rfl⟩

theorem onlyProfiles_absorbOne (acc : World × Bool × Bool) (entry : String × DeviceState) :
    OnlyProfiles acc.1 (absorbOne acc entry).1 := by
  simp only [absorbOne]
  split
  · exact .refl _
  split
  · exact .refl _
  split
  · exact .refl _
  · exact ⟨_, _, _, rfl⟩

theorem onlyProfiles_foldl (states : List (String × DeviceState)) (acc : World × Bool × Bool) :
    OnlyProfiles acc.1 (states.foldl absorbOne acc).1 := by
  induction states generalizing acc with
  | nil => exact .refl _
  | cons entry rest ih => exact (onlyProfiles_absorbOne acc entry).trans (ih _)

theorem onlyProfiles_absorb (states : List (String × DeviceState)) (w : World) :
    OnlyProfiles w (absorbStatusFields states w) := by
  apply (onlyProfiles_foldl states (w, false, false)).trans
  simp only [absorbStatusFields]
  split <;> split <;> exact ⟨_, _, _, rfl⟩

/-! ## What resolving leaves alone -/

/-- A reflexive and transitive relation between worlds that neither awaiting the resolvers and
the store nor a change of the profiles breaks, and what they may raise. -/
structure Keeps (env : Environment World ClientOp ClientAnswer) (rel : World → World → Prop)
    (raised : Exn → Prop) : Prop where
  refl : ∀ w, rel w w
  trans : ∀ {w w' w''}, rel w w' → rel w' w'' → rel w w''
  await : ∀ {w op answer w'}, op.isCall = false → env w op answer w' → rel w w'
  profiles : ∀ {w w'}, OnlyProfiles w w' → rel w w'
  raises : ∀ {w op answer w'}, op.isCall = false → env w op answer w' →
    ∀ exn, ClientAnswer.raised op answer = some exn → raised exn
  dollin : ∀ err, raised (.dollin err)

/-- An operation that started in `w₀` has kept the relation and raises nothing else. -/
def Kept {α : Type} (rel : World → World → Prop) (raised : Exn → Prop) (w₀ : World)
    (result : Except Exn α) (w : World) : Prop :=
  rel w₀ w ∧ ∀ exn, result = .error exn → raised exn

section Kept

variable {rel : World → World → Prop} {raised : Exn → Prop} {α : Type} {w₀ w : World}

theorem Kept.ok {a : α} (h : rel w₀ w) : Kept rel raised w₀ (.ok a) w := by
  refine ⟨h, fun exn herror => ?_⟩
  cases herror

theorem Kept.error {exn : Exn} (h : rel w₀ w) (hexn : raised exn) :
    Kept rel raised w₀ (.error exn : Except Exn α) w := by
  refine ⟨h, fun exn' herror => ?_⟩
  cases herror
  exact hexn

end Kept

namespace Keeps

variable {env : Environment World ClientOp ClientAnswer} {rel : World → World → Prop}
  {raised : Exn → Prop}

theorem wp_runChain (h : Keeps env rel raised) (ctx : ResolutionContext) (now : ℚ)
    (chain : List Resolver) (state : ChainState) {w₀ w : World} (hw : rel w₀ w) :
    Coro.wp env (runChain ctx now chain state) (Kept rel raised w₀) w := by
  induction chain generalizing state w with
  | nil => exact .ok hw
  | cons resolver rest ih =>
      simp only [runChain, Coro.wp_bind, Coro.wp_attempt, Client.wp_resolve]
      intro answer w' hanswer
      have hw' : rel w₀ w' := h.trans hw (h.await rfl hanswer)
      cases answer with
      | ok partialProfile => exact ih _ hw'
      | error exn =>
          have hexn : raised exn := h.raises rfl hanswer exn rfl
          cases exn with
          | dollin err => exact ih _ hw'
          | _ => exact .error hw' hexn

theorem wp_asyncResolve (h : Keeps env rel raised) (ctx : ResolutionContext) {w₀ w : World}
    (hw : rel w₀ w) : Coro.wp env (asyncResolve ctx) (Kept rel raised w₀) w := by
  simp only [asyncResolve, Coro.wp_bind, Coro.wp_gets]
  apply Coro.wp_mono _ (h.wp_runChain ctx w.now _ _ hw)
  intro result w' hw'
  cases result with
  | error exn => exact .error hw'.1 (hw'.2 exn rfl)
  | ok state =>
      dsimp only
      split
      · exact .error hw'.1 (h.dollin _)
      · exact .ok hw'.1

theorem wp_resolveLoop (h : Keeps env rel raised) (force : Bool) (now : ℚ)
    (entries : List (String × Device)) (seen : List String) (changed : Bool) {w₀ w : World}
    (hw : rel w₀ w) :
    Coro.wp env (resolveLoop force now entries seen changed) (Kept rel raised w₀) w := by
  induction entries generalizing seen changed w with
  | nil => exact .ok hw
  | cons entry rest ih =>
      simp only [resolveLoop, Coro.wp_ite, Coro.wp_bind, Coro.wp_gets, Coro.wp_attempt]
      split
      · exact ih _ _ hw
      split
      · exact ih _ _ hw
      apply Coro.wp_mono _ (h.wp_asyncResolve _ hw)
      intro result w' hw'
      cases result with
      | ok profile => exact ih _ _ (h.trans hw'.1 (h.profiles ⟨_, _, _, rfl⟩))
      | error exn =>
          cases exn with
          | dollin err => exact ih _ _ hw'.1
          | _ => exact .error hw'.1 (hw'.2 _ rfl)

theorem wp_asyncResolveDevices (h : Keeps env rel raised) (force : Bool) {w₀ w : World}
    (hw : rel w₀ w) : Coro.wp env (asyncResolveDevices force) (Kept rel raised w₀) w := by
  simp only [asyncResolveDevices, Coro.wp_bind, Coro.wp_gets]
  apply Coro.wp_mono _ (h.wp_resolveLoop force _ _ _ _ hw)
  intro result w' hw'
  cases result with
  | error exn => exact .error hw'.1 (hw'.2 exn rfl)
  | ok changed =>
      simp only [Coro.wp_ite, Coro.wp_bind, Client.wp_saveCache, Coro.wp_pure]
      split
      · exact .ok hw'.1
      · intro answer w'' hanswer
        have hw'' : rel w₀ w'' := h.trans hw'.1 (h.await rfl hanswer)
        cases answer with
        | error exn => exact .error hw'' (h.raises rfl hanswer exn rfl)
        | ok saved => exact .ok hw''

theorem wp_asyncLoadCapabilities (h : Keeps env rel raised) {w₀ w : World} (hw : rel w₀ w) :
    Coro.wp env asyncLoadCapabilities (Kept rel raised w₀) w := by
  simp only [asyncLoadCapabilities, Coro.wp_bind, Client.wp_loadCache, Coro.wp_modify,
    Coro.wp_pure]
  intro answer w' hanswer
  have hw' : rel w₀ w' := h.trans hw (h.await rfl hanswer)
  cases answer with
  | error exn => exact .error hw' (h.raises rfl hanswer exn rfl)
  | ok cache =>
      have hcached := h.trans hw' (h.profiles ⟨cache, w'.saveScheduled, w'.reloads, rfl⟩)
      apply Coro.wp_mono _ (h.wp_asyncResolveDevices false hcached)
      intro result w'' hw''
      cases result with
      | error exn => exact .error hw''.1 (hw''.2 exn rfl)
      | ok changed => exact .ok hw''.1

end Keeps

end Coordinator

end Holabrain
