import Holabrain.Coordinator.Capabilities

/-!
# What a refresh stores

With the answers of the resolvers given, a chain is a fold over them, and a refresh stores
what the chain of the first appliance of a model returns.
-/

namespace Holabrain

namespace Coordinator

/-- What every resolver answers. -/
abbrev Answers := Resolver → ResolutionContext → Except Exn (Option CapabilityProfile)

/-- Resolvers answer as given and the store as it likes; nothing else happens meanwhile. -/
def answering (answers : Answers) : Environment World ClientOp ClientAnswer
  | w, .resolve resolver ctx, answer, w' => answer = answers resolver ctx ∧ w' = w
  | w, _, _, w' => w' = w

/-! ## The chain -/

/-- Where the chain stands after these resolvers. -/
def chainFold (answers : Answers) (ctx : ResolutionContext) (now : ℚ) :
    List Resolver → ChainState → Except Exn ChainState
  | [], state => .ok state
  | resolver :: rest, state => match answers resolver ctx with
      | .ok partialProfile =>
          chainFold answers ctx now rest (state.step ctx now resolver (.ok partialProfile))
      | .error (.dollin err) =>
          chainFold answers ctx now rest (state.step ctx now resolver (.error err))
      | .error exn => .error exn

/-- What the chain of an appliance returns. -/
def resolved (answers : Answers) (ctx : ResolutionContext) (now : ℚ) :
    Except Exn CapabilityProfile := do
  let state ← chainFold answers ctx now (chainFor ctx.deviceType)
    { profile := emptyProfile ctx.model ctx.deviceType now }
  match state.requiredError, state.produced with
  | some err, false => .error (.dollin err)
  | _, _ => .ok state.profile

section Chain

variable {answers : Answers}

theorem wp_runChain (ctx : ResolutionContext) (now : ℚ) (chain : List Resolver)
    (state : ChainState) (w : World) :
    Coro.wp (answering answers) (runChain ctx now chain state)
      (fun result w' => w' = w ∧ result = chainFold answers ctx now chain state) w := by
  induction chain generalizing state with
  | nil => exact ⟨rfl, rfl⟩
  | cons resolver rest ih =>
      simp only [runChain, Coro.wp_bind, Coro.wp_attempt, Client.wp_resolve]
      intro answer w' hanswered
      obtain ⟨hanswer, rfl⟩ := hanswered
      rw [chainFold, ← hanswer]
      cases answer with
      | ok partialProfile => exact ih _
      | error exn =>
          cases exn with
          | dollin err => exact ih _
          | _ => exact ⟨rfl, rfl⟩

/-- The chain of an appliance leaves the world alone. -/
theorem wp_asyncResolve (ctx : ResolutionContext) (w : World) :
    Coro.wp (answering answers) (asyncResolve ctx)
      (fun result w' => w' = w ∧ result = resolved answers ctx w.now) w := by
  simp only [asyncResolve, Coro.wp_bind, Coro.wp_gets]
  apply Coro.wp_mono _ (wp_runChain ctx w.now _ _ w)
  intro result w' hchain
  obtain ⟨rfl, hresult⟩ := hchain
  rw [resolved, ← hresult]
  cases result with
  | error exn => exact ⟨rfl, rfl⟩
  | ok state =>
      simp only [bind, Except.bind]
      cases state.requiredError with
      | none => exact ⟨rfl, rfl⟩
      | some err => cases state.produced <;> exact ⟨rfl, rfl⟩

end Chain

/-! ## The loop over the appliances -/

/-- Only profiles under other keys have changed. -/
def OtherProfiles (key : String) (w w' : World) : Prop :=
  ∃ capabilities : Dict String CapabilityProfile,
    w' = { w with capabilities := capabilities } ∧
      capabilities.get? key = w.capabilities.get? key

theorem OtherProfiles.refl (key : String) (w : World) : OtherProfiles key w w :=
  ⟨w.capabilities, rfl, rfl⟩

theorem OtherProfiles.setItem {key : String} {w w' : World} (h : OtherProfiles key w w')
    {other : String} (hother : other ≠ key) (profile : CapabilityProfile) :
    OtherProfiles key w { w' with capabilities := w'.capabilities.setItem other profile } := by
  obtain ⟨capabilities, rfl, hkey⟩ := h
  exact ⟨_, rfl, by rw [Dict.get?_setItem_of_ne _ _ hother.symm, hkey]⟩

/-- The appliance whose chain is run for its model: the first of the inventory with it. -/
def FirstOfModel (w : World) (thingCode : String) (device : Device) : Prop :=
  ∃ before after, w.devices.items = before ++ (thingCode, device) :: after ∧
    ∀ entry ∈ before, World.profileKey entry.2 ≠ World.profileKey device

/-- What is stored for a model once its chain has been run. -/
def storedAfter (now : ℚ) (cached : Option CapabilityProfile) :
    Except DollinError CapabilityProfile → Option CapabilityProfile
  | .ok profile => some (carryOver now cached profile)
  | .error _ => cached

theorem isFresh_eq_false {force : Bool} {now : ℚ} {cached : CapabilityProfile}
    (hdue : force = true ∨ cached.isStale now capabilityTtl = true) :
    isFresh force now (some cached) = false := by
  rcases hdue with rfl | hstale
  · rfl
  · simp [isFresh, hstale]

/-- The chain has run, with no exception getting through, and its outcome is stored. -/
def Refreshed (answers : Answers) (ctx : ResolutionContext) (now : ℚ)
    (cached stored : Option CapabilityProfile) : Prop :=
  ∃ outcome : Except DollinError CapabilityProfile,
    resolved answers ctx now = outcome.mapError .dollin ∧ stored = storedAfter now cached outcome

section Loop

variable {answers : Answers} {force : Bool} {now : ℚ} {key : String} {w₀ w : World}

/-- Appliances of other models leave the profile alone, and so do those that share a model
already seen. -/
theorem wp_resolveLoop_other (key : String) (entries rest : List (String × Device))
    {seen : List String} (changed : Bool) {post : Except Exn Bool → World → Prop}
    (hother : ∀ entry ∈ entries, World.profileKey entry.2 ≠ key ∨ key ∈ seen)
    (hw : OtherProfiles key w₀ w)
    (hrest : ∀ seen' changed' w', (key ∈ seen' ↔ key ∈ seen) → OtherProfiles key w₀ w' →
      Coro.wp (answering answers) (resolveLoop force now rest seen' changed') post w')
    (hthrow : ∀ exn w', post (.error exn) w') :
    Coro.wp (answering answers) (resolveLoop force now (entries ++ rest) seen changed) post w := by
  induction entries generalizing seen changed w with
  | nil => exact hrest seen changed w Iff.rfl hw
  | cons entry entries ih =>
      have hentry := hother entry (.head _)
      have hentries : ∀ e ∈ entries, World.profileKey e.2 ≠ key ∨ key ∈ seen :=
        fun e he => hother e (.tail _ he)
      simp only [List.cons_append, resolveLoop, Coro.wp_ite, Coro.wp_bind, Coro.wp_gets,
        Coro.wp_attempt]
      split
      · exact ih changed hentries hw hrest
      next hunseen =>
        have hne : World.profileKey entry.2 ≠ key := by
          intro hkey
          rw [hkey] at hunseen
          exact hentry.elim (fun hne => hne hkey) hunseen
        have hnext : ∀ changed' w', OtherProfiles key w₀ w' →
            Coro.wp (answering answers)
              (resolveLoop force now (entries ++ rest)
                (World.profileKey entry.2 :: seen) changed') post w' := by
          intro changed' w' hw'
          apply ih changed' (fun e he => (hentries e he).imp_right (.tail _)) hw'
          intro seen' changed'' w'' hseen' hw''
          refine hrest seen' changed'' w'' (hseen'.trans ?_) hw''
          rw [List.mem_cons]
          exact or_iff_right hne.symm
        split
        · exact hnext _ w hw
        · apply Coro.wp_mono _ (wp_asyncResolve _ w)
          intro result w' hresolved
          rw [hresolved.1]
          cases result with
          | error exn =>
              cases exn with
              | dollin err => exact hnext _ w hw
              | _ => exact hthrow _ _
          | ok profile => exact hnext _ _ (hw.setItem hne _)

/-- The chain of the first appliance of a model decides what is stored for it. -/
theorem wp_resolveLoop_first {thingCode : String} {device : Device}
    {cached : Option CapabilityProfile} (hfirst : FirstOfModel w thingCode device)
    (hcached : w.capabilities.get? (World.profileKey device) = cached)
    (hdue : isFresh force w.now cached = false) :
    Coro.wp (answering answers) (resolveLoop force w.now w.devices.items [] false)
      (fun result w' => ∀ changed, result = .ok changed →
        Refreshed answers (resolutionContext w thingCode device) w.now cached
          (w'.capabilities.get? (World.profileKey device))) w := by
  obtain ⟨before, after, hitems, hbefore⟩ := hfirst
  rw [hitems]
  have hthrow : ∀ (exn : Exn) (w' : World) (changed : Bool),
      (Except.error exn : Except Exn Bool) = .ok changed →
        Refreshed answers (resolutionContext w thingCode device) w.now cached
          (w'.capabilities.get? (World.profileKey device)) := by
    intro exn w' changed hok
    cases hok
  refine wp_resolveLoop_other (World.profileKey device) before _ false
    (fun entry hentry => .inl (hbefore entry hentry)) (.refl _ w) ?_ hthrow
  intro seen changed _ hseen hothers
  obtain ⟨capabilities, rfl, hkey⟩ := hothers
  have hunseen : World.profileKey device ∉ seen :=
    fun hmem => absurd (hseen.mp hmem) (List.not_mem_nil)
  -- the later appliances of the model are skipped
  have hafter : ∀ changed' w', Refreshed answers (resolutionContext w thingCode device) w.now cached
      (w'.capabilities.get? (World.profileKey device)) →
        Coro.wp (answering answers)
          (resolveLoop force w.now after (World.profileKey device :: seen) changed')
          (fun result w' => ∀ changed, result = .ok changed →
            Refreshed answers (resolutionContext w thingCode device) w.now cached
              (w'.capabilities.get? (World.profileKey device))) w' := by
    intro changed' w' hstored
    rw [← List.append_nil after]
    refine wp_resolveLoop_other _ after [] changed' (fun _ _ => .inr (.head _)) (.refl _ w') ?_
      hthrow
    intro _ changed'' _ _ hothers' _ _
    obtain ⟨capabilities', rfl, hkey'⟩ := hothers'
    rwa [hkey']
  simp only [resolveLoop, if_neg hunseen, Coro.wp_ite, Coro.wp_bind, Coro.wp_gets, Coro.wp_attempt,
    id_eq, hkey, hcached, hdue, Bool.false_eq_true, if_false]
  apply Coro.wp_mono _ (wp_asyncResolve _ _)
  intro result w' hresolved
  obtain ⟨rfl, hresult⟩ := hresolved
  cases result with
  | error exn =>
      cases exn with
      | dollin err =>
          apply hafter
          exact ⟨.error err, hresult.symm, hkey.trans hcached⟩
      | _ => exact hthrow _ _
  | ok profile =>
      apply hafter
      exact ⟨.ok profile, hresult.symm, Dict.get?_setItem_self _ _ _⟩

/-- A refresh that returns has stored the outcome of the chain. -/
theorem wp_asyncResolveDevices_first {thingCode : String} {device : Device}
    {cached : Option CapabilityProfile} (hfirst : FirstOfModel w thingCode device)
    (hcached : w.capabilities.get? (World.profileKey device) = cached)
    (hdue : isFresh force w.now cached = false) :
    Coro.wp (answering answers) (asyncResolveDevices force)
      (fun result w' => ∀ changed, result = .ok changed →
        Refreshed answers (resolutionContext w thingCode device) w.now cached
          (w'.capabilities.get? (World.profileKey device))) w := by
  simp only [asyncResolveDevices, Coro.wp_bind, Coro.wp_gets]
  apply Coro.wp_mono _ (wp_resolveLoop_first hfirst hcached hdue)
  intro result w' hresolved
  cases result with
  | error exn =>
      intro _ hthrown
      cases hthrown
  | ok changed =>
      simp only [Coro.wp_ite, Coro.wp_bind, Client.wp_saveCache, Coro.wp_pure]
      have hstored := hresolved changed rfl
      split
      · exact fun _ _ => hstored
      · intro saved w'' hunchanged
        rw [show w'' = w' from hunchanged]
        cases saved with
        | error exn =>
            intro _ hthrown
            cases hthrown
        | ok _ => exact fun _ _ => hstored

end Loop

end Coordinator

end Holabrain
