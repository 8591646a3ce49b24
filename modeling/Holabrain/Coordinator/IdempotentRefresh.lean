import Holabrain.Cloud.CapabilityCache
import Holabrain.Cloud.Resolvers
import Holabrain.Coordinator.Refresh

/-!
# Refreshes that find nothing new

A forced refresh compares what the chain of a model returns with what is cached, by a
fingerprint in which the model and the device type stand as well.  The chain names the model
that was asked for, the cache the key it is stored under, and for an appliance without a model
that key is its thing code: such a profile, read back from the cache, differs from the one
resolved again in nothing but its name.
-/

namespace Holabrain

namespace Coordinator

/-- Resolvers answer as given and the store takes what it is given. -/
def storing (answers : Answers) : Environment World ClientOp ClientAnswer
  | w, .saveCache _, answer, w' => answer = .ok () ∧ w' = w
  | w, op, answer, w' => answering answers w op answer w'

theorem answering_of_storing {answers : Answers} (w : World) (op : ClientOp)
    (answer : ClientAnswer op) (w' : World) (h : storing answers w op answer w') :
    answering answers w op answer w' := by
  cases op with
  | saveCache profiles => exact h.2
  | _ => exact h

/-! ## Profiles that say the same -/

/-- The same features and parameters, the latter up to the order of their keys, and no status
key that is not cached. -/
structure SaysSame (cached profile : CapabilityProfile) : Prop where
  features : profile.features = cached.features
  params : (Json.obj profile.params.items).canonical = (Json.obj cached.params.items).canonical
  presentFields : profile.presentFields ⊆ cached.presentFields

/-- The name under which a profile was resolved. -/
def SameName (cached profile : CapabilityProfile) : Prop :=
  cached.model = profile.model ∧ cached.deviceType = profile.deviceType

theorem SaysSame.gatingDiffers {cached profile : CapabilityProfile}
    (h : SaysSame cached profile) (now : ℚ) :
    gatingDiffers cached (carryOver now (some cached) profile) = false := by
  simp only [Coordinator.gatingDiffers, carryOver, CapabilityProfile.withFields_features,
    CapabilityProfile.withFields_presentFields, h.features,
    Finset.union_eq_right.mpr h.presentFields]
  simp

/-- What is left of the fingerprint to differ in is the name. -/
theorem SaysSame.profileChanged_iff {cached profile : CapabilityProfile}
    (h : SaysSame cached profile) (now : ℚ) :
    profileChanged (some cached) (carryOver now (some cached) profile) = true ↔
      ¬ SameName cached profile := by
  have hfingerprint : (carryOver now (some cached) profile).fingerprint = cached.fingerprint ↔
      SameName cached profile := by
    simp only [carryOver, CapabilityProfile.withFields_eq, CapabilityProfile.fingerprint,
      Fingerprint.mk.injEq, h.features, h.params, SameName, and_true]
    tauto
  simp only [profileChanged, h.gatingDiffers, Bool.or_false, decide_eq_true_eq, ne_eq,
    hfingerprint]

/-! ## The name of a resolved profile -/

theorem namesAsked_merge {ctx : ResolutionContext} {now : ℚ} {resolver : Resolver}
    {profile partialProfile : CapabilityProfile} (h : NamesAsked ctx profile)
    (hpart : NamesAsked ctx partialProfile) :
    NamesAsked ctx (profile.merge (contribution ctx now resolver partialProfile)) := by
  simp only [NamesAsked, CapabilityProfile.merge, contribution, h.1, h.2, hpart.1, hpart.2,
    ite_self, and_self]

theorem namesAsked_chainFold {answers : Answers} {ctx : ResolutionContext} {now : ℚ}
    (hanswers : ∀ resolver profile, answers resolver ctx = .ok (some profile) →
      NamesAsked ctx profile)
    (chain : List Resolver) {state state' : ChainState} (h : NamesAsked ctx state.profile)
    (hfold : chainFold answers ctx now chain state = .ok state') :
    NamesAsked ctx state'.profile := by
  induction chain generalizing state with
  | nil =>
      cases hfold
      exact h
  | cons resolver rest ih =>
      rw [chainFold] at hfold
      cases hanswer : answers resolver ctx with
      | ok produced =>
          rw [hanswer] at hfold
          cases produced with
          | none => exact ih h hfold
          | some profile =>
              exact ih (namesAsked_merge h (hanswers resolver profile hanswer)) hfold
      | error exn =>
          rw [hanswer] at hfold
          cases exn with
          | dollin err =>
              refine ih ?_ hfold
              rw [ChainState.step]
              split <;> exact h
          | _ => cases hfold

/-- The chain returns a profile of the model and type that were asked for. -/
theorem namesAsked_resolved {answers : Answers} {ctx : ResolutionContext} {now : ℚ}
    (hanswers : ∀ resolver profile, answers resolver ctx = .ok (some profile) →
      NamesAsked ctx profile)
    {profile : CapabilityProfile} (h : resolved answers ctx now = .ok profile) :
    NamesAsked ctx profile := by
  rw [resolved] at h
  cases hfold : chainFold answers ctx now (chainFor ctx.deviceType)
      { profile := emptyProfile ctx.model ctx.deviceType now } with
  | error exn =>
      rw [hfold] at h
      cases h
  | ok state =>
      have hstate := namesAsked_chainFold hanswers _ ⟨rfl, rfl⟩ hfold
      rw [hfold] at h
      simp only [bind, Except.bind] at h
      split at h
      · cases h
      · cases h
        exact hstate

/-! ## The loop -/

/-- The appliances whose chain is run: the first with each model not yet seen. -/
def firstsOf : List (String × Device) → List String → List (String × Device)
  | [], _ => []
  | entry :: rest, seen =>
      if World.profileKey entry.2 ∈ seen then firstsOf rest seen
      else entry :: firstsOf rest (World.profileKey entry.2 :: seen)

theorem mem_firstsOf {entries : List (String × Device)} {seen : List String}
    {entry : String × Device} :
    entry ∈ firstsOf entries seen ↔ World.profileKey entry.2 ∉ seen ∧
      ∃ before after, entries = before ++ entry :: after ∧
        ∀ other ∈ before, World.profileKey other.2 ≠ World.profileKey entry.2 := by
  induction entries generalizing seen with
  | nil => simp [firstsOf]
  | cons first rest ih =>
      rw [firstsOf]
      split
      next hseen =>
        rw [ih]
        constructor
        · rintro ⟨hunseen, before, after, rfl, hbefore⟩
          refine ⟨hunseen, first :: before, after, rfl, ?_⟩
          rintro other (_ | ⟨_, hother⟩) hkey
          · exact hunseen (hkey ▸ hseen)
          · exact hbefore other hother hkey
        · rintro ⟨hunseen, before, after, heq, hbefore⟩
          cases before with
          | nil =>
              cases heq
              exact absurd hseen hunseen
          | cons other before =>
              cases heq
              exact ⟨hunseen, before, after, rfl, fun e he => hbefore e (.tail _ he)⟩
      next hunseen =>
        rw [List.mem_cons, ih, List.mem_cons, not_or]
        constructor
        · rintro (rfl | ⟨⟨hne, hnot⟩, before, after, rfl, hbefore⟩)
          · exact ⟨hunseen, [], rest, rfl, fun _ h => absurd h List.not_mem_nil⟩
          · refine ⟨hnot, first :: before, after, rfl, ?_⟩
            rintro other (_ | ⟨_, hother⟩) hkey
            · exact hne hkey.symm
            · exact hbefore other hother hkey
        · rintro ⟨hnot, before, after, heq, hbefore⟩
          cases before with
          | nil =>
              cases heq
              exact .inl rfl
          | cons other before =>
              cases heq
              exact .inr ⟨⟨(hbefore first (.head _)).symm, hnot⟩, before, after, rfl,
                fun e he => hbefore e (.tail _ he)⟩

/-- The chain of the appliance returns what is cached for it. -/
def Settled (answers : Answers) (w : World) (entry : String × Device) : Prop :=
  ∃ cached profile, w.capabilities.get? (World.profileKey entry.2) = some cached ∧
    resolved answers (resolutionContext w entry.1 entry.2) w.now = .ok profile ∧
    SaysSame cached profile

/-- The profile cached for the appliance goes by another name than its own. -/
def Renamed (w : World) (entry : String × Device) : Prop :=
  ∃ cached, w.capabilities.get? (World.profileKey entry.2) = some cached ∧
    ¬ (cached.model = entry.2.model ∧ cached.deviceType = entry.2.deviceType)

section Loop

variable {answers : Answers} {w : World}

/-- Where every chain returns what is cached, the loop reports the cached profiles that go by
another name, and leaves all but the profiles alone. -/
theorem wp_resolveLoop_settled
    (hanswers : ∀ resolver ctx profile, answers resolver ctx = .ok (some profile) →
      NamesAsked ctx profile)
    (entries : List (String × Device)) (seen : List String) (changed : Bool)
    (hsettled : ∀ entry ∈ firstsOf entries seen, Settled answers w entry)
    {capabilities : Dict String CapabilityProfile}
    (hcached : ∀ key, key ∉ seen → capabilities.get? key = w.capabilities.get? key) :
    Coro.wp (storing answers) (resolveLoop true w.now entries seen changed)
      (fun result w' => (∃ changed', result = .ok changed' ∧
        (changed' = true ↔ changed = true ∨ ∃ entry ∈ firstsOf entries seen, Renamed w entry)) ∧
        ∃ capabilities', w' = { w with capabilities := capabilities' })
      { w with capabilities := capabilities } := by
  induction entries generalizing seen changed capabilities with
  | nil => exact ⟨⟨changed, rfl, by simp [firstsOf]⟩, capabilities, rfl⟩
  | cons entry rest ih =>
      rw [firstsOf] at hsettled ⊢
      simp only [resolveLoop, Coro.wp_ite, Coro.wp_bind, Coro.wp_gets, Coro.wp_attempt]
      split
      next hseen =>
        rw [if_pos hseen] at hsettled
        exact ih seen changed hsettled hcached
      next hunseen =>
        rw [if_neg hunseen] at hsettled
        obtain ⟨cached, profile, hget, hresolved, hsame⟩ := hsettled entry List.mem_cons_self
        have hget' : capabilities.get? (World.profileKey entry.2) = some cached :=
          (hcached _ hunseen).trans hget
        simp only [id_eq, hget', isFresh, Bool.not_true, Bool.false_and, Bool.false_eq_true,
          if_false]
        apply Coro.wp_mono _ (Coro.wp_of_env answering_of_storing (wp_asyncResolve _ _))
        intro result w' hchain
        obtain ⟨rfl, hresult⟩ := hchain
        have hreturned : result = .ok profile := hresult.trans hresolved
        rw [hreturned]
        have hnamed := namesAsked_resolved (hanswers · _ ·) hresolved
        have hchanged :
            profileChanged (some cached) (carryOver w.now (some cached) profile) = true ↔
              Renamed w entry := by
          rw [hsame.profileChanged_iff, SameName, hnamed.1, hnamed.2]
          constructor
          · exact fun hdiffers => ⟨cached, hget, hdiffers⟩
          · rintro ⟨other, hother, hdiffers⟩
            cases hget.symm.trans hother
            exact hdiffers
        have hlater : ∀ key, key ∉ World.profileKey entry.2 :: seen →
            (capabilities.setItem (World.profileKey entry.2)
              (carryOver w.now (some cached) profile)).get? key = w.capabilities.get? key := by
          intro key hkey
          rw [List.mem_cons, not_or] at hkey
          rw [Dict.get?_setItem_of_ne _ _ hkey.1, hcached key hkey.2]
        apply Coro.wp_mono _ (ih _ _ (fun e he => hsettled e (.tail _ he)) hlater)
        rintro result w' ⟨⟨changed', rfl, hiff⟩, hrest⟩
        refine ⟨⟨changed', rfl, ?_⟩, hrest⟩
        rw [hiff, Bool.or_eq_true, hchanged, or_assoc]
        simp

/-- The refresh returns what the loop reports, and reloads for it once the setup is done. -/
theorem wp_refresh_settled
    (hanswers : ∀ resolver ctx profile, answers resolver ctx = .ok (some profile) →
      NamesAsked ctx profile)
    (hsettled : ∀ entry ∈ firstsOf w.devices.items [], Settled answers w entry) :
    Coro.wp (storing answers) (asyncRefreshCapabilities true)
      (fun result w' => ∃ changed, result = .ok changed ∧
        (changed = true ↔ ∃ entry ∈ firstsOf w.devices.items [], Renamed w entry) ∧
        (changed = false → w'.reloads = w.reloads)) w := by
  have hloop := wp_resolveLoop_settled hanswers w.devices.items [] false hsettled
    (fun key _ => rfl)
  simp only [asyncRefreshCapabilities, asyncResolveDevices, Coro.wp_bind, Coro.wp_gets]
  apply Coro.wp_mono _ hloop
  rintro result w' ⟨⟨changed, rfl, hiff⟩, capabilities, rfl⟩
  have hreported : changed = true ↔ ∃ entry ∈ firstsOf w.devices.items [], Renamed w entry := by
    rw [hiff, or_iff_right Bool.false_ne_true]
  have hend : ∀ w'' : World, w''.reloads = w.reloads →
      ∃ changed', (.ok changed : Except Exn Bool) = .ok changed' ∧
        (changed' = true ↔ ∃ entry ∈ firstsOf w.devices.items [], Renamed w entry) ∧
        (changed' = false → (if changed = true ∧ w''.setupDone = true then
          { w'' with reloads := w''.reloads + 1 } else w'').reloads = w.reloads) := by
    intro w'' hreloads
    refine ⟨changed, rfl, hreported, ?_⟩
    rintro rfl
    exact hreloads
  simp only [Coro.wp_ite, Coro.wp_bind, Client.wp_saveCache, Coro.wp_pure, Coro.wp_modify]
  split
  · exact hend { w with capabilities := capabilities } rfl
  · rintro answer w'' ⟨rfl, rfl⟩
    exact hend { w with capabilities := capabilities } rfl

end Loop

/-! ## A refresh that finds nothing new -/

theorem firstOfModel_iff {w : World} {thingCode : String} {device : Device} :
    FirstOfModel w thingCode device ↔ (thingCode, device) ∈ firstsOf w.devices.items [] := by
  rw [mem_firstsOf, FirstOfModel]
  exact (and_iff_right List.not_mem_nil).symm

/-- Where every chain returns the cached features and parameters and no new key, a forced
refresh reports no change and schedules no reload exactly if every cached profile goes by the
model and the type of its appliance. -/
theorem asyncRefreshCapabilities_settled_iff
    (dictionary : String → Except Exn (Finset String × Dict String Json))
    (provided : String → Except Exn (Dict String Json)) {w w' : World}
    {result : Except Exn Bool}
    (hsettled : ∀ thingCode device, FirstOfModel w thingCode device →
      Settled (clientAnswers dictionary provided) w (thingCode, device))
    (hrun : Coro.Exec (storing (clientAnswers dictionary provided))
      (asyncRefreshCapabilities true) w result w') :
    ∃ changed, result = .ok changed ∧
      ((changed = false ∧ w'.reloads = w.reloads) ↔
        ∀ thingCode device cached, FirstOfModel w thingCode device →
          w.capabilities.get? (World.profileKey device) = some cached →
          cached.model = device.model ∧ cached.deviceType = device.deviceType) := by
  have hfirsts : ∀ entry ∈ firstsOf w.devices.items [],
      Settled (clientAnswers dictionary provided) w entry :=
    fun entry hentry => hsettled entry.1 entry.2 (firstOfModel_iff.mpr hentry)
  obtain ⟨changed, rfl, hiff, hreloads⟩ :=
    hrun.post (wp_refresh_settled (fun _ _ _ => namesAsked_clientAnswers) hfirsts)
  refine ⟨changed, rfl, ?_⟩
  constructor
  · rintro ⟨rfl, -⟩ thingCode device cached hfirst hcached
    by_contra hrenamed
    exact Bool.false_ne_true
      (hiff.mpr ⟨(thingCode, device), firstOfModel_iff.mp hfirst, cached, hcached, hrenamed⟩)
  · intro hnamed
    have hunchanged : changed = false := by
      rw [Bool.eq_false_iff, ne_eq, hiff]
      rintro ⟨entry, hentry, cached, hcached, hrenamed⟩
      exact hrenamed (hnamed entry.1 entry.2 cached (firstOfModel_iff.mpr hentry) hcached)
    exact ⟨hunchanged, hreloads hunchanged⟩

/-! ## An appliance without a model -/

/-- An appliance the account lists without a model, of a family read off its status. -/
def nameless : Device where
  thingCode := "A"
  name := ""
  deviceType := "0xFA"
  model := ""
  online := true

def noDictionary : String → Except Exn (Finset String × Dict String Json) :=
  fun _ => .error (.dollin (.networkError "no route"))

def noProvider : String → Except Exn (Dict String Json) := fun _ => .ok Dict.empty

/-- It has reported its status and nothing is cached for it. -/
def namelessFirst : World :=
  { World.fresh with
    devices := Dict.ofList [("A", nameless)]
    data := some (Dict.ofList [("A", ⟨"A", Dict.ofList [("power", .str "1")], true⟩)])
    setupDone := true
    now := 100 }

/-- What its chain returns. -/
def namelessProfile : CapabilityProfile :=
  (emptyProfile "" "0xFA" 100).merge
    (contribution (resolutionContext namelessFirst "A" nameless) 100 .presence
      (presenceProfile [] (resolutionContext namelessFirst "A" nameless)
        (Dict.ofList [("power", .str "1")])))

def namelessCached (cached : CapabilityProfile) : World :=
  { namelessFirst with capabilities := Dict.ofList [("A", cached)] }

/-- The profile has been stored and read back by the next start. -/
def namelessReloaded : World := namelessCached (.fromCache "A" namelessProfile.toCache)

/-- The profile is cached as it was resolved. -/
def namelessKept : World := namelessCached namelessProfile

theorem resolved_nameless (cached : CapabilityProfile) :
    resolved (clientAnswers noDictionary noProvider)
      (resolutionContext (namelessCached cached) "A" nameless) 100 = .ok namelessProfile := rfl

theorem settled_nameless {cached : CapabilityProfile} (hsame : SaysSame cached namelessProfile)
    (thingCode : String) (device : Device)
    (hfirst : FirstOfModel (namelessCached cached) thingCode device) :
    Settled (clientAnswers noDictionary noProvider) (namelessCached cached)
      (thingCode, device) := by
  have hentry : (thingCode, device) = ("A", nameless) :=
    List.mem_singleton.mp (firstOfModel_iff.mp hfirst)
  obtain ⟨rfl, rfl⟩ := Prod.mk.inj hentry
  exact ⟨cached, namelessProfile, rfl, resolved_nameless cached, hsame⟩

theorem saysSame_reloaded : SaysSame (.fromCache "A" namelessProfile.toCache) namelessProfile := by
  rw [CapabilityProfile.fromCache_toCache]
  exact ⟨rfl, rfl, Finset.Subset.refl _⟩

/-- The cloud out of reach, and a store that works. -/
def namelessAnswer : ℕ → World → (op : ClientOp) → ClientAnswer op × World :=
  Client.scripted (fun _ => .error (.dollin (.networkError "no route")))
    (clientAnswers noDictionary noProvider) fun _ w => w

theorem storing_namelessAnswer (n : ℕ) (w : World) (op : ClientOp) :
    storing (clientAnswers noDictionary noProvider) w op (namelessAnswer n w op).1
      (namelessAnswer n w op).2 := by
  cases op with
  | resolve resolver ctx => exact ⟨rfl, rfl⟩
  | saveCache profiles => exact ⟨rfl, rfl⟩
  | _ => rfl

/-- Its chain returns what is cached, and yet the refresh reports a change and reloads. -/
theorem asyncRefreshCapabilities_nameless_reloads :
    (∀ thingCode device, FirstOfModel namelessReloaded thingCode device →
      Settled (clientAnswers noDictionary noProvider) namelessReloaded (thingCode, device)) ∧
    ∃ w', Coro.Exec (storing (clientAnswers noDictionary noProvider))
      (asyncRefreshCapabilities true) namelessReloaded (.ok true) w' ∧
      w'.reloads = namelessReloaded.reloads + 1 := by
  have hplay := Coro.exec_play namelessAnswer storing_namelessAnswer
    (asyncRefreshCapabilities true) 0 namelessReloaded
  have hchanged : ((asyncRefreshCapabilities true).play namelessAnswer 0 namelessReloaded).1 =
      .ok true := by decide +kernel
  rw [hchanged] at hplay
  exact ⟨settled_nameless saysSame_reloaded, _, hplay, by decide +kernel⟩

/-- Where it is cached as it was resolved, it does neither. -/
theorem asyncRefreshCapabilities_settled_iff_nameless :
    (∃ changed, ((asyncRefreshCapabilities true).play namelessAnswer 0 namelessReloaded).1 =
        .ok changed ∧
      ((changed = false ∧
          ((asyncRefreshCapabilities true).play namelessAnswer 0 namelessReloaded).2.reloads =
            namelessReloaded.reloads) ↔
        ∀ thingCode device cached, FirstOfModel namelessReloaded thingCode device →
          namelessReloaded.capabilities.get? (World.profileKey device) = some cached →
          cached.model = device.model ∧ cached.deviceType = device.deviceType)) ∧
    ((asyncRefreshCapabilities true).play namelessAnswer 0 namelessKept).1 = .ok false ∧
      ((asyncRefreshCapabilities true).play namelessAnswer 0 namelessKept).2.reloads =
        namelessKept.reloads := by
  constructor
  · exact asyncRefreshCapabilities_settled_iff noDictionary noProvider
      (settled_nameless saysSame_reloaded)
      (Coro.exec_play namelessAnswer storing_namelessAnswer _ 0 _)
  · obtain ⟨changed, hresult, hiff⟩ := asyncRefreshCapabilities_settled_iff noDictionary
      noProvider (settled_nameless ⟨rfl, rfl, Finset.Subset.refl _⟩)
      (Coro.exec_play namelessAnswer storing_namelessAnswer _ 0 namelessKept)
    have hnamed : changed = false ∧
        ((asyncRefreshCapabilities true).play namelessAnswer 0 namelessKept).2.reloads =
          namelessKept.reloads := by
      refine hiff.mpr fun thingCode device cached hfirst hcached => ?_
      have hentry : (thingCode, device) = ("A", nameless) :=
        List.mem_singleton.mp (firstOfModel_iff.mp hfirst)
      obtain ⟨rfl, rfl⟩ := Prod.mk.inj hentry
      cases hcached
      exact ⟨rfl, rfl⟩
    rw [hresult, hnamed.1]
    exact ⟨rfl, hnamed.2⟩

end Coordinator

end Holabrain
