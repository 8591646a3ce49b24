import Holabrain.Core.FirstSeen
import Holabrain.Core.Trace
import Holabrain.Coordinator.Capabilities

/-!
# A resolver chain is an ordered fold

A chain asks its resolvers one after the other.  Those that produce a partial profile are
merged in order; a failure or a refusal to answer changes nothing but whether the chain
raises, which it does where nothing at all was produced and a required resolver failed.
-/

namespace Holabrain

namespace Coordinator

/-! ## Chains of any resolvers -/

/-- `ResolverChain.async_resolve`. -/
def chainResolve (resolvers : List Resolver) (ctx : ResolutionContext) :
    CoordM CapabilityProfile := do
  let now ← Coro.gets World.now
  let state ← runChain ctx now resolvers
    { profile := emptyProfile ctx.model ctx.deviceType now }
  match state.requiredError, state.produced with
  | some err, false => throw (.dollin err)
  | _, _ => return state.profile

/-- The coordinator runs the chain of the device type. -/
theorem asyncResolve_eq_chainResolve (ctx : ResolutionContext) :
    asyncResolve ctx = chainResolve (chainFor ctx.deviceType) ctx := rfl

/-- A resolver of a chain with what came of asking it. -/
abbrev Outcome := Resolver × Except DollinError (Option CapabilityProfile)

/-- The exchange an outcome stands for. -/
def Outcome.exchange (ctx : ResolutionContext) (outcome : Outcome) :
    Exchange ClientOp ClientAnswer :=
  ⟨.resolve outcome.1 ctx, outcome.2.mapError Exn.dollin⟩

/-- Exchanges record what came of asking. -/
theorem Outcome.exchange_injective (ctx : ResolutionContext) :
    Function.Injective (Outcome.exchange ctx) := by
  intro outcome outcome' heq
  obtain ⟨resolver, answered⟩ := outcome
  obtain ⟨resolver', answered'⟩ := outcome'
  obtain ⟨hop, hanswer⟩ := Sigma.mk.inj heq
  obtain ⟨rfl, -⟩ := ClientOp.resolve.inj hop
  have hmapped := eq_of_heq hanswer
  cases answered <;> cases answered' <;> cases hmapped <;> rfl

/-- A resolver raises nothing but the client's own errors. -/
def RaisesDollin (env : Environment World ClientOp ClientAnswer) : Prop :=
  ∀ w resolver ctx exn w', env w (.resolve resolver ctx) (.error exn) w' →
    ∃ err, exn = .dollin err

/-- The resolvers that produced a profile, in order, with what they produced. -/
def producing (outcomes : List Outcome) : List (Resolver × CapabilityProfile) :=
  outcomes.filterMap fun outcome => match outcome.2 with
    | .ok (some profile) => some (outcome.1, profile)
    | _ => none

/-- The failures of required resolvers, in order. -/
def requiredErrors (outcomes : List Outcome) : List DollinError :=
  outcomes.filterMap fun outcome => match outcome.2 with
    | .error err => if outcome.1.required then some err else none
    | _ => none

/-- The sources of a partial profile; without any, the resolver itself. -/
def sourcesOf (produced : Resolver × CapabilityProfile) : List String :=
  if produced.2.sources = [] then [produced.1.name] else produced.2.sources

/-! ## Merging a list of profiles -/

section Merge

/-- A set that merging unites is the union over all parts. -/
theorem mem_foldl_merge {part : CapabilityProfile → Finset String}
    (hpart : ∀ profile other, part (profile.merge other) = part profile ∪ part other)
    (parts : List CapabilityProfile) (profile : CapabilityProfile) (token : String) :
    token ∈ part (parts.foldl .merge profile) ↔
      token ∈ part profile ∨ ∃ other ∈ parts, token ∈ part other := by
  induction parts generalizing profile with
  | nil => simp
  | cons other parts ih => simp [ih, hpart, or_assoc]

theorem get?_params_foldl_merge (parts : List CapabilityProfile) (profile : CapabilityProfile)
    (key : String) :
    (parts.foldl .merge profile).params.get? key =
      (parts.reverse.findSome? fun part => part.params.get? key).or (profile.params.get? key) := by
  induction parts generalizing profile with
  | nil => rfl
  | cons part parts ih =>
      rw [List.foldl_cons, ih, CapabilityProfile.merge, Dict.get?_update, Dict.written_items,
        List.reverse_cons, List.findSome?_append, Option.or_assoc]
      simp

theorem sources_foldl_merge (parts : List CapabilityProfile) {profile : CapabilityProfile}
    {sources : List String} (hsources : profile.sources = sources.eraseDups) :
    (parts.foldl .merge profile).sources =
      (sources ++ parts.flatMap CapabilityProfile.sources).eraseDups := by
  induction parts generalizing profile sources with
  | nil => rw [List.foldl_nil, hsources, List.flatMap_nil, List.append_nil]
  | cons part parts ih =>
      have hmerged : (profile.merge part).sources = (sources ++ part.sources).eraseDups := by
        rw [CapabilityProfile.merge, eraseDups_eq, hsources, eraseDups_eraseDups_append]
      rw [List.foldl_cons, ih hmerged, List.flatMap_cons, List.append_assoc]

end Merge

/-! ## The loop -/

/-- The loop over outcomes that are already known. -/
def foldOutcomes (ctx : ResolutionContext) (now : ℚ) (outcomes : List Outcome)
    (state : ChainState) : ChainState :=
  outcomes.foldl (fun state outcome => state.step ctx now outcome.1 outcome.2) state

section Loop

variable {ctx : ResolutionContext} {now : ℚ}

/-- What the loop has gathered at its end. -/
theorem foldOutcomes_eq (outcomes : List Outcome) (state : ChainState) :
    foldOutcomes ctx now outcomes state =
      { profile := ((producing outcomes).map fun p => contribution ctx now p.1 p.2).foldl .merge
          state.profile
        produced := state.produced || !(producing outcomes).isEmpty
        requiredError := (requiredErrors outcomes).getLast?.or state.requiredError } := by
  induction outcomes generalizing state with
  | nil => simp [foldOutcomes, producing, requiredErrors]
  | cons outcome outcomes ih =>
      obtain ⟨resolver, result⟩ := outcome
      rw [foldOutcomes, List.foldl_cons, ← foldOutcomes, ih]
      cases result with
      | ok answer => cases answer <;> simp [ChainState.step, producing, requiredErrors]
      | error err =>
          cases hrequired : resolver.required with
          | false => simp [ChainState.step, producing, requiredErrors, hrequired]
          | true =>
              simp only [ChainState.step, producing, requiredErrors, hrequired, if_true,
                List.filterMap_cons, List.getLast?_cons]
              cases (requiredErrors outcomes).getLast? <;> simp

variable {env : Environment World ClientOp ClientAnswer} {w w' : World}

/-- Every run of the loop asks all resolvers, one after the other. -/
theorem traced_runChain (hraises : RaisesDollin env) {resolvers : List Resolver}
    {state : ChainState} {trace : List (Exchange ClientOp ClientAnswer)}
    {result : Except Exn ChainState}
    (hrun : Coro.Traced env (runChain ctx now resolvers state) w trace result w') :
    ∃ outcomes : List Outcome, outcomes.map Prod.fst = resolvers ∧
      trace = outcomes.map (Outcome.exchange ctx) ∧
      result = .ok (foldOutcomes ctx now outcomes state) := by
  induction resolvers generalizing state w trace with
  | nil =>
      cases hrun
      exact ⟨[], rfl, rfl, rfl⟩
  | cons resolver resolvers ih =>
      obtain ⟨answer, t, rest, rfl, hanswered, hnext⟩ := Coro.Traced.await_inv hrun
      cases answer with
      | ok partialProfile =>
          obtain ⟨outcomes, hresolvers, hrest, hresult⟩ := ih hnext
          exact ⟨(resolver, .ok partialProfile) :: outcomes, congrArg (resolver :: ·) hresolvers,
            congrArg (_ :: ·) hrest, hresult⟩
      | error exn =>
          obtain ⟨err, rfl⟩ := hraises w resolver ctx exn t hanswered
          obtain ⟨outcomes, hresolvers, hrest, hresult⟩ := ih hnext
          exact ⟨(resolver, .error err) :: outcomes, congrArg (resolver :: ·) hresolvers,
            congrArg (_ :: ·) hrest, hresult⟩

end Loop

/-! ## What a chain returns -/

/-- The profile merged from what was produced. -/
def mergedProfile (ctx : ResolutionContext) (now : ℚ)
    (produced : List (Resolver × CapabilityProfile)) : CapabilityProfile :=
  (produced.map fun p => contribution ctx now p.1 p.2).foldl .merge
    (emptyProfile ctx.model ctx.deviceType now)

/-- What the outcomes come to. -/
def chainResult (ctx : ResolutionContext) (now : ℚ) (outcomes : List Outcome) :
    Except Exn CapabilityProfile :=
  match (requiredErrors outcomes).getLast?, producing outcomes with
  | some err, [] => .error (.dollin err)
  | _, produced => .ok (mergedProfile ctx now produced)

theorem foldOutcomes_start (ctx : ResolutionContext) (now : ℚ) (outcomes : List Outcome) :
    foldOutcomes ctx now outcomes { profile := emptyProfile ctx.model ctx.deviceType now } =
      { profile := mergedProfile ctx now (producing outcomes)
        produced := !(producing outcomes).isEmpty
        requiredError := (requiredErrors outcomes).getLast? } := by
  rw [foldOutcomes_eq, Bool.false_or, Option.or_none, mergedProfile]

section Chain

variable {env : Environment World ClientOp ClientAnswer} {ctx : ResolutionContext} {w w' : World}
  {result : Except Exn CapabilityProfile}

theorem traced_chainResolve (hraises : RaisesDollin env) {resolvers : List Resolver}
    {trace : List (Exchange ClientOp ClientAnswer)}
    (hrun : Coro.Traced env (chainResolve resolvers ctx) w trace result w') :
    ∃ outcomes : List Outcome, outcomes.map Prod.fst = resolvers ∧
      trace = outcomes.map (Outcome.exchange ctx) ∧ result = chainResult ctx w.now outcomes := by
  rw [chainResolve, Coro.gets_bind] at hrun
  cases hrun with
  | read hrun =>
      obtain ⟨first, rest, mid, t, rfl, hloop, hend⟩ := hrun.bind_inv
      obtain ⟨outcomes, hresolvers, rfl, rfl⟩ := traced_runChain hraises hloop
      rw [foldOutcomes_start] at hend
      refine ⟨outcomes, hresolvers, ?_⟩
      rw [chainResult]
      -- after the loop nothing is asked any more
      cases hlast : (requiredErrors outcomes).getLast? with
      | none =>
          rw [hlast] at hend
          cases hend
          exact ⟨List.append_nil _, rfl⟩
      | some err =>
          rw [hlast] at hend
          cases hparts : producing outcomes with
          | nil =>
              rw [hparts] at hend
              cases hend
              exact ⟨List.append_nil _, rfl⟩
          | cons part parts =>
              rw [hparts] at hend
              cases hend
              exact ⟨List.append_nil _, rfl⟩

end Chain

/-! ## What the merged profile holds -/

section Merged

variable {ctx : ResolutionContext} {now : ℚ} {produced : List (Resolver × CapabilityProfile)}

/-- Of a set of tokens, a contribution holds what was produced. -/
theorem mem_mergedProfile {part : CapabilityProfile → Finset String}
    (hmerge : ∀ profile other, part (profile.merge other) = part profile ∪ part other)
    (hempty : part (emptyProfile ctx.model ctx.deviceType now) = ∅)
    (hcontribution : ∀ resolver profile,
      part (contribution ctx now resolver profile) = part profile) (token : String) :
    token ∈ part (mergedProfile ctx now produced) ↔ ∃ p ∈ produced, token ∈ part p.2 := by
  rw [mergedProfile, mem_foldl_merge hmerge, hempty, or_iff_right (Finset.notMem_empty token)]
  simp [hcontribution]

theorem get?_params_mergedProfile (key : String) :
    (mergedProfile ctx now produced).params.get? key =
      produced.reverse.findSome? fun p => p.2.params.get? key := by
  rw [mergedProfile, get?_params_foldl_merge, ← List.map_reverse, List.findSome?_map]
  exact Option.or_none

theorem sources_mergedProfile :
    (mergedProfile ctx now produced).sources = (produced.flatMap sourcesOf).eraseDups := by
  have hempty : (emptyProfile ctx.model ctx.deviceType now).sources = [].eraseDups := rfl
  rw [mergedProfile, sources_foldl_merge _ hempty, List.nil_append, List.flatMap_map]
  rfl

end Merged

/-- Every run of a chain asks each of its resolvers, in order.  Whatever came of that, it raises
exactly where a required one failed and none produced a profile, and then the last such error;
otherwise what it returns is made of what was produced, in order, and of nothing else. -/
theorem chainResolve_ordered_fold {env : Environment World ClientOp ClientAnswer}
    (hraises : RaisesDollin env) {resolvers : List Resolver} {ctx : ResolutionContext}
    {w w' : World} {trace : List (Exchange ClientOp ClientAnswer)}
    {result : Except Exn CapabilityProfile}
    (hrun : Coro.Traced env (chainResolve resolvers ctx) w trace result w') :
    ∃ outcomes : List Outcome, outcomes.map Prod.fst = resolvers ∧
      trace = outcomes.map (Outcome.exchange ctx) ∧
      (∀ exn, result = .error exn ↔ producing outcomes = [] ∧
        ∃ err, (requiredErrors outcomes).getLast? = some err ∧ exn = .dollin err) ∧
      ∀ profile, result = .ok profile →
        profile = mergedProfile ctx w.now (producing outcomes) ∧
        (∀ feature, feature ∈ profile.features ↔
          ∃ p ∈ producing outcomes, feature ∈ p.2.features) ∧
        (∀ key, key ∈ profile.presentFields ↔
          ∃ p ∈ producing outcomes, key ∈ p.2.presentFields) ∧
        (∀ key, profile.params.get? key =
          (producing outcomes).reverse.findSome? fun p => p.2.params.get? key) ∧
        profile.sources = ((producing outcomes).flatMap sourcesOf).eraseDups := by
  obtain ⟨outcomes, hresolvers, htrace, hresult⟩ := traced_chainResolve hraises hrun
  refine ⟨outcomes, hresolvers, htrace, ?_, ?_⟩
  · intro exn
    rw [hresult, chainResult]
    cases (requiredErrors outcomes).getLast? with
    | none => simp
    | some err => cases producing outcomes <;> simp [eq_comm]
  · intro profile hprofile
    have hmerged : profile = mergedProfile ctx w.now (producing outcomes) := by
      rw [hprofile, chainResult] at hresult
      split at hresult
      · cases hresult
      · exact Except.ok.inj hresult
    rw [hmerged]
    exact ⟨rfl, mem_mergedProfile (fun _ _ => rfl) rfl fun _ _ => rfl,
      mem_mergedProfile (fun _ _ => rfl) rfl fun _ _ => rfl, get?_params_mergedProfile,
      sources_mergedProfile⟩

/-- A required resolver fails, an optional one does not apply, and two produce a profile. -/
def mixedOutcomes : List Outcome :=
  [(.dict, .error (.networkError "no route")),
    (.static, .ok (some { model := "", features := {"light"}, sources := ["table"] })),
    (.bitfield, .ok none),
    (.presence, .ok (some { model := "", features := ∅, presentFields := {"power"} }))]

/-- An appliance with a model of its own. -/
def mixedContext : ResolutionContext where
  deviceType := "0xE1"
  model := "M"
  thingCode := "A"
  metadata := Dict.empty
  status := Dict.empty

/-- The resolvers are asked in this order and answer so. -/
def mixedEnvironment : Environment World ClientOp ClientAnswer := fun w op answer w' =>
  w' = w ∧ (⟨op, answer⟩ : Exchange ClientOp ClientAnswer) ∈
    mixedOutcomes.map (Outcome.exchange mixedContext)

theorem raisesDollin_mixedEnvironment : RaisesDollin mixedEnvironment := by
  intro w resolver ctx exn w' hanswered
  obtain ⟨-, hmem⟩ := hanswered
  obtain ⟨outcome, -, heq⟩ := List.mem_map.mp hmem
  obtain ⟨asked, answered⟩ := outcome
  obtain ⟨hop, hanswer⟩ := Sigma.mk.inj heq
  obtain ⟨rfl, rfl⟩ := ClientOp.resolve.inj hop
  have hmapped := eq_of_heq hanswer
  cases answered with
  | ok partialProfile => cases hmapped
  | error err =>
      cases hmapped
      exact ⟨err, rfl⟩

theorem traced_mixed :
    Coro.Traced mixedEnvironment (chainResolve [.dict, .static, .bitfield, .presence] mixedContext)
      World.fresh (mixedOutcomes.map (Outcome.exchange mixedContext))
      (.ok (mergedProfile mixedContext 0 (producing mixedOutcomes))) World.fresh := by
  refine .read (.await ⟨rfl, ?_⟩ (.await ⟨rfl, ?_⟩ (.await ⟨rfl, ?_⟩ (.await ⟨rfl, ?_⟩ .done))))
  · exact .head _
  · exact .tail _ (.head _)
  · exact .tail _ (.tail _ (.head _))
  · exact .tail _ (.tail _ (.tail _ (.head _)))

theorem chainResolve_ordered_fold_mixed :
    ∃ profile, Coro.Traced mixedEnvironment
        (chainResolve [.dict, .static, .bitfield, .presence] mixedContext) World.fresh
        (mixedOutcomes.map (Outcome.exchange mixedContext)) (.ok profile) World.fresh ∧
      "light" ∈ profile.features ∧ "power" ∈ profile.presentFields ∧
      profile.sources = ["table", "presence"] := by
  refine ⟨_, traced_mixed, ?_⟩
  obtain ⟨outcomes, -, htrace, -, hmade⟩ :=
    chainResolve_ordered_fold raisesDollin_mixedEnvironment traced_mixed
  obtain rfl := (Outcome.exchange_injective mixedContext).list_map htrace
  obtain ⟨-, hfeatures, hpresent, -, hsources⟩ := hmade _ rfl
  rw [hfeatures, hpresent, hsources]
  decide +kernel

end Coordinator

end Holabrain
