import Holabrain.Cloud.CapabilityCache
import Holabrain.Coordinator.PushTopics
import Holabrain.Core.FirstSeen
import Holabrain.Core.Suspensions

/-!
# The store of the profiles

The capability profiles outlive the coordinator in a store of their own.  A resolving saves
them at once; a reported field schedules a save that is written later, from the profiles as
they are then; a load first migrates the copy that older versions kept in the config entry.
The coordinator is taken here over that store, and its operations sorted: most never ask the
store, and change no profile without a save being scheduled.
-/

namespace Holabrain

/-- The coordinator's world, what its store holds, and the legacy copy in the entry's data.  A
record that is no dictionary is `none`; where nothing is stored, the dictionary is empty. -/
structure StoredWorld where
  world : World
  stored : Dict String (Option CacheRecord) := Dict.empty
  legacy : Dict String (Option CacheRecord) := Dict.empty

/-- What the coordinator and its store suspend for. -/
inductive StoreOp
  | client (op : ClientOp)
  /-- The file is read. -/
  | load
  /-- The file is written. -/
  | write

abbrev StoreAnswer : StoreOp → Type
  | .client op => ClientAnswer op
  | .load => Except Exn (Dict String (Option CacheRecord))
  | .write => Unit

abbrev StoreM := Coro StoredWorld StoreOp StoreAnswer Exn

namespace StoredWorld

/-! ## The store -/

/-- `_cache_snapshot`. -/
def cacheSnapshot (capabilities : Dict String CapabilityProfile) :
    Dict String (Option CacheRecord) :=
  capabilities.mapValues fun _ profile => some profile.toCache

/-- The save that `async_delay_save` has scheduled, with the profiles as they are now. -/
def delayedSave (s : StoredWorld) : StoredWorld :=
  if s.world.saveScheduled then
    { s with
      stored := cacheSnapshot s.world.capabilities
      world := { s.world with saveScheduled := false } }
  else s

/-- `Store.async_save`: it takes the place of a scheduled save. -/
def asyncSave (data : Dict String (Option CacheRecord)) : StoreM Unit := do
  Coro.modify fun s => { s with
    stored := data
    world := { s.world with saveScheduled := false } }
  Coro.perform StoreOp.write

/-- `Store.async_load`: data that is still to be saved counts as saved. -/
def asyncLoad : StoreM (Dict String (Option CacheRecord)) := do
  Coro.modify delayedSave
  let answer ← (Coro.perform StoreOp.load :
    StoreM (Except Exn (Dict String (Option CacheRecord))))
  Coro.ofExcept answer

/-- `_async_read_cache`. -/
def asyncReadCache : StoreM (Dict String (Option CacheRecord)) := do
  let stored ← asyncLoad
  if !stored.isEmpty then return stored
  else do
    let legacy ← Coro.gets legacy
    if !legacy.isEmpty then do
      Coro.modify fun s => { s with legacy := Dict.empty }
      asyncSave legacy
      return legacy
    else return Dict.empty

/-- The profiles that `_async_load_capabilities` reads from the cache. -/
def profilesOf (cache : Dict String (Option CacheRecord)) : Dict String CapabilityProfile :=
  Dict.ofList (cache.items.filterMap fun entry =>
    entry.2.map fun record => (entry.1, CapabilityProfile.fromCache entry.1 record))

/-- The store answers the coordinator's loads and saves, everything else is passed on. -/
def serve : (op : ClientOp) → StoreM (ClientAnswer op)
  | .loadCache => Coro.attempt do
      let cache ← asyncReadCache
      return profilesOf cache
  | .saveCache profiles => Coro.attempt (asyncSave (cacheSnapshot profiles))
  | .call scheme path payload => Coro.perform (StoreOp.client (.call scheme path payload))
  | .extendToken => Coro.perform (StoreOp.client .extendToken)
  | .resolve resolver ctx => Coro.perform (StoreOp.client (.resolve resolver ctx))
  | .connectPush certificate => Coro.perform (StoreOp.client (.connectPush certificate))

def worldView : View StoredWorld World where
  get := world
  set s w := { s with world := w }

/-- An operation of the coordinator, over its store. -/
def kept {α : Type} (p : CoordM α) : StoreM α := p.layered worldView serve

theorem lawful_worldView : worldView.Lawful where
  get_set _ _ := rfl
  set_set _ _ _ := rfl
  set_get _ := rfl

theorem get?_cacheSnapshot (capabilities : Dict String CapabilityProfile) (key : String) :
    (cacheSnapshot capabilities).get? key =
      (capabilities.get? key).map fun profile => some profile.toCache :=
  Dict.get?_mapValues _ capabilities key

/-- A record is read as the profile it was made of, under the key it stands at. -/
theorem get?_profilesOf {cache : Dict String (Option CacheRecord)} {key : String}
    {record : CacheRecord} (h : cache.get? key = some (some record)) :
    (profilesOf cache).get? key = some (.fromCache key record) := by
  have hread : (key, CapabilityProfile.fromCache key record) ∈ cache.items.filterMap fun entry =>
      entry.2.map fun record => (entry.1, CapabilityProfile.fromCache entry.1 record) :=
    List.mem_filterMap.mpr ⟨(key, some record), Dict.mem_items.mpr h, rfl⟩
  have hnodup : ((cache.items.filterMap fun entry => entry.2.map fun record =>
      (entry.1, CapabilityProfile.fromCache entry.1 record)).map Prod.fst).Nodup := by
    rw [List.Nodup, List.pairwise_map, List.pairwise_filterMap]
    have hkeys : (cache.items.map Prod.fst).Nodup := by
      rw [Dict.map_fst_items]
      exact AList.keys_nodup cache
    apply (List.pairwise_map.mp hkeys).imp
    intro entry entry' hne read hread read' hread'
    obtain ⟨_, _, rfl⟩ := Option.map_eq_some_iff.mp hread
    obtain ⟨_, _, rfl⟩ := Option.map_eq_some_iff.mp hread'
    exact hne
  rw [profilesOf, Dict.get?_ofList]
  exact Dict.written_of_mem hnodup hread

end StoredWorld

/-! ## What leaves the profiles alone -/

namespace Coordinator

/-- Neither the profiles nor their scheduled save have changed. -/
structure SameProfiles (w w' : World) : Prop where
  capabilities : w'.capabilities = w.capabilities
  saveScheduled : w'.saveScheduled = w.saveScheduled

/-- The profiles have not changed without a save being scheduled. -/
def Banked (w w' : World) : Prop := w'.saveScheduled = true ∨ SameProfiles w w'

/-- Requests are answered by anything, where a resolver fails with nothing but errors of the
client; what happens meanwhile leaves the profiles alone. -/
def attending : Environment World ClientOp ClientAnswer := fun w op answer w' =>
  SameProfiles w w' ∧ match op, answer with
    | .resolve .., .error exn => IsDollin exn
    | _, _ => True

section Banked

variable {w w' w'' : World}

theorem SameProfiles.refl (w : World) : SameProfiles w w := ⟨rfl, rfl⟩

theorem SameProfiles.banked (h : SameProfiles w w') : Banked w w' := .inr h

theorem Banked.refl (w : World) : Banked w w := .inr (.refl w)

theorem Banked.trans (h : Banked w w') (h' : Banked w' w'') : Banked w w'' := by
  rcases h' with hscheduled | hsame
  · exact .inl hscheduled
  · rcases h with hscheduled | hsame'
    · exact .inl (hsame.saveScheduled.trans hscheduled)
    · exact .inr ⟨hsame.capabilities.trans hsame'.capabilities,
        hsame.saveScheduled.trans hsame'.saveScheduled⟩

/-- One appliance changes the profiles only where it says so. -/
theorem capabilities_absorbOne (acc : World × Bool × Bool) (entry : String × DeviceState) :
    (absorbOne acc entry).1.saveScheduled = acc.1.saveScheduled ∧
      ((absorbOne acc entry).2.1 = true ∨
        (absorbOne acc entry).1.capabilities = acc.1.capabilities ∧
          (absorbOne acc entry).2.1 = acc.2.1) := by
  simp only [absorbOne]
  split
  · exact ⟨rfl, .inr ⟨rfl, rfl⟩⟩
  split
  · exact ⟨rfl, .inr ⟨rfl, rfl⟩⟩
  split
  · exact ⟨rfl, .inr ⟨rfl, rfl⟩⟩
  · exact ⟨rfl, .inl rfl⟩

theorem capabilities_foldl_absorbOne (states : List (String × DeviceState))
    (acc : World × Bool × Bool) :
    (states.foldl absorbOne acc).1.saveScheduled = acc.1.saveScheduled ∧
      ((states.foldl absorbOne acc).2.1 = true ∨
        (states.foldl absorbOne acc).1.capabilities = acc.1.capabilities ∧
          (states.foldl absorbOne acc).2.1 = acc.2.1) := by
  induction states generalizing acc with
  | nil => exact ⟨rfl, .inr ⟨rfl, rfl⟩⟩
  | cons entry rest ih =>
      obtain ⟨hflag, hone⟩ := capabilities_absorbOne acc entry
      obtain ⟨hflag', hrest⟩ := ih (absorbOne acc entry)
      refine ⟨hflag'.trans hflag, ?_⟩
      rw [List.foldl_cons]
      rcases hrest with hdirty | ⟨hsame, hclean⟩
      · exact .inl hdirty
      · rcases hone with hdirty | ⟨hsame', hclean'⟩
        · exact .inl (hclean.trans hdirty)
        · exact .inr ⟨hsame.trans hsame', hclean.trans hclean'⟩

/-- Whatever is absorbed, a save of it is scheduled. -/
theorem banked_absorb (states : List (String × DeviceState)) (w : World) :
    Banked w (absorbStatusFields states w) := by
  obtain ⟨hflag, hfold⟩ := capabilities_foldl_absorbOne states (w, false, false)
  simp only [absorbStatusFields]
  rcases hfold with hdirty | ⟨hsame, hclean⟩
  · rw [if_pos hdirty]
    left
    split <;> rfl
  · have hno : ¬ (states.foldl absorbOne (w, false, false)).2.1 = true := by
      rw [hclean]
      exact Bool.false_ne_true
    rw [if_neg hno]
    right
    split <;> exact ⟨hsame, hflag⟩

theorem OnlyQueued.sameProfiles (h : OnlyQueued w w') : SameProfiles w w' := by
  obtain ⟨_, _, _, _, rfl, _⟩ := h
  exact ⟨rfl, rfl⟩

theorem banked_handlePush (topic : String) (payload : Members) (w : World) :
    Banked w (handlePush topic payload w) := by
  have hstamped : Banked w { w with lastPush := some w.now } := .inr ⟨rfl, rfl⟩
  rw [handlePush]
  split
  · exact hstamped
  · split
    · exact hstamped
    · apply hstamped.trans
      rw [applyFrame]
      split
      · exact (onlyQueued_fetchConsumptionOnce _).sameProfiles.banked
      next updated _ =>
        have hfolded : ∀ thingCode w, Banked w (foldInto thingCode payload updated w) :=
          fun _ _ => .inr ⟨rfl, rfl⟩
        exact (((banked_absorb _ _).trans (hfolded _ _)).trans
          (onlyQueued_noteSnapshotTrigger _ _ _ _).sameProfiles.banked).trans
            (onlyQueued_fetchConsumptionOnce _).sameProfiles.banked

theorem sameProfiles_patchState (thingCode : String) (instruction : Members) (w : World) :
    SameProfiles w (patchState thingCode instruction w) := by
  rw [patchState]
  split
  · exact .refl w
  · split
    · exact ⟨rfl, rfl⟩
    · exact .refl w

theorem sameProfiles_setMode (mode : Mode) (w : World) : SameProfiles w (setMode mode w) := by
  unfold setMode
  split
  · exact .refl w
  · cases mode <;> exact ⟨rfl, rfl⟩

theorem sameProfiles_finishScan (added removed : List String) (w : World) :
    SameProfiles w (finishScan added removed w) := by
  obtain ⟨_, _, hforgotten⟩ := forgetDevices_eq removed w
  obtain ⟨_, hsubscribed⟩ := subscribeAll_eq added (forgetDevices removed w)
  rw [finishScan_eq, hsubscribed, hforgotten]
  exact ⟨rfl, rfl⟩

theorem pollRelation_banked : PollRelation attending Banked where
  trans := Banked.trans
  answered _ _ _ _ hanswer := hanswer.1.banked
  noted _ _ := .inr ⟨rfl, rfl⟩
  counted _ _ := .inr ⟨rfl, rfl⟩
  absorbed := banked_absorb
  fetchDue w := (onlyQueued_fetchConsumptionOnce w).sameProfiles.banked
  published _ _ := .inr ⟨rfl, rfl⟩

theorem fetchRelation_banked : FetchRelation attending Banked where
  trans := Banked.trans
  answered _ _ _ _ hanswer := hanswer.1.banked
  stored _ _ _ _ := .inr ⟨rfl, rfl⟩

end Banked

/-! ## What does not ask the store -/

/-- A request of the client, not of the store. -/
def IsCloud : ClientOp → Prop
  | .loadCache => False
  | .saveCache _ => False
  | _ => True

section Asks

open Coro (Asks)

theorem asks_call (scheme : Scheme) (path : String) (payload : Json) :
    (Client.call scheme path payload).Asks IsCloud :=
  (Asks.perform (i := ClientOp.call scheme path payload) trivial).bind fun _ => .ofExcept _

theorem asks_asyncList : Client.asyncList.Asks IsCloud := by
  refine (asks_call _ _ _).bind fun data => ?_
  split
  · exact (Asks.ofExcept _).bind fun _ => (Asks.modify _).bind fun _ => .pure _
  · exact .pure _

theorem asks_resolveLoop (force : Bool) (now : ℚ) (entries : List (String × Device))
    (seen : List String) (changed : Bool) :
    (resolveLoop force now entries seen changed).Asks IsCloud := by
  have hresolve : ∀ resolver ctx, (Client.resolve resolver ctx).Asks IsCloud := fun resolver ctx =>
    (Asks.perform (i := ClientOp.resolve resolver ctx) trivial).bind fun _ => .ofExcept _
  have hchain : ∀ ctx now chain state, (runChain ctx now chain state).Asks IsCloud := by
    intro ctx now chain state
    induction chain generalizing state with
    | nil => exact .pure _
    | cons resolver rest ih =>
        refine (hresolve resolver ctx).attempt.bind fun answer => ?_
        rcases answer with exn | profile
        · cases exn <;> first | exact ih _ | exact .throw _
        · exact ih _
  have hresolved : ∀ ctx, (asyncResolve ctx).Asks IsCloud := by
    intro ctx
    refine (Asks.gets _).bind fun now => (hchain ctx now _ _).bind fun state => ?_
    split
    · exact .throw _
    · exact .pure _
  induction entries generalizing seen changed with
  | nil => exact .pure _
  | cons entry rest ih =>
      refine .ite (ih _ _) ((Asks.gets _).bind fun w => .ite (ih _ _) ?_)
      refine (hresolved _).attempt.bind fun answer => ?_
      rcases answer with exn | profile
      · cases exn <;> first | exact ih _ _ | exact .throw _
      · exact (Asks.modify _).bind fun _ => ih _ _

theorem asks_asyncStartPush : asyncStartPush.Asks IsCloud := by
  have hcertificate : Client.asyncCreateCertificate.Asks IsCloud := by
    refine (asks_call _ _ _).bind fun data => ?_
    split
    · exact .ite (.pure _) (.throw _)
    · exact .throw _
  have hopen : openPush.Asks IsCloud := hcertificate.bind fun certificate =>
    (Asks.perform (i := ClientOp.connectPush certificate) trivial).bind fun _ => .ofExcept _
  refine hopen.attempt.bind fun answer => ?_
  rcases answer with exn | opened
  · cases exn <;> first | exact .modify _ | exact .throw _
  · exact .modify _

theorem asks_asyncSendInstruction (thingCode : String) (instruction : Members) :
    (asyncSendInstruction thingCode instruction).Asks IsCloud := by
  refine Asks.bind ((Asks.gets _).bind fun w => ?_) fun _ => .modify _
  exact .ite ((asks_call _ _ _).bind fun _ => .pure _) ((asks_call _ _ _).bind fun _ => .pure _)

theorem asks_asyncFetchConsumption : asyncFetchConsumption.Asks IsCloud := by
  have hreports : ∀ reports, (fetchReports reports).Asks IsCloud := by
    intro reports
    induction reports with
    | nil => exact .pure _
    | cons entry rest ih =>
        refine Asks.bind (.attempt ((asks_call _ _ _).bind fun _ => .ofExcept _)) fun answer => ?_
        rcases answer with exn | report
        · exact .pure _
        · exact (Asks.modify _).bind fun _ => ih
  have hlisted : (do
      let w ← Coro.gets id
      fetchReports ((meteredDevices w).flatMap fun thingCode =>
        reportPeriods.map fun period => (thingCode, period)) : CoordM Unit).Asks IsCloud :=
    (Asks.gets _).bind fun _ => hreports _
  refine (Asks.gets _).bind fun catalog => .ite ?_ hlisted
  refine Asks.bind (.attempt ((asks_call _ _ _).bind fun _ => .pure _)) fun answer => ?_
  rcases answer with exn | catalog
  · exact hlisted
  · exact (Asks.modify _).bind fun _ => hlisted

theorem asks_queryState (thingCode : String) : (queryState thingCode).Asks IsCloud := by
  have hstate : (Client.asyncGetState thingCode).Asks IsCloud := by
    refine (Asks.gets _).bind fun w => Asks.bind ?_ fun data => .ofExcept _
    exact .ite (asks_call _ _ _) (asks_call _ _ _)
  exact (Asks.modify _).bind fun _ => hstate.attempt.bind fun answer =>
    (Asks.modify _).bind fun _ => .pure answer

theorem asks_pollLoop (codes : List String) (states : Dict String DeviceState) (errors : ℕ) :
    (pollLoop codes states errors).Asks IsCloud := by
  induction codes generalizing states errors with
  | nil => exact .pure _
  | cons thingCode rest ih =>
      refine (asks_queryState thingCode).bind fun answer => ?_
      have hstop : (do
          let w ← Coro.gets id
          return (states, w.devices.keys.length) :
            CoordM (Dict String DeviceState × ℕ)).Asks IsCloud :=
        (Asks.gets _).bind fun _ => .pure _
      rcases answer with exn | state
      · cases exn with
        | dollin err => exact .ite hstop (.ite (.throw _) (.ite hstop (ih _ _)))
        | _ => exact .throw _
      · exact ih _ _

theorem asks_asyncRefresh : asyncRefresh.Asks IsCloud := by
  have hextend : ∀ explicit, (asyncMaybeExtendToken explicit).Asks IsCloud := by
    intro explicit
    refine (Asks.gets _).bind fun w => .ite (.pure _) (.ite (.pure _) ?_)
    refine (Asks.modify _).bind fun _ => Asks.bind (.attempt ?_) fun answer => ?_
    · exact (Asks.perform (i := ClientOp.extendToken) trivial).bind fun _ => .ofExcept _
    · rcases answer with exn | token
      · cases exn <;> first | exact .pure _ | exact .throw _
      · exact .pure _
  have hfinish : ∀ states errors, (finishPoll states errors).Asks IsCloud := fun states errors =>
    (Asks.gets _).bind fun w => .ite
      ((Asks.modify _).bind fun _ => .ite (.throw _) ((Asks.modify _).bind fun _ => .pure _))
      ((Asks.modify _).bind fun _ => (Asks.modify _).bind fun _ => .pure _)
  have hpoll : ∀ explicit, (pollDevices explicit).Asks IsCloud := fun explicit =>
    (hextend explicit).bind fun _ => (Asks.gets _).bind fun w => (Asks.modify _).bind fun _ =>
      (asks_pollLoop _ _ _).bind fun (states, errors) => hfinish states errors
  have hupdate : asyncUpdateData.Asks IsCloud :=
    (Asks.gets _).bind fun explicit => (Asks.modify _).bind fun _ => (Asks.gets _).bind fun w =>
      .ite (.pure _) ((Asks.modify _).bind fun _ => hpoll explicit)
  refine hupdate.attempt.bind fun answer => ?_
  cases answer with
  | error exn => exact .pure _
  | ok states => exact .modify _

end Asks

end Coordinator

end Holabrain
