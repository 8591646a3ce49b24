import Holabrain.Coordinator.ProfileStore

/-!
# Profiles across a restart

A load replaces the profiles in memory by older ones, and a resolving changes them one after
the other; both save them only at their end, some suspensions later, while other operations
load, resolve and report.  Whoever changes the profiles owes their save: once all have ended
and the scheduled save is written, the store holds every profile in memory, and a coordinator
started after that reads it back.
-/

namespace Holabrain

namespace StoredWorld

open Coordinator

/-- A profile that the store does not hold, with no save of it scheduled. -/
def Unsaved (s : StoredWorld) (key : String) : Prop :=
  s.world.saveScheduled = false ∧ ∃ profile, s.world.capabilities.get? key = some profile ∧
    s.stored.get? key ≠ some (some profile.toCache)

/-- The client answers as before, a read of the file brings anything; profiles and store are
changed by the coordinator alone. -/
def undisturbed : Environment StoredWorld StoreOp StoreAnswer := fun s op answer s' =>
  SameProfiles s.world s'.world ∧ s' = { s with world := s'.world } ∧ match op, answer with
    | .client op, answer => attending s.world op answer s'.world
    | _, _ => True

section Unsaved

variable {s s' s₀ : StoredWorld} {owed owed' : Set String}

theorem still_of_banked {w : World} (h : Banked s.world w) :
    Still Unsaved s { s with world := w } := by
  rintro key ⟨hclean, profile, hprofile, hstored⟩
  rcases h with hscheduled | hsame
  · rw [hscheduled] at hclean
    cases hclean
  · refine ⟨hsame.saveScheduled.symm.trans hclean, profile, ?_, hstored⟩
    rw [← hsame.capabilities]
    exact hprofile

theorem still_of_undisturbed {op : StoreOp} {answer : StoreAnswer op}
    (h : undisturbed s op answer s') : Still Unsaved s s' := by
  obtain ⟨hsame, hput, -⟩ := h
  rw [hput]
  exact still_of_banked hsame.banked

/-- The profiles are saved as they are. -/
theorem not_unsaved_of_snapshot (hstored : s.stored = cacheSnapshot s.world.capabilities)
    (key : String) : ¬ Unsaved s key := by
  rintro ⟨-, profile, hprofile, hmissing⟩
  apply hmissing
  rw [hstored, get?_cacheSnapshot, hprofile]
  rfl

/-- Nothing is owed for a scheduled save. -/
theorem still_delayedSave (s : StoredWorld) : Still Unsaved s (delayedSave s) := by
  intro key hunsaved
  rw [delayedSave] at hunsaved
  split at hunsaved
  · exact absurd hunsaved (not_unsaved_of_snapshot rfl key)
  · exact hunsaved

theorem balanced_of_saved (h : ∀ key, ¬ Unsaved s key) : Balanced Unsaved owed owed' s₀ s :=
  fun key hunsaved => absurd hunsaved (h key)

end Unsaved

/-- Whatever the others do, no profile is left unsaved by this coroutine. -/
abbrev Saves {α : Type} (p : StoreM α) : Prop :=
  ∀ s, p.Meets undisturbed (fun _ _ => True) Unsaved s

/-- A request of the client passes the store. -/
theorem serve_cloud {op : ClientOp} (hop : IsCloud op) :
    ∃ (below : StoreOp) (answer : StoreAnswer below → ClientAnswer op),
      serve op = (Coro.perform below >>= fun o => pure (answer o)) ∧
        ∀ u o t, undisturbed u below o t →
          attending (worldView.get u) op (answer o) (worldView.get t) ∧
            t = worldView.set u (worldView.get t) := by
  cases op with
  | loadCache => exact hop.elim
  | saveCache profiles => exact hop.elim
  | call scheme path payload =>
      exact ⟨.client (.call scheme path payload), id, rfl, fun _ _ _ h => ⟨h.2.2, h.2.1⟩⟩
  | extendToken => exact ⟨.client .extendToken, id, rfl, fun _ _ _ h => ⟨h.2.2, h.2.1⟩⟩
  | resolve resolver ctx =>
      exact ⟨.client (.resolve resolver ctx), id, rfl, fun _ _ _ h => ⟨h.2.2, h.2.1⟩⟩
  | connectPush certificate =>
      exact ⟨.client (.connectPush certificate), id, rfl, fun _ _ _ h => ⟨h.2.2, h.2.1⟩⟩

/-! ## Loading and resolving -/

theorem kept_bind {α β : Type} (p : CoordM α) (f : α → CoordM β) :
    kept (p >>= f) = kept p >>= fun a => kept (f a) := Coro.layered_bind p f

theorem kept_loadCache : kept Client.loadCache = do
    let cache ← asyncReadCache
    return profilesOf cache := by
  rw [Client.loadCache, kept, Coro.layered_bind, Coro.layered_perform]
  exact Coro.attempt_bind_ofExcept _

theorem kept_saveCache (profiles : Dict String CapabilityProfile) :
    kept (Client.saveCache profiles) = asyncSave (cacheSnapshot profiles) := by
  rw [Client.saveCache, kept, Coro.layered_bind, Coro.layered_perform]
  exact Coro.attempt_bind_ofExcept _

/-- Answered so, resolving obeys whatever relation there is. -/
theorem resolving_attending :
    Resolving attending (fun _ _ => True) fun _ _ => False where
  trans _ _ := trivial
  answered _ _ _ _ _ hanswer := by
    refine ⟨trivial, fun exn herror => ?_⟩
    subst herror
    exact .inl hanswer.2
  stored _ _ _ := trivial

section Owes

variable {α : Type} {s s₀ : StoredWorld} {owed : Set String}

/-- What is owed when data has been handed to the store, until it is written. -/
theorem owes_asyncSave {data : Dict String (Option CacheRecord)}
    {post : Except Exn Unit → Set String → StoredWorld → StoredWorld → Prop} (owed' : Set String)
    (hbalanced : Balanced Unsaved owed owed' s₀
      { s with stored := data, world := { s.world with saveScheduled := false } })
    (hpost : ∀ u t, Balanced Unsaved owed' owed' u t → post (.ok ()) owed' u t) :
    (asyncSave data).owes undisturbed (fun _ _ => True) Unsaved post owed s₀ s := by
  rw [asyncSave, Coro.owes_bind, Coro.owes_modify]
  refine ⟨owed', trivial, hbalanced, fun u _ answer t hanswer => ?_⟩
  exact hpost u t ((Balanced.refl owed' u).still (still_of_undisturbed hanswer))

/-- A resolving saves in the end whatever it has changed, and whatever has been changed before
it in its block. -/
theorem owes_asyncResolveDevices (force : Bool)
    {post : Except Exn Bool → Set String → StoredWorld → StoredWorld → Prop}
    (hpost : ∀ changed owed t₀ t, Balanced Unsaved owed ∅ t₀ t → post (.ok changed) owed t₀ t) :
    (kept (asyncResolveDevices force)).owes undisturbed (fun _ _ => True) Unsaved post owed s₀
      s := by
  rw [asyncResolveDevices, kept_bind, Coro.owes_bind]
  change (kept (resolveLoop force s.world.now s.world.devices.items [] false >>= _)).owes _ _ _
    post owed s₀ s
  rw [kept_bind, Coro.owes_bind]
  have hloop : Coro.under undisturbed (fun _ _ => True) (fun _ _ => True)
      (kept (resolveLoop force s.world.now s.world.devices.items [] false))
      (fun result _ _ => True ∧ ∀ exn, result = .error exn → False) s s :=
    Coro.under_layered lawful_worldView (fun _ => serve_cloud) (fun _ _ _ => trivial)
      (fun _ _ _ hkept => hkept) (asks_resolveLoop _ _ _ _ _)
      (resolving_attending.resolveLoop _ _ _ _ _ s.world s.world trivial)
  apply Coro.Quietly.owes_all (fun _ _ => trivial) _ hloop
  intro result owed t₀ t hraises
  cases result with
  | error exn => exact (hraises exn rfl).elim
  | ok changed =>
      dsimp only
      rw [kept_bind, Coro.owes_bind]
      change (kept (if t.world.capabilities.isEmpty then _ else _)).owes _ _ _ post owed t₀ t
      rw [kept, Coro.layered_ite, Coro.owes_ite]
      split
      next hempty =>
        apply hpost
        apply balanced_of_saved
        rintro key ⟨-, profile, hprofile, -⟩
        rw [Dict.isEmpty_of_mem (Dict.mem_of_get?_eq_some hprofile)] at hempty
        cases hempty
      next =>
        rw [← kept, kept_bind, Coro.owes_bind, kept_saveCache]
        apply owes_asyncSave ∅
        · exact balanced_of_saved (not_unsaved_of_snapshot rfl)
        · exact fun u t hwritten => hpost changed ∅ u t hwritten

/-- Before the cache is read nothing is owed; what is migrated may be anything. -/
theorem owes_asyncReadCache
    {post : Except Exn (Dict String (Option CacheRecord)) → Set String → StoredWorld →
      StoredWorld → Prop}
    (hbalanced : Balanced Unsaved owed ∅ s₀ s)
    (hfailed : ∀ exn u t, Balanced Unsaved ∅ ∅ u t → post (.error exn) ∅ u t)
    (hread : ∀ cache owed u t, post (.ok cache) owed u t) :
    asyncReadCache.owes undisturbed (fun _ _ => True) Unsaved post owed s₀ s := by
  rw [asyncReadCache, Coro.owes_bind, asyncLoad, Coro.owes_bind, Coro.owes_modify]
  dsimp only
  rw [Coro.owes_bind]
  refine ⟨∅, trivial, hbalanced.still (still_delayedSave s), fun u _ answer t hanswer => ?_⟩
  cases answer with
  | error exn => exact hfailed exn u t ((Balanced.refl ∅ u).still (still_of_undisturbed hanswer))
  | ok stored =>
      change (if (!stored.isEmpty) = true then pure stored else _ : StoreM _).owes _ _ _ post ∅
        u t
      rw [Coro.owes_ite]
      split
      · exact hread stored ∅ u t
      · change (if (!t.legacy.isEmpty) = true then _ else _ : StoreM _).owes _ _ _ post ∅ u t
        rw [Coro.owes_ite]
        split
        · rw [Coro.owes_bind, Coro.owes_modify]
          dsimp only
          rw [Coro.owes_bind]
          apply owes_asyncSave Set.univ
          · exact fun key _ => .inl (Set.mem_univ key)
          · exact fun v t' _ => hread t.legacy Set.univ v t'
        · exact hread Dict.empty ∅ u t

/-- So does the loading of the profiles, with all that it reads. -/
theorem owes_asyncLoadCapabilities
    {post : Except Exn Unit → Set String → StoredWorld → StoredWorld → Prop}
    (hbalanced : Balanced Unsaved owed ∅ s₀ s)
    (hpost : ∀ result owed t₀ t, Balanced Unsaved owed ∅ t₀ t → post result owed t₀ t) :
    (kept asyncLoadCapabilities).owes undisturbed (fun _ _ => True) Unsaved post owed s₀ s := by
  rw [asyncLoadCapabilities, kept_bind, kept_loadCache, Coro.owes_bind, Coro.owes_bind]
  apply owes_asyncReadCache hbalanced
  · exact fun exn u t hfailed => hpost _ ∅ u t hfailed
  · intro cache owed u t
    -- Whatever cache is read, all of it is saved again.
    change (kept (asyncResolveDevices false >>= fun _ => pure ())).owes _ _ _ post owed u
      { t with world := { t.world with capabilities := profilesOf cache } }
    rw [kept_bind, Coro.owes_bind]
    exact owes_asyncResolveDevices false fun _ owed v t' hsaved => hpost _ owed v t' hsaved

end Owes

/-! ## All that runs over the store -/

section Kept

variable {α : Type} {s s₀ : StoredWorld} {owed : Set String}

@[simp]
theorem owes_kept_pure (a : α)
    (post : Except Exn α → Set String → StoredWorld → StoredWorld → Prop) :
    (kept (pure a)).owes undisturbed (fun _ _ => True) Unsaved post owed s₀ s ↔
      post (.ok a) owed s₀ s := Iff.rfl

@[simp]
theorem owes_kept_gets (f : World → α)
    (post : Except Exn α → Set String → StoredWorld → StoredWorld → Prop) :
    (kept (Coro.gets f)).owes undisturbed (fun _ _ => True) Unsaved post owed s₀ s ↔
      post (.ok (f s.world)) owed s₀ s := Iff.rfl

@[simp]
theorem owes_kept_modify (f : World → World)
    (post : Except Exn Unit → Set String → StoredWorld → StoredWorld → Prop) :
    (kept (Coro.modify f)).owes undisturbed (fun _ _ => True) Unsaved post owed s₀ s ↔
      post (.ok ()) owed s₀ { s with world := f s.world } := Iff.rfl

theorem owes_kept_ite (c : Prop) [Decidable c] (p q : CoordM α)
    (post : Except Exn α → Set String → StoredWorld → StoredWorld → Prop) :
    (kept (if c then p else q)).owes undisturbed (fun _ _ => True) Unsaved post owed s₀ s ↔
      if c then (kept p).owes undisturbed (fun _ _ => True) Unsaved post owed s₀ s
      else (kept q).owes undisturbed (fun _ _ => True) Unsaved post owed s₀ s := by
  split <;> rfl

end Kept

section Saves

variable {s s₀ : StoredWorld} {owed owed' : Set String} {α : Type}

theorem still_settles {t : StoredWorld} (h : Still Unsaved s t) : True ∧ Still Unsaved s t :=
  ⟨trivial, h⟩

/-- What leaves the profiles alone carries a debt along. -/
theorem owes_of_blocks {p : CoordM α}
    {post : Except Exn α → Set String → StoredWorld → StoredWorld → Prop}
    (hasks : p.Asks IsCloud) (h : ∀ w, p.Obeys attending Banked w w)
    (hbalanced : Balanced Unsaved owed owed' s₀ s)
    (hpost : ∀ result owed t₀ t, Balanced Unsaved owed owed' t₀ t → post result owed t₀ t) :
    (kept p).owes undisturbed (fun _ _ => True) Unsaved post owed s₀ s := by
  have hobeys : Coro.under undisturbed (fun _ _ => True) (Still Unsaved) (kept p)
      (fun result t₀ t => Still Unsaved t₀ t ∧ ∀ exn, result = .error exn → True) s s :=
    Coro.under_layered lawful_worldView (fun _ => serve_cloud)
      (fun t w hbanked => still_of_banked hbanked)
      (fun _ t w hbanked => ⟨still_of_banked hbanked, fun _ _ => trivial⟩) hasks (h s.world)
  apply Coro.Quietly.carries (fun _ => trivial) (fun _ _ => trivial) still_settles trivial
    hbalanced _ hobeys
  exact fun result owed t₀ t _ hcarried _ => hpost result owed t₀ t hcarried

/-- Whatever leaves the profiles alone leaves nothing unsaved. -/
theorem saves_of_obeys {p : CoordM α} (hasks : p.Asks IsCloud)
    (h : ∀ w, p.Obeys attending Banked w w) : Saves (kept p) := fun s =>
  owes_of_blocks hasks h (.refl ∅ s) fun _ _ _ _ hbalanced => ⟨trivial, hbalanced⟩

theorem saves_modify {f : World → World} (hf : ∀ w, Banked w (f w)) :
    Saves (kept (Coro.modify f)) := fun s =>
  ⟨trivial, (Balanced.refl ∅ s).still (still_of_banked (hf s.world))⟩

theorem blocks_asyncList : Coro.Blocks attending Banked Client.asyncList := by
  refine (pollRelation_banked.call _ _ _).bind fun data => ?_
  split
  · refine (Coro.Blocks.ofExcept _).bind fun devices => Coro.Blocks.bind ?_ fun _ => .pure _
    exact pollRelation_banked.modify fun w => .inr ⟨rfl, rfl⟩
  · exact .pure _

theorem obeys_asyncSendInstruction (thingCode : String) (instruction : Members) (w : World) :
    (asyncSendInstruction thingCode instruction).Obeys attending Banked w w := by
  have hsend : Coro.Blocks attending Banked (asyncSendInstruction thingCode instruction) := by
    refine Coro.Blocks.bind ((Coro.Blocks.gets _).bind fun w => ?_) fun _ => ?_
    · exact .ite ((pollRelation_banked.call _ _ _).bind fun _ => .pure _)
        ((pollRelation_banked.call _ _ _).bind fun _ => .pure _)
    · exact pollRelation_banked.modify fun w =>
        (sameProfiles_patchState thingCode instruction w).banked
  exact hsend w w (.refl w)

theorem obeys_asyncStartPush (w : World) : asyncStartPush.Obeys attending Banked w w := by
  have hopen : Coro.Blocks attending Banked openPush := by
    refine Coro.Blocks.bind ?_ fun certificate => (pollRelation_banked.perform _).bind fun _ =>
      .ofExcept _
    refine (pollRelation_banked.call _ _ _).bind fun data => ?_
    split
    · exact .ite (.pure _) (.throw _)
    · exact .throw _
  have hstart : Coro.Blocks attending Banked asyncStartPush := by
    refine hopen.attempt.bind fun answer => ?_
    have hsubscribed : Coro.Blocks attending Banked (settlePush (.ok ())) := by
      apply pollRelation_banked.modify
      intro w
      obtain ⟨_, hsubscribed⟩ := subscribeAll_eq w.devices.keys { w with mqtt := some [] }
      rw [hsubscribed]
      exact .inr ⟨rfl, rfl⟩
    have hdropped : Coro.Blocks attending Banked
        (Coro.modify fun w => { w with mqtt := none } : CoordM Unit) :=
      pollRelation_banked.modify fun w => .inr ⟨rfl, rfl⟩
    rcases answer with exn | opened
    · cases exn <;> first | exact hdropped | exact .throw _
    · exact hsubscribed
  exact hstart w w (.refl w)

theorem saves_asyncScanDevices : Saves (kept asyncScanDevices) := by
  intro s
  rw [Coro.Meets, asyncScanDevices, kept_bind, Coro.owes_bind]
  apply owes_of_blocks asks_asyncList (fun w => blocks_asyncList w w (.refl w)) (.refl ∅ s)
  intro result owed t₀ t hlisted
  cases result with
  | error exn => exact ⟨trivial, hlisted⟩
  | ok listed =>
      have hdevices : ∀ devices, Balanced Unsaved owed ∅ t₀
          { t with world := t.world.setDevices devices } := fun devices =>
        hlisted.still (still_of_banked (.inr ⟨rfl, rfl⟩))
      have hfinish : ∀ added removed owed u v, Balanced Unsaved owed ∅ u v →
          Balanced Unsaved owed ∅ u { v with world := finishScan added removed v.world } :=
        fun added removed _ _ v hv =>
          hv.still (still_of_banked (sameProfiles_finishScan added removed v.world).banked)
      simp only [kept_bind, Coro.owes_bind, owes_kept_gets, owes_kept_modify, owes_kept_ite,
        owes_kept_pure]
      split
      · exact ⟨trivial, hdevices _⟩
      · split
        · apply owes_asyncLoadCapabilities (hdevices _)
          intro result owed u v hloaded
          cases result with
          | error exn => exact ⟨trivial, hloaded⟩
          | ok loaded => exact ⟨trivial, hfinish _ _ owed u v hloaded⟩
        · exact ⟨trivial, hfinish _ _ owed t₀ _ (hdevices _)⟩

theorem saves_asyncSetup : Saves (kept asyncSetup) := by
  intro s
  rw [Coro.Meets, asyncSetup, kept_bind, Coro.owes_bind]
  apply owes_of_blocks (.attempt asks_asyncList)
    (fun w => blocks_asyncList.attempt w w (.refl w)) (.refl ∅ s)
  intro result owed t₀ t hlisted
  rcases result with exn | exn | devices
  · exact ⟨trivial, hlisted⟩
  · cases exn <;> exact ⟨trivial, hlisted⟩
  · have hinventory : Balanced Unsaved owed ∅ t₀ { t with
        world := reportUnsupported (pruneRegistry
          (t.world.setDevices (Client.byThingCode devices))) } := by
      obtain ⟨_, _, hpruned⟩ := forgetDevices_eq
        (staleDevices (t.world.setDevices (Client.byThingCode devices)))
        (t.world.setDevices (Client.byThingCode devices))
      rw [pruneRegistry, hpruned]
      exact hlisted.still (still_of_banked (.inr ⟨rfl, rfl⟩))
    simp only [kept_bind, Coro.owes_bind, owes_kept_modify]
    apply owes_asyncLoadCapabilities hinventory
    intro result owed u v hloaded
    cases result with
    | error exn => exact ⟨trivial, hloaded⟩
    | ok loaded =>
        apply owes_of_blocks asks_asyncStartPush obeys_asyncStartPush hloaded
        intro result owed u v hstarted
        cases result with
        | error exn => exact ⟨trivial, hstarted⟩
        | ok started => exact ⟨trivial, hstarted.still (still_of_banked (.inr ⟨rfl, rfl⟩))⟩

theorem saves_asyncRefreshCapabilities (force : Bool) :
    Saves (kept (asyncRefreshCapabilities force)) := by
  intro s
  rw [Coro.Meets, asyncRefreshCapabilities, kept_bind, Coro.owes_bind]
  apply owes_asyncResolveDevices force
  intro changed owed t₀ t hsaved
  refine ⟨trivial, hsaved.still (still_of_banked ?_)⟩
  dsimp only
  split <;> exact .inr ⟨rfl, rfl⟩

theorem saves_of_activity {w : World} {p : CoordM Unit} (h : Coordinator.Activity w p) :
    Saves (kept p) := by
  cases h with
  | scan =>
      rw [kept_bind]
      exact fun s => (saves_asyncScanDevices s).bind_pure ()
  | update =>
      exact saves_of_obeys asks_asyncRefresh fun w =>
        pollRelation_banked.obeys_asyncRefresh (.inr ⟨rfl, rfl⟩)
  | fetch =>
      exact saves_of_obeys asks_asyncFetchConsumption fun w =>
        fetchRelation_banked.asyncFetchConsumption (fun _ _ => .inr ⟨rfl, rfl⟩) w w (.refl w)
  | revalidate force =>
      rw [kept_bind]
      exact fun s => (saves_asyncRefreshCapabilities force s).bind_pure ()
  | command thingCode instruction =>
      exact saves_of_obeys (asks_asyncSendInstruction thingCode instruction)
        (obeys_asyncSendInstruction thingCode instruction)
  | frame topic payload => exact saves_modify (banked_handlePush topic payload)
  | refreshNow => exact saves_modify fun _ => .inr ⟨rfl, rfl⟩
  | mode mode => exact saves_modify fun w => (sameProfiles_setMode mode w).banked
  | time now => exact saves_modify fun _ => .inr ⟨rfl, rfl⟩

end Saves

/-- What runs over the store: the setup, whatever an entry runs beside it, and the scheduled
save, which is written when its delay is over and when Home Assistant stops. -/
inductive Activity : StoredWorld → StoreM Unit → Prop
  | setup (s : StoredWorld) : Activity s (kept asyncSetup)
  | beside (s : StoredWorld) {p : CoordM Unit} (hp : Coordinator.Activity s.world p) :
      Activity s (kept p)
  | delayedSave (s : StoredWorld) : Activity s (Coro.modify delayedSave)

theorem saves_of_stored_activity {s : StoredWorld} {p : StoreM Unit} (h : Activity s p) :
    Saves p := by
  cases h with
  | setup => exact saves_asyncSetup
  | beside hp => exact saves_of_activity hp
  | delayedSave => exact fun s => ⟨trivial, (Balanced.refl ∅ s).still (still_delayedSave s)⟩

/-- Home Assistant is started again: the scheduled save has been written, a new coordinator
finds what is stored. -/
def restarted (w : World) (s : StoredWorld) : StoredWorld :=
  { delayedSave s with world := { w with saveScheduled := false } }

/-- The file is read as it was written, and nothing else happens. -/
def alone : Environment StoredWorld StoreOp StoreAnswer := fun s op answer s' =>
  s' = s ∧ match op, answer with
    | .load, answer => answer = .ok s.stored
    | _, _ => True

section Restart

variable {s s₀ s' : StoredWorld} {key : String} {profile : CapabilityProfile} {w : World}

/-- Once the scheduled save is written, what is known is stored. -/
theorem get?_delayedSave (hsaved : ¬ Unsaved s key)
    (hknown : s.world.capabilities.get? key = some profile) :
    (delayedSave s).stored.get? key = some (some profile.toCache) := by
  rw [delayedSave]
  split
  next =>
    rw [get?_cacheSnapshot, hknown]
    rfl
  next hunscheduled =>
    by_contra hmissing
    exact hsaved ⟨Bool.eq_false_iff.mpr hunscheduled, profile, hknown, hmissing⟩

/-- What is stored is what a coordinator that starts alone reads. -/
theorem wp_loadCache_alone {record : CacheRecord}
    (hstored : s.stored.get? key = some (some record)) (hsave : s.world.saveScheduled = false) :
    Coro.wp alone (kept Client.loadCache) (fun result _ => ∀ profiles, result = .ok profiles →
      profiles.get? key = some (.fromCache key record)) s := by
  have hpending : delayedSave s = s := by
    rw [delayedSave, hsave]
    rfl
  have hsome : s.stored.isEmpty = false :=
    Dict.isEmpty_of_mem (Dict.mem_of_get?_eq_some hstored)
  rw [kept_loadCache, Coro.wp_bind, asyncReadCache, Coro.wp_bind, asyncLoad, Coro.wp_bind,
    Coro.wp_modify, hpending]
  dsimp only
  rw [Coro.wp_bind]
  rintro answer t ⟨rfl, rfl⟩
  change Coro.wp alone (if (!t.stored.isEmpty) = true then pure t.stored else _ : StoreM _) _ t
  rw [hsome, Bool.not_false, if_pos rfl, Coro.wp_pure]
  rintro profiles ⟨⟩
  exact get?_profilesOf hstored

/-- However a setup, scans, updates, revalidations, commands and frames run interleaved over the
store, once all of them have ended every profile in memory outlives the coordinator: the one
that is started after it reads each of them back under the key it is kept at, which becomes its
model, and otherwise as it was. -/
theorem profiles_survive_restart {pool : Pool StoredWorld StoreOp StoreAnswer Exn Unit}
    {profiles : Dict String CapabilityProfile} (hfresh : s₀.world.capabilities = Dict.empty)
    (hrun : Pool.Run undisturbed Activity { shared := s₀, threads := [] } pool)
    (hended : ∀ p ∈ pool.threads, p.hasEnded = true)
    (hknown : pool.shared.world.capabilities.get? key = some profile)
    (hrestart : Coro.Exec alone (kept Client.loadCache) (restarted w pool.shared) (.ok profiles)
      s') : profiles.get? key = some { profile with model := key } := by
  have hstart : ∀ key, ¬ Unsaved s₀ key := by
    rintro key ⟨-, profile, hprofile, -⟩
    rw [hfresh] at hprofile
    cases hprofile
  obtain ⟨-, hsettled⟩ := hrun.settled (fun _ => trivial) (fun _ _ => trivial)
    (fun s p _ hactivity => saves_of_stored_activity hactivity s) rfl hstart
  have hstored : (restarted w pool.shared).stored.get? key = some (some profile.toCache) :=
    get?_delayedSave (hsettled hended key) hknown
  rw [hrestart.post (wp_loadCache_alone hstored rfl) profiles rfl,
    CapabilityProfile.fromCache_toCache]

end Restart

/-! ### A field that is reported once -/

/-- An account whose store reads what is written, with nothing in between. -/
def reading (cloud : World → (op : ClientOp) → ClientAnswer op × World) (s : StoredWorld) :
    (op : StoreOp) → StoreAnswer op × StoredWorld
  | .client op => ((cloud s.world op).1, { s with world := (cloud s.world op).2 })
  | .load => (.ok s.stored, s)
  | .write => ((), s)

theorem undisturbed_reading (s : StoredWorld) (op : StoreOp) :
    undisturbed s op (reading (account ["A"]) s op).1 (reading (account ["A"]) s op).2 := by
  cases op with
  | load => exact ⟨.refl _, rfl, trivial⟩
  | write => exact ⟨.refl _, rfl, trivial⟩
  | client op => cases op <;> exact ⟨.refl _, rfl, .refl _, trivial⟩

theorem alone_reading (s : StoredWorld) (op : StoreOp) :
    alone s op (reading (account ["A"]) s op).1 (reading (account ["A"]) s op).2 := by
  cases op with
  | load => exact ⟨rfl, rfl⟩
  | write => exact ⟨rfl, trivial⟩
  | client op => cases op <;> exact ⟨rfl, trivial⟩

/-- An entry in Europe before its setup, with an empty store. -/
def unloaded : StoredWorld where
  world := { World.fresh with wiring := { World.fresh.wiring with region := "eu" } }

/-- "A" is set up and polled, then it reports a key it has not reported before. -/
def reported : Pool StoredWorld StoreOp StoreAnswer Exn Unit :=
  Pool.launch
    (kept (Coro.modify (handlePush "eu/eu_A/dev" [("status", .obj [("salt", .str "1")])])))
    ((Pool.resume (reading (account ["A"])) 1)^[2] (Pool.launch (kept asyncRefresh)
      ((Pool.resume (reading (account ["A"])) 0)^[8] (Pool.launch (kept asyncSetup)
        { shared := unloaded, threads := [] }))))

theorem run_reported :
    Pool.Run undisturbed Activity { shared := unloaded, threads := [] } reported := by
  have hsetup : Pool.Run undisturbed Activity { shared := unloaded, threads := [] }
      (Pool.launch (kept asyncSetup) { shared := unloaded, threads := [] }) :=
    Pool.Run.launch .refl _ (.setup unloaded)
  have hupdate := (hsetup.resumes undisturbed_reading 0 8).launch (kept asyncRefresh)
    (.beside _ (.update _))
  exact (hupdate.resumes undisturbed_reading 1 2).launch _ (.beside _ (.frame _ _ _))

theorem profiles_survive_restart_reported : ∃ (profiles : Dict String CapabilityProfile)
    (profile : CapabilityProfile), profile.hasField "salt" = true ∧
      profiles.get? "A" = some { profile with model := "A" } := by
  have hfield : (reported.shared.world.capabilities.get? "A").map (·.hasField "salt") =
      some true := by
    decide +kernel
  obtain ⟨profile, hknown, hsalt⟩ := Option.map_eq_some_iff.mp hfield
  have hrestart : Coro.Exec alone (kept Client.loadCache) (restarted World.fresh reported.shared)
      _ _ :=
    Coro.exec_play (fun _ => reading (account ["A"])) (fun _ => alone_reading) _ 0 _
  have hok : ((kept Client.loadCache).play (fun _ => reading (account ["A"])) 0
      (restarted World.fresh reported.shared)).1.isOk = true := by
    decide +kernel
  cases hread : ((kept Client.loadCache).play (fun _ => reading (account ["A"])) 0
      (restarted World.fresh reported.shared)).1 with
  | error exn =>
      rw [hread] at hok
      cases hok
  | ok profiles =>
      rw [hread] at hrestart
      exact ⟨profiles, profile, hsalt, profiles_survive_restart rfl run_reported
        (by decide +kernel) hknown hrestart⟩

end StoredWorld

end Holabrain
