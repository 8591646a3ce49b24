import Holabrain.Cloud.PushClient
import Holabrain.Coordinator.ProfileLoading
import Holabrain.Coordinator.Topics
import Holabrain.Coordinator.UpdateBlocks

/-!
# The topics of the inventory

While there is a push connection, the coordinator subscribes to the topics of every appliance
it lists.  The setup does so when the connection stands; a scan does so for what it has added,
but only after the new profiles are loaded, and other scans, polls, frames and commands may run
in between.  Once they have all ended no appliance is left unsubscribed, and over the client
that restores its topics every one of them is heard.
-/

namespace Holabrain

namespace Coordinator

/-! ## What the topics depend on -/

/-- Nothing that the topics depend on has changed. -/
structure SameTopics (w w' : World) : Prop where
  devices : w'.devices = w.devices
  mqtt : w'.mqtt = w.mqtt
  wiring : w'.wiring = w.wiring

/-- The topics of the appliance are remembered, if there is a connection. -/
def Heard (w : World) (thingCode : String) : Prop :=
  ∀ topics, w.mqtt = some topics →
    ∀ topic ∈ Client.pushTopics w.wiring.region thingCode, topic ∈ topics

/-- A listed appliance is not heard. -/
def Unheard (w : World) (thingCode : String) : Prop :=
  thingCode ∈ w.devices ∧ ¬ Heard w thingCode

/-- What loads the profiles raises nothing that the loading does not catch. -/
def Handled : ClientOp → Exn → Prop
  | .resolve .., exn => IsDollin exn
  | .loadCache, _ => False
  | .saveCache _, _ => False
  | _, _ => True

/-- Requests are answered by anything that is handled; what happens meanwhile leaves inventory
and topics alone. -/
def attended : Environment World ClientOp ClientAnswer := fun w op answer w' =>
  SameTopics w w' ∧ ∀ exn, ClientAnswer.raised op answer = some exn → Handled op exn

section SameTopics

variable {w w' w'' : World}

theorem SameTopics.refl (w : World) : SameTopics w w := ⟨rfl, rfl, rfl⟩

theorem SameTopics.trans (h : SameTopics w w') (h' : SameTopics w' w'') : SameTopics w w'' :=
  ⟨h'.devices.trans h.devices, h'.mqtt.trans h.mqtt, h'.wiring.trans h.wiring⟩

theorem SameTopics.heard {thingCode : String} (h : SameTopics w w') (hheard : Heard w thingCode) :
    Heard w' thingCode := by
  intro topics htopics
  rw [h.wiring]
  exact hheard topics (h.mqtt.symm.trans htopics)

theorem SameTopics.still (h : SameTopics w w') : Still Unheard w w' := by
  intro thingCode hunheard
  refine ⟨?_, fun hheard => hunheard.2 (h.heard hheard)⟩
  rw [← h.devices]
  exact hunheard.1

theorem OnlyProfiles.sameTopics (h : OnlyProfiles w w') : SameTopics w w' := by
  obtain ⟨_, _, _, rfl⟩ := h
  exact ⟨rfl, rfl, rfl⟩

theorem OnlyQueued.sameTopics (h : OnlyQueued w w') : SameTopics w w' := by
  obtain ⟨_, _, _, _, rfl, _⟩ := h
  exact ⟨rfl, rfl, rfl⟩

theorem sameTopics_applyFrame (thingCode : String) (payload : Members) (current : DeviceState)
    (w : World) : SameTopics w (applyFrame thingCode payload current w) := by
  rw [applyFrame]
  cases current.applyPush? payload with
  | none => exact (onlyQueued_fetchConsumptionOnce _).sameTopics
  | some updated =>
      have habsorbed := (onlyProfiles_absorb [(thingCode, updated)] w).sameTopics
      have hfolded : ∀ w, SameTopics w (foldInto thingCode payload updated w) :=
        fun _ => ⟨rfl, rfl, rfl⟩
      exact ((habsorbed.trans (hfolded _)).trans
        (onlyQueued_noteSnapshotTrigger _ _ _ _).sameTopics).trans
          (onlyQueued_fetchConsumptionOnce _).sameTopics

theorem sameTopics_handlePush (topic : String) (payload : Members) (w : World) :
    SameTopics w (handlePush topic payload w) := by
  have hstamped : SameTopics w { w with lastPush := some w.now } := ⟨rfl, rfl, rfl⟩
  rw [handlePush]
  split
  · exact hstamped
  · split
    · exact hstamped
    · exact hstamped.trans (sameTopics_applyFrame _ _ _ _)

theorem sameTopics_patchState (thingCode : String) (instruction : Members) (w : World) :
    SameTopics w (patchState thingCode instruction w) := by
  rw [patchState]
  split
  · exact .refl w
  · split
    · exact ⟨rfl, rfl, rfl⟩
    · exact .refl w

theorem pollRelation_sameTopics : PollRelation attended SameTopics where
  trans := SameTopics.trans
  answered _ _ _ _ hanswer := hanswer.1
  noted _ _ := ⟨rfl, rfl, rfl⟩
  counted _ _ := ⟨rfl, rfl, rfl⟩
  absorbed states w := (onlyProfiles_absorb states w).sameTopics
  fetchDue w := (onlyQueued_fetchConsumptionOnce w).sameTopics
  published _ _ := ⟨rfl, rfl, rfl⟩

theorem fetchRelation_sameTopics : FetchRelation attended SameTopics where
  trans := SameTopics.trans
  answered _ _ _ _ hanswer := hanswer.1
  stored _ _ _ _ := ⟨rfl, rfl, rfl⟩

end SameTopics

/-! ## What leaves the topics alone -/

section Quietly

open Coro (Quietly)

/-- An operation that leaves inventory and topics alone. -/
abbrev TopicsKept {α : Type} (raised : Exn → Prop) (p : CoordM α) : Prop :=
  Quietly attended SameTopics (fun _ => raised) p

theorem topicsKept_modify {raised : Exn → Prop} {f : World → World}
    (hf : ∀ w, SameTopics w (f w)) : TopicsKept raised (Coro.modify f) := by
  apply Quietly.modify _ hf
  exact SameTopics.trans

/-- Loading the profiles leaves the topics alone and does not fail. -/
theorem loading_sameTopics (raised : Exn → Prop) :
    Loading attended SameTopics fun _ => raised where
  trans := SameTopics.trans
  answered _ _ _ _ _ hanswer :=
    ⟨hanswer.1, fun exn herror => .inl (hanswer.2 exn (by rw [herror]; rfl))⟩
  stored _ _ _ := ⟨rfl, rfl, rfl⟩
  loaded _ _ _ hanswer :=
    ⟨hanswer.1, fun exn herror => (hanswer.2 exn (by rw [herror]; rfl)).elim⟩
  saved _ _ _ _ hanswer :=
    ⟨hanswer.1, fun exn herror => (hanswer.2 exn (by rw [herror]; rfl)).elim⟩
  replaced _ _ := ⟨rfl, rfl, rfl⟩

variable {raised : Exn → Prop}

theorem topicsKept_call (scheme : Scheme) (path : String) (payload : Json) :
    TopicsKept (fun _ => True) (Client.call scheme path payload) :=
  .perform_ofExcept fun _ _ _ hanswer => ⟨hanswer.1, fun _ _ => trivial⟩

theorem topicsKept_asyncList : TopicsKept (fun _ => True) Client.asyncList := by
  refine .bind (topicsKept_call _ _ _) fun data => ?_
  split
  · refine .bind (.ofExcept fun _ _ _ => trivial) fun devices => ?_
    exact .bind (topicsKept_modify fun _ => ⟨rfl, rfl, rfl⟩) fun _ => .pure _
  · exact .pure _

theorem topicsKept_asyncSendInstruction (thingCode : String) (instruction : Members) :
    TopicsKept (fun _ => True) (asyncSendInstruction thingCode instruction) := by
  refine .bind (.bind (.gets _) fun w => ?_) fun _ =>
    topicsKept_modify (sameTopics_patchState thingCode instruction)
  exact .ite (.bind (topicsKept_call _ _ _) fun _ => .pure _)
    (.bind (topicsKept_call _ _ _) fun _ => .pure _)

theorem topicsKept_asyncRefreshCapabilities (force : Bool) :
    TopicsKept raised (asyncRefreshCapabilities force) := by
  refine .bind ((loading_sameTopics raised).asyncResolveDevices force) fun changed => ?_
  refine .bind (topicsKept_modify fun w => ?_) fun _ => .pure _
  split
  · exact ⟨rfl, rfl, rfl⟩
  · exact .refl w

end Quietly

/-! ## Subscribing -/

section Subscribe

variable {w w₀ : World} {thingCode : String}

/-- Topics are remembered, each once, after those that already are. -/
theorem mem_remembered {topics acc : List String} {topic : String} :
    topic ∈ topics.foldl (fun acc topic => if topic ∈ acc then acc else acc ++ [topic]) acc ↔
      topic ∈ acc ∨ topic ∈ topics := by
  induction topics generalizing acc with
  | nil => exact (or_iff_left List.not_mem_nil).symm
  | cons first rest ih =>
      rw [List.foldl_cons, ih, List.mem_cons, ← or_assoc]
      refine or_congr ?_ Iff.rfl
      split
      next hold =>
        constructor
        · exact .inl
        · rintro (hmem | rfl)
          · exact hmem
          · exact hold
      next => rw [List.mem_append, List.mem_singleton]

/-- What is heard stays so. -/
theorem heard_subscribe (topics : List String) (h : Heard w thingCode) :
    Heard (subscribe topics w) thingCode := by
  intro topics' htopics' topic htopic
  obtain ⟨subscribed, hsubscribed, rfl⟩ := Option.map_eq_some_iff.mp htopics'
  exact mem_remembered.mpr (.inl (h subscribed hsubscribed topic htopic))

theorem heard_subscribeAll_of_heard (thingCodes : List String) (h : Heard w thingCode) :
    Heard (subscribeAll thingCodes w) thingCode := by
  induction thingCodes generalizing w with
  | nil => exact h
  | cons first rest ih => exact ih (heard_subscribe _ h)

theorem heard_subscribeAll {thingCodes : List String} (hmem : thingCode ∈ thingCodes) :
    Heard (subscribeAll thingCodes w) thingCode := by
  induction thingCodes generalizing w with
  | nil => exact absurd hmem List.not_mem_nil
  | cons first rest ih =>
      rcases List.mem_cons.mp hmem with rfl | hrest
      · apply heard_subscribeAll_of_heard rest
        intro topics htopics topic htopic
        obtain ⟨subscribed, _, rfl⟩ := Option.map_eq_some_iff.mp htopics
        exact mem_remembered.mpr (.inr htopic)
      · exact ih hrest

/-- The end of a scan pays its debt. -/
theorem balanced_finishScan {added removed : List String} {owed : Set String}
    (h : Balanced Unheard owed {code | code ∈ added} w₀ w) :
    Balanced Unheard owed ∅ w₀ (finishScan added removed w) := by
  obtain ⟨_, _, hforgotten⟩ := forgetDevices_eq removed w
  have hforget : SameTopics w (forgetDevices removed w) := by
    rw [hforgotten]
    exact ⟨rfl, rfl, rfl⟩
  obtain ⟨_, hsubscribed⟩ := subscribeAll_eq added (forgetDevices removed w)
  have hdevices : (finishScan added removed w).devices = w.devices := by
    rw [finishScan_eq, hsubscribed]
    exact hforget.devices
  rw [finishScan_eq] at hdevices ⊢
  apply h.pay
  · intro code hunheard
    refine ⟨hdevices ▸ hunheard.1, fun hheard => hunheard.2 ?_⟩
    exact heard_subscribeAll_of_heard added (hforget.heard hheard)
  · intro code hcode hunheard
    exact hunheard.2 (heard_subscribeAll (w := forgetDevices removed w) hcode)

/-- A new inventory makes due what it adds. -/
theorem balanced_setDevices {owed : Set String} (latest : Dict String Device)
    (h : Balanced Unheard owed ∅ w₀ w) :
    Balanced Unheard owed {code | code ∈ missingFrom latest w.devices} w₀
      (w.setDevices latest) := by
  apply h.incur
  intro code hunheard
  by_cases hold : code ∈ w.devices
  · exact .inr ⟨hold, hunheard.2⟩
  · exact .inl (List.mem_filter.mpr ⟨AList.mem_keys.mpr hunheard.1, decide_eq_true hold⟩)

/-- Whatever the others do, no appliance is left unheard by this coroutine. -/
abbrev Subscribes {α : Type} (p : CoordM α) : Prop :=
  ∀ w, p.Meets attended (fun _ _ => True) Unheard w

theorem SameTopics.settles (h : SameTopics w₀ w) : True ∧ Still Unheard w₀ w :=
  ⟨trivial, h.still⟩

/-- A scan subscribes in the end what it has added, however long its profiles take. -/
theorem subscribes_asyncScanDevices : Subscribes asyncScanDevices := by
  intro w
  rw [Coro.Meets, asyncScanDevices, Coro.owes_bind]
  apply Coro.Quietly.carries (fun _ => trivial) (fun _ _ => trivial) SameTopics.settles trivial
    (.refl ∅ w) _ (topicsKept_asyncList w w (.refl w))
  intro result owed w₀ w₁ _ hlisted _
  cases result with
  | error exn => exact ⟨trivial, hlisted⟩
  | ok listed =>
      have hnew := balanced_setDevices (Client.byThingCode listed) hlisted
      simp only [Coro.owes_bind, Coro.owes_gets, Coro.owes_modify, Coro.owes_ite,
        Coro.owes_pure]
      generalize Client.byThingCode listed = latest at hnew
      split
      next hnone =>
        refine ⟨trivial, fun code hunheard => (hnew code hunheard).imp_left fun howed => ?_⟩
        rw [hnone.1] at howed
        exact absurd howed List.not_mem_nil
      next =>
        split
        next =>
          -- The debt is carried through the loading of the profiles.
          have hquiet : TopicsKept (fun _ => False) asyncLoadCapabilities :=
            (loading_sameTopics _).asyncLoadCapabilities
          apply Coro.Quietly.carries (fun _ => trivial) (fun _ _ => trivial)
            SameTopics.settles trivial hnew _ (hquiet _ _ (.refl _))
          intro result owed w₀ w₂ _ hloaded hraises
          cases result with
          | error exn => exact (hraises exn rfl).elim
          | ok loaded => exact ⟨trivial, balanced_finishScan hloaded⟩
        next => exact ⟨trivial, balanced_finishScan hnew⟩

/-- No appliance is left unheard. -/
def AllHeard (w : World) : Prop := ∀ code ∈ w.devices, Heard w code

variable {env : Environment World ClientOp ClientAnswer}

theorem AllHeard.congr {w' : World} (h : AllHeard w) (hsame : SameTopics w w') : AllHeard w' :=
  fun code hlisted => hsame.heard (h code (hsame.devices ▸ hlisted))

theorem wp_settlePush (outcome : Except Exn Unit) (w : World) :
    Coro.wp env (settlePush outcome) (fun result w' => result = .ok () → AllHeard w') w := by
  have hnone : AllHeard { w with mqtt := none } := by
    intro _ _ topics htopics
    cases htopics
  cases outcome with
  | ok connected =>
      intro _ code hlisted
      obtain ⟨_, hsubscribed⟩ := subscribeAll_eq w.devices.keys { w with mqtt := some [] }
      apply heard_subscribeAll
      dsimp only at hlisted
      rw [hsubscribed] at hlisted
      exact AList.mem_keys.mp hlisted
  | error exn =>
      cases exn with
      | dollin err => exact fun _ => hnone
      | osError => exact fun _ => hnone
      | _ =>
          intro herror
          cases herror

/-- The setup leaves no appliance unheard. -/
theorem allHeard_asyncSetup (hexec : Coro.Exec env asyncSetup w₀ (.ok ()) w) : AllHeard w := by
  have hany : ∀ {α : Type} (p : CoordM α) w, Coro.wp env p (fun _ _ => True) w :=
    fun p w => (Coro.wp_iff_forall_exec env p _ w).mpr fun _ _ _ => trivial
  have hfailed : ∀ {exn : Exn} {p : Prop}, (.error exn : Except Exn Unit) = .ok () → p := by
    intro exn p herror
    cases herror
  have hsetup : Coro.wp env asyncSetup (fun result w => result = .ok () → AllHeard w) w₀ := by
    simp only [asyncSetup, asyncStartPush, Coro.wp_bind, Coro.wp_attempt]
    apply Coro.wp_mono _ (hany _ _)
    intro listed w₁ _
    cases listed with
    | error exn => cases exn <;> exact hfailed
    | ok devices =>
        simp only [Coro.wp_bind, Coro.wp_modify, Coro.wp_attempt]
        apply Coro.wp_mono _ (hany _ _)
        intro loaded w₂ _
        cases loaded with
        | error exn => exact hfailed
        | ok loaded =>
            apply Coro.wp_mono _ (hany _ _)
            intro opened w₃ _
            apply Coro.wp_mono _ (wp_settlePush opened w₃)
            intro started w₄ hstarted
            cases started with
            | error exn => exact hfailed
            | ok started => exact fun _ => (hstarted rfl).congr ⟨rfl, rfl, rfl⟩
  exact hexec.post hsetup rfl

end Subscribe

/-! ## All that runs beside a scan -/

/-- What an entry runs once it is set up. -/
inductive Activity : World → CoordM Unit → Prop
  | scan (w : World) : Activity w (asyncScanDevices >>= fun _ => pure ())
  | update (w : World) : Activity w asyncRefresh
  | fetch (w : World) : Activity w asyncFetchConsumption
  | revalidate (force : Bool) (w : World) :
      Activity w (asyncRefreshCapabilities force >>= fun _ => pure ())
  | command (thingCode : String) (instruction : Members) (w : World) :
      Activity w (asyncSendInstruction thingCode instruction)
  | frame (topic : String) (payload : Members) (w : World) :
      Activity w (Coro.modify (handlePush topic payload))
  | refreshNow (w : World) : Activity w (Coro.modify askRefresh)
  | mode (mode : Mode) (w : World) : Activity w (Coro.modify (setMode mode))
  | time (now : ℚ) (w : World) : Activity w (Coro.modify fun w => { w with now := now })

theorem sameTopics_setMode (mode : Mode) (w : World) : SameTopics w (setMode mode w) := by
  unfold setMode
  split
  · exact .refl w
  · cases mode <;> exact ⟨rfl, rfl, rfl⟩

theorem TopicsKept.subscribes {α : Type} {raised : Exn → Prop} {p : CoordM α}
    (h : TopicsKept raised p) : Subscribes p :=
  h.meets (fun _ => trivial) (fun _ _ => trivial) SameTopics.settles .refl

theorem subscribes_of_obeys {α : Type} {p : CoordM α}
    (h : ∀ w, p.Obeys attended SameTopics w w) : Subscribes p :=
  fun w => (h w).meets (fun _ => trivial) (fun _ _ => trivial) SameTopics.settles

theorem subscribes_modify {f : World → World} (hf : ∀ w, SameTopics w (f w)) :
    Subscribes (Coro.modify f) := by
  have hkept : TopicsKept (fun _ => False) (Coro.modify f) := topicsKept_modify hf
  exact TopicsKept.subscribes hkept

theorem subscribes_of_activity {w : World} {p : CoordM Unit} (h : Activity w p) :
    Subscribes p := by
  cases h with
  | scan => exact fun w => (subscribes_asyncScanDevices w).bind_pure ()
  | update =>
      apply subscribes_of_obeys
      exact fun w => pollRelation_sameTopics.obeys_asyncRefresh ⟨rfl, rfl, rfl⟩
  | fetch =>
      apply subscribes_of_obeys
      exact fun w => fetchRelation_sameTopics.asyncFetchConsumption
        (fun _ _ => ⟨rfl, rfl, rfl⟩) w w (.refl w)
  | revalidate force =>
      have hkept : TopicsKept (fun _ => False) (asyncRefreshCapabilities force) :=
        topicsKept_asyncRefreshCapabilities force
      exact fun w => (TopicsKept.subscribes hkept w).bind_pure ()
  | command thingCode instruction =>
      exact TopicsKept.subscribes (topicsKept_asyncSendInstruction thingCode instruction)
  | frame topic payload => exact subscribes_modify (sameTopics_handlePush topic payload)
  | refreshNow => exact subscribes_modify fun _ => ⟨rfl, rfl, rfl⟩
  | mode mode => exact subscribes_modify (sameTopics_setMode mode)
  | time now => exact subscribes_modify fun _ => ⟨rfl, rfl, rfl⟩

/-! ## What reaches an appliance's entities -/

/-- The broker forwards every topic of the appliance, and its frames find it again. -/
structure Reached (region : String) (s : PushClient) (thingCode : String) : Prop where
  forwarded : ∀ topic ∈ Client.pushTopics region thingCode, topic ∈ s.broker
  found : ∀ topic ∈ Client.pushTopics region thingCode,
    thingCodeFromTopic topic = some thingCode

/-- However scans, updates, fetches, commands and frames have run interleaved since the setup:
once all of them have ended, a push client in a connection and at rest has its broker forward
the topics of every appliance that is listed, and each frame is taken to its own. -/
theorem listed_appliances_reached {env : Environment World ClientOp ClientAnswer}
    {w₀ w : World} {pool : Pool World ClientOp ClientAnswer Exn Unit} {s : PushClient}
    {topics asked : List String} {thingCode : String}
    (hsetup : Coro.Exec env asyncSetup w₀ (.ok ()) w)
    (hrun : Pool.Run attended Activity { shared := w, threads := [] } pool)
    (hended : ∀ p ∈ pool.threads, p.hasEnded = true)
    (hmqtt : pool.shared.mqtt = some topics) (hclient : PushClient.Run asked s)
    (hasked : ∀ topic, topic ∈ asked ↔ topic ∈ topics) (hconnected : s.connected = true)
    (hquiet : s.Quiet) (hregion : pool.shared.wiring.region ∈ Client.regionHosts)
    (hlisted : thingCode ∈ pool.shared.devices) (hcode : thingCode ≠ "")
    (hslash : '/' ∉ thingCode.toList) :
    Reached pool.shared.wiring.region s thingCode := by
  have hnone : ∀ code, ¬ Unheard w code :=
    fun code hunheard => hunheard.2 (allHeard_asyncSetup hsetup code hunheard.1)
  obtain ⟨-, hsettled⟩ := hrun.settled (fun _ => trivial) (fun _ _ => trivial)
    (fun w p _ hactivity => subscribes_of_activity hactivity w) rfl hnone
  have hheard : Heard pool.shared thingCode := by
    by_contra hunheard
    exact hsettled hended thingCode ⟨hlisted, hunheard⟩
  refine ⟨fun topic htopic => ?_, fun topic htopic => ?_⟩
  · have hremembered : topic ∈ topics := hheard topics hmqtt topic htopic
    exact ((hclient.forwards hconnected hquiet).forwards topic).mpr
      ((hasked topic).mpr hremembered)
  · exact thingCodeFromTopic_pushTopics hregion hcode hslash htopic

/-! ### An appliance that is added while an update polls -/

/-- An account with these appliances, and a certificate. -/
def account (thingCodes : List String) : World → (op : ClientOp) → ClientAnswer op × World :=
  Client.scripted
    (fun path =>
      if path = Auth.epHomeIndex then
        .ok [("data", .arr (thingCodes.map fun code => .obj [("thingCode", .str code)]))]
      else if path = Client.epCertCreate then .ok [("data", .obj [("privateKey", .str "key")])]
      else .ok [("data", .obj [])])
    (fun _ _ => .ok none) (fun _ w => w) 0

theorem attended_account (thingCodes : List String) (w : World) (op : ClientOp) :
    attended w op (account thingCodes w op).1 (account thingCodes w op).2 := by
  cases op with
  | call scheme path payload => exact ⟨.refl w, fun _ _ => trivial⟩
  | extendToken => exact ⟨.refl w, fun _ _ => trivial⟩
  | connectPush certificate => exact ⟨.refl w, fun _ _ => trivial⟩
  | _ =>
      refine ⟨.refl w, fun _ herror => ?_⟩
      cases herror

/-- An entry in Europe, set up with "A". -/
def european : World :=
  (asyncSetup.play (fun _ => account ["A"]) 0
    { World.fresh with wiring := { World.fresh.wiring with region := "eu" } }).2

/-- A scan has found "B" and reads the profiles, an update runs to its end, then the scan. -/
def addedB : Pool World ClientOp ClientAnswer Exn Unit :=
  (Pool.resume (account ["A", "B"]) 0)^[6] ((Pool.resume (account ["A", "B"]) 1)^[2]
    (Pool.launch asyncRefresh (Pool.resume (account ["A", "B"]) 0
      (Pool.launch (asyncScanDevices >>= fun _ => pure ())
        { shared := european, threads := [] }))))

theorem run_addedB :
    Pool.Run attended Activity { shared := european, threads := [] } addedB := by
  have hanswer := attended_account ["A", "B"]
  have hscan : Pool.Run attended Activity { shared := european, threads := [] }
      (Pool.launch (asyncScanDevices >>= fun _ => pure ())
        { shared := european, threads := [] }) := Pool.Run.launch .refl _ (.scan european)
  have hupdate := (hscan.resume hanswer 0).launch asyncRefresh (.update _)
  exact (hupdate.resumes hanswer 1 2).resumes hanswer 0 6

theorem listed_appliances_reached_addedB :
    ∃ s asked, PushClient.Run asked s ∧ Reached "eu" s "B" := by
  have hsetup : Coro.Exec attended asyncSetup
      { World.fresh with wiring := { World.fresh.wiring with region := "eu" } } (.ok ())
      european := by
    have hplay := Coro.exec_play (fun _ => account ["A"]) (fun _ => attended_account ["A"])
      asyncSetup 0 { World.fresh with wiring := { World.fresh.wiring with region := "eu" } }
    have hok : (asyncSetup.play (fun _ => account ["A"]) 0
        { World.fresh with wiring := { World.fresh.wiring with region := "eu" } }).1 =
          .ok () := by
      decide +kernel
    rwa [hok] at hplay
  have hconnected : PushClient.Run [] { connected := true } :=
    (PushClient.Run.start.step (.answer true rfl rfl)).step (.turn (.restored rfl rfl))
  let topics := Client.pushTopics "eu" "A" ++ Client.pushTopics "eu" "B"
  obtain ⟨s, hclient, hup, hquiet⟩ :=
    (hconnected.step (.subscribe topics rfl rfl)).rests rfl
  have hregion : addedB.shared.wiring.region = "eu" := by decide +kernel
  refine ⟨s, topics, hclient, ?_⟩
  rw [← hregion]
  exact listed_appliances_reached hsetup run_addedB (by decide +kernel) (by decide +kernel)
    hclient (fun _ => Iff.rfl) hup hquiet (by decide +kernel) (by decide +kernel)
    (by decide) (by decide)

end Coordinator

end Holabrain
