import Holabrain.Coordinator.LostUpdates

/-!
# The published data and the inventory

Scans replace the inventory, polls the published data, and an update that skips polling
returns what is there.  What is there is a state of every appliance that a poll was answered
for and that no later poll dropped, whatever the scans made of the inventory in between.
A scan may also go on while a poll awaits its answers: the poll then returns the appliances
it started with.
-/

namespace Holabrain

/-- The entries that say which appliances a poll went through and which it was answered for. -/
def Event.isReading : Event → Bool
  | .pollStarted .. => true
  | .querySettled _ (some _) => true
  | _ => false

namespace Coordinator

/-! ## Runs -/

/-- The appliance was listed when a poll copied the published data. -/
def Listed (thingCode : String) (log : List Event) : Prop :=
  ∃ listed copy, .pollStarted listed copy ∈ log ∧ thingCode ∈ listed

/-- A status request for the appliance was answered. -/
def Answered (thingCode : String) (log : List Event) : Prop :=
  ∃ state, .querySettled thingCode (some state) ∈ log

/-- Anything but an update.  The inventory may change at will. -/
structure Between (w w' : World) : Prop where
  published : ∀ code, code ∈ w'.states ↔ code ∈ w.states
  log : ∃ new, w'.log = w.log ++ new ∧ ∀ event ∈ new, event.isReading = false

/-- Requests are answered by anything, and anything but an update comes in between. -/
def between : Environment World ClientOp ClientAnswer := fun w _ _ w' => Between w w'

/-- The appliances that polls were answered for, less those that a later poll dropped. -/
def knownAfter (w w' : World) (known : Set String) : Set String :=
  { code | Answered code (since w w') ∨
    code ∈ known ∧ (Skips w ∨ Listed code (since w w')) }

/-- The runs of a coordinator that has published nothing yet, with the appliances known. -/
inductive CoverRun : World → Set String → Prop
  | start {w : World} (hdata : w.data = none) : CoverRun w ∅
  | scan {w w' : World} {known : Set String} {result : Except Exn (ℕ × ℕ)}
      (hrun : CoverRun w known) (hexec : Coro.Exec between asyncScanDevices w result w') :
      CoverRun w' known
  | update {w w' : World} {known : Set String} {states : Dict String DeviceState}
      (hrun : CoverRun w known) (hexec : Coro.Exec between asyncUpdateData w (.ok states) w') :
      CoverRun (w'.setData states) (knownAfter w w' known)
  | failedUpdate {w w' : World} {known : Set String} {exn : Exn} (hrun : CoverRun w known)
      (hexec : Coro.Exec between asyncUpdateData w (.error exn) w') : CoverRun w' known
  /-- Frames, patches, moments, changes of the mode, requests for a refresh, and the blocks of
  a scan that overlaps an update. -/
  | between {w w' : World} {known : Set String} (hrun : CoverRun w known) (h : Between w w') :
      CoverRun w' known

/-- A skipped update has a state of every appliance whose status the cloud can give, and no
update has one of an appliance that is not listed. -/
structure Covers (canGive : String → Prop) (w : World) (states : Dict String DeviceState)
    (w' : World) : Prop where
  complete : Skips w → ∀ code ∈ w'.devices, canGive code → code ∈ states
  listed : ∀ code ∈ states, code ∈ w'.devices

/-! ## Between two updates -/

section Between

variable {w w' w'' : World}

theorem Between.refl (w : World) : Between w w := ⟨fun _ => Iff.rfl, [], by simp, by simp⟩

theorem Between.trans (h : Between w w') (h' : Between w' w'') : Between w w'' := by
  obtain ⟨new, hlog, hnew⟩ := h.log
  obtain ⟨new', hlog', hnew'⟩ := h'.log
  refine ⟨fun code => (h'.published code).trans (h.published code), new ++ new', ?_, ?_⟩
  · rw [hlog', hlog, List.append_assoc]
  · intro event hmem
    exact (List.mem_append.mp hmem).elim (hnew event) (hnew' event)

theorem Between.of_eq (hdata : w'.data = w.data) (hlog : w'.log = w.log) : Between w w' := by
  refine ⟨fun code => ?_, [], by simp [hlog], by simp⟩
  rw [World.states, World.states, hdata]

theorem Between.note (w : World) {event : Event} (hevent : event.isReading = false) :
    Between w (w.note event) :=
  ⟨fun _ => Iff.rfl, [event], rfl, by simpa using hevent⟩

theorem Event.isReading_of_isFolding {event : Event} (hevent : event.isFolding = true) :
    event.isReading = false := by
  cases event <;> first | rfl | cases hevent

theorem Unpolled.between (h : Unpolled w w') : Between w w' := by
  obtain ⟨new, hlog, hnew⟩ := h.log
  exact ⟨h.published, new, hlog, fun event hmem => Event.isReading_of_isFolding (hnew event hmem)⟩

theorem LiveStep.between (h : LiveStep w w') : Between w w' :=
  (Live.unpolled (.single h)).between

end Between

/-! ## Scans -/

section Scan

/-- The coroutine publishes nothing and polls nothing in any of its blocks. -/
abbrev Unpublishing {α : Type} (p : CoordM α) : Prop := Coro.Blocks between Between p

theorem unpublishing_perform (op : ClientOp) : Unpublishing (Coro.perform op) :=
  .perform fun _ _ _ hanswer => hanswer

theorem unpublishing_modify {f : World → World} (hf : ∀ w, Between w (f w)) :
    Unpublishing (Coro.modify f) := by
  apply Coro.Blocks.modify _ hf
  exact Between.trans

theorem unpublishing_runChain (ctx : ResolutionContext) (now : ℚ) (chain : List Resolver)
    (state : ChainState) : Unpublishing (runChain ctx now chain state) := by
  induction chain generalizing state with
  | nil => exact .pure _
  | cons resolver rest ih =>
      apply Coro.Blocks.bind (.attempt _)
      · intro answer
        cases answer with
        | ok partialProfile => exact ih _
        | error exn =>
            cases exn with
            | dollin err => exact ih _
            | _ => exact .throw _
      · exact (unpublishing_perform _).bind fun _ => .ofExcept _

theorem unpublishing_asyncResolve (ctx : ResolutionContext) :
    Unpublishing (asyncResolve ctx) := by
  apply (Coro.Blocks.gets _).bind
  intro now
  apply (unpublishing_runChain _ _ _ _).bind
  intro state
  split
  · exact .throw _
  · exact .pure _

theorem unpublishing_resolveLoop (force : Bool) (now : ℚ) (entries : List (String × Device))
    (seen : List String) (changed : Bool) :
    Unpublishing (resolveLoop force now entries seen changed) := by
  induction entries generalizing seen changed with
  | nil => exact .pure _
  | cons entry rest ih =>
      apply Coro.Blocks.ite (ih _ _)
      apply (Coro.Blocks.gets _).bind
      intro w
      apply Coro.Blocks.ite (ih _ _)
      apply (unpublishing_asyncResolve _).attempt.bind
      intro answer
      cases answer with
      | ok profile =>
          apply Coro.Blocks.bind (unpublishing_modify _)
          · exact fun _ => ih _ _
          · exact fun w => .of_eq rfl rfl
      | error exn =>
          cases exn with
          | dollin err => exact ih _ _
          | _ => exact .throw _

theorem unpublishing_asyncLoadCapabilities : Unpublishing asyncLoadCapabilities := by
  have hresolve : Unpublishing (asyncResolveDevices false) := by
    apply (Coro.Blocks.gets _).bind
    intro w
    apply (unpublishing_resolveLoop _ _ _ _ _).bind
    intro changed
    apply (Coro.Blocks.gets _).bind
    intro capabilities
    apply Coro.Blocks.ite (.pure _)
    apply Coro.Blocks.bind _ fun _ => .pure _
    exact (unpublishing_perform _).bind fun _ => .ofExcept _
  apply Coro.Blocks.bind
  · exact (unpublishing_perform _).bind fun _ => .ofExcept _
  · intro cache
    apply Coro.Blocks.bind (unpublishing_modify _)
    · exact fun _ => hresolve.bind fun _ => .pure _
    · exact fun w => .of_eq rfl rfl

theorem between_finishScan (added removed : List String) (w : World) :
    Between w (finishScan added removed w) := by
  obtain ⟨registry, drafts, hforgotten⟩ := forgetDevices_eq removed w
  obtain ⟨mqtt, hsubscribed⟩ := subscribeAll_eq added (forgetDevices removed w)
  rw [finishScan_eq, hsubscribed, hforgotten]
  exact .of_eq rfl rfl

/-- A scan changes the inventory and leaves the published data as it is. -/
theorem unpublishing_asyncScanDevices : Unpublishing asyncScanDevices := by
  have hlist : Unpublishing Client.asyncList := by
    apply Coro.Blocks.bind
    · exact (unpublishing_perform _).bind fun _ => .ofExcept _
    · intro data
      split
      · apply (Coro.Blocks.ofExcept _).bind
        intro devices
        apply Coro.Blocks.bind (unpublishing_modify _) fun _ => .pure _
        exact fun w => .of_eq rfl rfl
      · exact .pure _
  apply hlist.bind
  intro listed
  apply (Coro.Blocks.gets _).bind
  intro devices
  have hfinish : ∀ added removed : List String, Unpublishing (do
      Coro.modify (finishScan added removed)
      return (added.length, removed.length)) := fun added removed =>
    (unpublishing_modify (between_finishScan added removed)).bind fun _ => .pure _
  apply Coro.Blocks.bind (unpublishing_modify _)
  · intro _
    apply Coro.Blocks.ite (.pure _)
    apply Coro.Blocks.ite
    · exact unpublishing_asyncLoadCapabilities.bind fun _ => hfinish _ _
    · exact hfinish _ _
  · exact fun w => .of_eq rfl rfl

/-- So does a whole scan, whatever comes in between. -/
theorem between_of_scan {w w' : World} {result : Except Exn (ℕ × ℕ)}
    (hexec : Coro.Exec between asyncScanDevices w result w') : Between w w' := by
  apply Coro.Obeys.exec _ (unpublishing_asyncScanDevices w w (.refl w)) hexec
  exact Between.trans

end Scan

/-! ## Updates -/

/-- A poll that began in `w₀` has gathered the appliances of its copy and those answered. -/
structure Polling (w₀ : World) (listed : List String) (copy states : Dict String DeviceState)
    (w : World) : Prop where
  published : ∀ code, code ∈ w.states ↔ code ∈ w₀.states
  log : ∃ new, w.log = w₀.log ++ new ∧
    (∀ code, code ∈ states ↔ Answered code new ∨ code ∈ copy) ∧
    ∀ code, Listed code new ↔ code ∈ listed

section Polling

variable {w₀ w w' : World} {listed : List String} {copy states : Dict String DeviceState}
  {thingCode : String}

theorem not_answered_nil : ¬ Answered thingCode [] := by
  intro hanswered
  obtain ⟨_, hmem⟩ := hanswered
  cases hmem

theorem answered_append {log new : List Event} :
    Answered thingCode (log ++ new) ↔ Answered thingCode log ∨ Answered thingCode new := by
  simp only [Answered, List.mem_append, exists_or]

theorem listed_append {log new : List Event} :
    Listed thingCode (log ++ new) ↔ Listed thingCode log ∨ Listed thingCode new := by
  simp only [Listed, List.mem_append, or_and_right, exists_or]

section Unread

variable {new : List Event} (hnew : ∀ event ∈ new, event.isReading = false)

include hnew

theorem not_answered_of_unread : ¬ Answered thingCode new := by
  intro hanswered
  obtain ⟨_, hmem⟩ := hanswered
  cases hnew _ hmem

theorem not_listed_of_unread : ¬ Listed thingCode new := by
  intro hlisted
  obtain ⟨_, _, hmem, _⟩ := hlisted
  cases hnew _ hmem

end Unread

theorem Polling.of_between (h : Polling w₀ listed copy states w) (hw : Between w w') :
    Polling w₀ listed copy states w' := by
  obtain ⟨new, hlog, hstates, hlisted⟩ := h.log
  obtain ⟨unread, hlog', hunread⟩ := hw.log
  refine ⟨fun code => (hw.published code).trans (h.published code), new ++ unread, ?_,
    fun code => ?_, fun code => ?_⟩
  · rw [hlog', hlog, List.append_assoc]
  · rw [answered_append, or_iff_left (not_answered_of_unread hunread)]
    exact hstates code
  · rw [listed_append, or_iff_left (not_listed_of_unread hunread)]
    exact hlisted code

/-- Where the copy is made. -/
theorem Between.polling (h : Between w₀ w) (listed : List String)
    (copy : Dict String DeviceState) :
    Polling w₀ listed copy copy (w.note (.pollStarted listed copy)) := by
  obtain ⟨unread, hlog, hunread⟩ := h.log
  refine ⟨h.published, unread ++ [.pollStarted listed copy], ?_, fun code => ?_, fun code => ?_⟩
  · rw [World.note_log, hlog, List.append_assoc]
  · rw [answered_append, or_iff_right (not_answered_of_unread hunread)]
    simp [Answered]
  · rw [listed_append, or_iff_right (not_listed_of_unread hunread)]
    simp [Listed]

theorem Polling.settle (h : Polling w₀ listed copy states w) (state : DeviceState) :
    Polling w₀ listed copy (states.setItem thingCode state)
      (w.note (.querySettled thingCode (some state))) := by
  obtain ⟨new, hlog, hstates, hlisted⟩ := h.log
  refine ⟨h.published, new ++ [.querySettled thingCode (some state)], ?_, fun code => ?_,
    fun code => ?_⟩
  · rw [World.note_log, hlog, List.append_assoc]
  · have hsettled : Answered code [.querySettled thingCode (some state)] ↔ code = thingCode := by
      simp [Answered]
    rw [answered_append, hsettled, Dict.mem_setItem, hstates]
    tauto
  · have hsettled : ¬ Listed code [.querySettled thingCode (some state)] := by
      simp [Listed]
    rw [listed_append, or_iff_left hsettled]
    exact hlisted code

theorem wp_queryState_polling (thingCode : String) (h : Polling w₀ listed copy states w) :
    Coro.wp between (queryState thingCode) (fun result w' => ∃ answer, result = .ok answer ∧
      Polling w₀ listed copy (match answer with
        | .ok state => states.setItem thingCode state
        | .error _ => states) w') w := by
  apply wp_queryState Between fun _ _ _ _ hanswer => hanswer
  intro answer w' hanswer
  have hsent : Polling w₀ listed copy states w' :=
    (h.of_between (.note _ rfl)).of_between hanswer
  cases answer with
  | ok state => exact ⟨.ok state, rfl, hsent.settle state⟩
  | error exn => exact ⟨.error exn, rfl, hsent.of_between (.note _ rfl)⟩

end Polling

/-- What a successful update returns: what is there, or what was listed and known, and what
was answered. -/
structure Returned (w : World) (states : Dict String DeviceState) (w' : World) : Prop where
  skipped : Skips w → states = w.states ∧ since w w' = [] ∧ w'.devices = w.devices
  polled : ¬ Skips w → ∀ code, code ∈ states ↔
    Answered code (since w w') ∨ code ∈ w.states ∧ Listed code (since w w')

theorem mem_pollStart {w : World} {code : String} :
    code ∈ pollStart w ↔ code ∈ w.states ∧ code ∈ w.devices.keys := by
  rw [pollStart, Dict.mem_filterKeys, decide_eq_true_eq, and_comm]
  exact Iff.rfl

/-- Whatever comes in between, an update returns what is there or what it polled. -/
theorem wp_asyncUpdateData_returned (w : World) :
    Coro.wp between asyncUpdateData (fun result w' =>
      (∀ code, code ∈ w'.states ↔ code ∈ w.states) ∧
        ∀ states, result = .ok states → Returned w states w') w := by
  have hupdate := wp_asyncUpdateData (Between w) (fun w₁ states w₂ => Between w w₁ ∧
      Polling w w₁.devices.keys (pollStart w₁) states w₂) (.of_eq rfl rfl)
    (fun w₁ hcopying => hcopying.trans (.note w₁ rfl))
    (fun w₁ op answer w₂ (hanswer : between w₁ op answer w₂) hcopying => hcopying.trans hanswer)
    (fun w₁ hcopying => ⟨hcopying, hcopying.polling w₁.devices.keys (pollStart w₁)⟩)
  apply Coro.wp_mono _ (hupdate ?_)
  · intro result w' houtcome
    cases houtcome with
    | skipped hskips =>
        refine ⟨fun _ => Iff.rfl, fun states hstates => ?_⟩
        cases hstates
        exact ⟨fun _ => ⟨rfl, List.drop_length, rfl⟩, fun hpolls => absurd hskips hpolls⟩
    | unextended hpolls hcopying => exact ⟨hcopying.published, by simp⟩
    | polled hpolls hpolling hfinished hreturned =>
        obtain ⟨hcopying, hpolling⟩ := hpolling
        have hend := hpolling.of_between hfinished.between
        refine ⟨hend.published, fun states hstates => ⟨fun h => absurd h hpolls, fun _ => ?_⟩⟩
        obtain ⟨new, hlog, hmem, hlisted⟩ := hend.log
        intro code
        rw [since, hlog, List.drop_left, hreturned states hstates, hmem, mem_pollStart,
          hcopying.published, hlisted]
  · intro w₁ thingCode states w₂ hpolling
    apply Coro.wp_mono _ (wp_queryState_polling thingCode hpolling.2)
    intro result w' hsettled
    obtain ⟨answer, hanswer, hsettled⟩ := hsettled
    exact ⟨answer, hanswer, hpolling.1, hsettled⟩

/-! ## Coverage -/

section Coverage

variable {w w' : World} {known : Set String} {states : Dict String DeviceState}

/-- What an update returns is what the run knows of the appliances. -/
theorem Returned.mem_iff (h : Returned w states w')
    (hknown : ∀ code, code ∈ w.states ↔ code ∈ known) (code : String) :
    code ∈ states ↔ code ∈ knownAfter w w' known := by
  rw [knownAfter, Set.mem_ofPred_eq, ← hknown]
  by_cases hskips : Skips w
  · obtain ⟨hstates, hsince, _⟩ := h.skipped hskips
    rw [hstates, hsince, or_iff_right not_answered_nil, and_iff_left (.inl hskips)]
  · rw [h.polled hskips, or_iff_right hskips]

/-- The appliances with a published state are those the run knows of. -/
theorem CoverRun.mem_states_iff (hrun : CoverRun w known) (code : String) :
    code ∈ w.states ↔ code ∈ known := by
  induction hrun generalizing code with
  | start hdata =>
      rw [World.states, hdata]
      exact iff_of_false (AList.notMem_empty code) (Set.notMem_empty code)
  | scan _ hexec ih =>
      have hscanned := between_of_scan hexec
      exact (hscanned.published code).trans (ih code)
  | update _ hexec ih =>
      exact ((hexec.post (wp_asyncUpdateData_returned _)).2 _ rfl).mem_iff ih code
  | failedUpdate _ hexec ih =>
      exact ((hexec.post (wp_asyncUpdateData_returned _)).1 code).trans (ih code)
  | between _ h ih => exact (h.published code).trans (ih code)

/-- An update covers exactly the inventory if and only if, where it skips polling, every
appliance of the inventory is known, and none that is known, or that its poll was answered for,
has left the inventory when it returns. -/
theorem covers_iff {canGive : String → Prop} (hrun : CoverRun w known)
    (hexec : Coro.Exec between asyncUpdateData w (.ok states) w') :
    Covers canGive w states w' ↔
      (Skips w → ∀ code ∈ w.devices, canGive code → code ∈ known) ∧
        ∀ code ∈ knownAfter w w' known, code ∈ w'.devices := by
  obtain ⟨_, hreturned⟩ := hexec.post (wp_asyncUpdateData_returned w)
  have hmem := (hreturned states rfl).mem_iff hrun.mem_states_iff
  have hskipped := (hreturned states rfl).skipped
  constructor
  · intro hcovers
    constructor
    · intro hskips code hlisted hcan
      obtain ⟨hstates, _, hdevices⟩ := hskipped hskips
      rw [← hrun.mem_states_iff, ← hstates]
      rw [← hdevices] at hlisted
      exact hcovers.complete hskips code hlisted hcan
    · intro code hknown
      exact hcovers.listed code ((hmem code).mpr hknown)
  · intro hcondition
    obtain ⟨hcomplete, hlisted⟩ := hcondition
    constructor
    · intro hskips code hcode hcan
      obtain ⟨hstates, _, hdevices⟩ := hskipped hskips
      rw [hdevices] at hcode
      rw [hstates, hrun.mem_states_iff]
      exact hcomplete hskips code hcode hcan
    · intro code hcode
      exact hlisted code ((hmem code).mp hcode)

end Coverage

/-! ## An oven that is replaced -/

/-- Every status request is answered, and the account lists the oven "B". -/
def listsB : ℕ → World → (op : ClientOp) → ClientAnswer op × World :=
  Client.scripted
    (fun path =>
      if path = Auth.epHomeIndex then .ok [("data", .arr [.obj [("thingCode", .str "B")]])]
      else .ok [("data", .obj [("work_switch", .str "standby")])])
    (fun _ _ => .ok none) fun _ w => w

theorem between_listsB (n : ℕ) (w : World) (op : ClientOp) :
    between w op (listsB n w op).1 (listsB n w op).2 := by
  cases op <;> exact Between.refl w

/-- The inventory is the oven "A", and nothing is published yet. -/
def onlyA : World := { World.fresh with devices := Dict.ofList [("A", oven "A")] }

def stateOfA : Dict String DeviceState := Dict.ofList [("A", ovenState "A" "standby")]

/-- The first update polls and publishes. -/
def polledA : World := (asyncUpdateData.play listsB 0 onlyA).2

/-- A scan finds "B" in place of "A". -/
def replaced : World := (asyncScanDevices.play listsB 0 (polledA.setData stateOfA)).2

/-- The next update. -/
def afterReplacement : World := (asyncUpdateData.play listsB 0 replaced).2

theorem exec_polledA : Coro.Exec between asyncUpdateData onlyA (.ok stateOfA) polledA := by
  have hresult : (asyncUpdateData.play listsB 0 onlyA).1 = .ok stateOfA := by decide +kernel
  rw [← hresult]
  exact Coro.exec_play listsB between_listsB _ 0 onlyA

theorem exec_afterReplacement :
    Coro.Exec between asyncUpdateData replaced (.ok stateOfA) afterReplacement := by
  have hresult : (asyncUpdateData.play listsB 0 replaced).1 = .ok stateOfA := by decide +kernel
  rw [← hresult]
  exact Coro.exec_play listsB between_listsB _ 0 replaced

theorem coverRun_replaced : CoverRun replaced (knownAfter onlyA polledA ∅) := by
  have hpublished : CoverRun (polledA.setData stateOfA) (knownAfter onlyA polledA ∅) :=
    .update (.start rfl) exec_polledA
  exact hpublished.scan (Coro.exec_play listsB between_listsB _ 0 _)

/-- The first update covers the inventory it was made for. -/
theorem covers_polledA : Covers (fun _ => True) onlyA stateOfA polledA := by
  apply (covers_iff (.start rfl) exec_polledA).mpr
  constructor
  · intro hskips
    have hpolls : skipsPoll onlyA = false := by decide +kernel
    rw [hskips.2] at hpolls
    cases hpolls
  · intro code hknown
    obtain ⟨state, hanswered⟩ | ⟨hnothing, _⟩ := hknown
    · have hlog : since onlyA polledA = [.pollStarted ["A"] Dict.empty, .querySent "A",
          .querySettled "A" (some (ovenState "A" "standby")), .fetchStarted] := by
        decide +kernel
      rw [hlog] at hanswered
      obtain ⟨rfl, _⟩ : code = "A" ∧ state = ovenState "A" "standby" := by
        simpa using hanswered
      decide +kernel
    · cases hnothing

/-- The update after the scan is skipped: it returns the state of "A", which has left, and none
of "B", which is never asked for one. -/
theorem not_covers_afterReplacement :
    (∃ known, CoverRun replaced known) ∧ Skips replaced ∧
      Coro.Exec between asyncUpdateData replaced (.ok stateOfA) afterReplacement ∧
      afterReplacement.devices.keys = ["B"] ∧ stateOfA.keys = ["A"] ∧
      ¬ Covers (fun _ => True) replaced stateOfA afterReplacement := by
  have hskips : Skips replaced := ⟨by decide +kernel, by decide +kernel⟩
  have hkeys : afterReplacement.devices.keys = ["B"] := by decide +kernel
  refine ⟨⟨_, coverRun_replaced⟩, hskips, exec_afterReplacement, hkeys, by decide +kernel, ?_⟩
  intro hcovers
  have hlisted : "A" ∈ afterReplacement.devices.keys := hcovers.listed "A" (by decide +kernel)
  rw [hkeys] at hlisted
  exact absurd hlisted (by decide)

end Coordinator

end Holabrain
