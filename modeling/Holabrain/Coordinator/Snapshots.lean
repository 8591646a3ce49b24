import Holabrain.Core.History
import Holabrain.Coordinator.Topics
import Holabrain.Coordinator.UpdateBlocks

/-!
# Snapshots at the end of a cycle

With the push channel up an update polls for one reason only: a frame has said that a cycle
just ended.  The frame leaves a mark, and the next update takes it down before it asks for
anything.  A frame may come at any time, also while an earlier update still waits for its
answers, and the state an update publishes at its end does not touch the mark.
-/

namespace Holabrain

/-- The entries that only an update that polls makes, one of them in its first block. -/
def Event.startsPoll : Event → Bool
  | .pollStarted .. => true
  | .extendSent => true
  | _ => false

namespace Coordinator

/-! ## Cycles that end -/

/-- The trigger of an appliance's category. -/
def triggerOf (w : World) (thingCode : String) : Option SnapshotTrigger :=
  ((w.devices.get? thingCode).bind fun device =>
    getCategory device.deviceType).bind CategorySpec.snapshotAfter

/-- The published value of an attribute; null is one that is not reported. -/
def publishedValue (w : World) (thingCode key : String) : Json :=
  match w.states.get? thingCode with
  | none => .null
  | some state => state.get key

/-- The frame moves the trigger key of its appliance from a reported value that is not settled
to a settled one. -/
def Moves (topic : String) (payload : Members) (w : World) : Prop :=
  ∃ thingCode trigger, thingCodeFromTopic topic = some thingCode ∧
    triggerOf w thingCode = some trigger ∧
    publishedValue w thingCode trigger.key ≠ .null ∧
    (publishedValue w thingCode trigger.key).pyStr ∉ trigger.settledValues ∧
    publishedValue (handlePush topic payload w) thingCode trigger.key ≠ .null ∧
    (publishedValue (handlePush topic payload w) thingCode trigger.key).pyStr ∈
      trigger.settledValues

theorem fires_iff {trigger : SnapshotTrigger} {before after : Json} :
    trigger.fires before after = true ↔
      before ≠ .null ∧ before.pyStr ∉ trigger.settledValues ∧
        after ≠ .null ∧ after.pyStr ∈ trigger.settledValues := by
  cases before <;> cases after <;> simp [SnapshotTrigger.fires, and_comm]

theorem snapshotDue_noteSnapshotTrigger (thingCode : String) (before after : DeviceState)
    (w : World) :
    (noteSnapshotTrigger thingCode before after w).snapshotDue = true ↔
      w.snapshotDue = true ∨ ∃ trigger, triggerOf w thingCode = some trigger ∧
        trigger.fires (before.get trigger.key) (after.get trigger.key) = true := by
  rw [noteSnapshotTrigger, triggerOf]
  split
  next hnone => simp [hnone]
  next trigger hsome =>
    rw [hsome]
    by_cases hfires : trigger.fires (before.get trigger.key) (after.get trigger.key) = true
    · have hmarked : ∀ w : World, (if w.mode = .exclusive then
          (w.schedule .fetchConsumption).note .fetchStarted else w).snapshotDue =
            w.snapshotDue := by
        intro w
        split <;> rfl
      rw [if_pos hfires, hmarked]
      exact iff_of_true rfl (.inr ⟨trigger, rfl, hfires⟩)
    · rw [if_neg hfires]
      constructor
      · exact .inl
      · rintro (hdue | ⟨trigger', heq, hfires'⟩)
        · exact hdue
        · rw [Option.some.inj heq] at hfires
          exact absurd hfires' hfires

theorem snapshotDue_fetchConsumptionOnce (w : World) :
    (fetchConsumptionOnce w).snapshotDue = w.snapshotDue := by
  rw [fetchConsumptionOnce]
  split <;> rfl

theorem snapshotDue_applyFrame {thingCode : String} {payload : Members} {current : DeviceState}
    {w : World} :
    (applyFrame thingCode payload current w).snapshotDue = true ↔
      w.snapshotDue = true ∨ ∃ trigger, triggerOf w thingCode = some trigger ∧
        trigger.fires (current.get trigger.key)
          ((current.applyPush payload).get trigger.key) = true := by
  rw [applyFrame, snapshotDue_fetchConsumptionOnce, DeviceState.applyPush]
  cases hupdated : current.applyPush? payload with
  | none =>
      refine (or_iff_left ?_).symm
      rintro ⟨trigger, _, hfires⟩
      obtain ⟨_, hunsettled, _, hsettled⟩ := fires_iff.mp hfires
      exact hunsettled hsettled
  | some updated =>
      obtain ⟨_, _, _, habsorbed⟩ := onlyProfiles_absorb [(thingCode, updated)] w
      rw [snapshotDue_noteSnapshotTrigger, habsorbed]
      exact Iff.rfl

/-- A frame marks a snapshot as due exactly if it moves the trigger key of its appliance. -/
theorem snapshotDue_handlePush (topic : String) (payload : Members) (w : World) :
    (handlePush topic payload w).snapshotDue = true ↔
      w.snapshotDue = true ∨ Moves topic payload w := by
  have hunmoved : (∀ thingCode, thingCodeFromTopic topic = some thingCode →
      w.states.get? thingCode = none) → ¬ Moves topic payload w := by
    intro hnone ⟨thingCode, trigger, hcode, _, hreported, _⟩
    exact hreported (by rw [publishedValue, hnone thingCode hcode])
  cases hcode : thingCodeFromTopic topic with
  | none =>
      have hmoved := hunmoved (by simp [hcode])
      simp only [handlePush, hcode, hmoved, or_false]
  | some thingCode =>
      cases hcurrent : w.states.get? thingCode with
      | none =>
          have hmoved := hunmoved (by simp [hcode, hcurrent])
          have hpushed : ({ w with lastPush := some w.now } : World).states.get? thingCode =
              none := hcurrent
          simp only [handlePush, hcode, hpushed, hmoved, or_false]
      | some current =>
          have hpushed : ({ w with lastPush := some w.now } : World).states.get? thingCode =
              some current := hcurrent
          have hafter := get?_handlePush topic payload w thingCode
          rw [if_pos hcode, hcurrent, Option.map_some] at hafter
          have hmoves : Moves topic payload w ↔ ∃ trigger, triggerOf w thingCode = some trigger ∧
              trigger.fires (current.get trigger.key)
                ((current.applyPush payload).get trigger.key) = true := by
            simp only [fires_iff]
            constructor
            · rintro ⟨code, trigger, hcode', htrigger, hmoved⟩
              obtain rfl := Option.some.inj (hcode.symm.trans hcode')
              simp only [publishedValue, hcurrent, hafter] at hmoved
              exact ⟨trigger, htrigger, hmoved⟩
            · rintro ⟨trigger, htrigger, hmoved⟩
              refine ⟨thingCode, trigger, hcode, htrigger, ?_⟩
              simp only [publishedValue, hcurrent, hafter]
              exact hmoved
          simp only [handlePush, hcode, hpushed]
          rw [snapshotDue_applyFrame, hmoves]
          exact Iff.rfl

/-! ## Updates that poll -/

/-- The first block of an update goes on to poll: it extends the token or copies the published
data. -/
def StartsPoll (w : World) : Prop :=
  ∃ event ∈ since w (asyncRefresh.settle w).2, event.startsPoll = true

/-- An update decides in its first block. -/
theorem settle_asyncRefresh (w : World) :
    asyncRefresh.settle w = (Coro.attempt (
      if !w.explicitRefresh && skipsPoll (id (beginUpdate w)) then return w.states
      else do
        Coro.modify fun w => { w with snapshotDue := false }
        pollDevices w.explicitRefresh) >>= publish).settle (beginUpdate w) := rfl

theorem settle_asyncRefresh_of_skips {w : World} (h : Skips w) :
    asyncRefresh.settle w = (.done (.ok ()), (beginUpdate w).setData w.states) := by
  rw [settle_asyncRefresh, if_pos (skips_iff.mpr h)]
  rfl

theorem settle_asyncRefresh_of_not_skips {w : World} (h : ¬ Skips w) :
    asyncRefresh.settle w =
      (Coro.attempt (pollDevices w.explicitRefresh) >>= publish).settle (decided w) := by
  rw [settle_asyncRefresh, if_neg fun hskips => h (skips_iff.mp hskips), decided_of_not_skips h]
  rfl

/-- No answer at all: what a block does is asked for no further than its suspension. -/
def unanswered : Environment World ClientOp ClientAnswer := fun _ _ _ _ => False

theorem logged_poll : PollRelation unanswered (fun w w' => w.log <+: w'.log) where
  trans := List.IsPrefix.trans
  answered _ _ _ _ hanswer := hanswer.elim
  noted _ _ := List.prefix_append _ _
  counted _ _ := List.prefix_refl _
  absorbed states w := by
    obtain ⟨new, hlog, _⟩ := (onlyProfiles_absorb states w).unpolled.log
    exact ⟨new, hlog.symm⟩
  fetchDue w := by
    obtain ⟨new, hlog, _⟩ := (unpolled_fetchConsumptionOnce w).log
    exact ⟨new, hlog.symm⟩
  published _ _ := List.prefix_refl _

/-- The request that extends the token. -/
def extending : CoordM Unit := do
  Coro.modify fun w => w.note .extendSent
  let answer ← Coro.attempt Client.extendToken
  match answer with
  | .ok _ => return ()
  | .error (.dollin _) => return ()
  | .error exn => throw exn

/-- A poll once the token needs no more. -/
def polling : CoordM (Dict String DeviceState) := do
  let w ← Coro.gets id
  Coro.modify fun w => w.note (.pollStarted w.devices.keys (pollStart w))
  let (states, errors) ← pollLoop w.devices.keys (pollStart w) 0
  finishPoll states errors

theorem settle_pollDevices (explicit : Bool) (w : World) :
    (Coro.attempt (pollDevices explicit) >>= publish).settle w = (Coro.attempt ((
      if ¬ (explicit = true ∨ w.mode = .exclusive) then return ()
      else if tokenLastsLongEnough w.tokenSecondsRemaining then return ()
      else extending) >>= fun _ => polling) >>= publish).settle w := rfl

theorem logged_polling (w : World) : (w.note (.pollStarted w.devices.keys (pollStart w))).log <+:
    ((Coro.attempt ((return () : CoordM Unit) >>= fun _ => polling) >>=
      publish).settle w).2.log := by
  have hrest : Coro.Blocks unanswered (fun w w' => w.log <+: w'.log) (Coro.attempt (do
      let (states, errors) ← pollLoop w.devices.keys (pollStart w) 0
      finishPoll states errors) >>= publish) := by
    refine Coro.Blocks.bind (.attempt ?_) logged_poll.publish
    exact (logged_poll.pollLoop _ _ _).bind fun (states, errors) =>
      logged_poll.finishPoll states errors
  exact (hrest _ _ (List.prefix_refl _)).settle.1

/-- The first block of a poll notes that the token is extended, or that the poll starts. -/
theorem startsPoll_pollDevices (explicit : Bool) (w : World) :
    ∃ event, event.startsPoll = true ∧ (w.note event).log <+:
      ((Coro.attempt (pollDevices explicit) >>= publish).settle w).2.log := by
  rw [settle_pollDevices]
  split
  · exact ⟨_, rfl, logged_polling w⟩
  split
  · exact ⟨_, rfl, logged_polling w⟩
  · exact ⟨.extendSent, rfl, List.prefix_refl _⟩

/-- An update goes on to poll exactly if it does not return what is there. -/
theorem startsPoll_iff (w : World) : StartsPoll w ↔ ¬ Skips w := by
  constructor
  · intro ⟨event, hevent, _⟩ hskips
    rw [settle_asyncRefresh_of_skips hskips, since] at hevent
    have hlog : ((beginUpdate w).setData w.states).log = w.log := rfl
    rw [hlog, List.drop_length] at hevent
    cases hevent
  · intro hpolls
    obtain ⟨event, hevent, hlogged⟩ := startsPoll_pollDevices w.explicitRefresh (decided w)
    refine ⟨event, ?_, hevent⟩
    rw [settle_asyncRefresh_of_not_skips hpolls, since]
    obtain ⟨later, hlog⟩ := hlogged
    have hnoted : (World.note (decided w) event).log = w.log ++ [event] := rfl
    rw [← hlog, hnoted, List.append_assoc, List.drop_left]
    exact List.mem_append_left _ List.mem_cons_self

/-- The next block of the coroutine stops at the request for the status of the appliance. -/
def AsksStatus (p : CoordM Unit) (thingCode : String) (w : World) : Prop :=
  ∃ request answered, Client.queryCall thingCode (Client.isDirect w thingCode) =
    .await request answered ∧ p.StopsAt w request

/-- The first request of an update is for the status of the appliance, or it extends the token,
and the status of the appliance that is then the first is asked for after that. -/
def AsksFirst (thingCode : String) (w : World) : Prop :=
  AsksStatus asyncRefresh thingCode w ∨
  ∃ next, (asyncRefresh.settle w).1 = .await .extendToken next ∧
    ∀ answer w' first rest, (∀ exn, answer = .error exn → ∃ err, exn = .dollin err) →
      w'.devices.keys = first :: rest → AsksStatus (next answer) first w'

theorem queryCall_awaits (thingCode : String) (direct : Bool) :
    ∃ request answered, Client.queryCall thingCode direct = .await request answered := by
  cases direct with
  | true => exact ⟨_, _, rfl⟩
  | false => exact ⟨_, _, rfl⟩

theorem stopsAt_asyncGetState {thingCode : String} {w : World} {request : ClientOp}
    {answered : ClientAnswer request → CoordM Members}
    (hcall : Client.queryCall thingCode (Client.isDirect w thingCode) = .await request answered) :
    (Client.asyncGetState thingCode).StopsAt w request := by
  rw [Client.asyncGetState, Coro.stopsAt_gets_bind, id, hcall]
  exact Coro.StopsAt.bind ⟨_, rfl⟩ _

theorem asksStatus_polling {w : World} {first : String} {rest : List String}
    (hlisted : w.devices.keys = first :: rest) :
    AsksStatus (Coro.attempt polling >>= publish) first w := by
  obtain ⟨request, answered, hcall⟩ := queryCall_awaits first (Client.isDirect w first)
  refine ⟨request, answered, hcall, Coro.StopsAt.bind (Coro.StopsAt.attempt ?_) _⟩
  rw [polling, Coro.stopsAt_gets_bind, Coro.stopsAt_modify_bind, id, hlisted]
  refine Coro.StopsAt.bind ?_ _
  rw [pollLoop, queryState]
  have hquery : (Client.asyncGetState first).StopsAt
      ((w.note (.pollStarted (first :: rest) (pollStart w))).note (.querySent first)) request :=
    stopsAt_asyncGetState hcall
  exact (Coro.stopsAt_modify_bind.mpr (hquery.attempt.bind _)).bind _

/-- A poll asks for the status of the first appliance at once, or extends the token before. -/
theorem asksFirst_of_not_skips {w : World} (hpolls : ¬ Skips w) {first : String}
    {rest : List String} (hlisted : w.devices.keys = first :: rest) : AsksFirst first w := by
  have hdecided : decided w = { beginUpdate w with snapshotDue := false } :=
    decided_of_not_skips hpolls
  have hkeys : (decided w).devices.keys = first :: rest := by rw [hdecided]; exact hlisted
  have hpoll : (Coro.attempt polling >>= publish).settle (decided w) = asyncRefresh.settle w →
      AsksFirst first w := by
    intro hsettle
    obtain ⟨request, answered, hcall, next, hasks⟩ := asksStatus_polling hkeys
    refine Or.inl ⟨request, answered, ?_, next, hsettle ▸ hasks⟩
    rw [hdecided] at hcall
    exact hcall
  have hsettle := settle_asyncRefresh_of_not_skips hpolls
  rw [settle_pollDevices] at hsettle
  split at hsettle
  · exact hpoll hsettle.symm
  split at hsettle
  · exact hpoll hsettle.symm
  · refine Or.inr ⟨_, congrArg Prod.fst hsettle, fun answer w' next left herror hnext => ?_⟩
    cases answer with
    | ok expiry => exact asksStatus_polling hnext
    | error exn =>
      obtain ⟨err, rfl⟩ := herror exn rfl
      exact asksStatus_polling hnext

/-- With an appliance to poll, an update polls exactly if it asks for a status. -/
theorem startsPoll_iff_asksFirst {w : World} {first : String} {rest : List String}
    (hlisted : w.devices.keys = first :: rest) : StartsPoll w ↔ AsksFirst first w := by
  rw [startsPoll_iff]
  constructor
  · exact fun hpolls => asksFirst_of_not_skips hpolls hlisted
  · rintro (⟨_, _, _, _, hasks⟩ | ⟨_, hasks, _⟩) hskips
    · rw [settle_asyncRefresh_of_skips hskips] at hasks
      cases hasks
    · rw [settle_asyncRefresh_of_skips hskips] at hasks
      cases hasks

/-! ## Runs -/

/-- The moments of a run that matter: a frame comes in, or an update begins. -/
inductive Moment
  | frame (topic : String) (payload : Members) (w : World)
  | update (w : World)

namespace Moment

/-- A frame that ends a cycle. -/
def moves : Moment → Prop
  | frame topic payload w => Moves topic payload w
  | update _ => False

/-- An update that polls. -/
def polls : Moment → Prop
  | frame .. => False
  | update w => StartsPoll w

end Moment

/-- Frames and updates come as they like, and so do the clock and the fetches that frames and
polls ask for; nobody asks for a refresh or changes the mode. -/
inductive Recorded : World → CoordM Unit → Option Moment → Prop
  | frame (topic : String) (payload : Members) (w : World) :
      Recorded w (Coro.modify (handlePush topic payload)) (some (.frame topic payload w))
  | update (w : World) : Recorded w asyncRefresh (some (.update w))
  | fetch (w : World) : Recorded w asyncFetchConsumption none
  | time (now : ℚ) (w : World) : Recorded w (Coro.modify fun w => { w with now := now }) none

/-- Every request is answered by anything, and may leave the account in any state. -/
def anyAccount : Environment World ClientOp ClientAnswer :=
  fun w _ _ w' => ∃ auth, w' = { w with auth := auth }

/-- What an update decides on, apart from the push channel. -/
structure Gate where
  mode : Mode
  explicitRefresh : Bool
  snapshotDue : Bool

def gate (w : World) : Gate where
  mode := w.mode
  explicitRefresh := w.explicitRefresh
  snapshotDue := w.snapshotDue

theorem gate_absorb (states : List (String × DeviceState)) (w : World) :
    gate (absorbStatusFields states w) = gate w := by
  obtain ⟨_, _, _, habsorbed⟩ := onlyProfiles_absorb states w
  rw [habsorbed]
  rfl

theorem gate_fetchConsumptionOnce (w : World) : gate (fetchConsumptionOnce w) = gate w := by
  rw [fetchConsumptionOnce]
  split <;> rfl

theorem gate_answered {w w' : World} {op : ClientOp} {answer : ClientAnswer op}
    (h : anyAccount w op answer w') : gate w' = gate w := by
  obtain ⟨auth, rfl⟩ := h
  rfl

theorem gated_poll : PollRelation anyAccount (fun w w' => gate w' = gate w) where
  trans h h' := h'.trans h
  answered _ _ _ _ := gate_answered
  noted _ _ := rfl
  counted _ _ := rfl
  absorbed := gate_absorb
  fetchDue := gate_fetchConsumptionOnce
  published _ _ := rfl

theorem gated_fetch : FetchRelation anyAccount (fun w w' => gate w' = gate w) where
  trans h h' := h'.trans h
  answered _ _ _ _ := gate_answered
  stored _ _ _ _ := rfl

/-- In exclusive mode, unasked, a snapshot is due exactly while a cycle has ended and no update
has polled since. -/
structure Watching (history : List Moment) (w : World) : Prop where
  mode : w.mode = .exclusive
  explicitRefresh : w.explicitRefresh = false
  due : w.snapshotDue = true ↔ Pending Moment.moves Moment.polls history

namespace Watching

variable {history : List Moment} {w w' : World}

theorem of_gate (h : Watching history w) (hgate : gate w' = gate w) : Watching history w' where
  mode := (congrArg Gate.mode hgate).trans h.mode
  explicitRefresh := (congrArg Gate.explicitRefresh hgate).trans h.explicitRefresh
  due := by
    rw [show w'.snapshotDue = w.snapshotDue from congrArg Gate.snapshotDue hgate]
    exact h.due

theorem frame (h : Watching history w) (topic : String) (payload : Members) :
    Watching (history ++ [.frame topic payload w]) (handlePush topic payload w) where
  mode := (congrArg Fixed.mode (unpolled_handlePush topic payload w).fixed).trans h.mode
  explicitRefresh := (unpolled_handlePush topic payload w).explicitRefresh.trans h.explicitRefresh
  due := by
    rw [snapshotDue_handlePush, h.due, pending_concat, or_comm]
    exact or_congr_right (and_iff_left not_false).symm

/-- Where a snapshot is due the update polls, and where the push channel is up it polls for
nothing else. -/
theorem startsPoll_of_due (h : Watching history w) (hdue : w.snapshotDue = true) :
    StartsPoll w := by
  rw [startsPoll_iff]
  intro hskips
  have hskipped := hskips.2
  simp [skipsPoll, h.mode, hdue] at hskipped

theorem due_of_startsPoll (h : Watching history w) (hpush : w.pushIsHealthy = true)
    (hpolls : StartsPoll w) : w.snapshotDue = true := by
  by_contra hdue
  refine (startsPoll_iff w).mp hpolls ⟨h.explicitRefresh, ?_⟩
  simp [skipsPoll, hpush, Bool.eq_false_iff.mpr hdue]

theorem update (h : Watching history w) :
    Watching (history ++ [.update w]) (asyncRefresh.settle w).2 := by
  have hdecided : Watching (history ++ [.update w]) (decided w) := by
    refine ⟨h.mode, rfl, ?_⟩
    rw [pending_concat, ← h.due, Moment.polls, startsPoll_iff, not_not, Skips, decided]
    simp [Moment.moves, and_assoc]
  exact hdecided.of_gate (gated_poll.obeys_asyncRefresh rfl).settle.1

end Watching

theorem watching_launch {history : List Moment} {w : World} {p : CoordM Unit}
    {moment : Option Moment} (hrecorded : Recorded w p moment) (h : Watching history w) :
    (p.settle w).1.ObeysParked anyAccount (fun w w' => gate w' = gate w) (p.settle w).2 ∧
      Watching (history ++ moment.toList) (p.settle w).2 := by
  cases hrecorded with
  | frame topic payload => exact ⟨trivial, h.frame topic payload⟩
  | update => exact ⟨(gated_poll.obeys_asyncRefresh rfl).settle.2, h.update⟩
  | fetch =>
      have hsettled := (gated_fetch.asyncFetchConsumption (fun _ _ => rfl) w w rfl).settle
      rw [Option.toList_none, List.append_nil]
      exact ⟨hsettled.2, h.of_gate hsettled.1⟩
  | time now =>
      rw [Option.toList_none, List.append_nil]
      exact ⟨trivial, h.of_gate rfl⟩

/-- The invariant holds after every schedule that starts with no snapshot due. -/
theorem watching_of_history {w : World} (hmode : w.mode = .exclusive)
    (hexplicit : w.explicitRefresh = false) (hdue : w.snapshotDue = false)
    {pool : Pool World ClientOp ClientAnswer Exn Unit} {history : List Moment}
    (hrun : Pool.History anyAccount Recorded { shared := w, threads := [] } pool history) :
    Watching history pool.shared := by
  refine (hrun.invariant (fun history s t hgate hwatching => hwatching.of_gate hgate)
    (fun history s p moment => watching_launch) ?_ ⟨hmode, hexplicit, ?_⟩).2
  · exact fun p hp => absurd hp List.not_mem_nil
  · exact iff_of_false (by simp [hdue]) not_pending_nil

/-- A recorded update begins in a world in which a snapshot is due exactly if one is pending
before it. -/
theorem watching_update {w u : World} (hmode : w.mode = .exclusive)
    (hexplicit : w.explicitRefresh = false) (hdue : w.snapshotDue = false)
    {pool : Pool World ClientOp ClientAnswer Exn Unit} {earlier later : List Moment}
    (hrun : Pool.History anyAccount Recorded { shared := w, threads := [] } pool
      (earlier ++ .update u :: later)) : Watching earlier u := by
  obtain ⟨before, p, hsofar, hrecorded⟩ := hrun.launched
  have hwatching := watching_of_history hmode hexplicit hdue hsofar
  generalize before.shared = shared at hwatching hrecorded
  cases hrecorded
  exact hwatching

/-- In exclusive mode an update with the push channel up polls exactly if a frame has ended a
cycle since the last update that polled, and after every frame that ends a cycle an update
polls, at the latest the next one.  With an appliance to poll, to poll is to ask for a
status. -/
theorem asyncRefresh_polls_once_per_cycle {w : World} (hmode : w.mode = .exclusive)
    (hexplicit : w.explicitRefresh = false) (hdue : w.snapshotDue = false)
    {pool : Pool World ClientOp ClientAnswer Exn Unit} {history : List Moment}
    (hrun : Pool.History anyAccount Recorded { shared := w, threads := [] } pool history) :
    (∀ earlier u later, history = earlier ++ .update u :: later → u.pushIsHealthy = true →
      (StartsPoll u ↔ Pending Moment.moves Moment.polls earlier)) ∧
    (∀ earlier topic payload u between v later,
      history = earlier ++ .frame topic payload u :: (between ++ .update v :: later) →
      Moves topic payload u →
      ∃ x, Moment.update x ∈ between ++ [.update v] ∧ StartsPoll x) ∧
    ∀ earlier u later first rest, history = earlier ++ .update u :: later →
      u.devices.keys = first :: rest → (StartsPoll u ↔ AsksFirst first u) := by
  refine ⟨?_, ?_, fun _ u _ first rest _ hlisted => startsPoll_iff_asksFirst hlisted⟩
  · rintro earlier u later rfl hpush
    have hwatching := watching_update hmode hexplicit hdue hrun
    rw [← hwatching.due]
    exact ⟨hwatching.due_of_startsPoll hpush, hwatching.startsPoll_of_due⟩
  · rintro earlier topic payload u between v later rfl hmoves
    by_contra hnone
    rw [← List.cons_append, ← List.append_assoc] at hrun
    have hwatching := watching_update hmode hexplicit hdue hrun
    refine hnone ⟨v, by simp, hwatching.startsPoll_of_due (hwatching.due.mpr ?_)⟩
    have hmoved : Moment.moves (.frame topic payload u) := hmoves
    refine .of_opens hmoved fun moment hmoment hpolls => ?_
    cases moment with
    | frame => exact hpolls
    | update x => exact hnone ⟨x, List.mem_append_left _ hmoment, hpolls⟩

/-! ## A wash that ends -/

/-- One running dishwasher in exclusive mode with its push channel up. -/
def washingDishwasher : World :=
  { World.fresh with
    mode := .exclusive
    mqtt := some []
    devices := Dict.ofList [("D", {
      thingCode := "D"
      name := "dishwasher"
      deviceType := "0xE1"
      model := ""
      online := true
      metadata := Dict.empty })]
    data := some (Dict.ofList [("D", {
      thingCode := "D"
      attributes := Dict.ofList [("washingState", .str "4")] })]) }

def washEnds : Members := [("status", .obj [("washingState", .str "5")])]

def washed : World := handlePush "EU/EU_D/dev" washEnds washingDishwasher

/-- The wash ends, and a tick follows. -/
def washedPool : Pool World ClientOp ClientAnswer Exn Unit :=
  (Pool.launch (Coro.modify (handlePush "EU/EU_D/dev" washEnds))
    { shared := washingDishwasher, threads := [] }).launch asyncRefresh

def washedHistory : List Moment :=
  [.frame "EU/EU_D/dev" washEnds washingDishwasher, .update washed]

theorem asyncRefresh_polls_once_per_cycle_washed :
    (StartsPoll washed ↔
      Pending Moment.moves Moment.polls [.frame "EU/EU_D/dev" washEnds washingDishwasher]) ∧
    (∃ x, Moment.update x ∈ [] ++ [Moment.update washed] ∧ StartsPoll x) ∧
    (StartsPoll washed ↔ AsksFirst "D" washed) := by
  have hrun : Pool.History anyAccount Recorded { shared := washingDishwasher, threads := [] }
      washedPool washedHistory :=
    .launch (.launch .start (Recorded.frame _ _ _)) (Recorded.update _)
  have hclaim := asyncRefresh_polls_once_per_cycle rfl rfl rfl hrun
  refine ⟨hclaim.1 _ washed [] rfl (by decide +kernel), ?_,
    hclaim.2.2 [.frame "EU/EU_D/dev" washEnds washingDishwasher] washed [] "D" [] rfl
      (by decide +kernel)⟩
  refine hclaim.2.1 [] "EU/EU_D/dev" washEnds washingDishwasher [] washed [] rfl
    ⟨"D", ⟨"washingState", ["0", "5"]⟩, by decide +kernel, rfl, ?_⟩
  decide +kernel

end Coordinator

end Holabrain
