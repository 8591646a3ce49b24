import Holabrain.Coordinator.Interleaving

/-!
# The request budget of cooperative mode

After its first successful update the coordinator meets only ticks and frames in cooperative
mode, and the refreshes that frames queue.  What they cost is counted by an automaton over the
kinds of the steps: an update with published data sets the one-shot flag of the consumption
fetch, a frame for a published appliance spends it, and an update without any appliance does
both.
-/

namespace Holabrain

/-- The entries that stand for a request to the account. -/
def Event.isRequest : Event → Bool
  | .querySent _ => true
  | .extendSent => true
  | _ => false

namespace Coordinator

/-! ## Calm runs -/

inductive Kind
  /-- A scheduled tick, or a refresh that a frame has queued. -/
  | update
  | frame
  deriving DecidableEq

/-- The frame is for an appliance with a published state. -/
def HasState (topic : String) (w : World) : Prop :=
  ∃ thingCode, thingCodeFromTopic topic = some thingCode ∧ (w.states.get? thingCode).isSome

/-- A scheduled tick, a queued refresh, a frame, what the fetch writes in between, or time
passing. -/
inductive CalmStep : World → List Kind → World → Prop
  | tick {env : Environment World ClientOp ClientAnswer} {w w' : World}
      {result : Except Exn Unit} (hexec : Coro.Exec env asyncRefresh w result w') :
      CalmStep w [.update] w'
  /-- The debouncer answers one or more of the queued requests by one refresh. -/
  | queued {env : Environment World ClientOp ClientAnswer} {w w' : World} {answered : ℕ}
      {rest : List Task} {result : Except Exn Unit}
      (htasks : w.tasks.Perm (List.replicate (answered + 1) .requestRefresh ++ rest))
      (hexec : Coro.Exec env asyncRefresh { w with tasks := rest } result w') :
      CalmStep w [.update] w'
  | frame {topic : String} {w : World} (payload : Members) (hstate : HasState topic w) :
      CalmStep w [.frame] (handlePush topic payload w)
  | heartbeat {topic : String} {w : World} (payload : Members) (hstate : ¬ HasState topic w) :
      CalmStep w [] (handlePush topic payload w)
  | write {w w' : World} (hwrite : FetchWrite w w') : CalmStep w [] w'
  | time (now : ℚ) (w : World) : CalmStep w [] { w with now := now }

/-- A run, with the kinds of its steps. -/
inductive CalmRun : World → List Kind → World → Prop
  | nil (w : World) : CalmRun w [] w
  | cons {w w' w'' : World} {kinds rest : List Kind} (hstep : CalmStep w kinds w')
      (hrun : CalmRun w' rest w'') : CalmRun w (kinds ++ rest) w''

/-- At most one consumption fetch has been started since, and nothing else was asked of the
account. -/
def BudgetKept (w w' : World) : Prop :=
  w'.log.count .fetchStarted ≤ w.log.count .fetchStarted + 1 ∧
    w'.log.countP Event.isRequest = w.log.countP Event.isRequest

/-! ## The meter -/

/-- What the budget depends on. -/
structure Meter where
  mode : Mode
  explicitRefresh : Bool
  noDevices : Bool
  /-- Whether the published data is empty, if there is any. -/
  noData : Option Bool
  pending : Bool
  fetches : ℕ
  requests : ℕ

def meter (w : World) : Meter where
  mode := w.mode
  explicitRefresh := w.explicitRefresh
  noDevices := w.devices.isEmpty
  noData := w.data.map Dict.isEmpty
  pending := w.consumptionPending
  fetches := w.log.count .fetchStarted
  requests := w.log.countP Event.isRequest

namespace Meter

/-- The one-shot fetch. -/
def fetchOnce (m : Meter) : Meter :=
  if m.pending then { m with pending := false, fetches := m.fetches + 1 } else m

theorem fetchOnce_noData (m : Meter) : m.fetchOnce.noData = m.noData := by
  rw [fetchOnce]
  split <;> rfl

/-- One step of the run. -/
def step (m : Meter) : Kind → Meter
  | .update =>
      if m.noData = some true then { m with pending := true }.fetchOnce
      else { m with pending := true }
  | .frame => m.fetchOnce

/-- Cooperative mode after a successful update: nothing is published only where there is no
appliance. -/
structure Calm (m : Meter) : Prop where
  mode : m.mode = .cooperative
  explicitRefresh : m.explicitRefresh = false
  noData : m.noData = some false ∨ m.noData = some true ∧ m.noDevices = true

theorem Calm.step {m : Meter} (h : m.Calm) (kind : Kind) : (m.step kind).Calm := by
  obtain ⟨hmode, hexplicit, hdata⟩ := h
  cases kind <;> simp only [Meter.step, fetchOnce] <;> split <;> try split
  all_goals exact ⟨hmode, hexplicit, hdata⟩

/-! ### What the kinds cost -/

/-- The fetches that the kinds start while something is published. -/
def spends : Bool → List Kind → ℕ
  | _, [] => 0
  | _, .update :: rest => spends true rest
  | pending, .frame :: rest => (if pending then 1 else 0) + spends false rest

/-- The shortest kinds that start `n` fetches. -/
def shortest : Bool → ℕ → List Kind
  | _, 0 => []
  | true, n + 1 => .frame :: shortest false n
  | false, n + 1 => .update :: .frame :: shortest false n

end Meter

/-! ## The meter follows the run -/

section Steps

variable {w w' : World}

theorem OnlyProfiles.meter_eq (h : OnlyProfiles w w') : meter w' = meter w := by
  obtain ⟨_, _, _, rfl⟩ := h
  rfl

theorem meter_fetchConsumptionOnce (w : World) :
    meter (fetchConsumptionOnce w) = (meter w).fetchOnce := by
  cases hpending : w.consumptionPending with
  | true =>
      simp [fetchConsumptionOnce, Meter.fetchOnce, meter, hpending, Event.isRequest]
  | false => simp [fetchConsumptionOnce, Meter.fetchOnce, meter, hpending]

theorem FetchWrite.meter_eq (h : FetchWrite w w') : meter w' = meter w := by
  cases h with
  | catalogued catalog => rfl
  | stored thingCode period report => simp [meter, storeReport, Event.isRequest]

theorem meter_noteSnapshotTrigger (thingCode : String) (before after : DeviceState)
    (hmode : w.mode = .cooperative) :
    meter (noteSnapshotTrigger thingCode before after w) = meter w := by
  simp only [noteSnapshotTrigger]
  split
  · rfl
  split
  · split
    next hexclusive =>
      rw [show w.mode = .exclusive from hexclusive] at hmode
      cases hmode
    next => rfl
  · rfl

theorem meter_foldInto (thingCode : String) (payload : Members) (updated : DeviceState)
    (hdata : (meter w).noData = some false) :
    meter (foldInto thingCode payload updated w) = meter w := by
  have hmem : thingCode ∈ w.states.setItem thingCode updated :=
    (Dict.mem_setItem _ _ _ _).mpr (.inl rfl)
  have hempty := Dict.isEmpty_of_mem hmem
  simp only [meter] at hdata
  simp [meter, foldInto, hempty, hdata, Event.isRequest]

theorem meter_handlePush_heartbeat {topic : String} (payload : Members)
    (hstate : ¬ HasState topic w) : meter (handlePush topic payload w) = meter w := by
  simp only [handlePush]
  split
  · rfl
  next thingCode hcode =>
    split
    · rfl
    next current hcurrent =>
      refine absurd ⟨thingCode, hcode, ?_⟩ hstate
      have hsome : w.states.get? thingCode = some current := hcurrent
      rw [hsome]
      rfl

theorem meter_handlePush_frame {topic : String} (payload : Members) (hstate : HasState topic w)
    (hcalm : (meter w).Calm) : meter (handlePush topic payload w) = (meter w).fetchOnce := by
  obtain ⟨thingCode, hcode, hsome⟩ := hstate
  obtain ⟨current, hcurrent⟩ := Option.isSome_iff_exists.mp hsome
  have hdata : (meter w).noData = some false := by
    have hempty := Dict.isEmpty_of_mem (Dict.mem_of_get?_eq_some hcurrent)
    rcases hcalm.noData with hdata | ⟨hdata, _⟩
    · exact hdata
    · cases hw : w.data with
      | none =>
          rw [meter, hw] at hdata
          cases hdata
      | some states =>
          rw [World.states, hw] at hempty
          rw [meter, hw]
          exact congrArg some hempty
  have hpushed : meter { w with lastPush := some w.now } = meter w := rfl
  have hget : ({ w with lastPush := some w.now } : World).states.get? thingCode = some current :=
    hcurrent
  simp only [handlePush, hcode, hget, applyFrame, meter_fetchConsumptionOnce]
  congr 1
  split
  · exact hpushed
  next updated _ =>
    have habsorbed := (onlyProfiles_absorb [(thingCode, updated)]
      { w with lastPush := some w.now }).meter_eq.trans hpushed
    have hfolded := (meter_foldInto thingCode payload updated (habsorbed ▸ hdata)).trans habsorbed
    have hmode : (meter (foldInto thingCode payload updated (absorbStatusFields
        [(thingCode, updated)] { w with lastPush := some w.now }))).mode = .cooperative := by
      rw [hfolded]
      exact hcalm.mode
    exact (meter_noteSnapshotTrigger thingCode current updated hmode).trans hfolded

variable {env : Environment World ClientOp ClientAnswer}

theorem meter_beginUpdate (hexplicit : w.explicitRefresh = false) :
    meter (beginUpdate w) = { meter w with pending := true } := by
  simp only [meter, beginUpdate, hexplicit]

/-- A calm update with published data returns it at once. -/
theorem wp_asyncRefresh_published (hcalm : (meter w).Calm)
    (hdata : (meter w).noData = some false) :
    Coro.wp env asyncRefresh (fun _ w' => meter w' = (meter w).step .update) w := by
  have hexplicit : w.explicitRefresh = false := hcalm.explicitRefresh
  have hmode : w.mode = .cooperative := hcalm.mode
  obtain ⟨states, hstates, hempty⟩ := Option.map_eq_some_iff.mp hdata
  have hskips : skipsPoll (beginUpdate w) = true := by
    simp [skipsPoll, beginUpdate, World.states, hstates, hempty, hmode]
  simp only [asyncRefresh, asyncUpdateData, Coro.wp_bind, Coro.wp_attempt, Coro.wp_gets,
    Coro.wp_modify, Coro.wp_ite, Coro.wp_pure, hexplicit, hskips, id_eq, Bool.not_false,
    Bool.true_and, if_true]
  have hpublished : meter ((beginUpdate w).setData (beginUpdate w).states) =
      meter (beginUpdate w) := by
    simp [meter, beginUpdate, World.states, hstates]
  rw [hpublished, meter_beginUpdate hexplicit, Meter.step, if_neg (by rw [hdata]; decide)]

theorem wp_finishPoll_unfailed (states : Dict String DeviceState)
    {post : Except Exn (Dict String DeviceState) → World → Prop} :
    Coro.wp env (finishPoll states 0) post w ↔ post (.ok states)
      (absorbStatusFields states.items (fetchConsumptionOnce { w with failedPolls := 0 })) := by
  simp only [finishPoll, Coro.wp_bind, Coro.wp_gets, Coro.wp_ite, Coro.wp_modify, Coro.wp_pure]
  rw [if_neg (fun h => h.1 rfl)]

/-- A poll of no appliance in cooperative mode asks for nothing and starts the fetch. -/
theorem wp_pollDevices_idle (hmode : w.mode = .cooperative) (hdevices : w.devices.isEmpty = true)
    (hdata : (meter w).noData = some true) :
    Coro.wp env (pollDevices false) (fun result w' => ∃ states, result = .ok states ∧
      meter (w'.setData states) = (meter w).fetchOnce) w := by
  have hkeys : w.devices.keys = [] := Dict.isEmpty_iff_keys.mp hdevices
  have hstart : (pollStart w).isEmpty = true := by
    obtain ⟨states, hstates, hempty⟩ := Option.map_eq_some_iff.mp hdata
    apply Dict.isEmpty_filterKeys _
    rwa [World.states, hstates]
  simp only [pollDevices, asyncMaybeExtendToken, Coro.wp_bind, Coro.wp_gets, Coro.wp_ite,
    Coro.wp_pure, Coro.wp_modify, id_eq, hmode, hkeys, pollLoop, wp_finishPoll_unfailed]
  rw [if_pos (by decide)]
  refine ⟨pollStart w, rfl, ?_⟩
  have hstarted : meter { w.note (.pollStarted [] (pollStart w)) with failedPolls := 0 } =
      meter w := by
    simp [meter, Event.isRequest]
  have hpublished : ∀ w' : World, (meter w').noData = some true →
      meter (w'.setData (pollStart w)) = meter w' := by
    intro w' hempty
    simp only [meter] at hempty
    simp [meter, hstart, hempty]
  have hfetched : meter (absorbStatusFields (pollStart w).items (fetchConsumptionOnce
      { w.note (.pollStarted [] (pollStart w)) with failedPolls := 0 })) = (meter w).fetchOnce :=
    calc meter (absorbStatusFields (pollStart w).items (fetchConsumptionOnce
          { w.note (.pollStarted [] (pollStart w)) with failedPolls := 0 }))
        = meter (fetchConsumptionOnce
            { w.note (.pollStarted [] (pollStart w)) with failedPolls := 0 }) :=
          (onlyProfiles_absorb _ _).meter_eq
      _ = (meter { w.note (.pollStarted [] (pollStart w)) with failedPolls := 0 }).fetchOnce :=
          meter_fetchConsumptionOnce _
      _ = (meter w).fetchOnce := by rw [hstarted]
  rw [hpublished _ (by rw [hfetched, Meter.fetchOnce_noData, hdata]), hfetched]

/-- A calm update without any appliance asks for nothing and starts the fetch. -/
theorem wp_asyncRefresh_idle (hcalm : (meter w).Calm) (hdata : (meter w).noData = some true) :
    Coro.wp env asyncRefresh (fun _ w' => meter w' = (meter w).step .update) w := by
  have hexplicit : w.explicitRefresh = false := hcalm.explicitRefresh
  have hdevices : w.devices.isEmpty = true := hcalm.noData.elim
    (fun h => by rw [h] at hdata; cases hdata) And.right
  have hempty : (beginUpdate w).states.isEmpty = true := by
    obtain ⟨states, hstates, hempty⟩ := Option.map_eq_some_iff.mp hdata
    rwa [World.states, beginUpdate, hstates]
  have hskips : skipsPoll (beginUpdate w) = false := by
    have hpush : (beginUpdate w).pushIsHealthy = false := by
      simp only [World.pushIsHealthy, hempty, Bool.not_true, Bool.false_and]
      split <;> rfl
    rw [skipsPoll, hempty, hpush]
    rfl
  simp only [asyncRefresh, asyncUpdateData, Coro.wp_bind, Coro.wp_attempt, Coro.wp_gets,
    Coro.wp_modify, Coro.wp_ite, hexplicit, hskips, id_eq, Bool.and_false, Bool.false_eq_true,
    if_false]
  refine Coro.wp_mono ?_ (wp_pollDevices_idle hcalm.mode hdevices hdata)
  intro _ w' hpolled
  obtain ⟨states, rfl, hmeter⟩ := hpolled
  apply Eq.trans hmeter
  rw [Meter.step, if_pos hdata]
  exact congrArg Meter.fetchOnce (meter_beginUpdate hexplicit)

theorem wp_asyncRefresh_calm (hcalm : (meter w).Calm) :
    Coro.wp env asyncRefresh (fun _ w' => meter w' = (meter w).step .update) w := by
  rcases hcalm.noData with hdata | ⟨hdata, _⟩
  · exact wp_asyncRefresh_published hcalm hdata
  · exact wp_asyncRefresh_idle hcalm hdata

theorem CalmStep.meter_eq {kinds : List Kind} (h : CalmStep w kinds w')
    (hcalm : (meter w).Calm) : meter w' = kinds.foldl Meter.step (meter w) := by
  cases h with
  | tick hexec => exact hexec.post (wp_asyncRefresh_calm hcalm)
  | queued _ hexec =>
      exact hexec.post (wp_asyncRefresh_calm (w := { w with tasks := _ }) hcalm)
  | frame payload hstate => exact meter_handlePush_frame payload hstate hcalm
  | heartbeat payload hstate => exact meter_handlePush_heartbeat payload hstate
  | write hwrite => exact hwrite.meter_eq
  | time now => rfl

end Steps

/-- A calm run moves the meter along its kinds. -/
theorem CalmRun.meter_eq {w w' : World} {kinds : List Kind} (hrun : CalmRun w kinds w')
    (hcalm : (meter w).Calm) : meter w' = kinds.foldl Meter.step (meter w) := by
  induction hrun with
  | nil w => rfl
  | cons hstep hrun ih =>
      have hmeter := hstep.meter_eq hcalm
      rw [List.foldl_append, ← hmeter]
      apply ih
      rw [hmeter]
      exact List.foldlRecOn _ Meter.step hcalm fun m hm kind _ => hm.step kind

/-- What an operation's own steps leave alone of what the start depends on. -/
structure Steady (w w' : World) : Prop where
  devices : w'.devices = w.devices
  explicitRefresh : w'.explicitRefresh = w.explicitRefresh

theorem Steady.trans {w w' w'' : World} (h : Steady w w') (h' : Steady w' w'') : Steady w w'' :=
  ⟨h'.devices.trans h.devices, h'.explicitRefresh.trans h.explicitRefresh⟩

theorem Unpolled.steady {w w' : World} (h : Unpolled w w') : Steady w w' :=
  ⟨h.devices, h.explicitRefresh⟩

section Update

variable {w w' : World} {states : Dict String DeviceState}

end Update

def ovenStates : Dict String DeviceState :=
  Dict.ofList
    [("A", { thingCode := "A", attributes := Dict.ofList [("work_switch", .str "off")] })]

end Coordinator

end Holabrain
