import Holabrain.Coordinator.Interleaving

/-!
# Frames and commands during a poll

A poll copies the published data, awaits one answer per appliance and publishes its copy.
Frames and optimistic patches are folded into the live data meanwhile.  Whatever the order,
the poll publishes its own reading of every appliance: the answer to its status request, or
the copied state if that failed or was never made.
-/

namespace Holabrain

namespace Coordinator

/-! ## Reading the history -/

/-- The poll's own reading of an appliance. -/
def reading (thingCode : String) (log : List Event) : Option DeviceState :=
  log.foldl (fun read event => match event with
    | .pollStarted _ states => states.get? thingCode
    | .querySettled code (some state) => if code = thingCode then some state else read
    | _ => read) none

/-- What was folded into an appliance since its own request settled, or since the copy where
none was made. -/
def lateUpdates (thingCode : String) (log : List Event) : List Members :=
  log.foldl (fun late event => match event with
    | .pollStarted .. => []
    | .querySettled code _ => if code = thingCode then [] else late
    | .folded code payload => if code = thingCode then late ++ [payload] else late
    | _ => late) []

/-- The updates are still visible in the state: folding them once more changes nothing. -/
def Reflected (updates : List Members) (state : Option DeviceState) : Prop :=
  updates ≠ [] → ∃ shown, state = some shown ∧ updates.foldl DeviceState.applyPush shown = shown

theorem reading_append (thingCode : String) (log : List Event) {new : List Event}
    (hnew : ∀ event ∈ new, event.isFolding = true) :
    reading thingCode (log ++ new) = reading thingCode log := by
  induction new using List.reverseRecOn with
  | nil => simp
  | append_singleton new event ih =>
      have hevent : event.isFolding = true := hnew event (by simp)
      rw [← List.append_assoc, reading, List.foldl_append]
      change (match event with
        | .pollStarted _ states => states.get? thingCode
        | .querySettled code (some state) =>
            if code = thingCode then some state else reading thingCode (log ++ new)
        | _ => reading thingCode (log ++ new)) = _
      rw [← ih fun event hmem => hnew event (List.mem_append_left _ hmem)]
      cases event <;> simp_all [Event.isFolding]

/-! ## The poll publishes its own reading -/

/-- The gathered states are the readings made since the history was `start`. -/
def Gathered (start : List Event) (states : Dict String DeviceState) (w : World) : Prop :=
  ∃ new, w.log = start ++ new ∧ ∀ thingCode, states.get? thingCode = reading thingCode new

section Gathered

variable {start : List Event} {states : Dict String DeviceState} {w w' : World}

theorem Gathered.of_unpolled (h : Gathered start states w) (hw : Unpolled w w') :
    Gathered start states w' := by
  obtain ⟨new, hlog, hread⟩ := h
  obtain ⟨folded, hlog', hfolded⟩ := hw.log
  refine ⟨new ++ folded, ?_, fun thingCode => ?_⟩
  · rw [hlog', hlog, List.append_assoc]
  · rw [hread thingCode, reading_append thingCode new hfolded]

/-- The copy is the first reading of every appliance. -/
theorem gathered_pollStarted (hstart : start <+: w.log) (listed : List String)
    (states : Dict String DeviceState) :
    Gathered start states (w.note (.pollStarted listed states)) := by
  obtain ⟨new, hlog⟩ := hstart
  refine ⟨new ++ [.pollStarted listed states], ?_, fun thingCode => ?_⟩
  · rw [World.note_log, ← hlog, List.append_assoc]
  · rw [reading, List.foldl_append]
    rfl

theorem Gathered.sent (h : Gathered start states w) (code : String) :
    Gathered start states (w.note (.querySent code)) := by
  obtain ⟨new, hlog, hread⟩ := h
  refine ⟨new ++ [.querySent code], ?_, fun thingCode => ?_⟩
  · rw [World.note_log, hlog, List.append_assoc]
  · rw [hread thingCode, reading, reading, List.foldl_append]
    rfl

/-- A settled request that was answered replaces the reading of its appliance. -/
theorem Gathered.settle (h : Gathered start states w) (code : String)
    (answer : Except Exn DeviceState) :
    Gathered start (match answer with
      | .ok state => states.setItem code state
      | .error _ => states) (w.note (.querySettled code answer.toOption)) := by
  obtain ⟨new, hlog, hread⟩ := h
  refine ⟨new ++ [.querySettled code answer.toOption], ?_, fun thingCode => ?_⟩
  · rw [World.note_log, hlog, List.append_assoc]
  rw [reading, List.foldl_append]
  cases answer with
  | error exn => exact hread thingCode
  | ok state =>
      change _ = if code = thingCode then some state else reading thingCode new
      rw [Dict.get?_setItem, hread thingCode]
      by_cases hcode : thingCode = code
      · simp [hcode]
      · simp [hcode, Ne.symm hcode]

theorem wp_queryState_gathered (thingCode : String) (h : Gathered start states w) :
    Coro.wp interleaved (queryState thingCode) (fun result w' => ∃ answer, result = .ok answer ∧
      Gathered start (match answer with
        | .ok state => states.setItem thingCode state
        | .error _ => states) w') w := by
  apply wp_queryState Live fun _ _ _ _ henv => henv
  intro answer w' hlive
  exact ⟨answer, rfl, ((h.sent thingCode).of_unpolled hlive.unpolled).settle thingCode answer⟩

end Gathered

/-- What an update publishes is its own reading, unless it returned what was there at once. -/
theorem wp_asyncUpdateData_gathered (w : World) :
    Coro.wp interleaved asyncUpdateData (fun result w' => ∀ published, result = .ok published →
      w'.log = w.log ∨ Gathered w.log published w') w := by
  have hextended : ∀ w₁ : World, w.log <+: w₁.log → w.log <+: (w₁.note .extendSent).log :=
    fun w₁ hprefix => hprefix.trans (List.prefix_append _ _)
  have hanswered : ∀ (w₁ : World) op answer w₂, interleaved w₁ op answer w₂ →
      w.log <+: w₁.log → w.log <+: w₂.log := by
    intro w₁ op answer w₂ hlive hprefix
    obtain ⟨new, hlog, _⟩ := (Live.unpolled hlive).log
    exact hprefix.trans ⟨new, hlog.symm⟩
  apply Coro.wp_mono _ (wp_asyncUpdateData (fun w₁ => w.log <+: w₁.log)
    (fun _ => Gathered w.log) (List.prefix_refl w.log) hextended hanswered
    (fun w₁ hprefix => gathered_pollStarted hprefix w₁.devices.keys (pollStart w₁))
    fun _ thingCode _ _ hgathered => wp_queryState_gathered thingCode hgathered)
  intro result w' houtcome published hpublished
  cases houtcome with
  | skipped hskips => exact .inl rfl
  | unextended hpolls hcopying => cases hpublished
  | polled hpolls hpolling hfinished hreturned =>
      rw [hreturned published hpublished]
      exact .inr (hpolling.of_unpolled hfinished)

/-! ## Lost updates -/

/-- Every appliance of the inventory shows what was folded into it after its own request
settled. -/
def UpdatesReflected (w w' : World) (shown : String → Option DeviceState) : Prop :=
  ∀ thingCode ∈ w.devices, Reflected (lateUpdates thingCode (since w w')) (shown thingCode)

/-- The published states reflect the late updates exactly if the poll's own readings, made
before them, already do. -/
theorem updatesReflected_iff {w w' : World} {published : Dict String DeviceState}
    (hexec : Coro.Exec interleaved asyncUpdateData w (.ok published) w') :
    UpdatesReflected w w' published.get? ↔
      UpdatesReflected w w' fun thingCode => reading thingCode (since w w') := by
  rcases hexec.post (wp_asyncUpdateData_gathered w) published rfl with hlog | ⟨new, hlog, hread⟩
  · have hnone : ∀ shown, UpdatesReflected w w' shown := by
      intro shown thingCode _ hlate
      rw [since, hlog, List.drop_length] at hlate
      exact absurd rfl hlate
    exact ⟨fun _ => hnone _, fun _ => hnone _⟩
  · have hsince : since w w' = new := by
      rw [since, hlog, List.drop_left]
    rw [hsince, ← funext hread]

/-! ## A frame between two answers -/

def oven (thingCode : String) : Device where
  thingCode := thingCode
  name := thingCode
  deviceType := "0xB1"
  model := ""
  online := true
  metadata := Dict.empty

def ovenState (thingCode value : String) : DeviceState where
  thingCode := thingCode
  attributes := Dict.ofList [("work_switch", .str value)]

def bothOvens (value : String) : Dict String DeviceState :=
  Dict.ofList [("A", ovenState "A" value), ("B", ovenState "B" value)]

/-- Two appliances with a state each, in exclusive mode and without a push channel. -/
def twoOvens : World :=
  { World.fresh with
    devices := Dict.ofList [("A", oven "A"), ("B", oven "B")]
    data := some (bothOvens "standby")
    mode := .exclusive }

/-- Every status request is answered; while the `k`-th is in flight, the first appliance
reports that it was switched on. -/
def switchedOnDuring (k : ℕ) : ℕ → World → (op : ClientOp) → ClientAnswer op × World :=
  Client.scripted (fun _ => .ok [("data", .obj [("work_switch", .str "off")])])
    (fun _ _ => .ok none)
    fun n w => if n = k then handlePush "EU/EU_A/dev" [("work_switch", .str "on")] w else w

theorem interleaved_switchedOnDuring (k n : ℕ) (w : World) (op : ClientOp) :
    interleaved w op (switchedOnDuring k n w op).1 (switchedOnDuring k n w op).2 := by
  have hlive : Live w
      (if n = k then handlePush "EU/EU_A/dev" [("work_switch", .str "on")] w else w) := by
    split
    · exact .single (.frame _ _ w)
    · exact .refl
  cases op <;> exact hlive

/-- The update of both, and what it publishes. -/
def polledOvens (k : ℕ) : Except Exn (Dict String DeviceState) × World :=
  asyncUpdateData.play (switchedOnDuring k) 0 twoOvens

theorem exec_polledOvens {k : ℕ} {published : Dict String DeviceState}
    (hpublished : (polledOvens k).1 = .ok published) :
    Coro.Exec interleaved asyncUpdateData twoOvens (.ok published) (polledOvens k).2 := by
  rw [← hpublished]
  exact Coro.exec_play (switchedOnDuring k) (interleaved_switchedOnDuring k) _ 0 twoOvens

/-- A report that precedes the appliance's own answer is covered by it. -/
theorem updatesReflected_polledOvens :
    UpdatesReflected twoOvens (polledOvens 0).2 (bothOvens "off").get? := by
  apply (updatesReflected_iff (exec_polledOvens (by decide +kernel))).mpr
  intro thingCode hmem hlate
  have hkeys : twoOvens.devices.keys = ["A", "B"] := by decide +kernel
  have hcode : thingCode ∈ twoOvens.devices.keys := hmem
  rw [hkeys, List.mem_pair] at hcode
  rcases hcode with rfl | rfl
  · exact absurd (by decide +kernel) hlate
  · exact absurd (by decide +kernel) hlate

/-- One that comes after it, while the next appliance is asked, is lost. -/
theorem not_updatesReflected_polledOvens :
    Coro.Exec interleaved asyncUpdateData twoOvens (.ok (bothOvens "off"))
        (polledOvens 1).2 ∧
      ¬ UpdatesReflected twoOvens (polledOvens 1).2 (bothOvens "off").get? := by
  refine ⟨exec_polledOvens (by decide +kernel), fun hreflected => ?_⟩
  have hlate : lateUpdates "A" (since twoOvens (polledOvens 1).2) =
      [[("work_switch", .str "on")]] := by decide +kernel
  have hshown := hreflected "A" (by decide +kernel)
  rw [hlate] at hshown
  obtain ⟨shown, hpublished, hfixed⟩ := hshown (by decide)
  have hoff : (bothOvens "off").get? "A" = some (ovenState "A" "off") := by
    decide +kernel
  rw [hoff] at hpublished
  cases hpublished
  exact absurd hfixed (by decide +kernel)

end Coordinator

end Holabrain
