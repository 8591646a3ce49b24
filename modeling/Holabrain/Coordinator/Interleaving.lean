import Holabrain.Coordinator.Push

/-!
# Between two awaits

While an operation of the coordinator awaits an answer, frames arrive, commands patch the
published data and time passes.  None of it touches the inventory or the mode, and the
history records it as foldings and consumption fetches.
-/

namespace Holabrain

/-- The entries a frame or a patch can make: they say nothing of the poll. -/
def Event.isFolding : Event → Bool
  | .folded .. => true
  | .fetchStarted => true
  | _ => false

namespace Coordinator

/-- What may happen while an operation awaits an answer. -/
inductive LiveStep : World → World → Prop
  | frame (topic : String) (payload : Members) (w : World) :
      LiveStep w (handlePush topic payload w)
  | patch (thingCode : String) (instruction : Members) (w : World) :
      LiveStep w (patchState thingCode instruction w)
  | time (now : ℚ) (w : World) : LiveStep w { w with now := now }

/-- Any number of frames, patches and moments. -/
def Live : World → World → Prop := Relation.ReflTransGen LiveStep

/-- Requests are answered by anything, after any number of frames and patches. -/
def interleaved : Environment World ClientOp ClientAnswer := fun w _ _ w' => Live w w'

/-! ## What a frame leaves alone -/

/-- What no frame and no patch writes. -/
structure Fixed where
  devices : Dict String Device
  mode : Mode
  explicitRefresh : Bool
  consumption : Dict (String × Period) Statistics.Report
  catalog : DeviceCatalog

def fixed (w : World) : Fixed where
  devices := w.devices
  mode := w.mode
  explicitRefresh := w.explicitRefresh
  consumption := w.consumption
  catalog := w.catalog

/-- A frame or patch leaves all that alone, publishes no further appliance, and writes only
foldings and fetches into the history. -/
structure Unpolled (w w' : World) : Prop where
  fixed : fixed w' = fixed w
  published : ∀ code, code ∈ w'.states ↔ code ∈ w.states
  log : ∃ new, w'.log = w.log ++ new ∧ ∀ event ∈ new, event.isFolding = true

namespace Unpolled

variable {w w' w'' : World}

theorem refl (w : World) : Unpolled w w := ⟨rfl, fun _ => Iff.rfl, [], by simp, by simp⟩

theorem trans (h : Unpolled w w') (h' : Unpolled w' w'') : Unpolled w w'' := by
  obtain ⟨new, hlog, hnew⟩ := h.log
  obtain ⟨new', hlog', hnew'⟩ := h'.log
  refine ⟨h'.fixed.trans h.fixed, fun code => (h'.published code).trans (h.published code),
    new ++ new', ?_, ?_⟩
  · rw [hlog', hlog, List.append_assoc]
  · intro event hmem
    exact (List.mem_append.mp hmem).elim (hnew event) (hnew' event)

/-- No event at all. -/
theorem of_eq (hfixed : Coordinator.fixed w' = Coordinator.fixed w) (hdata : w'.data = w.data)
    (hlog : w'.log = w.log) : Unpolled w w' := by
  refine ⟨hfixed, fun code => ?_, [], by simp [hlog], by simp⟩
  rw [World.states, World.states, hdata]

theorem devices (h : Unpolled w w') : w'.devices = w.devices := congrArg Fixed.devices h.fixed

theorem explicitRefresh (h : Unpolled w w') : w'.explicitRefresh = w.explicitRefresh :=
  congrArg Fixed.explicitRefresh h.fixed

end Unpolled

theorem Unpolled.note (w : World) {event : Event} (hevent : event.isFolding = true) :
    Unpolled w (w.note event) :=
  ⟨rfl, fun _ => Iff.rfl, [event], rfl, by simpa using hevent⟩

theorem OnlyProfiles.unpolled {w w' : World} (h : OnlyProfiles w w') : Unpolled w w' := by
  obtain ⟨_, _, _, rfl⟩ := h
  exact .of_eq rfl rfl rfl

/-- What a frame or a poll asks for changes the mark of a due snapshot, the pending fetch and
the queue of tasks, and writes down the fetches. -/
def OnlyQueued (w w' : World) : Prop :=
  ∃ due pending tasks new, w' = { w with
      snapshotDue := due, consumptionPending := pending, tasks := tasks, log := w.log ++ new } ∧
    ∀ event ∈ new, event = .fetchStarted

theorem OnlyQueued.refl (w : World) : OnlyQueued w w :=
  ⟨_, _, _, [], by rw [List.append_nil], by simp⟩

theorem onlyQueued_fetchConsumptionOnce (w : World) : OnlyQueued w (fetchConsumptionOnce w) := by
  rw [fetchConsumptionOnce]
  split
  · exact ⟨_, _, _, [.fetchStarted], rfl, by simp⟩
  · exact .refl w

theorem onlyQueued_noteSnapshotTrigger (thingCode : String) (before after : DeviceState)
    (w : World) : OnlyQueued w (noteSnapshotTrigger thingCode before after w) := by
  simp only [noteSnapshotTrigger]
  split
  · exact .refl w
  split
  · split
    · exact ⟨_, _, _, [.fetchStarted], rfl, by simp⟩
    · exact ⟨true, w.consumptionPending, w.tasks ++ [.requestRefresh], [],
        by simp [World.schedule], by simp⟩
  · exact .refl w

theorem OnlyQueued.unpolled {w w' : World} (h : OnlyQueued w w') : Unpolled w w' := by
  obtain ⟨_, _, _, new, rfl, hnew⟩ := h
  exact ⟨rfl, fun _ => Iff.rfl, new, rfl, fun event hevent => by rw [hnew event hevent]; rfl⟩

theorem unpolled_fetchConsumptionOnce (w : World) : Unpolled w (fetchConsumptionOnce w) :=
  (onlyQueued_fetchConsumptionOnce w).unpolled

theorem unpolled_foldInto {thingCode : String} (payload : Members) (updated : DeviceState)
    {w : World} (hcurrent : thingCode ∈ w.states) :
    Unpolled w (foldInto thingCode payload updated w) := by
  apply Unpolled.trans _ (.note _ rfl)
  refine ⟨rfl, fun code => ?_, [], by simp, by simp⟩
  rw [World.states, World.setData_data, Option.getD_some, Dict.mem_setItem]
  exact or_iff_right_of_imp fun hcode => hcode ▸ hcurrent

theorem unpolled_handlePush (topic : String) (payload : Members) (w : World) :
    Unpolled w (handlePush topic payload w) := by
  have hpushed : Unpolled w { w with lastPush := some w.now } := .of_eq rfl rfl rfl
  simp only [handlePush]
  split
  · exact hpushed
  next thingCode _ =>
    split
    · exact hpushed
    next current hcurrent =>
      apply hpushed.trans
      simp only [applyFrame]
      split
      · exact unpolled_fetchConsumptionOnce _
      next updated _ =>
        have habsorbed := (onlyProfiles_absorb [(thingCode, updated)]
          { w with lastPush := some w.now }).unpolled
        have hpublished := (habsorbed.published thingCode).mpr
          (Dict.mem_of_get?_eq_some hcurrent)
        exact habsorbed.trans ((unpolled_foldInto payload updated hpublished).trans
          ((onlyQueued_noteSnapshotTrigger _ _ _ _).unpolled.trans
            (unpolled_fetchConsumptionOnce _)))

theorem unpolled_patchState (thingCode : String) (instruction : Members) (w : World) :
    Unpolled w (patchState thingCode instruction w) := by
  simp only [patchState]
  split
  · exact .refl w
  next current hcurrent =>
    split
    · exact unpolled_foldInto instruction _ (Dict.mem_of_get?_eq_some hcurrent)
    · exact .refl w

theorem Live.unpolled {w w' : World} (h : Live w w') : Unpolled w w' := by
  induction h with
  | refl => exact .refl w
  | tail _ hstep ih =>
      apply ih.trans
      cases hstep with
      | frame topic payload => exact unpolled_handlePush topic payload _
      | patch thingCode instruction => exact unpolled_patchState thingCode instruction _
      | time now => exact .of_eq rfl rfl rfl

/-! ## What a poll leaves alone -/

section Poll

variable {env : Environment World ClientOp ClientAnswer}

/-- The status request of an appliance awaits once, whatever it is answered. -/
theorem wp_queryState (reaches : World → World → Prop)
    (henv : ∀ w op answer w', env w op answer w' → reaches w w') {thingCode : String} {w : World}
    {post : Except Exn (Except Exn DeviceState) → World → Prop}
    (h : ∀ answer w', reaches (w.note (.querySent thingCode)) w' →
      post (.ok answer) (w'.note (.querySettled thingCode answer.toOption))) :
    Coro.wp env (queryState thingCode) post w := by
  simp only [queryState, Coro.wp_bind, Coro.wp_modify, Coro.wp_attempt, Coro.wp_pure]
  exact Client.wp_asyncGetState reaches henv h

/-- An invariant of the gathered states that every settled request keeps holds wherever the
loop ends, of what it returns if it returns. -/
theorem wp_pollLoop_inv (inv : Dict String DeviceState → World → Prop) (codes : List String)
    (hstep : ∀ thingCode ∈ codes, ∀ states w, inv states w →
      Coro.wp env (queryState thingCode) (fun result w' => ∃ answer, result = .ok answer ∧
        inv (match answer with
          | .ok state => states.setItem thingCode state
          | .error _ => states) w') w)
    {states : Dict String DeviceState} (errors : ℕ) {w : World} (h : inv states w) :
    Coro.wp env (pollLoop codes states errors) (fun result w' => ∃ gathered, inv gathered w' ∧
      ∀ returned, result = .ok returned → returned.1 = gathered) w := by
  induction codes generalizing states errors w with
  | nil =>
      refine ⟨states, h, fun returned hreturned => ?_⟩
      cases hreturned
      rfl
  | cons thingCode rest ih =>
      have hlater : ∀ code ∈ rest, code ∈ thingCode :: rest :=
        fun code hcode => List.mem_cons_of_mem _ hcode
      rw [pollLoop, Coro.wp_bind]
      apply Coro.wp_mono _ (hstep thingCode List.mem_cons_self states w h)
      intro result w' hsettled
      obtain ⟨answer, rfl, hw'⟩ := hsettled
      cases answer with
      | ok state => exact ih (fun code hcode => hstep code (hlater code hcode)) _ hw'
      | error exn =>
          cases exn with
          | dollin err =>
              simp only [Coro.wp_ite, Coro.wp_bind, Coro.wp_gets, Coro.wp_pure, Coro.wp_throw]
              split
              · exact ⟨states, hw', by simp [eq_comm]⟩
              split
              · exact ⟨states, hw', by simp⟩
              split
              · exact ⟨states, hw', by simp [eq_comm]⟩
              · exact ih (fun code hcode => hstep code (hlater code hcode)) _ hw'
          | _ => exact ⟨states, hw', by simp⟩

/-- What follows the loop returns what it gathered, or fails. -/
theorem wp_finishPoll (states : Dict String DeviceState) (errors : ℕ) (w : World) :
    Coro.wp env (finishPoll states errors) (fun result w' => Unpolled w w' ∧
      ∀ published, result = .ok published → published = states) w := by
  simp only [finishPoll, Coro.wp_bind, Coro.wp_gets, Coro.wp_ite, Coro.wp_modify, Coro.wp_throw,
    Coro.wp_pure]
  have hcounted : ∀ failedPolls, Unpolled w { w with failedPolls := failedPolls } :=
    fun _ => .of_eq rfl rfl rfl
  have habsorbed : ∀ w', Unpolled w' (absorbStatusFields states.items w') :=
    fun w' => (onlyProfiles_absorb states.items w').unpolled
  split
  · split
    · exact ⟨hcounted _, by simp⟩
    · exact ⟨(hcounted _).trans (habsorbed _), by simp [eq_comm]⟩
  · exact ⟨(hcounted _).trans ((unpolled_fetchConsumptionOnce _).trans (habsorbed _)),
      by simp [eq_comm]⟩

/-- The token extension awaits at most once. -/
theorem wp_asyncMaybeExtendToken (inv : World → Prop)
    (hsent : ∀ w, inv w → inv (w.note .extendSent))
    (henv : ∀ w op answer w', env w op answer w' → inv w → inv w') (explicit : Bool) {w : World}
    (h : inv w) : Coro.wp env (asyncMaybeExtendToken explicit) (fun _ => inv) w := by
  simp only [asyncMaybeExtendToken, Coro.wp_bind, Coro.wp_gets, Coro.wp_ite, Coro.wp_pure,
    Coro.wp_modify, Coro.wp_attempt, Client.wp_extendToken]
  split
  · exact h
  split
  · exact h
  intro answer w' hanswer
  have hextended : inv w' := henv _ _ _ _ hanswer (hsent w h)
  cases answer with
  | error exn => cases exn <;> exact hextended
  | ok token => exact hextended

/-- What an update decides on, once it has reset what every update does. -/
theorem skips_iff {w : World} :
    (!w.explicitRefresh && skipsPoll (id (beginUpdate w))) = true ↔ Skips w := by
  rw [Skips, Bool.and_eq_true, Bool.not_eq_true']
  exact Iff.rfl

/-- How an update ends: at once, before its poll has copied anything, or with what its poll
has gathered. -/
inductive UpdateOutcome (copying : World → Prop)
    (polling : World → Dict String DeviceState → World → Prop) (w : World) :
    Except Exn (Dict String DeviceState) → World → Prop
  | skipped (hskips : Skips w) : UpdateOutcome copying polling w (.ok w.states) (beginUpdate w)
  | unextended {w₁ : World} {exn : Exn} (hpolls : ¬ Skips w) (hcopying : copying w₁) :
      UpdateOutcome copying polling w (.error exn) w₁
  | polled {w₁ w₂ w' : World} {gathered : Dict String DeviceState}
      {result : Except Exn (Dict String DeviceState)} (hpolls : ¬ Skips w)
      (hpolling : polling w₁ gathered w₂) (hfinished : Unpolled w₂ w')
      (hreturned : ∀ published, result = .ok published → published = gathered) :
      UpdateOutcome copying polling w result w'

/-- What holds until the poll makes its copy, and what the copy establishes and every settled
request keeps, hold of how the update ends. -/
theorem wp_asyncUpdateData (copying : World → Prop)
    (polling : World → Dict String DeviceState → World → Prop) {w : World}
    (hbegun : copying { beginUpdate w with snapshotDue := false })
    (hsent : ∀ w, copying w → copying (w.note .extendSent))
    (henv : ∀ w op answer w', env w op answer w' → copying w → copying w')
    (hcopied : ∀ w₁, copying w₁ → polling w₁ (pollStart w₁)
      (w₁.note (.pollStarted w₁.devices.keys (pollStart w₁))))
    (hsettled : ∀ w₁ thingCode states w₂, polling w₁ states w₂ →
      Coro.wp env (queryState thingCode) (fun result w' => ∃ answer, result = .ok answer ∧
        polling w₁ (match answer with
          | .ok state => states.setItem thingCode state
          | .error _ => states) w') w₂) :
    Coro.wp env asyncUpdateData (UpdateOutcome copying polling w) w := by
  simp only [asyncUpdateData, Coro.wp_bind, Coro.wp_gets, Coro.wp_modify, Coro.wp_ite,
    Coro.wp_pure]
  split
  next hskipped => exact .skipped (skips_iff.mp hskipped)
  next hpolls =>
    have hnot : ¬ Skips w := fun hskipped => hpolls (skips_iff.mpr hskipped)
    simp only [pollDevices, Coro.wp_bind, Coro.wp_gets, Coro.wp_modify]
    apply Coro.wp_mono _ (wp_asyncMaybeExtendToken copying hsent henv _ hbegun)
    intro result w₁ hcopying
    cases result with
    | error exn => exact .unextended hnot hcopying
    | ok extended =>
        have hloop := wp_pollLoop_inv (polling w₁) w₁.devices.keys
          (fun thingCode _ states w₂ => hsettled w₁ thingCode states w₂) 0 (hcopied w₁ hcopying)
        apply Coro.wp_mono _ hloop
        intro result w₂ hpolled
        obtain ⟨gathered, hgathered, hreturned⟩ := hpolled
        cases result with
        | error exn => exact .polled hnot hgathered (.refl w₂) (by simp)
        | ok returned =>
            apply Coro.wp_mono _ (wp_finishPoll returned.1 returned.2 w₂)
            intro result w₃ hfinished
            refine .polled hnot hgathered hfinished.1 fun published hpublished => ?_
            rw [hfinished.2 published hpublished, hreturned returned rfl]

end Poll

end Coordinator

end Holabrain
