import Holabrain.Coordinator.Interleaving

/-!
# The blocks of an update

An update decides at once whether it polls, and from then on only answers, notes and the
writes of the poll follow.  A relation of worlds that all of these obey is obeyed by every
block of the update, whatever runs between two of them; the same for the fetch of the
consumption figures.
-/

namespace Holabrain

namespace Coordinator

/-- The world once an update has decided whether it polls. -/
def decided (w : World) : World :=
  { beginUpdate w with snapshotDue := w.snapshotDue && !w.explicitRefresh && skipsPoll w }

theorem decided_of_skips {w : World} (h : Skips w) : decided w = beginUpdate w := by
  rw [decided, h.1, h.2, Bool.not_false, Bool.and_true, Bool.and_true]
  rfl

theorem decided_of_not_skips {w : World} (h : ¬ Skips w) :
    decided w = { beginUpdate w with snapshotDue := false } := by
  have hpolls : (!w.explicitRefresh && skipsPoll w) = false := by
    rw [← Bool.not_eq_true]
    exact fun hskips => h (skips_iff.mp hskips)
  rw [decided, Bool.and_assoc, hpolls, Bool.and_false]

/-- What an update publishes. -/
def publish : Except Exn (Dict String DeviceState) → CoordM Unit
  | .ok states => Coro.modify fun w => w.setData states
  | .error _ => return ()

/-- What a relation needs for every block of a poll to obey it. -/
structure PollRelation (env : Environment World ClientOp ClientAnswer)
    (rel : World → World → Prop) : Prop where
  trans : ∀ {w w' w'' : World}, rel w w' → rel w' w'' → rel w w''
  answered : ∀ w op answer w', env w op answer w' → rel w w'
  noted : ∀ w event, rel w (World.note w event)
  counted : ∀ (w : World) n, rel w { w with failedPolls := n }
  absorbed : ∀ states w, rel w (absorbStatusFields states w)
  fetchDue : ∀ w, rel w (fetchConsumptionOnce w)
  published : ∀ w states, rel w (World.setData w states)

namespace PollRelation

variable {env : Environment World ClientOp ClientAnswer} {rel : World → World → Prop}

theorem modify (h : PollRelation env rel) {f : World → World} (hf : ∀ w, rel w (f w)) :
    Coro.Blocks env rel (Coro.modify f : CoordM Unit) := by
  apply Coro.Blocks.modify _ hf
  exact h.trans

theorem perform (h : PollRelation env rel) (op : ClientOp) :
    Coro.Blocks env rel (Coro.perform op : CoordM (ClientAnswer op)) :=
  .perform fun w answer w' => h.answered w op answer w'

theorem call (h : PollRelation env rel) (scheme : Scheme) (path : String) (payload : Json) :
    Coro.Blocks env rel (Client.call scheme path payload) :=
  (h.perform _).bind fun _ => .ofExcept _

theorem note (h : PollRelation env rel) (event : Event) :
    Coro.Blocks env rel (Coro.modify fun w => w.note event : CoordM Unit) :=
  h.modify fun w => h.noted w event

theorem asyncMaybeExtendToken (h : PollRelation env rel) (explicit : Bool) :
    Coro.Blocks env rel (asyncMaybeExtendToken explicit) := by
  refine (Coro.Blocks.gets _).bind fun w => .ite (.pure _) (.ite (.pure _) ?_)
  refine (h.note _).bind fun _ => Coro.Blocks.bind (.attempt ?_) fun answer => ?_
  · exact (h.perform _).bind fun _ => .ofExcept _
  · rcases answer with exn | token
    · cases exn <;> first | exact .pure _ | exact .throw _
    · exact .pure _

theorem asyncGetState (h : PollRelation env rel) (thingCode : String) :
    Coro.Blocks env rel (Client.asyncGetState thingCode) := by
  refine (Coro.Blocks.gets _).bind fun w => Coro.Blocks.bind ?_ fun data => .ofExcept _
  rw [Client.queryCall]
  exact .ite (h.call _ _ _) (h.call _ _ _)

theorem queryState (h : PollRelation env rel) (thingCode : String) :
    Coro.Blocks env rel (queryState thingCode) :=
  (h.note _).bind fun _ => (h.asyncGetState thingCode).attempt.bind fun answer =>
    (h.note _).bind fun _ => .pure answer

theorem pollLoop (h : PollRelation env rel) (codes : List String)
    (states : Dict String DeviceState) (errors : ℕ) :
    Coro.Blocks env rel (pollLoop codes states errors) := by
  induction codes generalizing states errors with
  | nil => exact .pure _
  | cons thingCode rest ih =>
      refine (h.queryState thingCode).bind fun answer => ?_
      have hstop : Coro.Blocks env rel (do
          let w ← Coro.gets id
          return (states, w.devices.keys.length) : CoordM (Dict String DeviceState × ℕ)) :=
        (Coro.Blocks.gets _).bind fun w => .pure _
      rcases answer with exn | state
      · cases exn with
        | dollin err => exact .ite hstop (.ite (.throw _) (.ite hstop (ih _ _)))
        | _ => exact .throw _
      · exact ih _ _

theorem finishPoll (h : PollRelation env rel) (states : Dict String DeviceState)
    (errors : ℕ) : Coro.Blocks env rel (finishPoll states errors) := by
  have habsorb := h.modify (h.absorbed states.items)
  refine (Coro.Blocks.gets _).bind fun w => .ite ?_ ?_
  · refine (h.modify fun w => h.counted w _).bind fun _ => .ite (.throw _) ?_
    exact habsorb.bind fun _ => .pure _
  · refine Coro.Blocks.bind (h.modify fun w => ?_) fun _ => habsorb.bind fun _ => .pure _
    exact h.trans (h.counted w 0) (h.fetchDue _)

theorem pollDevices (h : PollRelation env rel) (explicit : Bool) :
    Coro.Blocks env rel (pollDevices explicit) := by
  refine (h.asyncMaybeExtendToken explicit).bind fun _ => ?_
  refine (Coro.Blocks.gets _).bind fun w => ?_
  refine (h.modify fun w => h.noted w _).bind fun _ => ?_
  exact (h.pollLoop _ _ _).bind fun (states, errors) => h.finishPoll states errors

theorem publish (h : PollRelation env rel) (answer : Except Exn (Dict String DeviceState)) :
    Coro.Blocks env rel (publish answer) := by
  cases answer with
  | error exn => exact .pure _
  | ok states => exact h.modify fun w => h.published w states

/-- Every block of an update obeys the relation, the first one from where it has decided. -/
theorem obeys_asyncRefresh (h : PollRelation env rel) {w₀ w : World}
    (hstart : rel w₀ (decided w)) : asyncRefresh.Obeys env rel w₀ w := by
  rw [Coro.Obeys, asyncRefresh, Coro.under_bind, Coro.under_attempt, asyncUpdateData,
    Coro.under_bind, Coro.under_gets]
  dsimp only
  rw [Coro.under_bind, Coro.under_modify]
  dsimp only
  rw [Coro.under_bind, Coro.under_gets]
  dsimp only
  by_cases hskips : Skips w
  · rw [if_pos (skips_iff.mpr hskips)]
    rw [decided_of_skips hskips] at hstart
    exact h.publish (.ok w.states) w₀ (beginUpdate w) hstart
  · rw [if_neg fun hcond => hskips (skips_iff.mp hcond), Coro.under_bind, Coro.under_modify]
    rw [decided_of_not_skips hskips] at hstart
    exact Coro.under_mono (fun result t₀ t ht => h.publish result t₀ t ht)
      (h.pollDevices w.explicitRefresh _ _ hstart)

end PollRelation

/-! ## The fetch -/

/-- What a relation needs for every block of the fetch's reports to obey it. -/
structure FetchRelation (env : Environment World ClientOp ClientAnswer)
    (rel : World → World → Prop) : Prop where
  trans : ∀ {w w' w'' : World}, rel w w' → rel w' w'' → rel w w''
  answered : ∀ w op answer w', env w op answer w' → rel w w'
  stored : ∀ thingCode period report w, rel w (storeReport thingCode period report w)

namespace FetchRelation

variable {env : Environment World ClientOp ClientAnswer} {rel : World → World → Prop}

theorem modify (h : FetchRelation env rel) {f : World → World} (hf : ∀ w, rel w (f w)) :
    Coro.Blocks env rel (Coro.modify f : CoordM Unit) := by
  apply Coro.Blocks.modify _ hf
  exact h.trans

theorem call (h : FetchRelation env rel) (scheme : Scheme) (path : String) (payload : Json) :
    Coro.Blocks env rel (Client.call scheme path payload) :=
  (Coro.Blocks.perform fun w answer w' => h.answered w _ answer w').bind fun _ => .ofExcept _

theorem fetchReports (h : FetchRelation env rel) (reports : List (String × Period)) :
    Coro.Blocks env rel (fetchReports reports) := by
  induction reports with
  | nil => exact .pure _
  | cons entry rest ih =>
      refine Coro.Blocks.bind (.attempt ?_) fun answer => ?_
      · exact (h.call _ _ _).bind fun _ => .ofExcept _
      · cases answer with
        | error exn => exact .pure _
        | ok report => exact (h.modify fun w => h.stored _ _ report w).bind fun _ => ih

theorem reports (h : FetchRelation env rel) :
    Coro.Blocks env rel (do
      let w ← Coro.gets id
      Coordinator.fetchReports ((meteredDevices w).flatMap fun thingCode =>
        reportPeriods.map fun period => (thingCode, period)) : CoordM Unit) :=
  (Coro.Blocks.gets _).bind fun _ => h.fetchReports _

/-- The catalogue is taken over in the state it comes in. -/
theorem asyncFetchConsumption_of_answered (h : FetchRelation env rel)
    (hcatalogued : ∀ w reply w',
      env w (.call .oem Client.epDeviceTypeTree (.obj [])) (.ok reply) w' →
        rel w (reportUnsupported
          { w' with catalog := DeviceCatalog.fromTree (reply.get "data"), unsupported := [] })) :
    Coro.Blocks env rel asyncFetchConsumption := by
  refine (Coro.Blocks.gets _).bind fun catalog => .ite ?_ h.reports
  intro w₀ w hw
  rw [Coro.Obeys, Coro.under_bind, Coro.under_attempt, Client.asyncTree, Coro.under_bind,
    Client.under_call]
  refine ⟨hw, fun u _ answer w' hanswer => ?_⟩
  cases answer with
  | error exn => exact h.reports u w' (h.answered _ _ _ _ hanswer)
  | ok reply => exact h.reports u _ (hcatalogued u reply w' hanswer)

theorem asyncFetchConsumption (h : FetchRelation env rel)
    (hcatalogued : ∀ catalog w,
      rel w (reportUnsupported { w with catalog := catalog, unsupported := [] })) :
    Coro.Blocks env rel asyncFetchConsumption :=
  h.asyncFetchConsumption_of_answered fun _ _ w' hanswer =>
    h.trans (h.answered _ _ _ _ hanswer) (hcatalogued _ w')

end FetchRelation

end Coordinator

end Holabrain
