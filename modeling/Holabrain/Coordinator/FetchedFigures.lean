import Holabrain.Coordinator.UpdateBlocks

/-!
# The life of the fetched figures

The consumption task writes a report at a time, and the catalogue once it has been read.
Updates, frames and the task itself run interleaved over the same world.  Every block of
theirs keeps what was fetched, except the first one of an update, which erases it.
-/

namespace Holabrain

namespace Coordinator

/-- What was fetched is still there, a report possibly replaced by one fetched since. -/
structure FiguresKept (w w' : World) : Prop where
  log : w.log <+: w'.log
  figures : ∀ thingCode period report, consumptionOf w thingCode period = some report →
    ∃ report', consumptionOf w' thingCode period = some report' ∧
      (report' = report ∨ .reported thingCode period report' ∈ since w w')
  catalog : w.catalog.types.isEmpty = false → w'.catalog.types.isEmpty = false

/-- No report and no catalogue is there. -/
def NothingFetched (w : World) : Prop :=
  (∀ thingCode period, consumptionOf w thingCode period = none) ∧
    w.catalog.types.isEmpty = true

/-- Every request is answered by anything; the others have their own blocks. -/
def anyAnswer : Environment World ClientOp ClientAnswer := fun w _ _ w' => w' = w

/-- A catalogue without types does not follow one with types. -/
def steadyCatalog : Environment World ClientOp ClientAnswer
  | w, .call _ path _, .ok reply, w' => w' = w ∧ (path = Client.epDeviceTypeTree →
      w.catalog.types.isEmpty = false →
        (DeviceCatalog.fromTree (reply.get "data")).types.isEmpty = false)
  | w, _, _, w' => w' = w

/-- Updates start only where they may; fetches, frames, refresh requests, changes of the mode
and the clock come as they like. -/
inductive Launched (mayUpdate : World → Prop) : World → CoordM Unit → Prop
  | update {w : World} (hmay : mayUpdate w) : Launched mayUpdate w asyncRefresh
  | fetch (w : World) : Launched mayUpdate w asyncFetchConsumption
  | frame (topic : String) (payload : Members) (w : World) :
      Launched mayUpdate w (Coro.modify (handlePush topic payload))
  | refreshNow (w : World) : Launched mayUpdate w (Coro.modify askRefresh)
  | mode (mode : Mode) (w : World) : Launched mayUpdate w (Coro.modify (setMode mode))
  | time (now : ℚ) (w : World) :
      Launched mayUpdate w (Coro.modify fun w => { w with now := now })

/-! ## The relation -/

theorem since_trans {w w' w'' : World} (h : w.log <+: w'.log) (h' : w'.log <+: w''.log) :
    since w w'' = since w w' ++ since w' w'' := by
  obtain ⟨new, hnew⟩ := h
  obtain ⟨new', hnew'⟩ := h'
  simp only [since, ← hnew', ← hnew, List.append_assoc, List.drop_left, List.length_append]
  rw [← List.append_assoc, ← List.length_append, List.drop_left]

/-- Nothing that was fetched has been written. -/
structure Untouched (w w' : World) : Prop where
  log : w.log <+: w'.log
  consumption : w'.consumption = w.consumption
  catalog : w'.catalog = w.catalog

namespace Untouched

variable {w w' w'' : World}

theorem refl (w : World) : Untouched w w := ⟨List.prefix_refl _, rfl, rfl⟩

theorem trans (h : Untouched w w') (h' : Untouched w' w'') : Untouched w w'' :=
  ⟨h.log.trans h'.log, h'.consumption.trans h.consumption, h'.catalog.trans h.catalog⟩

theorem of_eq (hlog : w'.log = w.log) (hconsumption : w'.consumption = w.consumption)
    (hcatalog : w'.catalog = w.catalog) : Untouched w w' :=
  ⟨by rw [hlog], hconsumption, hcatalog⟩

theorem note (w : World) (event : Event) : Untouched w (w.note event) :=
  ⟨List.prefix_append _ _, rfl, rfl⟩

theorem of_unpolled (h : Unpolled w w') : Untouched w w' := by
  obtain ⟨new, hlog, _⟩ := h.log
  exact ⟨⟨new, hlog.symm⟩, congrArg Fixed.consumption h.fixed, congrArg Fixed.catalog h.fixed⟩

theorem figuresKept (h : Untouched w w') : FiguresKept w w' := by
  refine ⟨h.log, fun thingCode period report hreport => ⟨report, ?_, .inl rfl⟩, ?_⟩
  · rwa [consumptionOf, h.consumption]
  · rw [h.catalog]
    exact id

end Untouched

namespace FiguresKept

variable {w w' w'' : World}

theorem refl (w : World) : FiguresKept w w := (Untouched.refl w).figuresKept

theorem trans (h : FiguresKept w w') (h' : FiguresKept w' w'') : FiguresKept w w'' := by
  refine ⟨h.log.trans h'.log, fun thingCode period report hreport => ?_,
    fun hcatalog => h'.catalog (h.catalog hcatalog)⟩
  obtain ⟨report', hreport', hold⟩ := h.figures thingCode period report hreport
  obtain ⟨report'', hreport'', hold'⟩ := h'.figures thingCode period report' hreport'
  refine ⟨report'', hreport'', ?_⟩
  rw [since_trans h.log h'.log, List.mem_append]
  rcases hold' with rfl | hnew
  · exact hold.imp_right .inl
  · exact .inr (.inr hnew)

end FiguresKept

theorem figuresKept_storeReport (thingCode : String) (period : Period)
    (report : Statistics.Report) (w : World) :
    FiguresKept w (storeReport thingCode period report w) := by
  have hlog : w.log <+: (storeReport thingCode period report w).log := List.prefix_append _ _
  refine ⟨hlog, fun code period' old hold => ?_, id⟩
  have hstored : consumptionOf (storeReport thingCode period report w) code period' =
      if (code, period') = (thingCode, period) then some report
      else consumptionOf w code period' := Dict.get?_setItem _ _ _ _
  by_cases hkey : (code, period') = (thingCode, period)
  · obtain ⟨rfl, rfl⟩ := Prod.mk.inj hkey
    refine ⟨report, by rw [hstored, if_pos rfl], .inr ?_⟩
    rw [since, storeReport, World.note_log, List.drop_left]
    exact List.mem_singleton_self _
  · exact ⟨old, by rw [hstored, if_neg hkey, hold], .inl rfl⟩

/-! ## Updates -/

section Updates

/-- A poll touches nothing that was fetched in any of its blocks. -/
theorem untouched_poll : PollRelation anyAnswer Untouched where
  trans := Untouched.trans
  answered w op answer w' hanswer := by
    rw [show w' = w from hanswer]
    exact .refl w
  noted := .note
  counted _ _ := .of_eq rfl rfl rfl
  absorbed states w := .of_unpolled (onlyProfiles_absorb states w).unpolled
  fetchDue w := .of_unpolled (unpolled_fetchConsumptionOnce w)
  published _ _ := .of_eq rfl rfl rfl

/-- An update erases what was fetched, and touches nothing of it from then on. -/
theorem obeys_asyncRefresh (w : World) :
    asyncRefresh.Obeys anyAnswer Untouched (beginUpdate w) w :=
  untouched_poll.obeys_asyncRefresh (.of_eq rfl rfl rfl)

theorem figuresKept_beginUpdate {w : World} (hnothing : NothingFetched w) :
    FiguresKept w (beginUpdate w) := by
  refine ⟨List.prefix_refl _, fun thingCode period report hreport => ?_, fun hcatalog => ?_⟩
  · rw [hnothing.1] at hreport
    cases hreport
  · rw [hnothing.2] at hcatalog
    cases hcatalog

/-- The first block of an update keeps what was fetched exactly if there was nothing. -/
theorem figuresKept_update_iff (w : World) :
    FiguresKept w (asyncRefresh.settle w).2 ↔ NothingFetched w := by
  have hsettled := (obeys_asyncRefresh w).settle.1
  constructor
  · intro hkept
    constructor
    · intro thingCode period
      cases hreport : consumptionOf w thingCode period with
      | none => rfl
      | some report =>
          obtain ⟨report', hreport', _⟩ := hkept.figures thingCode period report hreport
          rw [consumptionOf, hsettled.consumption] at hreport'
          cases hreport'
    · by_contra hcatalog
      have hafter := hkept.catalog (Bool.eq_false_iff.mpr hcatalog)
      rw [hsettled.catalog] at hafter
      cases hafter
  · exact fun hnothing => (figuresKept_beginUpdate hnothing).trans hsettled.figuresKept

end Updates

/-! ## Fetches -/

section Fetches

/-- The coroutine keeps what was fetched in each of its blocks. -/
abbrev Keeping {α : Type} (p : CoordM α) : Prop := Coro.Blocks steadyCatalog FiguresKept p

theorem eq_of_steadyCatalog {w w' : World} {op : ClientOp} {answer : ClientAnswer op}
    (h : steadyCatalog w op answer w') : w' = w := by
  cases op with
  | call scheme path payload =>
      cases answer with
      | ok reply => exact h.1
      | error exn => exact h
  | _ => exact h

theorem Untouched.keeping {α : Type} {p : CoordM α} {w₀ w₁ w : World}
    (hstart : FiguresKept w₀ w₁) (h : p.Obeys anyAnswer Untouched w₁ w) :
    p.Obeys steadyCatalog FiguresKept w₀ w := by
  refine h.weaken ?_ ?_ FiguresKept.refl ?_ hstart
  · exact fun _ _ _ _ => eq_of_steadyCatalog
  · exact Untouched.figuresKept
  · exact FiguresKept.trans

theorem figuresKept_fetch : FetchRelation steadyCatalog FiguresKept where
  trans := FiguresKept.trans
  answered w op answer w' hanswer := by
    rw [eq_of_steadyCatalog hanswer]
    exact .refl w
  stored := figuresKept_storeReport

/-- The fetch, whose catalogue does not lose its types. -/
theorem keeping_asyncFetchConsumption : Keeping asyncFetchConsumption := by
  refine figuresKept_fetch.asyncFetchConsumption_of_answered fun w reply w' hanswer => ?_
  obtain rfl := eq_of_steadyCatalog hanswer
  refine ⟨List.prefix_refl _, fun _ _ report hreport => ?_, hanswer.2 rfl⟩
  exact ⟨report, hreport, .inl rfl⟩

/-- An update that starts where nothing was fetched has nothing to erase. -/
theorem keeping_asyncRefresh {w : World} (hnothing : NothingFetched w) :
    Coro.Obeys steadyCatalog FiguresKept asyncRefresh w w := by
  exact Untouched.keeping (figuresKept_beginUpdate hnothing) (obeys_asyncRefresh w)

theorem keeping_modify {f : World → World} (hf : ∀ w, Untouched w (f w)) (w : World) :
    Coro.Obeys steadyCatalog FiguresKept (Coro.modify f : CoordM Unit) w w :=
  (hf w).figuresKept

theorem untouched_setMode (mode : Mode) (w : World) : Untouched w (setMode mode w) := by
  simp only [setMode]
  split
  · exact .refl w
  split
  · exact .of_eq rfl rfl rfl
  · exact .of_eq rfl rfl rfl

theorem keeping_of_launched {w : World} {p : CoordM Unit} (h : Launched NothingFetched w p) :
    p.Obeys steadyCatalog FiguresKept w w := by
  cases h with
  | update hnothing => exact keeping_asyncRefresh hnothing
  | fetch => exact keeping_asyncFetchConsumption w w (.refl w)
  | frame topic payload =>
      exact keeping_modify (fun w => .of_unpolled (unpolled_handlePush topic payload w)) w
  | refreshNow =>
      have hask : ∀ w, Untouched w (askRefresh w) := fun w => .of_eq rfl rfl rfl
      exact keeping_modify hask w
  | mode mode => exact keeping_modify (untouched_setMode mode) w
  | time now =>
      have htime : ∀ w : World, Untouched w { w with now := now } := fun w => .of_eq rfl rfl rfl
      exact keeping_modify htime w

end Fetches

/-! ## Runs -/

/-- In every run whose updates start where nothing was fetched, what is fetched stays. -/
theorem figuresKept_of_run {w : World} {pool pool' : Pool World ClientOp ClientAnswer Exn Unit}
    (hreached : Pool.Run steadyCatalog (Launched NothingFetched)
      { shared := w, threads := [] } pool)
    (hrun : Pool.Run steadyCatalog (Launched NothingFetched) pool pool') :
    FiguresKept pool.shared pool'.shared := by
  have hparked := (hreached.obeys .refl .trans (fun _ _ => keeping_of_launched)
    fun p hp => absurd hp List.not_mem_nil).1
  exact (hrun.obeys .refl .trans (fun _ _ => keeping_of_launched) hparked).2

/-! ## A washer's figures -/

/-- A catalogue of one type. -/
def treeReply : Members :=
  [("data", .obj [("categorys", .arr [.obj [("subCategorys", .arr
    [.obj [("deviceTypes", .arr [.str "0xDB"]), ("name", .str "washer")]])]])])]

def answerFigures : World → (op : ClientOp) → ClientAnswer op × World :=
  Client.scripted (fun path => if path = Client.epDeviceTypeTree then .ok treeReply
      else .ok [("data", .obj [])])
    (fun _ _ => .ok none) (fun _ w => w) 0

theorem steadyCatalog_answerFigures (w : World) (op : ClientOp) :
    steadyCatalog w op (answerFigures w op).1 (answerFigures w op).2 := by
  cases op with
  | call scheme path payload =>
      by_cases hpath : path = Client.epDeviceTypeTree
      · have hreply : (answerFigures w (.call scheme path payload)).1 = .ok treeReply :=
          if_pos hpath
        rw [hreply]
        exact ⟨rfl, fun _ _ => by decide +kernel⟩
      · have hreply : (answerFigures w (.call scheme path payload)).1 =
            .ok [("data", .obj [])] := if_neg hpath
        rw [hreply]
        exact ⟨rfl, fun h => absurd h hpath⟩
  | _ => rfl

/-- One washer in cooperative mode, with its state. -/
def oneWasher : World :=
  { World.fresh with
    devices := Dict.ofList [("W", {
      thingCode := "W"
      name := "washer"
      deviceType := "0xDB"
      model := ""
      online := true
      metadata := Dict.empty })]
    data := some (Dict.ofList [("W", { thingCode := "W", attributes := Dict.empty })]) }

/-- The fetch after `n` answers. -/
def fetchingWasher (n : ℕ) : Pool World ClientOp ClientAnswer Exn Unit :=
  (Pool.resume answerFigures 0)^[n]
    (Pool.launch asyncFetchConsumption { shared := oneWasher, threads := [] })

theorem run_fetchingWasher {env : Environment World ClientOp ClientAnswer}
    {mayUpdate : World → Prop}
    (henv : ∀ w op, env w op (answerFigures w op).1 (answerFigures w op).2) (n : ℕ) :
    Pool.Run env (Launched mayUpdate) { shared := oneWasher, threads := [] } (fetchingWasher n) :=
  (Pool.Run.launch .refl asyncFetchConsumption (.fetch _)).resumes henv 0 n

/-- The second report does not replace the first. -/
theorem figuresKept_fetchingWasher :
    FiguresKept (fetchingWasher 2).shared (fetchingWasher 3).shared := by
  apply figuresKept_of_run (run_fetchingWasher steadyCatalog_answerFigures 2)
  rw [fetchingWasher, fetchingWasher, Function.iterate_succ_apply']
  exact Pool.Run.resume .refl steadyCatalog_answerFigures 0

/-- The next tick erases both and the catalogue. -/
theorem not_figuresKept_fetchingWasher :
    Pool.Run anyAnswer (Launched fun _ => True) { shared := oneWasher, threads := [] }
        (fetchingWasher 3) ∧
      Pool.Run anyAnswer (Launched fun _ => True) (fetchingWasher 3)
        ((fetchingWasher 3).launch asyncRefresh) ∧
      (consumptionOf (fetchingWasher 3).shared "W" .month).isSome ∧
      consumptionOf ((fetchingWasher 3).launch asyncRefresh).shared "W" .month = none ∧
      ¬ FiguresKept (fetchingWasher 3).shared ((fetchingWasher 3).launch asyncRefresh).shared := by
  refine ⟨run_fetchingWasher (fun w op => ?_) 3, .launch .refl _ (.update trivial),
    by decide +kernel, by decide +kernel, ?_⟩
  · cases op <;> rfl
  · intro hkept
    have hcatalog := hkept.catalog (by decide +kernel)
    exact absurd hcatalog (by decide +kernel)

end Coordinator

end Holabrain
