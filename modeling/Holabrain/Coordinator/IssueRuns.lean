import Holabrain.Coordinator.ProfileLoading
import Holabrain.Coordinator.RepairIssues
import Holabrain.Coordinator.UpdateBlocks

/-!
# Repair issues in step with the inventory

A scan takes over the new inventory at once and reports it only when the new profiles are
loaded; until then it owes a report.  Another scan may come in between, or a fetch of the
catalogue, which forgets what was raised and reports itself.  The issues stay in step as long as
no inventory comes in unreported and nothing that is forgotten is to be deleted: a scan that
finds the same appliances does not report, and neither a new coordinator nor a fetched catalogue
leaves anything remembered.
-/

namespace Holabrain

namespace Coordinator

/-! ## Runs -/

def SameCodes (devices devices' : Dict String Device) : Prop :=
  ∀ code, code ∈ devices ↔ code ∈ devices'

def listedDevices (inventory : Except Exn Members) : Dict String Device :=
  (inventoryOf inventory).toOption.getD Dict.empty

/-- What is asked of a run: of the inventory that a setup finds, and of every answer to a scan or
to a fetch, in the world that it comes in. -/
structure IssueCondition where
  setup : World → Except Exn Members → Prop
  answer : World → (op : ClientOp) → ClientAnswer op → Prop

def IssueCondition.unrestricted : IssueCondition := ⟨fun _ _ => True, fun _ _ _ => True⟩

/-- Requests are answered by anything that is asked for; what runs beside scans and fetches
leaves the issues alone. -/
def attends (condition : IssueCondition) : Environment World ClientOp ClientAnswer :=
  fun w op answer w' => SameIssues w w' ∧ condition.answer w' op answer

/-- A new coordinator of the entry knows of no appliance and no issue. -/
structure Restarts (w w' : World) : Prop where
  devices : w'.devices = Dict.empty
  issues : w'.issues = w.issues
  unsupported : w'.unsupported = []

def IsScan (_ : World) (p : CoordM (ℕ × ℕ)) : Prop := p = asyncScanDevices

def IsFetch (_ : World) (p : CoordM Unit) : Prop := p = asyncFetchConsumption

/-- The worlds reached by setups, and by scans and fetches that run interleaved between them. A
reload is a setup at any moment; what still runs of the coordinator before it has devices of its
own, and may go on beside as long as it leaves the issues alone. -/
inductive IssueRun (condition : IssueCondition) :
    List (CoordM (ℕ × ℕ)) → List (CoordM Unit) → World → Prop
  | start {w : World} (hdevices : w.devices = Dict.empty) (hissues : w.issues = Dict.empty)
      (hunsupported : w.unsupported = []) : IssueRun condition [] [] w
  | setup {scans fetches w w₁ w' inventory result} (hrun : IssueRun condition scans fetches w)
      (hadmitted : condition.setup w inventory) (hrestart : Restarts w w₁)
      (hexec : Coro.Exec (listedAs inventory) asyncSetup w₁ result w') :
      IssueRun condition [] [] w'
  | scanning {scans fetches w pool} (hrun : IssueRun condition scans fetches w)
      (hstep : Pool.Step (attends condition) IsScan { shared := w, threads := scans } pool) :
      IssueRun condition pool.threads fetches pool.shared
  | fetching {scans fetches w pool} (hrun : IssueRun condition scans fetches w)
      (hstep : Pool.Step (attends condition) IsFetch { shared := w, threads := fetches } pool) :
      IssueRun condition scans pool.threads pool.shared
  | aside {scans fetches w w'} (hrun : IssueRun condition scans fetches w)
      (hsame : SameIssues w w') : IssueRun condition scans fetches w'

/-- An inventory that a scan reads calls for the issues that the known one calls for, or it has
other appliances, so that it is reported; when a catalogue comes in, every open issue is called
for; and nothing but an error of the client comes of the profiles while a report is owed. -/
def LeavesNothing (w : World) : (op : ClientOp) → ClientAnswer op → Prop
  | .call _ path _, answer =>
      (path = Auth.epHomeIndex → ∀ latest, inventoryOf answer = .ok latest →
        wantedIssues latest = wantedIssues w.devices ∨ ¬ SameCodes latest w.devices) ∧
      (path = Client.epDeviceTypeTree → answer.toOption.isSome →
        (issueLedger w).opened ⊆ wantedIssues w.devices)
  | .resolve .., answer => ∀ exn, answer = .error exn → IsDollin exn ∨ IssuesMatch w
  | .loadCache, answer => ∀ exn, answer = .error exn → IssuesMatch w
  | .saveCache _, answer => ∀ exn, answer = .error exn → IssuesMatch w
  | _, _ => True

/-- A setup finds every issue called for that is open. -/
def leavesNothing : IssueCondition where
  setup w inventory := (issueLedger w).opened ⊆ wantedIssues (listedDevices inventory)
  answer := LeavesNothing

theorem SameIssues.matches {w w' : World} (h : SameIssues w w') :
    IssuesMatch w' ↔ IssuesMatch w := by
  rw [issuesMatch_iff, issuesMatch_iff, h.issueLedger, h.devices]

/-! ## What is owed -/

/-- All open issues are remembered, but they are not those the inventory calls for. -/
def ReportDue (w : World) (_ : Unit) : Prop := (issueLedger w).Synced ∧ ¬ IssuesMatch w

/-- No issue is forgotten. -/
def KeepsSynced (w w' : World) : Prop := (issueLedger w).Synced → (issueLedger w').Synced

section ReportDue

variable {w w' w₀ : World} {owed owed' : Set Unit}

theorem KeepsSynced.refl (w : World) : KeepsSynced w w := id

theorem KeepsSynced.trans {w w' w'' : World} (h : KeepsSynced w w') (h' : KeepsSynced w' w'') :
    KeepsSynced w w'' := h' ∘ h

theorem SameIssues.keepsSynced (h : SameIssues w w') : KeepsSynced w w' := by
  intro hsynced
  rw [h.issueLedger]
  exact hsynced

theorem SameIssues.still (h : SameIssues w w') : Still ReportDue w w' := by
  intro _ hdue
  rwa [ReportDue, h.issueLedger, h.matches] at hdue

theorem SameIssues.settles (h : SameIssues w w') : KeepsSynced w w' ∧ Still ReportDue w w' :=
  ⟨h.keepsSynced, h.still⟩

/-- After a report none is due. -/
theorem not_due_reportUnsupported (w : World) (d : Unit) : ¬ ReportDue (reportUnsupported w) d := by
  rintro ⟨hsynced, hmismatch⟩
  rw [issuesMatch_iff] at hmismatch
  rw [issueLedger_reportUnsupported] at hsynced hmismatch
  exact hmismatch (Ledger.inStep_of_synced_report hsynced).opened

theorem keepsSynced_reportUnsupported (w : World) : KeepsSynced w (reportUnsupported w) := by
  intro hsynced
  rw [issueLedger_reportUnsupported]
  exact (hsynced.report _).synced

theorem finishScan_eq_report (added removed : List String) (w : World) :
    ∃ w', SameIssues w w' ∧ finishScan added removed w = reportUnsupported w' :=
  ⟨_, (sameIssues_forgetDevices removed w).trans (sameIssues_subscribeAll added _),
    finishScan_eq added removed w⟩

theorem keepsSynced_finishScan (added removed : List String) (w : World) :
    KeepsSynced w (finishScan added removed w) := by
  obtain ⟨w', hsame, heq⟩ := finishScan_eq_report added removed w
  rw [heq]
  exact hsame.keepsSynced.trans (keepsSynced_reportUnsupported w')

/-- The end of a scan pays what the scan owes. -/
theorem balanced_report_finishScan (added removed : List String) (w₀ w : World) :
    Balanced ReportDue owed owed' w₀ (finishScan added removed w) := by
  obtain ⟨w', _, heq⟩ := finishScan_eq_report added removed w
  rw [heq]
  exact fun d hdue => absurd hdue (not_due_reportUnsupported w' d)

end ReportDue

/-! ## Scans -/

/-- While the profiles are loaded the issues are left alone, and what ends the loading does so
only while no report is due. -/
theorem loading_sameIssues :
    Loading (attends leavesNothing) SameIssues fun w _ => IssuesMatch w where
  trans := SameIssues.trans
  answered _ _ _ _ _ hanswer := hanswer
  stored _ _ _ := ⟨rfl, rfl, rfl⟩
  loaded _ _ _ hanswer := hanswer
  saved _ _ _ _ hanswer := hanswer
  replaced _ _ := ⟨rfl, rfl, rfl⟩

theorem sameCodes_of_missingFrom {devices devices' : Dict String Device}
    (hadded : missingFrom devices devices' = []) (hremoved : missingFrom devices' devices = []) :
    SameCodes devices devices' := by
  have hmem : ∀ {d d' : Dict String Device}, missingFrom d d' = [] → ∀ code ∈ d, code ∈ d' := by
    intro d d' hnone code hcode
    rw [missingFrom, List.filter_eq_nil_iff] at hnone
    simpa using hnone code hcode
  exact fun code => ⟨hmem hadded code, hmem hremoved code⟩

/-- What the scan does once the inventory is in. -/
def takeOver (latest : Dict String Device) : CoordM (ℕ × ℕ) := do
  let devices ← Coro.gets World.devices
  let added := missingFrom latest devices
  let removed := missingFrom devices latest
  Coro.modify fun w => w.setDevices latest
  if added = [] ∧ removed = [] then return (0, 0)
  else do
    if added ≠ [] then asyncLoadCapabilities
    Coro.modify (finishScan added removed)
    return (added.length, removed.length)

/-- No report is due in the end, whatever the new inventory has made so. -/
theorem owes_takeOver {latest : Dict String Device} {w₀ w : World} (hsame : SameIssues w₀ w)
    (hlatest : wantedIssues latest = wantedIssues w.devices ∨ ¬ SameCodes latest w.devices) :
    (takeOver latest).owes (attends leavesNothing) KeepsSynced ReportDue
      (Coro.Settled KeepsSynced ReportDue) ∅ w₀ w := by
  have hledger : issueLedger (w.setDevices latest) = issueLedger w := rfl
  have hkeeps : KeepsSynced w₀ (w.setDevices latest) := hsame.keepsSynced
  simp only [takeOver, Coro.owes_bind, Coro.owes_gets, Coro.owes_modify, Coro.owes_ite,
    Coro.owes_pure]
  split
  next hnone =>
    have hwanted : wantedIssues latest = wantedIssues w.devices :=
      hlatest.resolve_right (not_not.mpr (sameCodes_of_missingFrom hnone.1 hnone.2))
    have hmatches : IssuesMatch (w.setDevices latest) ↔ IssuesMatch w := by
      rw [issuesMatch_iff, issuesMatch_iff, hledger]
      exact Eq.congr rfl hwanted
    refine ⟨hkeeps, ((Balanced.refl ∅ w₀).still hsame.still).still fun _ hdue => ?_⟩
    exact ⟨hdue.1, fun hmatch => hdue.2 (hmatches.mpr hmatch)⟩
  next =>
    split
    · -- The scan owes its report while the profiles are loaded.
      have howed : Balanced ReportDue ∅ Set.univ w₀ (w.setDevices latest) :=
        fun d _ => .inl (Set.mem_univ d)
      apply Coro.Quietly.carries KeepsSynced.refl KeepsSynced.trans SameIssues.settles hkeeps
        howed _ (loading_sameIssues.asyncLoadCapabilities _ _ (.refl _))
      intro result owed t₀ t hkept _ hraises
      cases result with
      | error exn => exact ⟨hkept, fun d hdue => absurd (hraises exn rfl) hdue.2⟩
      | ok loaded =>
          exact ⟨hkept.trans (keepsSynced_finishScan _ _ t), balanced_report_finishScan _ _ _ t⟩
    · exact ⟨hkeeps.trans (keepsSynced_finishScan _ _ _), balanced_report_finishScan _ _ _ _⟩

theorem owes_call {scheme : Scheme} {path : String} {payload : Json} {w₀ w : World}
    {owed : Set Unit} {post : Except Exn Members → Set Unit → World → World → Prop} :
    (Client.call scheme path payload).owes (attends leavesNothing) KeepsSynced ReportDue post owed
        w₀ w ↔
      ∃ owed', KeepsSynced w₀ w ∧ Balanced ReportDue owed owed' w₀ w ∧ ∀ u, KeepsSynced w u →
        ∀ answer t, attends leavesNothing u (.call scheme path payload) answer t →
          post answer owed' u t := Iff.rfl

/-- The inventory is read in the block that its answer comes in. -/
theorem owes_asyncList {w : World}
    {post : Except Exn (List Device) → Set Unit → World → World → Prop}
    (hpost : ∀ u answer t protocols,
      attends leavesNothing u (.call .oem Auth.epHomeIndex .null) answer t →
      post (answer.bind readReply) ∅ u { t with protocols := protocols }) :
    Client.asyncList.owes (attends leavesNothing) KeepsSynced ReportDue post ∅ w w := by
  rw [Client.asyncList, Coro.owes_bind, owes_call]
  refine ⟨∅, .refl w, .refl ∅ w, fun u _ answer t hanswer => ?_⟩
  have hread := hpost u answer t
  cases answer with
  | error exn => exact hread t.protocols hanswer
  | ok reply =>
      dsimp only [Except.bind] at hread ⊢
      split
      next items hdata =>
        rw [Coro.owes_bind]
        simp only [readReply, hdata] at hread
        cases hinventory : Client.readInventory items with
        | error exn =>
            rw [hinventory] at hread
            exact hread t.protocols hanswer
        | ok devices =>
            rw [hinventory] at hread
            exact hread _ hanswer
      next hdata =>
        rw [readReply_of_no_list hdata] at hread
        exact hread t.protocols hanswer

/-- A scan settles in the end whatever its inventory has made due. -/
theorem meets_asyncScanDevices (w : World) :
    asyncScanDevices.Meets (attends leavesNothing) KeepsSynced ReportDue w := by
  rw [Coro.Meets, asyncScanDevices, Coro.owes_bind]
  apply owes_asyncList
  intro u answer t protocols hanswer
  obtain ⟨hsame, hlists, -⟩ := hanswer
  have hread : SameIssues u { t with protocols := protocols } :=
    ⟨hsame.devices, hsame.issues, hsame.unsupported⟩
  cases hlisted : answer.bind readReply with
  | error exn => exact ⟨hread.keepsSynced, (Balanced.refl ∅ u).still hread.still⟩
  | ok listed => exact owes_takeOver hread (hlists rfl _ (inventoryOf_ok hlisted))

/-! ## Fetches -/

/-- A block that makes no report due and forgets no issue. -/
def Harmless (w w' : World) : Prop := KeepsSynced w w' ∧ Still ReportDue w w'

theorem Harmless.trans {w w' w'' : World} (h : Harmless w w') (h' : Harmless w' w'') :
    Harmless w w'' := ⟨h.1.trans h'.1, fun d hdue => h.2 d (h'.2 d hdue)⟩

theorem fetchRelation_harmless : FetchRelation (attends leavesNothing) Harmless where
  trans := Harmless.trans
  answered _ _ _ _ hanswer := hanswer.1.settles
  stored _ _ _ _ := SameIssues.settles ⟨rfl, rfl, rfl⟩

/-- A catalogue that comes in forgets what was raised, and is reported at once. -/
theorem obeys_asyncFetchConsumption (w : World) :
    asyncFetchConsumption.Obeys (attends leavesNothing) Harmless w w := by
  refine fetchRelation_harmless.asyncFetchConsumption_of_answered ?_ w w (SameIssues.refl w).settles
  intro w reply w' hanswer
  obtain ⟨hsame, -, hwanted⟩ := hanswer
  refine ⟨fun hsynced => ?_, fun d hdue => absurd hdue (not_due_reportUnsupported _ d)⟩
  have hforgotten : issueLedger
      { w' with catalog := DeviceCatalog.fromTree (reply.get "data"), unsupported := [] } =
        (issueLedger w').forget := issueLedger_eq_forget rfl rfl
  rw [issueLedger_reportUnsupported, hforgotten]
  exact (Ledger.inStep_forget_report_iff.mpr (hwanted rfl rfl)).synced

/-! ## All of a run -/

section Runs

variable {scans : List (CoordM (ℕ × ℕ))} {fetches : List (CoordM Unit)} {w w' : World}

/-- No issue is forgotten, a report that is due is owed by a scan, and no fetch makes one due. -/
structure ReportsOwed (scans : List (CoordM (ℕ × ℕ))) (fetches : List (CoordM Unit)) (w : World) :
    Prop where
  synced : (issueLedger w).Synced
  covered : ∃ debts, Pool.Covered (attends leavesNothing) KeepsSynced ReportDue debts
    { shared := w, threads := scans }
  harmless : ∀ p ∈ fetches, p.ObeysParked (attends leavesNothing) Harmless w

namespace ReportsOwed

theorem issuesMatch (h : ReportsOwed scans fetches w)
    (hended : ∀ p ∈ scans, p.hasEnded = true) : IssuesMatch w := by
  obtain ⟨debts, hcovered⟩ := h.covered
  by_contra hmismatch
  exact hcovered.settled hended () ⟨h.synced, hmismatch⟩

/-- Where the issues match and nothing runs, nothing is owed. -/
theorem of_inStep (h : (issueLedger w).InStep (wantedIssues w.devices)) : ReportsOwed [] [] w where
  synced := h.synced
  covered := ⟨_, Pool.covered_of_nil rfl fun _ hdue => hdue.2 ((issuesMatch_iff w).mpr h.opened)⟩
  harmless _ hmem := absurd hmem List.not_mem_nil

theorem beside (h : ReportsOwed scans fetches w) (hharmless : Harmless w w') :
    ReportsOwed scans fetches w' where
  synced := hharmless.1 h.synced
  covered :=
    have ⟨debts, hcovered⟩ := h.covered
    ⟨debts, hcovered.beside hharmless.1 hharmless.2 KeepsSynced.trans⟩
  harmless p hmem := (h.harmless p hmem).mono w'

theorem scanning {pool : Pool World ClientOp ClientAnswer Exn (ℕ × ℕ)}
    (h : ReportsOwed scans fetches w)
    (hstep : Pool.Step (attends leavesNothing) IsScan { shared := w, threads := scans } pool) :
    ReportsOwed pool.threads fetches pool.shared := by
  obtain ⟨debts, hcovered⟩ := h.covered
  have hscans : ∀ p, IsScan w p → p.Meets (attends leavesNothing) KeepsSynced ReportDue w := by
    rintro p rfl
    exact meets_asyncScanDevices w
  obtain ⟨hkept, hcovered'⟩ := hcovered.step hstep hscans KeepsSynced.refl KeepsSynced.trans
  exact ⟨hkept h.synced, hcovered', fun p hmem => (h.harmless p hmem).mono _⟩

theorem fetching {pool : Pool World ClientOp ClientAnswer Exn Unit}
    (h : ReportsOwed scans fetches w)
    (hstep : Pool.Step (attends leavesNothing) IsFetch { shared := w, threads := fetches } pool) :
    ReportsOwed scans pool.threads pool.shared := by
  have hfetches : ∀ w p, IsFetch w p → p.Obeys (attends leavesNothing) Harmless w w := by
    rintro w p rfl
    exact obeys_asyncFetchConsumption w
  have hrefl : ∀ w, Harmless w w := fun w => (SameIssues.refl w).settles
  have hrun : Pool.Run (attends leavesNothing) IsFetch { shared := w, threads := fetches } pool :=
    .single hstep
  obtain ⟨hparked, hharmless⟩ := hrun.obeys hrefl Harmless.trans hfetches h.harmless
  have hbeside := h.beside hharmless
  exact ⟨hbeside.synced, hbeside.covered, hparked⟩

/-- A setup is the first report of its coordinator, which remembers nothing. -/
theorem setup {w₁ : World} {inventory : Except Exn Members} {result : Except Exn Unit}
    (hadmitted : (issueLedger w).opened ⊆ wantedIssues (listedDevices inventory))
    (hrestart : Restarts w w₁) (hexec : Coro.Exec (listedAs inventory) asyncSetup w₁ result w') :
    ReportsOwed [] [] w' := by
  have hforgotten := issueLedger_eq_forget hrestart.issues hrestart.unsupported
  apply of_inStep
  cases hexec.post (wp_asyncSetup_issues _) with
  | unread hread hsame =>
      rw [listedDevices, hread] at hadmitted
      have hnone := Set.subset_eq_empty hadmitted wantedIssues_empty
      rw [hsame.issueLedger, hforgotten, hsame.devices, hrestart.devices, wantedIssues_empty]
      exact ⟨hnone, rfl⟩
  | reported hread hdevices hledger =>
      rw [listedDevices, hread] at hadmitted
      rw [hledger, hforgotten, hdevices, Ledger.inStep_forget_report_iff]
      exact hadmitted

end ReportsOwed

theorem reportsOwed_of_run (hrun : IssueRun leavesNothing scans fetches w) :
    ReportsOwed scans fetches w := by
  induction hrun with
  | start hdevices hissues hunsupported =>
      apply ReportsOwed.of_inStep
      rw [issueLedger, hissues, hunsupported, hdevices, wantedIssues_empty]
      constructor
      · exact Set.eq_empty_of_forall_notMem fun issue => AList.notMem_empty issue
      · refine Set.eq_empty_of_forall_notMem fun issue hremembered => ?_
        obtain ⟨_, hmem, -⟩ := hremembered
        exact List.not_mem_nil hmem
  | setup _ hadmitted hrestart hexec _ => exact .setup hadmitted hrestart hexec
  | scanning _ hstep ih => exact ih.scanning hstep
  | fetching _ hstep ih => exact ih.fetching hstep
  | aside _ hsame ih => exact ih.beside hsame.settles

/-- In every such run the open issues match the inventory whenever no scan is under way. -/
theorem issuesMatch_of_run (hrun : IssueRun leavesNothing scans fetches w)
    (hended : ∀ p ∈ scans, p.hasEnded = true) : IssuesMatch w :=
  (reportsOwed_of_run hrun).issuesMatch hended

end Runs

/-! ## Two scans -/

section Examples

variable {condition : IssueCondition} {scans : List (CoordM (ℕ × ℕ))}
  {fetches : List (CoordM Unit)} {w : World}

theorem IssueRun.runScans {pool : Pool World ClientOp ClientAnswer Exn (ℕ × ℕ)}
    (hrun : IssueRun condition scans fetches w)
    (hpool : Pool.Run (attends condition) IsScan { shared := w, threads := scans } pool) :
    IssueRun condition pool.threads fetches pool.shared := by
  induction hpool with
  | refl => exact hrun
  | tail _ hstep ih => exact ih.scanning hstep

theorem IssueRun.runFetches {pool : Pool World ClientOp ClientAnswer Exn Unit}
    (hrun : IssueRun condition scans fetches w)
    (hpool : Pool.Run (attends condition) IsFetch { shared := w, threads := fetches } pool) :
    IssueRun condition scans pool.threads pool.shared := by
  induction hpool with
  | refl => exact hrun
  | tail _ hstep ih => exact ih.fetching hstep

def unmodelledRecord (thingCode deviceType : String) : Json :=
  .obj [("thingCode", .str thingCode), ("deviceType", .str deviceType)]

/-- A setup that finds a refrigerator. -/
def refrigerator : Members := inventoryReply [unmodelledRecord "1" "0xCA"]

def afterSetup : World := (asyncSetup.play (answerListing refrigerator) 0 World.fresh).2

theorem listedAs_answerListing (reply : Members) (n : ℕ) (w : World) (op : ClientOp) :
    listedAs (.ok reply) w op (answerListing reply n w op).1 (answerListing reply n w op).2 := by
  cases op with
  | call scheme path payload => exact ⟨.refl w, fun _ => rfl⟩
  | _ => exact .refl w

theorem issueRun_afterSetup (hsetup : condition.setup World.fresh (.ok refrigerator)) :
    IssueRun condition [] [] afterSetup :=
  .setup (.start rfl rfl rfl) hsetup ⟨rfl, rfl, rfl⟩
    (Coro.exec_play _ (listedAs_answerListing refrigerator) asyncSetup 0 World.fresh)

/-- A second appliance is paired. -/
def pairedLater : Members :=
  inventoryReply [unmodelledRecord "1" "0xCA", unmodelledRecord "2" "0xCB"]

/-- A scan has found it and reads the profiles. -/
def pairing : Pool World ClientOp ClientAnswer Exn (ℕ × ℕ) :=
  Pool.resume (answerListing pairedLater 0) 0
    (Pool.launch asyncScanDevices { shared := afterSetup, threads := [] })

/-- Meanwhile the catalogue comes in. -/
def catalogued : Pool World ClientOp ClientAnswer Exn Unit :=
  Pool.resume (answerListing pairedLater 0) 0
    (Pool.launch asyncFetchConsumption { shared := pairing.shared, threads := [] })

/-- Then the scan ends. -/
def paired : Pool World ClientOp ClientAnswer Exn (ℕ × ℕ) :=
  (Pool.resume (answerListing pairedLater 0) 0)^[5]
    { shared := catalogued.shared, threads := pairing.threads }

/-- All open issues are called for, and "2" is unknown or both types are known. -/
def Pairs (w : World) : Prop :=
  (∀ issue ∈ w.issues.keys, issue ∈ (unsupportedTypes w).map issueId) ∧
    ("2" ∉ w.devices ∨ unsupportedTypes w = ["0xCA", "0xCB"])

instance : DecidablePred Pairs := fun _ => inferInstanceAs (Decidable (_ ∧ _))

theorem attends_pairs (h : Pairs w) (op : ClientOp) :
    attends leavesNothing w op (answerListing pairedLater 0 w op).1
      (answerListing pairedLater 0 w op).2 := by
  cases op with
  | call scheme path payload =>
      refine ⟨.refl w, fun _ latest hread => ?_, fun _ _ issue hopen => ?_⟩
      · have hlatest : listedDevices (.ok pairedLater) = latest := by
          rw [listedDevices, show inventoryOf (.ok pairedLater) = .ok latest from hread]
          rfl
        rw [← hlatest]
        refine h.2.symm.imp (fun htypes => ?_) fun hunknown hsame => ?_
        · let known := World.fresh.setDevices (listedDevices (.ok pairedLater))
          have hlisted : unsupportedTypes known = unsupportedTypes w := by
            rw [htypes]
            decide +kernel
          exact wantedIssues_eq_of_types (w := known) hlisted
        · exact hunknown ((hsame "2").mp (by decide +kernel))
      · obtain ⟨t, hmem, heq⟩ := List.mem_map.mp (h.1 issue (AList.mem_keys.mp hopen))
        exact mem_wantedIssues.mpr ⟨t, hmem, heq.symm⟩
  | _ =>
      refine ⟨.refl w, ?_⟩
      first
        | exact trivial
        | rintro _ ⟨⟩

theorem issueRun_paired :
    IssueRun leavesNothing paired.threads catalogued.threads paired.shared := by
  have hsetup : IssueRun leavesNothing [] [] afterSetup := by
    apply issueRun_afterSetup
    exact fun issue hopen => absurd hopen (AList.notMem_empty issue)
  have hpairing : Pool.Run (attends leavesNothing) IsScan
      { shared := afterSetup, threads := [] } pairing :=
    (Pool.Run.launch .refl _ rfl).resume_of (attends_pairs (by decide +kernel)) 0
  have hcatalogued : Pool.Run (attends leavesNothing) IsFetch
      { shared := pairing.shared, threads := [] } catalogued :=
    (Pool.Run.launch .refl _ rfl).resume_of (attends_pairs (by decide +kernel)) 0
  have hpaired : Pool.Run (attends leavesNothing) IsScan
      { shared := catalogued.shared, threads := pairing.threads } paired :=
    Pool.Run.resumes_of .refl (fun _ => attends_pairs) 0 5 (by decide +kernel)
  exact ((hsetup.runScans hpairing).runFetches hcatalogued).runScans hpaired

theorem issuesMatch_pairedLater : IssuesMatch paired.shared ∧
    pairing.shared.issues.keys = ["unsupported_category_0xCA"] ∧
    paired.shared.issues.keys =
      ["unsupported_category_0xCA", "unsupported_category_0xCB"] := by
  refine ⟨issuesMatch_of_run issueRun_paired ?_, by decide +kernel, by decide +kernel⟩
  decide +kernel

/-- The refrigerator comes back under another type. -/
def retyped : Members := inventoryReply [unmodelledRecord "1" "0xCB"]

/-- A scan that finds it so. -/
def afterRetyped : Pool World ClientOp ClientAnswer Exn (ℕ × ℕ) :=
  Pool.resume (answerListing retyped 0) 0
    (Pool.launch asyncScanDevices { shared := afterSetup, threads := [] })

/-- The scan leaves the issue for a type that is gone and raises none for the one that came. -/
theorem not_issuesMatch_retyped :
    IssueRun .unrestricted afterRetyped.threads [] afterRetyped.shared ∧
      (∀ p ∈ afterRetyped.threads, p.hasEnded = true) ∧
      afterRetyped.shared.issues.keys = ["unsupported_category_0xCA"] ∧
      unsupportedTypes afterRetyped.shared = ["0xCB"] ∧ ¬ IssuesMatch afterRetyped.shared := by
  have hanswer : ∀ w op, attends .unrestricted w op (answerListing retyped 0 w op).1
      (answerListing retyped 0 w op).2 := by
    intro w op
    cases op <;> exact ⟨.refl w, trivial⟩
  have hscan : Pool.Run (attends .unrestricted) IsScan
      { shared := afterSetup, threads := [] } afterRetyped :=
    (Pool.Run.launch .refl _ rfl).resume hanswer 0
  have hrun : IssueRun .unrestricted afterRetyped.threads [] afterRetyped.shared :=
    (issueRun_afterSetup trivial).runScans hscan
  have hkeys : afterRetyped.shared.issues.keys = ["unsupported_category_0xCA"] := by
    decide +kernel
  have htypes : unsupportedTypes afterRetyped.shared = ["0xCB"] := by decide +kernel
  refine ⟨hrun, by decide +kernel, hkeys, htypes, ?_⟩
  rw [IssuesMatch, hkeys, htypes]
  decide +kernel

end Examples

end Coordinator

end Holabrain
