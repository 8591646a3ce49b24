import Holabrain.Core.Ledger
import Holabrain.Coordinator.InventoryRecords

/-!
# Repair issues

An issue is open for every type of appliance that is not modelled.  The coordinator remembers
which it has raised; Home Assistant keeps them.  Its report is the report of a ledger, and a
setup is the first report of a coordinator that remembers nothing.
-/

namespace Holabrain

namespace Coordinator

/-- The open issues are one for each type that is not modelled. -/
def IssuesMatch (w : World) : Prop := w.issues.keys.Perm ((unsupportedTypes w).map issueId)

/-! ## The ledger of the issues -/

/-- The issues an inventory calls for. -/
def wantedIssues (devices : Dict String Device) : Set String :=
  {issue | ∃ device ∈ devices.values,
    getCategory device.deviceType = none ∧ device.deviceType ≠ "" ∧
      issue = issueId device.deviceType}

def issueLedger (w : World) : Ledger String where
  opened := {issue | issue ∈ w.issues}
  remembered := {issue | ∃ t ∈ w.unsupported, issue = issueId t}

theorem issueId_injective : Function.Injective issueId := by
  intro t t' heq
  have hlist : ("unsupported_category_" ++ t).toList = ("unsupported_category_" ++ t').toList :=
    congrArg String.toList heq
  rw [String.toList_append, String.toList_append] at hlist
  exact String.toList_inj.mp (List.append_cancel_left hlist)

theorem wantedIssues_empty : wantedIssues Dict.empty = ∅ := by
  refine Set.eq_empty_of_forall_notMem fun issue hwanted => ?_
  obtain ⟨device, hmem, -⟩ := hwanted
  exact List.not_mem_nil hmem

theorem mem_wantedIssues {w : World} {issue : String} :
    issue ∈ wantedIssues w.devices ↔ ∃ t ∈ unsupportedTypes w, issue = issueId t := by
  simp only [wantedIssues, unsupportedTypes, Set.mem_ofPred_eq, List.mem_dedup, List.mem_filter,
    List.mem_map, Bool.and_eq_true, Option.isNone_iff_eq_none, bne_iff_ne]
  constructor
  · rintro ⟨device, hmem, hmodel, hempty, rfl⟩
    exact ⟨_, ⟨⟨device, hmem, rfl⟩, hmodel, hempty⟩, rfl⟩
  · rintro ⟨_, ⟨⟨device, hmem, rfl⟩, hmodel, hempty⟩, rfl⟩
    exact ⟨device, hmem, hmodel, hempty, rfl⟩

theorem wantedIssues_eq_of_types {w w' : World} (h : unsupportedTypes w = unsupportedTypes w') :
    wantedIssues w.devices = wantedIssues w'.devices := by
  ext issue
  rw [mem_wantedIssues, mem_wantedIssues, h]

/-- The issues of the types that another list lacks: no two types share an issue. -/
theorem exists_issueId_filter {types others : List String} {issue : String} :
    (∃ t ∈ types.filter (· ∉ others), issue = issueId t) ↔
      (∃ t ∈ types, issue = issueId t) ∧ ¬ ∃ t ∈ others, issue = issueId t := by
  constructor
  · rintro ⟨t, hmem, rfl⟩
    rw [List.mem_filter, decide_eq_true_eq] at hmem
    refine ⟨⟨t, hmem.1, rfl⟩, ?_⟩
    rintro ⟨t', hmem', hissue⟩
    rw [issueId_injective hissue] at hmem
    exact hmem.2 hmem'
  · rintro ⟨⟨t, hmem, rfl⟩, hother⟩
    refine ⟨t, List.mem_filter.mpr ⟨hmem, decide_eq_true fun hmem' => hother ?_⟩, rfl⟩
    exact ⟨t, hmem', rfl⟩

/-- `_async_report_unsupported` is a report. -/
theorem issueLedger_reportUnsupported (w : World) :
    issueLedger (reportUnsupported w) = (issueLedger w).report (wantedIssues w.devices) := by
  have hremembered : (issueLedger (reportUnsupported w)).remembered = wantedIssues w.devices := by
    ext issue
    exact mem_wantedIssues.symm
  have hopened : (issueLedger (reportUnsupported w)).opened =
      ((issueLedger w).report (wantedIssues w.devices)).opened := by
    ext issue
    simp only [Ledger.report, Set.mem_sdiff, Set.mem_union, mem_wantedIssues]
    change issue ∈ (reportUnsupported w).issues ↔ _
    rw [reportUnsupported, Dict.mem_foldl_erase issueId, Dict.mem_foldl_setItem issueId]
    refine and_congr (or_congr Iff.rfl exists_issueId_filter) ?_
    rw [← not_iff_not]
    simp only [not_forall, not_not, exists_prop]
    exact exists_issueId_filter
  exact Ledger.ext hopened hremembered

/-- A coordinator that remembers no issue has forgotten those that are open. -/
theorem issueLedger_eq_forget {w w' : World} (hissues : w'.issues = w.issues)
    (hunsupported : w'.unsupported = []) : issueLedger w' = (issueLedger w).forget := by
  have hremembered : (issueLedger w').remembered = ∅ := by
    ext issue
    simp only [issueLedger, hunsupported, List.not_mem_nil, false_and, exists_false,
      Set.mem_ofPred_eq, Set.mem_empty_iff_false]
  have hopened : (issueLedger w').opened = (issueLedger w).opened := by
    rw [issueLedger, issueLedger, hissues]
  exact Ledger.ext hopened hremembered

theorem issuesMatch_iff (w : World) :
    IssuesMatch w ↔ (issueLedger w).opened = wantedIssues w.devices := by
  have hissues : w.issues.keys.Nodup := AList.keys_nodup _
  have htypes : ((unsupportedTypes w).map issueId).Nodup :=
    (List.nodup_dedup _).map issueId_injective
  rw [IssuesMatch, List.perm_ext_iff_of_nodup hissues htypes, Set.ext_iff]
  refine forall_congr' fun issue => ?_
  rw [mem_wantedIssues, List.mem_map]
  simp only [eq_comm (a := issue)]
  exact Iff.rfl

/-! ## What the operations do to it -/

/-- Nothing that the issues depend on has changed. -/
structure SameIssues (w w' : World) : Prop where
  devices : w'.devices = w.devices
  issues : w'.issues = w.issues
  unsupported : w'.unsupported = w.unsupported

/-- The request for the inventory is answered by `inventory`, any other by anything.  What runs
meanwhile leaves the issues alone. -/
def listedAs (inventory : Except Exn Members) : Environment World ClientOp ClientAnswer
  | w, .call _ path _, answer, w' =>
      SameIssues w w' ∧ (path = Auth.epHomeIndex → answer = inventory)
  | w, _, _, w' => SameIssues w w'

/-- What the setup and the scan make of the inventory. -/
def inventoryOf (inventory : Except Exn Members) : Except Exn (Dict String Device) :=
  (inventory.bind readReply).map Client.byThingCode

/-- The inventory could not be read, or it was taken over and reported. -/
inductive TakesOver (inventory : Except Exn Members) (w w' : World) : Prop
  | unread {exn : Exn} (hread : inventoryOf inventory = .error exn) (hsame : SameIssues w w')
  | reported {devices : Dict String Device} (hread : inventoryOf inventory = .ok devices)
      (hdevices : w'.devices = devices)
      (hledger : issueLedger w' = (issueLedger w).report (wantedIssues devices))

section SameIssues

variable {w w' w'' : World}

theorem SameIssues.refl (w : World) : SameIssues w w := ⟨rfl, rfl, rfl⟩

theorem SameIssues.trans (h : SameIssues w w') (h' : SameIssues w' w'') : SameIssues w w'' :=
  ⟨h'.devices.trans h.devices, h'.issues.trans h.issues, h'.unsupported.trans h.unsupported⟩

theorem SameIssues.issueLedger (h : SameIssues w w') : issueLedger w' = issueLedger w := by
  rw [Coordinator.issueLedger, Coordinator.issueLedger, h.issues, h.unsupported]

theorem sameIssues_forgetDevices (thingCodes : List String) (w : World) :
    SameIssues w (forgetDevices thingCodes w) := by
  obtain ⟨registry, drafts, hforget⟩ := forgetDevices_eq thingCodes w
  rw [hforget]
  exact ⟨rfl, rfl, rfl⟩

theorem sameIssues_subscribeAll (thingCodes : List String) (w : World) :
    SameIssues w (subscribeAll thingCodes w) := by
  obtain ⟨mqtt, hsubscribed⟩ := subscribeAll_eq thingCodes w
  rw [hsubscribed]
  exact ⟨rfl, rfl, rfl⟩

end SameIssues

section TakesOver

variable {inventory : Except Exn Members} {devices : Dict String Device} {w w' w'' : World}

theorem takesOver_reportUnsupported (hread : inventoryOf inventory = .ok devices)
    (hdevices : w'.devices = devices) (hledger : issueLedger w' = issueLedger w) :
    TakesOver inventory w (reportUnsupported w') := by
  refine .reported hread hdevices ?_
  rw [issueLedger_reportUnsupported, hledger, hdevices]

theorem TakesOver.trans (h : TakesOver inventory w w') (h' : SameIssues w' w'') :
    TakesOver inventory w w'' := by
  cases h with
  | unread hread hsame => exact .unread hread (hsame.trans h')
  | reported hread hdevices hledger =>
      exact .reported hread (h'.devices.trans hdevices) (h'.issueLedger.trans hledger)

end TakesOver

section ListedAs

variable {inventory : Except Exn Members} {w : World}

theorem sameIssues_of_listedAs {w' : World} {op : ClientOp} {answer : ClientAnswer op}
    (h : listedAs inventory w op answer w') : SameIssues w w' := by
  cases op with
  | call scheme path payload => exact h.1
  | _ => exact h

theorem keeps_sameIssues (inventory : Except Exn Members) :
    Keeps (listedAs inventory) SameIssues fun _ => True where
  refl := .refl
  trans := .trans
  await := fun _ hanswer => sameIssues_of_listedAs hanswer
  raises := fun _ _ _ _ => trivial
  dollin := fun _ => trivial
  profiles := by
    intro w w' honly
    obtain ⟨_, _, _, rfl⟩ := honly
    exact ⟨rfl, rfl, rfl⟩

theorem wp_asyncList_listedAs (w : World) :
    Coro.wp (listedAs inventory) Client.asyncList
      (fun result w' => SameIssues w w' ∧ result = inventory.bind readReply) w := by
  apply wp_asyncList_of_answered
  · exact fun _ _ hanswer => ⟨hanswer.1, hanswer.2 rfl⟩
  · exact fun _ _ hsame => ⟨hsame.devices, hsame.issues, hsame.unsupported⟩

theorem inventoryOf_error {exn : Exn} (h : inventory.bind readReply = .error exn) :
    inventoryOf inventory = .error exn := by
  rw [inventoryOf, h]
  rfl

theorem inventoryOf_ok {listed : List Device} (h : inventory.bind readReply = .ok listed) :
    inventoryOf inventory = .ok (Client.byThingCode listed) := by
  rw [inventoryOf, h]
  rfl

theorem wp_asyncSetup_issues (w : World) :
    Coro.wp (listedAs inventory) asyncSetup (fun _ w' => TakesOver inventory w w') w := by
  have hkeeps := keeps_sameIssues inventory
  have hcert : ∀ w₀, CertificateKept (listedAs inventory) SameIssues (fun _ => True) w₀ :=
    fun _ _ _ _ _ hanswer => ⟨sameIssues_of_listedAs hanswer, fun _ _ => trivial⟩
  simp only [asyncSetup, Coro.wp_bind, Coro.wp_attempt]
  apply Coro.wp_mono _ (wp_asyncList_listedAs w)
  intro result w₁ hlist
  obtain ⟨hsame, rfl⟩ := hlist
  cases hlisted : inventory.bind readReply with
  | error exn => cases exn <;> exact .unread (inventoryOf_error hlisted) hsame
  | ok listed =>
      have hread := inventoryOf_ok hlisted
      have hpruned : SameIssues (w₁.setDevices (Client.byThingCode listed))
          (pruneRegistry (w₁.setDevices (Client.byThingCode listed))) :=
        sameIssues_forgetDevices _ _
      have hreported : TakesOver inventory w (reportUnsupported
          (pruneRegistry (w₁.setDevices (Client.byThingCode listed)))) :=
        takesOver_reportUnsupported hread hpruned.devices
          (hpruned.issueLedger.trans hsame.issueLedger)
      simp only [Coro.wp_bind, Coro.wp_modify]
      apply Coro.wp_mono _ (hkeeps.wp_asyncLoadCapabilities (.refl _))
      intro result w₂ hw₂
      cases result with
      | error exn => exact hreported.trans hw₂.1
      | ok loaded =>
          apply Coro.wp_mono _
            (hkeeps.wp_asyncStartPush (hcert w₂) (fun _ _ => ⟨rfl, rfl, rfl⟩) (.refl w₂))
          intro result w₃ hw₃
          have hstarted := hreported.trans (hw₂.1.trans hw₃.1)
          cases result with
          | error exn => exact hstarted
          | ok started => exact hstarted.trans ⟨rfl, rfl, rfl⟩

end ListedAs

end Coordinator

end Holabrain
