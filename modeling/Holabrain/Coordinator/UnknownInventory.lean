import Holabrain.Coordinator.Inventory

/-!
# An unknown inventory

Setup and scan take their appliances from the reply to one request.  Where it carries a list
they drop nothing the list names; where it carries anything else they read it as an account
without appliances.
-/

namespace Holabrain

namespace Coordinator

/-- The appliances a list under `data` names. -/
def listedCodes (items : List Json) : List String :=
  (items.filterMap Json.asObj).map Device.thingCodeOf

structure SameAppliances (w w' : World) : Prop where
  devices : w'.devices = w.devices
  registry : w'.registry = w.registry
  drafts : w'.drafts = w.drafts

/-- No listed appliance is dropped, neither from the inventory nor from the registry. -/
structure KeepsListed (listed : List String) (w w' : World) : Prop where
  devices : ∀ thingCode ∈ listed, thingCode ∈ w.devices → thingCode ∈ w'.devices
  registry : ∀ device ∈ w.registry, device.identifier ∈ listed → device ∈ w'.registry

/-- What an operation may do after `reply`: drop what its list lacks, and nothing without a
list. -/
def RespectsReply {α : Type} (reply : Members) (result : Except Exn α) (w w' : World) : Prop :=
  match reply.get "data" with
  | .arr items => KeepsListed (listedCodes items) w w'
  | _ => (∃ exn, result = .error exn) ∧ SameAppliances w w'

/-- The request for the inventory is answered by `reply`, any other by anything; what runs
meanwhile leaves the appliances alone. -/
def listing (reply : Members) : Environment World ClientOp ClientAnswer
  | w, .call _ path _, answer, w' =>
      SameAppliances w w' ∧ (path = Auth.epHomeIndex → answer = .ok reply)
  | w, _, _, w' => SameAppliances w w'

/-! ## Relations between worlds -/

theorem SameAppliances.refl (w : World) : SameAppliances w w := ⟨rfl, rfl, rfl⟩

theorem sameAppliances_of_listing {reply : Members} {w w' : World} {op : ClientOp}
    {answer : ClientAnswer op} (h : listing reply w op answer w') : SameAppliances w w' := by
  cases op with
  | call scheme path payload => exact h.1
  | _ => exact h

section KeepsListed

variable {listed : List String} {w w' w'' : World}

theorem KeepsListed.refl (listed : List String) (w : World) : KeepsListed listed w w :=
  ⟨fun _ _ hmem => hmem, fun _ hmem _ => hmem⟩

theorem KeepsListed.trans (h : KeepsListed listed w w') (h' : KeepsListed listed w' w'') :
    KeepsListed listed w w'' :=
  ⟨fun code hlisted hmem => h'.devices code hlisted (h.devices code hlisted hmem),
    fun device hmem hlisted => h'.registry device (h.registry device hmem hlisted) hlisted⟩

theorem KeepsListed.of_eq (hdevices : w'.devices = w.devices)
    (hregistry : w'.registry = w.registry) : KeepsListed listed w w' := by
  constructor
  · intro code _ hmem
    rwa [hdevices]
  · intro device hmem _
    rwa [hregistry]

theorem SameAppliances.keepsListed (h : SameAppliances w w') : KeepsListed listed w w' :=
  .of_eq h.devices h.registry

theorem keeps_keepsListed (reply : Members) (listed : List String) :
    Keeps (listing reply) (KeepsListed listed) fun _ => True where
  refl := .refl listed
  trans := .trans
  await := fun _ hanswer => (sameAppliances_of_listing hanswer).keepsListed
  raises := fun _ _ _ _ => trivial
  dollin := fun _ => trivial
  profiles := by
    intro w w' honly
    obtain ⟨_, _, _, rfl⟩ := honly
    exact .of_eq rfl rfl

theorem keepsListed_reportUnsupported (w : World) : KeepsListed listed w (reportUnsupported w) :=
  .of_eq rfl rfl

theorem keepsListed_setDevices (devices : Dict String Device)
    (hlisted : ∀ code ∈ listed, code ∈ devices) : KeepsListed listed w (w.setDevices devices) :=
  ⟨fun code hcode _ => hlisted code hcode, fun _ hmem _ => hmem⟩

theorem keepsListed_subscribeAll (thingCodes : List String) (w : World) :
    KeepsListed listed w (subscribeAll thingCodes w) := by
  obtain ⟨mqtt, hsubscribed⟩ := subscribeAll_eq thingCodes w
  rw [hsubscribed]
  exact .of_eq rfl rfl

theorem keepsListed_forgetDevices {thingCodes : List String}
    (hunlisted : ∀ code ∈ thingCodes, code ∉ listed) :
    KeepsListed listed w (forgetDevices thingCodes w) := by
  constructor
  · intro code _ hmem
    obtain ⟨registry, drafts, hforget⟩ := forgetDevices_eq thingCodes w
    rwa [hforget]
  · intro device hmem hlisted
    exact mem_forgetDevices_registry hmem fun hforgotten => hunlisted _ hforgotten hlisted

theorem keepsListed_finishScan (added : List String) {removed : List String}
    (hunlisted : ∀ code ∈ removed, code ∉ listed) :
    KeepsListed listed w (finishScan added removed w) := by
  rw [finishScan_eq]
  exact (keepsListed_forgetDevices hunlisted).trans
    ((keepsListed_subscribeAll added _).trans (keepsListed_reportUnsupported _))

end KeepsListed

/-! ## Reading the list -/

theorem map_thingCode_of_readInventory {items : List Json} {devices : List Device}
    (h : Client.readInventory items = .ok devices) :
    devices.map Device.thingCode = listedCodes items := by
  rw [Client.readInventory] at h
  rw [listedCodes]
  generalize items.filterMap Json.asObj = records at h ⊢
  induction records generalizing devices with
  | nil =>
      cases h
      rfl
  | cons record rest ih =>
      rw [List.mapM_cons] at h
      cases hrecord : Device.fromDict record with
      | error exn =>
          rw [hrecord] at h
          cases h
      | ok device =>
          rw [hrecord] at h
          cases hrest : rest.mapM Device.fromDict with
          | error exn =>
              rw [hrest] at h
              cases h
          | ok others =>
              rw [hrest] at h
              cases h
              rw [List.map_cons, List.map_cons, ih hrest,
                Device.thingCode_of_fromDict hrecord]

theorem mem_byThingCode {devices : List Device} {thingCode : String} :
    thingCode ∈ Client.byThingCode devices ↔ thingCode ∈ devices.map Device.thingCode := by
  rw [Client.byThingCode, Dict.mem_ofList, List.map_map]
  rfl

/-- What `async_list` makes of the reply. -/
def readReply (reply : Members) : Except Exn (List Device) :=
  match reply.get "data" with
  | .arr items => Client.readInventory items
  | _ => .ok []

theorem readReply_of_no_list {reply : Members} (hdata : ∀ items, reply.get "data" ≠ .arr items) :
    readReply reply = .ok [] := by
  rw [readReply]
  split
  next items hlist => exact absurd hlist (hdata items)
  next => rfl

/-- Where one inventory answers the request, its reading is the result. -/
theorem wp_asyncList_of_answered {env : Environment World ClientOp ClientAnswer}
    {rel : World → World → Prop} {inventory : Except Exn Members} {w : World}
    (hcall : ∀ answer w', env w (.call .oem Auth.epHomeIndex .null) answer w' →
      rel w w' ∧ answer = inventory)
    (hprotocols : ∀ w' protocols, rel w w' → rel w { w' with protocols := protocols }) :
    Coro.wp env Client.asyncList
      (fun result w' => rel w w' ∧ result = inventory.bind readReply) w := by
  simp only [Client.asyncList, Coro.wp_bind, Client.wp_call]
  intro answer w' hanswer
  obtain ⟨hrel, rfl⟩ := hcall answer w' hanswer
  cases answer with
  | error exn => exact ⟨hrel, rfl⟩
  | ok reply =>
      dsimp only [Except.bind]
      split
      next items hdata =>
        simp only [Coro.wp_bind, Coro.wp_ofExcept, readReply, hdata]
        cases hread : Client.readInventory items with
        | error exn => exact ⟨hrel, rfl⟩
        | ok devices => exact ⟨hprotocols _ _ hrel, rfl⟩
      next hdata => exact ⟨hrel, (readReply_of_no_list hdata).symm⟩

theorem wp_asyncList (reply : Members) (w : World) :
    Coro.wp (listing reply) Client.asyncList
      (fun result w' => SameAppliances w w' ∧ result = readReply reply) w := by
  have hanswered : Coro.wp (listing reply) Client.asyncList (fun result w' =>
      SameAppliances w w' ∧ result = (Except.ok reply).bind readReply) w := by
    apply wp_asyncList_of_answered
    · exact fun _ _ hanswer => ⟨hanswer.1, hanswer.2 rfl⟩
    · exact fun _ _ hsame => ⟨hsame.devices, hsame.registry, hsame.drafts⟩
  exact hanswered

/-- A list that can be read yields exactly the appliances it names. -/
theorem mem_byThingCode_of_readReply {reply : Members} {items : List Json}
    {devices : List Device} (hdata : reply.get "data" = .arr items)
    (hread : readReply reply = .ok devices) {thingCode : String} :
    thingCode ∈ Client.byThingCode devices ↔ thingCode ∈ listedCodes items := by
  rw [readReply, hdata] at hread
  rw [mem_byThingCode, map_thingCode_of_readInventory hread]

/-! ## With a list -/

section WithList

variable {reply : Members} {items : List Json}

theorem wp_asyncScanDevices_list (hdata : reply.get "data" = .arr items) (w : World) :
    Coro.wp (listing reply) asyncScanDevices
      (fun _ w' => KeepsListed (listedCodes items) w w') w := by
  have hkeeps := keeps_keepsListed reply (listedCodes items)
  simp only [asyncScanDevices, Coro.wp_bind, Coro.wp_gets, Coro.wp_modify, Coro.wp_ite,
    Coro.wp_pure]
  apply Coro.wp_mono _ (wp_asyncList reply w)
  intro result w₁ hlist
  obtain ⟨hsame, rfl⟩ := hlist
  cases hread : readReply reply with
  | error exn => exact hsame.keepsListed
  | ok devices =>
      have hlisted : ∀ code, code ∈ Client.byThingCode devices ↔ code ∈ listedCodes items :=
        fun code => mem_byThingCode_of_readReply hdata hread
      have hw₁ : KeepsListed (listedCodes items) w
          (w₁.setDevices (Client.byThingCode devices)) :=
        hsame.keepsListed.trans (keepsListed_setDevices _ fun code => (hlisted code).mpr)
      have hremoved : ∀ code ∈ missingFrom w₁.devices (Client.byThingCode devices),
          code ∉ listedCodes items := by
        intro code hcode
        rw [missingFrom, List.mem_filter, decide_eq_true_eq, hlisted] at hcode
        exact hcode.2
      have hfinish : ∀ added w₂, KeepsListed (listedCodes items) w w₂ →
          KeepsListed (listedCodes items) w (finishScan added
            (missingFrom w₁.devices (Client.byThingCode devices)) w₂) :=
        fun added w₂ hw₂ => hw₂.trans (keepsListed_finishScan added hremoved)
      dsimp only
      split
      · exact hw₁
      split
      · apply Coro.wp_mono _ (hkeeps.wp_asyncLoadCapabilities hw₁)
        intro result w₂ hw₂
        cases result with
        | error exn => exact hw₂.1
        | ok loaded => exact hfinish _ w₂ hw₂.1
      · exact hfinish _ _ hw₁

theorem keepsListed_pruneRegistry {listed : List String} {w : World}
    (hlisted : ∀ code ∈ listed, code ∈ w.devices) : KeepsListed listed w (pruneRegistry w) := by
  refine keepsListed_forgetDevices fun code hstale hcode => ?_
  rw [staleDevices, List.mem_filter, decide_eq_true_eq] at hstale
  exact hstale.2 (hlisted code hcode)

theorem wp_asyncSetup_list (hdata : reply.get "data" = .arr items) (w : World) :
    Coro.wp (listing reply) asyncSetup
      (fun _ w' => KeepsListed (listedCodes items) w w') w := by
  have hkeeps := keeps_keepsListed reply (listedCodes items)
  have hcert :
      CertificateKept (listing reply) (KeepsListed (listedCodes items)) (fun _ => True) w :=
    fun _ _ _ _ hanswer => ⟨(sameAppliances_of_listing hanswer).keepsListed, fun _ _ => trivial⟩
  simp only [asyncSetup, Coro.wp_bind, Coro.wp_attempt]
  apply Coro.wp_mono _ (wp_asyncList reply w)
  intro result w₁ hlist
  obtain ⟨hsame, rfl⟩ := hlist
  cases hread : readReply reply with
  | error exn => cases exn <;> exact hsame.keepsListed
  | ok devices =>
      have hlisted : ∀ code ∈ listedCodes items, code ∈ Client.byThingCode devices :=
        fun code => (mem_byThingCode_of_readReply hdata hread).mpr
      have hw₁ : KeepsListed (listedCodes items) w (reportUnsupported (pruneRegistry
          (w₁.setDevices (Client.byThingCode devices)))) :=
        hsame.keepsListed.trans ((keepsListed_setDevices _ hlisted).trans
          ((keepsListed_pruneRegistry hlisted).trans (keepsListed_reportUnsupported _)))
      simp only [Coro.wp_bind, Coro.wp_modify]
      apply Coro.wp_mono _ (hkeeps.wp_asyncLoadCapabilities hw₁)
      intro result w₂ hw₂
      cases result with
      | error exn => exact hw₂.1
      | ok loaded =>
          apply Coro.wp_mono _ (hkeeps.wp_asyncStartPush hcert (fun _ _ => .of_eq rfl rfl) hw₂.1)
          intro result w₃ hw₃
          cases result with
          | error exn => exact hw₃.1
          | ok started => exact hw₃.1.trans (.of_eq rfl rfl)

end WithList

/-! ## Without a list -/

/-- A scan that finds no list forgets every appliance and returns. -/
theorem wp_asyncScanDevices_unknown {reply : Members}
    (hdata : ∀ items, reply.get "data" ≠ .arr items) (w : World) :
    Coro.wp (listing reply) asyncScanDevices
      (fun result _ => ∃ count, result = .ok count) w := by
  simp only [asyncScanDevices, Coro.wp_bind, Coro.wp_gets, Coro.wp_modify, Coro.wp_ite,
    Coro.wp_pure]
  apply Coro.wp_mono _ (wp_asyncList reply w)
  intro result w₁ hlist
  obtain ⟨hsame, rfl⟩ := hlist
  rw [readReply_of_no_list hdata]
  have hadded : missingFrom (Client.byThingCode []) w₁.devices = [] := rfl
  simp only [hadded]
  split
  · exact ⟨_, rfl⟩
  · exact ⟨_, rfl⟩

/-- Answers that follow a reply. -/
def answerListing (reply : Members) : ℕ → World → (op : ClientOp) → ClientAnswer op × World :=
  Client.scripted (fun _ => .ok reply) (fun _ _ => .ok none) fun _ w => w

theorem listing_answerListing (reply : Members) (n : ℕ) (w : World) (op : ClientOp) :
    listing reply w op (answerListing reply n w op).1 (answerListing reply n w op).2 := by
  cases op with
  | call scheme path payload => exact ⟨.refl w, fun _ => rfl⟩
  | _ => exact .refl w

/-- Setup and scan respect the reply on all their runs exactly if it carries a list. -/
theorem respectsReply_iff (reply : Members) (w : World) :
    ((∀ result w', Coro.Exec (listing reply) asyncScanDevices w result w' →
        RespectsReply reply result w w') ∧
      (∀ result w', Coro.Exec (listing reply) asyncSetup w result w' →
        RespectsReply reply result w w')) ↔
      ∃ items, reply.get "data" = .arr items := by
  constructor
  · intro hrespected
    obtain ⟨hscan, _⟩ := hrespected
    by_contra hdata
    rw [not_exists] at hdata
    have hexec := Coro.exec_play (answerListing reply) (listing_answerListing reply)
      asyncScanDevices 0 w
    obtain ⟨count, hok⟩ := hexec.post (wp_asyncScanDevices_unknown hdata w)
    have hrespects := hscan _ _ hexec
    rw [RespectsReply] at hrespects
    split at hrespects
    next items hlist => exact hdata items hlist
    next =>
      obtain ⟨⟨exn, herror⟩, _⟩ := hrespects
      rw [hok] at herror
      cases herror
  · intro hlist
    obtain ⟨items, hdata⟩ := hlist
    constructor
    · intro result w' hexec
      rw [RespectsReply, hdata]
      exact hexec.post (wp_asyncScanDevices_list hdata w)
    · intro result w' hexec
      rw [RespectsReply, hdata]
      exact hexec.post (wp_asyncSetup_list hdata w)

/-! ## A reply without data -/

/-- What the cloud may answer with success: no appliances, but no list of them either. -/
def emptyReply : Members := [("code", .int 0), ("data", .null)]

/-- One appliance, in the inventory and in the registry. -/
def oneLamp : World :=
  { World.fresh with
    devices := Dict.ofList [("L", {
      thingCode := "L"
      name := "lamp"
      deviceType := "0x13"
      model := ""
      online := true
      metadata := Dict.empty })]
    registry := [{ identifier := "L", entries := ["entry"] }] }

/-- The transport accepts the reply, and the scan deletes the appliance over it. -/
theorem not_respectsReply_emptyReply :
    Transport.send "" (.response 200 (some (.obj emptyReply))) = .ok emptyReply ∧
      ∃ result w', Coro.Exec (listing emptyReply) asyncScanDevices oneLamp result w' ∧
        w'.devices.isEmpty = true ∧ w'.registry = [] ∧
        ¬ RespectsReply emptyReply result oneLamp w' := by
  refine ⟨by decide +kernel, _, _, Coro.exec_play (answerListing emptyReply)
    (listing_answerListing emptyReply) _ 0 oneLamp, by decide +kernel, by decide +kernel, ?_⟩
  intro hrespects
  obtain ⟨_, hsame⟩ := hrespects
  exact absurd hsame.registry (by decide +kernel)

end Coordinator

end Holabrain
