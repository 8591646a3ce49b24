import Holabrain.Entity.Dishwasher
import Holabrain.Entity.Oven

/-!
# Composers

The oven and the dishwasher are started alike: the start button composes one instruction from
what is staged and what is reported, sends it, and lets go of the draft once the cloud has
taken it.  What a composer refuses to compose it does not send.
-/

namespace Holabrain

open Coordinator

/-- The appliance owns the programme: drop the draft and read the result back. -/
def handOver (thingCode : String) : CoordM Unit := do
  Coro.modify (clearDraft thingCode)
  Coro.modify fun w => w.schedule .requestRefresh

theorem handOver_eq (thingCode : String) :
    handOver thingCode = .read fun w => .write (clearDraft thingCode w)
      (.read fun w => .write (w.schedule .requestRefresh) (.done (.ok ()))) := rfl

/-- Compose, send and hand over. -/
def composedPress (entity : HolabrainEntity) (compose : World → Except Exn Members) :
    CoordM Unit := do
  let w ← Coro.gets id
  let instruction ← Coro.ofExcept (compose w)
  entity.asyncSend instruction
  handOver entity.thingCode

/-- The instruction of an oven's start, or why there is none. -/
def OvenConfig.compose (cfg : OvenConfig) (thingCode : String) (w : World) :
    Except Exn Members :=
  let oven := cfg.entity thingCode cfg.modeKey
  match cfg.program oven w with
  | none => .error (.serviceValidation "no_cook_mode")
  | some program => cfg.cookInstruction oven w program

/-- The instruction of a dishwasher's start, or why there is none. -/
def DishwasherConfig.compose (cfg : DishwasherConfig) (thingCode : String) (w : World) :
    Except Exn Members :=
  let dishwasher := cfg.entity thingCode cfg.modeKey
  match stagedOrReported dishwasher w cfg.modeKey with
  | none => .error (.serviceValidation "no_program")
  | some programCode =>
      if (dishwasher.value w doorKey).pyStr = doorOpen then
        .error (.serviceValidation "door_open")
      else
        .ok (cfg.buildStartInstruction programCode
          (orDefault (stagedOrReported dishwasher w cfg.extraKey) cfg.noExtraCode)
          (cfg.zoneCode dishwasher w))

/-- What a dishwasher's start is composed of. -/
theorem DishwasherConfig.compose_eq_ok_iff {cfg : DishwasherConfig} {thingCode : String}
    {w : World} {instruction : Members} :
    cfg.compose thingCode w = .ok instruction ↔ ∃ programCode,
      stagedOrReported (cfg.entity thingCode cfg.modeKey) w cfg.modeKey = some programCode ∧
      ((cfg.entity thingCode cfg.modeKey).value w doorKey).pyStr ≠ doorOpen ∧
      instruction = cfg.buildStartInstruction programCode
        (orDefault (stagedOrReported (cfg.entity thingCode cfg.modeKey) w cfg.extraKey)
          cfg.noExtraCode)
        (cfg.zoneCode (cfg.entity thingCode cfg.modeKey) w) := by
  rw [DishwasherConfig.compose]
  cases stagedOrReported (cfg.entity thingCode cfg.modeKey) w cfg.modeKey with
  | none => simp
  | some programCode =>
      dsimp only
      split
      next hopen => simp [hopen]
      next hclosed => simp [hclosed, eq_comm]

/-- What an oven's start is composed of. -/
theorem OvenConfig.compose_eq_ok {cfg : OvenConfig} {thingCode : String} {w : World}
    {instruction : Members} (h : cfg.compose thingCode w = .ok instruction) :
    ∃ program temperature minutes probe,
      cfg.program (cfg.entity thingCode cfg.modeKey) w = some program ∧
      stagedInt (cfg.entity thingCode cfg.modeKey) w cfg.tempKey = .ok temperature ∧
      cfg.minutes (cfg.entity thingCode cfg.modeKey) w = .ok minutes ∧
      stagedInt (cfg.entity thingCode cfg.modeKey) w cfg.probeKey = .ok probe ∧
      instruction = cfg.buildCookInstruction program
        (orDefault temperature program.defaultTemp) minutes probe
        (cfg.preheatOn (cfg.entity thingCode cfg.modeKey) w)
        (cfg.tempAllowed (cfg.entity thingCode cfg.modeKey) w)
        (cfg.preheatAllowed (cfg.entity thingCode cfg.modeKey) w) := by
  rw [OvenConfig.compose] at h
  cases hprogram : cfg.program (cfg.entity thingCode cfg.modeKey) w with
  | none =>
      rw [hprogram] at h
      cases h
  | some program =>
      simp only [hprogram, OvenConfig.cookInstruction, bind, Except.bind, pure, Except.pure] at h
      split at h
      · cases h
      next temperature htemperature =>
        split at h
        · cases h
        next minutes hminutes =>
          split at h
          · cases h
          next probe hprobe =>
            exact ⟨program, temperature, minutes, probe, rfl, htemperature, hminutes, hprobe,
              (Except.ok.inj h).symm⟩

theorem OvenConfig.asyncPress_eq (cfg : OvenConfig) (thingCode : String) :
    cfg.asyncPress thingCode =
      composedPress (cfg.entity thingCode cfg.modeKey) (cfg.compose thingCode) := by
  rw [OvenConfig.asyncPress, composedPress, Coro.gets_bind, Coro.gets_bind]
  congr 1
  funext w
  rw [OvenConfig.compose, id_eq]
  cases cfg.program (cfg.entity thingCode cfg.modeKey) w with
  | none => rfl
  | some program => rfl

theorem DishwasherConfig.asyncPress_eq (cfg : DishwasherConfig) (thingCode : String) :
    cfg.asyncPress thingCode =
      composedPress (cfg.entity thingCode cfg.modeKey) (cfg.compose thingCode) := by
  rw [DishwasherConfig.asyncPress, composedPress, Coro.gets_bind, Coro.gets_bind]
  congr 1
  funext w
  rw [DishwasherConfig.compose, id_eq]
  cases stagedOrReported (cfg.entity thingCode cfg.modeKey) w cfg.modeKey with
  | none => rfl
  | some programCode =>
      dsimp only
      split
      · rfl
      · rfl

/-! ## One send -/

/-- The request that carries an instruction to an appliance, in either dialect. -/
def IsInstruction (thingCode : String) (instruction : Members) : ClientOp → Prop
  | .call _ path payload =>
      (path = Client.epDeviceCommand thingCode ∨ path = Client.epDeviceCommandAlt thingCode) ∧
        payload = .obj [("instruction", .obj instruction)]
  | _ => False

/-- Some run of the press submits the instruction. -/
def SubmitsInstruction (press : CoordM Unit) (thingCode : String) (instruction : Members)
    (w : World) : Prop :=
  ∃ op, IsInstruction thingCode instruction op ∧ press.Requests op w

/-- What follows the answer to a command. -/
def afterSend (thingCode : String) (instruction : Members) (next : CoordM Unit) :
    Except Exn Members → CoordM Unit
  | .ok _ => .read fun w => .write (patchState thingCode instruction w) next
  | .error exn => throw exn

/-- A command on its way, in one dialect. -/
def sendVia (scheme : Scheme) (path thingCode : String) (instruction : Members)
    (next : CoordM Unit) : CoordM Unit :=
  .await (.call scheme path (.obj [("instruction", .obj instruction)]))
    (afterSend thingCode instruction next)

/-- A send awaits the answer to its command, and nothing else. -/
theorem asyncSend_bind (entity : HolabrainEntity) (instruction : Members)
    (next : Unit → CoordM Unit) :
    entity.asyncSend instruction >>= next = .read fun w =>
      if Client.isDirect w entity.thingCode = true then
        sendVia .tob (Client.epDeviceCommand entity.thingCode) entity.thingCode instruction
          (next ())
      else
        sendVia .oem (Client.epDeviceCommandAlt entity.thingCode) entity.thingCode instruction
          (next ()) := by
  rw [HolabrainEntity.asyncSend, asyncSendInstruction, Client.asyncSendInstruction,
    Coro.gets_bind]
  apply congrArg Coro.read
  funext w
  dsimp only [id_eq]
  split
  · apply congrArg (Coro.await _)
    funext answer
    cases answer with
    | error exn => rfl
    | ok members => rfl
  · apply congrArg (Coro.await _)
    funext answer
    cases answer with
    | error exn => rfl
    | ok members => rfl

section Send

variable {entity : HolabrainEntity} {instruction : Members} {w : World}

/-- The command is asked for. -/
theorem submits_asyncSend_bind (next : Unit → CoordM Unit) :
    SubmitsInstruction (entity.asyncSend instruction >>= next) entity.thingCode instruction w := by
  let payload : Json := .obj [("instruction", .obj instruction)]
  rw [asyncSend_bind]
  by_cases hdirect : Client.isDirect w entity.thingCode = true
  · refine ⟨.call .tob (Client.epDeviceCommand entity.thingCode) payload, ⟨.inl rfl, rfl⟩, ?_⟩
    simp only [Coro.Requests, if_pos hdirect]
    exact .inl rfl
  · refine ⟨.call .oem (Client.epDeviceCommandAlt entity.thingCode) payload,
      ⟨.inr rfl, rfl⟩, ?_⟩
    simp only [Coro.Requests, if_neg hdirect]
    exact .inl rfl

/-- Nothing else is asked for, unless it is later. -/
theorem isInstruction_of_requests {op : ClientOp} (next : Unit → CoordM Unit)
    (hnext : ∀ w, ¬ (next ()).Requests op w)
    (h : (entity.asyncSend instruction >>= next).Requests op w) :
    IsInstruction entity.thingCode instruction op := by
  have hafter : ∀ answer u,
      ¬ (afterSend entity.thingCode instruction (next ()) answer).Requests op u := by
    intro answer u hrequests
    cases answer with
    | error exn => exact hrequests
    | ok members => exact hnext _ hrequests
  rw [asyncSend_bind] at h
  simp only [Coro.Requests] at h
  split at h
  · obtain heq | ⟨answer, u, hrequests⟩ := h
    · rw [← heq]
      exact ⟨.inl rfl, rfl⟩
    · exact absurd hrequests (hafter answer u)
  · obtain heq | ⟨answer, u, hrequests⟩ := h
    · rw [← heq]
      exact ⟨.inr rfl, rfl⟩
    · exact absurd hrequests (hafter answer u)

theorem IsInstruction.eq {thingCode : String} {instruction' : Members} {op : ClientOp}
    (h : IsInstruction thingCode instruction op) (h' : IsInstruction thingCode instruction' op) :
    instruction = instruction' := by
  cases op with
  | call scheme path payload =>
      have heq := h.2.symm.trans h'.2
      simpa using heq
  | _ => exact h.elim

/-- A composed press submits what it composes. -/
theorem submits_composedPress_iff {compose : World → Except Exn Members} :
    SubmitsInstruction (composedPress entity compose) entity.thingCode instruction w ↔
      compose w = .ok instruction := by
  constructor
  · intro hsubmits
    obtain ⟨op, hop, hrequests⟩ := hsubmits
    rw [composedPress, Coro.requests_gets_bind, Coro.requests_ofExcept_bind] at hrequests
    obtain ⟨composed, hcomposed, hsend⟩ := hrequests
    have hsent := isInstruction_of_requests (fun _ => handOver entity.thingCode)
      (fun _ hrequests => hrequests) hsend
    rw [hop.eq hsent]
    exact hcomposed
  · intro hcomposed
    obtain ⟨op, hop, hsend⟩ : SubmitsInstruction (entity.asyncSend instruction >>= fun _ =>
        handOver entity.thingCode) entity.thingCode instruction w := submits_asyncSend_bind _
    refine ⟨op, hop, ?_⟩
    rw [composedPress, Coro.requests_gets_bind, Coro.requests_ofExcept_bind]
    exact ⟨instruction, hcomposed, hsend⟩

/-- A composed press that composes nothing is refused on the spot. -/
theorem settle_composedPress_error {compose : World → Except Exn Members} {exn : Exn}
    (h : compose w = .error exn) :
    (composedPress entity compose).settle w = (.done (.error exn), w) := by
  rw [composedPress, Coro.gets_bind, Coro.settle, id_eq, h, Coro.ofExcept_error_bind]
  rfl

end Send

end Holabrain
