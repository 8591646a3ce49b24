import Holabrain.Core.Trace
import Holabrain.Core.Utf8
import Holabrain.Cloud.Announcement
import Holabrain.Coordinator.Inventory

/-!
# Claiming an appliance

A step of the options flow: the appliance found on the network is looked up at the cloud, bound to
the account, and the inventory is read again.  The flow awaits the account's token, the two calls
and the scan; hashing and encryption are parameters.
-/

namespace Holabrain

namespace Claiming

def epVerification : String := "/midea/open/sdk/v2/appliance/verification"

def epBind : String := "/midea/open/business/v1/bind"

def codeSerialUnknown : ℤ := 1201

def codeNotClaimable : ℤ := 1210

def codeDeviceOffline : ℤ := 1204

def confBssid : String := "bssid"

def confWifiPassword : String := "wifi_password"

/-! ## The verification code -/

/-- The primitives of `pairing.py`: `encrypt_serial`, MD5, and the random bytes it starts with. -/
structure Pairing where
  encryptSerial : String → String → String
  md5 : List UInt8 → List UInt8
  nonce : List UInt8

def isHexDigit (c : Char) : Bool := c ∈ "0123456789abcdefABCDEF".toList

def hexValue (c : Char) : ℕ :=
  if c.isDigit then c.toNat - 48 else c.toLower.toNat - 87

/-- `bytes.fromhex` of hexadecimal digits; `none` for an odd number of them. -/
def fromHex : List Char → Option (List UInt8)
  | [] => some []
  | high :: low :: rest =>
      (fromHex rest).map fun bytes => UInt8.ofNat (16 * hexValue high + hexValue low) :: bytes
  | [_] => none

/-- `bytes.hex`. -/
def toHex (bytes : List UInt8) : String :=
  String.ofList (bytes.flatMap fun byte =>
    [Nat.digitChar (byte.toNat / 16), Nat.digitChar (byte.toNat % 16)])

/-- `derive_verification_code`. -/
def deriveVerificationCode (pairing : Pairing) (bssid wifiPassword : String) :
    Except Exn String :=
  match fromHex (bssid.toList.filter isHexDigit) with
  | none => .error (.builtin "ValueError")
  | some raw =>
      let digest := pairing.md5 (raw ++ utf8Bytes wifiPassword.toList)
      .ok (toHex ((pairing.nonce ++ digest).take 16))

/-! ## The calls -/

/-- What the flow awaits. -/
inductive ClaimOp
  | getToken
  /-- `AuthManager.tob`. -/
  | tob (path : String) (payload : Json)
  | scan

abbrev ClaimAnswer : ClaimOp → Type
  | .getToken => Except Exn (Option String)
  | .tob .. => Except Exn Members
  | .scan => Except Exn (ℕ × ℕ)

/-- The two errors the lookup adds, and everything else. -/
inductive ClaimExn
  | serialUnknown
  | notClaimable
  | raised (exn : Exn)
  deriving DecidableEq

/-- The coordinator, and the data of the config entry. -/
structure FlowState where
  world : World
  entryData : Dict String Json

abbrev ClaimM := Coro FlowState ClaimOp ClaimAnswer ClaimExn

def answered {α : Type} (answer : Except Exn α) : ClaimM α :=
  Coro.ofExcept (answer.mapError .raised)

def getToken : ClaimM (Option String) := do
  let answer ← (Coro.perform ClaimOp.getToken : ClaimM (Except Exn (Option String)))
  answered answer

def tob (path : String) (payload : Json) : ClaimM Members := do
  let answer ← (Coro.perform (ClaimOp.tob path payload) : ClaimM (Except Exn Members))
  answered answer

def scanDevices : ClaimM (ℕ × ℕ) := do
  let answer ← (Coro.perform ClaimOp.scan : ClaimM (Except Exn (ℕ × ℕ)))
  answered answer

/-- An appliance the cloud is willing to hand over. -/
structure Claimable where
  applianceCode : String
  verificationCode : String
  deriving DecidableEq

def Claimable.fromDict (data : Members) : Claimable where
  applianceCode := (data.getD "applianceCode" (.str "")).pyStr
  verificationCode := (data.getD "verificationCode" (.str "")).pyStr

/-- The code of an `ApiError`; `none` for any other exception. -/
def apiCode : ClaimExn → Option Json
  | .raised (.dollin (.apiError _ code)) => some (code.getD .null)
  | .raised (.dollin (.rateLimitError _ code)) => some (code.getD .null)
  | _ => none

/-- `except ApiError as err` of the lookup. -/
def lookupError (exn : ClaimExn) : ClaimExn :=
  match apiCode exn with
  | some code =>
      if code.eqInt codeSerialUnknown then .serialUnknown
      else if code.eqInt codeNotClaimable then .notClaimable
      else exn
  | none => exn

/-- The appliances an answer offers; the body under `data` has to be a dictionary or nothing. -/
def offeredIn (data : Members) : Except Exn (List Claimable) :=
  let body := (data.get "data").or (.obj [])
  match body.asObj with
  | none => .error (.builtin "AttributeError")
  | some body => match (body.get "applianceList").asArr with
    | none => .ok []
    | some items => .ok ((items.filterMap Json.asObj).map Claimable.fromDict)

/-- `encrypt_serial(serial, token)`; a missing token has no bytes. -/
def encryptFor (pairing : Pairing) (serial : String) : Option String → Except Exn String
  | some token => .ok (pairing.encryptSerial serial token)
  | none => .error (.builtin "AttributeError")

/-- `BindingApi.async_find`. -/
def asyncFind (pairing : Pairing) (serial verificationCode : String) :
    ClaimM (List Claimable) := do
  let token ← getToken
  let sn ← answered (encryptFor pairing serial token)
  let data ← tryCatch
    (tob epVerification (.obj [("sn", .str sn), ("randomCode", .str verificationCode)]))
    fun exn => throw (lookupError exn)
  answered (offeredIn data)

/-- `BindingApi.async_bind`. -/
def asyncBind (applianceCode verificationCode applianceType timeZoneId : String) :
    ClaimM Unit := do
  let _ ← tob epBind (.obj [("timeZoneID", .str timeZoneId),
    ("applianceType", .str applianceType), ("applianceCode", .str applianceCode),
    ("verificationCode", .str verificationCode)])

/-! ## The flow -/

/-- What the step ends with: an error key for the form, or an aborted flow. -/
inductive ClaimOutcome
  | errorKey (key : String)
  | abort (reason : String) (added : ℕ)
  deriving DecidableEq

/-- The BSSID the user typed, without the blanks around it. -/
def bssidOf (userInput : Dict String String) : String :=
  pyStrip ((userInput.get? confBssid).getD "")

def passwordOf (userInput : Dict String String) : String :=
  (userInput.get? confWifiPassword).getD ""

/-- The code sent along: derived from the network if one is given. -/
def codeOf (pairing : Pairing) (userInput : Dict String String) : Except Exn String :=
  if bssidOf userInput ≠ "" then
    deriveVerificationCode pairing (bssidOf userInput) (passwordOf userInput)
  else .ok (String.ofList (List.replicate 32 '0'))

def notClaimableKey (userInput : Dict String String) : String :=
  if bssidOf userInput ≠ "" then "not_claimable" else "not_claimable_try_wifi"

/-- The error key of a lookup that raised. -/
def lookupKey (userInput : Dict String String) : ClaimExn → String
  | .serialUnknown => "serial_unknown"
  | .notClaimable => notClaimableKey userInput
  | .raised _ => "cannot_connect"

/-- The error key of a bind that raised. -/
def bindKey (exn : ClaimExn) : String :=
  match apiCode exn with
  | some code => if code.eqInt codeDeviceOffline then "appliance_offline" else "bind_failed"
  | none => "bind_failed"

/-- The network is remembered for the next appliance. -/
def rememberNetwork (userInput : Dict String String) (flow : FlowState) : FlowState :=
  if bssidOf userInput ≠ "" then
    { flow with
      entryData := (flow.entryData.setItem confBssid (.str (bssidOf userInput))).setItem
        confWifiPassword (.str (passwordOf userInput)) }
  else flow

/-- The second half of `_async_claim`: the bind, and what follows it. -/
def bindOffered (timeZone : String) (appliance : Discovery.DiscoveredAppliance)
    (userInput : Dict String String) (offered : Claimable) : ClaimM ClaimOutcome := do
  let bound ← Coro.attempt (asyncBind offered.applianceCode offered.verificationCode
    appliance.deviceType timeZone)
  match bound with
  | .error exn => return .errorKey (bindKey exn)
  | .ok () => do
      Coro.modify (rememberNetwork userInput)
      let counts ← scanDevices
      return .abort "appliance_added" counts.1

/-- `_async_claim`. -/
def asyncClaim (pairing : Pairing) (timeZone : String)
    (appliance : Discovery.DiscoveredAppliance) (userInput : Dict String String) :
    ClaimM ClaimOutcome := do
  let code ← answered (codeOf pairing userInput)
  let found ← Coro.attempt (asyncFind pairing appliance.serial code)
  match found with
  | .error exn => return .errorKey (lookupKey userInput exn)
  | .ok [] => return .errorKey (notClaimableKey userInput)
  | .ok (offered :: _) => bindOffered timeZone appliance userInput offered

/-! ## Codes that can be derived -/

theorem fromHex_eq_none_iff (digits : List Char) : fromHex digits = none ↔ Odd digits.length := by
  induction digits using fromHex.induct with
  | case1 => simp [fromHex]
  | case2 high low rest ih => simp [fromHex, ih, Nat.odd_add_one]
  | case3 digit => simp [fromHex]

/-- The BSSID is empty, or its hexadecimal digits come in pairs. -/
def ReadableBssid (userInput : Dict String String) : Prop :=
  bssidOf userInput = "" ∨ Even ((bssidOf userInput).toList.filter isHexDigit).length

/-- Nothing but an unpaired digit makes the derivation raise. -/
theorem codeOf_ok_iff (pairing : Pairing) (userInput : Dict String String) :
    (∃ code, codeOf pairing userInput = .ok code) ↔ ReadableBssid userInput := by
  unfold codeOf ReadableBssid
  by_cases hempty : bssidOf userInput = ""
  · simp [hempty]
  · have hodd := fromHex_eq_none_iff ((bssidOf userInput).toList.filter isHexDigit)
    rw [if_pos hempty, or_iff_right hempty, ← Nat.not_odd_iff_even, ← hodd]
    unfold deriveVerificationCode
    cases fromHex ((bssidOf userInput).toList.filter isHexDigit) with
    | none => simp
    | some raw => simp

/-! ## What a claim promises -/

/-- The bind was asked for, and the cloud accepted it. -/
def BindSucceeded (trace : List (Exchange ClaimOp ClaimAnswer)) : Prop :=
  ∃ payload reply, (⟨.tob epBind payload, .ok reply⟩ : Exchange ClaimOp ClaimAnswer) ∈ trace

/-- The claim returns, and what it returns does not call an appliance that was bound a
failure. -/
def ClaimContract (trace : List (Exchange ClaimOp ClaimAnswer))
    (result : Except ClaimExn ClaimOutcome) : Prop :=
  (∃ outcome, result = .ok outcome) ∧
    (BindSucceeded trace → ∀ key, result ≠ .ok (.errorKey key))

/-- The scan, where it is reached, returns. -/
def ScanReturned (trace : List (Exchange ClaimOp ClaimAnswer)) : Prop :=
  ∀ exn, (⟨.scan, .error exn⟩ : Exchange ClaimOp ClaimAnswer) ∉ trace

/-- A request of the lookup. -/
def IsLookup : ClaimOp → Prop
  | .getToken => True
  | .tob path _ => path = epVerification
  | .scan => False

theorem not_bindSucceeded {trace : List (Exchange ClaimOp ClaimAnswer)}
    (hlookup : ∀ exchange ∈ trace, IsLookup exchange.1) : ¬ BindSucceeded trace := by
  rintro ⟨payload, reply, hmem⟩
  have hpath : epBind = epVerification := hlookup _ hmem
  exact absurd hpath (by decide)

theorem scanReturned_of_lookup {trace : List (Exchange ClaimOp ClaimAnswer)}
    (hlookup : ∀ exchange ∈ trace, IsLookup exchange.1) : ScanReturned trace :=
  fun _ hmem => hlookup _ hmem

theorem bindSucceeded_append (trace rest : List (Exchange ClaimOp ClaimAnswer)) :
    BindSucceeded (trace ++ rest) ↔ BindSucceeded trace ∨ BindSucceeded rest := by
  simp only [BindSucceeded, List.mem_append, exists_or]

theorem scanReturned_append (trace rest : List (Exchange ClaimOp ClaimAnswer)) :
    ScanReturned (trace ++ rest) ↔ ScanReturned trace ∧ ScanReturned rest := by
  simp only [ScanReturned, List.mem_append, not_or, forall_and]

theorem not_bindSucceeded_refused (payload : Json) (exn : Exn) :
    ¬ BindSucceeded [⟨.tob epBind payload, .error exn⟩] := by
  rintro ⟨payload', reply, hmem⟩
  cases List.mem_singleton.mp hmem

@[simp]
theorem scanReturned_nil : ScanReturned [] := fun _ => List.not_mem_nil

@[simp]
theorem scanReturned_tob (path : String) (payload : Json) (reply : Except Exn Members)
    (rest : List (Exchange ClaimOp ClaimAnswer)) :
    ScanReturned (⟨.tob path payload, reply⟩ :: rest) ↔ ScanReturned rest := by
  simp [ScanReturned]

@[simp]
theorem scanReturned_scan (answer : Except Exn (ℕ × ℕ))
    (rest : List (Exchange ClaimOp ClaimAnswer)) :
    ScanReturned (⟨.scan, answer⟩ :: rest) ↔
      (∃ counts, answer = .ok counts) ∧ ScanReturned rest := by
  cases answer with
  | error exn =>
      have hraised : ¬ ScanReturned (⟨.scan, .error exn⟩ :: rest) :=
        fun hscan => hscan exn List.mem_cons_self
      simp [hraised]
  | ok counts => simp [ScanReturned]

section

variable {env : Environment FlowState ClaimOp ClaimAnswer} {s s' : FlowState}
  {pairing : Pairing} {timeZone : String} {appliance : Discovery.DiscoveredAppliance}
  {userInput : Dict String String} {trace : List (Exchange ClaimOp ClaimAnswer)}
  {result : Except ClaimExn ClaimOutcome}

@[simp]
theorem wpt_answered {α : Type} (answer : Except Exn α)
    (post : Except ClaimExn α → List (Exchange ClaimOp ClaimAnswer) → FlowState → Prop) :
    Coro.wpt env (answered answer) post trace s ↔ post (answer.mapError .raised) trace s :=
  Iff.rfl

/-- The lookup awaits the token and the verification endpoint, and nothing else. -/
theorem wpt_asyncFind (serial code : String) (s : FlowState) :
    Coro.wpt env (asyncFind pairing serial code)
      (fun _ trace _ => ∀ exchange ∈ trace, IsLookup exchange.1) [] s := by
  simp only [asyncFind, getToken, tob, Coro.wpt_bind, Coro.wpt_perform, Coro.wpt_tryCatch,
    Coro.wpt_throw, wpt_answered]
  intro token t _
  cases token with
  | error exn => simp [Except.mapError, IsLookup]
  | ok token =>
      cases hsn : encryptFor pairing serial token with
      | error exn => simp [Except.mapError, hsn, IsLookup]
      | ok sn =>
          simp only [Except.mapError, hsn]
          intro reply u _
          cases reply <;> simp [IsLookup]

/-- Binding and scanning, once the lookup has offered an appliance: only a scan that raises
breaks the promise. -/
theorem wpt_bindOffered (offered : Claimable) (t : FlowState)
    (hlookup : ∀ exchange ∈ trace, IsLookup exchange.1) :
    Coro.wpt env (bindOffered timeZone appliance userInput offered)
      (fun result trace _ => ClaimContract trace result ↔ ScanReturned trace) trace t := by
  have hnobind := not_bindSucceeded hlookup
  have hscan := scanReturned_of_lookup hlookup
  simp only [bindOffered, asyncBind, tob, scanDevices, Coro.wpt_bind, Coro.wpt_attempt,
    Coro.wpt_perform, Coro.wpt_modify, Coro.wpt_pure, wpt_answered]
  intro reply u _
  cases reply with
  | error exn =>
      simp [ClaimContract, Except.mapError, bindSucceeded_append, scanReturned_append,
        not_bindSucceeded_refused, hnobind, hscan]
  | ok data =>
      intro counts v _
      cases counts with
      | error exn => simp [ClaimContract, Except.mapError, scanReturned_append]
      | ok counts => simp [ClaimContract, Except.mapError, scanReturned_append, hscan]

/-- The claim breaks its promise in two ways only: before the lookup, and after the bind. -/
theorem wpt_asyncClaim (env : Environment FlowState ClaimOp ClaimAnswer) (pairing : Pairing)
    (timeZone : String) (appliance : Discovery.DiscoveredAppliance)
    (userInput : Dict String String) (s : FlowState) :
    Coro.wpt env (asyncClaim pairing timeZone appliance userInput)
      (fun result trace _ =>
        ClaimContract trace result ↔ ReadableBssid userInput ∧ ScanReturned trace) [] s := by
  have hreadable := codeOf_ok_iff pairing userInput
  rw [asyncClaim, Coro.wpt_bind]
  cases hcode : codeOf pairing userInput with
  | error exn =>
      rw [hcode] at hreadable
      simp [ClaimContract, Except.mapError, ← hreadable]
  | ok code =>
      rw [hcode] at hreadable
      have hread : ReadableBssid userInput := hreadable.mp ⟨code, rfl⟩
      simp only [wpt_answered, Except.mapError, hread, true_and, Coro.wpt_bind, Coro.wpt_attempt]
      refine Coro.wpt_mono (fun found trace t hlookup => ?_) (wpt_asyncFind _ _ _)
      have hnobind := not_bindSucceeded hlookup
      have hscan := scanReturned_of_lookup hlookup
      cases found with
      | error exn => simp [ClaimContract, hnobind, hscan]
      | ok offers =>
          cases offers with
          | nil => simp [ClaimContract, hnobind, hscan]
          | cons offered _ => exact wpt_bindOffered offered t hlookup

/-- A claim keeps its promise exactly if the BSSID can be read and the scan returns. -/
theorem asyncClaim_contract_iff
    (hrun : Coro.Traced env (asyncClaim pairing timeZone appliance userInput) s trace result s') :
    ClaimContract trace result ↔ ReadableBssid userInput ∧ ScanReturned trace := by
  have hclaim := wpt_asyncClaim env pairing timeZone appliance userInput s
  -- What is claimed no longer matters, and unfolding it here is slow.
  generalize asyncClaim pairing timeZone appliance userInput = claim at hrun hclaim
  exact hrun.post hclaim

end

/-! ## The scan that follows -/

/-- A cloud in which the scan is the coordinator's own, awaiting what `env` answers. -/
def scanning (env : Environment World ClientOp ClientAnswer)
    (cloud : Environment FlowState ClaimOp ClaimAnswer) :
    Environment FlowState ClaimOp ClaimAnswer
  | s, .scan, counts, t =>
      Coro.Exec env Coordinator.asyncScanDevices s.world counts t.world ∧
        t.entryData = s.entryData
  | s, .getToken, token, t => cloud s .getToken token t
  | s, .tob path payload, reply, t => cloud s (.tob path payload) reply t

/-- An inventory that cannot be read makes the scan raise: it has no handler of its own. -/
theorem exec_asyncScanDevices_unreachable {env : Environment World ClientOp ClientAnswer}
    {w w' : World} {exn : Exn}
    (hlist : env w (.call .oem Auth.epHomeIndex .null) (.error exn) w') :
    Coro.Exec env Coordinator.asyncScanDevices w (.error exn) w' :=
  .await hlist .done

/-! ## Two networks -/

/-- What the form hands over for a BSSID. -/
def typedBssid (bssid : String) : Dict String String := Dict.empty.setItem confBssid bssid

def plainPairing : Pairing where
  encryptSerial serial _ := serial
  md5 bytes := bytes.take 16
  nonce := [18, 52]

def dishwasher : Discovery.DiscoveredAppliance where
  deviceId := "150000000000001"
  serial := "0000E15118001001"
  model := "760EY179"
  deviceType := "0xE1"
  host := "192.168.1.20"
  port := 6444

def emptyFlow : FlowState := ⟨World.fresh, Dict.empty⟩

/-- An answer that offers the appliance. -/
def offerReply : Members :=
  [("data", .obj [("applianceList", .arr [.obj [("applianceCode", .str "150000000000001"),
    ("verificationCode", .str "1234")]])])]

/-- What the lookup and the bind of the appliance come to when the cloud agrees to both. -/
def boundTrace (code : String) : List (Exchange ClaimOp ClaimAnswer) :=
  [⟨.getToken, .ok (some "token")⟩,
    ⟨.tob epVerification (.obj [("sn", .str "0000E15118001001"), ("randomCode", .str code)]),
      .ok offerReply⟩,
    ⟨.tob epBind (.obj [("timeZoneID", .str "Europe/Berlin"), ("applianceType", .str "0xE1"),
      ("applianceCode", .str "150000000000001"), ("verificationCode", .str "1234")]), .ok []⟩]

/-- What the step makes of the scan. -/
def scanOutcome (counts : Except Exn (ℕ × ℕ)) : Except ClaimExn ClaimOutcome :=
  (counts.mapError .raised).map fun counts => .abort "appliance_added" counts.1

theorem traced_boundTrace {env : Environment FlowState ClaimOp ClaimAnswer}
    {userInput : Dict String String} {code : String} {s t : FlowState}
    {counts : Except Exn (ℕ × ℕ)} (hcode : codeOf plainPairing userInput = .ok code)
    (htoken : ∀ token, env s .getToken token s)
    (htob : ∀ path payload reply, env s (.tob path payload) reply s)
    (hscan : env (rememberNetwork userInput s) .scan counts t) :
    Coro.Traced env (asyncClaim plainPairing "Europe/Berlin" dishwasher userInput) s
      (boundTrace code ++ [⟨.scan, counts⟩]) (scanOutcome counts) t := by
  have hlast : Coro.Traced env (scanDevices >>= fun counts =>
      (return .abort "appliance_added" counts.1 : ClaimM ClaimOutcome))
      (rememberNetwork userInput s) [⟨.scan, counts⟩] (scanOutcome counts) t := by
    refine .await hscan ?_
    cases counts <;> exact .done
  rw [asyncClaim, hcode]
  exact .await (htoken _) (.await (htob _ _ _) (.await (htob _ _ _) (.read (.write hlast))))

/-- A whole MAC address and a cloud that agrees to everything. -/
theorem asyncClaim_contract_wholeAddress :
    ClaimContract (boundTrace "1234aabbccddeeff" ++ [⟨.scan, .ok (1, 0)⟩])
      (.ok (.abort "appliance_added" 1)) := by
  have hcode : codeOf plainPairing (typedBssid " AA-BB-CC-DD-EE-FF") =
      .ok "1234aabbccddeeff" := by
    decide +kernel
  have hrun : Coro.Traced (fun _ _ _ _ => True)
      (asyncClaim plainPairing "Europe/Berlin" dishwasher (typedBssid " AA-BB-CC-DD-EE-FF"))
      emptyFlow (boundTrace "1234aabbccddeeff" ++ [⟨.scan, .ok (1, 0)⟩])
      (scanOutcome (.ok (1, 0))) emptyFlow :=
    traced_boundTrace hcode (fun _ => trivial) (fun _ _ _ => trivial) trivial
  refine (asyncClaim_contract_iff hrun).mpr ⟨?_, ?_⟩
  · exact (codeOf_ok_iff plainPairing _).mp ⟨_, hcode⟩
  · simp [boundTrace, ScanReturned]

/-- Every other step agrees, and leaves the flow as it is. -/
def agreeing : Environment FlowState ClaimOp ClaimAnswer := fun s _ _ t => t = s

/-- The cloud stops answering. -/
def unreachable : Environment World ClientOp ClientAnswer := fun w _ _ w' => w' = w

/-- The coordinator's scan raises after the bind has succeeded. -/
theorem traced_unreachable :
    Coro.Traced (scanning unreachable agreeing)
      (asyncClaim plainPairing "Europe/Berlin" dishwasher Dict.empty) emptyFlow
      (boundTrace "00000000000000000000000000000000" ++
        [⟨.scan, .error (.dollin (.networkError "timed out"))⟩])
      (.error (.raised (.dollin (.networkError "timed out")))) emptyFlow :=
  traced_boundTrace rfl (fun _ => rfl) (fun _ _ _ => rfl)
    ⟨exec_asyncScanDevices_unreachable rfl, rfl⟩

/-- The user left out the last digit. -/
theorem codeOf_unpaired (pairing : Pairing) :
    codeOf pairing (typedBssid "aa:bb:cc:dd:ee:f") = .error (.builtin "ValueError") := by
  rfl

/-- An unpaired digit raises before anything is asked for; an inventory that cannot be read
raises when the appliance is bound already. -/
theorem asyncClaim_contract_counterexample :
    (∃ result, Coro.Traced (scanning unreachable agreeing)
        (asyncClaim plainPairing "Europe/Berlin" dishwasher (typedBssid "aa:bb:cc:dd:ee:f"))
        emptyFlow [] result emptyFlow ∧ ¬ ClaimContract [] result) ∧
      ∃ trace result, Coro.Traced (scanning unreachable agreeing)
        (asyncClaim plainPairing "Europe/Berlin" dishwasher Dict.empty) emptyFlow trace result
        emptyFlow ∧ BindSucceeded trace ∧ ¬ ClaimContract trace result := by
  constructor
  · refine ⟨.error (.raised (.builtin "ValueError")), ?_, ?_⟩
    · rw [asyncClaim, codeOf_unpaired]
      exact .done
    · rintro ⟨⟨outcome, hreturned⟩, -⟩
      cases hreturned
  · refine ⟨_, _, traced_unreachable, ?_, ?_⟩
    · exact ⟨_, _, List.mem_append_left _ (.tail _ (.tail _ (.head _)))⟩
    · rintro ⟨⟨outcome, hreturned⟩, -⟩
      cases hreturned

end Claiming

end Holabrain
