import Holabrain.Cloud.Errors

/-!
# The HTTP transport

`HttpTransport._send` decides what an answer of the cloud means: a dictionary, or one of
the exceptions of the hierarchy.  The signature and the headers of a request do not take
part in that decision, so a request is its path here and the cloud's reaction to it is an
`HttpReply`.
-/

namespace Holabrain

/-- What comes back for one POST: a transport failure, or a status and a body.  The body is
`none` when it is not JSON. -/
inductive HttpReply
  | failed (detail : String)
  | response (status : ℕ) (body : Option Json)

namespace Transport

def tokenExpiredCodes : List ℤ := [12001]

def credentialsRejectedCodes : List ℤ := [3114016]

def authCodes : List ℤ := [5, 14005] ++ tokenExpiredCodes ++ credentialsRejectedCodes

def rateLimitCodes : List ℤ := [4001, 429]

/-- `code in codes` for a set of integers. -/
def codeIn (codes : List ℤ) (code : Json) : Bool := codes.any fun n => code.eqInt n

/-- Lists and dictionaries cannot be looked up in a set. -/
def unhashable (code : Json) : Bool := code.asArr.isSome || code.asObj.isSome

/-- `str(data.get("msg") or data.get("message") or "").strip() or f"code {code}"`. -/
def errorMessage (data : Members) : String :=
  let text := pyStrip (((data.get "msg").or (data.get "message")).or (.str "")).pyStr
  if text = "" then "code " ++ (data.get "code").pyStr else text

def isSuccess (status : ℕ) : Bool := 200 ≤ status && status ≤ 299

/-- The part of `_send` that reads a decoded object. -/
def sendObject (safe : String) (status : ℕ) (data : Members) : Except Exn Members :=
  let code := data.get "code"
  let message := errorMessage data
  if code = .null ∧ ¬ isSuccess status then
    .error (.dollin (.apiError
      (safe ++ " returned HTTP " ++ toString status ++ " without a code") none))
  else if code = .null ∨ code.eqInt 0 then .ok data
  else if unhashable code then .error (.builtin "TypeError")
  else if codeIn tokenExpiredCodes code then .error (.dollin (.tokenExpiredError message))
  else if codeIn credentialsRejectedCodes code then
    .error (.dollin (.credentialsRejectedError message))
  else if codeIn authCodes code then .error (.dollin (.authError message))
  else if codeIn rateLimitCodes code then
    .error (.dollin (.rateLimitError message (some code)))
  else .error (.dollin (.apiError message (some code)))

/-- `type(data).__name__` of a value that is not a dictionary. -/
def typeName : Json → String
  | .null => "NoneType"
  | .bool _ => "bool"
  | .int _ => "int"
  | .float _ => "float"
  | .str _ => "str"
  | .arr _ => "list"
  | .obj _ => "dict"

/-- `HttpTransport._send`: the path goes in as it is quoted in messages. -/
def send (safe : String) : HttpReply → Except Exn Members
  | .failed detail =>
      .error (.dollin (.networkError ("request to " ++ safe ++ " failed: " ++ detail)))
  | .response status body =>
      if status = 401 ∨ status = 403 then
        .error (.dollin (.authError (safe ++ " returned HTTP " ++ toString status)))
      else if status = 429 then
        .error (.dollin (.rateLimitError (safe ++ " rate limited") (some (.int 429))))
      else match body with
        | none => .error (.dollin (.apiError
            (safe ++ " returned non-JSON (HTTP " ++ toString status ++ ")") none))
        | some (.obj data) => sendObject safe status data
        | some data => .error (.dollin (.apiError
            (safe ++ " returned unexpected payload type " ++ typeName data) none))

/-- What the transport raises is an error of the client or a built-in exception. -/
theorem send_error {safe : String} {reply : HttpReply} {exn : Exn}
    (h : send safe reply = .error exn) :
    (∃ err, exn = .dollin err) ∨ ∃ name, exn = .builtin name := by
  cases reply with
  | failed detail =>
      cases h
      exact .inl ⟨_, rfl⟩
  | response status body =>
      simp only [send] at h
      split at h
      · cases h
        exact .inl ⟨_, rfl⟩
      split at h
      · cases h
        exact .inl ⟨_, rfl⟩
      split at h
      · cases h
        exact .inl ⟨_, rfl⟩
      · simp only [sendObject] at h
        -- the code that cannot be looked up in a set is the one built-in exception
        repeat' split at h
        all_goals first
          | cases h; exact .inl ⟨_, rfl⟩
          | cases h; exact .inr ⟨_, rfl⟩
          | cases h
      · cases h
        exact .inl ⟨_, rfl⟩

/-- The transport never claims that another client holds the session: only the
authentication manager does. -/
theorem send_ne_sessionTakeover (safe : String) (reply : HttpReply) (cooldown waited : ℚ) :
    send safe reply ≠ .error (.dollin (.sessionTakeoverError cooldown waited)) := by
  cases reply with
  | failed detail => simp [send]
  | response status body =>
      simp only [send]
      split
      · simp
      split
      · simp
      cases body with
      | none => simp
      | some data =>
          cases data with
          | obj data =>
              simp only [sendObject]
              repeat' split
              all_goals simp
          | _ => simp

/-! ## What an answer is taken for -/

/-- The status alone does not make the answer an error. -/
def statusRead (status : ℕ) : Prop := status ≠ 401 ∧ status ≠ 403 ∧ status ≠ 429

/-- The object is a result: its code is 0, or it has none and the status is a success. -/
def IsResult (status : ℕ) (data : Members) : Prop :=
  (data.get "code").eqInt 0 = true ∨ data.get "code" = .null ∧ isSuccess status = true

/-- The answer is the result `data`. -/
structure Accepted (status : ℕ) (body : Option Json) (data : Members) : Prop where
  read : statusRead status
  object : body = some (.obj data)
  result : IsResult status data

/-- The answer carries a list or a dictionary where its business code is looked up. -/
structure CodeUnhashable (status : ℕ) (body : Option Json) : Prop where
  read : statusRead status
  object : ∃ data : Members, body = some (.obj data) ∧ unhashable (data.get "code") = true

/-- The answer is classified: it is a result where it is one, and an error of the client
otherwise. -/
structure Classified (safe : String) (status : ℕ) (body : Option Json) : Prop where
  outcome : (∃ data, send safe (.response status body) = .ok data) ∨
    ∃ err, send safe (.response status body) = .error (.dollin err)
  returns : ∀ data, send safe (.response status body) = .ok data ↔ Accepted status body data

theorem not_isResult_of_unhashable {status : ℕ} {data : Members}
    (h : unhashable (data.get "code") = true) : ¬ IsResult status data := by
  rintro (hzero | ⟨hnull, -⟩)
  · cases hcode : data.get "code" with
    | arr items =>
        rw [hcode] at hzero
        cases hzero
    | obj members =>
        rw [hcode] at hzero
        cases hzero
    | _ =>
        rw [hcode] at h
        cases h
  · rw [hnull] at h
    cases h

/-- An object is a result, or an error, or its code cannot be looked up. -/
theorem sendObject_cases (safe : String) (status : ℕ) (data : Members) :
    (sendObject safe status data = .ok data ∧ IsResult status data) ∨
      (∃ err, sendObject safe status data = .error (.dollin err)) ∧
        unhashable (data.get "code") = false ∧ ¬ IsResult status data ∨
      sendObject safe status data = .error (.builtin "TypeError") ∧
        unhashable (data.get "code") = true := by
  by_cases hmissing : data.get "code" = .null ∧ ¬ isSuccess status = true
  · refine .inr (.inl ⟨⟨_, if_pos hmissing⟩, ?_, ?_⟩)
    · rw [hmissing.1]
      rfl
    · rintro (hzero | ⟨-, hsuccess⟩)
      · rw [hmissing.1] at hzero
        cases hzero
      · exact hmissing.2 hsuccess
  by_cases hzero : data.get "code" = .null ∨ (data.get "code").eqInt 0 = true
  · refine .inl ⟨?_, hzero.elim (fun hnull => .inr ⟨hnull, ?_⟩) .inl⟩
    · simp only [sendObject, if_neg hmissing, if_pos hzero]
    · exact Decidable.of_not_not fun hfailed => hmissing ⟨hnull, hfailed⟩
  by_cases hunhashable : unhashable (data.get "code") = true
  · refine .inr (.inr ⟨?_, hunhashable⟩)
    simp only [sendObject, if_neg hmissing, if_neg hzero, if_pos hunhashable]
  · refine .inr (.inl ⟨?_, by simpa using hunhashable, ?_⟩)
    · simp only [sendObject, if_neg hmissing, if_neg hzero, if_neg hunhashable]
      split_ifs <;> exact ⟨_, rfl⟩
    · exact fun hresult => hzero (hresult.elim .inr fun hnull => .inl hnull.1)

/-- Only an object under a status that is read gets as far as its code. -/
theorem send_eq_sendObject (safe : String) {status : ℕ} (h : statusRead status)
    (data : Members) :
    send safe (.response status (some (.obj data))) = sendObject safe status data := by
  simp only [send, h.1, h.2.1, h.2.2, or_self, if_false]

/-- Any other answer is an error of the client. -/
theorem send_error_of_not_object (safe : String) {status : ℕ} {body : Option Json}
    (h : ¬ (statusRead status ∧ ∃ data, body = some (.obj data))) :
    ∃ err, send safe (.response status body) = .error (.dollin err) := by
  simp only [send]
  split_ifs with hauth hlimit
  · exact ⟨_, rfl⟩
  · exact ⟨_, rfl⟩
  · rw [not_or] at hauth
    have hread : statusRead status := ⟨hauth.1, hauth.2, hlimit⟩
    match body with
    | none => exact ⟨_, rfl⟩
    | some (.obj data) => exact absurd ⟨hread, data, rfl⟩ h
    | some .null | some (.bool _) | some (.int _) | some (.float _) | some (.str _)
    | some (.arr _) => exact ⟨_, rfl⟩

/-- An answer is classified unless a list or a dictionary stands for its business code. -/
theorem classified_iff (safe : String) (status : ℕ) (body : Option Json) :
    Classified safe status body ↔ ¬ CodeUnhashable status body := by
  by_cases hobject : statusRead status ∧ ∃ data, body = some (.obj data)
  · obtain ⟨hread, data, rfl⟩ := hobject
    have hsend := send_eq_sendObject safe hread data
    obtain ⟨hok, hresult⟩ | ⟨⟨err, herror⟩, hhashable, hnot⟩ | ⟨herror, hunhashable⟩ :=
      sendObject_cases safe status data
    · refine iff_of_true ⟨.inl ⟨data, hsend.trans hok⟩, fun data' => ?_⟩ ?_
      · rw [hsend, hok]
        constructor
        · intro heq
          cases heq
          exact ⟨hread, rfl, hresult⟩
        · intro haccepted
          cases haccepted.object
          rfl
      · rintro ⟨-, data', heq, hunhashable⟩
        cases heq
        exact not_isResult_of_unhashable hunhashable hresult
    · refine iff_of_true ⟨.inr ⟨err, hsend.trans herror⟩, fun data' => ?_⟩ ?_
      · rw [hsend, herror]
        refine iff_of_false nofun fun haccepted => ?_
        cases haccepted.object
        exact hnot haccepted.result
      · rintro ⟨-, data', heq, hunhashable⟩
        cases heq
        rw [hhashable] at hunhashable
        cases hunhashable
    · refine iff_of_false (fun hclassified => ?_) fun hnot => hnot ⟨hread, data, rfl, hunhashable⟩
      obtain ⟨data', hok⟩ | ⟨err, hdollin⟩ := hclassified.outcome
      · rw [hsend, herror] at hok
        cases hok
      · rw [hsend, herror] at hdollin
        cases hdollin
  · obtain ⟨err, herror⟩ := send_error_of_not_object safe hobject
    refine iff_of_true ⟨.inr ⟨err, herror⟩, fun data => ?_⟩ ?_
    · rw [herror]
      exact iff_of_false nofun fun haccepted => hobject ⟨haccepted.read, data, haccepted.object⟩
    · rintro ⟨hread, data, hbody, -⟩
      exact hobject ⟨hread, data, hbody⟩

/-- A list under `code` is looked up in a set of integers. -/
theorem not_classified_list_code :
    send "/v1/x" (.response 200 (some (.obj [("code", .arr [])]))) = .error (.builtin "TypeError") ∧
      ¬ ∀ safe status body, Classified safe status body := by
  refine ⟨by decide +kernel, fun hall => ?_⟩
  obtain ⟨data, hok⟩ | ⟨err, herror⟩ :=
    (hall "/v1/x" 200 (some (.obj [("code", .arr [])]))).outcome
  · cases hok
  · cases herror

end Transport

end Holabrain
