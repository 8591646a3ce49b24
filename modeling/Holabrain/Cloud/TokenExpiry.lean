import Holabrain.Cloud.Overflow
import Holabrain.Core.Base64

/-!
# The expiry a token declares

An access token is a JWT behind a region prefix.  `jwtExpiry` reads the expiry out of its
payload; every malformed token is meant to yield none.  It raises where the JSON decoder fails
with anything but a `ValueError`, and for an integer that no double comes near.
-/

namespace Holabrain

namespace Jwt

/-- The class is `ValueError` or below it; `binascii.Error` is as well. -/
def isValueError (name : String) : Bool :=
  decide (name ∈ ["ValueError", "binascii.Error", "JSONDecodeError", "UnicodeDecodeError"])

/-- The second part of a token, padded to a multiple of four. -/
def payloadOf (token : String) : Option (List Char) :=
  match token.toList.splitOn '.' with
  | _ :: payload :: _ => some (payload ++ Base64.padding payload)
  | _ => none

/-- `base64.urlsafe_b64decode` of a text. -/
def urlsafeB64decode (text : List Char) : Except Exn (List UInt8) :=
  if text.all fun c => decide (c.toNat < 128) then
    match Base64.urlsafeDecode text with
    | some bytes => .ok bytes
    | none => .error (.builtin "binascii.Error")
  else .error (.builtin "ValueError")

/-- `float(exp)` of a number that is no boolean. -/
def expiryOf : Json → Except Exn (Option Double)
  | .int n => (pyFloat (.int n)).map some
  | .float x => (pyFloat (.float x)).map some
  | _ => .ok none

/-- `claims.get("exp")`, where the claims are a dictionary. -/
def expOf (claims : Json) : Json := (claims.asObj.map fun members => members.get "exp").getD .null

section Reading

-- `json.loads` of bytes, which fails with a built-in exception of the given class
variable (loads : List UInt8 → Except String Json)

/-- `json.loads(base64.urlsafe_b64decode(payload))`. -/
def decodeClaims (payload : List Char) : Except Exn Json := do
  let bytes ← urlsafeB64decode payload
  (loads bytes).mapError .builtin

/-- `_jwt_expiry`. -/
def jwtExpiry (token : Option String) : Except Exn (Option Double) :=
  match (token.filter fun token => decide (token ≠ "")).bind payloadOf with
  | none => .ok none
  | some payload =>
      match decodeClaims loads payload with
      | .ok claims => expiryOf (expOf claims)
      | .error (.builtin name) => if isValueError name then .ok none else .error (.builtin name)
      | .error exn => .error exn

/-! ## When it returns -/

/-- The bytes of the payload of a token, where it can be decoded. -/
def payloadBytes (token : Option String) : Option (List UInt8) :=
  ((token.filter fun token => decide (token ≠ "")).bind payloadOf).bind fun payload =>
    (urlsafeB64decode payload).toOption

/-- The value a token has under `exp`; null where there is none. -/
def declaredExp (token : Option String) : Json :=
  (((payloadBytes token).bind fun bytes => (loads bytes).toOption).map expOf).getD .null

/-- The JSON decoder fails with nothing but a `ValueError`, and the expiry is no integer beyond
the doubles. -/
structure Legible (token : Option String) : Prop where
  decoded : ∀ bytes ∈ payloadBytes token, ∀ name, loads bytes = .error name →
    isValueError name = true
  bounded : ¬ IsHuge (declaredExp loads token)

/-- A number; `NaN`, which JSON as Python reads it can spell, is none. -/
def IsNumber : Json → Prop
  | .int _ => True
  | .float .nan => False
  | .float _ => True
  | _ => False

variable {loads} {token : Option String} {bytes : List UInt8}

/-- What base64 fails with is caught. -/
theorem isValueError_of_urlsafeB64decode {text : List Char} {exn : Exn}
    (h : urlsafeB64decode text = .error exn) :
    ∃ name, exn = .builtin name ∧ isValueError name = true := by
  rw [urlsafeB64decode] at h
  split at h
  · split at h
    · cases h
    · cases h
      exact ⟨_, rfl, rfl⟩
  · cases h
    exact ⟨_, rfl, rfl⟩

theorem jwtExpiry_of_none (h : payloadBytes token = none) : jwtExpiry loads token = .ok none := by
  rw [payloadBytes] at h
  rw [jwtExpiry]
  cases hpayload : (token.filter fun token => decide (token ≠ "")).bind payloadOf with
  | none => rfl
  | some payload =>
      rw [hpayload, Option.bind_some] at h
      cases hbytes : urlsafeB64decode payload with
      | ok bytes => rw [hbytes] at h; cases h
      | error exn =>
          obtain ⟨name, rfl, hcaught⟩ := isValueError_of_urlsafeB64decode hbytes
          have hclaims : decodeClaims loads payload = .error (.builtin name) := by
            rw [decodeClaims, hbytes]
            rfl
          simp only [hclaims, hcaught, if_true]

variable (loads) in
/-- Once the payload is decoded, the JSON decoder has the say. -/
theorem jwtExpiry_of_bytes (h : payloadBytes token = some bytes) :
    (∀ claims, loads bytes = .ok claims → jwtExpiry loads token = expiryOf (expOf claims)) ∧
      ∀ name, loads bytes = .error name → jwtExpiry loads token =
        if isValueError name then .ok none else .error (.builtin name) := by
  obtain ⟨payload, hpayload, hbytes⟩ := Option.bind_eq_some_iff.mp h
  have hdecoded : urlsafeB64decode payload = .ok bytes := by
    cases hresult : urlsafeB64decode payload with
    | ok decoded => rw [hresult] at hbytes; cases hbytes; rfl
    | error exn => rw [hresult] at hbytes; cases hbytes
  have hclaims : decodeClaims loads payload = (loads bytes).mapError .builtin := by
    rw [decodeClaims, hdecoded]
    rfl
  constructor
  · intro claims hloads
    rw [hloads] at hclaims
    rw [jwtExpiry, hpayload]
    simp only [hclaims, Except.mapError]
  · intro name hloads
    rw [hloads] at hclaims
    rw [jwtExpiry, hpayload]
    simp only [hclaims, Except.mapError]

theorem declaredExp_of_ok {claims : Json} (hpayload : payloadBytes token = some bytes)
    (hloads : loads bytes = .ok claims) : declaredExp loads token = expOf claims := by
  rw [declaredExp, hpayload, Option.bind_some, hloads]
  rfl

theorem declaredExp_of_error {name : String} (hpayload : payloadBytes token = some bytes)
    (hloads : loads bytes = .error name) : declaredExp loads token = .null := by
  rw [declaredExp, hpayload, Option.bind_some, hloads]
  rfl

theorem returns_expiryOf_iff (exp : Json) : Returns (expiryOf exp) ↔ ¬ IsHuge exp := by
  cases exp with
  | int n =>
      rw [expiryOf, returns_map, IsHuge]
      obtain ⟨hhuge, hfloat⟩ | ⟨hsmall, x, hfloat, -⟩ := pyFloat_int n
      · simp [hfloat, hhuge]
      · simp [hfloat, hsmall]
  | float x => cases x <;> simp [expiryOf, pyFloat, Except.map, IsHuge]
  | null | bool b | str s | arr items | obj members => simp [expiryOf, IsHuge]

/-- What is no number is read as none, but for NaN. -/
theorem expiryOf_of_not_isNumber {exp : Json} (h : ¬ IsNumber exp) :
    expiryOf exp = .ok (if exp = .float .nan then some .nan else none) := by
  cases exp with
  | int n => exact absurd trivial h
  | float x =>
      cases x with
      | nan => rfl
      | _ => exact absurd trivial h
  | null | bool b | str s | arr items | obj members => rfl

/-- Any bytes are the payload of some token. -/
theorem payloadBytes_encode {head : List Char} (hhead : '.' ∉ head) (bytes : List UInt8) :
    payloadBytes (some (String.ofList (head ++ '.' :: Base64.encode bytes))) = some bytes := by
  have hparts : (head ++ '.' :: Base64.encode bytes).splitOn '.' =
      [head, Base64.encode bytes] := by
    rw [List.splitOn_append_cons_self_of_not_mem hhead,
      List.splitOn_eq_singleton (Base64.dot_not_mem_encode bytes)]
  have hnamed : String.ofList (head ++ '.' :: Base64.encode bytes) ≠ "" := by
    intro heq
    have hlist := congrArg String.toList heq
    simp at hlist
  have hascii : (Base64.encode bytes ++ Base64.padding (Base64.encode bytes)).all
      (fun c => decide (c.toNat < 128)) = true := by
    rw [List.all_eq_true]
    exact fun c hc => decide_eq_true (Base64.ascii_of_mem_padded hc)
  have hkept : (some (String.ofList (head ++ '.' :: Base64.encode bytes))).filter
      (fun token => decide (token ≠ "")) =
        some (String.ofList (head ++ '.' :: Base64.encode bytes)) :=
    Option.filter_some_pos (decide_eq_true hnamed)
  rw [payloadBytes, hkept, Option.bind_some, payloadOf,
    String.toList_ofList, hparts, Option.bind_some, urlsafeB64decode, if_pos hascii,
    Base64.urlsafeDecode_encode]
  rfl

/-- `_jwt_expiry` returns for the legible tokens. -/
theorem returns_jwtExpiry_iff : Returns (jwtExpiry loads token) ↔ Legible loads token := by
  cases hpayload : payloadBytes token with
  | none =>
      rw [jwtExpiry_of_none hpayload]
      refine iff_of_true (returns_ok none) ⟨by simp [hpayload], ?_⟩
      simp [declaredExp, hpayload, IsHuge]
  | some bytes =>
      obtain ⟨hok, herror⟩ := jwtExpiry_of_bytes loads hpayload
      cases hloads : loads bytes with
      | ok claims =>
          rw [hok claims hloads, returns_expiryOf_iff, ← declaredExp_of_ok hpayload hloads]
          constructor
          · intro hbounded
            refine ⟨fun other hother name hfails => ?_, hbounded⟩
            rw [hpayload, Option.mem_some_iff] at hother
            rw [← hother, hloads] at hfails
            cases hfails
          · exact Legible.bounded
      | error name =>
          have hexp := declaredExp_of_error hpayload hloads
          rw [herror name hloads]
          constructor
          · intro hreturns
            refine ⟨fun other hother fails hfails => ?_, by simp [hexp, IsHuge]⟩
            rw [hpayload, Option.mem_some_iff] at hother
            rw [← hother, hloads] at hfails
            cases hfails
            by_contra hraises
            rw [if_neg hraises] at hreturns
            exact not_returns_error _ hreturns
          · intro hlegible
            rw [if_pos (hlegible.decoded bytes hpayload name hloads)]
            exact returns_ok none

/-- A legible token without a number under `exp` has no expiry, but for NaN. -/
theorem jwtExpiry_of_not_isNumber (hlegible : Legible loads token)
    (h : ¬ IsNumber (declaredExp loads token)) : jwtExpiry loads token =
      .ok (if declaredExp loads token = .float .nan then some .nan else none) := by
  cases hpayload : payloadBytes token with
  | none =>
      rw [jwtExpiry_of_none hpayload, declaredExp, hpayload]
      rfl
  | some bytes =>
      obtain ⟨hok, herror⟩ := jwtExpiry_of_bytes loads hpayload
      cases hloads : loads bytes with
      | ok claims =>
          rw [declaredExp_of_ok hpayload hloads] at h ⊢
          rw [hok claims hloads, expiryOf_of_not_isNumber h]
      | error name =>
          rw [herror name hloads, if_pos (hlegible.decoded bytes hpayload name hloads),
            declaredExp_of_error hpayload hloads]
          rfl

end Reading

end Jwt

end Holabrain
