import Holabrain.Cloud.TokenExpiry
import Holabrain.Coordinator.Snapshots
import Holabrain.Core.Throws

/-!
# Extending the token before a poll

`_async_maybe_extend_token` with the reading of the token's expiry taken apart.  It is meant to
cost no poll: whatever the token and whatever becomes of the extension, it returns.  It does
exactly for the legible tokens; and it leaves those alone that declare no number, but for NaN.
-/

namespace Holabrain

/-! ## What the extension raises -/

/-- An error of the client. -/
def Exn.IsDollin (exn : Exn) : Prop := ∃ err, exn = .dollin err

namespace Auth

/-- Every reply is read or classified; anything may happen to the session meanwhile. -/
def classifying : Environment AuthState AuthOp AuthAnswer
  | _, .post .., reply, _ => ∀ safe exn, Transport.send safe reply = .error exn → exn.IsDollin
  | _, _, _, _ => True

theorem throws_asyncLogin : Coro.Throws classifying Exn.IsDollin asyncLogin := by
  refine .bind (.gets _) fun config => .ite (.throw_bind ⟨_, rfl⟩) ?_
  refine .bind (.modify _) fun _ => .perform_bind fun s reply s' hreply => ?_
  refine .bind (.ofExcept (hreply _)) fun data => .ite (.throw_bind ⟨_, rfl⟩) ?_
  exact .bind (.modify _) fun _ => .bind (.perform _) fun _ => .gets _

theorem throws_asyncGetToken : Coro.Throws classifying Exn.IsDollin asyncGetToken := by
  refine .bind (.gets _) fun token => .ite (.pure _) ?_
  refine .bind (.perform _) fun session => .ite (.bind (.modify _) fun _ => .pure _) ?_
  exact .bind (.modify _) fun _ => throws_asyncLogin

theorem throws_asyncRelogin : Coro.Throws classifying Exn.IsDollin asyncRelogin :=
  .bind (.modify _) fun _ => .bind (.perform _) fun _ => throws_asyncLogin

theorem throws_asyncRecover : Coro.Throws classifying Exn.IsDollin asyncRecover := by
  refine .bind (.modifyGet _) fun cooldown => .bind (.modify _) fun _ => ?_
  refine .bind (.perform _) fun _ => .bind (.gets _) fun s => ?_
  cases s.lastLogin with
  | none => exact throws_asyncLogin
  | some lastLogin =>
      exact .ite (.bind (.modify _) fun _ => .throw ⟨_, rfl⟩) throws_asyncLogin

section Calls

variable (scheme : Scheme) (path : String) (payload : Json)

theorem throws_request (attempt : Attempt) (token : Option String) :
    Coro.Throws classifying Exn.IsDollin (request attempt scheme path payload token) := by
  refine .perform_bind fun s reply s' hreply => .bind (.gets _) fun config => ?_
  cases hsend : Transport.send (config.redactPath path) reply with
  | ok data => exact .pure _
  | error exn => exact .bind (.modify _) fun _ => .throw (hreply _ _ hsend)

theorem throws_authenticated :
    Coro.Throws classifying Exn.IsDollin (authenticated scheme path payload) := by
  refine .bind throws_asyncGetToken fun token =>
    .tryCatch (throws_request scheme path payload .first token) ?_
  rintro exn ⟨err, rfl⟩
  rw [recoverAndRetry]
  dsimp only
  split
  · exact .throw ⟨_, rfl⟩
  split
  · refine .bind (.modifyGet _) fun withinBudget => ?_
    split
    · exact .bind throws_asyncRelogin fun token => throws_request scheme path payload .retry token
    · exact .bind throws_asyncRecover fun token => throws_request scheme path payload .retry token
  split
  · exact .bind throws_asyncRecover fun token => throws_request scheme path payload .retry token
  · exact .throw ⟨_, rfl⟩

end Calls

/-- However the recovery of the extension fails, it fails with an error of the client. -/
theorem throws_asyncExtendToken : Coro.Throws classifying Exn.IsDollin asyncExtendToken := by
  refine .bind (throws_authenticated _ _ _) fun data => .ite throws_asyncRelogin ?_
  refine .bind (.modify _) fun _ => .bind (.perform _) fun session => .bind (.gets _) fun s => ?_
  exact .bind (.perform _) fun _ => .gets _

end Auth

/-! ## The extension before a poll -/

namespace Jwt

open Coordinator

/-- An answer, or an error of the client. -/
def clientErrors : Environment World ClientOp ClientAnswer := fun _ op answer _ =>
  ∀ exn, ClientAnswer.raised op answer = some exn → exn.IsDollin

/-- The session of the account answers like that. -/
theorem clientErrors_of_session {w w' : World} {answer : Except Exn (Option String)}
    (hexec : Coro.Exec Auth.classifying Auth.asyncExtendToken w.auth answer w'.auth) :
    clientErrors w .extendToken answer w' := by
  intro exn hraised
  cases answer with
  | ok token => cases hraised
  | error exn' =>
      cases hraised
      exact hexec.post (Auth.throws_asyncExtendToken w.auth) exn rfl

section Extension

variable (loads : List UInt8 → Except String Json)

/-- `expiry - now`. -/
def secondsAfter (now : ℚ) : Double → Double
  | .finite exp => .finite (exp - now)
  | expiry => expiry

/-- `token_seconds_remaining`, which raises what `_jwt_expiry` raises. -/
def tokenSecondsRemaining (w : World) : Except Exn (Option Double) :=
  (jwtExpiry loads w.auth.token).map (Option.map (secondsAfter w.now))

/-- `_async_maybe_extend_token`, with the expiry read off the token. -/
def asyncMaybeExtendToken (explicit : Bool) : CoordM Unit := do
  let w ← Coro.gets id
  if ¬ (explicit ∨ w.mode = .exclusive) then return ()
  else do
    let remaining ← Coro.ofExcept (tokenSecondsRemaining loads w)
    if tokenLastsLongEnough remaining then return () else extending

/-- It returns, and asks for no extension if the token declares no number. -/
def CostsNoPoll (explicit : Bool) (w : World) : Prop :=
  Coro.wpt clientErrors (asyncMaybeExtendToken loads explicit) (fun result trace _ =>
    result = .ok () ∧ (¬ IsNumber (declaredExp loads w.auth.token) → trace = [])) [] w

variable {loads} {w : World}

/-- Where every expiry is read, this is the coordinator's method. -/
theorem wpt_asyncMaybeExtendToken_eq {env : Environment World ClientOp ClientAnswer}
    {post : Except Exn Unit → List (Exchange ClientOp ClientAnswer) → World → Prop}
    {trace : List (Exchange ClientOp ClientAnswer)} (explicit : Bool)
    (hread : ∀ token, jwtExpiry loads (some token) =
      .ok (if token = "" then none else w.wiring.jwtExpiry token)) :
    Coro.wpt env (asyncMaybeExtendToken loads explicit) post trace w ↔
      Coro.wpt env (Coordinator.asyncMaybeExtendToken explicit) post trace w := by
  have hremaining : tokenSecondsRemaining loads w = .ok w.tokenSecondsRemaining := by
    rw [tokenSecondsRemaining, World.tokenSecondsRemaining]
    cases w.auth.token with
    | none => rfl
    | some token =>
        rw [hread token]
        dsimp only
        split
        · rfl
        · cases hexpiry : w.wiring.jwtExpiry token with
          | none => rfl
          | some expiry => cases expiry <;> rfl
  have hmethod : Coordinator.asyncMaybeExtendToken explicit = (do
      let w ← Coro.gets id
      if ¬ (explicit ∨ w.mode = .exclusive) then return ()
      else if tokenLastsLongEnough w.tokenSecondsRemaining then return () else extending) := rfl
  simp only [hmethod, asyncMaybeExtendToken, hremaining, Coro.wpt_bind, Coro.wpt_gets,
    Coro.wpt_ite, Coro.wpt_ofExcept, id_eq]

/-- The extension itself returns, whatever becomes of it. -/
theorem wpt_extending {trace : List (Exchange ClientOp ClientAnswer)} :
    Coro.wpt clientErrors extending (fun result _ _ => result = .ok ()) trace w := by
  simp only [extending, Client.extendToken, Coro.wpt_bind, Coro.wpt_modify, Coro.wpt_attempt,
    Coro.wpt_perform, Coro.wpt_ofExcept]
  intro answer w' hanswered
  cases answer with
  | ok token => rfl
  | error exn =>
      obtain ⟨err, rfl⟩ := hanswered exn rfl
      rfl

/-- Some extension is answered. -/
theorem not_wpt_extending_silent :
    ¬ Coro.wpt clientErrors extending (fun _ trace _ => trace = []) [] w := by
  intro hsilent
  simp only [extending, Client.extendToken, Coro.wpt_bind, Coro.wpt_modify, Coro.wpt_attempt,
    Coro.wpt_perform, Coro.wpt_ofExcept] at hsilent
  have hanswered := hsilent (.ok none) w (by intro exn hraised; cases hraised)
  cases hanswered

theorem lastsLongEnough_of_not_isNumber (hlegible : Legible loads w.auth.token)
    (h : ¬ IsNumber (declaredExp loads w.auth.token)) : ∃ remaining,
      tokenSecondsRemaining loads w = .ok remaining ∧
        (tokenLastsLongEnough remaining = true ↔
          declaredExp loads w.auth.token ≠ .float .nan) := by
  rw [tokenSecondsRemaining, jwtExpiry_of_not_isNumber hlegible h]
  refine ⟨_, rfl, ?_⟩
  split
  next hnan => exact iff_of_false Bool.false_ne_true (not_not.mpr hnan)
  next hnull => exact iff_of_true rfl hnull

/-- A considered extension reads the expiry before anything else, and is asked for where the
token does not last. -/
theorem costsNoPoll_iff_of_considered {explicit : Bool}
    (hconsidered : explicit = true ∨ w.mode = .exclusive) :
    CostsNoPoll loads explicit w ↔ ∃ remaining, tokenSecondsRemaining loads w = .ok remaining ∧
      (tokenLastsLongEnough remaining = true ∨ IsNumber (declaredExp loads w.auth.token)) := by
  rw [CostsNoPoll, asyncMaybeExtendToken, Coro.wpt_bind, Coro.wpt_gets]
  dsimp only [id_eq]
  rw [if_neg (not_not.mpr hconsidered), Coro.wpt_bind, Coro.wpt_ofExcept]
  cases hremaining : tokenSecondsRemaining loads w with
  | error exn =>
      apply iff_of_false
      · rintro ⟨hresult, -⟩
        cases hresult
      · rintro ⟨remaining, hread, -⟩
        cases hread
  | ok remaining =>
      dsimp only
      rw [Coro.wpt_ite]
      split
      next hlasts => exact iff_of_true ⟨rfl, fun _ => rfl⟩ ⟨remaining, rfl, .inl hlasts⟩
      next hshort =>
        constructor
        · intro hcosts
          refine ⟨remaining, rfl, .inr ?_⟩
          by_contra hnumber
          exact not_wpt_extending_silent
            (Coro.wpt_mono (fun _ _ _ hend => hend.2 hnumber) hcosts)
        · rintro ⟨_, hread, hneeds⟩
          cases hread
          apply Coro.wpt_mono _ wpt_extending
          intro result trace w' hresult
          exact ⟨hresult, fun hnumber => absurd (hneeds.resolve_left hshort) hnumber⟩

theorem returns_tokenSecondsRemaining_iff :
    Returns (tokenSecondsRemaining loads w) ↔ Legible loads w.auth.token := by
  rw [tokenSecondsRemaining, returns_map, returns_jwtExpiry_iff]

theorem not_costsNoPoll_of_isHuge {explicit : Bool}
    (hconsidered : explicit = true ∨ w.mode = .exclusive)
    (hhuge : IsHuge (declaredExp loads w.auth.token)) : ¬ CostsNoPoll loads explicit w := by
  rw [costsNoPoll_iff_of_considered hconsidered]
  rintro ⟨remaining, hremaining, -⟩
  exact (returns_tokenSecondsRemaining_iff.mp ⟨remaining, hremaining⟩).bounded hhuge

/-- The extension costs no poll exactly where it is not considered, or the token is legible and
declares anything but NaN. -/
theorem costsNoPoll_iff (explicit : Bool) :
    CostsNoPoll loads explicit w ↔ (explicit = true ∨ w.mode = .exclusive →
      Legible loads w.auth.token ∧ declaredExp loads w.auth.token ≠ .float .nan) := by
  by_cases hconsidered : explicit = true ∨ w.mode = .exclusive
  swap
  · rw [CostsNoPoll, asyncMaybeExtendToken, Coro.wpt_bind, Coro.wpt_gets]
    dsimp only [id_eq]
    rw [if_pos hconsidered]
    exact iff_of_true ⟨rfl, fun _ => rfl⟩ fun hyes => absurd hyes hconsidered
  rw [costsNoPoll_iff_of_considered hconsidered]
  simp only [hconsidered, true_implies]
  constructor
  · rintro ⟨remaining, hremaining, hneeds⟩
    have hlegible := returns_tokenSecondsRemaining_iff.mp ⟨remaining, hremaining⟩
    refine ⟨hlegible, fun hnan => ?_⟩
    have hnumber : ¬ IsNumber (declaredExp loads w.auth.token) := by
      rw [hnan]
      exact id
    obtain ⟨_, hread, hlasts⟩ := lastsLongEnough_of_not_isNumber hlegible hnumber
    rw [hread] at hremaining
    cases hremaining
    exact hlasts.mp (hneeds.resolve_right hnumber) hnan
  · rintro ⟨hlegible, hnan⟩
    obtain ⟨remaining, hremaining⟩ := returns_tokenSecondsRemaining_iff.mpr hlegible
    refine ⟨remaining, hremaining, ?_⟩
    by_cases hnumber : IsNumber (declaredExp loads w.auth.token)
    · exact .inr hnumber
    · obtain ⟨_, hread, hlasts⟩ := lastsLongEnough_of_not_isNumber hlegible hnumber
      rw [hread] at hremaining
      cases hremaining
      exact .inl (hlasts.mpr hnan)

/-! ## An expiry of three hundred and ten digits -/

def hugeExp : ℤ := 10 ^ 309

theorem isHuge_hugeExp : IsHuge (.int hugeExp) := by
  have hpow : (2 : ℚ) ^ 1024 ≤ 10 ^ 309 :=
    calc (2 : ℚ) ^ 1024 = (2 ^ 93) ^ 11 * 2 := by rw [← pow_mul, ← pow_succ]
      _ ≤ (10 ^ 28) ^ 11 * 10 := by gcongr <;> norm_num
      _ = 10 ^ 309 := by rw [← pow_mul, ← pow_succ]
  have hcast : |((hugeExp : ℤ) : ℚ)| = 10 ^ 309 := by
    rw [hugeExp, Int.cast_pow, Int.cast_ofNat, abs_of_pos (by positivity)]
  rw [IsHuge, hcast, Double.overflowBound]
  exact (sub_le_self _ (by positivity)).trans hpow

def hugeText : List Char :=
  "\x7b\"exp\": 1".toList ++ List.replicate 309 '0' ++ "\x7d".toList

def hugeBytes : List UInt8 := hugeText.map fun c => UInt8.ofNat c.toNat

/-- What `json.loads` makes of these bytes. -/
def loadsHuge (bytes : List UInt8) : Except String Json :=
  if bytes = hugeBytes then .ok (.obj [("exp", .int hugeExp)]) else .error "JSONDecodeError"

theorem loadsHuge_hugeBytes : loadsHuge hugeBytes = .ok (.obj [("exp", .int hugeExp)]) :=
  if_pos rfl

/-- In exclusive mode, with a token of that payload. -/
def hugeExpiry : World :=
  { World.fresh with
    mode := .exclusive
    auth := { World.fresh.auth with
      token := some (String.ofList ("eu_A_h".toList ++ '.' :: Base64.encode hugeBytes)) } }

/-- A scheduled poll fails at the token. -/
theorem hugeExpiry_costs_poll : ¬ CostsNoPoll loadsHuge false hugeExpiry := by
  have hpayload : payloadBytes hugeExpiry.auth.token = some hugeBytes :=
    payloadBytes_encode (by decide) hugeBytes
  have hexp : declaredExp loadsHuge hugeExpiry.auth.token = .int hugeExp :=
    declaredExp_of_ok hpayload loadsHuge_hugeBytes
  apply not_costsNoPoll_of_isHuge (.inr rfl)
  rw [hexp]
  exact isHuge_hugeExp

end Extension

end Jwt

end Holabrain
