import Holabrain.Cloud.SessionStore

/-!
# The manager over its store

`AuthManager` with `ConfigEntryTokenStore` below it: the operations of the store are served
from the data of the config entry, and what is left to await are the requests.  Every run of
it is a run of the manager over an abstract store, so that what was proved there holds here.
Between its blocks the manager and the entry never disagree about the session, whatever calls
are under way and however often the integration is restarted.
-/

namespace Holabrain

/-- The manager and the data of its config entry.  The manager's own `store` is not read. -/
structure EntryState where
  manager : AuthState
  data : Dict String Json

/-- A request on its way to the cloud. -/
structure Posting where
  scheme : Scheme
  path : String
  payload : Json
  token : Option String

abbrev PostingAnswer : Posting → Type := fun _ => HttpReply

abbrev EntryM := Coro EntryState Posting PostingAnswer Exn

namespace StoredManager

open Auth ConfigEntryTokenStore

/-- The manager as it is verified: its store holds what the entry is loaded as. -/
def entryView : View EntryState AuthState where
  get t := t.manager.setStore (load t.data)
  set t s := { t with manager := s }

/-- What serves the manager's operations: only a request suspends. -/
def serve : (op : AuthOp) → EntryM (AuthAnswer op)
  | .post scheme path payload token => Coro.perform (⟨scheme, path, payload, token⟩ : Posting)
  | .load => Coro.gets fun t => load t.data
  | .save session => Coro.modify fun t => { t with data := save session t.data }
  | .clear => Coro.modify fun t => { t with data := clear t.data }

/-- A method of the manager, over the entry. -/
def stored {α : Type} (p : AuthM α) : EntryM α := p.layered entryView serve

/-- A request is answered by anything at all, some time later. -/
def network : Environment EntryState Posting PostingAnswer := fun t _ _ t' =>
  ∃ time, t.manager.clock ≤ time ∧ t' = { t with manager := t.manager.advance time }

/-! ## The entry is a cell for one session -/

/-- The manager's code leaves the store to its operations. -/
def writes (s s' : AuthState) : Prop := s'.store = s.store

/-- No session without a token is ever saved. -/
def asks (_ : AuthState) : AuthOp → Prop
  | .save session => session.accessToken ≠ ""
  | _ => True

/-- What the cloud sees of an operation. -/
def lower : Exchange AuthOp AuthAnswer → List (Exchange Posting PostingAnswer)
  | ⟨.post scheme path payload token, reply⟩ => [⟨⟨scheme, path, payload, token⟩, reply⟩]
  | _ => []

theorem serves (others : Dict String Json) :
    Coro.Serves entryView serve cloud network writes asks lower
      fun t => ∀ key, key ≠ storageKey → t.data.get? key = others.get? key where
  write t s hinv hwrites := by
    refine ⟨?_, hinv⟩
    have hstore : s.store = load t.data := hwrites
    change s.setStore (load t.data) = s
    rw [← hstore]
    rfl
  answer t op trace result t' hinv hasks hrun := by
    cases op with
    | post scheme path payload token =>
        obtain ⟨reply, u, rest, rfl, hanswer, hrest⟩ := hrun.await_inv
        cases hrest
        obtain ⟨time, htime, rfl⟩ := hanswer
        exact ⟨reply, rfl, ⟨time, htime, rfl⟩, rfl, hinv⟩
    | load =>
        cases hrun with
        | read hrun =>
            cases hrun
            exact ⟨load t.data, rfl, ⟨t.manager.clock, le_rfl, rfl, rfl⟩, rfl, hinv⟩
    | save session =>
        cases hrun with
        | read hrun =>
            cases hrun with
            | write hrun =>
                cases hrun
                refine ⟨(), rfl, ⟨t.manager.clock, le_rfl, ?_⟩, rfl, fun key hkey => ?_⟩
                · change t.manager.setStore (load (save session t.data)) = _
                  rw [load_save hasks]
                  rfl
                · exact (get?_save hkey).trans (hinv key hkey)
    | clear =>
        cases hrun with
        | read hrun =>
            cases hrun with
            | write hrun =>
                cases hrun
                refine ⟨(), rfl, ⟨t.manager.clock, le_rfl, ?_⟩, rfl, fun key hkey => ?_⟩
                · change t.manager.setStore (load (clear t.data)) = _
                  rw [load_clear]
                  rfl
                · exact (get?_clear hkey).trans (hinv key hkey)

/-! ## The manager's methods use the cell as such -/

section Discipline

open Coro (Disciplined)

theorem post_disciplined (scheme : Scheme) (path : String) (payload : Json)
    (token : Option String) :
    Disciplined cloud writes asks (transportPost scheme path payload token) :=
  Disciplined.perform fun _ => trivial

theorem clear_disciplined : Disciplined cloud writes asks storeClear :=
  Disciplined.perform fun _ => trivial

theorem setToken_disciplined (token : Option String) :
    Disciplined cloud writes asks (Coro.modify fun s => s.setToken token : AuthM Unit) :=
  Disciplined.modify fun _ => rfl

theorem note_disciplined (event : AuthState → AuthEvent) :
    Disciplined cloud writes asks (Coro.modify fun s => s.note (event s) : AuthM Unit) :=
  Disciplined.modify fun _ => rfl

theorem asyncLogin_disciplined : Disciplined cloud writes asks asyncLogin := by
  intro s
  simp only [asyncLogin, Coro.audit_bind, Coro.audit_gets, Coro.audit_ite, Coro.audit_throw,
    Coro.audit_modify, transportPost, storeSave, Coro.audit_perform, Coro.audit_ofExcept]
  split
  · trivial
  refine ⟨rfl, trivial, fun reply t _ => ?_⟩
  cases Transport.send (s.config.redactPath epLogin) reply with
  | error exn => trivial
  | ok data =>
      dsimp only
      split
      · trivial
      next htruthy =>
        refine ⟨rfl, ?_, fun _ _ _ => trivial⟩
        exact Json.pyStr_ne_empty (by simpa using htruthy)

theorem asyncGetToken_disciplined : Disciplined cloud writes asks asyncGetToken := by
  apply Disciplined.bind (Disciplined.gets _)
  intro token
  apply Disciplined.ite (Disciplined.pure _)
  apply Disciplined.bind (Disciplined.perform fun _ => trivial)
  intro session
  apply Disciplined.ite
  · exact Disciplined.bind (setToken_disciplined _) fun _ => Disciplined.pure _
  · exact Disciplined.bind (note_disciplined _) fun _ => asyncLogin_disciplined

theorem asyncRelogin_disciplined : Disciplined cloud writes asks asyncRelogin :=
  Disciplined.bind (setToken_disciplined none) fun _ =>
    Disciplined.bind clear_disciplined fun _ => asyncLogin_disciplined

theorem asyncRecover_disciplined : Disciplined cloud writes asks asyncRecover := by
  have hwrites : ∀ s : AuthState, writes s s.noteEviction.2 := fun _ => rfl
  apply Disciplined.bind (Disciplined.modifyGet hwrites)
  intro cooldown
  apply Disciplined.bind (setToken_disciplined none)
  intro _
  apply Disciplined.bind clear_disciplined
  intro _
  apply Disciplined.bind (Disciplined.gets _)
  intro s
  cases s.lastLogin with
  | none => exact asyncLogin_disciplined
  | some lastLogin =>
      apply Disciplined.ite _ asyncLogin_disciplined
      exact Disciplined.bind (note_disciplined _) fun _ => Disciplined.throw _

theorem request_disciplined (attempt : Attempt) (scheme : Scheme) (path : String)
    (payload : Json) (token : Option String) :
    Disciplined cloud writes asks (request attempt scheme path payload token) := by
  apply Disciplined.bind (post_disciplined _ _ _ _)
  intro reply
  apply Disciplined.bind (Disciplined.gets _)
  intro config
  cases Transport.send (config.redactPath path) reply with
  | ok data => exact Disciplined.pure _
  | error exn => exact Disciplined.bind (note_disciplined _) fun _ => Disciplined.throw _

theorem recoverAndRetry_disciplined (scheme : Scheme) (path : String) (payload : Json)
    (exn : Exn) : Disciplined cloud writes asks (recoverAndRetry scheme path payload exn) := by
  cases exn with
  | dollin err =>
      apply Disciplined.ite (Disciplined.throw _)
      apply Disciplined.ite
      · have hwrites : ∀ s : AuthState, writes s s.expiryWithinBudget.2 := fun _ => rfl
        apply Disciplined.bind (Disciplined.modifyGet hwrites)
        intro withinBudget
        apply Disciplined.ite
        · exact Disciplined.bind asyncRelogin_disciplined fun token =>
            request_disciplined _ _ _ _ token
        · exact Disciplined.bind asyncRecover_disciplined fun token =>
            request_disciplined _ _ _ _ token
      apply Disciplined.ite _ (Disciplined.throw _)
      exact Disciplined.bind asyncRecover_disciplined fun token => request_disciplined _ _ _ _ token
  | _ => exact Disciplined.throw _

theorem authenticated_disciplined (scheme : Scheme) (path : String) (payload : Json) :
    Disciplined cloud writes asks (authenticated scheme path payload) :=
  Disciplined.bind asyncGetToken_disciplined fun token =>
    Disciplined.tryCatch (request_disciplined _ _ _ _ token) fun exn =>
      recoverAndRetry_disciplined _ _ _ exn

/-- The token that is saved is the one that has just been set. -/
theorem asyncExtendToken_disciplined : Disciplined cloud writes asks asyncExtendToken := by
  apply Disciplined.bind (authenticated_disciplined _ _ _)
  intro data
  dsimp only
  split
  · exact asyncRelogin_disciplined
  next htruthy =>
    intro s
    simp only [storeLoad, storeSave, Coro.audit_bind, Coro.audit_modify, Coro.audit_perform,
      Coro.audit_gets]
    refine ⟨rfl, trivial, fun session t hanswer => ?_⟩
    obtain ⟨_, _, _, rfl⟩ := hanswer
    refine ⟨?_, fun _ _ _ => trivial⟩
    exact Json.pyStr_ne_empty (by simpa using htruthy)

theorem asyncRefreshToken_disciplined : Disciplined cloud writes asks asyncRefreshToken :=
  Disciplined.bind (Disciplined.modify fun _ => rfl) fun _ => asyncRelogin_disciplined

end Discipline

/-! ## Runs -/

/-- A call of one of the manager's methods. -/
inductive Method
  | authenticated (scheme : Scheme) (path : String) (payload : Json)
  | getToken
  | login
  | extendToken
  | refreshToken

namespace Method

abbrev Result : Method → Type
  | authenticated .. => Members
  | _ => Option String

def run : (method : Method) → AuthM method.Result
  | authenticated scheme path payload => Auth.authenticated scheme path payload
  | getToken => asyncGetToken
  | login => asyncLogin
  | extendToken => asyncExtendToken
  | refreshToken => asyncRefreshToken

theorem run_disciplined (method : Method) :
    Coro.Disciplined cloud writes asks method.run := by
  cases method with
  | authenticated scheme path payload => exact authenticated_disciplined scheme path payload
  | getToken => exact asyncGetToken_disciplined
  | login => exact asyncLogin_disciplined
  | extendToken => exact asyncExtendToken_disciplined
  | refreshToken => exact asyncRefreshToken_disciplined

end Method

/-- The sequential runs of a manager over a cell that starts with the session's token, each method
to its end, with everything that was asked for. -/
inductive ManagerRun (initial : Option String) :
    List Method → List (Exchange AuthOp AuthAnswer) → AuthState → Prop
  | init (config : AuthConfig) (store : Option Session) (clock : ℚ)
      (hstored : store.map Session.accessToken = initial) :
      ManagerRun initial [] [] { config := config, store := store, clock := clock }
  | call {methods : List Method} {trace trace' : List (Exchange AuthOp AuthAnswer)}
      {s s' : AuthState} (method : Method) {result : Except Exn method.Result} (time : ℚ)
      (hrun : ManagerRun initial methods trace s) (htime : s.clock ≤ time)
      (htraced : Coro.Traced cloud method.run (s.advance time) trace' result s') :
      ManagerRun initial (methods ++ [method]) (trace ++ trace') s'

/-- Runs of calls that carry a token are those that refused tokens were followed through. -/
theorem ManagerRun.served {initial : Option String} {methods : List Method}
    {trace : List (Exchange AuthOp AuthAnswer)} {s : AuthState}
    (hrun : ManagerRun initial methods trace s)
    (hcalls : ∀ method ∈ methods, ∃ scheme path payload,
      method = .authenticated scheme path payload) : Served initial trace s := by
  induction hrun with
  | init config store clock hstored => exact .init config store clock hstored
  | call method time _ htime htraced ih =>
      have hserved := ih fun m hm => hcalls m (List.mem_append_left _ hm)
      obtain ⟨scheme, path, payload, rfl⟩ := hcalls method List.mem_concat_self
      exact .call scheme path payload time hserved htime htraced

/-- The same runs of a manager that starts on an entry, with all that the cloud sees. -/
inductive StoredRun (initial : Dict String Json) :
    List Method → List (Exchange Posting PostingAnswer) → EntryState → Prop
  | init (config : AuthConfig) (clock : ℚ) :
      StoredRun initial [] [] { manager := { config := config, clock := clock }, data := initial }
  | call {methods : List Method} {trace trace' : List (Exchange Posting PostingAnswer)}
      {t t' : EntryState} (method : Method) {result : Except Exn method.Result} (time : ℚ)
      (hrun : StoredRun initial methods trace t) (htime : t.manager.clock ≤ time)
      (htraced : Coro.Traced network (stored method.run)
        { t with manager := t.manager.advance time } trace' result t') :
      StoredRun initial (methods ++ [method]) (trace ++ trace') t'

/-- What has happened over the entry is a run of the same methods over the cell: the cloud has
seen its requests, the entry holds what the cell holds, and the other keys of the entry are
untouched.  Where only calls that carry a token were made, it is one of those whose refused
tokens are followed through. -/
structure Refines (initial : Dict String Json) (methods : List Method)
    (trace : List (Exchange Posting PostingAnswer)) (t : EntryState) : Prop where
  simulated : ∃ above,
    ManagerRun ((load initial).map Session.accessToken) methods above (entryView.get t) ∧
      trace = above.flatMap lower ∧
      ((∀ method ∈ methods, ∃ scheme path payload, method = .authenticated scheme path payload) →
        Served ((load initial).map Session.accessToken) above (entryView.get t))
  others : ∀ key, key ≠ storageKey → t.data.get? key = initial.get? key

/-- Every run over the entry is one over the cell. -/
theorem storedRun_refines {initial : Dict String Json} {methods : List Method}
    {trace : List (Exchange Posting PostingAnswer)} {t : EntryState}
    (hrun : StoredRun initial methods trace t) : Refines initial methods trace t := by
  have hsimulated : (∃ above,
      ManagerRun ((load initial).map Session.accessToken) methods above (entryView.get t) ∧
        trace = above.flatMap lower) ∧
      ∀ key, key ≠ storageKey → t.data.get? key = initial.get? key := by
    induction hrun with
    | init config clock =>
        exact ⟨⟨[], .init config (load initial) clock rfl, rfl⟩, fun _ _ => rfl⟩
    | @call _ _ _ t _ method _ time _ htime htraced ih =>
        obtain ⟨⟨above, hmanager, rfl⟩, hothers⟩ := ih
        have hkept : ∀ key, key ≠ storageKey →
            (EntryState.mk (t.manager.advance time) t.data).data.get? key = initial.get? key :=
          hothers
        obtain ⟨hothers', above', htraced', rfl⟩ :=
          (serves initial).traced hkept (method.run_disciplined _) htraced
        refine ⟨⟨above ++ above', ?_, List.flatMap_append.symm⟩, hothers'⟩
        exact .call method time hmanager htime htraced'
  obtain ⟨⟨above, hmanager, htrace⟩, hothers⟩ := hsimulated
  exact ⟨⟨above, hmanager, htrace, hmanager.served⟩, hothers⟩

/-- An entry with a stored session. -/
def signedIn : Dict String Json :=
  Dict.ofList [("account", .str "user"), (storageKey, .obj (record { accessToken := "T" }))]

/-- Every request is answered by an empty success, at once. -/
def succeeding (_ : ℕ) (t : EntryState) (_ : Posting) : HttpReply × EntryState :=
  (.response 200 (some (.obj [])), t)

/-- A manager on that entry. -/
def onSignedIn : EntryState where
  manager := { config := freshManager.config, clock := 0 }
  data := signedIn

theorem storedRun_oneCall :
    Refines signedIn [.authenticated .oem epHomeIndex .null]
      ((stored (oem epHomeIndex .null)).record succeeding 0 onSignedIn)
      ((stored (oem epHomeIndex .null)).play succeeding 0 onSignedIn).2 :=
  storedRun_refines ((StoredRun.init freshManager.config 0).call
    (.authenticated .oem epHomeIndex .null) 0 le_rfl
    (Coro.traced_play succeeding (fun _ t _ => ⟨t.manager.clock, le_rfl, rfl⟩) _ 0 onSignedIn))

end StoredManager

end Holabrain
