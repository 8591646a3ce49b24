import Mathlib.Data.Nat.Notation

/-!
# Cooperative coroutines

A coroutine works on a shared state and suspends only where it awaits a request.  Between
two suspensions nothing else runs, so everything it reads and writes there is one atomic
block; at a suspension the environment performs the request, answers it and may change the
state.  `Exec` is the big-step semantics of a coroutine that runs alone, `wp` the weakest
precondition it is verified with, and `play` runs it against a computable environment.
-/

namespace Holabrain

/-- A coroutine over states `σ` that awaits requests `i : ι`, each answered by an `ο i`, and
ends with a result or an exception. -/
inductive Coro (σ ι : Type) (ο : ι → Type) (ε α : Type) : Type
  | done (result : Except ε α)
  | read (next : σ → Coro σ ι ο ε α)
  | write (state : σ) (next : Coro σ ι ο ε α)
  | await (request : ι) (next : ο request → Coro σ ι ο ε α)

/-- What the outside may do at a suspension: in state `s` it answers request `i` by `o` and
leaves the state as `s'`. -/
abbrev Environment (σ ι : Type) (ο : ι → Type) := σ → (i : ι) → ο i → σ → Prop

namespace Coro

variable {σ ι : Type} {ο : ι → Type} {ε α β : Type}

def bind : Coro σ ι ο ε α → (α → Coro σ ι ο ε β) → Coro σ ι ο ε β
  | done (.ok a), f => f a
  | done (.error e), _ => done (.error e)
  | read next, f => read fun s => (next s).bind f
  | write s next, f => write s (next.bind f)
  | await i next, f => await i fun o => (next o).bind f

def handle : Coro σ ι ο ε α → (ε → Coro σ ι ο ε α) → Coro σ ι ο ε α
  | done (.ok a), _ => done (.ok a)
  | done (.error e), h => h e
  | read next, h => read fun s => (next s).handle h
  | write s next, h => write s (next.handle h)
  | await i next, h => await i fun o => (next o).handle h

instance : Monad (Coro σ ι ο ε) where
  pure a := done (.ok a)
  bind := bind

instance : MonadExceptOf ε (Coro σ ι ο ε) where
  throw e := done (.error e)
  tryCatch := handle

/-- End with a value or an exception that is already known. -/
def ofExcept (result : Except ε α) : Coro σ ι ο ε α := done result

/-- Read a part of the state. -/
def gets (f : σ → α) : Coro σ ι ο ε α := read fun s => done (.ok (f s))

def modify (f : σ → σ) : Coro σ ι ο ε Unit := read fun s => write (f s) (done (.ok ()))

def modifyGet (f : σ → α × σ) : Coro σ ι ο ε α :=
  read fun s => write (f s).2 (done (.ok (f s).1))

/-- Suspend until the request is answered. -/
def perform (i : ι) : Coro σ ι ο ε (ο i) := await i fun o => done (.ok o)

/-- Run a part and keep its exception as a value. -/
def attempt (p : Coro σ ι ο ε α) : Coro σ ι ο ε (Except ε α) :=
  tryCatch (p >>= fun a => pure (.ok a)) fun e => pure (.error e)

theorem gets_bind (f : σ → α) (k : α → Coro σ ι ο ε β) :
    (gets f >>= k) = read fun s => k (f s) := rfl

theorem ofExcept_ok_bind (a : α) (k : α → Coro σ ι ο ε β) :
    (ofExcept (.ok a) >>= k) = k a := rfl

theorem bind_pure (p : Coro σ ι ο ε α) : p >>= Pure.pure = p := by
  induction p with
  | done result => cases result <;> rfl
  | read next ih => exact congrArg read (funext ih)
  | write t next ih => exact congrArg (write t) ih
  | await i next ih => exact congrArg (await i) (funext ih)

theorem ofExcept_error_bind (e : ε) (k : α → Coro σ ι ο ε β) :
    (ofExcept (.error e) >>= k) = throw e := rfl

/-! ## Weakest preconditions -/

section WeakestPrecondition

variable (env : Environment σ ι ο)

/-- Every run of the coroutine that starts in `s` and ends, ends in `post`. -/
def wp : Coro σ ι ο ε α → (Except ε α → σ → Prop) → σ → Prop
  | done result, post, s => post result s
  | read next, post, s => (next s).wp post s
  | write s' next, post, _ => next.wp post s'
  | await i next, post, s => ∀ o s', env s i o s' → (next o).wp post s'

variable {env}

@[simp]
theorem wp_pure (a : α) (post : Except ε α → σ → Prop) (s : σ) :
    wp env (pure a : Coro σ ι ο ε α) post s ↔ post (.ok a) s := Iff.rfl

@[simp]
theorem wp_throw (e : ε) (post : Except ε α → σ → Prop) (s : σ) :
    wp env (throw e : Coro σ ι ο ε α) post s ↔ post (.error e) s := Iff.rfl

@[simp]
theorem wp_ofExcept (result : Except ε α) (post : Except ε α → σ → Prop) (s : σ) :
    wp env (ofExcept (ι := ι) (ο := ο) result) post s ↔ post result s := Iff.rfl

@[simp]
theorem wp_gets (f : σ → α) (post : Except ε α → σ → Prop) (s : σ) :
    wp env (gets (ι := ι) (ο := ο) f) post s ↔ post (.ok (f s)) s := Iff.rfl

@[simp]
theorem wp_modify (f : σ → σ) (post : Except ε Unit → σ → Prop) (s : σ) :
    wp env (modify (ι := ι) (ο := ο) f) post s ↔ post (.ok ()) (f s) := Iff.rfl

@[simp]
theorem wp_modifyGet (f : σ → α × σ) (post : Except ε α → σ → Prop) (s : σ) :
    wp env (modifyGet (ι := ι) (ο := ο) f) post s ↔ post (.ok (f s).1) (f s).2 := Iff.rfl

@[simp]
theorem wp_perform (i : ι) (post : Except ε (ο i) → σ → Prop) (s : σ) :
    wp env (perform i) post s ↔ ∀ o s', env s i o s' → post (.ok o) s' := Iff.rfl

/-- After a sequential composition the second part starts where the first returned. -/
@[simp]
theorem wp_bind (p : Coro σ ι ο ε α) (f : α → Coro σ ι ο ε β)
    (post : Except ε β → σ → Prop) (s : σ) :
    wp env (p >>= f) post s ↔
      wp env p (fun result s' => match result with
        | .ok a => wp env (f a) post s'
        | .error e => post (.error e) s') s := by
  change wp env (p.bind f) post s ↔ _
  induction p generalizing s with
  | done result => cases result <;> rfl
  | read next ih => exact ih s s
  | write s' next ih => exact ih s'
  | await i next ih => exact forall₃_congr fun o s' _ => ih o s'

@[simp]
theorem wp_tryCatch (p : Coro σ ι ο ε α) (h : ε → Coro σ ι ο ε α)
    (post : Except ε α → σ → Prop) (s : σ) :
    wp env (tryCatch p h) post s ↔
      wp env p (fun result s' => match result with
        | .ok a => post (.ok a) s'
        | .error e => wp env (h e) post s') s := by
  change wp env (p.handle h) post s ↔ _
  induction p generalizing s with
  | done result => cases result <;> rfl
  | read next ih => exact ih s s
  | write s' next ih => exact ih s'
  | await i next ih => exact forall₃_congr fun o s' _ => ih o s'

@[simp]
theorem wp_attempt (p : Coro σ ι ο ε α) (post : Except ε (Except ε α) → σ → Prop) (s : σ) :
    wp env (attempt p) post s ↔ wp env p (fun result s' => post (.ok result) s') s := by
  simp only [attempt, wp_tryCatch, wp_bind, wp_pure]
  induction p generalizing s with
  | done result => cases result <;> rfl
  | read next ih => exact ih s s
  | write s' next ih => exact ih s'
  | await i next ih => exact forall₃_congr fun o s' _ => ih o s'

theorem wp_ite (c : Prop) [Decidable c] (p q : Coro σ ι ο ε α)
    (post : Except ε α → σ → Prop) (s : σ) :
    wp env (if c then p else q) post s ↔ if c then wp env p post s else wp env q post s := by
  split <;> rfl

theorem wp_mono {p : Coro σ ι ο ε α} {post post' : Except ε α → σ → Prop} {s : σ}
    (hpost : ∀ result s', post result s' → post' result s') (h : wp env p post s) :
    wp env p post' s := by
  induction p generalizing s with
  | done result => exact hpost _ _ h
  | read next ih => exact ih s h
  | write s' next ih => exact ih h
  | await i next ih => exact fun o s' henv => ih o (h o s' henv)

/-- What holds against an environment holds against one that does less. -/
theorem wp_of_env {env' : Environment σ ι ο} {p : Coro σ ι ο ε α}
    {post : Except ε α → σ → Prop} {s : σ}
    (henv : ∀ s i o t, env' s i o t → env s i o t) (h : wp env p post s) :
    wp env' p post s := by
  induction p generalizing s with
  | done result => exact h
  | read next ih => exact ih s h
  | write s' next ih => exact ih h
  | await i next ih => exact fun o s' hanswer => ih o (h o s' (henv _ _ _ _ hanswer))

end WeakestPrecondition

/-! ## Requests -/

/-- Some run of the coroutine, whatever it is answered, awaits the request. -/
def Requests (j : ι) : Coro σ ι ο ε α → σ → Prop
  | done _, _ => False
  | read next, s => (next s).Requests j s
  | write t next, _ => next.Requests j t
  | await i next, _ => i = j ∨ ∃ o t, (next o).Requests j t

section Requests

variable {j : ι}

@[simp]
theorem requests_gets_bind (f : σ → β) (k : β → Coro σ ι ο ε α) (s : σ) :
    Requests j (gets f >>= k) s ↔ Requests j (k (f s)) s := Iff.rfl

@[simp]
theorem requests_ofExcept_bind (result : Except ε β) (k : β → Coro σ ι ο ε α) (s : σ) :
    Requests j (ofExcept result >>= k) s ↔ ∃ b, result = .ok b ∧ Requests j (k b) s := by
  cases result with
  | ok b =>
      constructor
      · exact fun h => ⟨b, rfl, h⟩
      · intro h
        obtain ⟨_, heq, hb⟩ := h
        cases heq
        exact hb
  | error e =>
      constructor
      · exact fun h => h.elim
      · intro h
        obtain ⟨_, heq, _⟩ := h
        cases heq

/-- What the first part requests, the whole requests. -/
theorem Requests.bind {p : Coro σ ι ο ε β} {s : σ} (h : p.Requests j s)
    (k : β → Coro σ ι ο ε α) : (p >>= k).Requests j s := by
  change (p.bind k).Requests j s
  induction p generalizing s with
  | done result => exact h.elim
  | read next ih => exact ih s h
  | write t next ih => exact ih h
  | await i next ih =>
      apply h.imp id
      intro hnext
      obtain ⟨o, t, ho⟩ := hnext
      exact ⟨o, t, ih o ho⟩

end Requests

/-! ## Runs of a coroutine on its own -/

/-- `Exec env p s result s'`: started in `s`, the coroutine ends with `result` in `s'`. -/
inductive Exec (env : Environment σ ι ο) :
    Coro σ ι ο ε α → σ → Except ε α → σ → Prop
  | done {result s} : Exec env (.done result) s result s
  | read {next s result s'} : Exec env (next s) s result s' →
      Exec env (.read next) s result s'
  | write {t next s result s'} : Exec env next t result s' →
      Exec env (.write t next) s result s'
  | await {i next s o t result s'} : env s i o t → Exec env (next o) t result s' →
      Exec env (.await i next) s result s'

/-- The weakest precondition speaks about exactly the runs of the big-step semantics. -/
theorem wp_iff_forall_exec (env : Environment σ ι ο) (p : Coro σ ι ο ε α)
    (post : Except ε α → σ → Prop) (s : σ) :
    wp env p post s ↔ ∀ result s', Exec env p s result s' → post result s' := by
  constructor
  · intro h result s' hexec
    induction hexec with
    | done => exact h
    | read _ ih => exact ih h
    | write _ ih => exact ih h
    | await henv _ ih => exact ih (h _ _ henv)
  · intro h
    induction p generalizing s with
    | done result => exact h _ _ .done
    | read next ih => exact ih s s fun result s' hexec => h _ _ (.read hexec)
    | write t next ih => exact ih t fun result s' hexec => h _ _ (.write hexec)
    | await i next ih =>
        exact fun o t henv => ih o t fun result s' hexec => h _ _ (.await henv hexec)

/-- The postcondition of a verified coroutine holds wherever a run of it ends. -/
theorem Exec.post {env : Environment σ ι ο} {p : Coro σ ι ο ε α} {s s' : σ}
    {result : Except ε α} {post : Except ε α → σ → Prop}
    (hexec : Exec env p s result s') (h : wp env p post s) : post result s' :=
  (wp_iff_forall_exec env p post s).mp h _ _ hexec

/-- Run a coroutine against an environment that computes its `n`-th answer. -/
def play (answer : ℕ → σ → (i : ι) → ο i × σ) :
    Coro σ ι ο ε α → ℕ → σ → Except ε α × σ
  | .done result, _, s => (result, s)
  | .read next, n, s => (next s).play answer n s
  | .write t next, n, _ => next.play answer n t
  | .await i next, n, s => (next (answer n s i).1).play answer (n + 1) (answer n s i).2

theorem exec_play {env : Environment σ ι ο} (answer : ℕ → σ → (i : ι) → ο i × σ)
    (hanswer : ∀ n s i, env s i (answer n s i).1 (answer n s i).2)
    (p : Coro σ ι ο ε α) (n : ℕ) (s : σ) :
    Exec env p s (p.play answer n s).1 (p.play answer n s).2 := by
  induction p generalizing n s with
  | done result => exact .done
  | read next ih => exact .read (ih s n s)
  | write t next ih => exact .write (ih n t)
  | await i next ih => exact .await (hanswer n s i) (ih _ (n + 1) _)

end Coro

end Holabrain
