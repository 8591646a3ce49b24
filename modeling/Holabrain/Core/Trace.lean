import Holabrain.Core.Coroutine

/-!
# Traces of a coroutine

What a coroutine asked for, and what it was answered, in order.  `Traced` is the big-step
semantics with that record, `wpt` the weakest precondition whose postcondition speaks about
the record as well as about the state: it is what properties of requests are proved with that
no state keeps a memory of.
-/

namespace Holabrain

/-- One request with its answer. -/
abbrev Exchange (ι : Type) (ο : ι → Type) := Sigma ο

namespace Coro

variable {σ ι : Type} {ο : ι → Type} {ε α β : Type}

/-- `Traced env p s trace result s'`: started in `s`, the coroutine makes the requests of
`trace`, is answered as recorded there and ends with `result` in `s'`. -/
inductive Traced (env : Environment σ ι ο) :
    Coro σ ι ο ε α → σ → List (Exchange ι ο) → Except ε α → σ → Prop
  | done {result s} : Traced env (.done result) s [] result s
  | read {next s trace result s'} : Traced env (next s) s trace result s' →
      Traced env (.read next) s trace result s'
  | write {t next s trace result s'} : Traced env next t trace result s' →
      Traced env (.write t next) s trace result s'
  | await {i next s o t trace result s'} : env s i o t →
      Traced env (next o) t trace result s' →
      Traced env (.await i next) s (⟨i, o⟩ :: trace) result s'

/-- A run that awaits first has that request at the head of its record. -/
theorem Traced.await_inv {env : Environment σ ι ο} {i : ι} {next : ο i → Coro σ ι ο ε α}
    {s s' : σ} {trace : List (Exchange ι ο)} {result : Except ε α}
    (h : Traced env (.await i next) s trace result s') :
    ∃ o t rest, trace = ⟨i, o⟩ :: rest ∧ env s i o t ∧ Traced env (next o) t rest result s' := by
  cases h with
  | await henv hnext => exact ⟨_, _, _, rfl, henv, hnext⟩

/-- A run of a composition is a run of the first part and, where that returns, one of the
second. -/
theorem Traced.bind_inv {env : Environment σ ι ο} {p : Coro σ ι ο ε α}
    {f : α → Coro σ ι ο ε β} {s s' : σ} {trace : List (Exchange ι ο)} {result : Except ε β}
    (h : Traced env (p >>= f) s trace result s') :
    ∃ first rest mid t, trace = first ++ rest ∧ Traced env p s first mid t ∧
      match mid with
      | .ok a => Traced env (f a) t rest result s'
      | .error e => rest = [] ∧ result = .error e ∧ s' = t := by
  change Traced env (p.bind f) s trace result s' at h
  induction p generalizing s trace with
  | done mid =>
      refine ⟨[], trace, mid, s, rfl, .done, ?_⟩
      cases mid with
      | ok a => exact h
      | error e =>
          cases h
          exact ⟨rfl, rfl, rfl⟩
  | read next ih =>
      cases h with
      | read hnext =>
          obtain ⟨first, rest, mid, t, htrace, hfirst, hrest⟩ := ih s hnext
          exact ⟨first, rest, mid, t, htrace, .read hfirst, hrest⟩
  | write u next ih =>
      cases h with
      | write hnext =>
          obtain ⟨first, rest, mid, t, htrace, hfirst, hrest⟩ := ih hnext
          exact ⟨first, rest, mid, t, htrace, .write hfirst, hrest⟩
  | await i next ih =>
      obtain ⟨o, u, tail, rfl, henv, hnext⟩ := h.await_inv
      obtain ⟨first, rest, mid, t, rfl, hfirst, hrest⟩ := ih o hnext
      exact ⟨⟨i, o⟩ :: first, rest, mid, t, rfl, .await henv hfirst, hrest⟩

/-- A run of a handled part is a run of the part and, where that raises, one of the handler. -/
theorem Traced.tryCatch_inv {env : Environment σ ι ο} {p : Coro σ ι ο ε α}
    {f : ε → Coro σ ι ο ε α} {s s' : σ} {trace : List (Exchange ι ο)} {result : Except ε α}
    (h : Traced env (tryCatch p f) s trace result s') :
    ∃ first rest mid t, trace = first ++ rest ∧ Traced env p s first mid t ∧
      match mid with
      | .ok a => rest = [] ∧ result = .ok a ∧ s' = t
      | .error e => Traced env (f e) t rest result s' := by
  change Traced env (p.handle f) s trace result s' at h
  induction p generalizing s trace with
  | done mid =>
      refine ⟨[], trace, mid, s, rfl, .done, ?_⟩
      cases mid with
      | ok a =>
          cases h
          exact ⟨rfl, rfl, rfl⟩
      | error e => exact h
  | read next ih =>
      cases h with
      | read hnext =>
          obtain ⟨first, rest, mid, t, htrace, hfirst, hrest⟩ := ih s hnext
          exact ⟨first, rest, mid, t, htrace, .read hfirst, hrest⟩
  | write u next ih =>
      cases h with
      | write hnext =>
          obtain ⟨first, rest, mid, t, htrace, hfirst, hrest⟩ := ih hnext
          exact ⟨first, rest, mid, t, htrace, .write hfirst, hrest⟩
  | await i next ih =>
      obtain ⟨o, u, tail, rfl, henv, hnext⟩ := h.await_inv
      obtain ⟨first, rest, mid, t, rfl, hfirst, hrest⟩ := ih o hnext
      exact ⟨⟨i, o⟩ :: first, rest, mid, t, rfl, .await henv hfirst, hrest⟩

/-- An update of the state leaves no record. -/
theorem Traced.modifyGet_inv {env : Environment σ ι ο} {f : σ → α × σ}
    {k : α → Coro σ ι ο ε β} {s s' : σ} {trace : List (Exchange ι ο)} {result : Except ε β}
    (h : Traced env (modifyGet f >>= k) s trace result s') :
    Traced env (k (f s).1) (f s).2 trace result s' := by
  cases h with
  | read h =>
      cases h with
      | write h => exact h

/-- The record takes nothing away from the semantics. -/
theorem exec_iff_traced {env : Environment σ ι ο} {p : Coro σ ι ο ε α} {s s' : σ}
    {result : Except ε α} :
    Exec env p s result s' ↔ ∃ trace, Traced env p s trace result s' := by
  constructor
  · intro hexec
    induction hexec with
    | done => exact ⟨[], .done⟩
    | read _ ih =>
        obtain ⟨trace, htraced⟩ := ih
        exact ⟨trace, .read htraced⟩
    | write _ ih =>
        obtain ⟨trace, htraced⟩ := ih
        exact ⟨trace, .write htraced⟩
    | await henv _ ih =>
        obtain ⟨trace, htraced⟩ := ih
        exact ⟨_, .await henv htraced⟩
  · intro h
    obtain ⟨trace, htraced⟩ := h
    induction htraced with
    | done => exact .done
    | read _ ih => exact .read ih
    | write _ ih => exact .write ih
    | await henv _ ih => exact .await henv ih

/-! ## Runs that are cut off -/

/-- `Begun env p s trace s'`: started in `s`, the coroutine has made the requests of `trace`,
has been answered as recorded there and stands in `s'`, where it may be cut off. -/
inductive Begun (env : Environment σ ι ο) :
    Coro σ ι ο ε α → σ → List (Exchange ι ο) → σ → Prop
  | here {p s} : Begun env p s [] s
  | read {next s trace s'} : Begun env (next s) s trace s' → Begun env (.read next) s trace s'
  | write {t next s trace s'} : Begun env next t trace s' →
      Begun env (.write t next) s trace s'
  | await {i next s o t trace s'} : env s i o t → Begun env (next o) t trace s' →
      Begun env (.await i next) s (⟨i, o⟩ :: trace) s'

/-- Where every request can be answered, every coroutine can be run to its end. -/
theorem exists_traced {env : Environment σ ι ο} (hserial : ∀ s i, ∃ o t, env s i o t)
    (p : Coro σ ι ο ε α) (s : σ) : ∃ trace result s', Traced env p s trace result s' := by
  induction p generalizing s with
  | done result => exact ⟨[], result, s, .done⟩
  | read next ih =>
      obtain ⟨trace, result, s', htraced⟩ := ih s s
      exact ⟨trace, result, s', .read htraced⟩
  | write t next ih =>
      obtain ⟨trace, result, s', htraced⟩ := ih t
      exact ⟨trace, result, s', .write htraced⟩
  | await i next ih =>
      obtain ⟨o, t, henv⟩ := hserial s i
      obtain ⟨trace, result, s', htraced⟩ := ih o t
      exact ⟨_, result, s', .await henv htraced⟩

/-- What has been asked so far is the beginning of what a whole run asks. -/
theorem Begun.traced {env : Environment σ ι ο} (hserial : ∀ s i, ∃ o t, env s i o t)
    {p : Coro σ ι ο ε α} {s t : σ} {trace : List (Exchange ι ο)} (h : Begun env p s trace t) :
    ∃ rest result s', Traced env p s (trace ++ rest) result s' := by
  induction h with
  | @here p s => exact exists_traced hserial p s
  | read _ ih =>
      obtain ⟨rest, result, s', htraced⟩ := ih
      exact ⟨rest, result, s', .read htraced⟩
  | write _ ih =>
      obtain ⟨rest, result, s', htraced⟩ := ih
      exact ⟨rest, result, s', .write htraced⟩
  | await henv _ ih =>
      obtain ⟨rest, result, s', htraced⟩ := ih
      exact ⟨rest, result, s', .await henv htraced⟩

/-- A whole run has begun. -/
theorem Traced.begun {env : Environment σ ι ο} {p : Coro σ ι ο ε α} {s s' : σ}
    {trace : List (Exchange ι ο)} {result : Except ε α} (h : Traced env p s trace result s') :
    Begun env p s trace s' := by
  induction h with
  | done => exact .here
  | read _ ih => exact .read ih
  | write _ ih => exact .write ih
  | await henv _ ih => exact .await henv ih

/-! ## Weakest preconditions with a record -/

section WeakestPrecondition

variable (env : Environment σ ι ο)

/-- Every run that starts in `s` after the exchanges `h` and ends, ends in `post`. -/
def wpt : Coro σ ι ο ε α → (Except ε α → List (Exchange ι ο) → σ → Prop) →
    List (Exchange ι ο) → σ → Prop
  | done result, post, h, s => post result h s
  | read next, post, h, s => (next s).wpt post h s
  | write t next, post, h, _ => next.wpt post h t
  | await i next, post, h, s => ∀ o t, env s i o t → (next o).wpt post (h ++ [⟨i, o⟩]) t

variable {env} {h : List (Exchange ι ο)} {s : σ}

@[simp]
theorem wpt_pure (a : α) (post : Except ε α → List (Exchange ι ο) → σ → Prop) :
    wpt env (pure a : Coro σ ι ο ε α) post h s ↔ post (.ok a) h s := Iff.rfl

@[simp]
theorem wpt_throw (e : ε) (post : Except ε α → List (Exchange ι ο) → σ → Prop) :
    wpt env (throw e : Coro σ ι ο ε α) post h s ↔ post (.error e) h s := Iff.rfl

@[simp]
theorem wpt_ofExcept (result : Except ε α)
    (post : Except ε α → List (Exchange ι ο) → σ → Prop) :
    wpt env (ofExcept (ι := ι) (ο := ο) result) post h s ↔ post result h s := Iff.rfl

@[simp]
theorem wpt_gets (f : σ → α) (post : Except ε α → List (Exchange ι ο) → σ → Prop) :
    wpt env (gets (ι := ι) (ο := ο) f) post h s ↔ post (.ok (f s)) h s := Iff.rfl

@[simp]
theorem wpt_modify (f : σ → σ) (post : Except ε Unit → List (Exchange ι ο) → σ → Prop) :
    wpt env (modify (ι := ι) (ο := ο) f) post h s ↔ post (.ok ()) h (f s) := Iff.rfl

@[simp]
theorem wpt_modifyGet (f : σ → α × σ) (post : Except ε α → List (Exchange ι ο) → σ → Prop) :
    wpt env (modifyGet (ι := ι) (ο := ο) f) post h s ↔ post (.ok (f s).1) h (f s).2 := Iff.rfl

@[simp]
theorem wpt_perform (i : ι) (post : Except ε (ο i) → List (Exchange ι ο) → σ → Prop) :
    wpt env (perform i) post h s ↔
      ∀ o t, env s i o t → post (.ok o) (h ++ [⟨i, o⟩]) t := Iff.rfl

@[simp]
theorem wpt_bind (p : Coro σ ι ο ε α) (f : α → Coro σ ι ο ε β)
    (post : Except ε β → List (Exchange ι ο) → σ → Prop) :
    wpt env (p >>= f) post h s ↔
      wpt env p (fun result h' s' => match result with
        | .ok a => wpt env (f a) post h' s'
        | .error e => post (.error e) h' s') h s := by
  change wpt env (p.bind f) post h s ↔ _
  induction p generalizing h s with
  | done result => cases result <;> rfl
  | read next ih => exact ih s
  | write t next ih => exact ih
  | await i next ih => exact forall₃_congr fun o t _ => ih o

@[simp]
theorem wpt_tryCatch (p : Coro σ ι ο ε α) (f : ε → Coro σ ι ο ε α)
    (post : Except ε α → List (Exchange ι ο) → σ → Prop) :
    wpt env (tryCatch p f) post h s ↔
      wpt env p (fun result h' s' => match result with
        | .ok a => post (.ok a) h' s'
        | .error e => wpt env (f e) post h' s') h s := by
  change wpt env (p.handle f) post h s ↔ _
  induction p generalizing h s with
  | done result => cases result <;> rfl
  | read next ih => exact ih s
  | write t next ih => exact ih
  | await i next ih => exact forall₃_congr fun o t _ => ih o

@[simp]
theorem wpt_attempt (p : Coro σ ι ο ε α)
    (post : Except ε (Except ε α) → List (Exchange ι ο) → σ → Prop) :
    wpt env (attempt p) post h s ↔ wpt env p (fun result h' s' => post (.ok result) h' s') h s := by
  simp only [attempt, wpt_tryCatch, wpt_bind, wpt_pure]
  induction p generalizing h s with
  | done result => cases result <;> rfl
  | read next ih => exact ih s
  | write t next ih => exact ih
  | await i next ih => exact forall₃_congr fun o t _ => ih o

theorem wpt_ite (c : Prop) [Decidable c] (p q : Coro σ ι ο ε α)
    (post : Except ε α → List (Exchange ι ο) → σ → Prop) :
    wpt env (if c then p else q) post h s ↔
      if c then wpt env p post h s else wpt env q post h s := by
  split <;> rfl

theorem wpt_mono {p : Coro σ ι ο ε α}
    {post post' : Except ε α → List (Exchange ι ο) → σ → Prop}
    (hpost : ∀ result h' s', post result h' s' → post' result h' s')
    (hwp : wpt env p post h s) : wpt env p post' h s := by
  induction p generalizing h s with
  | done result => exact hpost _ _ _ hwp
  | read next ih => exact ih s hwp
  | write t next ih => exact ih hwp
  | await i next ih => exact fun o t henv => ih o (hwp o t henv)

/-- Without its record the calculus is the one of the states alone. -/
theorem wp_iff_wpt (h : List (Exchange ι ο)) {p : Coro σ ι ο ε α}
    {post : Except ε α → σ → Prop} :
    wp env p post s ↔ wpt env p (fun result _ s' => post result s') h s := by
  induction p generalizing h s with
  | done result => rfl
  | read next ih => exact ih s h
  | write t next ih => exact ih h
  | await i next ih => exact forall₃_congr fun o t _ => ih o (h ++ [⟨i, o⟩])

/-- The postcondition holds wherever a recorded run ends. -/
theorem Traced.post {p : Coro σ ι ο ε α} {trace : List (Exchange ι ο)} {s' : σ}
    {result : Except ε α} {post : Except ε α → List (Exchange ι ο) → σ → Prop}
    (htraced : Traced env p s trace result s') (hwp : wpt env p post h s) :
    post result (h ++ trace) s' := by
  induction htraced generalizing h with
  | done =>
      rw [List.append_nil]
      exact hwp
  | read _ ih => exact ih hwp
  | write _ ih => exact ih hwp
  | await henv _ ih =>
      rw [List.append_cons]
      exact ih (hwp _ _ henv)

end WeakestPrecondition

/-! ## Concrete runs -/

/-- What a coroutine asks of an environment that computes its `n`-th answer. -/
def record (answer : ℕ → σ → (i : ι) → ο i × σ) :
    Coro σ ι ο ε α → ℕ → σ → List (Exchange ι ο)
  | .done _, _, _ => []
  | .read next, n, s => (next s).record answer n s
  | .write t next, n, _ => next.record answer n t
  | .await i next, n, s =>
      ⟨i, (answer n s i).1⟩ ::
        (next (answer n s i).1).record answer (n + 1) (answer n s i).2

theorem traced_play {env : Environment σ ι ο} (answer : ℕ → σ → (i : ι) → ο i × σ)
    (hanswer : ∀ n s i, env s i (answer n s i).1 (answer n s i).2)
    (p : Coro σ ι ο ε α) (n : ℕ) (s : σ) :
    Traced env p s (p.record answer n s) (p.play answer n s).1 (p.play answer n s).2 := by
  induction p generalizing n s with
  | done result => exact .done
  | read next ih => exact .read (ih s n s)
  | write t next ih => exact .write (ih n t)
  | await i next ih => exact .await (hanswer n s i) (ih _ (n + 1) _)

end Coro

end Holabrain
