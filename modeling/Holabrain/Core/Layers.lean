import Holabrain.Core.Trace

/-!
# Coroutines in layers

A component is verified against an environment that answers its requests.  Below it the
requests are served by code: `layered` runs a coroutine on the state it is kept in, each request
replaced by the coroutine that serves it.  `audit` is the weakest precondition that also asks
what the component writes and requests on the way, and `Serves` says that the code below
answers such a component as its environment does.  Then every run of the whole is a run of
the component, with the same exchanges below it.
-/

namespace Holabrain

/-- How the state of a component is read off a larger one, and put back. -/
structure View (τ σ : Type) where
  get : τ → σ
  set : τ → σ → τ

/-- What is put is read back, replaces what was put before, and leaves alone the rest. -/
structure View.Lawful {τ σ : Type} (view : View τ σ) : Prop where
  get_set : ∀ t s, view.get (view.set t s) = s
  set_set : ∀ t s s', view.set (view.set t s) s' = view.set t s'
  set_get : ∀ t, view.set t (view.get t) = t

namespace Coro

variable {σ τ ι κ ε α β : Type} {ο : ι → Type} {ω : κ → Type}

/-- Run a coroutine on a larger state, each of its requests served by a coroutine below. -/
def layered (view : View τ σ) (serve : (i : ι) → Coro τ κ ω ε (ο i)) :
    Coro σ ι ο ε α → Coro τ κ ω ε α
  | done result => done result
  | read next => read fun t => (next (view.get t)).layered view serve
  | write s next => read fun t => write (view.set t s) (next.layered view serve)
  | await i next => (serve i).bind fun o => (next o).layered view serve

/-- Run a coroutine on a larger state, its requests passed on. -/
def within (view : View τ σ) (pass : ι → κ) (answer : (i : ι) → ω (pass i) → ο i)
    (p : Coro σ ι ο ε α) : Coro τ κ ω ε α :=
  p.layered view fun i => (perform (pass i)).bind fun o => pure (answer i o)

/-- The coroutine ends with a value, whatever it reads and is answered. -/
def Returns : Coro σ ι ο ε α → Prop
  | done result => ∃ a, result = .ok a
  | read next => ∀ s, (next s).Returns
  | write _ next => next.Returns
  | await _ next => ∀ o, (next o).Returns

section Bind

theorem bind_assoc (p : Coro σ ι ο ε α) (f : α → Coro σ ι ο ε β) {γ : Type}
    (g : β → Coro σ ι ο ε γ) : (p.bind f).bind g = p.bind fun a => (f a).bind g := by
  induction p with
  | done result => cases result <;> rfl
  | read next ih => exact congrArg read (funext ih)
  | write t next ih => exact congrArg (write t) ih
  | await i next ih => exact congrArg (await i) (funext ih)

/-- A handler around a part that returns is one around what follows it. -/
theorem handle_bind_of_returns {p : Coro σ ι ο ε α} (hp : p.Returns) (f : α → Coro σ ι ο ε β)
    (h : ε → Coro σ ι ο ε β) : (p.bind f).handle h = p.bind fun a => (f a).handle h := by
  induction p with
  | done result =>
      obtain ⟨a, rfl⟩ := hp
      rfl
  | read next ih => exact congrArg read (funext fun s => ih s (hp s))
  | write t next ih => exact congrArg (write t) (ih hp)
  | await i next ih => exact congrArg (await i) (funext fun o => ih o (hp o))

/-- To keep an exception and raise it again is to let it pass. -/
theorem attempt_bind_ofExcept (p : Coro σ ι ο ε α) : (attempt p >>= ofExcept) = p := by
  change ((p.bind fun a => done (.ok (.ok a))).handle fun e => done (.ok (.error e))).bind
    ofExcept = p
  induction p with
  | done result => cases result <;> rfl
  | read next ih => exact congrArg read (funext ih)
  | write t next ih => exact congrArg (write t) ih
  | await i next ih => exact congrArg (await i) (funext ih)

end Bind

/-! ## The layer below -/

section Over

variable {view : View τ σ} {serve : (i : ι) → Coro τ κ ω ε (ο i)}

@[simp]
theorem layered_pure (a : α) : layered view serve (pure a) = pure a := rfl

@[simp]
theorem layered_throw (e : ε) : layered view serve (throw e : Coro σ ι ο ε α) = throw e := rfl

@[simp]
theorem layered_ofExcept (result : Except ε α) :
    layered view serve (ofExcept result) = ofExcept result := rfl

@[simp]
theorem layered_gets (f : σ → α) :
    layered view serve (gets f) = gets fun t => f (view.get t) := rfl

@[simp]
theorem layered_bind (p : Coro σ ι ο ε α) (f : α → Coro σ ι ο ε β) :
    layered view serve (p >>= f) = layered view serve p >>= fun a => layered view serve (f a) := by
  change layered view serve (p.bind f) = (layered view serve p).bind _
  induction p with
  | done result => cases result <;> rfl
  | read next ih => exact congrArg read (funext fun t => ih (view.get t))
  | write s next ih => exact congrArg read (funext fun t => congrArg (write (view.set t s)) ih)
  | await i next ih =>
      calc layered view serve ((await i next).bind f)
          = (serve i).bind fun o => layered view serve ((next o).bind f) := rfl
        _ = (serve i).bind fun o => (layered view serve (next o)).bind _ :=
            congrArg (serve i).bind (funext ih)
        _ = (layered view serve (await i next)).bind _ := (bind_assoc _ _ _).symm

@[simp]
theorem layered_perform (i : ι) : layered view serve (perform i) = serve i := bind_pure (serve i)

theorem layered_tryCatch (hserve : ∀ i, (serve i).Returns) (p : Coro σ ι ο ε α)
    (h : ε → Coro σ ι ο ε α) :
    layered view serve (tryCatch p h) =
      tryCatch (layered view serve p) fun e => layered view serve (h e) := by
  change layered view serve (p.handle h) = (layered view serve p).handle _
  induction p with
  | done result => cases result <;> rfl
  | read next ih => exact congrArg read (funext fun t => ih (view.get t))
  | write s next ih => exact congrArg read (funext fun t => congrArg (write (view.set t s)) ih)
  | await i next ih =>
      calc layered view serve ((await i next).handle h)
          = (serve i).bind fun o => layered view serve ((next o).handle h) := rfl
        _ = (serve i).bind fun o => (layered view serve (next o)).handle _ :=
            congrArg (serve i).bind (funext ih)
        _ = (layered view serve (await i next)).handle _ :=
            (handle_bind_of_returns (hserve i) _ _).symm

@[simp]
theorem wpt_layered_modify {env : Environment τ κ ω} (f : σ → σ)
    (post : Except ε Unit → List (Exchange κ ω) → τ → Prop) (h : List (Exchange κ ω)) (t : τ) :
    wpt env (layered view serve (modify f)) post h t ↔
      post (.ok ()) h (view.set t (f (view.get t))) := Iff.rfl

theorem layered_ite (c : Prop) [Decidable c] (p q : Coro σ ι ο ε α) :
    layered view serve (if c then p else q) =
      if c then layered view serve p else layered view serve q := by
  split <;> rfl

end Over

/-! ## What a component writes and requests -/

section Audit

variable (env : Environment σ ι ο) (writes : σ → σ → Prop) (asks : σ → ι → Prop)

/-- Every run that ends, ends in `post`; on the way every write and every request is one of
the permitted ones. -/
def audit : Coro σ ι ο ε α → (Except ε α → σ → Prop) → σ → Prop
  | done result, post, s => post result s
  | read next, post, s => (next s).audit post s
  | write t next, post, s => writes s t ∧ next.audit post t
  | await i next, post, s => asks s i ∧ ∀ o t, env s i o t → (next o).audit post t

variable {env writes asks} {s : σ}

@[simp]
theorem audit_pure (a : α) (post : Except ε α → σ → Prop) :
    audit env writes asks (pure a : Coro σ ι ο ε α) post s ↔ post (.ok a) s := Iff.rfl

@[simp]
theorem audit_throw (e : ε) (post : Except ε α → σ → Prop) :
    audit env writes asks (throw e : Coro σ ι ο ε α) post s ↔ post (.error e) s := Iff.rfl

@[simp]
theorem audit_ofExcept (result : Except ε α) (post : Except ε α → σ → Prop) :
    audit env writes asks (ofExcept (ι := ι) (ο := ο) result) post s ↔ post result s := Iff.rfl

@[simp]
theorem audit_gets (f : σ → α) (post : Except ε α → σ → Prop) :
    audit env writes asks (gets (ι := ι) (ο := ο) f) post s ↔ post (.ok (f s)) s := Iff.rfl

@[simp]
theorem audit_modify (f : σ → σ) (post : Except ε Unit → σ → Prop) :
    audit env writes asks (modify (ι := ι) (ο := ο) f) post s ↔
      writes s (f s) ∧ post (.ok ()) (f s) := Iff.rfl

@[simp]
theorem audit_modifyGet (f : σ → α × σ) (post : Except ε α → σ → Prop) :
    audit env writes asks (modifyGet (ι := ι) (ο := ο) f) post s ↔
      writes s (f s).2 ∧ post (.ok (f s).1) (f s).2 := Iff.rfl

@[simp]
theorem audit_perform (i : ι) (post : Except ε (ο i) → σ → Prop) :
    audit env writes asks (perform i) post s ↔
      asks s i ∧ ∀ o t, env s i o t → post (.ok o) t := Iff.rfl

@[simp]
theorem audit_bind (p : Coro σ ι ο ε α) (f : α → Coro σ ι ο ε β)
    (post : Except ε β → σ → Prop) :
    audit env writes asks (p >>= f) post s ↔
      audit env writes asks p (fun result t => match result with
        | .ok a => audit env writes asks (f a) post t
        | .error e => post (.error e) t) s := by
  change audit env writes asks (p.bind f) post s ↔ _
  induction p generalizing s with
  | done result => cases result <;> rfl
  | read next ih => exact ih s
  | write t next ih => exact and_congr_right fun _ => ih
  | await i next ih => exact and_congr_right fun _ => forall₃_congr fun o t _ => ih o

@[simp]
theorem audit_tryCatch (p : Coro σ ι ο ε α) (h : ε → Coro σ ι ο ε α)
    (post : Except ε α → σ → Prop) :
    audit env writes asks (tryCatch p h) post s ↔
      audit env writes asks p (fun result t => match result with
        | .ok a => post (.ok a) t
        | .error e => audit env writes asks (h e) post t) s := by
  change audit env writes asks (p.handle h) post s ↔ _
  induction p generalizing s with
  | done result => cases result <;> rfl
  | read next ih => exact ih s
  | write t next ih => exact and_congr_right fun _ => ih
  | await i next ih => exact and_congr_right fun _ => forall₃_congr fun o t _ => ih o

@[simp]
theorem audit_layered_modify {view : View σ τ} {serve : (i : κ) → Coro σ ι ο ε (ω i)} (f : τ → τ)
    (post : Except ε Unit → σ → Prop) :
    audit env writes asks (layered view serve (modify f)) post s ↔
      writes s (view.set s (f (view.get s))) ∧
        post (.ok ()) (view.set s (f (view.get s))) := Iff.rfl

@[simp]
theorem audit_layered_modifyGet {view : View σ τ} {serve : (i : κ) → Coro σ ι ο ε (ω i)}
    (f : τ → α × τ) (post : Except ε α → σ → Prop) :
    audit env writes asks (layered view serve (modifyGet f)) post s ↔
      writes s (view.set s (f (view.get s)).2) ∧
        post (.ok (f (view.get s)).1) (view.set s (f (view.get s)).2) := Iff.rfl

theorem audit_ite (c : Prop) [Decidable c] (p q : Coro σ ι ο ε α)
    (post : Except ε α → σ → Prop) :
    audit env writes asks (if c then p else q) post s ↔
      if c then audit env writes asks p post s else audit env writes asks q post s := by
  split <;> rfl

theorem audit_mono {p : Coro σ ι ο ε α} {post post' : Except ε α → σ → Prop}
    (hpost : ∀ result t, post result t → post' result t)
    (h : audit env writes asks p post s) : audit env writes asks p post' s := by
  induction p generalizing s with
  | done result => exact hpost _ _ h
  | read next ih => exact ih s h
  | write t next ih => exact ⟨h.1, ih h.2⟩
  | await i next ih => exact ⟨h.1, fun o t henv => ih o (h.2 o t henv)⟩

/-- Wherever it is started, the coroutine writes and requests what is permitted. -/
def Disciplined (env : Environment σ ι ο) (writes : σ → σ → Prop) (asks : σ → ι → Prop)
    (p : Coro σ ι ο ε α) : Prop := ∀ s, audit env writes asks p (fun _ _ => True) s

namespace Disciplined

theorem pure (a : α) : Disciplined env writes asks (pure a : Coro σ ι ο ε α) := fun _ => trivial

theorem throw (e : ε) : Disciplined env writes asks (throw e : Coro σ ι ο ε α) := fun _ => trivial

theorem ofExcept (result : Except ε α) :
    Disciplined env writes asks (ofExcept result : Coro σ ι ο ε α) := fun _ => trivial

theorem gets (f : σ → α) : Disciplined env writes asks (gets f : Coro σ ι ο ε α) :=
  fun _ => trivial

theorem modify {f : σ → σ} (h : ∀ s, writes s (f s)) :
    Disciplined env writes asks (modify f : Coro σ ι ο ε Unit) := fun s => ⟨h s, trivial⟩

theorem modifyGet {f : σ → α × σ} (h : ∀ s, writes s (f s).2) :
    Disciplined env writes asks (modifyGet f : Coro σ ι ο ε α) := fun s => ⟨h s, trivial⟩

theorem perform {i : ι} (h : ∀ s, asks s i) :
    Disciplined env writes asks (perform i : Coro σ ι ο ε (ο i)) :=
  fun s => ⟨h s, fun _ _ _ => trivial⟩

theorem bind {p : Coro σ ι ο ε α} {f : α → Coro σ ι ο ε β} (hp : Disciplined env writes asks p)
    (hf : ∀ a, Disciplined env writes asks (f a)) : Disciplined env writes asks (p >>= f) := by
  intro s
  rw [audit_bind]
  apply audit_mono _ (hp s)
  intro result t _
  cases result with
  | ok a => exact hf a t
  | error e => trivial

theorem tryCatch {p : Coro σ ι ο ε α} {f : ε → Coro σ ι ο ε α}
    (hp : Disciplined env writes asks p) (hf : ∀ e, Disciplined env writes asks (f e)) :
    Disciplined env writes asks (tryCatch p f) := by
  intro s
  rw [audit_tryCatch]
  apply audit_mono _ (hp s)
  intro result t _
  cases result with
  | ok a => trivial
  | error e => exact hf e t

theorem ite {c : Prop} [Decidable c] {p q : Coro σ ι ο ε α}
    (hp : Disciplined env writes asks p) (hq : Disciplined env writes asks q) :
    Disciplined env writes asks (if c then p else q) := by
  split
  · exact hp
  · exact hq

end Disciplined

end Audit

/-! ## The whole simulates the component -/

/-- The code below answers as the environment does, makes the exchanges `lower` names for each
answer, and keeps `inv`; so do the component's own writes. -/
structure Serves (view : View τ σ) (serve : (i : ι) → Coro τ κ ω ε (ο i))
    (env : Environment σ ι ο) (env' : Environment τ κ ω) (writes : σ → σ → Prop)
    (asks : σ → ι → Prop) (lower : Exchange ι ο → List (Exchange κ ω)) (inv : τ → Prop) :
    Prop where
  write : ∀ t s, inv t → writes (view.get t) s → view.get (view.set t s) = s ∧
    inv (view.set t s)
  answer : ∀ t i trace result t', inv t → asks (view.get t) i →
    Traced env' (serve i) t trace result t' →
    ∃ o, result = .ok o ∧ env (view.get t) i o (view.get t') ∧ trace = lower ⟨i, o⟩ ∧ inv t'

namespace Serves

variable {view : View τ σ} {serve : (i : ι) → Coro τ κ ω ε (ο i)} {env : Environment σ ι ο}
  {env' : Environment τ κ ω} {writes : σ → σ → Prop} {asks : σ → ι → Prop}
  {lower : Exchange ι ο → List (Exchange κ ω)} {inv : τ → Prop}

/-- Every run of the whole is a run of the component, with the exchanges it has below. -/
theorem traced (hserves : Serves view serve env env' writes asks lower inv)
    {p : Coro σ ι ο ε α} {post : Except ε α → σ → Prop} {t t' : τ}
    {trace : List (Exchange κ ω)} {result : Except ε α} (hinv : inv t)
    (haudit : audit env writes asks p post (view.get t))
    (hrun : Traced env' (p.layered view serve) t trace result t') :
    inv t' ∧ ∃ above, Traced env p (view.get t) above result (view.get t') ∧
      trace = above.flatMap lower := by
  induction p generalizing t trace with
  | done value =>
      cases hrun
      exact ⟨hinv, [], .done, rfl⟩
  | read next ih =>
      cases hrun with
      | read hrun =>
          obtain ⟨hinv', above, hrun', htrace⟩ := ih _ hinv haudit hrun
          exact ⟨hinv', above, .read hrun', htrace⟩
  | write s next ih =>
      cases hrun with
      | read hrun =>
          cases hrun with
          | write hrun =>
              obtain ⟨hget, hset⟩ := hserves.write t s hinv haudit.1
              have hnext : audit env writes asks next post (view.get (view.set t s)) := by
                rw [hget]
                exact haudit.2
              obtain ⟨hinv', above, hrun', htrace⟩ := ih hset hnext hrun
              rw [hget] at hrun'
              exact ⟨hinv', above, .write hrun', htrace⟩
  | await i next ih =>
      have hrun : Traced env' (serve i >>= fun o => (next o).layered view serve) t trace
          result t' := hrun
      obtain ⟨first, rest, mid, u, rfl, hserved, hrest⟩ := hrun.bind_inv
      obtain ⟨o, rfl, henv, hfirst, hu⟩ :=
        hserves.answer t i first mid u hinv haudit.1 hserved
      obtain ⟨hinv', above, hrun', hrest'⟩ := ih o hu (haudit.2 o _ henv) hrest
      refine ⟨hinv', ⟨i, o⟩ :: above, .await henv hrun', ?_⟩
      rw [List.flatMap_cons, ← hfirst, ← hrest']

end Serves

end Coro

end Holabrain
