import Holabrain.Core.Coroutine

/-!
# What a coroutine throws

`Throws env raised p` bounds the exceptions of a coroutine wherever it is started.  The rules
follow the constructors, so that the bound of a method is put together from the bounds of what
it calls.
-/

namespace Holabrain

namespace Coro

variable {σ ι α β ε : Type} {ο : ι → Type} {env : Environment σ ι ο} {raised raised' : ε → Prop}

/-- Whatever state it is started in, an exception of the coroutine is one of these. -/
def Throws (env : Environment σ ι ο) (raised : ε → Prop) (p : Coro σ ι ο ε α) : Prop :=
  ∀ s, wp env p (fun result _ => ∀ e, result = .error e → raised e) s

namespace Throws

theorem mono {p : Coro σ ι ο ε α} (h : ∀ e, raised e → raised' e) (hp : Throws env raised p) :
    Throws env raised' p :=
  fun s => wp_mono (fun _ _ hresult e herror => h e (hresult e herror)) (hp s)

theorem pure (a : α) : Throws env raised (pure a : Coro σ ι ο ε α) := by
  intro s e herror
  cases herror

theorem throw {e : ε} (h : raised e) : Throws env raised (throw e : Coro σ ι ο ε α) := by
  intro s e' herror
  cases herror
  exact h

theorem ofExcept {result : Except ε α} (h : ∀ e, result = .error e → raised e) :
    Throws env raised (ofExcept result : Coro σ ι ο ε α) := fun _ => h

theorem gets (f : σ → α) : Throws env raised (gets f : Coro σ ι ο ε α) := by
  intro s e herror
  cases herror

theorem modify (f : σ → σ) : Throws env raised (modify f : Coro σ ι ο ε Unit) := by
  intro s e herror
  cases herror

theorem modifyGet (f : σ → α × σ) : Throws env raised (modifyGet f : Coro σ ι ο ε α) := by
  intro s e herror
  cases herror

theorem perform (i : ι) : Throws env raised (perform i : Coro σ ι ο ε (ο i)) := by
  intro s o t _ e herror
  cases herror

theorem bind {p : Coro σ ι ο ε α} {f : α → Coro σ ι ο ε β} (hp : Throws env raised p)
    (hf : ∀ a, Throws env raised (f a)) : Throws env raised (p >>= f) := by
  intro s
  rw [wp_bind]
  apply wp_mono _ (hp s)
  intro result s' hresult
  cases result with
  | ok a => exact hf a s'
  | error e =>
      intro e' herror
      cases herror
      exact hresult e rfl

/-- What follows a request may rely on what the environment answers. -/
theorem perform_bind {i : ι} {f : ο i → Coro σ ι ο ε α}
    (hf : ∀ s o s', env s i o s' → Throws env raised (f o)) :
    Throws env raised (Coro.perform i >>= f) := by
  intro s
  rw [wp_bind, wp_perform]
  exact fun o s' hanswer => hf s o s' hanswer s'

/-- After an exception nothing follows. -/
theorem throw_bind {e : ε} {f : α → Coro σ ι ο ε β} (h : raised e) :
    Throws env raised (MonadExcept.throw e >>= f) := fun _ => (throw h) _

theorem ite {c : Prop} [Decidable c] {p q : Coro σ ι ο ε α} (hp : Throws env raised p)
    (hq : Throws env raised q) : Throws env raised (if c then p else q) := by
  split
  · exact hp
  · exact hq

/-- The handler answers for what is caught. -/
theorem tryCatch {p : Coro σ ι ο ε α} {f : ε → Coro σ ι ο ε α} (hp : Throws env raised' p)
    (hf : ∀ e, raised' e → Throws env raised (f e)) :
    Throws env raised (MonadExcept.tryCatch p f) := by
  intro s
  rw [wp_tryCatch]
  apply wp_mono _ (hp s)
  intro result s' hresult
  cases result with
  | ok a =>
      intro e herror
      cases herror
  | error e => exact hf e (hresult e rfl) s'

/-- What is attempted fails with nothing but what it throws. -/
theorem attempt_bind {p : Coro σ ι ο ε α} {f : Except ε α → Coro σ ι ο ε β}
    (hp : Throws env raised' p)
    (hf : ∀ result, (∀ e, result = .error e → raised' e) → Throws env raised (f result)) :
    Throws env raised (attempt p >>= f) := by
  intro s
  rw [wp_bind, wp_attempt]
  apply wp_mono _ (hp s)
  intro result s' hresult
  exact hf result hresult s'

end Throws

end Coro

end Holabrain
