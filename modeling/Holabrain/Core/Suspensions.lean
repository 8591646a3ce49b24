import Holabrain.Core.Interference
import Holabrain.Core.Layers

/-!
# What holds at every suspension

An invariant of shared state may break inside a block: nothing else runs there.  What counts
is that it holds whenever a coroutine suspends or ends.  `Upholds` asks this of one coroutine
against all that keep the invariant too, and with it that every request is made in a state
where it is due.
-/

namespace Holabrain

namespace Coro

variable {σ ι ε α : Type} {ο : ι → Type}

/-- Whatever is answered and whatever keeps the invariant meanwhile: the coroutine suspends and
ends in the invariant, and makes each request where it is due. -/
def Upholds (inv : σ → Prop) (due : σ → ι → Prop) (p : Coro σ ι ο ε α) (s : σ) : Prop :=
  audit (fun _ _ _ t => inv t) (fun _ _ => True) (fun t i => inv t ∧ due t i) p
    (fun _ t => inv t) s

/-- The coroutine has ended, or is suspended and can be resumed. -/
def Standing (inv : σ → Prop) (due : σ → ι → Prop) : Coro σ ι ο ε α → Prop
  | await _ next => ∀ o t, inv t → (next o).Upholds inv due t
  | done _ => True
  | read _ => False
  | write _ _ => False

variable {inv : σ → Prop} {due : σ → ι → Prop}

/-- A block ends in the invariant, at a request that is due or at the end. -/
theorem Upholds.settle {p : Coro σ ι ο ε α} {s : σ} (h : p.Upholds inv due s) :
    inv (p.settle s).2 ∧ (p.settle s).1.Standing inv due ∧
      ∀ i next, (p.settle s).1 = await i next → due (p.settle s).2 i := by
  induction p generalizing s with
  | done result => exact ⟨h, trivial, fun _ _ hawait => by cases hawait⟩
  | read next ih => exact ih s h
  | write t next ih => exact ih h.2
  | await i next =>
      refine ⟨h.1.1, fun o t ht => h.2 o t ht, fun j next' hawait => ?_⟩
      cases hawait
      exact h.1.2

/-! ## Blocks of layered coroutines -/

section Layered

variable {τ κ : Type} {ω : κ → Type} {view : View τ σ}

/-- Whatever the coroutine above does, a relation is obeyed by every block if it is by what
serves the requests and by putting its state back. -/
theorem Blocks.layered {serve : (i : ι) → Coro τ κ ω ε (ο i)} {env : Environment τ κ ω}
    {rel : τ → τ → Prop} (htrans : ∀ {t u v}, rel t u → rel u v → rel t v)
    (hset : ∀ t s, rel t (view.set t s)) (hserve : ∀ i, Blocks env rel (serve i))
    (p : Coro σ ι ο ε α) : Blocks env rel (p.layered view serve) := by
  induction p with
  | done result => exact .ofExcept result
  | read next ih => exact fun t₀ t h => ih (view.get t) t₀ t h
  | write s next ih => exact fun t₀ t h => ih t₀ (view.set t s) (htrans h (hset t s))
  | await i next ih => exact (hserve i).bind ih

/-- Every request of the coroutine is one of these, whatever it reads and is answered. -/
def Asks (asks : ι → Prop) : Coro σ ι ο ε α → Prop
  | done _ => True
  | read next => ∀ s, (next s).Asks asks
  | write _ next => next.Asks asks
  | await i next => asks i ∧ ∀ o, (next o).Asks asks

/-- What a coroutine does on its part of the state it does on the whole, if its requests are
passed on. -/
theorem under_layered {serve : (i : ι) → Coro τ κ ω ε (ο i)} {asks : ι → Prop}
    {env : Environment σ ι ο} {env' : Environment τ κ ω} {rel : σ → σ → Prop}
    {rel' : τ → τ → Prop} (hlawful : view.Lawful)
    (hserve : ∀ i, asks i → ∃ (j : κ) (answer : ω j → ο i),
      serve i = (perform j >>= fun o => pure (answer o)) ∧ ∀ u o t, env' u j o t →
        env (view.get u) i (answer o) (view.get t) ∧ t = view.set u (view.get t))
    (hrel : ∀ t s, rel (view.get t) s → rel' t (view.set t s)) {p : Coro σ ι ο ε α}
    {post : Except ε α → σ → σ → Prop} {post' : Except ε α → τ → τ → Prop}
    (hpost : ∀ result t s, post result (view.get t) s → post' result t (view.set t s))
    (hasks : p.Asks asks) {t : τ} {s : σ}
    (h : under env (fun _ _ => True) rel p post (view.get t) s) :
    under env' (fun _ _ => True) rel' (p.layered view serve) post' t (view.set t s) := by
  induction p generalizing t s with
  | done result => exact hpost result t s h
  | read next ih =>
      have hread : under env' (fun _ _ => True) rel'
          ((next (view.get (view.set t s))).layered view serve) post' t (view.set t s) := by
        rw [hlawful.get_set]
        exact ih s (hasks s) h
      exact hread
  | write s' next ih =>
      have hwrite := ih hasks h
      rw [← hlawful.set_set t s s'] at hwrite
      exact hwrite
  | await i next ih =>
      obtain ⟨j, answer, hpassed, henv⟩ := hserve i hasks.1
      change under env' _ rel' ((serve i).bind fun o => (next o).layered view serve) post' t _
      rw [hpassed]
      refine ⟨hrel t s h.1, fun u _ o t' hanswer => ?_⟩
      obtain ⟨hanswer', hput⟩ := henv u o t' hanswer
      have hnext := ih (answer o) (hasks.2 (answer o))
        (h.2 (view.get u) trivial (answer o) (view.get t') hanswer')
      rw [← hput] at hnext
      exact hnext

/-- So a relation that its blocks obey on its part is obeyed on the whole. -/
theorem Obeys.layered {serve : (i : ι) → Coro τ κ ω ε (ο i)} {asks : ι → Prop}
    {env : Environment σ ι ο} {env' : Environment τ κ ω} {rel : σ → σ → Prop}
    {rel' : τ → τ → Prop} (hlawful : view.Lawful)
    (hserve : ∀ i, asks i → ∃ (j : κ) (answer : ω j → ο i),
      serve i = (perform j >>= fun o => pure (answer o)) ∧ ∀ u o t, env' u j o t →
        env (view.get u) i (answer o) (view.get t) ∧ t = view.set u (view.get t))
    (hrel : ∀ t s, rel (view.get t) s → rel' t (view.set t s)) {p : Coro σ ι ο ε α}
    (hasks : p.Asks asks) {t : τ} {s : σ} (h : p.Obeys env rel (view.get t) s) :
    (p.layered view serve).Obeys env' rel' t (view.set t s) :=
  under_layered hlawful hserve hrel (fun _ t s => hrel t s) hasks h

namespace Asks

variable {asks : ι → Prop} {β : Type}

theorem of_forall (h : ∀ i, asks i) (p : Coro σ ι ο ε α) : p.Asks asks := by
  induction p with
  | done result => trivial
  | read next ih => exact ih
  | write s next ih => exact ih
  | await i next ih => exact ⟨h i, ih⟩

theorem pure (a : α) : Asks asks (pure a : Coro σ ι ο ε α) := trivial

theorem throw (e : ε) : Asks asks (throw e : Coro σ ι ο ε α) := trivial

theorem ofExcept (result : Except ε α) : Asks asks (ofExcept result : Coro σ ι ο ε α) := trivial

theorem gets (f : σ → α) : Asks asks (gets f : Coro σ ι ο ε α) := fun _ => trivial

theorem modify (f : σ → σ) : Asks asks (modify f : Coro σ ι ο ε Unit) := fun _ => trivial

theorem perform {i : ι} (hi : asks i) : Asks asks (perform i : Coro σ ι ο ε (ο i)) :=
  ⟨hi, fun _ => trivial⟩

theorem bind {p : Coro σ ι ο ε α} {f : α → Coro σ ι ο ε β} (hp : p.Asks asks)
    (hf : ∀ a, (f a).Asks asks) : Asks asks (p >>= f) := by
  change Asks asks (p.bind f)
  induction p with
  | done result =>
      cases result with
      | ok a => exact hf a
      | error e => trivial
  | read next ih => exact fun s => ih s (hp s)
  | write s next ih => exact ih hp
  | await i next ih => exact ⟨hp.1, fun o => ih o (hp.2 o)⟩

theorem tryCatch {p : Coro σ ι ο ε α} {h : ε → Coro σ ι ο ε α} (hp : p.Asks asks)
    (hh : ∀ e, (h e).Asks asks) : Asks asks (tryCatch p h) := by
  change Asks asks (p.handle h)
  induction p with
  | done result =>
      cases result with
      | ok a => trivial
      | error e => exact hh e
  | read next ih => exact fun s => ih s (hp s)
  | write s next ih => exact ih hp
  | await i next ih => exact ⟨hp.1, fun o => ih o (hp.2 o)⟩

theorem attempt {p : Coro σ ι ο ε α} (hp : p.Asks asks) : Asks asks (attempt p) :=
  .tryCatch (hp.bind fun _ => trivial) fun _ => trivial

theorem ite {c : Prop} [Decidable c] {p q : Coro σ ι ο ε α} (hp : p.Asks asks)
    (hq : q.Asks asks) : Asks asks (if c then p else q) := by
  split
  · exact hp
  · exact hq

end Asks

end Layered

end Coro

namespace Pool

variable {σ ι ε α : Type} {ο : ι → Type} {env : Environment σ ι ο}
  {admits : σ → Coro σ ι ο ε α → Prop} {inv : σ → Prop} {due : σ → ι → Prop}

/-- The shared state is in the invariant, and every coroutine can be resumed in it. -/
structure Steady (inv : σ → Prop) (due : σ → ι → Prop) (pool : Pool σ ι ο ε α) : Prop where
  shared : inv pool.shared
  threads : ∀ p ∈ pool.threads, p.Standing inv due

/-- A step leads from steady pool to steady pool, and what it newly requests is due. -/
theorem Step.steady (henv : ∀ s i o t, inv s → env s i o t → inv t)
    (hadmits : ∀ s p, inv s → admits s p → p.Upholds inv due s) {pool pool' : Pool σ ι ο ε α}
    (hpool : pool.Steady inv due) (hstep : Step env admits pool pool') :
    pool'.Steady inv due ∧ ∀ (k : ℕ) i (next : ο i → Coro σ ι ο ε α),
      pool'.threads[k]? = some (.await i next) →
        pool.threads[k]? = some (.await i next) ∨ due pool'.shared i := by
  cases hstep with
  | @resume j i next o t hthread hanswer =>
      have hnext : (next o).Upholds inv due t :=
        hpool.threads _ (List.mem_of_getElem? hthread) o t (henv _ _ _ _ hpool.shared hanswer)
      obtain ⟨hshared, hstanding, hdue⟩ := hnext.settle
      refine ⟨⟨hshared, fun p hp => ?_⟩, fun k i next hk => ?_⟩
      · rcases List.mem_or_eq_of_mem_set hp with hold | rfl
        · exact hpool.threads p hold
        · exact hstanding
      · by_cases hkj : k = j
        · subst hkj
          rw [List.getElem?_set_self (List.getElem?_eq_some_iff.mp hthread).1] at hk
          exact .inr (hdue i next (Option.some.inj hk))
        · rw [List.getElem?_set_ne (Ne.symm hkj)] at hk
          exact .inl hk
  | launch p hadmitted =>
      obtain ⟨hshared, hstanding, hdue⟩ := (hadmits _ p hpool.shared hadmitted).settle
      refine ⟨⟨hshared, fun q hq => ?_⟩, fun k i next hk => ?_⟩
      · rcases List.mem_append.mp hq with hold | hnew
        · exact hpool.threads q hold
        · rw [List.mem_singleton.mp hnew]
          exact hstanding
      · rcases Nat.lt_or_ge k pool.threads.length with hlt | hge
        · rw [List.getElem?_append_left hlt] at hk
          exact .inl hk
        · rw [List.getElem?_append_right hge] at hk
          obtain ⟨_, hlast⟩ := List.getElem?_eq_some_iff.mp hk
          rw [List.getElem_singleton] at hlast
          exact .inr (hdue i next hlast)

end Pool

end Holabrain
