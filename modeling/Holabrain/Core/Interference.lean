import Mathlib.Logic.Function.Iterate
import Mathlib.Logic.Relation
import Holabrain.Core.Coroutine

/-!
# Coroutines under interference

Several coroutines of one event loop share a state.  Only one of them runs at a time, from
one suspension to its next, so a pool of them moves in atomic blocks: an answered request
and the code up to the next await.  `under` is the weakest precondition of one coroutine in
such a pool: `guar` relates the two ends of each of its own blocks, and `rely` is what the
others may do between two of them.
-/

namespace Holabrain

namespace Coro

variable {σ ι : Type} {ο : ι → Type} {ε α β : Type}

/-- Run to the next suspension, or to the end. -/
def settle : Coro σ ι ο ε α → σ → Coro σ ι ο ε α × σ
  | done result, s => (done result, s)
  | read next, s => (next s).settle s
  | write t next, _ => next.settle t
  | await i next, s => (await i next, s)

/-- The next block stops at the request. -/
def StopsAt (p : Coro σ ι ο ε α) (s : σ) (i : ι) : Prop := ∃ next, (p.settle s).1 = .await i next

/-- A context that passes on reads, writes and requests stops where its coroutine does. -/
theorem StopsAt.within {p : Coro σ ι ο ε α} {s : σ} {i : ι} (h : p.StopsAt s i)
    {F : Coro σ ι ο ε α → Coro σ ι ο ε β} (hread : ∀ next, F (read next) = read fun s => F (next s))
    (hwrite : ∀ t next, F (write t next) = write t (F next))
    (hawait : ∀ j next, F (await j next) = await j fun o => F (next o)) : (F p).StopsAt s i := by
  induction p generalizing s with
  | done result =>
      obtain ⟨_, hdone⟩ := h
      cases hdone
  | read next ih =>
      rw [hread]
      exact ih s h
  | write t next ih =>
      rw [hwrite]
      exact ih h
  | await j next ih =>
      obtain ⟨_, hawaits⟩ := h
      cases hawaits
      rw [hawait]
      exact ⟨_, rfl⟩

theorem StopsAt.bind {p : Coro σ ι ο ε α} {s : σ} {i : ι} (h : p.StopsAt s i)
    (f : α → Coro σ ι ο ε β) : (p >>= f).StopsAt s i :=
  h.within (F := fun p => p >>= f) (fun _ => rfl) (fun _ _ => rfl) fun _ _ => rfl

theorem StopsAt.attempt {p : Coro σ ι ο ε α} {s : σ} {i : ι} (h : p.StopsAt s i) :
    (Coro.attempt p).StopsAt s i :=
  h.within (fun _ => rfl) (fun _ _ => rfl) fun _ _ => rfl

theorem stopsAt_modify_bind {f : σ → σ} {k : Unit → Coro σ ι ο ε β} {s : σ} {i : ι} :
    (modify f >>= k).StopsAt s i ↔ (k ()).StopsAt (f s) i := Iff.rfl

theorem stopsAt_gets_bind {f : σ → α} {k : α → Coro σ ι ο ε β} {s : σ} {i : ι} :
    (gets f >>= k).StopsAt s i ↔ (k (f s)).StopsAt s i := Iff.rfl

section Under

variable (env : Environment σ ι ο) (rely guar : σ → σ → Prop)

/-- The current block started in `s₀` and has reached `s`. -/
def under : Coro σ ι ο ε α → (Except ε α → σ → σ → Prop) → σ → σ → Prop
  | done result, post, s₀, s => post result s₀ s
  | read next, post, s₀, s => (next s).under post s₀ s
  | write t next, post, s₀, _ => next.under post s₀ t
  | await i next, post, s₀, s =>
      guar s₀ s ∧ ∀ u, rely s u → ∀ o t, env u i o t → (next o).under post u t

/-- The coroutine is suspended, and every way to go on is fine. -/
def Parked (post : Except ε α → σ → σ → Prop) (s : σ) : Coro σ ι ο ε α → Prop
  | await i next => ∀ u, rely s u → ∀ o t, env u i o t → (next o).under env rely guar post u t
  | _ => True

variable {env rely guar}

@[simp]
theorem under_pure (a : α) (post : Except ε α → σ → σ → Prop) (s₀ s : σ) :
    under env rely guar (pure a : Coro σ ι ο ε α) post s₀ s ↔ post (.ok a) s₀ s := Iff.rfl

@[simp]
theorem under_throw (e : ε) (post : Except ε α → σ → σ → Prop) (s₀ s : σ) :
    under env rely guar (throw e : Coro σ ι ο ε α) post s₀ s ↔ post (.error e) s₀ s := Iff.rfl

@[simp]
theorem under_ofExcept (result : Except ε α) (post : Except ε α → σ → σ → Prop) (s₀ s : σ) :
    under env rely guar (ofExcept (ι := ι) (ο := ο) result) post s₀ s ↔ post result s₀ s :=
  Iff.rfl

@[simp]
theorem under_gets (f : σ → α) (post : Except ε α → σ → σ → Prop) (s₀ s : σ) :
    under env rely guar (gets (ι := ι) (ο := ο) f) post s₀ s ↔ post (.ok (f s)) s₀ s := Iff.rfl

@[simp]
theorem under_modify (f : σ → σ) (post : Except ε Unit → σ → σ → Prop) (s₀ s : σ) :
    under env rely guar (modify (ι := ι) (ο := ο) f) post s₀ s ↔ post (.ok ()) s₀ (f s) :=
  Iff.rfl

@[simp]
theorem under_modifyGet (f : σ → α × σ) (post : Except ε α → σ → σ → Prop) (s₀ s : σ) :
    under env rely guar (modifyGet (ι := ι) (ο := ο) f) post s₀ s ↔
      post (.ok (f s).1) s₀ (f s).2 := Iff.rfl

@[simp]
theorem under_bind (p : Coro σ ι ο ε α) (f : α → Coro σ ι ο ε β)
    (post : Except ε β → σ → σ → Prop) (s₀ s : σ) :
    under env rely guar (p >>= f) post s₀ s ↔
      under env rely guar p (fun result t₀ t => match result with
        | .ok a => under env rely guar (f a) post t₀ t
        | .error e => post (.error e) t₀ t) s₀ s := by
  change under env rely guar (p.bind f) post s₀ s ↔ _
  induction p generalizing s₀ s with
  | done result => cases result <;> rfl
  | read next ih => exact ih s s₀ s
  | write t next ih => exact ih s₀ t
  | await i next ih =>
      exact and_congr_right fun _ => forall₂_congr fun u _ =>
        forall₃_congr fun o t _ => ih o u t

@[simp]
theorem under_tryCatch (p : Coro σ ι ο ε α) (h : ε → Coro σ ι ο ε α)
    (post : Except ε α → σ → σ → Prop) (s₀ s : σ) :
    under env rely guar (tryCatch p h) post s₀ s ↔
      under env rely guar p (fun result t₀ t => match result with
        | .ok a => post (.ok a) t₀ t
        | .error e => under env rely guar (h e) post t₀ t) s₀ s := by
  change under env rely guar (p.handle h) post s₀ s ↔ _
  induction p generalizing s₀ s with
  | done result => cases result <;> rfl
  | read next ih => exact ih s s₀ s
  | write t next ih => exact ih s₀ t
  | await i next ih =>
      exact and_congr_right fun _ => forall₂_congr fun u _ =>
        forall₃_congr fun o t _ => ih o u t

@[simp]
theorem under_attempt (p : Coro σ ι ο ε α) (post : Except ε (Except ε α) → σ → σ → Prop)
    (s₀ s : σ) :
    under env rely guar (attempt p) post s₀ s ↔
      under env rely guar p (fun result t₀ t => post (.ok result) t₀ t) s₀ s := by
  simp only [attempt, under_tryCatch, under_bind, under_pure]
  induction p generalizing s₀ s with
  | done result => cases result <;> rfl
  | read next ih => exact ih s s₀ s
  | write t next ih => exact ih s₀ t
  | await i next ih =>
      exact and_congr_right fun _ => forall₂_congr fun u _ =>
        forall₃_congr fun o t _ => ih o u t

theorem under_ite (c : Prop) [Decidable c] (p q : Coro σ ι ο ε α)
    (post : Except ε α → σ → σ → Prop) (s₀ s : σ) :
    under env rely guar (if c then p else q) post s₀ s ↔
      if c then under env rely guar p post s₀ s else under env rely guar q post s₀ s := by
  split <;> rfl

theorem under_mono {p : Coro σ ι ο ε α} {post post' : Except ε α → σ → σ → Prop} {s₀ s : σ}
    (hpost : ∀ result t₀ t, post result t₀ t → post' result t₀ t)
    (h : under env rely guar p post s₀ s) : under env rely guar p post' s₀ s := by
  induction p generalizing s₀ s with
  | done result => exact hpost _ _ _ h
  | read next ih => exact ih s h
  | write t next ih => exact ih h
  | await i next ih => exact ⟨h.1, fun u hu o t henv => ih o (h.2 u hu o t henv)⟩

/-- A block ends at a suspension, with the guarantee, or with the coroutine. -/
theorem under_settle {p : Coro σ ι ο ε α} {post : Except ε α → σ → σ → Prop} {s₀ s : σ}
    (h : under env rely guar p post s₀ s) :
    (guar s₀ (p.settle s).2 ∧ Parked env rely guar post (p.settle s).2 (p.settle s).1) ∨
      ∃ result, (p.settle s).1 = done result ∧ post result s₀ (p.settle s).2 := by
  induction p generalizing s with
  | done result => exact .inr ⟨result, rfl, h⟩
  | read next ih => exact ih s h
  | write t next ih => exact ih h
  | await i next => exact .inl h

/-- Where the end of the coroutine gives the guarantee as well. -/
theorem under_settle_guar {p : Coro σ ι ο ε α} {post : Except ε α → σ → σ → Prop} {s₀ s : σ}
    (hpost : ∀ result t₀ t, post result t₀ t → guar t₀ t)
    (h : under env rely guar p post s₀ s) :
    guar s₀ (p.settle s).2 ∧ Parked env rely guar post (p.settle s).2 (p.settle s).1 := by
  rcases under_settle h with hparked | ⟨result, hdone, hend⟩
  · exact hparked
  · rw [hdone]
    exact ⟨hpost _ _ _ hend, trivial⟩

/-- Others may go on while a coroutine is parked. -/
theorem Parked.mono {post : Except ε α → σ → σ → Prop} {s s' : σ} {p : Coro σ ι ο ε α}
    (h : Parked env rely guar post s p) (hrely : ∀ u, rely s' u → rely s u) :
    Parked env rely guar post s' p := by
  cases p with
  | await i next => exact fun u hu => h u (hrely u hu)
  | done result => trivial
  | read next => trivial
  | write t next => trivial

end Under

/-! ## Coroutines whose every block obeys a relation -/

section Blocks

variable {env : Environment σ ι ο} {rel : σ → σ → Prop}

/-- Whatever the others do in between, every block obeys the relation, the current one from
`s₀` on. -/
def Obeys (env : Environment σ ι ο) (rel : σ → σ → Prop) (p : Coro σ ι ο ε α) (s₀ s : σ) : Prop :=
  under env (fun _ _ => True) rel p (fun _ t₀ t => rel t₀ t) s₀ s

/-- The coroutine is suspended, and its further blocks obey the relation. -/
def ObeysParked (env : Environment σ ι ο) (rel : σ → σ → Prop) (p : Coro σ ι ο ε α) (s : σ) :
    Prop :=
  Parked env (fun _ _ => True) rel (fun _ t₀ t => rel t₀ t) s p

theorem Obeys.settle {p : Coro σ ι ο ε α} {s₀ s : σ} (h : Obeys env rel p s₀ s) :
    rel s₀ (p.settle s).2 ∧ ObeysParked env rel (p.settle s).1 (p.settle s).2 :=
  under_settle_guar (fun _ _ _ hend => hend) h

theorem ObeysParked.mono {p : Coro σ ι ο ε α} {s : σ} (h : ObeysParked env rel p s) (t : σ) :
    ObeysParked env rel p t :=
  Parked.mono h fun _ _ => trivial

/-- A coroutine whose blocks obey the relation wherever it is started. -/
def Blocks (env : Environment σ ι ο) (rel : σ → σ → Prop) (p : Coro σ ι ο ε α) : Prop :=
  ∀ s₀ s, rel s₀ s → Obeys env rel p s₀ s

theorem Blocks.pure (a : α) : Blocks env rel (pure a : Coro σ ι ο ε α) := fun _ _ h => h

theorem Blocks.throw (e : ε) : Blocks env rel (throw e : Coro σ ι ο ε α) := fun _ _ h => h

theorem Blocks.ofExcept (result : Except ε α) :
    Blocks env rel (ofExcept result : Coro σ ι ο ε α) := fun _ _ h => h

theorem Blocks.gets (f : σ → α) : Blocks env rel (gets f : Coro σ ι ο ε α) := fun _ _ h => h

theorem Blocks.modify (htrans : ∀ {s t u}, rel s t → rel t u → rel s u) {f : σ → σ}
    (hf : ∀ s, rel s (f s)) : Blocks env rel (modify f : Coro σ ι ο ε Unit) :=
  fun _ s h => htrans h (hf s)

theorem Blocks.perform {i : ι} (henv : ∀ u o t, env u i o t → rel u t) :
    Blocks env rel (perform i : Coro σ ι ο ε (ο i)) :=
  fun _ _ h => ⟨h, fun u _ o t hanswer => henv u o t hanswer⟩

theorem Blocks.bind {p : Coro σ ι ο ε α} {f : α → Coro σ ι ο ε β} (hp : Blocks env rel p)
    (hf : ∀ a, Blocks env rel (f a)) : Blocks env rel (p >>= f) := by
  intro s₀ s h
  rw [Obeys, under_bind]
  apply under_mono _ (hp s₀ s h)
  intro result t₀ t ht
  cases result with
  | error e => exact ht
  | ok a => exact hf a t₀ t ht

theorem Blocks.attempt {p : Coro σ ι ο ε α} (hp : Blocks env rel p) :
    Blocks env rel (attempt p) := by
  intro s₀ s h
  rw [Obeys, under_attempt]
  exact hp s₀ s h

theorem Blocks.ite {c : Prop} [Decidable c] {p q : Coro σ ι ο ε α} (hp : Blocks env rel p)
    (hq : Blocks env rel q) : Blocks env rel (if c then p else q) := by
  split
  · exact hp
  · exact hq

/-- A run of a coroutine whose blocks obey a transitive relation obeys it as a whole. -/
theorem Obeys.exec (htrans : ∀ {s t u}, rel s t → rel t u → rel s u) {p : Coro σ ι ο ε α}
    {s₀ s s' : σ} {result : Except ε α} (h : Obeys env rel p s₀ s)
    (hexec : Exec env p s result s') : rel s₀ s' := by
  induction hexec generalizing s₀ with
  | done => exact h
  | read _ ih => exact ih h
  | write _ ih => exact ih h
  | await hanswer _ ih => exact htrans h.1 (ih (h.2 _ trivial _ _ hanswer))

/-- Fewer answers and a coarser relation. -/
theorem Obeys.weaken {env' : Environment σ ι ο} {rel' : σ → σ → Prop}
    (henv : ∀ u i o t, env' u i o t → env u i o t) (hrel : ∀ {s t}, rel s t → rel' s t)
    (hrefl : ∀ s, rel' s s) (htrans : ∀ {s t u}, rel' s t → rel' t u → rel' s u)
    {p : Coro σ ι ο ε α} {s₀ s₁ s : σ} (hstart : rel' s₀ s₁) (h : Obeys env rel p s₁ s) :
    Obeys env' rel' p s₀ s := by
  induction p generalizing s₀ s₁ s with
  | done result => exact htrans hstart (hrel h)
  | read next ih => exact ih s hstart h
  | write t next ih => exact ih hstart h
  | await i next ih =>
      refine ⟨htrans hstart (hrel h.1), fun u _ o t hanswer => ?_⟩
      exact ih o (hrefl u) (h.2 u trivial o t (henv u i o t hanswer))

end Blocks

/-! ## Runs with actions of the others -/

section Interleaved

variable {A : Type} {act : A → σ → σ} {env : Environment σ ι ο}

/-- `Interleaved act env p s actions result s'`: a run from `s` to `s'` in which the others
perform `actions` while the coroutine is suspended, in that order. -/
inductive Interleaved (act : A → σ → σ) (env : Environment σ ι ο) :
    Coro σ ι ο ε α → σ → List A → Except ε α → σ → Prop
  | done {result s} : Interleaved act env (.done result) s [] result s
  | read {next s actions result s'} : Interleaved act env (next s) s actions result s' →
      Interleaved act env (.read next) s actions result s'
  | write {t next s actions result s'} : Interleaved act env next t actions result s' →
      Interleaved act env (.write t next) s actions result s'
  | await {i next s o t later result s'} (meanwhile : List A) :
      env (meanwhile.foldl (fun u a => act a u) s) i o t →
      Interleaved act env (next o) t later result s' →
      Interleaved act env (.await i next) s (meanwhile ++ later) result s'

section Inversion

variable {s s' : σ} {actions : List A} {result : Except ε α}

@[simp]
theorem interleaved_done_iff {result' : Except ε α} :
    Interleaved act env (.done result') s actions result s' ↔
      actions = [] ∧ result = result' ∧ s' = s := by
  constructor
  · intro h
    cases h with
    | done => exact ⟨rfl, rfl, rfl⟩
  · intro h
    obtain ⟨rfl, rfl, rfl⟩ := h
    exact .done

@[simp]
theorem interleaved_read_iff {next : σ → Coro σ ι ο ε α} :
    Interleaved act env (.read next) s actions result s' ↔
      Interleaved act env (next s) s actions result s' := by
  constructor
  · intro h
    cases h with
    | read hnext => exact hnext
  · exact .read

@[simp]
theorem interleaved_write_iff {t : σ} {next : Coro σ ι ο ε α} :
    Interleaved act env (.write t next) s actions result s' ↔
      Interleaved act env next t actions result s' := by
  constructor
  · intro h
    cases h with
    | write hnext => exact hnext
  · exact .write

theorem interleaved_await_iff {i : ι} {next : ο i → Coro σ ι ο ε α} :
    Interleaved act env (.await i next) s actions result s' ↔
      ∃ meanwhile later o t, actions = meanwhile ++ later ∧
        env (meanwhile.foldl (fun u a => act a u) s) i o t ∧
        Interleaved act env (next o) t later result s' := by
  constructor
  · intro h
    cases h with
    | await meanwhile hanswer hnext => exact ⟨meanwhile, _, _, _, rfl, hanswer, hnext⟩
  · intro h
    obtain ⟨meanwhile, later, o, t, rfl, hanswer, hnext⟩ := h
    exact .await meanwhile hanswer hnext

end Inversion

/-- Run a coroutine whose first request is answered after all the actions. -/
def playAfter (act : A → σ → σ) (answer : σ → (i : ι) → ο i × σ) :
    Coro σ ι ο ε α → List A → σ → Except ε α × σ
  | .done result, _, s => (result, s)
  | .read next, actions, s => (next s).playAfter act answer actions s
  | .write t next, actions, _ => next.playAfter act answer actions t
  | .await i next, actions, s =>
      let answered := answer (actions.foldl (fun u a => act a u) s) i
      (next answered.1).play (fun _ => answer) 0 answered.2

theorem interleaved_play {answer : σ → (i : ι) → ο i × σ}
    (hanswer : ∀ s i, env s i (answer s i).1 (answer s i).2) (p : Coro σ ι ο ε α) (n : ℕ)
    (s : σ) :
    Interleaved act env p s [] (p.play (fun _ => answer) n s).1
      (p.play (fun _ => answer) n s).2 := by
  induction p generalizing n s with
  | done result => exact .done
  | read next ih => exact .read (ih s n s)
  | write t next ih => exact .write (ih n t)
  | await i next ih => exact .await [] (hanswer s i) (ih _ (n + 1) _)

/-- A coroutine that awaits can be kept waiting for the actions. -/
theorem interleaved_playAfter {answer : σ → (i : ι) → ο i × σ}
    (hanswer : ∀ s i, env s i (answer s i).1 (answer s i).2) {p : Coro σ ι ο ε α}
    {actions : List A} {s : σ} {i : ι} {next : ο i → Coro σ ι ο ε α}
    (hawaits : (p.settle s).1 = .await i next) :
    Interleaved act env p s actions (p.playAfter act answer actions s).1
      (p.playAfter act answer actions s).2 := by
  induction p generalizing s with
  | done result => cases hawaits
  | read next' ih => exact .read (ih s hawaits)
  | write t next' ih => exact .write (ih hawaits)
  | await j next' ih =>
      have hrun : Interleaved act env (.await j next') s (actions ++ []) _ _ :=
        .await actions (hanswer _ j) (interleaved_play hanswer (next' _) 0 _)
      rwa [List.append_nil] at hrun

end Interleaved

end Coro

/-! ## Pools -/

/-- The state and the coroutines that share it, each run up to a suspension or to its end. -/
structure Pool (σ ι : Type) (ο : ι → Type) (ε α : Type) where
  shared : σ
  threads : List (Coro σ ι ο ε α)

namespace Pool

variable {σ ι : Type} {ο : ι → Type} {ε α : Type}

/-- One coroutine is answered and runs one block, or a new one runs its first block. -/
inductive Step (env : Environment σ ι ο) (admits : σ → Coro σ ι ο ε α → Prop) :
    Pool σ ι ο ε α → Pool σ ι ο ε α → Prop
  | resume {pool : Pool σ ι ο ε α} (k : ℕ) {i : ι} {next : ο i → Coro σ ι ο ε α} {o : ο i}
      {t : σ} (hthread : pool.threads[k]? = some (.await i next))
      (hanswer : env pool.shared i o t) :
      Step env admits pool
        { shared := ((next o).settle t).2
          threads := pool.threads.set k ((next o).settle t).1 }
  | launch {pool : Pool σ ι ο ε α} (p : Coro σ ι ο ε α) (hadmits : admits pool.shared p) :
      Step env admits pool
        { shared := (p.settle pool.shared).2
          threads := pool.threads ++ [(p.settle pool.shared).1] }

/-- Every schedule of the pool. -/
def Run (env : Environment σ ι ο) (admits : σ → Coro σ ι ο ε α → Prop) :
    Pool σ ι ο ε α → Pool σ ι ο ε α → Prop :=
  Relation.ReflTransGen (Step env admits)

variable {env : Environment σ ι ο} {admits : σ → Coro σ ι ο ε α → Prop}

/-- A transitive relation that every step of the run obeys relates its two ends. -/
theorem Run.relates (Inv : Pool σ ι ο ε α → Prop) {rel : σ → σ → Prop}
    {pool pool' : Pool σ ι ο ε α} (hrefl : ∀ s, rel s s)
    (htrans : ∀ {s t u}, rel s t → rel t u → rel s u)
    (hstep : ∀ p q, Inv p → Step env admits p q → Inv q ∧ rel p.shared q.shared)
    (hrun : Run env admits pool pool') (hinit : Inv pool) :
    Inv pool' ∧ rel pool.shared pool'.shared := by
  induction hrun with
  | refl => exact ⟨hinit, hrefl _⟩
  | tail _ hlast ih =>
      obtain ⟨hinv, hrel⟩ := hstep _ _ ih.1 hlast
      exact ⟨hinv, htrans ih.2 hrel⟩

/-- Coroutines whose blocks all obey a transitive relation make the whole pool obey it. -/
theorem Run.obeys {rel : σ → σ → Prop} {pool pool' : Pool σ ι ο ε α} (hrefl : ∀ s, rel s s)
    (htrans : ∀ {s t u}, rel s t → rel t u → rel s u)
    (hadmits : ∀ s p, admits s p → p.Obeys env rel s s)
    (hrun : Run env admits pool pool')
    (hparked : ∀ p ∈ pool.threads, p.ObeysParked env rel pool.shared) :
    (∀ p ∈ pool'.threads, p.ObeysParked env rel pool'.shared) ∧
      rel pool.shared pool'.shared := by
  refine hrun.relates (fun pool => ∀ p ∈ pool.threads, p.ObeysParked env rel pool.shared)
    hrefl htrans ?_ hparked
  intro before after hinv hstep
  cases hstep with
  | resume k hthread hanswer =>
      have hnext : Coro.Obeys env rel _ _ _ :=
        hinv _ (List.mem_of_getElem? hthread) _ trivial _ _ hanswer
      obtain ⟨hrel, hsettled⟩ := hnext.settle
      refine ⟨fun p hp => ?_, hrel⟩
      rcases List.mem_or_eq_of_mem_set hp with hold | rfl
      · exact (hinv p hold).mono _
      · exact hsettled
  | launch p hadmitted =>
      obtain ⟨hrel, hsettled⟩ := (hadmits _ p hadmitted).settle
      refine ⟨fun q hq => ?_, hrel⟩
      rcases List.mem_append.mp hq with hold | hnew
      · exact (hinv q hold).mono _
      · rw [List.mem_singleton.mp hnew]
        exact hsettled

/-- Answer the coroutine at place `k` by a computed environment. -/
def resume (answer : σ → (i : ι) → ο i × σ) (k : ℕ) (pool : Pool σ ι ο ε α) :
    Pool σ ι ο ε α :=
  match pool.threads[k]? with
  | some (.await i next) =>
      let settled := (next (answer pool.shared i).1).settle (answer pool.shared i).2
      { shared := settled.2, threads := pool.threads.set k settled.1 }
  | _ => pool

def launch (p : Coro σ ι ο ε α) (pool : Pool σ ι ο ε α) : Pool σ ι ο ε α where
  shared := (p.settle pool.shared).2
  threads := pool.threads ++ [(p.settle pool.shared).1]

theorem Run.resume_of {answer : σ → (i : ι) → ο i × σ} {pool pool' : Pool σ ι ο ε α}
    (hrun : Run env admits pool pool')
    (hanswer : ∀ i, env pool'.shared i (answer pool'.shared i).1 (answer pool'.shared i).2)
    (k : ℕ) : Run env admits pool (pool'.resume answer k) := by
  rw [Pool.resume]
  split
  next i next hthread => exact hrun.tail (.resume k hthread (hanswer _))
  next => exact hrun

theorem Run.resume {answer : σ → (i : ι) → ο i × σ} {pool pool' : Pool σ ι ο ε α}
    (hrun : Run env admits pool pool')
    (hanswer : ∀ s i, env s i (answer s i).1 (answer s i).2) (k : ℕ) :
    Run env admits pool (pool'.resume answer k) := hrun.resume_of (hanswer _) k

/-- The environment may answer so only in some of the states. -/
theorem Run.resumes_of {answer : σ → (i : ι) → ο i × σ} {pool pool' : Pool σ ι ο ε α}
    {answers : σ → Prop} (hrun : Run env admits pool pool')
    (hanswer : ∀ s, answers s → ∀ i, env s i (answer s i).1 (answer s i).2) (k n : ℕ)
    (hanswers : ∀ j < n, answers ((Pool.resume answer k)^[j] pool').shared) :
    Run env admits pool ((Pool.resume answer k)^[n] pool') := by
  induction n with
  | zero => exact hrun
  | succ n ih =>
      rw [Function.iterate_succ_apply']
      have hbefore := ih fun j hj => hanswers j (Nat.lt_succ_of_lt hj)
      exact hbefore.resume_of (hanswer _ (hanswers n (Nat.lt_succ_self n))) k

theorem Run.resumes {answer : σ → (i : ι) → ο i × σ} {pool pool' : Pool σ ι ο ε α}
    (hrun : Run env admits pool pool')
    (hanswer : ∀ s i, env s i (answer s i).1 (answer s i).2) (k n : ℕ) :
    Run env admits pool ((Pool.resume answer k)^[n] pool') :=
  hrun.resumes_of (fun s (_ : True) => hanswer s) k n fun _ _ => trivial

theorem Run.launch {pool pool' : Pool σ ι ο ε α} (hrun : Run env admits pool pool')
    (p : Coro σ ι ο ε α) (hadmits : admits pool'.shared p) :
    Run env admits pool (pool'.launch p) :=
  hrun.tail (.launch p hadmits)

end Pool

end Holabrain
