import Mathlib.Data.Set.Basic
import Holabrain.Core.Interference

/-!
# Obligations

A coroutine may make something due and only settle it some suspensions later.  Until then it
owes it: whatever the others do meanwhile, within a relation that all of them keep, it will no
longer be due when the coroutine ends.  In a pool of such coroutines everything that is due is
owed by one of them, so that nothing is left open once all have ended.
-/

namespace Holabrain

/-- From `s₀` to `s`, with `owed` at the start and `owed'` at the end: what is due is owed, or
was due already without being owed. -/
def Balanced {σ D : Type} (due : σ → D → Prop) (owed owed' : Set D) (s₀ s : σ) : Prop :=
  ∀ d, due s d → d ∈ owed' ∨ (due s₀ d ∧ d ∉ owed)

/-- A change that makes nothing due. -/
def Still {σ D : Type} (due : σ → D → Prop) (s s' : σ) : Prop := ∀ d, due s' d → due s d

section Balanced

variable {σ D : Type} {due : σ → D → Prop} {owed owed' : Set D} {s s' s₀ : σ}

theorem Balanced.refl (owed : Set D) (s : σ) : Balanced due owed owed s s := by
  intro d hd
  by_cases howed : d ∈ owed
  · exact .inl howed
  · exact .inr ⟨hd, howed⟩

theorem Balanced.still (h : Balanced due owed owed' s₀ s) (hstill : Still due s s') :
    Balanced due owed owed' s₀ s' := fun d hd => h d (hstill d hd)

/-- A block that owed nothing at its start may make due what it owes at its end. -/
theorem Balanced.incur (h : Balanced due owed ∅ s₀ s)
    (hincurs : ∀ d, due s' d → d ∈ owed' ∨ due s d) : Balanced due owed owed' s₀ s' := by
  intro d hd
  rcases hincurs d hd with howed | hold
  · exact .inl howed
  · exact .inr ((h d hold).resolve_left (Set.notMem_empty d))

/-- What is no longer due has been paid. -/
theorem Balanced.pay (h : Balanced due owed owed' s₀ s) (hstill : Still due s s')
    (hpaid : ∀ d ∈ owed', ¬ due s' d) : Balanced due owed ∅ s₀ s' := by
  intro d hd
  exact (h d (hstill d hd)).imp_left fun howed => absurd hd (hpaid d howed)

end Balanced

namespace Coro

variable {σ ι ε α β D : Type} {ο : ι → Type}

section Owes

variable (env : Environment σ ι ο) (rel : σ → σ → Prop) (due : σ → D → Prop)

/-- The current block started in `s₀` with the debt `owed`, and has reached `s`.  At its end
the coroutine owes what it has made due and not settled. -/
def owes : Coro σ ι ο ε α → (Except ε α → Set D → σ → σ → Prop) → Set D → σ → σ → Prop
  | done result, post, owed, s₀, s => post result owed s₀ s
  | read next, post, owed, s₀, s => (next s).owes post owed s₀ s
  | write t next, post, owed, s₀, _ => next.owes post owed s₀ t
  | await i next, post, owed, s₀, s => ∃ owed', rel s₀ s ∧ Balanced due owed owed' s₀ s ∧
      ∀ u, rel s u → ∀ o t, env u i o t → (next o).owes post owed' u t

/-- The last block has kept the relation, and nothing is owed. -/
def Settled (_ : Except ε α) (owed : Set D) (s₀ s : σ) : Prop :=
  rel s₀ s ∧ Balanced due owed ∅ s₀ s

/-- The coroutine is suspended with this debt, or has ended and owes nothing. -/
def Indebted (owed : Set D) (s : σ) : Coro σ ι ο ε α → Prop
  | await i next => ∀ u, rel s u → ∀ o t, env u i o t →
      (next o).owes env rel due (Settled rel due) owed u t
  | done _ => owed = ∅
  | read _ => False
  | write _ _ => False

/-- Started here, the coroutine settles in the end whatever it makes due. -/
def Meets (p : Coro σ ι ο ε α) (s : σ) : Prop :=
  p.owes env rel due (Settled rel due) ∅ s s

variable {env rel due} {owed : Set D} {s₀ s : σ}
  {post post' : Except ε α → Set D → σ → σ → Prop}

@[simp]
theorem owes_pure (a : α) (post : Except ε α → Set D → σ → σ → Prop) :
    owes env rel due (pure a : Coro σ ι ο ε α) post owed s₀ s ↔ post (.ok a) owed s₀ s := Iff.rfl

@[simp]
theorem owes_gets (f : σ → α) (post : Except ε α → Set D → σ → σ → Prop) :
    owes env rel due (gets (ι := ι) (ο := ο) f) post owed s₀ s ↔ post (.ok (f s)) owed s₀ s :=
  Iff.rfl

@[simp]
theorem owes_modifyGet (f : σ → α × σ) (post : Except ε α → Set D → σ → σ → Prop) :
    owes env rel due (modifyGet (ι := ι) (ο := ο) f) post owed s₀ s ↔
      post (.ok (f s).1) owed s₀ (f s).2 := Iff.rfl

@[simp]
theorem owes_modify (f : σ → σ) (post : Except ε Unit → Set D → σ → σ → Prop) :
    owes env rel due (modify (ι := ι) (ο := ο) f) post owed s₀ s ↔ post (.ok ()) owed s₀ (f s) :=
  Iff.rfl

theorem owes_ite (c : Prop) [Decidable c] (p q : Coro σ ι ο ε α)
    (post : Except ε α → Set D → σ → σ → Prop) :
    owes env rel due (if c then p else q) post owed s₀ s ↔
      if c then owes env rel due p post owed s₀ s else owes env rel due q post owed s₀ s := by
  split <;> rfl

@[simp]
theorem owes_bind (p : Coro σ ι ο ε α) (f : α → Coro σ ι ο ε β)
    (post : Except ε β → Set D → σ → σ → Prop) :
    owes env rel due (p >>= f) post owed s₀ s ↔
      owes env rel due p (fun result owed t₀ t => match result with
        | .ok a => owes env rel due (f a) post owed t₀ t
        | .error e => post (.error e) owed t₀ t) owed s₀ s := by
  change owes env rel due (p.bind f) post owed s₀ s ↔ _
  induction p generalizing owed s₀ s with
  | done result => cases result <;> rfl
  | read next ih => exact ih s
  | write t next ih => exact ih
  | await i next ih =>
      exact exists_congr fun owed' => and_congr_right fun _ => and_congr_right fun _ =>
        forall₂_congr fun u _ => forall₃_congr fun o t _ => ih o

theorem owes_mono {p : Coro σ ι ο ε α}
    (hpost : ∀ result owed t₀ t, post result owed t₀ t → post' result owed t₀ t)
    (h : p.owes env rel due post owed s₀ s) : p.owes env rel due post' owed s₀ s := by
  induction p generalizing owed s₀ s with
  | done result => exact hpost _ _ _ _ h
  | read next ih => exact ih s h
  | write t next ih => exact ih h
  | await i next ih =>
      obtain ⟨owed', hrel, hbalanced, hnext⟩ := h
      exact ⟨owed', hrel, hbalanced, fun u hu o t henv => ih o (hnext u hu o t henv)⟩

/-- A block ends with a debt that covers what it has made due. -/
theorem owes_settle {p : Coro σ ι ο ε α}
    (h : p.owes env rel due (Settled rel due) owed s₀ s) :
    ∃ owed', rel s₀ (p.settle s).2 ∧ Balanced due owed owed' s₀ (p.settle s).2 ∧
      (p.settle s).1.Indebted env rel due owed' (p.settle s).2 := by
  induction p generalizing s with
  | done result => exact ⟨∅, h.1, h.2, rfl⟩
  | read next ih => exact ih s h
  | write t next ih => exact ih h
  | await i next =>
      obtain ⟨owed', hrel, hbalanced, hnext⟩ := h
      exact ⟨owed', hrel, hbalanced, hnext⟩

theorem Indebted.mono {p : Coro σ ι ο ε α} {s' : σ} (h : p.Indebted env rel due owed s)
    (hrel : rel s s') (htrans : ∀ {s t u}, rel s t → rel t u → rel s u) :
    p.Indebted env rel due owed s' := by
  cases p with
  | await i next => exact fun u hu => h u (htrans hrel hu)
  | done result => exact h
  | read next => exact h
  | write t next => exact h

end Owes

def hasEnded : Coro σ ι ο ε α → Bool
  | done _ => true
  | _ => false

/-! ## Coroutines that make nothing due -/

section Quietly

variable {env : Environment σ ι ο} {rel : σ → σ → Prop} {raised raised' : σ → ε → Prop}

/-- From here on every block obeys the relation, and only these exceptions end the coroutine, each
in a state it may be raised in. -/
def QuietFrom (env : Environment σ ι ο) (rel : σ → σ → Prop) (raised : σ → ε → Prop)
    (p : Coro σ ι ο ε α) (s₀ s : σ) : Prop :=
  under env (fun _ _ => True) rel p
    (fun result t₀ t => rel t₀ t ∧ ∀ e, result = .error e → raised t e) s₀ s

/-- The same wherever it is started. -/
def Quietly (env : Environment σ ι ο) (rel : σ → σ → Prop) (raised : σ → ε → Prop)
    (p : Coro σ ι ο ε α) : Prop :=
  ∀ s₀ s, rel s₀ s → QuietFrom env rel raised p s₀ s

theorem QuietFrom.throw {e : ε} {s₀ s : σ} (h : rel s₀ s) (he : raised s e) :
    QuietFrom env rel raised (throw e : Coro σ ι ο ε α) s₀ s := by
  refine ⟨h, fun e' herror => ?_⟩
  cases herror
  exact he

namespace Quietly

theorem pure (a : α) : Quietly env rel raised (pure a : Coro σ ι ο ε α) := by
  intro s₀ s h
  refine ⟨h, fun e herror => ?_⟩
  cases herror

theorem throw {e : ε} (he : ∀ s, raised s e) :
    Quietly env rel raised (throw e : Coro σ ι ο ε α) := fun _ s h => .throw h (he s)

theorem ofExcept {result : Except ε α} (hraised : ∀ s e, result = .error e → raised s e) :
    Quietly env rel raised (ofExcept result : Coro σ ι ο ε α) := fun _ s h => ⟨h, hraised s⟩

theorem gets (f : σ → α) : Quietly env rel raised (gets f : Coro σ ι ο ε α) := by
  intro s₀ s h
  refine ⟨h, fun e herror => ?_⟩
  cases herror

theorem modify (htrans : ∀ {s t u}, rel s t → rel t u → rel s u) {f : σ → σ}
    (hf : ∀ s, rel s (f s)) : Quietly env rel raised (modify f : Coro σ ι ο ε Unit) := by
  intro s₀ s h
  refine ⟨htrans h (hf s), fun e herror => ?_⟩
  cases herror

/-- What follows a request may rely on what it is answered. -/
theorem perform_bind {i : ι} {f : ο i → Coro σ ι ο ε α}
    (henv : ∀ u o t, env u i o t → QuietFrom env rel raised (f o) u t) :
    Quietly env rel raised (perform i >>= f) := fun _ _ h => ⟨h, fun u _ => henv u⟩

/-- A request that ends with its answer raises what its answer does. -/
theorem perform_ofExcept {i : ι} {f : ο i → Except ε α}
    (henv : ∀ u o t, env u i o t → rel u t ∧ ∀ e, f o = .error e → raised t e) :
    Quietly env rel raised (perform i >>= fun o => Coro.ofExcept (f o)) := .perform_bind henv

theorem bind {p : Coro σ ι ο ε α} {f : α → Coro σ ι ο ε β} (hp : Quietly env rel raised p)
    (hf : ∀ a, Quietly env rel raised (f a)) : Quietly env rel raised (p >>= f) := by
  intro s₀ s h
  rw [QuietFrom, under_bind]
  apply under_mono _ (hp s₀ s h)
  intro result t₀ t ht
  cases result with
  | ok a => exact hf a t₀ t ht.1
  | error e =>
      refine ⟨ht.1, fun e' herror => ?_⟩
      cases herror
      exact ht.2 e rfl

/-- What is attempted fails with nothing but what it raises. -/
theorem attempt_bind {p : Coro σ ι ο ε α} {f : Except ε α → Coro σ ι ο ε β}
    (hp : Quietly env rel raised' p)
    (hok : ∀ a, Quietly env rel raised (f (.ok a)))
    (herror : ∀ e s₀ s, rel s₀ s → raised' s e → QuietFrom env rel raised (f (.error e)) s₀ s) :
    Quietly env rel raised (attempt p >>= f) := by
  intro s₀ s h
  rw [QuietFrom, under_bind, under_attempt]
  apply under_mono _ (hp s₀ s h)
  intro result t₀ t ht
  cases result with
  | ok a => exact hok a t₀ t ht.1
  | error e => exact herror e t₀ t ht.1 (ht.2 e rfl)

theorem ite {c : Prop} [Decidable c] {p q : Coro σ ι ο ε α} (hp : Quietly env rel raised p)
    (hq : Quietly env rel raised q) : Quietly env rel raised (if c then p else q) := by
  split
  · exact hp
  · exact hq

variable {kept : σ → σ → Prop} {due : σ → D → Prop} {owed owed' : Set D} {s₀ s₁ s : σ}

/-- Such a coroutine carries a debt along, and hands it on. -/
theorem carries {p : Coro σ ι ο ε α} {post : Except ε α → Set D → σ → σ → Prop}
    (hrefl : ∀ s, kept s s) (htrans : ∀ {s t u}, kept s t → kept t u → kept s u)
    (hrel : ∀ {s t}, rel s t → kept s t ∧ Still due s t) (hkept : kept s₀ s₁)
    (hbalanced : Balanced due owed owed' s₀ s₁)
    (hpost : ∀ result owed t₀ t, kept t₀ t → Balanced due owed owed' t₀ t →
      (∀ e, result = .error e → raised t e) → post result owed t₀ t)
    (h : QuietFrom env rel raised p s₁ s) : p.owes env kept due post owed s₀ s := by
  induction p generalizing owed s₀ s₁ s with
  | done result =>
      obtain ⟨hkept', hstill⟩ := hrel h.1
      exact hpost _ _ _ _ (htrans hkept hkept') (hbalanced.still hstill) h.2
  | read next ih => exact ih s hkept hbalanced h
  | write t next ih => exact ih hkept hbalanced h
  | await i next ih =>
      obtain ⟨hkept', hstill⟩ := hrel h.1
      refine ⟨owed', htrans hkept hkept', hbalanced.still hstill, fun u _ o t hanswer => ?_⟩
      exact ih o (hrefl u) (Balanced.refl owed' u) (h.2 u trivial o t hanswer)

/-- Whoever owes everything may make anything due. -/
theorem owes_all {p : Coro σ ι ο ε α} {post : Except ε α → Set D → σ → σ → Prop}
    (hkept : ∀ s t, kept s t)
    (hpost : ∀ result owed t₀ t, (∀ e, result = .error e → raised t e) → post result owed t₀ t)
    (h : QuietFrom env rel raised p s₁ s) : p.owes env kept due post owed s₀ s := by
  induction p generalizing owed s₀ s₁ s with
  | done result => exact hpost _ _ _ _ h.2
  | read next ih => exact ih s h
  | write t next ih => exact ih h
  | await i next ih =>
      refine ⟨Set.univ, hkept s₀ s, fun d _ => .inl (Set.mem_univ d), fun u _ o t hanswer => ?_⟩
      exact ih o (h.2 u trivial o t hanswer)

/-- Where nothing is owed, nothing is in the end. -/
theorem meets {p : Coro σ ι ο ε α} (hkeptRefl : ∀ s, kept s s)
    (hkeptTrans : ∀ {s t u}, kept s t → kept t u → kept s u)
    (hrel : ∀ {s t}, rel s t → kept s t ∧ Still due s t) (hrefl : ∀ s, rel s s)
    (hp : Quietly env rel raised p) (s : σ) : p.Meets env kept due s :=
  carries hkeptRefl hkeptTrans hrel (hkeptRefl s) (.refl ∅ s)
    (fun _ _ _ _ hkept hbalanced _ => ⟨hkept, hbalanced⟩) (hp s s (hrefl s))

end Quietly

variable {kept : σ → σ → Prop} {due : σ → D → Prop}

/-- Where every block leaves alone what is due, nothing is owed in the end. -/
theorem Obeys.meets {p : Coro σ ι ο ε α} {s : σ} (hrefl : ∀ s, kept s s)
    (htrans : ∀ {s t u}, kept s t → kept t u → kept s u)
    (hrel : ∀ {s t}, rel s t → kept s t ∧ Still due s t) (hp : p.Obeys env rel s s) :
    p.Meets env kept due s := by
  apply Quietly.carries hrefl htrans hrel (hrefl s) (.refl ∅ s)
  · exact fun _ _ _ _ hkept hbalanced _ => ⟨hkept, hbalanced⟩
  · exact under_mono (fun result t₀ t ht => ⟨ht, fun _ _ => trivial⟩) hp

/-- The result of what has settled its debts may be dropped. -/
theorem Meets.bind_pure {p : Coro σ ι ο ε α} {s : σ} (hp : p.Meets env kept due s) (b : β) :
    Meets env kept due (p >>= fun _ => (Pure.pure b : Coro σ ι ο ε β)) s := by
  rw [Meets, owes_bind]
  apply owes_mono _ hp
  intro result owed t₀ t ht
  cases result with
  | ok a => exact ht
  | error e => exact ht

end Quietly

end Coro

/-! ## Pools -/

namespace Pool

variable {σ ι ε α D : Type} {ο : ι → Type} {env : Environment σ ι ο} {rel : σ → σ → Prop}
  {due : σ → D → Prop} {admits : σ → Coro σ ι ο ε α → Prop}

/-- Everything due is owed by one of the coroutines. -/
structure Covered (env : Environment σ ι ο) (rel : σ → σ → Prop) (due : σ → D → Prop)
    (debts : ℕ → Set D) (pool : Pool σ ι ο ε α) : Prop where
  threads : ∀ k (p : Coro σ ι ο ε α), pool.threads[k]? = some p →
    p.Indebted env rel due (debts k) pool.shared
  covered : ∀ d, due pool.shared d → ∃ k p, pool.threads[k]? = some p ∧ d ∈ debts k

theorem covered_of_nil {pool : Pool σ ι ο ε α} (hthreads : pool.threads = [])
    (hstart : ∀ d, ¬ due pool.shared d) : pool.Covered env rel due fun _ => ∅ := by
  refine ⟨fun k p hk => ?_, fun d hd => absurd hd (hstart d)⟩
  rw [hthreads] at hk
  cases hk

/-- Once all have ended, nothing is due. -/
theorem Covered.settled {pool : Pool σ ι ο ε α} {debts : ℕ → Set D}
    (hpool : pool.Covered env rel due debts) (hended : ∀ p ∈ pool.threads, p.hasEnded = true)
    (d : D) : ¬ due pool.shared d := by
  intro hd
  obtain ⟨k, p, hk, hdebt⟩ := hpool.covered d hd
  have hthread := hended p (List.mem_of_getElem? hk)
  cases p with
  | done result =>
      have hnothing : debts k = ∅ := hpool.threads k _ hk
      rw [hnothing] at hdebt
      exact absurd hdebt (Set.notMem_empty d)
  | _ => cases hthread

/-- What others do beside the pool, making nothing due. -/
theorem Covered.beside {s s' : σ} {threads : List (Coro σ ι ο ε α)} {debts : ℕ → Set D}
    (hpool : Covered env rel due debts { shared := s, threads := threads }) (hrel : rel s s')
    (hstill : Still due s s') (htrans : ∀ {s t u}, rel s t → rel t u → rel s u) :
    Covered env rel due debts { shared := s', threads := threads } where
  threads k p hk := (hpool.threads k p hk).mono hrel htrans
  covered d hd := hpool.covered d (hstill d hd)

theorem Covered.step {pool pool' : Pool σ ι ο ε α} {debts : ℕ → Set D}
    (hpool : pool.Covered env rel due debts) (hstep : Step env admits pool pool')
    (hadmits : ∀ p, admits pool.shared p → p.Meets env rel due pool.shared)
    (hrefl : ∀ s, rel s s) (htrans : ∀ {s t u}, rel s t → rel t u → rel s u) :
    rel pool.shared pool'.shared ∧ ∃ debts', pool'.Covered env rel due debts' := by
  classical
  cases hstep with
  | @resume k i next o t hthread hanswer =>
      obtain ⟨owed, hrel, hbalanced, hindebted⟩ := Coro.owes_settle
        (hpool.threads k _ hthread pool.shared (hrefl _) o t hanswer)
      have hlength : k < pool.threads.length := (List.getElem?_eq_some_iff.mp hthread).1
      have hself : (pool.threads.set k ((next o).settle t).1)[k]? =
          some ((next o).settle t).1 := List.getElem?_set_self hlength
      refine ⟨hrel, Function.update debts k owed, fun j p hj => ?_, fun d hd => ?_⟩
      · by_cases hjk : j = k
        · subst hjk
          rw [hself] at hj
          cases hj
          rwa [Function.update_self]
        · rw [List.getElem?_set_ne (Ne.symm hjk)] at hj
          rw [Function.update_of_ne hjk]
          exact (hpool.threads j p hj).mono hrel htrans
      · rcases hbalanced d hd with howed | ⟨hold, hnot⟩
        · refine ⟨k, _, hself, ?_⟩
          rwa [Function.update_self]
        · obtain ⟨j, p, hj, hdebt⟩ := hpool.covered d hold
          have hjk : j ≠ k := by
            rintro rfl
            exact hnot hdebt
          refine ⟨j, p, (List.getElem?_set_ne (Ne.symm hjk)).trans hj, ?_⟩
          rwa [Function.update_of_ne hjk]
  | launch p hadmitted =>
      obtain ⟨owed, hrel, hbalanced, hindebted⟩ := Coro.owes_settle (hadmits p hadmitted)
      have hlast : (pool.threads ++ [(p.settle pool.shared).1])[pool.threads.length]? =
          some (p.settle pool.shared).1 := List.getElem?_concat_length
      refine ⟨hrel, Function.update debts pool.threads.length owed, fun j q hj => ?_,
        fun d hd => ?_⟩
      · by_cases hjk : j = pool.threads.length
        · subst hjk
          rw [hlast] at hj
          cases hj
          rwa [Function.update_self]
        · have hold : pool.threads[j]? = some q := by
            rcases Nat.lt_or_gt_of_ne hjk with hlt | hgt
            · rwa [List.getElem?_append_left hlt] at hj
            · rw [List.getElem?_eq_none] at hj
              · cases hj
              · rw [List.length_append, List.length_singleton]
                exact hgt
          rw [Function.update_of_ne hjk]
          exact (hpool.threads j q hold).mono hrel htrans
      · rcases hbalanced d hd with howed | ⟨hold, _⟩
        · refine ⟨_, _, hlast, ?_⟩
          rwa [Function.update_self]
        · obtain ⟨j, q, hj, hdebt⟩ := hpool.covered d hold
          have hlt : j < pool.threads.length := (List.getElem?_eq_some_iff.mp hj).1
          refine ⟨j, q, (List.getElem?_append_left hlt).trans hj, ?_⟩
          rwa [Function.update_of_ne (Nat.ne_of_lt hlt)]

/-- What a coroutine is launched in is related to where the run started. -/
theorem Run.covered (hrefl : ∀ s, rel s s) (htrans : ∀ {s t u}, rel s t → rel t u → rel s u)
    {pool pool' : Pool σ ι ο ε α}
    (hadmits : ∀ s p, rel pool.shared s → admits s p → p.Meets env rel due s)
    (hrun : Run env admits pool pool') {debts : ℕ → Set D}
    (hpool : pool.Covered env rel due debts) :
    rel pool.shared pool'.shared ∧ ∃ debts', pool'.Covered env rel due debts' := by
  induction hrun with
  | refl => exact ⟨hrefl _, debts, hpool⟩
  | tail _ hstep ih =>
      obtain ⟨hrel, debts', hpool'⟩ := ih
      obtain ⟨hrel', hcovered⟩ :=
        hpool'.step hstep (fun p hp => hadmits _ p hrel hp) hrefl htrans
      exact ⟨htrans hrel hrel', hcovered⟩

/-- In every schedule of coroutines that settle what they make due, the relation holds from end
to end, and nothing is due once all of them have ended. -/
theorem Run.settled (hrefl : ∀ s, rel s s) (htrans : ∀ {s t u}, rel s t → rel t u → rel s u)
    {pool pool' : Pool σ ι ο ε α}
    (hadmits : ∀ s p, rel pool.shared s → admits s p → p.Meets env rel due s)
    (hrun : Run env admits pool pool') (hthreads : pool.threads = [])
    (hstart : ∀ d, ¬ due pool.shared d) :
    rel pool.shared pool'.shared ∧
      ((∀ p ∈ pool'.threads, p.hasEnded = true) → ∀ d, ¬ due pool'.shared d) := by
  obtain ⟨hrel, debts, hpool'⟩ :=
    hrun.covered hrefl htrans hadmits (covered_of_nil hthreads hstart)
  exact ⟨hrel, hpool'.settled⟩

end Pool

end Holabrain
