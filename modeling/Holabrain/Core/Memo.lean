import Holabrain.Core.Dict

/-!
# A memo that remembers the object only

`f context object` is computed once for each object a key stands for and kept as long as the key
stands for that very object, although the context may change meanwhile.  Each entry carries the
context it was computed in as a ghost: no answer depends on it, and it says exactly when an
answer is still right.
-/

namespace Holabrain

/-- What is kept at one key. -/
structure MemoEntry (ρ ι ν : Type) where
  object : ι
  verdict : ν
  /-- Ghost: the context the verdict was computed in. -/
  context : ρ

abbrev Memo (κ ρ ι ν : Type) := Dict κ (MemoEntry ρ ι ν)

namespace Memo

variable {κ ρ ι ν : Type} [DecidableEq κ] [DecidableEq ι]

/-- Answer from the entry if it is for this object, else compute and keep. -/
def ask (f : ρ → ι → ν) (memo : Memo κ ρ ι ν) (key : κ) (context : ρ) (object : ι) :
    ν × Memo κ ρ ι ν :=
  match (memo.get? key).filter fun entry => entry.object = object with
  | some entry => (entry.verdict, memo)
  | none => (f context object, memo.setItem key ⟨object, f context object, context⟩)

/-- Every entry holds what was computed for it. -/
def Sound (f : ρ → ι → ν) (memo : Memo κ ρ ι ν) : Prop :=
  ∀ key entry, memo.get? key = some entry → entry.verdict = f entry.context entry.object

/-- Where a key still stands for the object of its entry, the context it has now gives the
verdict it was asked in. -/
def Agrees (f : ρ → ι → ν) (memo : Memo κ ρ ι ν) (contexts : κ → Option ρ)
    (objects : κ → Option ι) : Prop :=
  ∀ key entry context, memo.get? key = some entry → contexts key = some context →
    objects key = some entry.object → f entry.context entry.object = f context entry.object

variable {f : ρ → ι → ν} {memo : Memo κ ρ ι ν} {contexts : κ → Option ρ} {objects : κ → Option ι}

theorem ask_of_hit {key : κ} {entry : MemoEntry ρ ι ν} (hentry : memo.get? key = some entry)
    (context : ρ) : ask f memo key context entry.object = (entry.verdict, memo) := by
  rw [ask, hentry, Option.filter_some, if_pos (decide_eq_true rfl)]

theorem ask_of_miss {key : κ} {object : ι}
    (hmiss : ∀ entry, memo.get? key = some entry → entry.object ≠ object) (context : ρ) :
    ask f memo key context object =
      (f context object, memo.setItem key ⟨object, f context object, context⟩) := by
  have hnone : (memo.get? key).filter (fun entry => entry.object = object) = none := by
    rw [Option.filter_eq_none_iff]
    intro entry hentry
    simpa using hmiss entry hentry
  rw [ask, hnone]

/-- An answer comes from an entry for the object, or is computed. -/
theorem ask_cases (f : ρ → ι → ν) (memo : Memo κ ρ ι ν) (key : κ) (context : ρ) (object : ι) :
    (∃ entry, memo.get? key = some entry ∧ entry.object = object ∧
        ask f memo key context object = (entry.verdict, memo)) ∨
      ask f memo key context object =
        (f context object, memo.setItem key ⟨object, f context object, context⟩) := by
  by_cases hhit : ∃ entry, memo.get? key = some entry ∧ entry.object = object
  · obtain ⟨entry, hentry, rfl⟩ := hhit
    exact .inl ⟨entry, hentry, rfl, ask_of_hit hentry context⟩
  · exact .inr (ask_of_miss (fun entry hentry heq => hhit ⟨entry, hentry, heq⟩) context)

theorem sound_ask (hsound : Sound f memo) (key : κ) (context : ρ) (object : ι) :
    Sound f (ask f memo key context object).2 := by
  obtain ⟨entry, -, -, hask⟩ | hask := ask_cases f memo key context object
  · rw [hask]
    exact hsound
  · rw [hask]
    exact Dict.forall_setItem hsound rfl

omit [DecidableEq ι] in
/-- What was computed stays sound for a function that is the same on the objects kept. -/
theorem Sound.congr {f' : ρ → ι → ν} (hsound : Sound f memo)
    (heq : ∀ key entry, memo.get? key = some entry → ∀ context,
      f' context entry.object = f context entry.object) : Sound f' memo := by
  intro key entry hentry
  rw [hsound key entry hentry, heq key entry hentry]

omit [DecidableEq ι] in
theorem Agrees.congr {f' : ρ → ι → ν} (hagrees : Agrees f memo contexts objects)
    (heq : ∀ key entry, memo.get? key = some entry → ∀ context,
      f' context entry.object = f context entry.object) :
    Agrees f' memo contexts objects := by
  intro key entry context hentry hcontext hobject
  rw [heq key entry hentry, heq key entry hentry]
  exact hagrees key entry context hentry hcontext hobject

/-- Asking in the context a key has keeps the agreement: what is computed now agrees. -/
theorem agrees_ask (hagrees : Agrees f memo contexts objects) {key : κ} {context : ρ}
    (hcontext : ∀ current, contexts key = some current → current = context) (object : ι) :
    Agrees f (ask f memo key context object).2 contexts objects := by
  obtain ⟨entry, -, -, hask⟩ | hask := ask_cases f memo key context object
  · rw [hask]
    exact hagrees
  · rw [hask]
    have hnew : ∀ current, contexts key = some current → objects key = some object →
        f context object = f current object := by
      intro current hcurrent _
      rw [hcontext current hcurrent]
    intro other kept current hkept
    exact Dict.forall_setItem (fun k entry hentry current => hagrees k entry current hentry) hnew
      other kept hkept current

/-- The answers in the contexts the keys have are the right ones exactly if the memo agrees. -/
theorem transparent_iff_agrees (hsound : Sound f memo) :
    (∀ key context object, contexts key = some context → objects key = some object →
      (ask f memo key context object).1 = f context object) ↔ Agrees f memo contexts objects := by
  constructor
  · intro hall key entry context hentry hcontext hobject
    rw [← hall key context entry.object hcontext hobject, ask_of_hit hentry,
      hsound key entry hentry]
  · intro hagrees key context object hcontext hobject
    obtain ⟨entry, hentry, rfl, hask⟩ | hask := ask_cases f memo key context object
    · rw [hask, hsound key entry hentry]
      exact hagrees key entry context hentry hcontext hobject
    · rw [hask]

end Memo

end Holabrain
