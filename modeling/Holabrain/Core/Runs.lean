import Mathlib.Data.List.SplitBy
import Mathlib.Data.List.Infix
import Mathlib.Data.List.TakeWhile

/-!
# Replacing long runs

A text is scanned from the left for runs of at least `least` elements of a class, as a search for
`p{least,}` does, and each run found is replaced.  What the scan finds are the maximal runs of
that length, and if no replacement contains a long run, neither does the result.
-/

namespace Holabrain

variable {α : Type*} (p : α → Bool)

/-- The length of the run at the front. -/
def lead (text : List α) : ℕ := (text.takeWhile p).length

/-- Replace each leftmost and longest run of at least `least` elements. -/
def subRuns (least : ℕ) (replace : List α → List α) : List α → List α
  | [] => []
  | c :: rest =>
      if p c && decide (least ≤ (c :: rest.takeWhile p).length) then
        replace (c :: rest.takeWhile p) ++ subRuns least replace (rest.dropWhile p)
      else c :: subRuns least replace rest
termination_by text => text.length
decreasing_by
  · exact Nat.lt_succ_of_le (List.dropWhile_suffix p).length_le
  · exact Nat.lt_succ_self _

section Lead

variable {p} {c : α} {text rest : List α}

@[simp] theorem lead_nil : lead p [] = 0 := rfl

theorem lead_cons_of_pos (h : p c = true) : lead p (c :: rest) = lead p rest + 1 := by
  rw [lead, List.takeWhile_cons_of_pos h, List.length_cons, lead]

theorem lead_cons_of_neg (h : p c = false) : lead p (c :: rest) = 0 := by
  rw [lead, List.takeWhile_cons_of_neg (by rw [h]; exact Bool.false_ne_true), List.length_nil]

theorem lead_dropWhile : lead p (rest.dropWhile p) = 0 := by
  induction rest with
  | nil => rfl
  | cons first rest ih =>
      cases hfirst : p first with
      | true => rwa [List.dropWhile_cons_of_pos hfirst]
      | false =>
          rw [List.dropWhile_cons_of_neg (by rw [hfirst]; exact Bool.false_ne_true),
            lead_cons_of_neg hfirst]

/-- Nothing is added to a run by a text that starts with none. -/
theorem lead_append_le (h : lead p rest = 0) : lead p (text ++ rest) ≤ text.length := by
  induction text with
  | nil => exact h.le
  | cons first text ih =>
      cases hfirst : p first with
      | true =>
          rw [List.cons_append, lead_cons_of_pos hfirst, List.length_cons]
          omega
      | false =>
          rw [List.cons_append, lead_cons_of_neg hfirst]
          exact Nat.zero_le _

theorem lead_append (h : lead p rest = 0) : lead p (text ++ rest) = lead p text := by
  induction text with
  | nil => exact h
  | cons first text ih =>
      cases hfirst : p first with
      | true => rw [List.cons_append, lead_cons_of_pos hfirst, lead_cons_of_pos hfirst, ih]
      | false => rw [List.cons_append, lead_cons_of_neg hfirst, lead_cons_of_neg hfirst]

end Lead

/-! ## Texts without a long run -/

/-- No run of `least` elements starts anywhere. -/
def NoRun (least : ℕ) : List α → Prop
  | [] => True
  | c :: rest => lead p (c :: rest) < least ∧ NoRun least rest

section NoRun

variable {p} {least : ℕ} {c : α} {text rest : List α}

theorem noRun_cons : NoRun p least (c :: rest) ↔ lead p (c :: rest) < least ∧ NoRun p least rest :=
  Iff.rfl

theorem noRun_cons_of_neg (hleast : 0 < least) (hc : p c = false) :
    NoRun p least (c :: rest) ↔ NoRun p least rest := by
  rw [noRun_cons, lead_cons_of_neg hc]
  exact and_iff_right hleast

theorem noRun_append_outside (hleast : 0 < least) (htext : ∀ c ∈ text, p c = false) :
    NoRun p least (text ++ rest) ↔ NoRun p least rest := by
  induction text with
  | nil => rfl
  | cons c text ih =>
      rw [List.cons_append, noRun_cons_of_neg hleast (htext c List.mem_cons_self)]
      exact ih fun d hd => htext d (List.mem_cons_of_mem _ hd)

theorem noRun_of_length_lt (h : text.length < least) : NoRun p least text := by
  induction text with
  | nil => trivial
  | cons first text ih =>
      refine ⟨?_, ih (lt_trans (Nat.lt_succ_self _) h)⟩
      exact lt_of_le_of_lt (List.takeWhile_prefix p).length_le h

theorem NoRun.append (htext : NoRun p least text) (hrest : NoRun p least rest)
    (hlead : lead p rest = 0) : NoRun p least (text ++ rest) := by
  induction text with
  | nil => exact hrest
  | cons first text ih =>
      rw [List.cons_append, noRun_cons, ← List.cons_append, lead_append hlead]
      exact ⟨htext.1, ih htext.2⟩

/-- A text has no long run exactly if all of its runs are short. -/
theorem noRun_iff (hleast : 0 < least) : NoRun p least text ↔
    ∀ run, run <:+: text → (∀ c ∈ run, p c = true) → run.length < least := by
  induction text with
  | nil =>
      refine iff_of_true trivial ?_
      intro run hrun _
      rwa [List.eq_nil_of_infix_nil hrun]
  | cons first text ih =>
      rw [noRun_cons, ih]
      constructor
      · rintro ⟨hlead, htext⟩ run hrun hall
        obtain hprefix | hinfix := List.infix_cons_iff.mp hrun
        · obtain ⟨tail, htail⟩ := hprefix
          rw [← htail, lead, List.takeWhile_append_of_pos hall, List.length_append] at hlead
          omega
        · exact htext run hinfix hall
      · intro h
        constructor
        · apply h _ (List.takeWhile_prefix p).isInfix
          intro c hc
          exact List.mem_takeWhile_imp hc
        · intro run hrun
          exact h run (hrun.trans (List.suffix_cons first text).isInfix)

end NoRun

/-! ## Scanning -/

section Scan

variable {p} {least : ℕ} {replace : List α → List α} {c : α} {text rest : List α}

@[simp] theorem subRuns_nil : subRuns p least replace [] = [] := by rw [subRuns]

/-- A run that is long enough is replaced. -/
theorem subRuns_cons_of_le (hc : p c = true) (hle : least ≤ lead p (c :: rest)) :
    subRuns p least replace (c :: rest) =
      replace (c :: rest.takeWhile p) ++ subRuns p least replace (rest.dropWhile p) := by
  rw [lead, List.takeWhile_cons_of_pos hc] at hle
  rw [subRuns, hc, decide_eq_true hle, Bool.and_self, if_pos rfl]

/-- Everything else is kept. -/
theorem subRuns_cons_of_lt (hlt : lead p (c :: rest) < least) :
    subRuns p least replace (c :: rest) = c :: subRuns p least replace rest := by
  rw [subRuns, if_neg]
  intro h
  rw [Bool.and_eq_true, decide_eq_true_iff] at h
  rw [lead, List.takeWhile_cons_of_pos h.1] at hlt
  omega

theorem lead_pos_of_le (hleast : 0 < least) (hle : least ≤ lead p (c :: rest)) : p c = true := by
  by_contra hc
  rw [lead_cons_of_neg (Bool.eq_false_iff.mpr hc)] at hle
  omega

/-- A short run at the front stays in front. -/
theorem lead_subRuns (hlt : lead p text < least) :
    lead p (subRuns p least replace text) = lead p text := by
  induction text with
  | nil => rw [subRuns_nil]
  | cons c rest ih =>
      rw [subRuns_cons_of_lt hlt]
      cases hc : p c with
      | true =>
          rw [lead_cons_of_pos hc] at hlt ⊢
          rw [lead_cons_of_pos hc, ih (by omega)]
      | false => rw [lead_cons_of_neg hc, lead_cons_of_neg hc]

/-- What the scan leaves has no long run. -/
theorem noRun_subRuns (hleast : 0 < least) (hreplace : ∀ run, NoRun p least (replace run))
    (text : List α) : NoRun p least (subRuns p least replace text) := by
  induction hlength : text.length using Nat.strong_induction_on generalizing text with
  | _ length ih =>
      subst hlength
      cases text with
      | nil =>
          rw [subRuns_nil]
          trivial
      | cons c rest =>
          obtain hlt | hle := lt_or_ge (lead p (c :: rest)) least
          · have hrest := ih rest.length (Nat.lt_succ_self _) rest rfl
            rw [subRuns_cons_of_lt hlt, noRun_cons, ← subRuns_cons_of_lt hlt, lead_subRuns hlt]
            exact ⟨hlt, hrest⟩
          · have hfewer : (rest.dropWhile p).length < (c :: rest).length :=
              Nat.lt_succ_of_le (List.dropWhile_suffix p).length_le
            have hlead : lead p (rest.dropWhile p) < least := by
              rw [lead_dropWhile]
              exact hleast
            rw [subRuns_cons_of_le (lead_pos_of_le hleast hle) hle]
            apply (hreplace _).append (ih _ hfewer _ rfl)
            rw [lead_subRuns hlead, lead_dropWhile]

/-- Where there is no long run the scan changes nothing. -/
theorem subRuns_of_noRun (h : NoRun p least text) : subRuns p least replace text = text := by
  induction text with
  | nil => exact subRuns_nil
  | cons c rest ih => rw [subRuns_cons_of_lt h.1, ih h.2]

theorem subRuns_subRuns (hleast : 0 < least) (hreplace : ∀ run, NoRun p least (replace run))
    (text : List α) :
    subRuns p least replace (subRuns p least replace text) = subRuns p least replace text :=
  subRuns_of_noRun (noRun_subRuns hleast hreplace text)

end Scan

/-! ## Maximal runs -/

/-- The maximal runs of a text, inside and outside the class. -/
structure IsRuns (text : List α) (runs : List (List α)) : Prop where
  flatten : runs.flatten = text
  uniform : ∀ run ∈ runs, run ≠ [] ∧ ∃ kind, ∀ c ∈ run, p c = kind
  maximal : runs.IsChain fun left right => ∀ c ∈ left, ∀ d ∈ right, p c ≠ p d

section MaximalRuns

variable {p} {least : ℕ} {replace : List α → List α} {run rest text : List α}
  {runs : List (List α)}

theorem subRuns_append_outside (hleast : 0 < least) (hrun : ∀ c ∈ run, p c = false) :
    subRuns p least replace (run ++ rest) = run ++ subRuns p least replace rest := by
  induction run with
  | nil => rfl
  | cons c run ih =>
      have hlead : lead p (c :: (run ++ rest)) < least := by
        rw [lead_cons_of_neg (hrun c List.mem_cons_self)]
        exact hleast
      rw [List.cons_append, subRuns_cons_of_lt hlead,
        ih fun d hd => hrun d (List.mem_cons_of_mem _ hd), List.cons_append]

theorem subRuns_append_short (hshort : run.length < least) (hrest : lead p rest = 0) :
    subRuns p least replace (run ++ rest) = run ++ subRuns p least replace rest := by
  induction run with
  | nil => rfl
  | cons c run ih =>
      have hle : lead p (c :: run ++ rest) ≤ (c :: run).length := lead_append_le hrest
      have hlead : lead p (c :: (run ++ rest)) < least := lt_of_le_of_lt hle hshort
      rw [List.cons_append, subRuns_cons_of_lt hlead, ih (lt_trans (Nat.lt_succ_self _) hshort),
        List.cons_append]

theorem subRuns_append_long (hrun : ∀ c ∈ run, p c = true) (hne : run ≠ [])
    (hlong : least ≤ run.length) (hrest : lead p rest = 0) :
    subRuns p least replace (run ++ rest) = replace run ++ subRuns p least replace rest := by
  have hnil : rest.takeWhile p = [] := List.length_eq_zero_iff.mp hrest
  cases run with
  | nil => exact absurd rfl hne
  | cons c run =>
      have htail : ∀ d ∈ run, p d = true := fun d hd => hrun d (List.mem_cons_of_mem _ hd)
      have htake : (run ++ rest).takeWhile p = run := by
        rw [List.takeWhile_append_of_pos htail, hnil, List.append_nil]
      have hdrop : (run ++ rest).dropWhile p = rest := by
        have hsplit := List.takeWhile_append_dropWhile (p := p) (l := run ++ rest)
        rw [htake] at hsplit
        exact List.append_cancel_left hsplit
      have hlead : least ≤ lead p (c :: (run ++ rest)) := by
        rw [lead, List.takeWhile_cons_of_pos (hrun c List.mem_cons_self), htake]
        exact hlong
      rw [List.cons_append, subRuns_cons_of_le (hrun c List.mem_cons_self) hlead, htake, hdrop]

theorem IsRuns.tail (h : IsRuns p text (run :: runs)) : IsRuns p runs.flatten runs where
  flatten := rfl
  uniform run hrun := h.uniform run (List.mem_cons_of_mem _ hrun)
  maximal := h.maximal.tail

/-- Behind a run of the class no other starts. -/
theorem IsRuns.lead_flatten (h : IsRuns p text (run :: runs)) (hrun : ∀ c ∈ run, p c = true) :
    lead p runs.flatten = 0 := by
  cases runs with
  | nil => rfl
  | cons next runs =>
      have hmaximal := List.isChain_cons_cons.mp h.maximal
      obtain ⟨hne, -⟩ := h.uniform run List.mem_cons_self
      obtain ⟨hne', -⟩ := h.uniform next (List.mem_cons_of_mem _ List.mem_cons_self)
      obtain ⟨c, hc⟩ := List.exists_mem_of_ne_nil run hne
      obtain ⟨d, next, rfl⟩ := List.exists_cons_of_ne_nil hne'
      have hdiffer := hmaximal.1 c hc d List.mem_cons_self
      rw [hrun c hc] at hdiffer
      exact lead_cons_of_neg (Bool.eq_false_iff.mpr hdiffer.symm)

/-- The scan replaces the long ones among the maximal runs and keeps everything else. -/
theorem IsRuns.subRuns_eq (h : IsRuns p text runs) (hleast : 0 < least) :
    subRuns p least replace text = runs.flatMap fun run =>
      if run.all p && decide (least ≤ run.length) then replace run else run := by
  induction runs generalizing text with
  | nil =>
      rw [← h.flatten, List.flatten_nil, subRuns_nil, List.flatMap_nil]
  | cons run runs ih =>
      obtain ⟨hne, kind, hkind⟩ := h.uniform run List.mem_cons_self
      rw [← h.flatten, List.flatten_cons, List.flatMap_cons, ← ih h.tail]
      cases kind with
      | false =>
          obtain ⟨c, hc⟩ := List.exists_mem_of_ne_nil run hne
          have hall : run.all p = false :=
            List.all_eq_false.mpr ⟨c, hc, by rw [hkind c hc]; exact Bool.false_ne_true⟩
          rw [hall, Bool.false_and, if_neg Bool.false_ne_true]
          exact subRuns_append_outside hleast hkind
      | true =>
          have hlead := h.lead_flatten hkind
          rw [List.all_eq_true.mpr hkind, Bool.true_and]
          split
          next hlong =>
            exact subRuns_append_long hkind hne (of_decide_eq_true hlong) hlead
          next hshort =>
            exact subRuns_append_short (not_le.mp fun hle => hshort (decide_eq_true hle)) hlead

theorem exists_kind_of_isChain (h : run.IsChain fun c d => (p c == p d) = true) :
    ∃ kind, ∀ c ∈ run, p c = kind := by
  induction run with
  | nil => exact ⟨true, fun c hc => absurd hc List.not_mem_nil⟩
  | cons c run ih =>
      cases run with
      | nil => exact ⟨p c, fun d hd => by rw [List.mem_singleton.mp hd]⟩
      | cons d run =>
          obtain ⟨hsame, htail⟩ := List.isChain_cons_cons.mp h
          obtain ⟨kind, hkind⟩ := ih htail
          refine ⟨kind, fun e he => ?_⟩
          obtain rfl | he := List.mem_cons.mp he
          · rw [eq_of_beq hsame, hkind d List.mem_cons_self]
          · exact hkind e he

/-- Every text is cut into its maximal runs. -/
theorem exists_isRuns (p : α → Bool) (text : List α) : ∃ runs, IsRuns p text runs := by
  refine ⟨text.splitBy fun c d => p c == p d, List.flatten_splitBy _ text, ?_, ?_⟩
  · intro run hrun
    exact ⟨List.ne_nil_of_mem_splitBy hrun,
      exists_kind_of_isChain (List.isChain_of_mem_splitBy hrun)⟩
  · have hends := List.isChain_getLast_head_splitBy (fun c d => p c == p d) text
    have hkinds : ∀ run ∈ text.splitBy fun c d => p c == p d, ∃ kind, ∀ c ∈ run, p c = kind :=
      fun run hrun => exists_kind_of_isChain (List.isChain_of_mem_splitBy hrun)
    refine List.IsChain.imp_of_mem_imp ?_ hends
    rintro left right hleft hright ⟨hne, hne', hdiffer⟩ c hc d hd
    obtain ⟨kind, hkind⟩ := hkinds left hleft
    obtain ⟨kind', hkind'⟩ := hkinds right hright
    rw [hkind c hc, hkind' d hd, ← hkind _ (List.getLast_mem hne),
      ← hkind' _ (List.head_mem hne')]
    exact ne_of_beq_false hdiffer

end MaximalRuns

end Holabrain
