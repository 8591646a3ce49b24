import Holabrain.Core.Obligations
import Holabrain.Coordinator.Capabilities

/-!
# Loading the profiles

A setup and a scan load the profiles in between: the cache is read, every model is resolved by
its chain, and what came of it is saved.  The chains catch the errors of the client that their
resolvers raise; anything else a resolver raises, and whatever reading or saving the cache
raises, ends the loading.
-/

namespace Holabrain

namespace Coordinator

/-- An error of the client, which the loading of the profiles catches. -/
def IsDollin (exn : Exn) : Prop := ∃ err, exn = .dollin err

/-- What a relation needs for the resolving of profiles to obey it, where the resolvers raise
errors of the client, and `raised` beside them. -/
structure Resolving (env : Environment World ClientOp ClientAnswer)
    (rel : World → World → Prop) (raised : World → Exn → Prop) : Prop where
  trans : ∀ {w w' w'' : World}, rel w w' → rel w' w'' → rel w w''
  answered : ∀ w resolver ctx answer w', env w (.resolve resolver ctx) answer w' →
    rel w w' ∧ ∀ exn, answer = .error exn → IsDollin exn ∨ raised w' exn
  stored : ∀ (w : World) key profile,
    rel w { w with capabilities := w.capabilities.setItem key profile }

/-- What it needs for the whole loading to obey it. -/
structure Loading (env : Environment World ClientOp ClientAnswer)
    (rel : World → World → Prop) (raised : World → Exn → Prop) : Prop
    extends Resolving env rel raised where
  loaded : ∀ w answer w', env w .loadCache answer w' →
    rel w w' ∧ ∀ exn, answer = .error exn → raised w' exn
  saved : ∀ w profiles answer w', env w (.saveCache profiles) answer w' →
    rel w w' ∧ ∀ exn, answer = .error exn → raised w' exn
  replaced : ∀ (w : World) profiles, rel w { w with capabilities := profiles }

section Loading

open Coro (Quietly)

variable {env : Environment World ClientOp ClientAnswer} {rel : World → World → Prop}
  {raised : World → Exn → Prop}

namespace Resolving

theorem resolve (h : Resolving env rel raised) (resolver : Resolver) (ctx : ResolutionContext) :
    Quietly env rel (fun w exn => IsDollin exn ∨ raised w exn) (Client.resolve resolver ctx) :=
  .perform_ofExcept fun w answer w' hanswer => h.answered w resolver ctx answer w' hanswer

theorem runChain (h : Resolving env rel raised) (ctx : ResolutionContext) (now : ℚ)
    (chain : List Resolver) (state : ChainState) :
    Quietly env rel (fun w exn => IsDollin exn ∨ raised w exn) (runChain ctx now chain state) := by
  induction chain generalizing state with
  | nil => exact .pure _
  | cons resolver rest ih =>
      apply Quietly.attempt_bind (h.resolve resolver ctx)
      · exact fun partialProfile => ih _
      · intro exn w₀ w hrel hexn
        cases exn with
        | dollin err => exact ih _ w₀ w hrel
        | _ => exact .throw hrel hexn

theorem asyncResolve (h : Resolving env rel raised) (ctx : ResolutionContext) :
    Quietly env rel (fun w exn => IsDollin exn ∨ raised w exn) (asyncResolve ctx) := by
  refine .bind (.gets _) fun now => .bind (h.runChain ctx now _ _) fun state => ?_
  split
  · exact .throw fun _ => .inl ⟨_, rfl⟩
  · exact .pure _

/-- The loop catches the errors of the client that its chains raise. -/
theorem resolveLoop (h : Resolving env rel raised) (force : Bool) (now : ℚ)
    (entries : List (String × Device)) (seen : List String) (changed : Bool) :
    Quietly env rel raised (resolveLoop force now entries seen changed) := by
  induction entries generalizing seen changed with
  | nil => exact .pure _
  | cons entry rest ih =>
      refine .ite (ih _ _) (.bind (.gets _) fun w => .ite (ih _ _) ?_)
      apply Quietly.attempt_bind (h.asyncResolve _)
      · refine fun profile => .bind (Quietly.modify ?_ fun w => h.stored w _ _) fun _ => ih _ _
        exact h.trans
      · intro exn w₀ w hrel hexn
        cases exn with
        | dollin err => exact ih _ _ w₀ w hrel
        | _ =>
            refine .throw hrel (hexn.resolve_left ?_)
            rintro ⟨_, hdollin⟩
            cases hdollin

end Resolving

namespace Loading

theorem asyncResolveDevices (h : Loading env rel raised) (force : Bool) :
    Quietly env rel raised (asyncResolveDevices force) := by
  refine .bind (.gets _) fun w => ?_
  refine .bind (h.toResolving.resolveLoop _ _ _ _ _) fun changed => ?_
  refine .bind (.gets _) fun capabilities => .ite (.pure _) (.bind ?_ fun _ => .pure _)
  exact .perform_ofExcept fun w answer w' hanswer => h.saved w capabilities answer w' hanswer

theorem asyncLoadCapabilities (h : Loading env rel raised) :
    Quietly env rel raised asyncLoadCapabilities := by
  have hcache : Quietly env rel raised Client.loadCache :=
    .perform_ofExcept fun w answer w' hanswer => h.loaded w answer w' hanswer
  refine .bind hcache fun cache => .bind (Quietly.modify ?_ fun w => h.replaced w cache) fun _ => ?_
  · exact h.trans
  · exact .bind (h.asyncResolveDevices false) fun _ => .pure _

end Loading

end Loading

end Coordinator

end Holabrain
