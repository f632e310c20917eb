import Mathlib.Data.Prod.Basic
import Dossier.Proofs.Fetch.Lockstep

/-!
Stores in view of other stores.

The states of a store may hold more than those of another one: a log, or what is left of outages.
If its answers are those of the other store, in the state which it has in view, then so is all that
a fetch makes of them.
-/

namespace Dossier

variable {σ τ : Type}

/-- The outer store answers as the inner one does in the state in view. -/
structure Store.Mirrors (outer : Store τ) (inner : Store σ) (view : τ → σ) : Prop where
  org : outer.org = inner.org
  describe : ∀ object state,
    inner.describe object (view state) = (outer.describe object state).map id view
  query : ∀ query state, inner.query query (view state) = (outer.query query state).map id view

def FetchState.view (view : τ → σ) (state : FetchState τ) : FetchState σ :=
  ⟨view state.store, state.cache, state.warnings⟩

theorem FieldCache.fields_mirrors {outer : Store τ} {inner : Store σ} {view : τ → σ}
    (mirrors : outer.Mirrors inner view) (cache : FieldCache) (object : String) (state : τ) :
    cache.fields inner object (view state) =
      (cache.fields outer object state).map id (Prod.map id view) := by
  unfold fields
  rw [mirrors.org, mirrors.describe]
  cases cache.entries.lookup (inner.org, object) with
  | some known => rfl
  | none =>
      obtain ⟨answer, after⟩ := outer.describe object state
      cases answer <;> rfl

theorem Store.Mirrors.paired {outer : Store τ} {inner : Store σ} {view : τ → σ}
    (mirrors : outer.Mirrors inner view) :
    Fetching.Paired (fun state other => other = state.view view) outer inner where
  warnings same := same ▸ rfl
  warn same _ := same ▸ rfl
  fields same object := by
    subst same
    simp only [FetchState.view, FieldCache.fields_mirrors mirrors]
    exact ⟨rfl, rfl⟩
  query same query := by
    subst same
    simp only [FetchState.view, mirrors.query]
    exact ⟨rfl, rfl⟩

/-- A fetch on the outer store is, in view, the fetch on the inner one. -/
theorem fetch_mirrors {outer : Store τ} {inner : Store σ} {view : τ → σ}
    (mirrors : outer.Mirrors inner view) (config : Config) (accountIds : List String)
    (cache : FieldCache) (state : τ) :
    fetch inner config accountIds cache (view state) =
      (fetch outer config accountIds cache state).map id (Prod.map id view) := by
  obtain ⟨result, warnings, reached⟩ :=
    mirrors.paired.fetch config accountIds cache state cache (view state) rfl
  cases told : fetch inner config accountIds cache (view state)
  simp only [told, FetchState.view, FetchState.mk.injEq] at result reached
  simp [Prod.map, result, reached.1, reached.2, Prod.ext_iff]

end Dossier
