import Dossier.Store.Basic

/-!
The field names of types which were described before, by organization and type.
-/

namespace Dossier

structure FieldCache where
  entries : List ((String × String) × List String)

namespace FieldCache

def empty : FieldCache := ⟨[]⟩

/-- The fields of a type, for which the store is asked if they are not known yet.  Failures are not
remembered. -/
def fields (cache : FieldCache) (store : Store σ) (object : String) (state : σ) :
    Except StoreError (List String) × FieldCache × σ :=
  match cache.entries.lookup (store.org, object) with
  | some fields => (.ok fields, cache, state)
  | none =>
      match store.describe object state with
      | (.ok fields, state) => (.ok fields, ⟨((store.org, object), fields) :: cache.entries⟩, state)
      | (.error error, state) => (.error error, cache, state)

end FieldCache

end Dossier
