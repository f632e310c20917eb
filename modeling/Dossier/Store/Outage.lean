import Dossier.Store.Basic

/-!
Outages: rehearsing what a run does when calls of its store fail.
-/

namespace Dossier

structure Outage where
  /-- Are describe calls concerned, or queries? -/
  describes : Bool
  object : String
  /-- If there is one, only queries by this field are concerned. -/
  idField : Option String
  skip : Nat
  error : StoreError
deriving DecidableEq, Repr

namespace Outage

def concerns (outage : Outage) : Call → Bool
  | .describe object => outage.describes && outage.object == object && outage.idField.isNone
  | .query query =>
      !outage.describes && outage.object == query.object &&
        (outage.idField.isNone || outage.idField == some query.idField)

/-- The error with which a call meets the outages, and what is left of them. -/
def meet (call : Call) : List Outage → Option StoreError × List Outage
  | [] => (none, [])
  | outage :: rest =>
      if !outage.concerns call then
        let (error, rest) := meet call rest
        (error, outage :: rest)
      else if outage.skip = 0 then (some outage.error, outage :: rest)
      else
        let (error, rest) := meet call rest
        (error, { outage with skip := outage.skip - 1 } :: rest)

end Outage

namespace Store

/-- The store with outages.  It does not see the calls which they make fail. -/
def withOutages (store : Store σ) : Store (σ × List Outage) where
  org := store.org
  responsive := store.responsive
  describe object state :=
    match Outage.meet (.describe object) state.2 with
    | (some error, outages) => (.error error, state.1, outages)
    | (none, outages) =>
        let (answer, inner) := store.describe object state.1
        (answer, inner, outages)
  query query state :=
    match Outage.meet (.query query) state.2 with
    | (some error, outages) => (.error error, state.1, outages)
    | (none, outages) =>
        let (answer, inner) := store.query query state.1
        (answer, inner, outages)

def stalled (store : Store σ) : Store σ :=
  { store with responsive := false }

end Store

end Dossier
