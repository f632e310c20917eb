import Dossier.Document.Basic
import Dossier.Record

/-!
Remote stores, as they are seen from here: something which answers calls.

A store may be in a state which its answers depend on, so that it can change its mind, fail now and
then, or keep a log.
-/

namespace Dossier

structure ApiError where
  errorCode : String
  message : String
deriving DecidableEq, Repr

inductive StoreError where
  | api (errors : List ApiError)
  /-- The store was not reached, or answered with something else. -/
  | transport (text : String)
  /-- The store answered, but not in the expected form. -/
  | undecodable
deriving DecidableEq, Repr

namespace ApiError

def toJson (error : ApiError) : Json :=
  .object [("errorCode", .text error.errorCode), ("message", .text error.message)]

def ofDocument? (document : Document) : Option ApiError := do
  let members ← document.structure? ["errorCode", "message"] .allowed
  return ⟨← Document.defaulted members "errorCode" Document.text? "",
    ← Document.defaulted members "message" Document.text? ""⟩

def summary? (error : ApiError) : Option String :=
  match error.message == "", error.errorCode == "" with
  | false, false => some (error.message ++ " (" ++ error.errorCode ++ ")")
  | false, true => some error.message
  | true, false => some error.errorCode
  | true, true => none

/-- The codes of errors about one type or field which does not exist. -/
def recoverableCodes : List String :=
  ["INVALID_TYPE", "INVALID_FIELD", "INVALID_FIELD_FOR_INSERT_UPDATE"]

end ApiError

namespace StoreError

def kind : StoreError → String
  | api _ => "Api"
  | transport _ => "Transport"
  | undecodable => "Decode"

def ofApi (errorCode message : String) : StoreError :=
  api [⟨errorCode, message⟩]

def message : StoreError → String
  | api errors =>
      "remote store request failed: " ++ (Json.array (errors.map ApiError.toJson)).compact
  | transport text => text
  | undecodable => "error decoding response body"

/-- Does the error concern the schema of one type, and not the store as a whole? -/
def isRecoverable : StoreError → Bool
  | api errors => errors.any fun error => ApiError.recoverableCodes.contains error.errorCode
  | _ => false

/-- What people are told about a type which was skipped for the error. -/
def warning (error : StoreError) (label : String) : String :=
  let summaries :=
    match error with
    | api errors => errors.filterMap (·.summary?)
    | _ => []
  label ++ ": " ++ if summaries.isEmpty then error.message else "; ".intercalate summaries

end StoreError

/-- A batch query: the fields of the records of a type whose `idField` is one of `ids`. -/
structure Query where
  object : String
  fields : List String
  idField : String
  ids : List String
deriving DecidableEq, Repr

inductive Call where
  | describe (object : String)
  | query (query : Query)
deriving DecidableEq, Repr

namespace Call

def object : Call → String
  | describe object => object
  | query asked => asked.object

end Call

/-- A remote store with states in `σ`. -/
structure Store (σ : Type) where
  /-- The organization whose schema the store has. -/
  org : String
  /-- A store which does not respond keeps its callers waiting for ever. -/
  responsive : Bool
  describe : String → σ → Except StoreError (List String) × σ
  query : Query → σ → Except StoreError (List Record) × σ

namespace Store

def logged (store : Store σ) : Store (σ × List Call) where
  org := store.org
  responsive := store.responsive
  describe object state :=
    let (answer, inner) := store.describe object state.1
    (answer, inner, state.2 ++ [.describe object])
  query query state :=
    let (answer, inner) := store.query query state.1
    (answer, inner, state.2 ++ [.query query])

end Store

end Dossier
