import Dossier.Document.Reader
import Dossier.Store.Basic

/-!
Fixtures: documents of records which are explored in place of a remote store.

A type has the fields which the fixture describes for it, or else those of its rows.  Types which
are neither described nor have rows do not exist, and neither do fields which a type does not
have.
-/

namespace Dossier

structure Fixture where
  org : String
  /-- The fields of explicitly described types, in their order. -/
  described : List (String × List String)
  rows : List (String × List Json)

namespace Fixture

def unknownType (object : String) : StoreError :=
  .ofApi "INVALID_TYPE" ("sObject type '" ++ object ++ "' is not supported.")

def unknownField (object field : String) : StoreError :=
  .ofApi "INVALID_FIELD" ("No such column '" ++ field ++ "' on entity '" ++ object ++ "'.")

def members? : Json → Option (List (String × Json))
  | .object members => some members
  | _ => none

def fieldsOf (fixture : Fixture) (object : String) : Except StoreError (List String) :=
  match fixture.described.lookup object, fixture.rows.lookup object with
  | some fields, _ => .ok fields
  | none, some rows =>
      .ok (sortNames (Record.idField ::
        (rows.filterMap members?).flatMap fun members => members.map (·.1)))
  | none, none => .error (unknownType object)

def selects (idField : String) (ids : List String) (members : List (String × Json)) : Bool :=
  match members.lookup idField >>= Json.stringify? with
  | some text => ids.contains text
  | none => false

/-- The given fields of a row.  Absent ones are null, and what is no scalar is left out. -/
def project (fields : List String) (members : List (String × Json)) : Record :=
  Record.ofFields (fields.filterMap fun field =>
    match members.lookup field with
    | some (.scalar value) => some (field, value)
    | some _ => none
    | none => some (field, .null))

def select (fixture : Fixture) (query : Query) : Except StoreError (List Record) :=
  match fixture.fieldsOf query.object with
  | .error error => .error error
  | .ok available =>
      match (query.fields ++ [query.idField]).find? fun field => !available.contains field with
      | some field => .error (unknownField query.object field)
      | none =>
          let rows := (fixture.rows.lookup query.object).getD []
          .ok (((rows.filterMap members?).filter (selects query.idField query.ids)).map
            (project query.fields))

def store (fixture : Fixture) : Store Unit where
  org := fixture.org
  responsive := true
  describe object _ := (fixture.fieldsOf object, ())
  query query _ := (fixture.select query, ())

open Document (defaulted text? texts? list? table?) in
def ofDocument? (document : Document) : Option Fixture := do
  let members ← document.structure? ["orgId", "describe", "records"] .refused
  let described ← defaulted members "describe" (table? texts?) []
  return ⟨← defaulted members "orgId" text? "fixture",
    described.map fun (object, fields) => (object, sortNames fields),
    ← defaulted members "records" (table? (list? Document.toJson?)) []⟩

def ofText? (text : String) : Option Fixture :=
  Document.read? .configuration text >>= ofDocument?

end Fixture

end Dossier
