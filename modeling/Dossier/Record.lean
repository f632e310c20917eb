import Dossier.Json.Compact
import Dossier.Table
import Dossier.Text.Blank

/-!
Records: rows of a remote entity type, as scalars by field name.
-/

namespace Dossier

/-- The fields of one row, in the order of their names. -/
structure Record where
  fields : List (String × Scalar)
deriving Inhabited

namespace Record

/-- The field which identifies a record in its remote store. -/
def idField : String := "Id"

def empty : Record := ⟨[]⟩

def isEmpty (record : Record) : Bool := record.fields.isEmpty

/-- The scalars among the members of a row.  What a remote store nests in a row describes the row
and is no field of it. -/
def scalars : List (String × Json) → List (String × Scalar)
  | [] => []
  | (name, .scalar value) :: rest => (name, value) :: scalars rest
  | _ :: rest => scalars rest

def ofJson? : Json → Option Record
  | .object members => some ⟨scalars (Table.sort members)⟩
  | _ => none

def ofRows (rows : List Json) : List Record :=
  rows.filterMap ofJson?

def ofFields (fields : List (String × Scalar)) : Record :=
  ⟨Table.sort fields⟩

def get? (record : Record) (field : String) : Option Scalar :=
  record.fields.lookup field

/-- The value of a field as it is shown: null where there is none. -/
def value (record : Record) (field : String) : Json :=
  .scalar ((record.get? field).getD .null)

/-- The text of a field which is neither absent nor null. -/
def text? (record : Record) (field : String) : Option String :=
  record.get? field >>= fun value => Json.stringify? (.scalar value)

def reference? (record : Record) (field : String) : Option String :=
  (record.text? field).filter (· != "")

def evidence? (record : Record) (field : String) : Option String :=
  (record.text? field).filter fun text => !Text.blank text

/-- The identifier: a text which is not empty. -/
def id? (record : Record) : Option String :=
  match record.get? idField with
  | some (.text id) => if id == "" then none else some id
  | _ => none

def toJson (record : Record) : Json :=
  .object (record.fields.map fun field => (field.1, .scalar field.2))

end Record

end Dossier
