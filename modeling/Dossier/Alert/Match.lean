import Dossier.Graph
import Dossier.Json.Structure

/-!
The evidence for an alert: the records which triggered it, and their fields.
-/

namespace Dossier

structure FieldMatch where
  name : String
  /-- The operator, or the test of the aggregate which grouped the record. -/
  operator : String
  filterValue : Option String
  actualValue : Json
  matched : Bool

/-- A record, and the fields which were responsible. -/
structure Match where
  object : String
  recordKey : String
  recordId : Option String
  matchedFields : List FieldMatch
  message : Option String

namespace FieldMatch

def same (a b : FieldMatch) : Bool :=
  a.name == b.name && a.operator == b.operator && a.filterValue == b.filterValue &&
    a.actualValue == b.actualValue && a.matched == b.matched

instance : BEq FieldMatch := ⟨same⟩

def toJson (field : FieldMatch) : Json :=
  .object ([("name", .text field.name), ("operator", .text field.operator)] ++
    Json.optional "filterValue" (field.filterValue.map .text) ++
      [("actualValue", field.actualValue), ("matched", .bool field.matched)])

end FieldMatch

namespace Match

def ofRecord (object : String) (record : GraphRecord) (fields : List FieldMatch) : Match :=
  ⟨object, record.key, record.id?, fields, none⟩

/-- Two matches of one key are about the same record. -/
def key (m : Match) : String × String := (m.object, m.recordKey)

def toJson (m : Match) : Json :=
  .object ([("object", .text m.object), ("recordKey", .text m.recordKey)] ++
    Json.optional "recordId" (m.recordId.map .text) ++
      [("matchedFields", .array (m.matchedFields.map FieldMatch.toJson))] ++
        Json.optional "message" (m.message.map .text))

def messageParts : List Char → List (List Char)
  | [] => [[]]
  | ';' :: ' ' :: rest => [] :: messageParts rest
  | c :: rest =>
      match messageParts rest with
      | [] => [[c]]
      | part :: parts => (c :: part) :: parts

/-- A message which is not yet part of the prior one is added to it. -/
def joinMessages : Option String → Option String → Option String
  | some prior, some next =>
      if (messageParts prior.toList).contains next.toList then some prior
      else some (prior ++ "; " ++ next)
  | prior, next => prior <|> next

def addFields (fields more : List FieldMatch) : List FieldMatch :=
  more.foldl (fun fields field =>
    if fields.contains field then fields else fields ++ [field]) fields

/-- What a later match says about the record of a prior one is added to it. -/
def absorb (prior next : Match) : Match where
  object := prior.object
  recordKey := prior.recordKey
  recordId := prior.recordId <|> next.recordId
  matchedFields := addFields prior.matchedFields next.matchedFields
  message := joinMessages prior.message next.message

/-- A match joins the one of its record, or comes last. -/
def merge : List Match → Match → List Match
  | [], next => [next]
  | prior :: rest, next =>
      if prior.key == next.key then prior.absorb next :: rest else prior :: merge rest next

def dedup (found : List Match) : List Match :=
  found.foldl merge []

end Match

end Dossier
