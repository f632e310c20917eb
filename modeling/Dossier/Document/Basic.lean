import Dossier.Json.Compact
import Dossier.Table

/-!
Documents which people and other programs hand in, and how typed values are read out of them.

A document differs from a JSON value in two ways.  The members of a mapping are those which were
written, in their order and with repetitions, and a bare word remembers how it was written: where a
text is expected, a configuration may give any word without quotes, even one which has no value.

A structure is written as a mapping of its members, or as the list of their values in the order of
their declaration.
-/

namespace Dossier

inductive Document where
  | quoted (text : String)
  /-- A scalar without quotes: the word, if it may stand for a text, and the value which it has. -/
  | plain (word : Option String) (value : Option Scalar)
  | list (items : List Document)
  | mapping (members : List (String × Document))

namespace Document

mutual

/-- The JSON value of a document, in which the last of repeated members counts.  There is none if a
word in it has no value. -/
def toJson? : Document → Option Json
  | .quoted text => some (.text text)
  | .plain _ value => value.map .scalar
  | .list items => (toItems? items).map .array
  | .mapping members => (toMembers? members).map fun members => .object (Table.sort members)

def toItems? : List Document → Option (List Json)
  | [] => some []
  | item :: rest => do return (← toJson? item) :: (← toItems? rest)

def toMembers? : List (String × Document) → Option (List (String × Json))
  | [] => some []
  | (name, value) :: rest => do return (name, ← toJson? value) :: (← toMembers? rest)

end

mutual

/-- A JSON value as a document in which no bare word stands for a text. -/
def ofJson : Json → Document
  | .text s => .quoted s
  | .scalar value => .plain none (some value)
  | .array items => .list (ofItems items)
  | .object members => .mapping (ofMembers members)

def ofItems : List Json → List Document
  | [] => []
  | item :: rest => ofJson item :: ofItems rest

def ofMembers : List (String × Json) → List (String × Document)
  | [] => []
  | (name, value) :: rest => (name, ofJson value) :: ofMembers rest

end

mutual

/-- The document in which every bare word is its value, if all of them have one. -/
def withoutWords? : Document → Option Document
  | .quoted text => some (.quoted text)
  | .plain _ value => value.map fun value => .plain none (some value)
  | .list items => (itemsWithoutWords? items).map .list
  | .mapping members => (membersWithoutWords? members).map .mapping

def itemsWithoutWords? : List Document → Option (List Document)
  | [] => some []
  | item :: rest => do return (← withoutWords? item) :: (← itemsWithoutWords? rest)

def membersWithoutWords? : List (String × Document) → Option (List (String × Document))
  | [] => some []
  | (name, value) :: rest => do
      return (name, ← withoutWords? value) :: (← membersWithoutWords? rest)

end

def isNull : Document → Bool
  | .plain _ (some .null) => true
  | _ => false

def text? : Document → Option String
  | .quoted text => some text
  | .plain (some word) _ => some word
  | .plain none (some (.text value)) => some value
  | _ => none

def flag? : Document → Option Bool
  | .plain _ (some (.bool value)) => some value
  | _ => none

/-- The name of a choice: a text, or a mapping of that name alone to null. -/
def choice? : Document → Option String
  | .mapping [(name, value)] => if value.isNull then some name else none
  | document => document.text?

def list? (read : Document → Option α) : Document → Option (List α)
  | .list items => items.mapM read
  | _ => none

def texts? : Document → Option (List String) :=
  list? text?

/-- A table of values by name, in which the last of repeated names counts. -/
def table? (read : Document → Option α) : Document → Option (List (String × α))
  | .mapping members => do
      let entries ← members.mapM fun member => (read member.2).map fun value => (member.1, value)
      return Table.sort entries
  | _ => none

def nullable? (read : Document → Option α) (document : Document) : Option (Option α) :=
  if document.isNull then some none else (read document).map some

/-- May members of other names occur beside those of a structure? -/
inductive Others where
  | allowed
  | refused
deriving DecidableEq

/-- The members of a structure with the given names.  None of them may be written twice, and a list
may not be longer than the names. -/
def structure? (names : List String) (others : Others) :
    Document → Option (List (String × Document))
  | .mapping members =>
      let known := members.filter fun member => names.contains member.1
      if others = .refused ∧ known.length < members.length then none
      else if (known.map (·.1)).Nodup then some known
      else none
  | .list items => if items.length ≤ names.length then some (names.zip items) else none
  | _ => none

def required (members : List (String × Document)) (name : String)
    (read : Document → Option α) : Option α :=
  members.lookup name >>= read

def defaulted (members : List (String × Document)) (name : String)
    (read : Document → Option α) (default : α) : Option α :=
  match members.lookup name with
  | some document => read document
  | none => some default

end Document

end Dossier
