import Dossier.Json.Compact
import Dossier.Text.Blank
import Dossier.Text.Casing

/-!
Operators: the tests which alerts apply to one field of a record.

A test compares texts.  An absent field is null, and null has no text: it equals nothing, not even
the empty text, and contains nothing.
-/

namespace Dossier

inductive Operator where
  | equals
  | notEquals
  | contains
  | notContains
  | startsWith
  | equalsIgnoreCase
  | blank
  | notBlank
  | null
  | notNull
deriving DecidableEq, Repr

namespace Operator

def all : List Operator :=
  [equals, notEquals, contains, notContains, startsWith, equalsIgnoreCase, blank, notBlank, null,
    notNull]

def name : Operator → String
  | equals => "equals"
  | notEquals => "not_equals"
  | contains => "contains"
  | notContains => "not_contains"
  | startsWith => "starts_with"
  | equalsIgnoreCase => "equals_ignore_case"
  | blank => "blank"
  | notBlank => "not_blank"
  | null => "null"
  | notNull => "not_null"

def ofName? (name : String) : Option Operator :=
  all.find? (·.name == name)

@[simp] theorem ofName?_name (operator : Operator) : ofName? operator.name = some operator := by
  cases operator <;> rfl

/-- The operator which a person means by a name, whatever its case and the space around it. -/
def parse? (name : String) : Option Operator :=
  let name := Text.trim name
  all.find? fun operator => Text.sameIgnoringAsciiCase operator.name name

def requiresValue : Operator → Bool
  | blank | notBlank | null | notNull => false
  | _ => true

def testText (operator : Operator) (text : Option String) (value : String) : Bool :=
  match operator, text with
  | equals, some text => text == value
  | equals, none => false
  | notEquals, some text => text != value
  | notEquals, none => true
  | contains, some text => Text.occursIn value.toList text.toList
  | contains, none => false
  | notContains, some text => !Text.occursIn value.toList text.toList
  | notContains, none => true
  | startsWith, some text => value.toList.isPrefixOf text.toList
  | startsWith, none => false
  | equalsIgnoreCase, some text => Text.lower text == Text.lower value
  | equalsIgnoreCase, none => false
  | blank, some text => Text.blank text
  | blank, none => true
  | notBlank, some text => !Text.blank text
  | notBlank, none => false
  | null, text => text.isNone
  | notNull, text => text.isSome

/-- Does the value of a field pass the test?  Without a value of its own a test compares with the
empty text. -/
def test (operator : Operator) (actual : Option Json) (value : Option String) : Bool :=
  operator.testText (actual >>= Json.stringify?) (value.getD "")

end Operator

end Dossier
