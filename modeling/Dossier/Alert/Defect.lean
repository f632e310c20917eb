import Dossier.Location
import Dossier.Operator
import Dossier.Text.Quoted

/-!
Defects of alert definitions: what was dropped or replaced, where, and why.
-/

namespace Dossier

inductive Flaw where
  | wrongShape (expected : String)
  | labelEmpty
  | duplicateId (id assigned : String)
  | nameEmpty (what : String)
  | unrecognized (what value : String)
  | valueRequired (operator : Operator)
  | scopeChild (kind : String)
  | noChildren (kind : String)
  | noRule
deriving DecidableEq, Repr

structure Defect where
  location : Location
  flaw : Flaw
deriving DecidableEq, Repr

namespace Flaw

def kind : Flaw → String
  | wrongShape _ => "WrongShape"
  | labelEmpty => "LabelEmpty"
  | duplicateId _ _ => "DuplicateId"
  | nameEmpty _ => "NameEmpty"
  | unrecognized _ _ => "Unrecognized"
  | valueRequired _ => "ValueRequired"
  | scopeChild _ => "ScopeChild"
  | noChildren _ => "NoChildren"
  | noRule => "NoRule"

def message : Flaw → String
  | wrongShape expected => "expected " ++ expected
  | labelEmpty => "alert label cannot be empty"
  | duplicateId id assigned =>
      "alert id " ++ Text.quoted id ++ " is already in use and was replaced with " ++
        Text.quoted assigned
  | nameEmpty what => what ++ " cannot be empty"
  | unrecognized what value => Text.quoted value ++ " is not a recognized " ++ what
  | valueRequired operator =>
      "operator " ++ operator.name ++ " requires a non-empty string value"
  | scopeChild kind => kind ++ " nodes cannot be direct children of a scope"
  | noChildren kind => kind ++ " has no valid children"
  | noRule => "alert has no valid rule"

end Flaw

namespace Defect

def message (defect : Defect) : String :=
  defect.location.pointer ++ ": " ++ defect.flaw.message

end Defect

end Dossier
