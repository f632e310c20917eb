import Dossier.Alert.Basic
import Dossier.Text.Blank

/-!
What a rule has to be before it is evaluated.  A rule which fails is not evaluated at all; whatever
was cleaned before passes.
-/

namespace Dossier

inductive AlertError where
  | nestedScope (object nested : String)
  | aggregateInScope (object nested : String)
  | missingValue (object field : String) (operator : Operator)
  | minCount (object field : String) (minCount : Nat)
  | emptyRule
deriving DecidableEq, Repr

namespace AlertError

def kind : AlertError → String
  | nestedScope _ _ => "NestedScope"
  | aggregateInScope _ _ => "AggregateInScope"
  | missingValue _ _ _ => "MissingValue"
  | minCount _ _ _ => "MinCount"
  | emptyRule => "EmptyRule"

def message : AlertError → String
  | nestedScope object nested =>
      "scope over " ++ object ++ " cannot directly contain a scope over " ++ nested
  | aggregateInScope object nested =>
      "scope over " ++ object ++ " cannot directly contain an aggregate over " ++ nested
  | missingValue object field operator =>
      "operator " ++ operator.name ++ " of " ++ object ++ "." ++ field ++ " requires a value"
  | minCount object field count =>
      "aggregate over " ++ object ++ "." ++ field ++ " has minCount " ++ toString count ++
        ", but it must be at least 2"
  | emptyRule => "alert has no filter groups"

end AlertError

namespace Filter

/-- An operator which compares needs a value which is not blank. -/
def check (object : String) (filter : Filter) : Except AlertError Unit :=
  let given :=
    match filter.value with
    | some value => !Text.blank value
    | none => false
  if given || !filter.operator.requiresValue then .ok ()
  else .error (.missingValue object filter.field filter.operator)

end Filter

namespace RuleNode

mutual

def check : RuleNode → Except AlertError Unit
  | .condition ⟨object, filter⟩ => filter.check object
  | .group _ children => checkAll children
  | .scope object _ children => checkScoped object children
  | .aggregate duplicates criteria =>
      if duplicates.minCount < 2 then
        .error (.minCount duplicates.object duplicates.field duplicates.minCount)
      else checkCriteria criteria

def checkAll : List RuleNode → Except AlertError Unit
  | [] => .ok ()
  | node :: rest =>
      match check node with
      | .ok () => checkAll rest
      | .error error => .error error

/-- The children of a scope, which are neither scopes nor aggregates. -/
def checkScoped (object : String) : List RuleNode → Except AlertError Unit
  | [] => .ok ()
  | .scope nested _ _ :: _ => .error (.nestedScope object nested)
  | .aggregate nested _ :: _ => .error (.aggregateInScope object nested.object)
  | .condition ⟨type, filter⟩ :: rest =>
      match filter.check type with
      | .ok () => checkScoped object rest
      | .error error => .error error
  | .group _ children :: rest =>
      match checkAll children with
      | .ok () => checkScoped object rest
      | .error error => .error error

def checkCriteria : Option RuleNode → Except AlertError Unit
  | none => .ok ()
  | some criteria => check criteria

end

end RuleNode

namespace AlertRule

def check : AlertRule → Except AlertError Unit
  | .simple [] => .error .emptyRule
  | .simple groups =>
      groups.forM fun group => group.filters.forM fun filter => filter.check group.object
  | .advanced root => root.check

end AlertRule

end Dossier
