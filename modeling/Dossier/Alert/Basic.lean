import Dossier.Operator

/-!
Alert definitions.

A simple rule is a list of filter groups; an advanced rule is a tree.  A definition declares the
mode of its rule, which need not be true of a definition from outside.
-/

namespace Dossier

/-- A test of one field, of whatever record it is applied to. -/
structure Filter where
  field : String
  operator : Operator
  value : Option String
deriving DecidableEq, Repr

/-- Filters which one record of a type has to pass together. -/
structure FilterGroup where
  object : String
  filters : List Filter
deriving DecidableEq, Repr

structure Condition where
  object : String
  filter : Filter
deriving DecidableEq, Repr

inductive Logic where
  | and
  | or
deriving DecidableEq, Repr

/-- How many of a scope's records have to satisfy its children. -/
inductive Quantifier where
  | any
  | all
  | none
  | notAll
deriving DecidableEq, Repr

/-- Which records count as duplicates: at least `minCount` of the same text of `field`, among which
there are two texts of `distinctField` if there is one. -/
structure Duplicates where
  object : String
  field : String
  minCount : Nat
  distinctField : Option String
deriving DecidableEq, Repr

inductive RuleNode where
  | condition (condition : Condition)
  | group (logic : Logic) (children : List RuleNode)
  /-- The children hold of as many records of `object` as the quantifier says. -/
  | scope (object : String) (quantifier : Quantifier) (children : List RuleNode)
  | aggregate (duplicates : Duplicates) (criteria : Option RuleNode)
deriving Repr

inductive AlertMode where
  | simple
  | advanced
deriving DecidableEq, Repr

inductive AlertRule where
  | simple (groups : List FilterGroup)
  | advanced (root : RuleNode)
deriving Repr

structure AlertDefinition where
  id : String
  label : String
  description : Option String
  mode : AlertMode
  rule : AlertRule
deriving Repr

namespace Logic

def all : List Logic := [and, or]

def name : Logic → String
  | and => "AND"
  | or => "OR"

def ofName? (name : String) : Option Logic :=
  all.find? (·.name == name)

@[simp] theorem ofName?_name (logic : Logic) : ofName? logic.name = some logic := by
  cases logic <;> rfl

end Logic

namespace Quantifier

def every : List Quantifier := [any, all, none, notAll]

def name : Quantifier → String
  | any => "ANY"
  | all => "ALL"
  | none => "NONE"
  | notAll => "NOT_ALL"

def ofName? (name : String) : Option Quantifier :=
  every.find? (·.name == name)

@[simp] theorem ofName?_name (quantifier : Quantifier) :
    ofName? quantifier.name = some quantifier := by
  cases quantifier <;> rfl

end Quantifier

namespace AlertMode

def all : List AlertMode := [simple, advanced]

def name : AlertMode → String
  | simple => "simple"
  | advanced => "advanced"

def ofName? (name : String) : Option AlertMode :=
  all.find? (·.name == name)

@[simp] theorem ofName?_name (mode : AlertMode) : ofName? mode.name = some mode := by
  cases mode <;> rfl

end AlertMode

namespace Duplicates

/-- The one operation of an aggregate. -/
def operation : String := "DUPLICATES"

end Duplicates

namespace RuleNode

/-- What a node may be, in the order in which the kinds are numbered. -/
inductive Kind where
  | condition
  | group
  | scope
  | aggregate
deriving DecidableEq, Repr

namespace Kind

def all : List Kind := [condition, group, scope, aggregate]

def name : Kind → String
  | condition => "condition"
  | group => "group"
  | scope => "scope"
  | aggregate => "aggregate"

def ofName? (name : String) : Option Kind :=
  all.find? (·.name == name)

end Kind

def kind : RuleNode → Kind
  | .condition _ => .condition
  | .group _ _ => .group
  | .scope _ _ _ => .scope
  | .aggregate _ _ => .aggregate

end RuleNode

namespace AlertRule

def mode : AlertRule → AlertMode
  | .simple _ => .simple
  | .advanced _ => .advanced

end AlertRule

end Dossier
