import Dossier.Alert.Basic
import Dossier.Alert.Cleaned
import Dossier.Json.Compact
import Dossier.Json.Structure

/-!
Cleaning rules which people wrote.

A filter or node which makes no sense is dropped from its parent, and a parent which is left without
children is dropped in turn.  What is left is well formed: names are trimmed and not empty, values
are there exactly where operators need them, and scopes hold conditions and groups only.
-/

namespace Dossier.Sanitize

/-- The members of a component as they were written. -/
abbrev Members := List (String × Json)

def nonBlank? : Json → Option String
  | .text s => Text.trimmed? s
  | _ => none

def name (location : Location) (property what : String) (members : Members) : Cleaned String :=
  Cleaned.ofOption (members.lookup property >>= nonBlank?) (location.property property)
    (.nameEmpty what)

def shown : Json → String
  | .text s => s
  | json => json.compact

def operator (location : Location) (members : Members) : Cleaned Operator :=
  let flaw (value : String) := Flaw.unrecognized "operator" value
  let location := location.property "operator"
  match members.lookup "operator" with
  | some (.text raw) => Cleaned.ofOption (Operator.parse? raw) location (flaw raw)
  | some json => .drop location (flaw json.compact)
  | none => .drop location (flaw "")

/-- A value is kept as it was written, and only where the operator compares with one. -/
def value (location : Location) (operator : Operator) (members : Members) :
    Cleaned (Option String) :=
  if operator.requiresValue then
    match members.lookup "value" with
    | some (.text s) =>
        if Text.blank s then .drop (location.property "value") (.valueRequired operator)
        else .sound (some s)
    | _ => .drop (location.property "value") (.valueRequired operator)
  else .sound none

def filter (location : Location) (members : Members) : Cleaned Filter := do
  let field ← name location "field" "field" members
  let operator ← operator location members
  return ⟨field, operator, ← value location operator members⟩

def isWordBreak (c : Char) : Bool :=
  Text.isBlank c || c == '-' || c == '_'

/-- The words of a keyword in upper case, joined by underscores. -/
def normalized (raw : String) : String :=
  Text.upper ("_".intercalate
    ((Text.runs (fun c => !isWordBreak c) raw.toList).map String.ofList))

def keyword (location : Location) (property what : String) (default : α)
    (read : String → Option α) (members : Members) : Cleaned α :=
  let location := location.property property
  match members.lookup property with
  | none => .sound default
  | some .null => .sound default
  | some (.text raw) =>
      if Text.blank raw then .sound default
      else Cleaned.ofOption (read (normalized raw)) location (.unrecognized what (normalized raw))
  | some json => .drop location (.unrecognized what json.compact)

def object (location : Location) : Json → Cleaned Members
  | .object members => .sound members
  | _ => .drop location (.wrongShape "an object")

def items : Option Json → List Json
  | some (.array items) => items
  | _ => []

def each (location : Location) (clean : Location → α → Cleaned β) (items : List α) :
    List (Cleaned β) :=
  items.mapIdx fun index item => clean (location.item index) item

def filterGroup (location : Location) (json : Json) : Cleaned FilterGroup := do
  let members ← object location json
  let type ← name location "object" "object" members
  let filters ← Cleaned.collectSome location "filter group" <|
    each (location.property "filters") (fun place item => object place item >>= filter place)
      (items (members.lookup "filters"))
  return ⟨type, filters⟩

def filterGroups (location : Location) (groups : List Json) : Cleaned (List FilterGroup) :=
  Cleaned.collect (each location filterGroup groups)

/-- A filter of the older form, which names its own object. -/
def ownFilter (location : Location) (json : Json) : Cleaned FilterGroup := do
  let members ← object location json
  let type ← name location "object" "object" members
  return ⟨type, [← filter location members]⟩

def joinGroup (groups : List FilterGroup) (group : FilterGroup) : List FilterGroup :=
  match groups with
  | [] => [group]
  | first :: rest =>
      if first.object == group.object then ⟨first.object, first.filters ++ group.filters⟩ :: rest
      else first :: joinGroup rest group

/-- Filters of the older form, grouped by object in order of first appearance. -/
def ownFilters (location : Location) (filters : List Json) : Cleaned (List FilterGroup) :=
  Cleaned.collect (each location ownFilter filters) >>= fun groups =>
    .sound (groups.foldl joinGroup [])

def leastCount : Nat := 2

def greatestCount : Nat := wordSize 64 - 1

/-- Decimal digits after an optional plus sign, up to the greatest count. -/
def countOfText? (s : String) : Option Nat :=
  let digits :=
    match Text.trimChars s.toList with
    | '+' :: rest => rest
    | cs => cs
  if digits.isEmpty || !digits.all Char.isDigit then none
  else
    let count := digits.foldl (fun value c => 10 * value + (c.toNat - '0'.toNat)) 0
    if count ≤ greatestCount then some count else none

/-- A count is taken from whatever is close to one: the whole part of a positive number, or its
digits in a text. -/
def count? : Option Json → Option Nat
  | some (.number (.integer n)) => if 0 ≤ n then some n.toNat else none
  | some (.number (.double d)) =>
      if d.negative || d.isZero then none else some (min d.truncate greatestCount)
  | some (.text s) => countOfText? s
  | _ => none

def minCount (members : Members) : Nat :=
  max ((count? (members.lookup "minCount")).getD leastCount) leastCount

/-- What a node is meant to be, by the members it has. -/
def inferKind (members : Members) : RuleNode.Kind :=
  let has (name : String) := (members.lookup name).isSome
  if has "operation" || has "minCount" then .aggregate
  else if has "children" && has "object" then .scope
  else if has "children" then .group
  else .condition

def kind (location : Location) (members : Members) : Cleaned RuleNode.Kind :=
  match members.lookup "type" with
  | some (.text raw) =>
      let name := Text.lower (Text.trim raw)
      Cleaned.ofOption (RuleNode.Kind.ofName? name) (location.property "type")
        (.unrecognized "node type" name)
  | _ => .sound (inferKind members)

/-- How a JSON value is cleaned as a node, and how its items are if it is a list. -/
structure Walk where
  node : Location → Cleaned RuleNode
  items : List (Location → Cleaned RuleNode)

def children (location : Location) (members : List (String × Json × Walk)) :
    List (Location × Cleaned RuleNode) :=
  let walks := ((members.lookup "children").map fun (_, walk) => walk.items).getD []
  walks.mapIdx fun index walk =>
    let place := (location.property "children").item index
    (place, walk place)

def scopeChild (place : Location) (child : Cleaned RuleNode) : Cleaned RuleNode :=
  child >>= fun node =>
    match node with
    | .condition _ | .group _ _ => .sound node
    | .scope _ _ _ | .aggregate _ _ => .drop place (.scopeChild node.kind.name)

/-- Criteria which are given have to be sound, or the aggregate would be one over all records. -/
def criteria (location : Location) (members : List (String × Json × Walk)) :
    Cleaned (Option RuleNode) :=
  match members.lookup "criteria" with
  | none => .sound none
  | some (.null, _) => .sound none
  | some (_, walk) => walk.node (location.property "criteria") >>= fun node => .sound (some node)

def nodeOfMembers (members : List (String × Json × Walk)) (location : Location) :
    Cleaned RuleNode := do
  let values : Members := members.map fun (name, json, _) => (name, json)
  match ← kind location values with
  | .condition =>
      let type ← name location "object" "object" values
      return .condition ⟨type, ← filter location values⟩
  | .group =>
      let logic ← keyword location "logic" "logic" Logic.and Logic.ofName? values
      let nodes ← Cleaned.collectSome location "group" ((children location members).map (·.2))
      return .group logic nodes
  | .scope =>
      let type ← name location "object" "object" values
      let quantifier ← keyword location "match" "quantifier" Quantifier.any Quantifier.ofName?
        values
      let nodes ← Cleaned.collectSome location "scope"
        ((children location members).map fun (place, child) => scopeChild place child)
      return .scope type quantifier nodes
  | .aggregate =>
      let operation (word : String) := if word == Duplicates.operation then some () else none
      let _ ← keyword location "operation" "operation" () operation values
      let type ← name location "object" "object" values
      let field ← name location "field" "field" values
      let distinctField := values.lookup "distinctField" >>= nonBlank?
      return .aggregate ⟨type, field, minCount values, distinctField⟩
        (← criteria location members)

def noNode (location : Location) : Cleaned RuleNode :=
  .drop location (.wrongShape "an object")

def walk (json : Json) : Walk :=
  json.fold (fun _ => ⟨noNode, []⟩)
    (fun items => ⟨noNode, items.map fun (_, walk) => walk.node⟩)
    (fun members => ⟨nodeOfMembers members, []⟩)

def node (location : Location) (json : Json) : Cleaned RuleNode :=
  (walk json).node location

end Dossier.Sanitize
