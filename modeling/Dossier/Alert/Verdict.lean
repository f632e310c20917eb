import Dossier.Alert.Basic
import Dossier.Alert.Match

/-!
Verdicts of rules on an account graph, with the matches behind them.

A tree is evaluated in a context: the record in scope, which is the account at first.  A condition
on the type in context tests that record.  A condition on any other type holds if some record of
that type passes.
-/

namespace Dossier

structure Verdict where
  passed : Bool
  found : List Match

structure Context where
  graph : AccountGraph
  object : String
  record : GraphRecord

namespace Filter

def test (filter : Filter) (record : GraphRecord) : Bool :=
  filter.operator.test ((record.record.get? filter.field).map .scalar) filter.value

def fieldMatch (filter : Filter) (record : GraphRecord) : FieldMatch :=
  ⟨filter.field, filter.operator.name, filter.value, record.record.value filter.field,
    filter.test record⟩

end Filter

namespace Condition

def verdict (condition : Condition) (context : Context) : Verdict :=
  if condition.object == context.object then
    ⟨condition.filter.test context.record,
      [Match.ofRecord context.object context.record [condition.filter.fieldMatch context.record]]⟩
  else
    let passing := (context.graph.records condition.object).filter condition.filter.test
    ⟨!passing.isEmpty, passing.map fun record =>
      Match.ofRecord condition.object record [condition.filter.fieldMatch record]⟩

end Condition

namespace Logic

/-- The matches of a group are those of its children, as far as they made it pass. -/
def verdict : Logic → List Verdict → Verdict
  | .and, children =>
      if children.all (·.passed) then ⟨true, children.flatMap (·.found)⟩ else ⟨false, []⟩
  | .or, children =>
      let passing := children.filter (·.passed)
      ⟨!passing.isEmpty, passing.flatMap (·.found)⟩

end Logic

/-- A record of a scope, and the verdicts of the scope's children on it. -/
structure Sighting where
  record : GraphRecord
  children : List Verdict

namespace Sighting

def passed (sighting : Sighting) : Bool :=
  sighting.children.all (·.passed)

def found (sighting : Sighting) : List Match :=
  sighting.children.flatMap (·.found)

/-- A failing record is named even if none of its children is about it. -/
def failure (object : String) (sighting : Sighting) : List Match :=
  if sighting.found.any (·.key == (object, sighting.record.key)) then sighting.found
  else Match.ofRecord object sighting.record [] :: sighting.found

end Sighting

namespace Quantifier

/-- Does the quantifier hold where `passing` of `count` records pass? -/
def holds (quantifier : Quantifier) (count passing : Nat) : Bool :=
  match quantifier with
  | .any => passing != 0
  | .all => count != 0 && passing == count
  | .none => passing == 0
  | .notAll => count != 0 && passing != count

/-- The sightings which speak for a quantifier that holds. -/
def evidence (quantifier : Quantifier) (object : String) (sightings : List Sighting) :
    List Match :=
  match quantifier with
  | .any | .all => (sightings.filter (·.passed)).flatMap (·.found)
  | .none => []
  | .notAll => (sightings.filter fun sighting => !sighting.passed).flatMap (·.failure object)

/-- A match of the account which sums up the records of a scope. -/
def summary (quantifier : Quantifier) (graph : AccountGraph) (object : String)
    (count passing : Nat) : Match :=
  { Match.ofRecord EntityType.account graph.account [] with
    message := some (toString passing ++ " of " ++ toString count ++ " " ++ object ++
      " records satisfy the conditions (" ++ quantifier.name ++ ")") }

/-- A scope which holds without a record to show for it is explained at the account. -/
def verdict (quantifier : Quantifier) (graph : AccountGraph) (object : String)
    (sightings : List Sighting) : Verdict :=
  let count := sightings.length
  let passing := (sightings.filter (·.passed)).length
  if quantifier.holds count passing then
    let found := quantifier.evidence object sightings
    ⟨true, if found.isEmpty then [quantifier.summary graph object count passing] else found⟩
  else ⟨false, []⟩

end Quantifier

namespace Duplicates

/-- Records by their text of the field, in order of first appearance; blank texts are none. -/
def groups (duplicates : Duplicates) (records : List GraphRecord) :
    List (String × List GraphRecord) :=
  Table.group (records.filterMap fun record =>
    (record.record.evidence? duplicates.field).map fun text => (text, record))

/-- Are there enough records, and if need be, two texts of the other field among them? -/
def qualifies (duplicates : Duplicates) (records : List GraphRecord) : Bool :=
  duplicates.minCount ≤ records.length &&
    match duplicates.distinctField with
    | none => true
    | some field => 2 ≤ (distinct (records.filterMap (·.record.evidence? field))).length

/-- A duplicate record shows the text which it shares, and its own value of the other field. -/
def recordMatch (duplicates : Duplicates) (text : String) (record : GraphRecord) : Match :=
  let shared : FieldMatch := ⟨duplicates.field, "duplicates", none, .text text, true⟩
  let told := duplicates.distinctField.map fun field =>
    (⟨field, "distinct", none, record.record.value field, true⟩ : FieldMatch)
  Match.ofRecord duplicates.object record (shared :: told.toList)

def verdict (duplicates : Duplicates) (records : List GraphRecord) : Verdict :=
  let found := ((duplicates.groups records).filter fun group =>
    duplicates.qualifies group.2).flatMap fun group =>
      group.2.map (duplicates.recordMatch group.1)
  ⟨!found.isEmpty, found⟩

end Duplicates

namespace RuleNode

mutual

/-- Every child is evaluated, so that all of the evidence is found. -/
def verdict : RuleNode → Context → Verdict
  | .condition tested, context => tested.verdict context
  | .group logic children, context => logic.verdict (verdicts children context)
  | .scope object quantifier children, context =>
      quantifier.verdict context.graph object ((context.graph.records object).map fun record =>
        ⟨record, verdicts children { context with object := object, record := record }⟩)
  | .aggregate duplicates criteria, context =>
      duplicates.verdict ((context.graph.records duplicates.object).filter fun record =>
        satisfies criteria { context with object := duplicates.object, record := record })

def verdicts : List RuleNode → Context → List Verdict
  | [], _ => []
  | node :: rest, context => verdict node context :: verdicts rest context

def satisfies : Option RuleNode → Context → Bool
  | none, _ => true
  | some criteria, context => (verdict criteria context).passed

end

end RuleNode

namespace FilterGroup

def byObject (groups : List FilterGroup) : List (String × List Filter) :=
  groups.foldl (fun objects group =>
    Table.put group.object ((objects.lookup group.object).getD [] ++ group.filters) objects) []

def satisfying (graph : AccountGraph) (object : String) (filters : List Filter) :
    List GraphRecord :=
  (graph.records object).filter fun record => filters.all (·.test record)

/-- Every type has to have a record which passes all filters on that type. -/
def verdict (groups : List FilterGroup) (graph : AccountGraph) : Verdict :=
  let objects := byObject groups
  let found := objects.map fun entry => (satisfying graph entry.1 entry.2).map fun record =>
    Match.ofRecord entry.1 record (entry.2.map (·.fieldMatch record))
  ⟨!objects.isEmpty && found.all (fun found => !found.isEmpty), found.flatten⟩

end FilterGroup

end Dossier
