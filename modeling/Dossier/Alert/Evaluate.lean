import Dossier.Alert.Check
import Dossier.Alert.Verdict

/-!
Evaluating an alert on an account.
-/

namespace Dossier

/-- What came of an alert.  One which did not pass has no matches, and one which did has one match
per record. -/
structure Outcome where
  passed : Bool
  found : List Match

namespace Outcome

def ofVerdict (verdict : Verdict) : Outcome :=
  ⟨verdict.passed, if verdict.passed then Match.dedup verdict.found else []⟩

def toJson (outcome : Outcome) : Json :=
  .object [("passed", .bool outcome.passed), ("matches", .array (outcome.found.map Match.toJson))]

end Outcome

namespace AlertRule

/-- A tree is evaluated with the account record in scope. -/
def verdict (rule : AlertRule) (graph : AccountGraph) : Verdict :=
  match rule with
  | .simple groups => FilterGroup.verdict groups graph
  | .advanced root => root.verdict ⟨graph, EntityType.account, graph.account⟩

end AlertRule

namespace AlertDefinition

def evaluate (alert : AlertDefinition) (graph : AccountGraph) : Except AlertError Outcome :=
  match alert.rule.check with
  | .ok () => .ok (Outcome.ofVerdict (alert.rule.verdict graph))
  | .error error => .error error

end AlertDefinition

end Dossier
