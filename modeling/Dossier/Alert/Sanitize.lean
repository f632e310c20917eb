import Dossier.Alert.Sanitize.Rule

/-!
Cleaning the alert definitions of a configuration.

Nothing in them is trusted, and nothing wrong with one alert keeps another from being used.  Every
definition which is left has a label, a rule, and an identifier of its own; missing and repeated
identifiers are replaced from a supply of fresh ones.
-/

namespace Dossier

/-- The definitions which are left, and the defects of what is not. -/
structure Sanitized where
  alerts : List AlertDefinition
  defects : List Defect

namespace Sanitize

/-- A definition which may still lack an identifier. -/
structure Draft where
  id : Option String
  label : String
  description : Option String
  rule : AlertRule

/-- The shape of a rule decides what it is, whatever mode is declared.  Filters beside an alert
without a rule are a rule of the older form. -/
def writtenRule (location : Location) (members : Members) : Cleaned AlertRule :=
  match members.lookup "rule", members.lookup "filters" with
  | some (.array groups), _ =>
      .simple <$> Cleaned.nonEmpty (filterGroups (location.property "rule") groups)
  | some (.object parts), _ => .advanced <$> node (location.property "rule") (.object parts)
  | some .null, some (.array filters) | none, some (.array filters) =>
      .simple <$> Cleaned.nonEmpty (ownFilters (location.property "filters") filters)
  | _, _ => ⟨none, []⟩

def rule (location : Location) (members : Members) : Cleaned AlertRule :=
  Cleaned.needed location .noRule (writtenRule location members)

def draft (location : Location) (json : Json) : Cleaned Draft := do
  let members ← object location json
  let text (name : String) := members.lookup name >>= nonBlank?
  let label ← Cleaned.ofOption (text "label") (location.property "label") .labelEmpty
  return ⟨text "id", label, text "description", ← rule location members⟩

def Draft.withId (draft : Draft) (id : String) : AlertDefinition :=
  ⟨id, draft.label, draft.description, draft.rule.mode, draft.rule⟩

def inUse (alerts : List AlertDefinition) (id : String) : Bool :=
  alerts.any (·.id == id)

/-- The next definition, given those before it.  An identifier which is missing or in use is
replaced by one of the supply, whose next number is `next`. -/
def identify (fresh : Nat → String) (before : List AlertDefinition) (next : Nat)
    (location : Location) (draft : Draft) : AlertDefinition × List Defect × Nat :=
  match draft.id with
  | none => (draft.withId (fresh next), [], next + 1)
  | some id =>
      if inUse before id then
        (draft.withId (fresh next),
          [⟨location.property "id", .duplicateId id (fresh next)⟩], next + 1)
      else (draft.withId id, [], next)

def alertsFrom (fresh : Nat → String) (index next : Nat) (before : List AlertDefinition) :
    List Json → Sanitized
  | [] => ⟨before, []⟩
  | json :: rest =>
      let location := Location.root.item index
      let cleaned := draft location json
      match cleaned.value with
      | none =>
          let others := alertsFrom fresh (index + 1) next before rest
          ⟨others.alerts, cleaned.defects ++ others.defects⟩
      | some draft =>
          let (alert, defects, next) := identify fresh before next location draft
          let others := alertsFrom fresh (index + 1) next (before ++ [alert]) rest
          ⟨others.alerts, cleaned.defects ++ defects ++ others.defects⟩

end Sanitize

/-- The definitions of a document, which is a list of them or nothing.  `fresh` supplies identifiers
in the order of the definitions which receive one. -/
def sanitizeAlerts (fresh : Nat → String) : Json → Sanitized
  | .null => ⟨[], []⟩
  | .array alerts => Sanitize.alertsFrom fresh 0 0 [] alerts
  | _ => ⟨[], [⟨.root, .wrongShape "an array of alerts"⟩]⟩

end Dossier
