import Dossier.Alert.Match
import Dossier.Registry.Document

/-!
Payloads: accounts and their records as they are displayed, with the alerts about them.

A list of alerts is absent where there is nothing to say, and never empty.
-/

namespace Dossier

structure FieldAlert where
  alertId : String
  operator : String
  filterValue : Option String
  actualValue : Json
  matched : Bool

structure RecordAlert where
  alertId : String
  label : String
  matchedFields : List FieldMatch
  message : Option String

structure FieldEntry where
  name : String
  value : Json
  /-- Queried, but not selected for display. -/
  hidden : Bool
  alerts : Option (List String)
  alertDetails : Option (List FieldAlert)

structure RecordPayload where
  id : Option String
  recordKey : String
  fields : List FieldEntry
  alerts : Option (List String)
  alertDetails : Option (List RecordAlert)
  linkSources : Option (List LinkSource)

structure Triggered where
  id : String
  label : String
  description : Option String
  found : List Match

structure AccountPayload where
  id : String
  recordKey : String
  fields : List FieldEntry
  alerts : Option (List Triggered)
  alertDetails : Option (List RecordAlert)
  related : List (String × List RecordPayload)

def Json.listMember (name : String) (write : α → Json) (items : Option (List α)) :
    List (String × Json) :=
  Json.optional name (items.map fun items => .array (items.map write))

namespace FieldAlert

def same (a b : FieldAlert) : Bool :=
  a.alertId == b.alertId && a.operator == b.operator && a.filterValue == b.filterValue &&
    a.actualValue == b.actualValue && a.matched == b.matched

instance : BEq FieldAlert := ⟨same⟩

def toJson (alert : FieldAlert) : Json :=
  .object ([("alertId", .text alert.alertId), ("operator", .text alert.operator)] ++
    Json.optional "filterValue" (alert.filterValue.map .text) ++
      [("actualValue", alert.actualValue), ("matched", .bool alert.matched)])

end FieldAlert

namespace RecordAlert

def same (a b : RecordAlert) : Bool :=
  a.alertId == b.alertId && a.label == b.label && a.matchedFields == b.matchedFields &&
    a.message == b.message

instance : BEq RecordAlert := ⟨same⟩

def toJson (alert : RecordAlert) : Json :=
  .object ([("alertId", .text alert.alertId), ("label", .text alert.label),
    ("matchedFields", .array (alert.matchedFields.map FieldMatch.toJson))] ++
      Json.optional "message" (alert.message.map .text))

end RecordAlert

namespace FieldEntry

def plain (name : String) (value : Json) (hidden : Bool) : FieldEntry :=
  ⟨name, value, hidden, none, none⟩

def toJson (field : FieldEntry) : Json :=
  .object ([("name", .text field.name), ("value", field.value)] ++
    (if field.hidden then [("hidden", .bool true)] else []) ++
      Json.listMember "alerts" .text field.alerts ++
        Json.listMember "alertDetails" FieldAlert.toJson field.alertDetails)

end FieldEntry

namespace RecordPayload

def toJson (record : RecordPayload) : Json :=
  .object ([("id", Json.textOrNull record.id), ("recordKey", .text record.recordKey),
    ("fields", .array (record.fields.map FieldEntry.toJson))] ++
      Json.listMember "alerts" .text record.alerts ++
        Json.listMember "alertDetails" RecordAlert.toJson record.alertDetails ++
          Json.listMember "linkSources" LinkSource.toJson record.linkSources)

end RecordPayload

namespace Triggered

def toJson (alert : Triggered) : Json :=
  .object ([("id", .text alert.id), ("label", .text alert.label)] ++
    Json.optional "description" (alert.description.map .text) ++
      [("matches", .array (alert.found.map Match.toJson))])

end Triggered

namespace AccountPayload

def toJson (account : AccountPayload) : Json :=
  .object ([("id", .text account.id), ("recordKey", .text account.recordKey),
    ("fields", .array (account.fields.map FieldEntry.toJson))] ++
      Json.listMember "alerts" Triggered.toJson account.alerts ++
        Json.listMember "alertDetails" RecordAlert.toJson account.alertDetails ++
          [("related", .object (account.related.map fun (object, records) =>
            (object, .array (records.map RecordPayload.toJson))))])

end AccountPayload

end Dossier
