import Dossier.Alert.Basic
import Dossier.Payload.Basic

/-!
Attaching alerts to payloads.

The account lists the alerts which it triggered.  Every matched record lists its alerts, and so does
every matched field; a matched field which is not displayed is added as a hidden one.  Matches of
records which are not displayed annotate nothing.
-/

namespace Dossier

/-- An item is added to a list, which may be absent, unless it is there. -/
def pushNew [BEq α] (item : α) (items : Option (List α)) : Option (List α) :=
  let items := items.getD []
  some (if items.contains item then items else items ++ [item])

def updateFirst (p : α → Bool) (change : α → α) : List α → List α
  | [] => []
  | item :: rest => if p item then change item :: rest else item :: updateFirst p change rest

namespace Triggered

def ofAlert (alert : AlertDefinition) (found : List Match) : Triggered :=
  ⟨alert.id, alert.label, alert.description, found⟩

def recordAlert (alert : Triggered) (m : Match) : RecordAlert :=
  ⟨alert.id, alert.label, m.matchedFields, m.message⟩

def fieldAlert (alert : Triggered) (field : FieldMatch) : FieldAlert :=
  ⟨alert.id, field.operator, field.filterValue, field.actualValue, field.matched⟩

end Triggered

namespace FieldEntry

def annotate (alert : Triggered) (field : FieldMatch) (entry : FieldEntry) : FieldEntry :=
  { entry with
    alerts := pushNew alert.id entry.alerts
    alertDetails := pushNew (alert.fieldAlert field) entry.alertDetails }

/-- The entry of a matched field is annotated, after it was added if there was none. -/
def annotateAll (alert : Triggered) (entries : List FieldEntry) (field : FieldMatch) :
    List FieldEntry :=
  let entries :=
    if entries.any (·.name == field.name) then entries
    else entries ++ [plain field.name field.actualValue true]
  updateFirst (·.name == field.name) (annotate alert field) entries

end FieldEntry

namespace RecordPayload

def annotate (alert : Triggered) (m : Match) (record : RecordPayload) : RecordPayload :=
  { record with
    alerts := pushNew alert.id record.alerts
    alertDetails := pushNew (alert.recordAlert m) record.alertDetails
    fields := m.matchedFields.foldl (FieldEntry.annotateAll alert) record.fields }

end RecordPayload

namespace AccountPayload

/-- A match is about the account itself, or about the first displayed record of its key. -/
def annotate (alert : Triggered) (payload : AccountPayload) (m : Match) : AccountPayload :=
  if m.object == EntityType.account && m.recordKey == payload.recordKey then
    { payload with
      alertDetails := pushNew (alert.recordAlert m) payload.alertDetails
      fields := m.matchedFields.foldl (FieldEntry.annotateAll alert) payload.fields }
  else
    { payload with
      related := updateFirst (·.1 == m.object) (fun entry =>
        (entry.1, updateFirst (·.recordKey == m.recordKey) (RecordPayload.annotate alert m)
          entry.2)) payload.related }

def attachAlerts (payload : AccountPayload) (triggered : List Triggered) : AccountPayload :=
  let annotated := triggered.foldl (fun payload alert =>
    alert.found.foldl (annotate alert) payload) payload
  if triggered.isEmpty then annotated else { annotated with alerts := some triggered }

end AccountPayload

end Dossier
