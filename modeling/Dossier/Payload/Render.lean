import Dossier.Graph.Pool
import Dossier.Layout
import Dossier.Payload.Basic

/-!
Rendering account graphs as payloads, without alerts.
-/

namespace Dossier

namespace ObjectLayout

/-- The identifier, the displayed fields, and the link fields which are not among them. -/
def fieldEntries (layout : ObjectLayout) (record : Record) : List FieldEntry :=
  let shown := Record.idField :: layout.displayFields
  let others := distinct (layout.linkFields.filter fun field => !shown.contains field)
  shown.map (fun field => FieldEntry.plain field (record.value field) false) ++
    others.map fun field => FieldEntry.plain field (record.value field) true

def render (layout : ObjectLayout) (record : GraphRecord) : RecordPayload where
  id := record.id?
  recordKey := record.key
  fields := layout.fieldEntries record.record
  alerts := none
  alertDetails := none
  linkSources := if record.linkSources.isEmpty then none else some record.linkSources

end ObjectLayout

namespace Layout

def render (layout : Layout) (graph : AccountGraph) : AccountPayload where
  id := graph.accountId
  recordKey := graph.account.key
  fields := layout.account.fieldEntries graph.account.record
  alerts := none
  alertDetails := none
  related := layout.visible.map fun object =>
    (object.key, (graph.records object.key).map object.render)

def summary (layout : Layout) (pools : Pools) : List (String × Nat) :=
  layout.visible.map fun object => (object.key, pools.count object.key)

end Layout

end Dossier
