import Dossier.Fetch.Plan

/-!
Layouts: how the account and its linked types are displayed.
-/

namespace Dossier

structure ObjectLayout where
  key : String
  label : String
  displayFields : List String
  /-- Fields which are there but hidden, unless they are displayed anyway. -/
  linkFields : List String
  hidden : Bool
deriving DecidableEq, Repr

structure ObjectView where
  key : String
  label : String
deriving DecidableEq, Repr

/-- The layout of the account, and those of the linked types in display order. -/
structure Layout where
  account : ObjectLayout
  objects : List ObjectLayout
deriving DecidableEq, Repr

namespace ObjectLayout

def toJson (layout : ObjectLayout) : Json :=
  .object [("key", .text layout.key), ("label", .text layout.label),
    ("hidden", .bool layout.hidden), ("displayFields", .texts layout.displayFields),
    ("linkFields", .texts layout.linkFields)]

def view (layout : ObjectLayout) : ObjectView := ⟨layout.key, layout.label⟩

end ObjectLayout

namespace ObjectView

def toJson (view : ObjectView) : Json :=
  .object [("key", .text view.key), ("label", .text view.label)]

end ObjectView

namespace Layout

/-- A type displays the fields which were planned; without a plan, those which are configured. -/
def ofObject (config : Config) (plans : List (String × ObjectPlan)) (key : String)
    (hidden : Bool) : ObjectLayout :=
  let label := config.registry.label key
  match plans.lookup key with
  | some plan => ⟨key, label, plan.displayFields, plan.linkFields, hidden⟩
  | none => ⟨key, label, config.displayFields key, config.registry.linkFields key, hidden⟩

def make (config : Config) (plans : List (String × ObjectPlan)) : Layout where
  account := ofObject config plans EntityType.account false
  objects := config.objectViews.map fun view => ofObject config plans view.key view.hidden

def visible (layout : Layout) : List ObjectLayout :=
  layout.objects.filter fun object => !object.hidden

def views (layout : Layout) : List ObjectView :=
  layout.visible.map (·.view)

end Layout

end Dossier
