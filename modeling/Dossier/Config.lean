import Dossier.AccountId
import Dossier.Document.Reader
import Dossier.Record
import Dossier.Registry.Builtin
import Dossier.Registry.Document
import Dossier.Text.Casing

/-!
The operator's configuration: which fields are displayed, which types are shown and in which order,
how contact points are reached, which alerts are watched, and the registry itself.
-/

namespace Dossier

/-- Whether a linked type is displayed; its place in a list of these is its place on display. -/
structure ObjectVisibility where
  key : String
  hidden : Bool
deriving DecidableEq, Repr

structure Config where
  fields : List (String × List String)
  objects : List ObjectVisibility
  contactPointLinks : List (String × List LinkPath)
  /-- Alert definitions as the operator wrote them. -/
  alerts : Json
  override : Option Registry

namespace Config

def displayLimit : Nat := 5

def empty : Config := ⟨[], [], [], .null, none⟩

def registry (config : Config) : Registry :=
  config.override.getD Registry.builtin

/-- Fields which can be displayed: trimmed, distinct, not too many, and without the identifier,
which is always displayed. -/
def sanitizeFields (fields : List String) : List String :=
  (distinct ((fields.map Text.trim).filter fun field =>
    field != "" && !Text.sameIgnoringAsciiCase field Record.idField)).take displayLimit

/-- The operator's selection if it leaves any field, or else the defaults of the registry. -/
def displayFields (config : Config) (object : String) : List String :=
  let selected := sanitizeFields ((config.fields.lookup object).getD [])
  if !selected.isEmpty then selected
  else
    match config.registry.get? object with
    | some type => sanitizeFields type.defaultFields
    | none => []

def isLinkedType (config : Config) (key : String) : Bool :=
  match config.registry.get? key with
  | some type => type.isLinked
  | none => false

def firstOfEach : List ObjectVisibility → List ObjectVisibility :=
  fun views => views.foldl (fun kept view =>
    if kept.any (·.key == view.key) then kept else kept ++ [view]) []

/-- Every linked type: those which the operator lists, in that order, then the others. -/
def objectViews (config : Config) : List ObjectVisibility :=
  let listed := config.objects.filter fun view => config.isLinkedType view.key
  firstOfEach (listed ++ config.registry.linked.map fun type => ⟨type.name, false⟩)

/-- The paths by which contact points of a type are reached: the selected ones, or both, as far as
the registry has a field for them. -/
def linkPaths (config : Config) (object : String) : List LinkPath :=
  match config.registry.get? object with
  | some ⟨_, _, _, .contactPoint contactField individualField, _⟩ =>
      let selected := (config.contactPointLinks.lookup object).getD []
      LinkPath.all.filter fun path =>
        (selected.isEmpty || selected.contains path) &&
          match path with
          | .contact => contactField.isSome
          | .individual => individualField.isSome
  | _ => []

end Config

namespace ObjectVisibility

def toJson (view : ObjectVisibility) : Json :=
  .object [("key", .text view.key), ("hidden", .bool view.hidden)]

def ofDocument? (document : Document) : Option ObjectVisibility := do
  let members ← document.structure? ["key", "hidden"] .refused
  return ⟨← Document.required members "key" Document.text?,
    ← Document.defaulted members "hidden" Document.flag? false⟩

end ObjectVisibility

inductive ConfigError where
  | parse
  | registry (error : RegistryError)

namespace ConfigError

/-- The message, and that of its cause if it has one which is known here. -/
def messages : ConfigError → List String
  | .parse => ["failed to parse explorer configuration"]
  | .registry error => ["invalid schema registry", error.message]

end ConfigError

namespace Config

def toJson (config : Config) : Json :=
  let member (name : String) (absent : Bool) (value : Json) : List (String × Json) :=
    if absent then [] else [(name, value)]
  .object (
    member "fields" config.fields.isEmpty
      (.object (config.fields.map fun entry => (entry.1, .texts entry.2))) ++
    member "objects" config.objects.isEmpty (.array (config.objects.map ObjectVisibility.toJson)) ++
    member "contactPointLinks" config.contactPointLinks.isEmpty
      (.object (config.contactPointLinks.map fun entry =>
        (entry.1, .texts (entry.2.map LinkPath.name)))) ++
    member "alerts" (config.alerts matches .null) config.alerts ++
    Json.optional "registry" (config.override.map Registry.toJson))

open Document (required defaulted text? texts? list? table? nullable?) in
def ofDocument? (document : Document) : Option Config := do
  let members ← document.structure? ["fields", "objects", "contactPointLinks", "alerts", "registry"]
    .refused
  return {
    fields := ← defaulted members "fields" (table? texts?) []
    objects := ← defaulted members "objects" (list? ObjectVisibility.ofDocument?) []
    contactPointLinks :=
      ← defaulted members "contactPointLinks" (table? (list? LinkPath.ofDocument?)) []
    alerts := ← defaulted members "alerts" Document.toJson? .null
    override := ← defaulted members "registry" (nullable? Registry.ofDocument?) none }

/-- ASCII white space, of which an empty configuration may consist. -/
def isAsciiSpace (c : Char) : Bool :=
  c == ' ' || c == '\t' || c == '\n' || c == '\x0c' || c == '\r'

/-- A configuration whose registry is sound.  Nothing at all configures nothing. -/
def ofText (text : String) : Except ConfigError Config :=
  let read :=
    if text.toList.all isAsciiSpace then some empty
    else Document.read? .configuration text >>= ofDocument?
  match read with
  | none => .error .parse
  | some config =>
      match config.registry.validate with
      | .ok () => .ok config
      | .error error => .error (.registry error)

end Config

end Dossier
