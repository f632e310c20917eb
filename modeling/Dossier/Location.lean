/-!
Places in a document, shown as JSON pointers.
-/

namespace Dossier

inductive Step where
  | property (name : String)
  | item (index : Nat)
deriving DecidableEq, Repr

/-- The steps from the whole document to a part of it. -/
structure Location where
  steps : List Step
deriving DecidableEq, Repr

namespace Step

/-- Inside a pointer a slash would end the step, and a tilde is the sign of an escape. -/
def escape (c : Char) : List Char :=
  match c with
  | '~' => ['~', '0']
  | '/' => ['~', '1']
  | c => [c]

def chars : Step → List Char
  | .property name => name.toList.flatMap escape
  | .item index => (toString index).toList

end Step

namespace Location

def root : Location := ⟨[]⟩

def property (location : Location) (name : String) : Location :=
  ⟨location.steps ++ [.property name]⟩

def item (location : Location) (index : Nat) : Location :=
  ⟨location.steps ++ [.item index]⟩

def pointer (location : Location) : String :=
  String.ofList (location.steps.flatMap fun step => '/' :: step.chars)

end Location

end Dossier
