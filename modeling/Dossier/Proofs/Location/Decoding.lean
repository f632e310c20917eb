import Mathlib.Data.List.Basic
import Dossier.Proofs.Location

/-!
Decoding the text of a pointer.

A text is decoded by splitting it at its slashes and replacing the escapes in each part, those of
slashes before those of tildes.  The pointer of a location is decoded as the names and the digits of
its path, and two locations have one pointer just where these are the same.
-/

namespace Dossier

namespace Pointer

/-- Replaces two characters which stand one after the other, from the left, by a single one. -/
def replacePair (first second new : Char) : List Char → List Char
  | c :: next :: rest =>
      if c = first ∧ next = second then new :: replacePair first second new rest
      else c :: replacePair first second new (next :: rest)
  | short => short

/-- The parts of a text between its slashes, with their escapes replaced. -/
def decode (text : String) : List String :=
  (text.toList.splitOn '/').map fun part =>
    String.ofList (replacePair '~' '0' '~' (replacePair '~' '1' '/' part))

/-- What is left of an escaped character when the escapes of slashes have been replaced. -/
def escapeTilde (c : Char) : List Char :=
  if c = '~' then ['~', '0'] else [c]

variable {first second new : Char}

theorem replacePair_pair (rest : List Char) :
    replacePair first second new (first :: second :: rest) =
      new :: replacePair first second new rest := by
  rw [replacePair, if_pos ⟨rfl, rfl⟩]

theorem replacePair_cons {c : Char} (other : c ≠ first) (rest : List Char) :
    replacePair first second new (c :: rest) = c :: replacePair first second new rest := by
  cases rest with
  | nil => rfl
  | cons next rest => rw [replacePair, if_neg fun pair => other pair.1]

theorem replacePair_next {c next : Char} (other : next ≠ second) (rest : List Char) :
    replacePair first second new (c :: next :: rest) =
      c :: replacePair first second new (next :: rest) := by
  rw [replacePair, if_neg fun pair => other pair.2]

theorem replaceSlash_escape (c : Char) (rest : List Char) :
    replacePair '~' '1' '/' (Step.escape c ++ rest) =
      escapeTilde c ++ replacePair '~' '1' '/' rest := by
  unfold Step.escape escapeTilde
  split
  · -- What follows an escaped tilde is not read together with its digit, even if it is a digit.
    change replacePair '~' '1' '/' ('~' :: '0' :: rest) = _
    rw [replacePair_next (by decide), replacePair_cons (by decide)]
    rfl
  · exact replacePair_pair rest
  · rename_i tilde slash
    rw [if_neg (by simpa using tilde)]
    exact replacePair_cons (by simpa using tilde) rest

theorem replaceTilde_escapeTilde (c : Char) (rest : List Char) :
    replacePair '~' '0' '~' (escapeTilde c ++ rest) = c :: replacePair '~' '0' '~' rest := by
  unfold escapeTilde
  split
  · rename_i tilde
    rw [tilde]
    exact replacePair_pair rest
  · rename_i other
    exact replacePair_cons other rest

theorem replaceSlash_flatMap (cs : List Char) :
    replacePair '~' '1' '/' (cs.flatMap Step.escape) = cs.flatMap escapeTilde := by
  induction cs with
  | nil => rfl
  | cons c rest ih => rw [List.flatMap_cons, replaceSlash_escape, ih, List.flatMap_cons]

theorem replaceTilde_flatMap (cs : List Char) :
    replacePair '~' '0' '~' (cs.flatMap escapeTilde) = cs := by
  induction cs with
  | nil => rfl
  | cons c rest ih => rw [List.flatMap_cons, replaceTilde_escapeTilde, ih]

end Pointer

namespace Step

open Pointer (replacePair)

/-- A step is written as its token is escaped; digits need no escape. -/
theorem chars_eq (step : Step) : step.chars = step.token.toList.flatMap escape := by
  cases step with
  | property name => rfl
  | item index =>
      have plain : ∀ c ∈ (toString index).toList, escape c = [c] := by
        intro c member
        have written : c ∈ (Step.item index).chars := member
        have digit : c.isDigit = true := isDigit_of_mem_chars written
        unfold escape
        split
        · exact absurd digit (by decide)
        · exact absurd digit (by decide)
        · rfl
      rw [chars, token, List.flatMap_congr plain, List.flatMap_singleton']

theorem decode_chars (step : Step) :
    String.ofList (replacePair '~' '0' '~' (replacePair '~' '1' '/' step.chars)) = step.token := by
  rw [chars_eq, Pointer.replaceSlash_flatMap, Pointer.replaceTilde_flatMap, String.ofList_toList]

end Step

namespace Location

def push (location : Location) : Step → Location
  | .property name => location.property name
  | .item index => location.item index

/-- Where a path leads from the whole document. -/
def ofPath (path : List Step) : Location :=
  path.foldl push root

theorem steps_push (location : Location) (step : Step) :
    (location.push step).steps = location.steps ++ [step] := by
  cases step <;> rfl

theorem steps_foldl_push (location : Location) (path : List Step) :
    (path.foldl push location).steps = location.steps ++ path := by
  induction path generalizing location with
  | nil => exact (List.append_nil _).symm
  | cons step rest ih => rw [List.foldl_cons, ih, steps_push, List.append_assoc]; rfl

theorem steps_ofPath (path : List Step) : (ofPath path).steps = path :=
  steps_foldl_push root path

theorem decode_pointer (location : Location) :
    Pointer.decode location.pointer = "" :: location.steps.map Step.token := by
  obtain ⟨steps⟩ := location
  cases steps with
  | nil => rfl
  | cons step rest =>
      have split : ('/' :: (step.chars ++ rest.flatMap fun step => '/' :: step.chars)).splitOn '/' =
          [] :: (step :: rest).map Step.chars := by
        rw [List.splitOn_cons_eq_if_modifyHead, if_pos (by decide), splitOn_chars]
      simp only [Pointer.decode, pointer, String.toList_ofList, List.flatMap_cons, List.cons_append,
        split, List.map_cons, List.map_map, Function.comp_def, Step.decode_chars]
      rfl

theorem pointer_congr {location other : Location}
    (same : location.steps.map Step.token = other.steps.map Step.token) :
    location.pointer = other.pointer := by
  have written : ∀ steps : List Step, (steps.flatMap fun step => '/' :: step.chars) =
      (steps.map Step.token).flatMap fun token => '/' :: token.toList.flatMap Step.escape := by
    intro steps
    simp only [List.flatMap_map, Step.chars_eq]
  rw [pointer, pointer, written, written, same]

/-- The pointer of a path is decoded as nothing and then the names and digits of the path, and the
pointers of two paths are the same just where these are. -/
theorem pointer_decoded (path : List Step) :
    Pointer.decode (ofPath path).pointer = "" :: path.map Step.token ∧
      ∀ other : List Step, (ofPath path).pointer = (ofPath other).pointer ↔
        path.map Step.token = other.map Step.token := by
  have decoded : ∀ path : List Step,
      Pointer.decode (ofPath path).pointer = "" :: path.map Step.token := by
    intro path
    rw [decode_pointer, steps_ofPath]
  refine ⟨decoded path, fun other => ⟨fun same => ?_, fun same => ?_⟩⟩
  · have tokens := congrArg Pointer.decode same
    rw [decoded, decoded] at tokens
    exact (List.cons.inj tokens).2
  · refine pointer_congr ?_
    rw [steps_ofPath, steps_ofPath, same]

/-- A name may hold the signs of escapes itself, and an index reads like a name of digits. -/
example : Pointer.decode (ofPath [.property "~01/", .property "", .item 10]).pointer =
    ["", "~01/", "", "10"] := by
  decide +kernel

end Location

end Dossier
