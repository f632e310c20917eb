import Dossier.Json.Basic
import Dossier.Location

/-!
Reading JSON pointers.

A pointer is read as its tokens, which are followed from a document down to one of its nodes.  The
pointer of a location is read as the steps of the location.
-/

namespace Dossier

namespace Pointer

/-- The characters of a token, of which slashes and tildes are escaped in a pointer. -/
def unescape : List Char → List Char
  | '~' :: '0' :: rest => '~' :: unescape rest
  | '~' :: '1' :: rest => '/' :: unescape rest
  | c :: rest => c :: unescape rest
  | [] => []

/-- The tokens of a pointer, which is empty or starts with a slash. -/
def tokens? (pointer : String) : Option (List String) :=
  match pointer.toList with
  | [] => some []
  | '/' :: rest => some ((rest.splitOn '/').map fun part => String.ofList (unescape part))
  | _ => none

/-- The item of a list under its index in decimal digits. -/
def item? (items : List Json) (token : String) : Option Json :=
  (items.zipIdx.find? fun entry => toString entry.2 == token).map (·.1)

/-- The node to which the tokens lead. -/
def at? : Json → List String → Option Json
  | json, [] => some json
  | .object members, token :: rest => members.lookup token >>= fun value => at? value rest
  | .array items, token :: rest => item? items token >>= fun item => at? item rest
  | .scalar _, _ :: _ => none

/-- A pointer leads to a node of the document, or to a member which an object does not have. -/
def Addresses (document : Json) (pointer : String) : Prop :=
  ∃ tokens, tokens? pointer = some tokens ∧
    ((at? document tokens).isSome = true ∨
      ∃ parent name members, tokens = parent ++ [name] ∧
        at? document parent = some (.object members) ∧ members.lookup name = none)

theorem unescape_cons {c : Char} (other : c ≠ '~') (rest : List Char) :
    unescape (c :: rest) = c :: unescape rest := by
  rw [unescape.eq_def]
  split <;> simp_all

theorem unescape_escape (c : Char) (rest : List Char) :
    unescape (Step.escape c ++ rest) = c :: unescape rest := by
  unfold Step.escape
  split
  · rfl
  · rfl
  · rename_i tilde slash
    exact unescape_cons (by simpa using tilde) rest

theorem unescape_flatMap (cs : List Char) : unescape (cs.flatMap Step.escape) = cs := by
  induction cs with
  | nil => rfl
  | cons c rest ih => rw [List.flatMap_cons, unescape_escape, ih]

theorem unescape_of_not_mem {cs : List Char} (plain : '~' ∉ cs) : unescape cs = cs := by
  induction cs with
  | nil => rfl
  | cons c rest ih =>
      rw [List.mem_cons, not_or] at plain
      rw [unescape_cons (Ne.symm plain.1), ih plain.2]

theorem not_mem_escape (c : Char) : '/' ∉ Step.escape c := by
  unfold Step.escape
  split
  · decide
  · decide
  · rename_i tilde slash
    simpa using Ne.symm slash

end Pointer

namespace Step

open Pointer (unescape)

/-- The name of the member, or the digits of the index, to which the step leads. -/
def token : Step → String
  | .property name => name
  | .item index => toString index

theorem isDigit_of_mem_chars {index : Nat} {c : Char} (member : c ∈ (Step.item index).chars) :
    c.isDigit = true := by
  rw [chars, Nat.toString_eq_ofList_toDigits, String.toList_ofList] at member
  exact Nat.isDigit_of_mem_toDigits (by decide) (by decide) member

theorem slash_not_mem_chars (step : Step) : '/' ∉ step.chars := by
  cases step with
  | property name =>
      intro member
      obtain ⟨c, -, inside⟩ := List.mem_flatMap.mp member
      exact Pointer.not_mem_escape c inside
  | item index =>
      intro member
      exact absurd (isDigit_of_mem_chars member) (by decide)

theorem unescape_chars (step : Step) : String.ofList (unescape step.chars) = step.token := by
  cases step with
  | property name => rw [chars, Pointer.unescape_flatMap, String.ofList_toList, token]
  | item index =>
      have plain : '~' ∉ (Step.item index).chars := fun member =>
        absurd (isDigit_of_mem_chars member) (by decide)
      rw [Pointer.unescape_of_not_mem plain, chars, String.ofList_toList, token]

/-- Digits are those of one number only. -/
theorem item_token_injective {index other : Nat} (same : toString index = toString other) :
    index = other := by
  rw [Nat.toString_eq_ofList_toDigits, Nat.toString_eq_ofList_toDigits] at same
  rw [← Nat.ofDigitChars_ten_toDigits (n := index), String.ofList_injective same,
    Nat.ofDigitChars_ten_toDigits]

end Step

namespace Location

theorem splitOn_chars (step : Step) (rest : List Step) :
    (step.chars ++ rest.flatMap fun step => '/' :: step.chars).splitOn '/' =
      (step :: rest).map Step.chars := by
  induction rest generalizing step with
  | nil =>
      rw [List.flatMap_nil, List.append_nil, List.splitOn]
      exact List.splitOnP_eq_singleton fun c member =>
        beq_false_of_ne fun same => step.slash_not_mem_chars (same ▸ member)
  | cons next rest ih =>
      have whole : ∀ c ∈ step.chars, (c == '/') = false := fun c member =>
        beq_false_of_ne fun same => step.slash_not_mem_chars (same ▸ member)
      rw [List.flatMap_cons, List.cons_append, List.splitOn,
        List.splitOnP_append_cons_of_forall_mem whole '/' (by decide), ← List.splitOn, ih]
      rfl

/-- The pointer of a location is read as its steps. -/
theorem tokens?_pointer (location : Location) :
    Pointer.tokens? location.pointer = some (location.steps.map Step.token) := by
  obtain ⟨steps⟩ := location
  cases steps with
  | nil => rfl
  | cons step rest =>
      have split := splitOn_chars step rest
      simp only [Pointer.tokens?, pointer, String.toList_ofList, List.flatMap_cons,
        List.cons_append, split, List.map_map, Function.comp_def, Step.unescape_chars]

end Location

namespace Pointer

theorem item?_token {items : List Json} {index : Nat} {item : Json}
    (found : items[index]? = some item) : item? items (toString index) = some item := by
  have member : (item, index) ∈ items.zipIdx := List.mem_zipIdx_iff_getElem?.mpr found
  have written : items.zipIdx.find? (fun entry => toString entry.2 == toString index) =
      some (item, index) := by
    cases first : items.zipIdx.find? fun entry => toString entry.2 == toString index with
    | none =>
        have unread := List.find?_eq_none.mp first (item, index) member
        simp at unread
    | some entry =>
        have digits : toString entry.2 = toString index := by simpa using List.find?_some first
        have same : entry.2 = index := Step.item_token_injective digits
        have there := List.mem_zipIdx_iff_getElem?.mp (List.mem_of_find?_eq_some first)
        rw [same, found] at there
        exact congrArg some (Prod.ext (Option.some.inj there).symm same)
  rw [item?, written]
  rfl

end Pointer

/-- The steps lead to a part of the value, or to a member which an object in it does not have. -/
inductive Json.Leads : Json → List Step → Prop where
  | here (json : Json) : Leads json []
  | missing {members : List (String × Json)} {name : String} (absent : members.lookup name = none) :
      Leads (.object members) [.property name]
  | member {members : List (String × Json)} {name : String} {value : Json} {rest : List Step}
      (found : members.lookup name = some value) (leads : Leads value rest) :
      Leads (.object members) (.property name :: rest)
  | item {items : List Json} {index : Nat} {item : Json} {rest : List Step}
      (found : items[index]? = some item) (leads : Leads item rest) :
      Leads (.array items) (.item index :: rest)

namespace Json.Leads

open Pointer (at? item?_token)

/-- A member of an object is there or missing. -/
theorem property (members : List (String × Json)) (name : String) :
    Leads (.object members) [.property name] := by
  cases found : members.lookup name with
  | none => exact .missing found
  | some value => exact .member found (.here value)

theorem at?_tokens {json : Json} {steps : List Step} (leads : json.Leads steps) :
    (at? json (steps.map Step.token)).isSome = true ∨
      ∃ parent name members, steps.map Step.token = parent ++ [name] ∧
        at? json parent = some (.object members) ∧ members.lookup name = none := by
  induction leads with
  | here json => exact .inl (by simp [at?])
  | @missing members name absent => exact .inr ⟨[], name, members, rfl, rfl, absent⟩
  | @member members name value rest found leads ih =>
      have step : ∀ tokens, at? (.object members) (name :: tokens) = at? value tokens := by
        intro tokens
        rw [at?, found]
        rfl
      rw [List.map_cons, Step.token, step]
      refine ih.imp_right fun ⟨parent, last, others, ends, reached, absent⟩ => ?_
      exact ⟨name :: parent, last, others, by rw [ends, List.cons_append],
        by rw [step, reached], absent⟩
  | @item items index item rest found leads ih =>
      have step : ∀ tokens, at? (.array items) (toString index :: tokens) = at? item tokens := by
        intro tokens
        rw [at?, item?_token found]
        rfl
      rw [List.map_cons, Step.token, step]
      refine ih.imp_right fun ⟨parent, last, others, ends, reached, absent⟩ => ?_
      exact ⟨toString index :: parent, last, others, by rw [ends, List.cons_append],
        by rw [step, reached], absent⟩

/-- The pointer of a location leads where its steps lead. -/
theorem addresses {document : Json} {location : Location} (leads : document.Leads location.steps) :
    Pointer.Addresses document location.pointer :=
  ⟨_, location.tokens?_pointer, leads.at?_tokens⟩

end Json.Leads

end Dossier
