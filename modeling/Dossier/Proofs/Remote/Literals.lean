import Dossier.Remote.Soql

/-!
Reading the identifiers of a batch query back.

A reader goes through a list of literals character by character, and knows nothing of the list but
where literals open and close.  In the list of a query it finds the identifiers which were asked for,
whatever characters they hold, and it is through with the list where the query ends.
-/

namespace Dossier.Soql

/-- Where a reader is in a list of literals. -/
inductive Place where
  | start
  /-- In a literal of which these characters have been read. -/
  | inside (value : List Char)
  /-- In a literal, behind a backslash. -/
  | escaped (value : List Char)
  | closed
  | comma
  /-- Behind a separator, where another literal has to open. -/
  | separated
  | ended
deriving DecidableEq, Repr

structure Reader where
  values : List String
  place : Place
deriving DecidableEq, Repr

namespace Reader

/-- Reads one more character, unless it has no business at its place. -/
def step (reader : Reader) (c : Char) : Option Reader :=
  match reader.place with
  | .start =>
      if c = '\x27' then some ⟨reader.values, .inside []⟩
      else if c = ')' then some ⟨reader.values, .ended⟩
      else none
  | .inside value =>
      if c = '\\' then some ⟨reader.values, .escaped value⟩
      else if c = '\x27' then some ⟨reader.values ++ [String.ofList value], .closed⟩
      else some ⟨reader.values, .inside (value ++ [c])⟩
  | .escaped value => some ⟨reader.values, .inside (value ++ [c])⟩
  | .closed =>
      if c = ',' then some ⟨reader.values, .comma⟩
      else if c = ')' then some ⟨reader.values, .ended⟩
      else none
  | .comma => if c = ' ' then some ⟨reader.values, .separated⟩ else none
  | .separated => if c = '\x27' then some ⟨reader.values, .inside []⟩ else none
  | .ended => none

def run (reader : Reader) (text : List Char) : Option Reader :=
  text.foldlM step reader

theorem run_cons {reader after : Reader} {c : Char} (read : reader.step c = some after)
    (rest : List Char) : reader.run (c :: rest) = after.run rest := by
  rw [run, List.foldlM_cons, read]
  rfl

theorem run_append {reader after : Reader} {text : List Char} (read : reader.run text = some after)
    (rest : List Char) : reader.run (text ++ rest) = after.run rest := by
  rw [run] at read
  rw [run, List.foldlM_append, read]
  rfl

variable (values : List String)

theorem run_escape (value : List Char) (c : Char) :
    run ⟨values, .inside value⟩ (escape c) = some ⟨values, .inside (value ++ [c])⟩ := by
  unfold escape
  split
  · rfl
  · rename_i plain
    simp only [Bool.or_eq_true, beq_iff_eq, not_or] at plain
    have stepped : step ⟨values, .inside value⟩ c = some ⟨values, .inside (value ++ [c])⟩ := by
      simp only [step, if_neg plain.1, if_neg plain.2]
    exact run_cons stepped []

/-- Inside of a literal, escaped characters are read as themselves. -/
theorem run_escaped (value text : List Char) :
    run ⟨values, .inside value⟩ (text.flatMap escape) =
      some ⟨values, .inside (value ++ text)⟩ := by
  induction text generalizing value with
  | nil => simp [run]
  | cons c rest ih =>
      rw [List.flatMap_cons, run_append (run_escape values value c), ih, List.append_assoc]
      rfl

/-- Wherever a literal may open, it is read as the text which it quotes. -/
theorem run_literal {place : Place} (opens : place = .start ∨ place = .separated) (id : String) :
    run ⟨values, place⟩ (literal id).toList = some ⟨values ++ [id], .closed⟩ := by
  have opened : step ⟨values, place⟩ '\x27' = some ⟨values, .inside []⟩ := by
    rcases opens with rfl | rfl <;> rfl
  rw [literal, String.toList_ofList, List.cons_append, run_cons opened,
    run_append (run_escaped values [] id.toList)]
  change some (Reader.mk (values ++ [String.ofList ([] ++ id.toList)]) .closed) = _
  rw [List.nil_append, String.ofList_toList]

/-- Literals which are separated are read one after the other. -/
theorem run_literals {place : Place} (opens : place = .start ∨ place = .separated)
    {ids : List String} (filled : ids ≠ []) :
    run ⟨values, place⟩ (", ".intercalate (ids.map literal)).toList =
      some ⟨values ++ ids, .closed⟩ := by
  rw [String.toList_intercalate, List.map_map]
  induction ids generalizing values place with
  | nil => contradiction
  | cons id rest ih =>
      cases rest with
      | nil =>
          rw [List.map_singleton, List.intercalate_singleton]
          exact run_literal values opens id
      | cons other rest =>
          have separator : run ⟨values ++ [id], .closed⟩ ", ".toList =
              some ⟨values ++ [id], .separated⟩ := rfl
          have others := ih (values ++ [id]) (.inr rfl) (List.cons_ne_nil other rest)
          rw [List.append_assoc, List.map_cons] at others
          rw [List.map_cons, List.map_cons, List.intercalate_cons_cons, List.append_assoc,
            Function.comp_apply, run_append (run_literal values opens id), run_append separator]
          exact others

end Reader

/-- The texts in a list of literals, which begins behind its opening parenthesis and is all there is. -/
def read? (text : String) : Option (List String) :=
  match Reader.run ⟨[], .start⟩ text.toList with
  | some ⟨values, .ended⟩ => some values
  | _ => none

theorem read?_literals (ids : List String) :
    read? (", ".intercalate (ids.map literal) ++ ")") = some ids := by
  have ended : Reader.run ⟨[], .start⟩ ((", ".intercalate (ids.map literal)).toList ++ [')']) =
      some ⟨ids, .ended⟩ := by
    cases ids with
    | nil =>
        rw [List.map_nil, String.intercalate_nil]
        rfl
    | cons id rest =>
        rw [Reader.run_append (Reader.run_literals [] (.inl rfl) (List.cons_ne_nil id rest))]
        rfl
  have closing : ")".toList = [')'] := rfl
  rw [read?, String.toList_append, closing, ended]

/-- A query as far as the parenthesis which opens its list of identifiers. -/
def opening (object : String) (fields : List String) (idField : String) : String :=
  "SELECT " ++ ", ".intercalate fields ++ " FROM " ++ object ++ " WHERE " ++ idField ++ " IN ("

/-- The list of a query is read as the identifiers which the query is about, to its last character;
so queries which are about different identifiers are different. -/
theorem read?_select (object : String) (fields : List String) (idField : String)
    (ids : List String) :
    (∃ list, select ⟨object, fields, idField, ids⟩ = opening object fields idField ++ list ∧
      read? list = some ids) ∧
    ∀ others, select ⟨object, fields, idField, others⟩ = select ⟨object, fields, idField, ids⟩ ↔
      others = ids := by
  have opened : ∀ ids, select ⟨object, fields, idField, ids⟩ =
      opening object fields idField ++ (", ".intercalate (ids.map literal) ++ ")") :=
    fun ids => String.append_assoc ..
  refine ⟨⟨_, opened ids, read?_literals ids⟩, fun others => ⟨fun same => ?_, fun same => same ▸ rfl⟩⟩
  rw [opened, opened, String.append_right_inj] at same
  have read := congrArg read? same
  rw [read?_literals, read?_literals] at read
  exact Option.some.inj read

/-- Neither a quote nor a parenthesis nor a separator gets out of its literal. -/
example : read? "\x27it\\\x27s\\\\\x27, \x27\\\x27, \\\x27)\x27)" = some ["it\x27s\\", "\x27, \x27)"] := by
  decide

end Dossier.Soql
