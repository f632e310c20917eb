import Dossier.Store.Basic

/-!
The text of batch queries in the query language of the remote store.

Identifiers come from records and may hold any character.  Inside a literal a backslash makes a
quote or another backslash stand for itself, so that no identifier ends its literal early.
-/

namespace Dossier.Soql

def escape (c : Char) : List Char :=
  if c == '\x27' || c == '\\' then ['\\', c] else [c]

def literal (value : String) : String :=
  String.ofList ('\x27' :: value.toList.flatMap escape ++ ['\x27'])

/-- Selects the fields of the records whose identifying field is one of the identifiers. -/
def select (query : Query) : String :=
  "SELECT " ++ ", ".intercalate query.fields ++ " FROM " ++ query.object ++ " WHERE " ++
    query.idField ++ " IN (" ++ ", ".intercalate (query.ids.map literal) ++ ")"

end Dossier.Soql
