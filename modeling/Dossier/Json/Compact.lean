import Dossier.Json.Basic

/-!
The compact text of a JSON value: no space between its parts, members in their order, and only the
quote, the backslash and control characters escaped.
-/

namespace Dossier.Json

/-- The four digits of a character below `0x100` in an escape. -/
def hexEscape (c : Char) : List Char :=
  let digits := Nat.toDigits 16 c.toNat
  '\\' :: 'u' :: Number.zeros (4 - digits.length) ++ digits

def escape (c : Char) : List Char :=
  match c with
  | '"' => ['\\', '"']
  | '\\' => ['\\', '\\']
  | '\n' => ['\\', 'n']
  | '\r' => ['\\', 'r']
  | '\t' => ['\\', 't']
  | '\x08' => ['\\', 'b']
  | '\x0c' => ['\\', 'f']
  | c => if c.toNat < 0x20 then hexEscape c else [c]

def quote (s : String) : String :=
  String.ofList ('"' :: s.toList.flatMap escape ++ ['"'])

end Dossier.Json

namespace Dossier

def Scalar.compact : Scalar → String
  | .null => "null"
  | .bool true => "true"
  | .bool false => "false"
  | .number n => n.text
  | .text s => Json.quote s

end Dossier

namespace Dossier.Json

mutual

def compact : Json → String
  | .scalar value => value.compact
  | .array items => "[" ++ ",".intercalate (compactItems items) ++ "]"
  | .object members => "\x7b" ++ ",".intercalate (compactMembers members) ++ "\x7d"

def compactItems : List Json → List String
  | [] => []
  | item :: rest => compact item :: compactItems rest

def compactMembers : List (String × Json) → List String
  | [] => []
  | (name, value) :: rest => (quote name ++ ":" ++ compact value) :: compactMembers rest

end

/-- The text by which a value is compared: a text is itself, null has none, and anything else is
compared as it is written. -/
def stringify? : Json → Option String
  | .null => none
  | .text s => some s
  | json => some json.compact

end Dossier.Json
