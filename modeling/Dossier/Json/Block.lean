import Dossier.Json.Compact
import Dossier.Number.Digits

/-!
Block style: a JSON value as lines of text, whose nesting is told by their indentation.

A text is written as it stands where it could not be taken for anything else, and is quoted as in
compact style otherwise.  Words which look like numbers of base 2, 8 or 16 slip through: whoever
reads them takes them for numbers.
-/

namespace Dossier.Json

namespace Block

/-- Words which have a value of their own, here or in other dialects. -/
def reserved : List String := [
  "yes", "Yes", "YES", "no", "No", "NO", "True", "TRUE", "true", "False", "FALSE", "false",
  "on", "On", "ON", "off", "Off", "OFF", "null", "Null", "NULL", "~"]

def isOpening (c : Char) : Bool :=
  "&*?|-<>=!%@.".toList.contains c

def isSpecial (c : Char) : Bool :=
  ":\x7b\x7d[],#\x60\"\x27\\\t\n\r".toList.contains c || c.toNat ≤ 0x6 ||
    (0xe ≤ c.toNat && c.toNat < 0x20 && c.toNat != 0x1b)

def withoutSign : List Char → List Char
  | '+' :: rest => rest
  | '-' :: rest => rest
  | cs => cs

/-- Digits with a point and an exponent, all but one digit of which may be absent. -/
def isDecimal (cs : List Char) : Bool :=
  let (whole, rest) := cs.span Char.isDigit
  let (fraction, rest) :=
    match rest with
    | '.' :: rest => rest.span Char.isDigit
    | rest => ([], rest)
  let exponentFits :=
    match rest with
    | [] => true
    | c :: rest =>
        let digits := withoutSign rest
        c.toLower == 'e' && !digits.isEmpty && digits.all Char.isDigit
  !(whole.isEmpty && fraction.isEmpty) && exponentFits

def isNumber (text : String) : Bool :=
  let unsigned := withoutSign text.toList
  isDecimal unsigned ||
    ["inf", "infinity", "nan"].contains (String.ofList (unsigned.map Char.toLower))

def needsQuotes (text : String) : Bool :=
  let cs := text.toList
  cs.isEmpty || cs.head?.any isOpening || cs.head? == some ' ' || cs.getLast? == some ' ' ||
    cs.any isSpecial || cs.take 2 == ['0', 'x'] || reserved.contains text || isNumber text

/-- Digits of a word of 64 bits, behind a plus sign or not. -/
def word? (base : Nat) (cs : List Char) : Option Nat := do
  let digits := if cs.head? == some '+' then cs.drop 1 else cs
  let value ← if digits.isEmpty then none else Digits.read? base digits
  if value < wordSize 64 then some value else none

/-- The number for which a word is taken. -/
def prefixed? (cs : List Char) : Option Nat :=
  match (if cs.head? == some '+' then cs.drop 1 else cs) with
  | '0' :: 'b' :: digits => word? 2 digits
  | '0' :: 'o' :: digits => word? 8 digits
  | '0' :: 'x' :: digits => word? 16 digits
  | _ => none

/-- What a text is taken for where it is read.  An infinite number is no JSON value. -/
def wordValue (text : String) : Json :=
  if needsQuotes text then .text text
  else
    match prefixed? text.toList with
    | some value => .integer value
    | none =>
        let unsigned := String.ofList (text.toList.dropWhile (· == '+'))
        if [".inf", ".Inf", ".INF"].contains unsigned then .null else .text text

def scalar : Scalar → String
  | .text word => if needsQuotes word then quote word else word
  | value => value.compact

def name (text : String) : String := scalar (.text text)

end Block

def indented (lines : List String) : List String :=
  lines.map ("  " ++ ·)

def itemLines : List String → List String
  | [] => []
  | first :: rest => ("- " ++ first) :: indented rest

mutual

def blockLines : Json → List String
  | .scalar value => [Block.scalar value]
  | .array items => if items.isEmpty then ["[]"] else blockItems items
  | .object members => if members.isEmpty then ["\x7b\x7d"] else blockMembers members

def blockItems : List Json → List String
  | [] => []
  | item :: rest => itemLines (blockLines item) ++ blockItems rest

/-- Members: a value of one line stands beside its name, others below it. -/
def blockMembers : List (String × Json) → List String
  | [] => []
  | (name, .array (item :: items)) :: rest =>
      (Block.name name ++ ":") :: indented (blockItems (item :: items)) ++ blockMembers rest
  | (name, .object (member :: members)) :: rest =>
      (Block.name name ++ ":") :: indented (blockMembers (member :: members)) ++ blockMembers rest
  | (name, value) :: rest =>
      ((blockLines value).map fun line => Block.name name ++ ": " ++ line) ++ blockMembers rest

end

def block (json : Json) : String :=
  "\n".intercalate json.blockLines

mutual

/-- What is read where a value is written in block style.  Names are texts, whatever they look
like. -/
def blockReading : Json → Json
  | .scalar (.text word) => Block.wordValue word
  | .scalar value => .scalar value
  | .array items => .array (itemReadings items)
  | .object members => .object (memberReadings members)

def itemReadings : List Json → List Json
  | [] => []
  | item :: rest => blockReading item :: itemReadings rest

def memberReadings : List (String × Json) → List (String × Json)
  | [] => []
  | (name, value) :: rest => (name, blockReading value) :: memberReadings rest

end

end Dossier.Json
