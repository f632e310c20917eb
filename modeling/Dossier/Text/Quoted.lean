import Dossier.Text.Casing
import Dossier.Text.Quoted.Tables

/-!
Texts as messages quote them: between double quotes, with escapes for the quote, the backslash
and everything which could not be seen.
-/

namespace Dossier.Text

namespace Quoted

def isVisible (c : Char) : Bool :=
  if Casing.isAscii c then 0x20 ≤ c.toNat && c.toNat < 0x7f
  else !within hiddenRanges c && !within extenderRanges c

/-- The code point in lower-case hexadecimal digits between braces. -/
def codePoint (c : Char) : List Char :=
  ['\\', 'u', '\x7b'] ++ Nat.toDigits 16 c.toNat ++ ['\x7d']

def escape (c : Char) : List Char :=
  match c with
  | '"' => ['\\', '"']
  | '\\' => ['\\', '\\']
  | '\n' => ['\\', 'n']
  | '\r' => ['\\', 'r']
  | '\t' => ['\\', 't']
  | '\x00' => ['\\', '0']
  | c => if isVisible c then [c] else codePoint c

end Quoted

def quoted (s : String) : String :=
  String.ofList ('"' :: s.toList.flatMap Quoted.escape ++ ['"'])

def quotedList (texts : List String) : String :=
  "[" ++ ", ".intercalate (texts.map quoted) ++ "]"

end Dossier.Text
