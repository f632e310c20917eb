import Dossier.Number.Digits

/-!
Escapes: bytes which are written as a percent sign and two digits.
-/

namespace Dossier.Remote

def escapeByte (byte : UInt8) : List Char :=
  let digit (n : Nat) : Char := (Nat.digitChar n).toUpper
  ['%', digit (byte.toNat / 16), digit (byte.toNat % 16)]

def escapeChar (c : Char) : List Char :=
  (String.singleton c).toUTF8.toList.flatMap escapeByte

def isControl (c : Char) : Bool := c.toNat < 0x20 || 0x7f ≤ c.toNat

/-- Characters outside printed ASCII, and those among `others`, are escaped. -/
def escapeAll (others : List Char) (cs : List Char) : List Char :=
  cs.flatMap fun c => if isControl c || others.contains c then escapeChar c else [c]

/-- The bytes of a text.  A percent sign without two digits stands for itself. -/
def unescape : List Char → List UInt8
  | [] => []
  | '%' :: high :: low :: rest =>
      match Digits.value? 16 high, Digits.value? 16 low with
      | some high, some low => UInt8.ofNat (16 * high + low) :: unescape rest
      | _, _ => '%'.toUInt8 :: unescape (high :: low :: rest)
  | c :: rest => (String.singleton c).toUTF8.toList ++ unescape rest

/-- One part of a form: letters, digits and four signs stand for themselves, and a plus sign for a
space. -/
def formEncode (text : String) : String :=
  String.ofList (text.toList.flatMap fun c =>
    if c.isAlphanum || c == '*' || c == '-' || c == '.' || c == '_' then [c]
    else if c == ' ' then ['+']
    else escapeChar c)

end Dossier.Remote
