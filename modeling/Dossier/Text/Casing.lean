import Dossier.Text.Casing.Tables
import Dossier.Text.Ranges

/-!
Lower and upper case of whole texts, by the full mappings of Unicode.

One character may become several (`ß` is `SS` in upper case), and a capital sigma at the end of a
word is a final sigma in lower case.
-/

namespace Dossier.Text

namespace Casing

def Run.holds (run : Run) (n : Nat) : Bool :=
  run.first ≤ n && n ≤ run.last && (n - run.first) % run.step == 0

/-- The image of a character which is mapped to one other, itself if no run holds it. -/
def image (table : List Run) (c : Char) : Char :=
  match table.find? (·.holds c.toNat) with
  | some run => Char.ofNat (run.target + (c.toNat - run.first))
  | none => c

def isCased (c : Char) : Bool := within casedRanges c

def isIgnorable (c : Char) : Bool := within ignorableRanges c

def isAscii (c : Char) : Bool := c.toNat < 0x80

/-- A capital I with a dot is the one character whose lower case is two. -/
def lowerChar (c : Char) : List Char :=
  if isAscii c then [c.toLower]
  else if c.toNat == 0x130 then ['i', '\u0307']
  else [image lowerRuns c]

def upperChar (c : Char) : List Char :=
  if isAscii c then [c.toUpper]
  else
    match upperExpansions.lookup c.toNat with
    | some images => images.map Char.ofNat
    | none => [image upperRuns c]

/-- Is the nearest character which is not passed over one with case? -/
def nextIsCased (cs : List Char) : Bool :=
  match cs.dropWhile isIgnorable with
  | c :: _ => isCased c
  | [] => false

/-- `before` holds the characters in front of the rest, nearest first. -/
def lowerFrom : List Char → List Char → List Char
  | _, [] => []
  | before, c :: rest =>
      let images :=
        if c == 'Σ' then
          if nextIsCased before && !nextIsCased rest then ['ς'] else ['σ']
        else lowerChar c
      images ++ lowerFrom (c :: before) rest

end Casing

def lower (s : String) : String :=
  String.ofList (Casing.lowerFrom [] s.toList)

def upper (s : String) : String :=
  String.ofList (s.toList.flatMap Casing.upperChar)

def sameIgnoringAsciiCase (a b : String) : Bool :=
  a.toList.map Char.toLower == b.toList.map Char.toLower

end Dossier.Text
