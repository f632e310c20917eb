import Dossier.Remote.Domain.Folding
import Dossier.Remote.Domain.Punycode
import Dossier.Text.Composed
import Dossier.Text.Direction
import Dossier.Text.Joining

/-!
Labels, the parts of a domain name between its dots.

A label of ASCII which starts with `xn--` stands for another one, of which it is the Punycode.  What
is in a label is limited by three rules: on single characters, on joiners, which must make a
difference where they stand, and on directions of writing, which must not mix in a way that a reader
could mistake one label for another one.
-/

namespace Dossier.Remote.Domain

open Text

/-- Characters which mean something else around a host. -/
def isDelimiter (c : Char) : Bool :=
  c.toNat ≤ 0x20 || c.toNat == 0x7f || "%#/:<>?@[\\]^|".toList.contains c

def isAscii (label : List Char) : Bool := label.all fun c => c.toNat < 0x80

namespace Label

/-! Joiners -/

/-- The class of marks which take the vowel off a letter. -/
def virama : Nat := 9

/-- The next letter, over all which joining passes over. -/
def nextJoining (cs : List Char) : Joining :=
  ((cs.map Joining.ofChar).find? (· != .transparent)).getD .none

/-- May a joiner stand between these?  What is before it has its last character first. -/
def mayJoin (joiner : Char) (before after : List Char) : Bool :=
  let followsVirama := before.head?.any (Composed.order · == virama)
  let parts := [.left, .dual].contains (nextJoining before) &&
    [.right, .dual].contains (nextJoining after)
  match joiner with
  | '\u200c' => followsVirama || parts
  | '\u200d' => followsVirama
  | _ => true

def joinersFit (before : List Char) : List Char → Bool
  | [] => true
  | c :: rest => mayJoin c before rest && joinersFit (c :: before) rest

/-! Directions -/

/-- A domain name with one such character is one of both directions. -/
def isRightToLeft (c : Char) : Bool :=
  [.rightToLeft, .arabicLetter, .arabicNumber].contains (Direction.ofChar c)

def weakDirections : List Direction :=
  [.europeanNumber, .europeanSeparator, .commonSeparator, .europeanTerminator, .otherNeutral,
    .boundaryNeutral, .nonspacingMark]

/-- Do the directions of a label go together, of which `last` is that of the last character which is
no mark? -/
def directionsFit (directions : List Direction) : Bool :=
  let last := directions.reverse.find? (· != .nonspacingMark)
  let holds (directions : List Direction) (direction : Direction) := directions.contains direction
  match directions.head? with
  | none => true
  | some .leftToRight =>
      directions.all (holds (.leftToRight :: weakDirections)) &&
        last.any (holds [.leftToRight, .europeanNumber])
  | some .rightToLeft | some .arabicLetter =>
      directions.all (holds ([.rightToLeft, .arabicLetter, .arabicNumber] ++ weakDirections)) &&
        last.any (holds [.rightToLeft, .arabicLetter, .europeanNumber, .arabicNumber]) &&
        !(directions.contains .europeanNumber && directions.contains .arabicNumber)
  | some _ => false

/-! Whole labels -/

def isValid (label : List Char) : Bool :=
  !label.any isDelimiter && !label.head?.any Mark.isMark && joinersFit [] label

def punycodeMark : List Char := "xn--".toList

def maxWritten : Nat := 2000

def maxLength : Nat := 1000

/-- The label for which a folded one stands. -/
def ofFolded? (label : List Char) : Option (List Char) :=
  if label.take 4 == punycodeMark then do
    let written := label.drop 4
    let fits := isAscii written && written.length ≤ maxWritten &&
      written.getLast?.any (· != '-')
    let decoded ← if fits then Punycode.decode? written else none
    if decoded.all isFolded && composed decoded == decoded then some decoded else none
  else some label

def toAscii? (label : List Char) : Option (List Char) :=
  if isAscii label then some label
  else if label.length ≤ maxLength then some (punycodeMark ++ Punycode.encode label)
  else none

end Label

end Dossier.Remote.Domain
