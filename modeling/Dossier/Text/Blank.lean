/-!
White space, after the Unicode property White_Space.

Names and labels which people write are trimmed of it, a text of nothing else counts as empty, and
free text is cut into words at it.
-/

namespace Dossier.Text

/-- The Unicode property White_Space. -/
def isBlank (c : Char) : Bool :=
  let n := c.toNat
  (0x09 ≤ n && n ≤ 0x0d) || n == 0x20 || n == 0x85 || n == 0xa0 || n == 0x1680 ||
    (0x2000 ≤ n && n ≤ 0x200a) || n == 0x2028 || n == 0x2029 || n == 0x202f || n == 0x205f ||
    n == 0x3000

def trimChars (cs : List Char) : List Char :=
  ((cs.dropWhile isBlank).reverse.dropWhile isBlank).reverse

def trim (s : String) : String :=
  String.ofList (trimChars s.toList)

def blank (s : String) : Bool :=
  s.toList.all isBlank

def trimmed? (s : String) : Option String :=
  if blank s then none else some (trim s)

/-- `run` holds, last one first, the characters of the run which is being read. -/
def runsFrom (p : Char → Bool) : List Char → List Char → List (List Char)
  | run, [] => if run.isEmpty then [] else [run.reverse]
  | run, c :: rest =>
      if p c then runsFrom p (c :: run) rest
      else if run.isEmpty then runsFrom p [] rest
      else run.reverse :: runsFrom p [] rest

def runs (p : Char → Bool) (cs : List Char) : List (List Char) :=
  runsFrom p [] cs

/-- Does `part` occur in `whole` without a gap? -/
def occursIn (part : List Char) : List Char → Bool
  | [] => part.isEmpty
  | c :: rest => part.isPrefixOf (c :: rest) || occursIn part rest

end Dossier.Text
