import Dossier.Number.Digits
import Dossier.Number.Word
import Dossier.Text.Blank

/-!
Spans of time as people write them: `5m`, `1h 30m`, `20ms`.

A span is written as parts, each of which is a number and a unit.  A number may have a fraction, and
white space may stand wherever it does not split the name of a unit.
-/

namespace Dossier

structure Duration where
  nanoseconds : Nat
deriving DecidableEq, Repr

namespace Duration

def ofMilliseconds (n : Nat) : Duration := ⟨n * 1000000⟩

def ofSeconds (n : Nat) : Duration := ⟨n * 1000000000⟩

/-- A unit of whole seconds, and how many of them it has.  A year has 365.25 days and twelve equal
months. -/
structure SecondsUnit where
  name : String
  /-- Is the name given an `s` where there is more than one? -/
  plural : Bool
  seconds : Nat

def secondsUnits : List SecondsUnit :=
  [⟨"year", true, 31557600⟩, ⟨"month", true, 2630016⟩, ⟨"day", true, 86400⟩, ⟨"h", false, 3600⟩,
    ⟨"m", false, 60⟩, ⟨"s", false, 1⟩]

/-- The parts of a number of seconds, from the longest unit on; absent parts are left out. -/
def secondsParts : List SecondsUnit → Nat → List String
  | [], _ => []
  | unit :: rest, seconds =>
      let count := seconds / unit.seconds
      let part := toString count ++ unit.name ++ if unit.plural && 1 < count then "s" else ""
      (if count = 0 then [] else [part]) ++ secondsParts rest (seconds % unit.seconds)

def text (duration : Duration) : String :=
  let fraction := duration.nanoseconds % 1000000000
  let small (count : Nat) (name : String) := if count = 0 then [] else [toString count ++ name]
  let parts := secondsParts secondsUnits (duration.nanoseconds / 1000000000) ++
    small (fraction / 1000000) "ms" ++ small (fraction / 1000 % 1000) "us" ++
      small (fraction % 1000) "ns"
  if parts.isEmpty then "0s" else " ".intercalate parts

structure Steps where
  count : Nat
  length : Nat

structure TimeUnit where
  names : List String
  whole : Steps
  /-- What a fraction of a unit is counted in; the smallest unit has no fractions. -/
  fraction : Option Steps

def nanosecond : Nat := 1

def second : Nat := 1000000000

def units : List TimeUnit := [
  ⟨["ns", "nsec", "nanos"], ⟨1, nanosecond⟩, none⟩,
  ⟨["us", "usec", "µs"], ⟨1000, nanosecond⟩, some ⟨1000, nanosecond⟩⟩,
  ⟨["ms", "msec", "millis"], ⟨1000000, nanosecond⟩, some ⟨1000000, nanosecond⟩⟩,
  ⟨["s", "sec", "secs", "second", "seconds"], ⟨1, second⟩, some ⟨1000000000, nanosecond⟩⟩,
  ⟨["m", "min", "mins", "minute", "minutes"], ⟨60, second⟩, some ⟨60000000000, nanosecond⟩⟩,
  ⟨["h", "hr", "hrs", "hour", "hours"], ⟨3600, second⟩, some ⟨3600, second⟩⟩,
  ⟨["d", "day", "days"], ⟨86400, second⟩, some ⟨86400, second⟩⟩,
  ⟨["w", "wk", "wks", "week", "weeks"], ⟨604800, second⟩, some ⟨604800, second⟩⟩,
  ⟨["M", "month", "months"], ⟨2630016, second⟩, some ⟨2630016, second⟩⟩,
  ⟨["y", "yr", "yrs", "year", "years"], ⟨31557600, second⟩, some ⟨31557600, second⟩⟩]

def unit? (name : String) : Option TimeUnit :=
  units.find? (·.names.contains name)

/-- Numbers are kept in words of this size on the way, however short the span is in the end. -/
def bound : Nat := wordSize 64

def timesWithin? (a b : Nat) : Option Nat :=
  if a * b < bound then some (a * b) else none

/-- A span of `total` nanoseconds and some more steps.  Its seconds fit a word, and so do the
nanoseconds beyond them while they are added up. -/
def extend? (total : Nat) (steps : Steps) : Option Nat :=
  let sum := total + steps.count * steps.length
  if sum / second < bound && (steps.length == second || total % second + steps.count < bound) then
    some sum
  else none

def isUnitChar (c : Char) : Bool := c.isAlpha || c == 'µ'

/-- White space does not count between the digits of a number. -/
def isNumeral (c : Char) : Bool := c.isDigit || Text.isBlank c

def numberOf (cs : List Char) : Nat :=
  Digits.decimal (cs.filter Char.isDigit)

def wholeSteps? (unit : TimeUnit) (digits : List Char) : Option Steps :=
  if bound ≤ numberOf digits then none
  else (timesWithin? (numberOf digits) unit.whole.count).map (⟨·, unit.whole.length⟩)

/-- The fraction of a part, which has to make up steps without a rest. -/
def fractionSteps? (unit : TimeUnit) (digits : List Char) : Option Steps := do
  let one ← unit.fraction
  let scale := Nat.pow 10 (digits.filter Char.isDigit).length
  if bound ≤ numberOf digits || bound ≤ scale then none
  else
    let count ← timesWithin? (numberOf digits) one.count
    if count % scale = 0 then some ⟨count / scale, one.length⟩ else none

/-- A span of `total` nanoseconds and one more part, which is given by its digits before and after
the point, and its unit. -/
def addPart? (total : Nat) (whole : List Char) (fraction : Option (List Char)) (unit : String) :
    Option Nat := do
  let unit ← unit? unit
  let total ← extend? total (← wholeSteps? unit whole)
  match fraction with
  | none => some total
  | some digits => extend? total (← fractionSteps? unit digits)

/-- The digits after a point, and what follows them.  A point without digits is none. -/
def splitFraction? : List Char → Option (Option (List Char) × List Char)
  | '.' :: rest =>
      if (rest.takeWhile isNumeral).any Char.isDigit then
        some (some (rest.takeWhile isNumeral), rest.dropWhile isNumeral)
      else none
  | cs => some (none, cs)

theorem length_le_of_splitFraction? {cs rest : List Char} {digits : Option (List Char)}
    (split : splitFraction? cs = some (digits, rest)) : rest.length ≤ cs.length := by
  unfold splitFraction? at split
  split at split
  · split at split
    · cases split
      exact Nat.le_succ_of_le (List.dropWhile_sublist isNumeral).length_le
    · cases split
  · cases split
    exact Nat.le_refl _

/-- A span of `total` nanoseconds and all parts which follow. -/
def addParts? (total : Nat) (cs : List Char) : Option Nat :=
  match _trimmed : cs.dropWhile Text.isBlank with
  | [] => some total
  | first :: rest =>
      if !first.isDigit then none
      else
        match _split : splitFraction? (rest.dropWhile isNumeral) with
        | none => none
        | some (fraction, afterNumber) =>
            match addPart? total (first :: rest.takeWhile isNumeral) fraction
                (String.ofList (afterNumber.takeWhile isUnitChar)) with
            | none => none
            | some total => addParts? total (afterNumber.dropWhile isUnitChar)
termination_by cs.length
decreasing_by
  have numberEnds := (List.dropWhile_sublist isNumeral (l := rest)).length_le
  have fractionEnds := length_le_of_splitFraction? _split
  have unitEnds := (List.dropWhile_sublist isUnitChar (l := afterNumber)).length_le
  have blanksEnd := (List.dropWhile_sublist Text.isBlank (l := cs)).length_le
  rw [_trimmed, List.length_cons] at blanksEnd
  omega

/-- A span has at least one part.  Zero needs no unit. -/
def parse? (text : String) : Option Duration :=
  if text == "0" then some ⟨0⟩
  else if text.toList.all Text.isBlank then none
  else (addParts? 0 text.toList).map (⟨·⟩)

end Duration

end Dossier
