import Dossier.Number.Digits
import Dossier.Number.Word

/-!
Addresses of hosts, as numbers.

An address of the older kind is a word of 32 bits, of which each of up to four numbers between dots
gives one byte, and the last one all which are left.  An address of the newer kind has eight pieces
of 16 bits between colons; two colons stand for as many zeros as are absent.
-/

namespace Dossier.Remote

structure Address4 where
  value : Nat
deriving DecidableEq, Repr

namespace Address4

/-- A number after its mark is one of base 16 or 8, and is zero where nothing follows. -/
def number? (cs : List Char) : Option Nat :=
  match cs with
  | [] => none
  | '0' :: 'x' :: digits | '0' :: 'X' :: digits => Digits.read? 16 digits
  | '0' :: digits => Digits.read? 8 digits
  | digits => Digits.read? 10 digits

/-- The numbers of a name, which may end in a dot. -/
def parts (name : List Char) : List (List Char) :=
  let parts := name.splitOn '.'
  if 1 < parts.length && parts.getLast? == some [] then parts.dropLast else parts

/-- Is a name to be read as an address, whether or not it is a good one? -/
def isExpected (name : List Char) : Bool :=
  (parts name).getLast?.any fun part =>
    (!part.isEmpty && part.all Char.isDigit) || (number? part).isSome

def parse? (name : List Char) : Option Address4 := do
  let numbers ← (parts name).mapM number?
  let last ← numbers.getLast?
  let bytes := numbers.dropLast
  let left := 4 - bytes.length
  if bytes.length < 4 && bytes.all (· < wordSize 8) && last < wordSize (8 * left) then
    some ⟨bytes.foldl (fun n byte => wordSize 8 * n + byte) 0 * wordSize (8 * left) + last⟩
  else none

def text (address : Address4) : String :=
  let byte (place : Nat) := toString (address.value / wordSize (8 * place) % wordSize 8)
  ".".intercalate [byte 3, byte 2, byte 1, byte 0]

end Address4

structure Address6 where
  pieces : List Nat
deriving DecidableEq, Repr

namespace Address6

def piece? (cs : List Char) : Option Nat :=
  if cs.isEmpty || 4 < cs.length then none else Digits.read? 16 cs

def byte? (cs : List Char) : Option Nat :=
  if cs.isEmpty || (1 < cs.length && cs.head? == some '0') then none
  else (Digits.read? 10 cs).filter (· < wordSize 8)

/-- Two pieces, written as an address of the older kind. -/
def pair? (cs : List Char) : Option (List Nat) := do
  match ← (cs.splitOn '.').mapM byte? with
  | [a, b, c, d] => some [wordSize 8 * a + b, wordSize 8 * c + d]
  | _ => none

/-- The pieces between colons.  Only the last ones of all may be written as a pair. -/
def pieces? (atEnd : Bool) (cs : List Char) : Option (List Nat) := do
  let parts := cs.splitOn ':'
  let last ← parts.getLast?
  let before ← parts.dropLast.mapM piece?
  let rest ← if atEnd && last.contains '.' then pair? last else (piece? last).map ([·])
  return before ++ rest

def splitGap? : List Char → Option (List Char × List Char)
  | ':' :: ':' :: rest => some ([], rest)
  | [] => none
  | c :: rest => (splitGap? rest).map fun (before, after) => (c :: before, after)

def parse? (cs : List Char) : Option Address6 := do
  match splitGap? cs with
  | none =>
      let pieces ← pieces? true cs
      if pieces.length = 8 then some ⟨pieces⟩ else none
  | some (before, after) =>
      let before ← if before.isEmpty then some [] else pieces? false before
      let after ← if after.isEmpty then some [] else pieces? true after
      let absent := 8 - (before.length + after.length)
      if 0 < absent then some ⟨before ++ List.replicate absent 0 ++ after⟩ else none

def hex (n : Nat) : String := String.ofList (Nat.toDigits 16 n)

def zeros (pieces : List Nat) : Nat := (pieces.takeWhile (· == 0)).length

/-- Where the most zeros follow each other, and how many, of those after `start`. -/
def longestGap (start : Nat) : List Nat → Nat × Nat
  | [] => (start, 0)
  | piece :: rest =>
      let later := longestGap (start + 1) rest
      let here := zeros (piece :: rest)
      if later.2 ≤ here then (start, here) else later

/-- Two or more zeros are left out, where most of them follow each other first. -/
def text (address : Address6) : String :=
  let texts (pieces : List Nat) : String := ":".intercalate (pieces.map hex)
  let (start, count) := longestGap 0 address.pieces
  if count < 2 then texts address.pieces
  else texts (address.pieces.take start) ++ "::" ++ texts (address.pieces.drop (start + count))

end Address6

end Dossier.Remote
