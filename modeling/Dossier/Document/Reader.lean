import Dossier.Document.Basic
import Dossier.Number.Digits

/-!
Reading documents from text.

The text is JSON.  The two dialects agree on its grammar, and configurations are read as people
write them, by lines: a name and its colon belong to one line, and a tab indents nothing.  They
differ also in what a number may be.  In a JSON value every number has to be in the range of its
kind, while in a configuration a number which no double comes near is the text it was written as.
-/

namespace Dossier.Document

/-- A number as it was written: its digits before and after the point, and its exponent if it has
one. -/
structure Literal where
  negative : Bool
  whole : List Char
  fraction : Option (List Char)
  exponent : Option Int

namespace Literal

def integer? (literal : Literal) : Option Int :=
  match literal.fraction, literal.exponent with
  | none, none =>
      let magnitude : Int := Digits.decimal literal.whole
      some (if literal.negative then -magnitude else magnitude)
  | _, _ => none

def double? (literal : Literal) : Option Double :=
  let fraction := literal.fraction.getD []
  let digits := literal.whole ++ fraction
  Double.ofDecimal? literal.negative (Digits.decimal digits) digits.length
    (literal.exponent.getD 0 - fraction.length)

/-- A whole number where it fits a word and is not a negative zero, and a double otherwise. -/
def number? (literal : Literal) : Option Number :=
  match literal.integer? with
  | some n =>
      if Number.fitsWord n && !(literal.negative && n == 0) then some (.integer n)
      else literal.double?.map .double
  | none => literal.double?.map .double

end Literal

/-- Where the colon between a name and its value may stand. -/
inductive ColonRule where
  | anywhere
  /-- On the line of its name, at most `reach` characters from where that starts.  Unless it follows
  the name at once, it is set off from what follows it. -/
  | near (reach : Nat)

namespace ColonRule

def setsOff (c : Char) : Bool :=
  [' ', '\t', '\n', '\r', ',', '[', ']', '\x7b', '\x7d'].contains c

/-- May a colon stand here?  The text is given from the start of the name on, from its end on, and
from behind the colon on. -/
def allows (rule : ColonRule) (name gap after : List Char) : Bool :=
  match rule with
  | anywhere => true
  | near reach =>
      let blanks := gap.takeWhile (· != ':')
      name.length - gap.length + blanks.length ≤ reach && !blanks.contains '\n' &&
        (blanks.isEmpty || after.head?.all setsOff)

end ColonRule

structure Dialect where
  /-- What a number is, given the text which it was written as. -/
  number : Literal → String → Option Document
  /-- May a bare word stand for a text? -/
  wordsAreTexts : Bool
  depth : Nat
  escaped : List Char
  /-- May two escapes of 16 bits each make up one character? -/
  joinsHalves : Bool
  colon : ColonRule
  /-- May a tab stand at the start of a line outside of all lists and mappings? -/
  tabsIndent : Bool

namespace Dialect

def json : Dialect where
  number literal _ := literal.number?.map fun number => .plain none (some (.number number))
  wordsAreTexts := false
  depth := 127
  escaped := ['"', '\\', '/']
  joinsHalves := true
  colon := .anywhere
  tabsIndent := true

/-- Whole numbers beyond a word, up to words of twice its size, have no value. -/
def configuration : Dialect where
  number literal written :=
    let value : Option Scalar :=
      match literal.integer? with
      | some n =>
          if Number.fitsWord n then some (.number (.integer n))
          else if -(wordSize 127 : Int) ≤ n ∧ n < wordSize 128 then none
          else some (fractional literal written)
      | none => some (fractional literal written)
    some (.plain (some written) value)
  wordsAreTexts := true
  depth := 128
  escaped := ['"', '\\']
  joinsHalves := false
  colon := .near 1024
  tabsIndent := false
where
  fractional (literal : Literal) (written : String) : Scalar :=
    match literal.double? with
    | some d => .number (.double d)
    | none => .text written

end Dialect

namespace Reader

def isSpace (c : Char) : Bool :=
  c == ' ' || c == '\n' || c == '\r' || c == '\t'

def skip (cs : List Char) : List Char :=
  cs.dropWhile isSpace

def isHighSurrogate (n : Nat) : Bool := 0xd800 ≤ n && n < 0xdc00

def isLowSurrogate (n : Nat) : Bool := 0xdc00 ≤ n && n < 0xe000

def joinSurrogates? (high low : Nat) : Option Char :=
  if isHighSurrogate high && isLowSurrogate low then
    some (Char.ofNat (0x10000 + (high - 0xd800) * 0x400 + (low - 0xdc00)))
  else none

def letterEscape? : Char → Option Char
  | 'b' => some '\x08'
  | 'f' => some '\x0c'
  | 'n' => some '\n'
  | 'r' => some '\r'
  | 't' => some '\t'
  | _ => none

variable (dialect : Dialect)

/-- The character of one escape, or of the two halves of one. -/
def escapedUnit? (unit : Nat) : Option Char :=
  if isHighSurrogate unit || isLowSurrogate unit then none else some (Char.ofNat unit)

/-- The rest of a text up to its closing quote; `done` holds its characters so far, last one
first. -/
def readQuoted (done : List Char) : List Char → Option (String × List Char)
  | [] => none
  | '"' :: rest => some (String.ofList done.reverse, rest)
  | '\\' :: 'u' :: a :: b :: c :: d :: '\\' :: 'u' :: e :: f :: g :: h :: rest => do
      let unit ← Digits.read? 16 [a, b, c, d]
      if dialect.joinsHalves && isHighSurrogate unit then
        let joined ← joinSurrogates? unit (← Digits.read? 16 [e, f, g, h])
        readQuoted (joined :: done) rest
      else
        let char ← escapedUnit? unit
        readQuoted (char :: done) ('\\' :: 'u' :: e :: f :: g :: h :: rest)
  | '\\' :: 'u' :: a :: b :: c :: d :: rest => do
      let char ← escapedUnit? (← Digits.read? 16 [a, b, c, d])
      readQuoted (char :: done) rest
  | '\\' :: c :: rest =>
      if dialect.escaped.contains c then readQuoted (c :: done) rest
      else
        match letterEscape? c with
        | some char => readQuoted (char :: done) rest
        | none => none
  | c :: rest => if c.toNat < 0x20 || c == '\\' then none else readQuoted (c :: done) rest

/-- Digits, of which there has to be one. -/
def readDigits (cs : List Char) : Option (List Char × List Char) :=
  let digits := cs.takeWhile Char.isDigit
  if digits.isEmpty then none else some (digits, cs.drop digits.length)

def readWhole (cs : List Char) : Option (List Char × List Char) := do
  let (digits, rest) ← readDigits cs
  if digits.head? == some '0' && 1 < digits.length then none else some (digits, rest)

def readFraction : List Char → Option (Option (List Char) × List Char)
  | '.' :: rest => (readDigits rest).map fun (digits, rest) => (some digits, rest)
  | cs => some (none, cs)

def readExponent (cs : List Char) : Option (Option Int × List Char) :=
  match cs with
  | c :: rest =>
      if c == 'e' || c == 'E' then
        let (negative, rest) :=
          match rest with
          | '-' :: rest => (true, rest)
          | '+' :: rest => (false, rest)
          | rest => (false, rest)
        (readDigits rest).map fun (digits, rest) =>
          let magnitude : Int := Digits.decimal digits
          (some (if negative then -magnitude else magnitude), rest)
      else some (none, cs)
  | [] => some (none, cs)

def readLiteral (cs : List Char) : Option (Literal × List Char) := do
  let (negative, start) :=
    match cs with
    | '-' :: rest => (true, rest)
    | cs => (false, cs)
  let (whole, rest) ← readWhole start
  let (fraction, rest) ← readFraction rest
  let (exponent, rest) ← readExponent rest
  return (⟨negative, whole, fraction, exponent⟩, rest)

def word (text : String) (value : Scalar) : Document :=
  .plain (if dialect.wordsAreTexts then some text else none) (some value)

def readNumber (cs : List Char) : Option (Document × List Char) := do
  let (literal, rest) ← readLiteral cs
  let written := String.ofList (cs.take (cs.length - rest.length))
  return (← dialect.number literal written, rest)

def readName (cs : List Char) : Option (String × List Char) :=
  match cs with
  | '"' :: start => do
      let (name, rest) ← readQuoted dialect [] start
      match skip rest with
      | ':' :: after =>
          if dialect.colon.allows cs rest after then some (name, after) else none
      | _ => none
  | _ => none

mutual

/-- The first argument bounds the calls, of which every one reads a character. -/
def readValue : Nat → Nat → List Char → Option (Document × List Char)
  | 0, _, _ => none
  | calls + 1, depth, cs =>
      match skip cs with
      | '"' :: rest => (readQuoted dialect [] rest).map fun (text, rest) => (.quoted text, rest)
      | 't' :: 'r' :: 'u' :: 'e' :: rest => some (word dialect "true" (.bool true), rest)
      | 'f' :: 'a' :: 'l' :: 's' :: 'e' :: rest => some (word dialect "false" (.bool false), rest)
      | 'n' :: 'u' :: 'l' :: 'l' :: rest => some (word dialect "null" .null, rest)
      | '[' :: rest =>
          if depth = 0 then none
          else
            match skip rest with
            | ']' :: rest => some (.list [], rest)
            | rest => (readItems calls (depth - 1) [] rest).map fun (items, rest) =>
                (.list items, rest)
      | '\x7b' :: rest =>
          if depth = 0 then none
          else
            match skip rest with
            | '\x7d' :: rest => some (.mapping [], rest)
            | rest => (readMembers calls (depth - 1) [] rest).map fun (members, rest) =>
                (.mapping members, rest)
      | cs => readNumber dialect cs

/-- The items from the next one on; `done` holds those before it, last one first. -/
def readItems : Nat → Nat → List Document → List Char → Option (List Document × List Char)
  | 0, _, _, _ => none
  | calls + 1, depth, done, cs => do
      let (item, rest) ← readValue calls depth cs
      match skip rest with
      | ',' :: rest => readItems calls depth (item :: done) rest
      | ']' :: rest => some ((item :: done).reverse, rest)
      | _ => none

def readMembers : Nat → Nat → List (String × Document) → List Char →
    Option (List (String × Document) × List Char)
  | 0, _, _, _ => none
  | calls + 1, depth, done, cs => do
      let (name, rest) ← readName dialect (skip cs)
      let (value, rest) ← readValue calls depth rest
      match skip rest with
      | ',' :: rest => readMembers calls depth ((name, value) :: done) rest
      | '\x7d' :: rest => some (((name, value) :: done).reverse, rest)
      | _ => none

end

/-- May these characters of white space stand in front of a document? -/
def mayLead (cs : List Char) : Bool :=
  cs.all isSpace && (dialect.tabsIndent || !cs.contains '\t')

/-- May these characters follow a document?  Tabs on its last line indent nothing. -/
def mayFollow (cs : List Char) : Bool :=
  cs.all isSpace && mayLead dialect (cs.dropWhile fun c => c == ' ' || c == '\t')

end Reader

def read? (dialect : Dialect) (text : String) : Option Document := do
  let cs := text.toList
  let (document, rest) ← Reader.readValue dialect (2 * cs.length + 2) dialect.depth cs
  if Reader.mayLead dialect (cs.takeWhile Reader.isSpace) && Reader.mayFollow dialect rest then
    some document
  else none

end Dossier.Document

namespace Dossier.Json

def parse? (text : String) : Option Json :=
  Document.read? .json text >>= Document.toJson?

end Dossier.Json
