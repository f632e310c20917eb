import Dossier.Text.Blank

/-!
Account identifiers: fifteen to eighteen ASCII letters and digits.

A run is asked about a list of them, which people type or paste.  What is not an identifier is
dropped, a repeated one counts once, and at most `AccountId.limit` are taken.
-/

namespace Dossier.AccountId

def limit : Nat := 200

def isIdentifier (token : String) : Bool :=
  let cs := token.toList
  15 ≤ cs.length && cs.length ≤ 18 && cs.all Char.isAlphanum

/-- The identifiers from the next candidate on; `taken` holds those before it. -/
def sanitizeFrom : List String → List String → List String
  | taken, [] => taken
  | taken, candidate :: rest =>
      let token := Text.trim candidate
      if !isIdentifier token || taken.contains token then sanitizeFrom taken rest
      else if taken.length = limit then taken
      else sanitizeFrom (taken ++ [token]) rest

def sanitize (candidates : List String) : List String :=
  sanitizeFrom [] candidates

/-- Identifiers in free text are separated by white space, commas and semicolons. -/
def isSeparator (c : Char) : Bool :=
  Text.isBlank c || c == ',' || c == ';'

def tokens (text : String) : List String :=
  (Text.runs (fun c => !isSeparator c) text.toList).map String.ofList

def parse (text : String) : List String :=
  sanitize (tokens text)

end Dossier.AccountId
