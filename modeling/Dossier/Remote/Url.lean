import Dossier.Remote.Host
import Dossier.Number.Digits

/-!
Addresses of remote instances, and references which are followed from them.

An address is read as browsers do it: a scheme, for the schemes of the web a host, and a path whose
dot segments are resolved.  Characters which may not stand in a path or a query are escaped.
-/

namespace Dossier.Remote

inductive UrlError where
  | host (error : HostError)
  | port
  /-- A reference stands where nothing says from where it is followed. -/
  | noBase
  /-- A reference is followed from an address without segments. -/
  | opaqueBase
deriving DecidableEq, Repr

namespace UrlError

def message : UrlError → String
  | host error => error.message
  | port => "invalid port number"
  | noBase => "relative URL without a base"
  | opaqueBase => "relative URL with a cannot-be-a-base base"

end UrlError

inductive Path where
  | segments (texts : List String)
  | opaquePath (text : String)
deriving DecidableEq, Repr

namespace Path

def text : Path → String
  | segments texts => String.join (texts.map ("/" ++ ·))
  | opaquePath text => text

end Path

/-- An address, as far as requests depend on it. -/
structure Url where
  scheme : String
  host : Option Host
  path : Path
  search : Option String
deriving DecidableEq, Repr

inductive SchemeKind where
  | web
  /-- There may be a host, which is one of the web. -/
  | file
  /-- There may be a host, about which nothing is known. -/
  | other
deriving DecidableEq, Repr

namespace SchemeKind

def ofScheme (scheme : String) : SchemeKind :=
  if ["http", "https", "ws", "wss", "ftp"].contains scheme then web
  else if scheme == "file" then file
  else other

def isSlash (kind : SchemeKind) (c : Char) : Bool :=
  c == '/' || (c == '\\' && kind != other)

end SchemeKind

namespace Url

/-- Controls and spaces around an address do not belong to it, and neither do tabs and line ends
inside. -/
def clean (text : String) : List Char :=
  let isEdge (c : Char) : Bool := c.toNat ≤ 0x20
  let trimmed := ((text.toList.dropWhile isEdge).reverse.dropWhile isEdge).reverse
  trimmed.filter fun c => c != '\t' && c != '\n' && c != '\r'

def isSchemeChar (c : Char) : Bool :=
  c.isAlphanum || c == '+' || c == '-' || c == '.'

/-- The scheme in front of a colon, in lower case, and what follows. -/
def splitScheme? (cs : List Char) : Option (String × List Char) :=
  let scheme := cs.takeWhile isSchemeChar
  match scheme, cs.drop scheme.length with
  | first :: _, ':' :: rest =>
      if first.isAlpha then some (String.ofList (scheme.map Char.toLower), rest) else none
  | _, _ => none

/-! Paths -/

def escapedInPath : List Char := [' ', '"', '#', '<', '>', '?', '\x60', '\x7b', '\x7d']

def escapedInSearch (kind : SchemeKind) : List Char :=
  [' ', '"', '#', '<', '>'] ++ if kind = .other then [] else ['\x27']

/-- The parts between slashes; `part` holds the characters of the current one, last one first. -/
def splitSegments (kind : SchemeKind) (part : List Char) : List Char → List (List Char)
  | [] => [part.reverse]
  | c :: rest =>
      if kind.isSlash c then part.reverse :: splitSegments kind [] rest
      else splitSegments kind (c :: part) rest

def dots (segment : List Char) : Option Nat :=
  match String.ofList (segment.map Char.toLower) with
  | "." | "%2e" => some 1
  | ".." | ".%2e" | "%2e." | "%2e%2e" => some 2
  | _ => none

/-- Segments are followed one after the other: one dot stays, two dots go back, and either leaves an
open segment at the end. -/
def follow (done : List String) : List (List Char) → List String
  | [] => done
  | segment :: rest =>
      let opened (done : List String) := if rest.isEmpty then done ++ [""] else done
      match dots segment with
      | some 1 => follow (opened done) rest
      | some _ => follow (opened done.dropLast) rest
      | none => follow (done ++ [String.ofList (escapeAll escapedInPath segment)]) rest

/-- What comes before the fragment, cut at the first question mark. -/
def splitSearch (kind : SchemeKind) (cs : List Char) : List Char × Option String :=
  let cs := cs.takeWhile (· != '#')
  let path := cs.takeWhile (· != '?')
  match cs.drop path.length with
  | _ :: search => (path, some (String.ofList (escapeAll (escapedInSearch kind) search)))
  | [] => (path, none)

/-- The path and search part behind an authority, or behind a slash which says that there is
none. -/
def ofRooted (scheme : String) (host : Option Host) (cs : List Char) : Url :=
  let kind := SchemeKind.ofScheme scheme
  let (path, search) := splitSearch kind cs
  let segments :=
    match path with
    | c :: rest => splitSegments kind [] (if kind.isSlash c then rest else path)
    | [] => if kind = .other then [] else [[]]
  ⟨scheme, host, .segments (follow [] segments), search⟩

def ofOpaque (scheme : String) (cs : List Char) : Url :=
  let (path, search) := splitSearch .other cs
  ⟨scheme, none, .opaquePath (String.ofList (escapeAll [] path)), search⟩

/-! Authorities -/

/-- An authority ends where a path, a search part or a fragment may start. -/
def splitAuthority (kind : SchemeKind) (cs : List Char) : List Char × List Char :=
  cs.span fun c => !(kind.isSlash c || c == '?' || c == '#')

/-- The user before the last at sign, if there is one, and the rest. -/
def splitUser (authority : List Char) : Option (List Char) × List Char :=
  let rest := (authority.reverse.takeWhile (· != '@')).reverse
  let user := authority.take (authority.length - rest.length)
  (if user.isEmpty then none else some user.dropLast, rest)

/-- The host and what starts with the first colon outside brackets. -/
def splitHost (inBrackets : Bool) : List Char → List Char × List Char
  | [] => ([], [])
  | c :: rest =>
      if c == ':' && !inBrackets then ([], c :: rest)
      else
        let (host, service) := splitHost (c == '[' || (inBrackets && c != ']')) rest
        (c :: host, service)

/-- What follows the number of a service, which a colon is in front of.  A backslash ends it
everywhere. -/
def afterPort (cs : List Char) : Except UrlError (List Char) :=
  match cs with
  | ':' :: rest =>
      let (digits, rest) := rest.span Char.isDigit
      let isEnded := rest.head?.all (· == '\\')
      if Digits.decimal digits < wordSize 16 && isEnded then .ok rest else .error .port
  | _ => .ok cs

/-- What follows the slashes in front of a host.  Where the host is empty, nothing else may be with
it but the sign after an empty user, and that at the end only. -/
def ofAuthority (scheme : String) (cs : List Char) : Except UrlError Url := do
  let kind := SchemeKind.ofScheme scheme
  let (authority, rest) := splitAuthority kind cs
  let (user, service) := splitUser authority
  let (host, port) := splitHost false service
  if host.isEmpty then
    let isAlone := kind = .other && port.isEmpty && match user with
      | none | some [':'] => true
      | some [] => rest.isEmpty
      | some _ => false
    if isAlone then return ofRooted scheme none rest else throw (.host .empty)
  else
    let host ← ((if kind = .other then Host.ofOpaque else Host.ofWeb) host).mapError .host
    return ofRooted scheme (some host) ((← afterPort port) ++ rest)

/-- Does a host look like the name of a drive? -/
def isDrive (host : List Char) : Bool :=
  match host with
  | [letter, sign] => letter.isAlpha && (sign == ':' || sign == '|')
  | _ => false

/-- What follows the slashes in front of the host of a file, which is absent where it is the one on
which the file is looked up. -/
def ofFileAuthority (scheme : String) (cs : List Char) : Except UrlError Url := do
  let (host, rest) := splitAuthority .file cs
  if isDrive host then return ofRooted scheme none cs
  else if host.isEmpty then return ofRooted scheme none rest
  else
    let host ← (Host.ofWeb host).mapError .host
    return ofRooted scheme (if host = .name "localhost" then none else some host) rest

/-! Whole addresses -/

def splitSlashes (cs : List Char) : List Char × List Char :=
  cs.span fun c => c == '/' || c == '\\'

def ofScheme (scheme : String) (cs : List Char) : Except UrlError Url :=
  match SchemeKind.ofScheme scheme with
  | .web => ofAuthority scheme (splitSlashes cs).2
  | .file =>
      if 2 ≤ (splitSlashes cs).1.length then ofFileAuthority scheme (cs.drop 2)
      else .ok (ofRooted scheme none cs)
  | .other =>
      match cs with
      | '/' :: '/' :: rest => ofAuthority scheme rest
      | '/' :: _ => .ok (ofRooted scheme none cs)
      | _ => .ok (ofOpaque scheme cs)

def parse (text : String) : Except UrlError Url :=
  match splitScheme? (clean text) with
  | some (scheme, rest) => ofScheme scheme rest
  | none => .error .noBase

def joinRelative (base : Url) (segments : List String) (cs : List Char) : Except UrlError Url :=
  let kind := SchemeKind.ofScheme base.scheme
  let (slashes, rest) := splitSlashes cs
  match cs with
  | [] => .ok base
  | '#' :: _ => .ok base
  | '?' :: _ => .ok { base with search := (splitSearch kind cs).2 }
  | first :: afterFirst =>
      if 2 ≤ slashes.length then
        if kind = .file then ofFileAuthority base.scheme (cs.drop 2)
        else ofAuthority base.scheme (if cs.take 2 = ['/', '/'] then cs.drop 2 else rest)
      else if slashes.length = 1 then .ok (ofRooted base.scheme base.host ('/' :: afterFirst))
      else
        let (path, search) := splitSearch kind (first :: afterFirst)
        .ok { base with
          path := .segments (follow segments.dropLast (splitSegments kind [] path)), search }

/-- The address to which a reference leads from here.  One which names the scheme of the web from
which it is followed needs no scheme. -/
def join (base : Url) (reference : String) : Except UrlError Url :=
  let cs := clean reference
  let relative (cs : List Char) : Except UrlError Url :=
    match base.path, cs with
    | .segments segments, _ => joinRelative base segments cs
    | .opaquePath _, '#' :: _ => .ok base
    | .opaquePath _, _ => .error .opaqueBase
  match splitScheme? cs with
  | none => relative cs
  | some (scheme, rest) =>
      let isSame := scheme == base.scheme
      match SchemeKind.ofScheme scheme with
      | .web =>
          if isSame && (splitSlashes rest).1.length < 2 then relative rest
          else ofScheme scheme rest
      | .file => if isSame then relative rest else ofScheme scheme rest
      | .other => ofScheme scheme rest

/-- The path and search part, as a request names them.  Pairs of a form are added to the search
part, which is left out where it is empty. -/
def target (url : Url) (form : List (String × String)) : String :=
  let pairs := form.map fun (name, value) => formEncode name ++ "=" ++ formEncode value
  let search := "&".intercalate ((url.search.toList.filter (· != "")) ++ pairs)
  if search == "" then url.path.text else url.path.text ++ "?" ++ search

def takesRequests (url : Url) : Bool := ["http", "https"].contains url.scheme

end Url

end Dossier.Remote
