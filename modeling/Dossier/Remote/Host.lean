import Dossier.Remote.Address
import Dossier.Remote.Domain
import Dossier.Remote.Escape

/-!
Hosts, as an address names them.
-/

namespace Dossier.Remote

inductive Host where
  | name (text : String)
  | address4 (address : Address4)
  | address6 (address : Address6)
deriving DecidableEq, Repr

inductive HostError where
  | empty
  | domain
  | address4
  | address6
  | character
deriving DecidableEq, Repr

namespace HostError

def message : HostError → String
  | empty => "empty host"
  | domain => "invalid international domain name"
  | address4 => "invalid IPv4 address"
  | address6 => "invalid IPv6 address"
  | character => "invalid domain character"

end HostError

namespace Host

def text : Host → String
  | name text => text
  | address4 address => address.text
  | address6 address => "[" ++ address.text ++ "]"

/-- A newer address stands in brackets. -/
def bracketed (cs : List Char) (other : Except HostError Host) : Except HostError Host :=
  match cs with
  | '[' :: rest =>
      let address := if rest.getLast? == some ']' then Address6.parse? rest.dropLast else none
      match address with
      | some address => .ok (.address6 address)
      | none => .error .address6
  | _ => other

/-- A host of the web is looked up, and is a domain name unless it ends like an older address. -/
def ofWeb (cs : List Char) : Except HostError Host :=
  bracketed cs do
    let folded := do
      let text ← String.fromUTF8? ⟨(unescape cs).toArray⟩
      Domain.toAscii? text.toList
    match folded with
    | none => throw .domain
    | some [] => throw .empty
    | some ascii =>
        if Address4.isExpected ascii then
          match Address4.parse? ascii with
          | some address => return .address4 address
          | none => throw .address4
        else return .name (String.ofList ascii)

def isForbidden (c : Char) : Bool :=
  "\x00\t\n\r #/:<>?@[\\]^|".toList.contains c

/-- Any other host stands for itself, and may be empty. -/
def ofOpaque (cs : List Char) : Except HostError Host :=
  bracketed cs <|
    if cs.any isForbidden then throw .character
    else return .name (String.ofList (escapeAll [] cs))

end Host

end Dossier.Remote
