import Dossier.Graph
import Dossier.Graph.Pool

/-!
Resolving account graphs out of pools.

The pools are indexed once, by every field through which records are reached; the graph of an
account is then a matter of look-ups.  Whatever way its records are found, a type has them in pool
order and each one once.
-/

namespace Dossier

/-- An index of a pool: the indices of its records by their text of one field. -/
abbrev Index := List (String × List Nat)

namespace Index

def lookupAll (index : Index) (texts : List String) : List Nat :=
  texts.flatMap fun text => (index.lookup text).getD []

end Index

/-- How the records of one type are found for an account. -/
inductive Route where
  | direct (byAccount : Index)
  | contactReference (field : String)
  | contactPoint (paths : List (LinkSource × Index))

structure Resolver where
  pools : Pools
  routes : List (String × Route)
  contactsByAccount : Index
  /-- The field of contacts which refers to individuals, where there is one. -/
  individualField : Option String

namespace Resolver

/-- How records of a type are found.  Only the sources by which contact points were fetched
count. -/
def route? (pools : Pools) (linkSources : List (String × List LinkSource)) (type : EntityType) :
    Option (String × Route) :=
  let pool := pools.pool type.name
  match type.link with
  | .root => none
  | .direct field => some (type.name, .direct (pool.indexBy field))
  | .contactReference field => some (type.name, .contactReference field)
  | .contactPoint _ _ =>
      let sources := (linkSources.lookup type.name).getD []
      some (type.name,
        .contactPoint (sources.map fun source => (source, pool.indexBy source.field)))

def make (registry : Registry) (records : List (String × List Record))
    (linkSources : List (String × List LinkSource)) : Resolver :=
  let pools := Pools.ofRecords records
  { pools
    routes := registry.objects.filterMap (route? pools linkSources)
    contactsByAccount :=
      match registry.get? EntityType.contact with
      | some ⟨_, _, _, .direct field, _⟩ => (pools.pool EntityType.contact).indexBy field
      | _ => []
    individualField :=
      match registry.get? EntityType.individual with
      | some ⟨_, _, _, .contactReference field, _⟩ => some field
      | _ => none }

variable (resolver : Resolver)

def contacts (accountId : String) : List Record :=
  let pool := resolver.pools.pool EntityType.contact
  ((resolver.contactsByAccount.lookup accountId).getD []).filterMap fun index =>
    (pool.get? index).map (·.2)

def references (contacts : List Record) (field : String) : List String :=
  distinct (contacts.filterMap (·.reference? field))

/-- The owners of contact points at the end of a path. -/
def owners (contacts : List Record) : LinkPath → List String
  | .contact => distinct (contacts.filterMap (·.id?))
  | .individual =>
      match resolver.individualField with
      | some field => references contacts field
      | none => []

/-- The records at the given indices, each with the sources by which it was reached. -/
def collect (object : String) (sources : Nat → List LinkSource) (found : List Nat) :
    List GraphRecord :=
  (resolver.pools.pool object).entries.zipIdx.filterMap fun ((key, record), index) =>
    if found.contains index then some ⟨key, record, sources index⟩ else none

/-- The records of one type which belong to an account with the given contacts. -/
def related (accountId : String) (contacts : List Record) (object : String) :
    Route → List GraphRecord
  | .direct byAccount => resolver.collect object (fun _ => []) (byAccount.lookupAll [accountId])
  | .contactReference field =>
      let pool := resolver.pools.pool object
      resolver.collect object (fun _ => []) ((references contacts field).filterMap pool.find?)
  | .contactPoint paths =>
      let reached := paths.map fun (source, index) =>
        (source, index.lookupAll (resolver.owners contacts source.path))
      let sources (index : Nat) :=
        distinct ((reached.filter fun (_, found) => found.contains index).map (·.1))
      resolver.collect object sources (reached.flatMap (·.2))

/-- An account which was not fetched has a record without fields. -/
def account (accountId : String) : GraphRecord :=
  let pool := resolver.pools.pool EntityType.account
  match pool.find? accountId >>= pool.get? with
  | some (key, record) => ⟨key, record, []⟩
  | none => ⟨EntityType.account ++ ":0", Record.empty, []⟩

def resolve (accountId : String) : AccountGraph :=
  let contacts := resolver.contacts accountId
  AccountGraph.make accountId (resolver.account accountId)
    (resolver.routes.map fun (object, route) =>
      (object, resolver.related accountId contacts object route))

end Resolver

end Dossier
