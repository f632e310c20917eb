import Dossier.Fetch.FieldCache
import Dossier.Fetch.Plan
import Dossier.Fetch.Warnings

/-!
Fetching the records which relate to a list of accounts.

Types are fetched in the order in which they depend on each other: accounts, types which link to
them, types to which contacts refer, and contact points.  A type whose schema the store rejects is
degraded: it has no records, and there is a warning.  Any other failure ends the fetch, and so does
every failure of the accounts.

The types of one step do not depend on each other, so that their calls may be made in any order.  Here
they are made type by type, as they are on a store which answers at once.  Whether a step fails is the
same in every order, but which failure ends it is not; `Dossier.Interleaved` has all of them.
-/

namespace Dossier

def chunkSize : Nat := 100

inductive FetchError where
  /-- A call for the accounts failed. -/
  | required (object : String) (source : StoreError)
  /-- A call failed in a way which does not concern its type alone. -/
  | store (object : String) (source : StoreError)
deriving DecidableEq, Repr

namespace FetchError

def kind : FetchError → String
  | required _ _ => "Required"
  | store _ _ => "Store"

def messages : FetchError → List String
  | required object source => ["failed to fetch required entity type " ++ object, source.message]
  | store object source => ["failed to fetch entity type " ++ object, source.message]

end FetchError

structure Fetched where
  accountIds : List String
  missingAccountIds : List String
  records : List (String × List Record)
  plans : List (String × ObjectPlan)
  linkSources : List (String × List LinkSource)
  warnings : Warnings

structure FetchState (σ : Type) where
  store : σ
  cache : FieldCache
  warnings : Warnings

/-- A step of a fetch.  Its state outlives its failure. -/
abbrev Fetching (σ : Type) := ExceptT FetchError (StateM (FetchState σ))

namespace Fetching

structure Setting (σ : Type) where
  store : Store σ
  config : Config

/-- May the records of a type be done without? -/
inductive Need where
  | required
  | optional
deriving DecidableEq, Repr

variable {σ : Type} (setting : Setting σ)

/-- A type which can be done without is degraded if the error concerns it alone. -/
def degrade (object : String) (error : StoreError) (need : Need) : Fetching σ Unit :=
  if need = .required then throw (.required object error)
  else if !error.isRecoverable then throw (.store object error)
  else modify fun state =>
    { state with
      warnings := state.warnings.insert object
        (error.warning (setting.config.registry.label object)) }

/-- The fields of a type, from the cache or from the store. -/
def describe (object : String) : Fetching σ (Except StoreError (List String)) :=
  modifyGet fun state =>
    let (answer, cache, store) := state.cache.fields setting.store object state.store
    (answer, { state with cache, store })

def ask (query : Query) : Fetching σ (Except StoreError (List Record)) :=
  modifyGet fun state =>
    let (answer, store) := setting.store.query query state.store
    (answer, { state with store })

def plan (object : String) (need : Need) : Fetching σ (Option ObjectPlan) := do
  match ← describe setting object with
  | .ok available => return some (ObjectPlan.make setting.config object available)
  | .error error =>
      degrade setting object error need
      return none

/-- Chunks of a list: as many items as `size` in each one but the last. -/
def chunksOf (size : Nat) (items : List α) : List (List α) :=
  (List.range ((items.length + size - 1) / size)).map fun index =>
    (items.drop (index * size)).take size

def queryChunks (object : String) (fields : List String) (idField : String) (need : Need) :
    List Record → List (List String) → Fetching σ (Option (List Record))
  | records, [] => return some records
  | records, chunk :: rest => do
      if (← get).warnings.contains object then return none
      match ← ask setting ⟨object, fields, idField, chunk⟩ with
      | .ok more => queryChunks object fields idField need (records ++ more) rest
      | .error error =>
          degrade setting object error need
          return none

def query (object : String) (fields : List String) (idField : String) (ids : List String)
    (need : Need) : Fetching σ (Option (List Record)) :=
  queryChunks setting object fields idField need [] (chunksOf chunkSize ids)

structure Part where
  object : String
  plan : Option ObjectPlan
  linkSources : Option (List LinkSource)
  records : List Record

def fetchType (object idField : String) (ids : List String) (need : Need) :
    Fetching σ Part := do
  match ← plan setting object need with
  | none => return ⟨object, none, none, []⟩
  | some plan =>
      let records ← query setting object plan.queryFields idField ids need
      return ⟨object, some plan, none, records.getD []⟩

def distinctValues (records : List Record) (field : String) : List String :=
  distinct (records.filterMap (·.reference? field))

/-- The active paths to a contact point: those which are selected, and whose field exists. -/
def activeSources (config : Config) (plan : ObjectPlan) (object : String)
    (contactField individualField : Option String) : List LinkSource :=
  (config.linkPaths object).filterMap fun path =>
    let field :=
      match path with
      | .contact => contactField
      | .individual => individualField
    (field.filter plan.hasField).map fun field => ⟨path, field⟩

/-- Records which were not reached before; one without an identifier is always new. -/
def addNew (pool more : List Record) : List Record :=
  more.foldl (fun pool record =>
    match record.id? with
    | some id => if pool.any (·.id? == some id) then pool else pool ++ [record]
    | none => pool ++ [record]) pool

/-- The records which are reached by one path after the other.  A type which is degraded on one of
them has no records at all. -/
def queryPaths (plan : ObjectPlan) (owners : LinkPath → List String) :
    List Record → List LinkSource → Fetching σ (List Record)
  | pool, [] => return pool
  | pool, source :: rest => do
      match ← query setting plan.object plan.queryFields source.field (owners source.path)
        .optional with
      | none => return []
      | some records => queryPaths plan owners (addNew pool records) rest

def fetchContactPoint (object : String) (contactField individualField : Option String)
    (owners : LinkPath → List String) : Fetching σ Part := do
  match ← plan setting object .optional with
  | none => return ⟨object, none, some [], []⟩
  | some plan =>
      let sources := activeSources setting.config plan object contactField individualField
      let pool ← queryPaths setting plan owners [] sources
      return ⟨object, some plan, some sources, pool⟩

/-- Fetches the types of one step, one after the other. -/
def fetchAll (fetch : EntityType → Option (Fetching σ Part)) :
    List EntityType → Fetching σ (List Part)
  | [] => return []
  | type :: rest =>
      match fetch type with
      | none => fetchAll fetch rest
      | some part => do
          let part ← part
          return part :: (← fetchAll fetch rest)

def direct (accountIds : List String) (type : EntityType) : Option (Fetching σ Part) :=
  match type.link with
  | .direct field => some (fetchType setting type.name field accountIds .optional)
  | _ => none

def referenced (contacts : List Record) (type : EntityType) : Option (Fetching σ Part) :=
  match type.link with
  | .contactReference field =>
      some (fetchType setting type.name Record.idField (distinctValues contacts field) .optional)
  | _ => none

def contactPoint (owners : LinkPath → List String) (type : EntityType) :
    Option (Fetching σ Part) :=
  match type.link with
  | .contactPoint contactField individualField =>
      some (fetchContactPoint setting type.name contactField individualField owners)
  | _ => none

/-- The owners of contact points: contacts by their identifiers, individuals by the contacts'
references to them. -/
def owners (registry : Registry) (contacts : List Record) : LinkPath → List String
  | .contact => distinctValues contacts Record.idField
  | .individual =>
      match registry.get? EntityType.individual with
      | some ⟨_, _, _, .contactReference field, _⟩ => distinctValues contacts field
      | _ => []

def recordsOf (parts : List Part) (object : String) : List Record :=
  match parts.find? (·.object == object) with
  | some part => part.records
  | none => []

def missing (accountIds : List String) (accounts : List Record) : List String :=
  let found := accounts.filterMap (·.id?)
  accountIds.filter fun id => !found.contains id

def stages (accountIds : List String) : Fetching σ (List Part × List String) := do
  let registry := setting.config.registry
  let accounts ← fetchType setting EntityType.account Record.idField accountIds .required
  let direct ← fetchAll (direct setting accountIds) registry.linked
  let contacts := recordsOf (accounts :: direct) EntityType.contact
  let referenced ← fetchAll (referenced setting contacts) registry.linked
  let contacts := recordsOf (accounts :: direct ++ referenced) EntityType.contact
  let points ← fetchAll (contactPoint setting (owners registry contacts)) registry.linked
  return (accounts :: direct ++ referenced ++ points, missing accountIds accounts.records)

end Fetching

/-- Fetches the records of every type which relate to the accounts. -/
def fetch (store : Store σ) (config : Config) (accountIds : List String) (cache : FieldCache)
    (state : σ) : Except FetchError Fetched × FieldCache × σ :=
  let (result, last) := (Fetching.stages ⟨store, config⟩ accountIds).run.run
    ⟨state, cache, Warnings.empty⟩
  let fetched := result.map fun (parts, missing) =>
    { accountIds
      missingAccountIds := missing
      records := parts.map fun part => (part.object, part.records)
      plans := parts.filterMap fun part => part.plan.map fun plan => (part.object, plan)
      linkSources := parts.filterMap fun part =>
        part.linkSources.map fun sources => (part.object, sources)
      warnings := last.warnings : Fetched }
  (fetched, last.cache, last.store)

namespace Fetched

def toJson (fetched : Fetched) : Json :=
  .object [("accountIds", .texts fetched.accountIds),
    ("missingAccountIds", .texts fetched.missingAccountIds),
    ("records", .object (fetched.records.map fun (object, records) =>
      (object, .array (records.map Record.toJson)))),
    ("plans", .object (fetched.plans.map fun (object, plan) => (object, plan.toJson))),
    ("linkSources", .object (fetched.linkSources.map fun (object, sources) =>
      (object, .array (sources.map LinkSource.toJson)))),
    ("warnings", .object (fetched.warnings.entries.map fun (key, text) => (key, .text text)))]

end Fetched

end Dossier
