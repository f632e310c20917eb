import Dossier.Record
import Dossier.Registry

/-!
Account graphs: the records which are related to one account.
-/

namespace Dossier

/-- A record as part of an account, under the key which names it within its type and run. -/
structure GraphRecord where
  key : String
  record : Record
  /-- The ways in which a contact point was reached from the account; other types have none. -/
  linkSources : List LinkSource
deriving Inhabited

namespace GraphRecord

def id? (record : GraphRecord) : Option String := record.record.id?

end GraphRecord

/-- The records related to one account, by entity type in the order in which the types came. -/
structure AccountGraph where
  accountId : String
  account : GraphRecord
  related : List (String × List GraphRecord)
deriving Inhabited

namespace AccountGraph

/-- The account is its own only record of its type.  Of a repeated type the last records count. -/
def make (accountId : String) (account : GraphRecord)
    (related : List (String × List GraphRecord)) : AccountGraph where
  accountId := accountId
  account := account
  related := (related.filter (·.1 != EntityType.account)).foldl
    (fun objects entry => Table.put entry.1 entry.2 objects) []

def records (graph : AccountGraph) (object : String) : List GraphRecord :=
  if object == EntityType.account then [graph.account]
  else (graph.related.lookup object).getD []

def objects (graph : AccountGraph) : List (String × List GraphRecord) :=
  (EntityType.account, [graph.account]) :: graph.related

end AccountGraph

end Dossier
