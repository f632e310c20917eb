import Dossier.Record

/-!
Pools: the fetched records of one entity type, addressed by their index.
-/

namespace Dossier

/-- Records under their keys, in the order in which they were fetched. -/
structure Pool where
  entries : List (String × Record)

namespace Pool

/-- A record without an identifier is named by its type and index. -/
def keyOf (object : String) (index : Nat) (record : Record) : String :=
  match record.id? with
  | some id => id
  | none => object ++ ":" ++ toString index

def ofRecords (object : String) (records : List Record) : Pool :=
  ⟨records.mapIdx fun index record => (keyOf object index record, record)⟩

def empty : Pool := ⟨[]⟩

def isEmpty (pool : Pool) : Bool := pool.entries.isEmpty

def size (pool : Pool) : Nat := pool.entries.length

def get? (pool : Pool) (index : Nat) : Option (String × Record) := pool.entries[index]?

def find? (pool : Pool) (id : String) : Option Nat :=
  pool.entries.findIdx? fun entry => entry.2.id? == some id

/-- The indices of the records by their text of a field, as far as it is not empty. -/
def indexBy (pool : Pool) (field : String) : List (String × List Nat) :=
  Table.group (pool.entries.zipIdx.filterMap fun (entry, index) =>
    (entry.2.reference? field).map fun text => (text, index))

end Pool

abbrev Pools := List (String × Pool)

namespace Pools

def ofRecords (records : List (String × List Record)) : Pools :=
  records.map fun (object, records) => (object, Pool.ofRecords object records)

/-- A type which was not fetched has an empty pool. -/
def pool (pools : Pools) (object : String) : Pool :=
  (pools.lookup object).getD Pool.empty

def count (pools : Pools) (object : String) : Nat :=
  (pool pools object).size

end Pools

end Dossier
