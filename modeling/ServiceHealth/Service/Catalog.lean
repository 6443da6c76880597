import ServiceHealth.Service.Summary

/-!
# The catalog of instances

All records, by the id of the instance. An instance that leaves stays in the catalog, marked with
the time, until its record is purged; one that registers again keeps its first registration time.
-/
namespace ServiceHealth

/-- The records of all instances. -/
structure Catalog where
  records : Table String Instance

structure Registered where
  record : Instance
  previous : Option Instance
  deriving DecidableEq

/-- The instance had left and is back. -/
def Registered.isRevival (r : Registered) : Bool :=
  match r.previous with
  | some i => !i.isActive
  | none => false

namespace Catalog

def empty : Catalog := ⟨.empty⟩

def find? (c : Catalog) (id : String) : Option Instance := c.records.get? id

def get (c : Catalog) (id : String) : Except Error Instance :=
  match c.find? id with
  | some i => .ok i
  | none => .error (.notFound .record id)

def isActive (c : Catalog) (id : String) : Bool :=
  match c.find? id with
  | some i => i.isActive
  | none => false

def put (c : Catalog) (i : Instance) : Catalog := ⟨c.records.insert i.serviceId i⟩

def register (c : Catalog) (now : Timestamp) (r : Registration) :
    Except Error (Registered × Catalog) := do
  r.check
  let previous := c.find? r.serviceId
  let record := Instance.ofRegistration r ((previous.map (·.registeredAt)).getD now)
  return (⟨record, previous⟩, c.put record)

/-- Marks an instance as having left. The first time counts. -/
def deregister (c : Catalog) (now : Timestamp) (id : String) :
    Except Error (Instance × Catalog) := do
  let i ← c.get id
  let i := { i with deregisteredAt := some (i.deregisteredAt.getD now) }
  return (i, c.put i)

def updateMetadata (c : Catalog) (id : String) (pairs : List (String × String)) :
    Except Error (Instance × Catalog) := do
  let i ← c.get id
  let i := { i with metadata := i.metadata.merge pairs }
  return (i, c.put i)

/-- All active records, by id. -/
def active (c : Catalog) : List Instance := c.records.values.filter Instance.isActive

/-- The records of a service, by id, also of instances that have left. -/
def ofService (c : Catalog) (name : String) : List Instance :=
  c.records.values.filter (·.matchesService name)

/-- Notes the name of a service, unless it is known in some letter case. -/
def addName (names : Table String String) (name : String) : Table String String :=
  let folded := Text.fold name
  if names.contains folded then names else names.insert folded name

/-- The names of all services with active instances, in the order of their folded forms. -/
def serviceNames (c : Catalog) : List String :=
  ((c.active.map (·.serviceName)).foldl addName .empty).values

def summary (c : Catalog) (now : Timestamp) (name : String) : MetadataSummary :=
  .ofInstances now name (c.ofService name)

/-- Drops the record of an instance that has left; an active one stays. -/
def purge (c : Catalog) (id : String) : Option Instance × Catalog :=
  match c.find? id with
  | some i => if i.isActive then (none, c) else (some i, ⟨c.records.erase id⟩)
  | none => (none, c)

def size (c : Catalog) : Nat := c.records.size

def activeCount (c : Catalog) : Nat := c.active.length

end Catalog

end ServiceHealth
