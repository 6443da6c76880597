import ServiceHealth.Service.Instance

/-!
# Metadata summaries

Which metadata keys the instances of a service use, how many use each, and with which values.
Keys and values are compared by their folded forms and spelled as the first instance spells them.
-/
namespace ServiceHealth

structure KeySummary where
  key : String
  instanceCount : Nat
  values : List String
  deriving DecidableEq, Repr

/-- Takes one more use into account; a value that is known in another letter case is not listed
again. -/
def KeySummary.add (s : KeySummary) (value : String) : KeySummary :=
  { s with
    instanceCount := s.instanceCount + 1
    values := if s.values.any (Text.sameFold value) then s.values else s.values ++ [value] }

/-- The use of metadata by the instances of a service. -/
structure MetadataSummary where
  serviceName : String
  instanceCount : Nat
  generatedAt : Timestamp
  keys : List KeySummary
  deriving DecidableEq, Repr

namespace MetadataSummary

def addEntry (table : Table String KeySummary) (entry : String × String) :
    Table String KeySummary :=
  let folded := Text.fold entry.1
  table.insert folded (((table.get? folded).getD ⟨entry.1, 0, []⟩).add entry.2)

/-- Summarises instances. The service is called as the first instance calls it. -/
def ofInstances (now : Timestamp) (name : String) (instances : List Instance) :
    MetadataSummary where
  serviceName := (instances.head?.map (·.serviceName)).getD name
  instanceCount := instances.length
  generatedAt := now
  keys := ((instances.flatMap (·.metadata.toList)).foldl addEntry .empty).values

end MetadataSummary

end ServiceHealth
