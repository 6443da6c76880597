import ServiceHealth.Probe.Target
import ServiceHealth.Service.Metadata

/-!
# Service instances

A registration is what an instance says about itself; the record kept of it adds when it was
registered and, once it has left, when that was.
-/
namespace ServiceHealth

structure Registration where
  serviceId : String
  serviceName : String
  address : String
  port : UInt16
  protocol : Probe.Protocol
  metadata : Metadata
  deriving DecidableEq

/-- Refuses a registration with a blank name or the port zero. -/
def Registration.check (r : Registration) : Except Error Unit :=
  if Text.isAllBlank r.serviceId then .error (.invalid .emptyId)
  else if Text.isAllBlank r.serviceName then .error (.invalid .emptyName)
  else if Text.isAllBlank r.address then .error (.invalid .emptyAddress)
  else if r.port = 0 then .error (.invalid .zeroPort)
  else .ok ()

/-- The record of an instance. -/
structure Instance where
  serviceId : String
  serviceName : String
  address : String
  port : UInt16
  protocol : Probe.Protocol
  metadata : Metadata
  registeredAt : Timestamp
  deregisteredAt : Option Timestamp
  deriving DecidableEq

namespace Instance

/-- The record of a registration, active since the given time. -/
def ofRegistration (r : Registration) (registeredAt : Timestamp) : Instance :=
  { serviceId := r.serviceId
    serviceName := r.serviceName
    address := r.address
    port := r.port
    protocol := r.protocol
    metadata := r.metadata
    registeredAt := registeredAt
    deregisteredAt := none }

def isActive (i : Instance) : Bool := i.deregisteredAt.isNone

/-- The instance belongs to a service, whose name may be given in any letter case. -/
def matchesService (i : Instance) (name : String) : Bool := Text.sameFold i.serviceName name

/-- Where the instance is probed. -/
def target (i : Instance) : Probe.Target :=
  .aim i.serviceId i.address i.port i.protocol i.metadata.get?

end Instance

end ServiceHealth
