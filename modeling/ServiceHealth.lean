import ServiceHealth.Api.Basic
import ServiceHealth.Main
import ServiceHealth.Wire.Settings
import ServiceHealth.Proofs.Health.Changes
import ServiceHealth.Proofs.Health.Counters
import ServiceHealth.Proofs.Fleet.Presence
import ServiceHealth.Proofs.Fleet.Gauges
import ServiceHealth.Proofs.Rehearsal.Watch
import ServiceHealth.Proofs.Service.Life
import ServiceHealth.Proofs.Service.Metadata
import ServiceHealth.Proofs.Service.ExactMap
import ServiceHealth.Proofs.Fleet.AnyOrder
import ServiceHealth.Proofs.Api.Requests
import ServiceHealth.Proofs.Fleet.Timeline
import ServiceHealth.Proofs.Fleet.Discovery
import ServiceHealth.Proofs.Api.ReadBack
import ServiceHealth.Proofs.Settings.Starting
import ServiceHealth.Proofs.Monitor.Page
import ServiceHealth.Proofs.Monitor.Commute
import ServiceHealth.Proofs.Monitor.Conservation
import ServiceHealth.Proofs.Monitor.Purging
import ServiceHealth.Proofs.Wire.RoundTrip
import ServiceHealth.Proofs.Meter.Legible
import ServiceHealth.Proofs.Meter.Reading
import ServiceHealth.Proofs.Service.Naming
import ServiceHealth.Proofs.Probe.Target
import ServiceHealth.Proofs.Api.Collisions
import ServiceHealth.Proofs.Api.Bodies
import ServiceHealth.Proofs.Service.ProbedPort
import ServiceHealth.Proofs.Health.BoardHistory
import ServiceHealth.Proofs.Settings.Acceptance
import ServiceHealth.Proofs.Probe.Entries
import ServiceHealth.Proofs.Fleet.Tallying
import ServiceHealth.Proofs.Monitor.Calls
import ServiceHealth.Proofs.Monitor.Reconciling
