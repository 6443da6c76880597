import ServiceHealth.Meter.Meters

/-!
# The metrics page

The page lists the families in a fixed order. Each begins with two lines that give its purpose and
its shape, also when it has no samples yet. A counter's samples are named with `_total`; a histogram
has one sample for each bucket, counting all observations up to the bound, and two for the sum and
the count. Label values stand between quotes as they are.
-/
namespace ServiceHealth.Meter

inductive Shape where
  | counter
  | gauge
  | histogram
  deriving DecidableEq, Repr

/-- The word for the shape on the page. -/
def Shape.name : Shape → String
  | .counter => "counter"
  | .gauge => "gauge"
  | .histogram => "histogram"

/-- One sample: the end of its name, its labels and its value. -/
structure Sample where
  suffix : String
  labels : List (String × String)
  value : String
  deriving DecidableEq, Repr

/-- A family as the page shows it. -/
structure Block where
  name : String
  purpose : String
  shape : Shape
  samples : List Sample
  deriving DecidableEq, Repr

/-- Labels between braces; no labels, no braces. -/
def labelsText (labels : List (String × String)) : String :=
  if labels.isEmpty then ""
  else
    "\x7b" ++ ",".intercalate (labels.map fun l => l.1 ++ "=\"" ++ l.2 ++ "\"") ++ "\x7d"

def Sample.line (family : String) (s : Sample) : String :=
  family ++ s.suffix ++ labelsText s.labels ++ " " ++ s.value

def Block.lines (b : Block) : List String :=
  ("# HELP " ++ b.name ++ " " ++ b.purpose ++ ".") ::
    ("# TYPE " ++ b.name ++ " " ++ b.shape.name) ::
    b.samples.map (·.line b.name)

def counterSamples (names : List String) (f : Family UInt64) : List Sample :=
  f.entries.map fun e => ⟨"_total", names.zip e.1, toString e.2⟩

def gaugeSamples (names : List String) (f : Family Int64) : List Sample :=
  f.entries.map fun e => ⟨"", names.zip e.1, toString e.2⟩

/-- The bounds of all buckets as the page shows them. -/
def boundTexts (bounds : List Float) : List String :=
  bounds.map Decimal.sampleText ++ ["+Inf"]

def Histogram.samples (labels : List (String × String)) (h : Histogram) : List Sample :=
  ⟨"_sum", labels, Decimal.sampleText h.sum⟩ ::
    ⟨"_count", labels, toString h.total⟩ ::
    ((boundTexts h.bounds).zip h.cumulative).map fun b =>
      ⟨"_bucket", ("le", b.1) :: labels, toString b.2⟩

def histogramSamples (names : List String) (f : Family Histogram) : List Sample :=
  f.entries.flatMap fun e => e.2.samples (names.zip e.1)

end Meter

namespace Meters

open Meter

/-- The families of the page. -/
def blocks (m : Meters) : List Block :=
  let instanceLabels := ["service_id", "service_name"]
  [ ⟨"mesh_health_probes", "Total probes executed", .counter,
      counterSamples ["service_name", "protocol", "kind"] m.probes⟩,
    ⟨"mesh_health_probe_latency_seconds", "Probe latency in seconds", .histogram,
      histogramSamples ["protocol"] m.probeLatency⟩,
    ⟨"mesh_health_probes_discarded",
      "Probe results dropped because the instance was deregistered mid-flight", .counter,
      [⟨"_total", [], toString m.probesDiscarded⟩]⟩,
    ⟨"mesh_health_instance_status",
      "Current health status (0=unknown, 1=healthy, 2=unhealthy)", .gauge,
      gaugeSamples instanceLabels m.instanceStatus⟩,
    ⟨"mesh_health_consecutive_successes", "Current consecutive success count", .gauge,
      gaugeSamples instanceLabels m.successes⟩,
    ⟨"mesh_health_consecutive_failures", "Current consecutive failure count", .gauge,
      gaugeSamples instanceLabels m.failures⟩,
    ⟨"mesh_health_status_transitions", "Total health status transitions", .counter,
      counterSamples ["service_name", "from", "to"] m.transitions⟩,
    ⟨"mesh_health_instances_active", "Number of active (registered) instances", .gauge,
      [⟨"", [], toString m.instancesActive⟩]⟩,
    ⟨"mesh_health_instances_by_status", "Tracked instances by health status", .gauge,
      gaugeSamples ["status"] m.instancesByStatus⟩,
    ⟨"mesh_health_probe_cycles", "Total probe cycles run", .counter,
      [⟨"_total", [], toString m.rounds⟩]⟩,
    ⟨"mesh_health_probe_cycle_duration_seconds", "Probe cycle duration", .histogram,
      m.roundDuration.samples []⟩,
    ⟨"mesh_health_api_not_found", "API lookups that found nothing", .counter,
      counterSamples ["resource"] m.notFound⟩ ]

def page (m : Meters) : String :=
  String.join ((m.blocks.flatMap Block.lines ++ ["# EOF"]).map (· ++ "\n"))

end Meters

end ServiceHealth
