import VolumeDrain.Pool.Status
import VolumeDrain.Text.Shortest

/-!
# Metrics

What the operator counts, and the text in which its counts are exposed. A counter's samples carry
the suffix `_total` behind the counter's name, a histogram's the suffixes `_sum`, `_count` and
`_bucket`, whose buckets count every observation up to their bound.
-/
namespace VolumeDrain

open Pool

/-- Something that is counted. -/
inductive Measurement where
  | reconcileDuration (controller : String) (seconds : Float)
  | reconcileError (controller kind : String)
  | drainAction (namespaceName pool action : String)
  | drainFailure (namespaceName pool : String)
  | volumes (namespaceName pool : String) (counts : StateCounts)

namespace Metrics

/-- The labels of a sample, in the order in which they are written. -/
abbrev LabelSet := List (String × String)

/-- Samples by their labels. -/
abbrev Samples (α : Type) := List (LabelSet × α)

/-- Changes the sample of some labels, which begins with a given value. -/
def update {α : Type} (labels : LabelSet) (start : α) (f : α → α) : Samples α → Samples α
  | [] => [(labels, f start)]
  | s :: rest => if s.1 = labels then (labels, f s.2) :: rest else s :: update labels start f rest

/-- The upper bounds of the buckets, in seconds: a millisecond, doubled fifteen times. -/
def bucketBounds : List Float := bounds 16 0.001
where
  /-- A bound and those after it, each twice the one before. -/
  bounds : Nat → Float → List Float
    | 0, _ => []
    | n + 1, x => x :: bounds n (x * 2.0)

/-- Observations: how many there are up to each bound, how many in all, and their sum. -/
structure Histogram where
  buckets : List Nat := bucketBounds.map fun _ => 0
  count : Nat := 0
  sum : Float := 0.0

/-- The histogram with one more observation. -/
def Histogram.observe (h : Histogram) (x : Float) : Histogram where
  buckets := List.zipWith (fun bound n => if x ≤ bound then n + 1 else n) bucketBounds h.buckets
  count := h.count + 1
  sum := h.sum + x

/-- All that has been counted. -/
structure Registry where
  durations : Samples Histogram := []
  reconcileErrors : Samples Nat := []
  drainActions : Samples Nat := []
  volumes : Samples Int := []
  drainFailures : Samples Nat := []

/-- The number of volumes in each state, by the state's name. -/
def countsByState (c : StateCounts) : List (String × Int) :=
  [("in-use", c.inUse.toInt), ("available", c.available.toInt), ("draining", c.draining.toInt),
   ("drained", c.drained.toInt), ("failed", c.failed.toInt)]

/-- The registry with one more measurement. -/
def Registry.record (r : Registry) : Measurement → Registry
  | .reconcileDuration controller seconds =>
    { r with
      durations := update [("controller", controller)] {} (·.observe seconds) r.durations }
  | .reconcileError controller kind =>
    { r with
      reconcileErrors :=
        update [("controller", controller), ("kind", kind)] 0 (· + 1) r.reconcileErrors }
  | .drainAction ns pool action =>
    { r with
      drainActions :=
        update [("namespace", ns), ("pool", pool), ("action", action)] 0 (· + 1)
          r.drainActions }
  | .drainFailure ns pool =>
    { r with
      drainFailures := update [("namespace", ns), ("pool", pool)] 0 (· + 1) r.drainFailures }
  | .volumes ns pool counts =>
    { r with
      volumes :=
        (countsByState counts).foldl
          (fun samples state =>
            update [("namespace", ns), ("pool", pool), ("state", state.1)] 0
              (fun _ => state.2) samples)
          r.volumes }

/-- One line of a sample. -/
def sampleLine (name : String) (labels : LabelSet) (value : String) : String :=
  let pairs := labels.map fun l => l.1 ++ "=\"" ++ l.2 ++ "\""
  name ++ "\x7b" ++ ",".intercalate pairs ++ "\x7d " ++ value

/-- The lines of samples that are plain numbers. -/
def plainLines {α : Type} (name : String) (text : α → String) (samples : Samples α) :
    List String :=
  samples.map fun s => sampleLine name s.1 (text s.2)

/-- The lines of a histogram's samples. -/
def histogramLines (name : String) (samples : Samples Histogram) : List String :=
  samples.flatMap fun s =>
    let bucket (bound : String) (n : Nat) :=
      sampleLine (name ++ "_bucket") (("le", bound) :: s.1) (toString n)
    [sampleLine (name ++ "_sum") s.1 (Text.floatText s.2.sum),
     sampleLine (name ++ "_count") s.1 (toString s.2.count)] ++
    List.zipWith (fun bound n => bucket (Text.floatText bound) n) bucketBounds s.2.buckets ++
    [bucket "+Inf" s.2.count]

/-- The comments in front of a metric's samples. -/
def comments (name help type : String) : List String :=
  ["# HELP " ++ name ++ " " ++ help ++ ".", "# TYPE " ++ name ++ " " ++ type]

/-- The lines in which the registry is exposed. -/
def Registry.lines (r : Registry) : List String :=
  comments "buffer_reconcile_duration_seconds" "Duration of reconcile loops in seconds"
    "histogram" ++
  histogramLines "buffer_reconcile_duration_seconds" r.durations ++
  comments "buffer_reconcile_errors_total" "Total number of reconcile errors" "counter" ++
  plainLines "buffer_reconcile_errors_total_total" toString r.reconcileErrors ++
  comments "buffer_drain_actions_total" "Drain actions taken on buffer volumes" "counter" ++
  plainLines "buffer_drain_actions_total_total" toString r.drainActions ++
  comments "buffer_volumes" "Buffer volumes per lifecycle state as of the last drain pass"
    "gauge" ++
  plainLines "buffer_volumes" toString r.volumes ++
  comments "buffer_drain_failures_total" "Failed drain jobs observed" "counter" ++
  plainLines "buffer_drain_failures_total_total" toString r.drainFailures ++
  ["# EOF"]

/-- The text in which the registry is exposed. -/
def Registry.text (r : Registry) : String := String.join (r.lines.map fun l => l ++ "\n")

end Metrics

end VolumeDrain
