import RedisKeeper.Decimal.Scaled
import RedisKeeper.Metrics.Basic

/-
The metrics as a page of text, one line for each sample.

A family without samples has no lines.  Label values are written as they are.
-/
namespace RedisKeeper
namespace Metrics

/-- Numbers are written without an exponent from a millionth up to twenty-one
places. -/
def numberLayout : Decimal.Layout := ⟨-6, 21⟩

def numberText (f : Float) : String := Decimal.floatText f numberLayout

/-- Labels as they stand behind a sample's name. -/
abbrev LabelTexts := List (String × String)

def ObjectId.texts (l : ObjectId) : LabelTexts :=
  [("kind", l.kind), ("namespace", l.ns), ("name", l.name)]

def ClusterId.texts (l : ClusterId) : LabelTexts :=
  [("namespace", l.ns), ("name", l.name)]

def RoleId.texts (l : RoleId) : LabelTexts :=
  [("namespace", l.ns), ("name", l.name), ("role", l.role)]

def StepId.texts (l : StepId) : LabelTexts :=
  [("namespace", l.ns), ("name", l.name), ("action", l.step)]

def sampleLine (name : String) (labels : LabelTexts) (value : String) : String :=
  let inner := ",".intercalate (labels.map fun label => label.1 ++ "=\"" ++ label.2 ++ "\"")
  name ++ "\x7b" ++ inner ++ "\x7d " ++ value

inductive FamilyKind where
  | counter
  | gauge
  | histogram

def FamilyKind.name : FamilyKind → String
  | counter => "counter"
  | gauge => "gauge"
  | histogram => "histogram"

/-- The lines of a family, with its help and its kind in front. -/
def familyLines (name help : String) (kind : FamilyKind) (samples : List String) :
    List String :=
  if samples.isEmpty then []
  else s!"# HELP {name} {help}." :: s!"# TYPE {name} {kind.name}" :: samples

def counterLines {L : Type} (name help : String) (texts : L → LabelTexts) (f : Family L Nat) :
    List String :=
  familyLines name help .counter <|
    f.entries.map fun entry => sampleLine (name ++ "_total") (texts entry.1) (toString entry.2)

def gaugeLines {L : Type} (name help : String) (texts : L → LabelTexts) (f : Family L Int) :
    List String :=
  familyLines name help .gauge <|
    f.entries.map fun entry => sampleLine name (texts entry.1) (toString entry.2)

/-- The running totals of a list of counts. -/
def runningTotals (start : Nat) : List Nat → List Nat
  | [] => []
  | n :: rest => (start + n) :: runningTotals (start + n) rest

/-- The lines of a histogram.  A bucket counts all values up to its bound. -/
def histogramSamples (name : String) (labels : LabelTexts) (h : Histogram) : List String :=
  let bounds := Histogram.bounds.map numberText ++ ["+Inf"]
  sampleLine (name ++ "_sum") labels (numberText h.sum) ::
  sampleLine (name ++ "_count") labels (toString h.count) ::
  (bounds.zip (runningTotals 0 h.counts)).map fun (bound, total) =>
    sampleLine (name ++ "_bucket") (("le", bound) :: labels) (toString total)

def histogramLines {L : Type} (name help : String) (texts : L → LabelTexts)
    (f : Family L Histogram) : List String :=
  familyLines name help .histogram <|
    f.entries.flatMap fun entry => histogramSamples name (texts entry.1) entry.2

def lines (m : Metrics) : List String :=
  counterLines "redis_operator_reconciliations" "Total number of reconciliations"
    ObjectId.texts m.reconciliations ++
  counterLines "redis_operator_reconciliation_errors" "Total number of reconciliation errors"
    ObjectId.texts m.errors ++
  histogramLines "redis_operator_reconcile_duration_seconds"
    "Duration of reconciliation in seconds" ObjectId.texts m.durations ++
  counterLines "redis_operator_topology_actions"
    "Topology actions dispatched against a cluster" StepId.texts m.steps ++
  gaugeLines "redis_operator_cluster_nodes"
    "Nodes listed in the last observed cluster topology" ClusterId.texts m.nodes ++
  gaugeLines "redis_operator_cluster_failed_nodes"
    "Nodes flagged failed or disconnected in the last observed cluster topology"
    ClusterId.texts m.failedNodes ++
  gaugeLines "redis_operator_replicas_desired" "Desired replicas per role group"
    RoleId.texts m.desired ++
  gaugeLines "redis_operator_replicas_ready" "Ready replicas per role group"
    RoleId.texts m.ready ++
  ["# EOF"]

def page (m : Metrics) : String := String.join (m.lines.map (· ++ "\n"))

end Metrics
end RedisKeeper
