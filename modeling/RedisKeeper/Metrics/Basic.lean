import RedisKeeper.Keyed

/-
The numbers that the operator keeps about its work.

Each family holds one value for each set of labels that occurred.  Recording an
observation changes the values under its own labels and no others
(`Family.get?_update_ne`).
-/
namespace RedisKeeper
namespace Metrics

/-- Values under sets of labels, in the order in which the sets first
occurred. -/
structure Family (L V : Type) where
  entries : List (L × V)
deriving Inhabited

namespace Family

variable {L V : Type} [DecidableEq L]

def empty : Family L V := ⟨[]⟩

def get? (f : Family L V) (labels : L) : Option V := f.entries.lookup labels

/-- Changes the value under some labels, starting from `start` if there is
none. -/
def change (start : V) (change : V → V) (labels : L) : List (L × V) → List (L × V)
  | [] => [(labels, change start)]
  | (l, v) :: rest =>
    if l = labels then (l, change v) :: rest
    else (l, v) :: Family.change start change labels rest

def update (f : Family L V) (labels : L) (start : V) (change : V → V) : Family L V :=
  ⟨Family.change start change labels f.entries⟩

def set (f : Family L V) (labels : L) (value : V) : Family L V :=
  f.update labels value fun _ => value

@[simp] theorem get?_empty (labels : L) : (empty : Family L V).get? labels = none := rfl

theorem get?_update_self (f : Family L V) (labels : L) (start : V) (g : V → V) :
    (f.update labels start g).get? labels = some (g ((f.get? labels).getD start)) := by
  obtain ⟨entries⟩ := f
  simp only [update, get?]
  induction entries with
  | nil => simp [change]
  | cons entry rest ih =>
    obtain ⟨l, v⟩ := entry
    by_cases h : l = labels
    · simp [change, Keyed.lookup_cons, h]
    · simp [change, Keyed.lookup_cons, h, ih]

theorem get?_update_ne (f : Family L V) {labels other : L} (h : other ≠ labels) (start : V)
    (g : V → V) : (f.update labels start g).get? other = f.get? other := by
  obtain ⟨entries⟩ := f
  simp only [update, get?]
  induction entries with
  | nil => simp [change, Keyed.lookup_cons, Ne.symm h]
  | cons entry rest ih =>
    obtain ⟨l, v⟩ := entry
    by_cases hl : l = labels
    · subst hl
      simp [change, Keyed.lookup_cons, Ne.symm h]
    · simp [change, Keyed.lookup_cons, hl, ih]

end Family

/-- Durations sorted into buckets.  `counts` has one number for each bound and a
last one for what lies above all of them. -/
structure Histogram where
  sum : Float
  count : Nat
  counts : List Nat

namespace Histogram

/-- The upper bounds in seconds: a thousandth, doubled fourteen times. -/
def bounds : List Float := (List.range 15).map fun i => 0.001 * (Nat.pow 2 i).toFloat

def empty : Histogram := ⟨0, 0, List.replicate 16 0⟩

instance : Inhabited Histogram := ⟨empty⟩

/-- Adds one in the first bucket whose bound is not below the value, or in the
last one. -/
def place (value : Float) : List Float → List Nat → List Nat
  | bound :: bounds, n :: counts =>
    if value ≤ bound then (n + 1) :: counts else n :: place value bounds counts
  | [], n :: counts => (n + 1) :: counts
  | _, [] => []

def observe (h : Histogram) (value : Float) : Histogram :=
  ⟨h.sum + value, h.count + 1, place value bounds h.counts⟩

end Histogram

/-- What identifies an object that was reconciled. -/
structure ObjectId where
  kind : String
  ns : String
  name : String
deriving DecidableEq, Inhabited

structure ClusterId where
  ns : String
  name : String
deriving DecidableEq, Inhabited

structure RoleId where
  ns : String
  name : String
  role : String
deriving DecidableEq, Inhabited

structure StepId where
  ns : String
  name : String
  step : String
deriving DecidableEq, Inhabited

end Metrics

structure Metrics where
  reconciliations : Metrics.Family Metrics.ObjectId Nat
  errors : Metrics.Family Metrics.ObjectId Nat
  durations : Metrics.Family Metrics.ObjectId Metrics.Histogram
  steps : Metrics.Family Metrics.StepId Nat
  nodes : Metrics.Family Metrics.ClusterId Int
  failedNodes : Metrics.Family Metrics.ClusterId Int
  desired : Metrics.Family Metrics.RoleId Int
  ready : Metrics.Family Metrics.RoleId Int
deriving Inhabited

namespace Metrics

def empty : Metrics := ⟨.empty, .empty, .empty, .empty, .empty, .empty, .empty, .empty⟩

/-- Something that happened and is to be counted or shown. -/
inductive Observation where
  | reconciled (labels : ObjectId) (seconds : Float)
  | failed (labels : ObjectId)
  | stepTaken (labels : StepId)
  | nodesSeen (labels : ClusterId) (nodes failed : Int)
  | replicasSeen (labels : RoleId) (desired ready : Int)

def record (m : Metrics) : Observation → Metrics
  | .reconciled labels seconds =>
    { m with
      reconciliations := m.reconciliations.update labels 0 (· + 1)
      durations := m.durations.update labels .empty (·.observe seconds) }
  | .failed labels => { m with errors := m.errors.update labels 0 (· + 1) }
  | .stepTaken labels => { m with steps := m.steps.update labels 0 (· + 1) }
  | .nodesSeen labels nodes failed =>
    { m with
      nodes := m.nodes.set labels nodes
      failedNodes := m.failedNodes.set labels failed }
  | .replicasSeen labels desired ready =>
    { m with
      desired := m.desired.set labels desired
      ready := m.ready.set labels ready }

def recordAll (m : Metrics) (observations : List Observation) : Metrics :=
  observations.foldl record m

end Metrics
end RedisKeeper
