import RedisKeeper.Resource.Cluster
import RedisKeeper.Topology.Snapshot

/-
What to do about a cluster, given its table.

Leaders are formed before followers are attached, and nodes are only reset when
the table already has as many rows as it should.
-/
namespace RedisKeeper

inductive Step where
  | none
  | bootstrap
  | attachFollowers
  | failover
deriving DecidableEq, Inhabited

/-- How a pass ended, which settles when to look again and what to report. -/
inductive Outcome where
  | converged
  | waitingForReadiness
  | bootstrapping
  | replicating
  | failingOver
deriving DecidableEq, Inhabited

/-- When to look at an object again. -/
inductive Requeue where
  /-- Only when it changes. -/
  | none
  | immediate
  | after (seconds : Nat)
deriving DecidableEq, Inhabited

namespace Requeue

/-- The delay in seconds, if there is one. -/
def delay? : Requeue → Option Nat
  | .none => Option.none
  | .immediate => some 0
  | .after seconds => some seconds

end Requeue

namespace Outcome

def all : List Outcome :=
  [converged, waitingForReadiness, bootstrapping, replicating, failingOver]

def phase : Outcome → Phase
  | converged => .converged
  | waitingForReadiness => .waitingForReadiness
  | bootstrapping => .bootstrapping
  | replicating => .replicating
  | failingOver => .failingOver

def name (o : Outcome) : String := o.phase.name

def ofName? (s : String) : Option Outcome := all.find? fun o => o.name = s

/-- Pods that are not ready are waited for a little longer than the next look at
a table. -/
def requeue : Outcome → Requeue
  | waitingForReadiness => .after 30
  | _ => .after 20

end Outcome

namespace Step

def all : List Step := [none, bootstrap, attachFollowers, failover]

def name : Step → String
  | none => "none"
  | bootstrap => "bootstrap"
  | attachFollowers => "attach_followers"
  | failover => "failover"

def outcome : Step → Outcome
  | none => .converged
  | bootstrap => .bootstrapping
  | attachFollowers => .replicating
  | failover => .failingOver

end Step

/-- The step for a table and the wanted numbers of leaders and followers. -/
def decideStep (leaders followers : Nat) (table : Snapshot) : Step :=
  if leaders = 0 then .none
  else if table.size ≠ leaders + followers then
    if table.countRole .leader ≠ leaders then .bootstrap
    else if 0 < followers then .attachFollowers
    else .none
  else if 0 < table.countFailing then .failover
  else .none

section

variable {leaders followers : Nat} {table : Snapshot}

theorem decideStep_eq_bootstrap_iff :
    decideStep leaders followers table = .bootstrap ↔
      0 < leaders ∧ table.size ≠ leaders + followers ∧ table.countRole .leader ≠ leaders := by
  unfold decideStep
  grind

theorem decideStep_eq_attachFollowers_iff :
    decideStep leaders followers table = .attachFollowers ↔
      0 < leaders ∧ table.size ≠ leaders + followers ∧ table.countRole .leader = leaders ∧
        0 < followers := by
  unfold decideStep
  grind

theorem decideStep_eq_failover_iff :
    decideStep leaders followers table = .failover ↔
      0 < leaders ∧ table.size = leaders + followers ∧ 0 < table.countFailing := by
  unfold decideStep
  grind

end

end RedisKeeper
