import RedisKeeper.Proofs.Node.Passage
import RedisKeeper.Proofs.Reconcile.Gating
import RedisKeeper.Reconcile.Settle

/-
How many steps were dispatched against a cluster, and how many of them are counted.

A pass dispatches a step before the status is written, and the step is counted after that.  A
look whose status cannot be written ends in between, so the counter tells of those steps only
that a written status tells of (`counted_settle`), and over a run of looks it falls behind by
the others (`steps_counted`).
-/
namespace RedisKeeper

/-! ## Counters of steps -/

namespace Metrics

/-- The counter of a step, zero if none was counted yet. -/
def counted (m : Metrics) (id : StepId) : Nat := (m.steps.get? id).getD 0

/-- Whether an observation is that of a step. -/
def Observation.tells (id : StepId) : Observation → Bool
  | .stepTaken labels => id = labels
  | _ => false

variable {id : StepId}

theorem counted_record (m : Metrics) (o : Observation) :
    (m.record o).counted id = m.counted id + if o.tells id then 1 else 0 := by
  cases o with
  | stepTaken labels =>
    by_cases h : id = labels
    · simp [record, counted, Observation.tells, h, Family.get?_update_self]
    · simp [record, counted, Observation.tells, h, Family.get?_update_ne _ h]
  | _ => rfl

theorem counted_recordAll (m : Metrics) (observations : List Observation) :
    (m.recordAll observations).counted id =
      m.counted id + observations.countP (Observation.tells id) := by
  induction observations generalizing m with
  | nil => rfl
  | cons o rest ih =>
    rw [recordAll, List.foldl_cons, ← recordAll, ih, counted_record, List.countP_cons]
    omega

end Metrics

theorem Step.name_inj {first second : Step} : first.name = second.name ↔ first = second := by
  cases first <;> cases second <;> decide

namespace Reconcile

variable {setting : Setting} {c : RedisCluster} {ns : String} {log : Api.Log} {tick : Tick}

/-- Only the step of a pass is observed as one. -/
theorem countP_passObservations (c : RedisCluster) (ns : String) (ready : ReadyCounts)
    (report : Report) (seconds : Float) (id : Metrics.StepId) :
    (passObservations c ns ready report seconds).countP (Metrics.Observation.tells id) =
      if report.step ≠ .none ∧ id = ⟨ns, c.name, report.step.name⟩ then 1 else 0 := by
  obtain ⟨outcome, step, nodes, failed, succeeded, message⟩ := report
  by_cases hstep : step = .none
  · rw [if_neg fun h => h.1 hstep, passObservations, if_pos hstep]
    cases nodes <;> cases failed <;> rfl
  · rw [passObservations, if_neg hstep]
    have hcount : List.countP (Metrics.Observation.tells id)
        [.stepTaken ⟨ns, c.name, step.name⟩, .reconciled ⟨RedisCluster.kind, ns, c.name⟩ seconds] =
          if step ≠ .none ∧ id = ⟨ns, c.name, step.name⟩ then 1 else 0 := by
      simp [List.countP_cons, Metrics.Observation.tells, hstep]
    cases nodes <;> cases failed <;> exact hcount

/-! ## The pass of a look -/

/-- Whether a part of a log is that of a pass over the nodes of a cluster. -/
def Carries (setting : Setting) (c : RedisCluster) (log : Api.Log) (p : Node.Passage) : Prop :=
  p.tools = setting.tools ∧ p.target = .ofCluster c ∧ ∃ before part after,
    log = before ++ part ++ after ∧
      Program.Parted (fun e => ((Api.answer e.query).Yields · e.answer)) p.log part

theorem Carries.behind {p : Node.Passage} (h : Carries setting c log p) (first : Api.Log) :
    Carries setting c (first ++ log) p := by
  obtain ⟨htools, htarget, before, part, after, rfl, hpart⟩ := h
  exact ⟨htools, htarget, first ++ before, part, after, by simp only [List.append_assoc], hpart⟩

/-- Whether the status was written in a look. -/
def Reported (log : Api.Log) : Prop := ∃ e ∈ log, e.query.concern = .status ∧ Api.worked e = true

instance (log : Api.Log) : Decidable (Reported log) := inferInstanceAs (Decidable (∃ _ ∈ _, _))

/-- What is reported and observed of the pass of a look. -/
inductive Tallied (setting : Setting) (c : RedisCluster) : Api.Log → Tick → Prop
  | unpassed {log : Api.Log} {tick : Tick} : tick.report = none → tick.observations = none →
    Tallied setting c log tick
  | unreported {log : Api.Log} {tick : Tick} {p : Node.Passage} (e : Error) :
    Carries setting c log p → tick.report = some p.report → ¬ Reported log →
    tick.result = .error e → Tallied setting c log tick
  | reported {ns : String} {log : Api.Log} {tick : Tick} {p : Node.Passage} (requeue : Requeue) :
    c.metadata.ns = some ns → Carries setting c log p → tick.report = some p.report →
    Reported log → tick.result = .ok requeue →
    tick.observations = some (passObservations c ns p.ready p.report) →
      Tallied setting c log tick

theorem reported_iff_of_yields {status : ClusterStatus} {result : Except Error Unit}
    (h : (writeClusterStatus c ns status).run.Yields log result) :
    Reported log ↔ result.isOk = true := by
  have hfollowed := follows_writeClusterStatus status log result h
  generalize result.isOk = complete at hfollowed
  cases hfollowed with
  | unsent => simp [Reported]
  | failed _ hworked => simp [Reported, hworked]
  | went _ hworked hrest =>
    cases hrest
    simp only [Reported, List.mem_singleton, exists_eq_left, hworked, and_true, iff_true]
    rfl

theorem reported_append_iff {first second : Api.Log}
    (hfirst : ∀ e ∈ first, e.query.concern ≠ .status) :
    Reported (first ++ second) ↔ Reported second := by
  constructor
  · rintro ⟨e, he, hstatus, hworked⟩
    rcases List.mem_append.mp he with he | he
    · exact absurd hstatus (hfirst e he)
    · exact ⟨e, he, hstatus, hworked⟩
  · rintro ⟨e, he, hstatus, hworked⟩
    exact ⟨e, List.mem_append_right _ he, hstatus, hworked⟩

/-- The pass that is made by way of the API. -/
theorem exists_passage_of_perform {tools : Node.Tools} {t : Target} {ready : ReadyCounts}
    {report : Report} (h : (Api.perform (Node.pass tools t ready)).Yields log report) :
    ∃ p : Node.Passage, p.tools = tools ∧ p.target = t ∧ p.ready = ready ∧ p.report = report ∧
      Program.Parted (fun e => ((Api.answer e.query).Yields · e.answer)) p.log log := by
  obtain ⟨taken, hran, hparted⟩ := Program.yields_via.mp h
  exact ⟨⟨tools, t, ready, taken, report, hran⟩, rfl, rfl, rfl, rfl, hparted⟩

/-- What is asked before about other things than the status changes nothing. -/
theorem Tallied.behind {first : Api.Log} (h : Tallied setting c log tick)
    (hfirst : ∀ e ∈ first, e.query.concern ≠ .status) : Tallied setting c (first ++ log) tick := by
  have hreported : Reported (first ++ log) ↔ Reported log := reported_append_iff hfirst
  cases h with
  | unpassed hreport hobservations => exact .unpassed hreport hobservations
  | unreported e hcarries hreport hunwritten hresult =>
    exact .unreported e (hcarries.behind first) hreport (hreported.not.mpr hunwritten) hresult
  | reported requeue hns hcarries hreport hwritten hresult hobservations =>
    exact .reported requeue hns (hcarries.behind first) hreport (hreported.mpr hwritten) hresult
      hobservations

theorem tallied_of_passOver (hns : c.metadata.ns = some ns)
    (h : (passOver setting c ns).Yields log tick) : Tallied setting c log tick := by
  rw [passOver, Program.yields_bind] at h
  obtain ⟨read, rest, counts, rfl, hread, h⟩ := h
  have hreads := follows_readReadyCounts read counts hread
  cases counts with
  | error e =>
    obtain ⟨-, rfl⟩ := h
    exact .unpassed rfl rfl
  | ok ready =>
    obtain ⟨acted, rest, report, rfl, hacted, h⟩ := Program.yields_bind.mp h
    obtain ⟨noted, rest, u, rfl, hnoted, h⟩ := Program.yields_bind.mp h
    obtain ⟨written, rest, result, rfl, hwritten, h⟩ := Program.yields_bind.mp h
    obtain ⟨p, htools, htarget, hready, hreport, hparted⟩ := exists_passage_of_perform hacted
    have hcarries : Carries setting c (read ++ (acted ++ (noted ++ (written ++ [])))) p :=
      ⟨htools, htarget, read, acted, noted ++ (written ++ []),
        (List.append_assoc _ _ _).symm, hparted⟩
    -- Only the last request is about the status.
    have hreported : Reported (read ++ (acted ++ (noted ++ (written ++ [])))) ↔
        result.isOk = true := by
      rw [reported_append_iff fun e he => ?read, reported_append_iff fun e he => ?acted,
        reported_append_iff fun e he => ?noted, List.append_nil, reported_iff_of_yields hwritten]
      case read => rw [(object_of_read hreads e he).1]; decide
      case acted => rw [(node_of_pass hacted).1 e he]; decide
      case noted => rw [event_of_publishStep hnoted e he]; decide
    subst hready hreport
    cases result with
    | error e =>
      obtain ⟨rfl, rfl⟩ := h
      exact .unreported e hcarries rfl (fun hwrote => Bool.false_ne_true (hreported.mp hwrote)) rfl
    | ok u =>
      obtain ⟨rfl, rfl⟩ := h
      exact .reported _ hns hcarries rfl (hreported.mpr rfl) rfl rfl

theorem tallied_of_yields (h : (cluster setting c).Yields log tick) :
    Tallied setting c log tick := by
  rw [cluster] at h
  split at h
  · obtain ⟨-, rfl⟩ := h
    exact .unpassed rfl rfl
  rename_i ns hns
  split at h
  · obtain ⟨-, rfl⟩ := h
    exact .unpassed rfl rfl
  split at h
  · obtain ⟨noted, rest, u, -, -, -, rfl⟩ := Program.yields_bind.mp h
    exact .unpassed rfl rfl
  obtain ⟨made, rest, created, rfl, hmade, h⟩ := Program.yields_bind.mp h
  have hfollowed := follows_provideGroups hns made created hmade
  cases created with
  | error e =>
    obtain ⟨-, rfl⟩ := h
    exact .unpassed rfl rfl
  | ok new =>
    cases new with
    | true =>
      obtain ⟨noted, rest, u, -, -, h⟩ := Program.yields_bind.mp h
      obtain ⟨written, rest, result, -, -, h⟩ := Program.yields_bind.mp h
      cases result with
      | error e =>
        obtain ⟨-, rfl⟩ := h
        exact .unpassed rfl rfl
      | ok u =>
        obtain ⟨-, rfl⟩ := h
        exact .unpassed rfl rfl
    | false =>
      refine (tallied_of_passOver hns h).behind fun e he => ?_
      rw [object_of_made hfollowed e he]
      decide

/-! ## Looks one after the other -/

/-- A look at a cluster, with all that was asked and answered and the seconds that it took. -/
structure ClusterLook where
  setting : Setting
  cluster : RedisCluster
  log : Api.Log
  tick : Tick
  seconds : Float
  yields : (Reconcile.cluster setting cluster).Yields log tick

namespace ClusterLook

def answeredBy {σ : Type} (respond : Responder Api.interface σ) (s : σ) (setting : Setting)
    (cluster : RedisCluster) (seconds : Float) : ClusterLook where
  setting
  cluster
  log := ((Reconcile.cluster setting cluster).runLogged respond s).2.1
  tick := ((Reconcile.cluster setting cluster).runLogged respond s).1
  seconds
  yields := Program.yields_runLogged respond (Reconcile.cluster setting cluster) s

/-- Whether a look is one at the cluster with a name in a namespace. -/
def Regards (look : ClusterLook) (ns name : String) : Prop :=
  look.cluster.metadata.ns = some ns ∧ look.cluster.name = name

/-- Whether a pass over the nodes was made in a look and dispatched a step. -/
def Dispatched (look : ClusterLook) (step : Step) : Prop :=
  ∃ p, Carries look.setting look.cluster look.log p ∧ look.tick.report = some p.report ∧
    p.dispatched? = some step

def Reported (look : ClusterLook) : Prop := Reconcile.Reported look.log

/-- What the operator's health has to say after a look. -/
def settle (look : ClusterLook) (h : Health) : Health :=
  look.tick.settle look.cluster.owner look.setting.now look.seconds h

variable {look : ClusterLook} {ns name : String} {step : Step}

theorem dispatched_iff :
    look.Dispatched step ↔ step ≠ .none ∧ look.tick.report.map (·.step) = some step := by
  constructor
  · rintro ⟨p, -, hreport, hstep⟩
    obtain ⟨hne, hstep⟩ := Node.Passage.dispatched?_eq_some_iff.mp hstep
    exact ⟨hne, by rw [hreport, Option.map_some, hstep]⟩
  · rintro ⟨hne, hstep⟩
    obtain ⟨report, hreport, hstep⟩ := Option.map_eq_some_iff.mp hstep
    have hpassage : ∀ {p : Node.Passage}, Carries look.setting look.cluster look.log p →
        look.tick.report = some p.report → look.Dispatched step := by
      intro p hcarries hp
      refine ⟨p, hcarries, hp, Node.Passage.dispatched?_eq_some_iff.mpr ⟨hne, ?_⟩⟩
      rw [Option.some.inj (hp.symm.trans hreport), hstep]
    cases tallied_of_yields look.yields with
    | unpassed hnone => exact absurd (hnone.symm.trans hreport) nofun
    | unreported e hcarries hp => exact hpassage hcarries hp
    | reported requeue hns hcarries hp => exact hpassage hcarries hp

instance : Decidable (look.Regards ns name) := inferInstanceAs (Decidable (_ ∧ _))

instance : Decidable (look.Dispatched step) := decidable_of_iff _ dispatched_iff.symm

instance : Decidable look.Reported := inferInstanceAs (Decidable (Reconcile.Reported _))

def recorded (look : ClusterLook) : List Metrics.Observation :=
  match look.tick.result with
  | .error _ => [failureOf look.cluster.owner]
  | .ok _ => (look.tick.observations.map fun observations => observations look.seconds).getD []

theorem metrics_settle (look : ClusterLook) (h : Health) :
    (look.settle h).metrics = h.metrics.recordAll look.recorded := by
  rw [settle, Tick.settle, recorded]
  cases look.tick.result with
  | error e => rfl
  | ok requeue => cases look.tick.observations <;> rfl

/-- A step is recorded once, if it was dispatched and the status was written. -/
theorem countP_recorded (look : ClusterLook) :
    look.recorded.countP (Metrics.Observation.tells ⟨ns, name, step.name⟩) =
      if look.Regards ns name ∧ look.Dispatched step ∧ look.Reported then 1 else 0 := by
  rw [recorded]
  cases tallied_of_yields look.yields with
  | unpassed hreport hobservations =>
    have hstep : ¬ look.Dispatched step := by
      rw [dispatched_iff, hreport]
      exact fun h => Option.some_ne_none step h.2.symm
    rw [if_neg fun h => hstep h.2.1, hobservations]
    cases look.tick.result <;> rfl
  | unreported e _ _ hunwritten hresult =>
    rw [if_neg fun h => hunwritten h.2.2, hresult]
    rfl
  | @reported placed _ _ p requeue hns _ hreport hwritten hresult hobservations =>
    rw [hresult, hobservations, Option.map_some, Option.getD_some, countP_passObservations]
    refine if_congr ?_ rfl rfl
    have hreported : look.Reported := hwritten
    rw [dispatched_iff, hreport, Option.map_some, Option.some.injEq, Regards, hns,
      Option.some.injEq, Metrics.StepId.mk.injEq, Step.name_inj]
    constructor
    · rintro ⟨hne, rfl, rfl, rfl⟩
      exact ⟨⟨rfl, rfl⟩, ⟨hne, rfl⟩, hreported⟩
    · rintro ⟨⟨rfl, rfl⟩, ⟨hne, rfl⟩, -⟩
      exact ⟨hne, rfl, rfl, rfl⟩

theorem counted_settle (look : ClusterLook) (h : Health) :
    (look.settle h).metrics.counted ⟨ns, name, step.name⟩ =
      h.metrics.counted ⟨ns, name, step.name⟩ +
        if look.Regards ns name ∧ look.Dispatched step ∧ look.Reported then 1 else 0 := by
  rw [metrics_settle, Metrics.counted_recordAll, countP_recorded]

end ClusterLook

def settleAll (h : Health) (looks : List ClusterLook) : Health :=
  looks.foldl (fun h look => look.settle h) h

variable {name : String} {step : Step}

theorem counted_settleAll (looks : List ClusterLook) (h : Health) :
    (settleAll h looks).metrics.counted ⟨ns, name, step.name⟩ =
      h.metrics.counted ⟨ns, name, step.name⟩ +
        looks.countP fun look =>
          look.Regards ns name ∧ look.Dispatched step ∧ look.Reported := by
  induction looks generalizing h with
  | nil => rfl
  | cons look rest ih =>
    rw [settleAll, List.foldl_cons, ← settleAll, ih, ClusterLook.counted_settle, List.countP_cons]
    simp only [decide_eq_true_eq]
    omega

/-- The counter of a step tells in how many looks at a cluster the step was dispatched and the
status written.  It falls behind by the looks that dispatched the step and could not write the
status, and tells of all dispatched steps just when there were no such looks. -/
theorem steps_counted (looks : List ClusterLook) (ns name : String) (step : Step) :
    let counted := (settleAll {} looks).metrics.counted ⟨ns, name, step.name⟩
    let dispatched := looks.countP fun look => look.Regards ns name ∧ look.Dispatched step
    counted + (looks.countP fun look =>
      look.Regards ns name ∧ look.Dispatched step ∧ ¬ look.Reported) = dispatched ∧
    (counted = dispatched ↔
      ∀ look ∈ looks, look.Regards ns name → look.Dispatched step → look.Reported) := by
  intro counted dispatched
  have hcounted : counted = looks.countP fun look =>
      look.Regards ns name ∧ look.Dispatched step ∧ look.Reported :=
    (counted_settleAll looks {}).trans (Nat.zero_add _)
  have hsplit : counted + (looks.countP fun look =>
      look.Regards ns name ∧ look.Dispatched step ∧ ¬ look.Reported) = dispatched := by
    have hparts := List.countP_eq_countP_filter_add looks
      (fun look => look.Regards ns name ∧ look.Dispatched step) (fun look => look.Reported)
    rw [List.countP_filter, List.countP_filter] at hparts
    simpa [counted, hcounted, dispatched, Bool.and_assoc] using hparts.symm
  refine ⟨hsplit, ?_⟩
  have hnone : counted = dispatched ↔ (looks.countP fun look =>
      look.Regards ns name ∧ look.Dispatched step ∧ ¬ look.Reported) = 0 := by omega
  rw [hnone, List.countP_eq_zero]
  simp

/-! ### A status that is refused -/

def loneLeader : RedisCluster where
  metadata := { name := some "cache", ns := some "prod" }
  spec :=
    { leader := { replicas := some 1 }
      follower := { replicas := some 0 }
      container := { image := "redis:7.2" } }

/-- An API that has the leader ready and refuses every status.  The leader tells no table, and
commands in it work. -/
def refusing : Responder Api.interface Unit
  | .request r, u =>
    if r.subresource = some "status" then
      let refusal := Json.obj [("code", .int 500), ("message", .str "request timed out"),
        ("reason", .str ""), ("status", .str "Failure")]
      (.answered 500 (.text refusal.write), u)
    else
      let text :=
        if r.resource = .statefulSet ∧ r.name = "cache-leader" then
          Json.obj [("status", .obj [("readyReplicas", .int 1), ("replicas", .int 1)])]
        else if r.resource = .pod then
          .obj [("spec", .obj [("containers", .arr [.obj [("name", .str "cache-leader")]])]),
            ("status", .obj [("podIP", .str "10.0.0.1")])]
        else .obj []
      (.answered 200 (.text text.write), u)
  | .command _ _ _, u => (.ran [] [] none, u)
  | .store call, u =>
    match call with
    | .nodes _ => (.error (.failed ""), u)
    | .connect _ _ | .reset _ | .flush _ | .close _ => (.ok (), u)

def refused : ClusterLook :=
  .answeredBy refusing ()
    ⟨"keeper", ⟨"redis-cli", 6379⟩, ⟨"2024-01-01T00:00:00Z", 0, "2024-01-01T00:00:00Z"⟩⟩
    loneLeader 0

/-- The look forms the cluster, and the counter stays at zero. -/
theorem steps_uncounted_refused :
    ([refused].countP fun look => look.Regards "prod" "cache" ∧ look.Dispatched .bootstrap) = 1 ∧
      (settleAll {} [refused]).metrics.counted ⟨"prod", "cache", "bootstrap"⟩ = 0 := by
  have hran : refused.tick.report.map (·.step) = some .bootstrap ∧ ¬ refused.Reported := by
    decide +kernel
  have hregards : refused.Regards "prod" "cache" := ⟨rfl, rfl⟩
  have hdispatched : refused.Dispatched .bootstrap :=
    ClusterLook.dispatched_iff.mpr ⟨by decide, hran.1⟩
  have hcounted : (settleAll {} [refused]).metrics.counted
      ⟨"prod", "cache", Step.name .bootstrap⟩ = 0 := by
    rw [counted_settleAll, List.countP_singleton, if_neg (by simp [hran.2])]
    rfl
  refine ⟨?_, hcounted⟩
  rw [List.countP_singleton, if_pos (by simp [hregards, hdispatched])]

end Reconcile
end RedisKeeper
