import Mathlib.Data.List.Basic
import RedisKeeper.Proofs.Api.Concern
import RedisKeeper.Proofs.Reconcile.Provision

/-
What a look at a cluster asks, in which order, and what a failure leaves undone.

`Course` lists all that can happen, stage by stage, and each run of a look is one
of its courses (`course_of_yields`).  Nodes are only reached once all objects were
there before and are ready (`cluster_gated`), the status comes last, and nothing
that goes wrong with the nodes makes the look fail.
-/
namespace RedisKeeper

namespace Reconcile

/-! ## The requests of a cluster -/

/-- The requests for the objects of one group, the headless Service before the one for
clients. -/
def groupRequests (c : RedisCluster) (ns : String) (role : Role) : List Api.Request :=
  let base := roleObjectName c.name role
  let service := Manifest.Service.build c.owner base Manifest.clusterSetup role.name
  provideRequests .statefulSet ns base (c.statefulSet role).toJson ++
    if 0 < (Target.ofCluster c).replicas role then
      provideRequests .service ns (base ++ "-headless") (service .headless).toJson ++
        provideRequests .service ns base (service .client).toJson
    else []

/-- The requests for all objects, the leaders' first. -/
def clusterRequests (c : RedisCluster) (ns : String) : List Api.Request :=
  groupRequests c ns .leader ++ groupRequests c ns .follower

/-- The requests that tell how many pods are ready. -/
def readyRequests (c : RedisCluster) (ns : String) : List Api.Request :=
  [Api.getRequest .statefulSet ns (roleObjectName c.name .leader),
    Api.getRequest .statefulSet ns (roleObjectName c.name .follower)]

/-- The reply to the look-up of a group's StatefulSet is in a log. -/
def LookedUp (c : RedisCluster) (ns : String) (role : Role) (log : Api.Log)
    (reply : Api.Reply) : Prop :=
  Api.requested (Api.getRequest .statefulSet ns (roleObjectName c.name role)) reply ∈ log

variable {c : RedisCluster} {ns : String} {log : Api.Log}

theorem statefulSet_name (c : RedisCluster) (role : Role) :
    (c.statefulSet role).metadata.name = some (roleObjectName c.name role) := rfl

theorem statefulSet_ns (c : RedisCluster) (role : Role) :
    (c.statefulSet role).metadata.ns = c.metadata.ns := rfl

theorem follows_provideGroup (hns : c.metadata.ns = some ns) (role : Role) :
    Follows (provideGroup c role) (groupRequests c ns role) := by
  have hset : Follows (provideStatefulSet (c.statefulSet role)) (provideRequests .statefulSet ns
      (roleObjectName c.name role) (c.statefulSet role).toJson) :=
    follows_provide Api.readBy_statefulSet (statefulSet_name c role)
      ((statefulSet_ns c role).trans hns) _
  have hservices : ∀ s ∈ c.services role,
      ∃ name, s.metadata.name = some name ∧ s.metadata.ns = some ns := by
    intro s hs
    obtain ⟨purpose, -, rfl⟩ := List.mem_map.mp hs
    exact ⟨_, rfl, hns⟩
  by_cases hreplicas : 0 < (Target.ofCluster c).replicas role
  · simp only [groupRequests, provideGroup, if_pos hreplicas]
    exact hset.bind fun _ => (follows_provideServices hservices).map
  · simp only [groupRequests, provideGroup, if_neg hreplicas]
    exact hset.bind fun _ => Follows.pure _

theorem follows_provideGroups (hns : c.metadata.ns = some ns) :
    Follows (provideGroups c) (clusterRequests c ns) :=
  (follows_provideGroup hns .leader).bind fun _ => (follows_provideGroup hns .follower).map

theorem follows_readReadyCounts : Follows (readReadyCounts c ns) (readyRequests c ns) :=
  follows_readReady.bind fun _ => follows_readReady.map

theorem follows_writeClusterStatus (status : ClusterStatus) :
    Follows (writeClusterStatus c ns status)
      [Api.statusRequest .redisCluster ns c.name status.toJson] :=
  (follows_mergeStatus Api.readBy_redisCluster _).map

/-- A group is new just when the look-up of its StatefulSet found nothing. -/
theorem existing_of_provideGroup (hns : c.metadata.ns = some ns) {role : Role} {created : Bool}
    (h : (provideGroup c role).run.Yields log (.ok created)) :
    ∃ reply, LookedUp c ns role log reply ∧
      (reply.object? Api.statefulSetFormat).isNone = created := by
  obtain ⟨first, rest, new, rfl, hfirst, hrest⟩ := Program.exists_of_yields_ok h
  have hnew : new = created := by
    split at hrest
    · obtain ⟨_, _, _, -, -, -, hnew⟩ := Program.exists_of_yields_ok hrest
      exact (Except.ok.inj hnew).symm
    · exact (Except.ok.inj hrest.2).symm
  obtain ⟨reply, hmem, hobject⟩ := existing_of_provide Api.readBy_statefulSet
    (statefulSet_name c role) ((statefulSet_ns c role).trans hns) hfirst
  exact ⟨reply, List.mem_append_left _ hmem, hobject.trans hnew⟩

theorem existing_of_provideGroups (hns : c.metadata.ns = some ns)
    (h : (provideGroups c).run.Yields log (.ok false)) (role : Role) :
    ∃ reply state, LookedUp c ns role log reply ∧
      reply.object? Api.statefulSetFormat = some state := by
  obtain ⟨first, rest, leaders, rfl, hfirst, h⟩ := Program.exists_of_yields_ok h
  obtain ⟨second, last, followers, rfl, hsecond, -, h⟩ := Program.exists_of_yields_ok h
  obtain ⟨rfl, rfl⟩ : leaders = false ∧ followers = false :=
    Bool.or_eq_false_iff.mp (Except.ok.inj h).symm
  have hfound : ∃ reply, LookedUp c ns role (first ++ (second ++ last)) reply ∧
      (reply.object? Api.statefulSetFormat).isNone = false := by
    cases role with
    | leader =>
      obtain ⟨reply, hmem, hobject⟩ := existing_of_provideGroup hns hfirst
      exact ⟨reply, List.mem_append_left _ hmem, hobject⟩
    | follower =>
      obtain ⟨reply, hmem, hobject⟩ := existing_of_provideGroup hns hsecond
      exact ⟨reply, List.mem_append_right _ (List.mem_append_left _ hmem), hobject⟩
  obtain ⟨reply, hmem, hobject⟩ := hfound
  obtain ⟨state, hstate⟩ := Option.isSome_iff_exists.mp (Option.isNone_eq_false_iff.mp hobject)
  exact ⟨reply, state, hmem, hstate⟩

theorem readyCounts_of_yields {ready : ReadyCounts}
    (h : (readReadyCounts c ns).run.Yields log (.ok ready)) :
    (∃ reply, LookedUp c ns .leader log reply ∧ readyCount reply = ready.leaders) ∧
      ∃ reply, LookedUp c ns .follower log reply ∧ readyCount reply = ready.followers := by
  obtain ⟨first, rest, leaders, rfl, hfirst, h⟩ := Program.exists_of_yields_ok h
  obtain ⟨second, last, followers, rfl, hsecond, -, h⟩ := Program.exists_of_yields_ok h
  obtain rfl := Except.ok.inj h
  obtain ⟨reply, hmem, hcount⟩ := readyCount_of_readReady hfirst
  obtain ⟨reply', hmem', hcount'⟩ := readyCount_of_readReady hsecond
  exact ⟨⟨reply, List.mem_append_left _ hmem, hcount⟩,
    ⟨reply', List.mem_append_right _ (List.mem_append_left _ hmem'), hcount'⟩⟩

/-! ## The courses of a look -/

/-- A cluster that is looked after: it has a namespace, is not on its way out, and
asks for nothing that cannot be. -/
structure Standing (c : RedisCluster) (ns : String) : Prop where
  placed : c.metadata.ns = some ns
  staying : c.metadata.deletionTimestamp = none
  valid : c.spec.firstInvalid = none

/-- What the last stage, writing a status, makes of a look. -/
inductive Wrote (c : RedisCluster) (ns : String) (requeue : Requeue) :
    Api.Log → Except Error Requeue → Prop
  | wrote {log : Api.Log} {status : ClusterStatus} :
    Api.Followed [Api.statusRequest .redisCluster ns c.name status.toJson] log true →
      Wrote c ns requeue log (.ok requeue)
  | unwritten {log : Api.Log} {status : ClusterStatus} (e : Error) :
    Api.Followed [Api.statusRequest .redisCluster ns c.name status.toJson] log false →
      Wrote c ns requeue log (.error e)

/-- What happens once all objects are known to have been there. -/
inductive PassedOver (c : RedisCluster) (ns : String) : Api.Log → Tick → Prop
  | unread {log : Api.Log} (e : Error) : Api.Followed (readyRequests c ns) log false →
    PassedOver c ns log (.failed e)
  | passed {read acted noted written : Api.Log} {ready : ReadyCounts} {report : Report}
      {tick : Tick} : Api.Followed (readyRequests c ns) read true →
    (∃ reply, LookedUp c ns .leader read reply ∧ readyCount reply = ready.leaders) →
    (∃ reply, LookedUp c ns .follower read reply ∧ readyCount reply = ready.followers) →
    (∀ e ∈ acted, e.query.concern = .node) →
    (ready.meet (.ofCluster c) = false → acted = []) →
    (∀ e ∈ noted, e.query.concern = .event) →
    Wrote c ns report.outcome.requeue written tick.result → tick.report = some report →
      PassedOver c ns (read ++ acted ++ noted ++ written) tick

inductive Course (c : RedisCluster) : Api.Log → Tick → Prop
  | unplaced (e : Error) : c.metadata.ns = none → Course c [] (.failed e)
  | leaving : c.metadata.deletionTimestamp.isSome = true → Course c [] (.ended .none)
  | invalid {log : Api.Log} (e : Error) : c.spec.firstInvalid.isSome = true →
    (∀ e ∈ log, e.query.concern = .event) → Course c log (.failed e)
  | stopped {ns : String} {log : Api.Log} (e : Error) : Standing c ns →
    Api.Followed (clusterRequests c ns) log false → Course c log (.failed e)
  | created {ns : String} {made noted written : Api.Log} {tick : Tick} : Standing c ns →
    Api.Followed (clusterRequests c ns) made true →
    (∀ e ∈ noted, e.query.concern = .event) →
    Wrote c ns .immediate written tick.result → tick.report = none →
      Course c (made ++ noted ++ written) tick
  | passed {ns : String} {made rest : Api.Log} {tick : Tick} : Standing c ns →
    Api.Followed (clusterRequests c ns) made true →
    (∀ role, ∃ reply state, LookedUp c ns role made reply ∧
      reply.object? Api.statefulSetFormat = some state) →
    PassedOver c ns rest tick → Course c (made ++ rest) tick

theorem wrote_of_yields (requeue : Requeue) {status : ClusterStatus}
    {result : Except Error Unit}
    (h : (writeClusterStatus c ns status).run.Yields log result) :
    Wrote c ns requeue log (result.map fun _ => requeue) := by
  have hlog := follows_writeClusterStatus status log result h
  cases result with
  | error e => exact .unwritten e hlog
  | ok u => exact .wrote hlog

theorem event_of_publishStep {setting : Setting} {report : Report} {u : Unit}
    (h : (publishStep setting c report).Yields log u) :
    ∀ e ∈ log, e.query.concern = .event := by
  rw [publishStep] at h
  split at h
  · obtain ⟨rfl, -⟩ := h
    exact List.forall_mem_nil _
  · exact Api.event_of_publish h

theorem node_of_pass {tools : Node.Tools} {t : Target} {ready : ReadyCounts} {report : Report}
    (h : (Api.perform (Node.pass tools t ready)).Yields log report) :
    (∀ e ∈ log, e.query.concern = .node) ∧ (ready.meet t = false → log = []) := by
  refine ⟨Api.node_of_perform h, fun hready => ?_⟩
  have hnothing : Node.pass tools t ready = .done (Node.notReady t ready) := by
    rw [Node.pass, if_neg (by rw [hready]; exact Bool.false_ne_true)]
    rfl
  rw [hnothing] at h
  exact h.1

theorem passedOver_of_yields {setting : Setting} {tick : Tick}
    (h : (passOver setting c ns).Yields log tick) : PassedOver c ns log tick := by
  rw [passOver, Program.yields_bind] at h
  obtain ⟨read, rest, counts, rfl, hread, h⟩ := h
  have hreads := follows_readReadyCounts read counts hread
  cases counts with
  | error e =>
    obtain ⟨rfl, rfl⟩ := h
    rw [List.append_nil]
    exact .unread e hreads
  | ok ready =>
    obtain ⟨hleaders, hfollowers⟩ := readyCounts_of_yields hread
    obtain ⟨acted, rest, report, rfl, hacted, h⟩ := Program.yields_bind.mp h
    obtain ⟨noted, rest, u, rfl, hnoted, h⟩ := Program.yields_bind.mp h
    obtain ⟨written, rest, result, rfl, hwritten, h⟩ := Program.yields_bind.mp h
    obtain ⟨hnode, hquiet⟩ := node_of_pass hacted
    have hwrote := wrote_of_yields report.outcome.requeue hwritten
    have hlog : read ++ (acted ++ (noted ++ (written ++ rest))) =
        read ++ acted ++ noted ++ (written ++ rest) := by simp only [List.append_assoc]
    rw [hlog]
    cases result with
    | error e =>
      obtain ⟨rfl, rfl⟩ := h
      rw [List.append_nil]
      exact .passed hreads hleaders hfollowers hnode hquiet (event_of_publishStep hnoted) hwrote rfl
    | ok u =>
      obtain ⟨rfl, rfl⟩ := h
      rw [List.append_nil]
      exact .passed hreads hleaders hfollowers hnode hquiet (event_of_publishStep hnoted) hwrote rfl

theorem course_of_yields {setting : Setting} {tick : Tick}
    (h : (cluster setting c).Yields log tick) : Course c log tick := by
  rw [cluster] at h
  split at h
  · rename_i hns
    obtain ⟨rfl, rfl⟩ := h
    exact .unplaced _ hns
  rename_i ns hns
  split at h
  · rename_i hleaving
    obtain ⟨rfl, rfl⟩ := h
    exact .leaving hleaving
  rename_i hstaying
  split at h
  · rename_i fault hfault
    obtain ⟨noted, rest, u, rfl, hnoted, rfl, rfl⟩ := Program.yields_bind.mp h
    rw [List.append_nil]
    exact .invalid _ (by rw [hfault]; rfl) (Api.event_of_publish hnoted)
  rename_i hvalid
  have hstanding : Standing c ns := ⟨hns, Option.not_isSome_iff_eq_none.mp hstaying, hvalid⟩
  obtain ⟨made, rest, created, rfl, hmade, h⟩ := Program.yields_bind.mp h
  have hfollowed := follows_provideGroups hns made created hmade
  match created with
  | .error e =>
    obtain ⟨rfl, rfl⟩ := h
    rw [List.append_nil]
    exact .stopped e hstanding hfollowed
  | .ok true =>
    obtain ⟨noted, rest, u, rfl, hnoted, h⟩ := Program.yields_bind.mp h
    obtain ⟨written, rest, result, rfl, hwritten, h⟩ := Program.yields_bind.mp h
    have hwrote := wrote_of_yields .immediate hwritten
    rw [← List.append_assoc]
    cases result with
    | error e =>
      obtain ⟨rfl, rfl⟩ := h
      rw [List.append_nil]
      exact .created hstanding hfollowed (Api.event_of_publish hnoted) hwrote rfl
    | ok u =>
      obtain ⟨rfl, rfl⟩ := h
      rw [List.append_nil]
      exact .created hstanding hfollowed (Api.event_of_publish hnoted) hwrote rfl
  | .ok false =>
    exact .passed hstanding hfollowed (existing_of_provideGroups hns hmade)
      (passedOver_of_yields h)

/-! ## What is asked when -/

theorem object_of_mem_clusterRequests {r : Api.Request} (h : r ∈ clusterRequests c ns) :
    (Api.Query.request r).concern = .object := by
  have hprovide : ∀ {t : Api.ResourceType} {name : String} {body : Json},
      t = .statefulSet ∨ t = .service → r ∈ provideRequests t ns name body →
        (Api.Query.request r).concern = .object := by
    intro t name body ht hr
    rcases List.mem_pair.mp hr with rfl | rfl <;> rcases ht with rfl | rfl <;> rfl
  have hgroup : ∀ role, r ∈ groupRequests c ns role →
      (Api.Query.request r).concern = .object := by
    intro role hr
    rcases List.mem_append.mp hr with hr | hr
    · exact hprovide (.inl rfl) hr
    · split at hr
      · rcases List.mem_append.mp hr with hr | hr
        · exact hprovide (.inr rfl) hr
        · exact hprovide (.inr rfl) hr
      · exact absurd hr List.not_mem_nil
  rcases List.mem_append.mp h with h | h
  · exact hgroup .leader h
  · exact hgroup .follower h

/-- What tells how many pods are ready was already looked up before. -/
theorem mem_clusterRequests_of_ready {r : Api.Request} (h : r ∈ readyRequests c ns) :
    r ∈ clusterRequests c ns := by
  have hgroup : ∀ role, Api.getRequest .statefulSet ns (roleObjectName c.name role) ∈
      groupRequests c ns role := fun role => List.mem_append_left _ List.mem_cons_self
  rcases List.mem_pair.mp h with rfl | rfl
  · exact List.mem_append_left _ (hgroup .leader)
  · exact List.mem_append_right _ (hgroup .follower)

theorem object_of_made {complete : Bool}
    (h : Api.Followed (clusterRequests c ns) log complete) :
    ∀ e ∈ log, e.query.concern = .object := by
  intro e he
  obtain ⟨r, hr, reply, rfl⟩ := h.exists_of_mem he
  exact object_of_mem_clusterRequests hr

theorem object_of_read {complete : Bool} (h : Api.Followed (readyRequests c ns) log complete) :
    ∀ e ∈ log, e.query.concern = .object ∧ e.query.applies = false := by
  intro e he
  obtain ⟨r, hr, reply, rfl⟩ := h.exists_of_mem he
  refine ⟨object_of_mem_clusterRequests (mem_clusterRequests_of_ready hr), ?_⟩
  rcases List.mem_pair.mp hr with rfl | rfl <;> rfl

theorem status_of_wrote {requeue : Requeue} {result : Except Error Requeue}
    (h : Wrote c ns requeue log result) :
    log.length ≤ 1 ∧ ∀ e ∈ log, e.query.concern = .status := by
  have hone : ∀ {status : ClusterStatus} {complete : Bool}, Api.Followed
      [Api.statusRequest .redisCluster ns c.name status.toJson] log complete →
        log.length ≤ 1 ∧ ∀ e ∈ log, e.query.concern = .status := by
    intro status complete hlog
    refine ⟨hlog.length_le, fun e he => ?_⟩
    obtain ⟨r, hr, reply, rfl⟩ := hlog.exists_of_mem he
    obtain rfl := List.mem_singleton.mp hr
    rfl
  cases h with
  | wrote hlog => exact hone hlog
  | unwritten e hlog => exact hone hlog

/-- Whether an exchange is no write of a status and nothing in it keeps one from being
written later. -/
structure Smooth (e : Exchange Api.interface) : Prop where
  unreported : e.query.concern ≠ .status
  worked : e.query.concern = .object → Api.worked e = true

/-- Requests for objects that all worked are smooth. -/
theorem smooth_of_objects (hobject : ∀ e ∈ log, e.query.concern = .object)
    (hworked : ∀ e ∈ log, Api.worked e = true) : ∀ e ∈ log, Smooth e :=
  fun e he => ⟨by rw [hobject e he]; decide, fun _ => hworked e he⟩

theorem smooth_of_concern {concern : Api.Concern} (hc : concern ≠ .status ∧ concern ≠ .object)
    (h : ∀ e ∈ log, e.query.concern = concern) : ∀ e ∈ log, Smooth e := by
  intro e he
  have hconcern := h e he
  exact ⟨hconcern ▸ hc.1, fun hobject => absurd (hconcern.symm.trans hobject) hc.2⟩

/-- What is written last is the status, behind requests that all worked. -/
theorem last_of_wrote {requeue : Requeue} {result : Except Error Requeue}
    {quiet written before after : Api.Log} {e : Exchange Api.interface}
    (hquiet : ∀ x ∈ quiet, Smooth x) (hwritten : Wrote c ns requeue written result)
    (h : quiet ++ written = before ++ e :: after) (he : e.query.concern = .status) :
    after = [] ∧ ∀ x ∈ before, x.query.concern ≠ .status ∧
      (x.query.concern = .object → Api.worked x = true) := by
  obtain ⟨part, rfl, rfl⟩ :=
    Program.exists_of_append_eq (P := fun x => x.query.concern = .status) h
      (fun x hx => (hquiet x hx).unreported) he
  have hlength := (status_of_wrote hwritten).1
  rw [List.length_append, List.length_cons] at hlength
  obtain rfl : part = [] := List.eq_nil_of_length_eq_zero (by omega)
  obtain rfl : after = [] := List.eq_nil_of_length_eq_zero (by omega)
  rw [List.append_nil]
  exact ⟨rfl, fun x hx => ⟨(hquiet x hx).unreported, (hquiet x hx).worked⟩⟩

/-- Whether a request on which the look depends failed or could not be sent. -/
def Hindered (c : RedisCluster) (ns : String) (log : Api.Log) : Prop :=
  (∃ e ∈ log, (e.query.concern = .object ∨ e.query.concern = .status) ∧ Api.worked e = false) ∨
    ∃ r ∈ clusterRequests c ns ++ [Api.statusRequest .redisCluster ns c.name .null],
      r.sendable = false

theorem hindered_of_made (h : Api.Followed (clusterRequests c ns) log false) (more : Api.Log) :
    Hindered c ns (log ++ more) := by
  rcases h.of_incomplete with ⟨r, hr, hsend⟩ | ⟨e, he, hworked⟩
  · exact .inr ⟨r, List.mem_append_left _ hr, hsend⟩
  · exact .inl ⟨e, List.mem_append_left _ he, .inl (object_of_made h e he), hworked⟩

theorem hindered_of_read (h : Api.Followed (readyRequests c ns) log false) (before : Api.Log) :
    Hindered c ns (before ++ log) := by
  rcases h.of_incomplete with ⟨r, hr, hsend⟩ | ⟨e, he, hworked⟩
  · exact .inr ⟨r, List.mem_append_left _ (mem_clusterRequests_of_ready hr), hsend⟩
  · exact .inl ⟨e, List.mem_append_right _ he, .inl (object_of_read h e he).1, hworked⟩

/-- The result of the last stage is a failure just when something hindered it, given
that nothing did before. -/
theorem hindered_iff_of_wrote {requeue : Requeue} {result : Except Error Requeue}
    {quiet written : Api.Log}
    (hsend : ∀ r ∈ clusterRequests c ns, r.sendable = true) (hquiet : ∀ x ∈ quiet, Smooth x)
    (hwritten : Wrote c ns requeue written result) :
    (∃ e, result = .error e) ↔ Hindered c ns (quiet ++ written) := by
  cases hwritten with
  | @wrote status hlog =>
    obtain ⟨hstatus, hworked⟩ := hlog.of_complete
    have hsendstatus : (Api.statusRequest .redisCluster ns c.name status.toJson).sendable = true :=
      hstatus _ (List.mem_singleton_self _)
    constructor
    · exact fun ⟨e, he⟩ => absurd he nofun
    · rintro (⟨e, he, hconcern, hfailed⟩ | ⟨r, hr, hunsent⟩)
      · rcases List.mem_append.mp he with he | he
        · have hobject := hconcern.resolve_right (hquiet e he).unreported
          exact absurd ((hquiet e he).worked hobject) (by rw [hfailed]; exact Bool.false_ne_true)
        · exact absurd (hworked e he) (by rw [hfailed]; exact Bool.false_ne_true)
      · have hsent : r.sendable = true := by
          rcases List.mem_append.mp hr with hr | hr
          · exact hsend r hr
          · obtain rfl := List.mem_singleton.mp hr
            exact hsendstatus
        exact absurd hsent (by rw [hunsent]; exact Bool.false_ne_true)
  | unwritten e hlog =>
    refine ⟨fun _ => ?_, fun _ => ⟨e, rfl⟩⟩
    rcases hlog.of_incomplete with ⟨r, hr, hunsent⟩ | ⟨x, hx, hfailed⟩
    · obtain rfl := List.mem_singleton.mp hr
      exact .inr ⟨_, List.mem_append_right _ (List.mem_singleton_self _), hunsent⟩
    · obtain ⟨r, hr, reply, rfl⟩ := hlog.exists_of_mem hx
      obtain rfl := List.mem_singleton.mp hr
      exact .inl ⟨_, List.mem_append_right _ hx, .inr rfl, hfailed⟩

theorem Course.quiet {tick : Tick} (h : Course c log tick)
    (hfree : c.metadata.ns = none ∨ c.metadata.deletionTimestamp ≠ none ∨ c.spec.size < 0 ∨
      ∃ role n, (c.spec.role role).replicas = some n ∧ n < 0) :
    ∀ e ∈ log, e.query.concern = .event := by
  have hnot : ∀ {ns}, ¬ Standing c ns := by
    intro ns hstanding
    obtain ⟨hsize, hroles⟩ := ClusterSpec.firstInvalid_eq_none_iff.mp hstanding.valid
    rcases hfree with hns | hleaving | hneg | ⟨role, n, hn, hneg⟩
    · exact absurd (hns.symm.trans hstanding.placed) nofun
    · exact hleaving hstanding.staying
    · exact hsize hneg
    · exact hroles role n hn hneg
  cases h with
  | unplaced => exact List.forall_mem_nil _
  | leaving => exact List.forall_mem_nil _
  | invalid e _ hnoted => exact hnoted
  | stopped e hstanding => exact absurd hstanding hnot
  | created hstanding => exact absurd hstanding hnot
  | passed hstanding => exact absurd hstanding hnot

/-- What holds of a look at a cluster that is looked after.  Its objects are provided
by `made`, and all else is asked in `rest`. -/
structure Gated (c : RedisCluster) (ns : String) (made rest : Api.Log) (complete : Bool)
    (tick : Tick) : Prop where
  provided : Api.Followed (clusterRequests c ns) made complete
  stopped : complete = false → rest = []
  /-- No object is applied later. -/
  once : ∀ e ∈ rest, e.query.concern = .object → e.query.applies = false
  /-- Nodes are only reached when all objects were there before and as many pods are
  ready as there should be. -/
  reached : ∀ before e after, rest = before ++ e :: after → e.query.concern = .node →
    complete = true ∧ ∀ role,
      (∃ reply state, LookedUp c ns role made reply ∧
        reply.object? Api.statefulSetFormat = some state) ∧
      ∃ reply, LookedUp c ns role before reply ∧
        Api.worked (Api.requested (Api.getRequest .statefulSet ns (roleObjectName c.name role))
          reply) = true ∧
        (readyCount reply).toInt = (Target.ofCluster c).replicas role
  /-- The status is written last, once, and only when nothing failed before that the
  look depends on. -/
  reported : ∀ before e after, made ++ rest = before ++ e :: after →
    e.query.concern = .status → after = [] ∧ ∀ x ∈ before, x.query.concern ≠ .status ∧
      (x.query.concern = .object → Api.worked x = true)
  failed : (∃ e, tick.result = .error e) ↔ Hindered c ns (made ++ rest)
  settled : ∀ requeue, tick.result = .ok requeue →
    requeue = (tick.report.map (·.outcome.requeue)).getD .immediate

theorem settled_of_wrote {requeue : Requeue} {result : Except Error Requeue}
    (h : Wrote c ns requeue log result) {r : Requeue} (hr : result = .ok r) : r = requeue := by
  cases h with
  | wrote => exact (Except.ok.inj hr).symm
  | unwritten => exact absurd hr nofun

theorem gated_of_stopped {e : Error} (h : Api.Followed (clusterRequests c ns) log false) :
    Gated c ns log [] false (.failed e) where
  provided := h
  stopped := fun _ => rfl
  once := List.forall_mem_nil _
  reached := fun before x after hrest => absurd hrest (by simp)
  reported := by
    intro before x after hlog hx
    have hmem : x ∈ log := by
      rw [List.append_nil] at hlog
      rw [hlog]
      simp
    exact absurd hx (by rw [object_of_made h x hmem]; decide)
  failed := ⟨fun _ => hindered_of_made h [], fun _ => ⟨e, rfl⟩⟩
  settled := nofun

theorem gated_of_created {made noted written : Api.Log} {tick : Tick}
    (hmade : Api.Followed (clusterRequests c ns) made true)
    (hnoted : ∀ e ∈ noted, e.query.concern = .event)
    (hwritten : Wrote c ns .immediate written tick.result) (hreport : tick.report = none) :
    Gated c ns made (noted ++ written) true tick := by
  obtain ⟨hsend, hworked⟩ := hmade.of_complete
  have hstatus := (status_of_wrote hwritten).2
  have hquiet : ∀ x ∈ made ++ noted, Smooth x := by
    rw [List.forall_mem_append]
    exact ⟨smooth_of_objects (object_of_made hmade) hworked,
      smooth_of_concern (by decide) hnoted⟩
  have hother : ∀ e ∈ noted ++ written, e.query.concern = .event ∨ e.query.concern = .status := by
    rw [List.forall_mem_append]
    exact ⟨fun e he => .inl (hnoted e he), fun e he => .inr (hstatus e he)⟩
  refine ⟨hmade, nofun, ?once, ?reached, ?reported, ?failed, ?settled⟩
  case once =>
    intro e he hobject
    rcases hother e he with h | h <;> exact absurd (hobject.symm.trans h) (by decide)
  case reached =>
    intro before e after hrest hnode
    have hmem : e ∈ noted ++ written := by rw [hrest]; simp
    rcases hother e hmem with h | h <;> exact absurd (hnode.symm.trans h) (by decide)
  case reported =>
    intro before e after hlog he
    rw [← List.append_assoc] at hlog
    exact last_of_wrote hquiet hwritten hlog he
  case failed =>
    rw [← List.append_assoc]
    exact hindered_iff_of_wrote hsend hquiet hwritten
  case settled =>
    intro requeue hrequeue
    rw [hreport]
    exact settled_of_wrote hwritten hrequeue

theorem gated_of_passed {made rest : Api.Log} {tick : Tick}
    (hmade : Api.Followed (clusterRequests c ns) made true)
    (hfound : ∀ role, ∃ reply state, LookedUp c ns role made reply ∧
      reply.object? Api.statefulSetFormat = some state)
    (hrest : PassedOver c ns rest tick) : Gated c ns made rest true tick := by
  obtain ⟨hsend, hworked⟩ := hmade.of_complete
  have hquietmade := smooth_of_objects (object_of_made hmade) hworked
  cases hrest with
  | unread e hread =>
    have hobject := object_of_read hread
    refine ⟨hmade, nofun, fun x hx _ => (hobject x hx).2, ?reached, ?reported, ?failed, nofun⟩
    case reached =>
      intro before x after hlog hnode
      have hmem : x ∈ rest := by rw [hlog]; simp
      exact absurd (hnode.symm.trans (hobject x hmem).1) (by decide)
    case reported =>
      intro before x after hlog hstatus
      have hmem : x ∈ made ++ rest := by rw [hlog]; simp
      rcases List.mem_append.mp hmem with hmem | hmem
      · exact absurd hstatus (hquietmade x hmem).unreported
      · exact absurd (hstatus.symm.trans (hobject x hmem).1) (by decide)
    case failed => exact ⟨fun _ => hindered_of_read hread made, fun _ => ⟨e, rfl⟩⟩
  | @passed read acted noted written ready report _ hread hleaders hfollowers hnode hwaiting hnoted
      hwritten hreport =>
    have hobject := object_of_read hread
    have hstatus := (status_of_wrote hwritten).2
    have hquiet : ∀ x ∈ made ++ (read ++ acted ++ noted), Smooth x := by
      simp only [List.forall_mem_append]
      exact ⟨hquietmade, ⟨smooth_of_objects (fun e he => (hobject e he).1) hread.of_complete.2,
        smooth_of_concern (by decide) hnode⟩, smooth_of_concern (by decide) hnoted⟩
    refine ⟨hmade, nofun, ?once, ?reached, ?reported, ?failed, ?settled⟩
    case once =>
      simp only [List.forall_mem_append]
      refine ⟨⟨⟨fun e he _ => (hobject e he).2, fun e he h => ?_⟩, fun e he h => ?_⟩,
        fun e he h => ?_⟩
      · exact absurd (h.symm.trans (hnode e he)) (by decide)
      · exact absurd (h.symm.trans (hnoted e he)) (by decide)
      · exact absurd (h.symm.trans (hstatus e he)) (by decide)
    case reached =>
      intro before e after hlog he
      rw [List.append_assoc, List.append_assoc] at hlog
      obtain ⟨part, rfl, hpart⟩ :=
        Program.exists_of_append_eq (P := fun x => x.query.concern = .node) hlog
          (fun x hx h => absurd (h.symm.trans (hobject x hx).1) (by decide)) he
      -- A pass that only waits reaches no node, and neither does what follows it.
      have hmeet : ready.meet (.ofCluster c) = true := by
        by_contra hnot
        rw [hwaiting (Bool.eq_false_iff.mpr hnot), List.nil_append] at hpart
        have hmem : e ∈ noted ++ written := by rw [hpart]; simp
        rcases List.mem_append.mp hmem with hmem | hmem
        · exact absurd (he.symm.trans (hnoted e hmem)) (by decide)
        · exact absurd (he.symm.trans (hstatus e hmem)) (by decide)
      obtain ⟨hmeetleaders, hmeetfollowers⟩ := ReadyCounts.meet_eq_true_iff.mp hmeet
      refine ⟨rfl, fun role => ⟨hfound role, ?_⟩⟩
      cases role with
      | leader =>
        obtain ⟨reply, hmem, hcount⟩ := hleaders
        exact ⟨reply, List.mem_append_left _ hmem, hread.of_complete.2 _ hmem,
          by rw [hcount]; exact hmeetleaders⟩
      | follower =>
        obtain ⟨reply, hmem, hcount⟩ := hfollowers
        exact ⟨reply, List.mem_append_left _ hmem, hread.of_complete.2 _ hmem,
          by rw [hcount]; exact hmeetfollowers⟩
    case reported =>
      intro before e after hlog he
      rw [← List.append_assoc made] at hlog
      exact last_of_wrote hquiet hwritten hlog he
    case failed =>
      rw [← List.append_assoc made]
      exact hindered_iff_of_wrote hsend hquiet hwritten
    case settled =>
      intro requeue hrequeue
      rw [hreport]
      exact settled_of_wrote hwritten hrequeue

theorem Course.gated {tick : Tick} (h : Course c log tick) (hstanding : Standing c ns) :
    ∃ made rest complete, log = made ++ rest ∧ Gated c ns made rest complete tick := by
  have hsame : ∀ {other}, Standing c other → other = ns := fun hother =>
    Option.some.inj (hother.placed.symm.trans hstanding.placed)
  cases h with
  | unplaced e hns => exact absurd (hns.symm.trans hstanding.placed) nofun
  | leaving hleaving => exact absurd hleaving (by rw [hstanding.staying]; decide)
  | invalid e hinvalid => exact absurd hinvalid (by rw [hstanding.valid]; decide)
  | stopped e hother hmade =>
    obtain rfl := hsame hother
    exact ⟨log, [], false, (List.append_nil log).symm, gated_of_stopped hmade⟩
  | @created _ made noted written _ hother hmade hnoted hwritten hreport =>
    obtain rfl := hsame hother
    exact ⟨made, noted ++ written, true, List.append_assoc _ _ _,
      gated_of_created hmade hnoted hwritten hreport⟩
  | @passed _ made rest _ hother hmade hfound hrest =>
    obtain rfl := hsame hother
    exact ⟨made, rest, true, rfl, gated_of_passed hmade hfound hrest⟩

/-- A look at a cluster without a namespace, on its way out, or that asks for what
cannot be writes at most an event.  Any other look provides the cluster's objects in
order up to the first failure, and is `Gated` from there on. -/
theorem cluster_gated (setting : Setting) (c : RedisCluster) {σ : Type}
    (respond : Responder Api.interface σ) (s : σ) :
    let tick := ((cluster setting c).runLogged respond s).1
    let log := ((cluster setting c).runLogged respond s).2.1
    ((c.metadata.ns = none ∨ c.metadata.deletionTimestamp ≠ none ∨ c.spec.size < 0 ∨
        ∃ role n, (c.spec.role role).replicas = some n ∧ n < 0) →
      ∀ e ∈ log, e.query.concern = .event) ∧
    (∀ ns, c.metadata.ns = some ns → c.metadata.deletionTimestamp = none → ¬ c.spec.size < 0 →
      (∀ role n, (c.spec.role role).replicas = some n → ¬ n < 0) →
        ∃ made rest complete, log = made ++ rest ∧ Gated c ns made rest complete tick) := by
  intro tick log
  have hcourse : Course c log tick :=
    course_of_yields (Program.yields_runLogged respond (cluster setting c) s)
  clear_value tick log
  refine ⟨hcourse.quiet, fun ns hns hstaying hsize hroles => hcourse.gated ?_⟩
  exact ⟨hns, hstaying, ClusterSpec.firstInvalid_eq_none_iff.mpr ⟨hsize, hroles⟩⟩

end Reconcile
end RedisKeeper
