import Mathlib.Data.List.Induction
import RedisKeeper.Json.Patch
import RedisKeeper.Proofs.Api.Addressing
import RedisKeeper.Proofs.Reconcile.Provision
import RedisKeeper.Proofs.Resource.Conditions
import RedisKeeper.Proofs.Resource.RoundTrip
import RedisKeeper.Reconcile.Single

/-
The status of an instance, look after look.

What a look writes is decided by three fields of the status that it finds, while
the conditions are made from one of them and the old conditions.  A look that has
the pods listed asks for at most one change, of what it has just seen
(`SingleLook.changes_eq`).  If the status it finds is that of a `Sight`, so is the
status it leaves, of its own sight (`SingleLook.left_of_some`), and therefore
nothing that is not written again is stale.  Over a history of looks that find what
the one before them left, the kept status is that of the last sight, and the time in
it is that of the look that saw readiness change (`left_of_inTurn`,
`status_upkept`).
-/
namespace RedisKeeper
namespace Reconcile

variable {ns name : String} {log : Api.Log} {s : RedisSingle} {setting : Setting}

/-! ## What a look sees and writes -/

/-- The number of ready pods that an exchange tells of. -/
def countIn? : Exchange Api.interface → Option Int32
  | ⟨.request r, reply⟩ =>
    if r.verb = .get ∧ r.resource = .statefulSet then some (readyCount reply) else none
  | _ => none

/-- The names of the pods that an exchange lists. -/
def namesIn? : Exchange Api.interface → Option (List String)
  | ⟨.request r, reply⟩ =>
    if r.verb = .list ∧ r.resource = .pod then
      (Api.decoded (Api.Listing.format Api.podFormat) reply.result).toOption.map fun listing =>
        listing.items.map fun pod => pod.metadata.displayName
    else none
  | _ => none

/-- The change to a status that an exchange asks for. -/
def changeIn? : Exchange Api.interface → Option Json
  | ⟨.request r, _⟩ => if r.subresource = some "status" then r.body else none
  | _ => none

/-- Whether a question neither lists pods nor is about a status. -/
def Quiet (q : Api.Query) : Prop :=
  ∀ r, q = .request r → r.resource ≠ .pod ∧ r.subresource = none

theorem quiet_request {t : Api.ResourceType} {r : Api.Request} (ht : t ≠ .pod)
    (hresource : r.resource = t) (hsubresource : r.subresource = none) : Quiet (.request r) := by
  rintro r' ⟨⟩
  exact ⟨hresource ▸ ht, hsubresource⟩

theorem Quiet.namesIn?_eq {e : Exchange Api.interface} (h : Quiet e.query) : namesIn? e = none := by
  obtain ⟨query, answer⟩ := e
  cases query with
  | request r => exact if_neg fun hr => (h r rfl).1 hr.2
  | _ => rfl

theorem Quiet.changeIn?_eq {e : Exchange Api.interface} (h : Quiet e.query) :
    changeIn? e = none := by
  obtain ⟨query, answer⟩ := e
  cases query with
  | request r =>
    have hnone := (h r rfl).2
    simp [changeIn?, hnone]
  | _ => rfl

theorem filterMap_namesIn?_of_quiet (h : ∀ e ∈ log, Quiet e.query) :
    log.filterMap namesIn? = [] :=
  List.filterMap_eq_nil_iff.mpr fun e he => (h e he).namesIn?_eq

theorem filterMap_changeIn?_of_quiet (h : ∀ e ∈ log, Quiet e.query) :
    log.filterMap changeIn? = [] :=
  List.filterMap_eq_nil_iff.mpr fun e he => (h e he).changeIn?_eq

/-! ## What comes before the status -/

/-- All that is done for an instance before its pods are counted. -/
def prepare (setting : Setting) (s : RedisSingle) (ns : String) : Act Unit := do
  if !isMarked s.metadata then
    mark ns s.name
  if ← provideStatefulSet s.statefulSet then
    setting.publish s.owner .normal "Creating" "CreateResources" "Created StatefulSet"
  provideServices s.services

/-- What is done with what has been seen. -/
def refresh (setting : Setting) (s : RedisSingle) (ns : String) (ready : Int32)
    (nodes : List String) : Act Unit := do
  if RedisSingle.statusDiffers s.previousStatus ready nodes s.metadata.generation then
    writeSingleStatus s ns (s.statusAfter ready nodes setting.now.text)

theorem maintain_eq (setting : Setting) (s : RedisSingle) (ns : String) :
    maintain setting s ns = (do
      prepare setting s ns
      let ready ← readReady ns s.name
      let nodes ← listPodNames ns s.name
      refresh setting s ns ready nodes) := by
  have hbuild : build setting s ns = (do
      if ← provideStatefulSet s.statefulSet then
        setting.publish s.owner .normal "Creating" "CreateResources" "Created StatefulSet"
      provideServices s.services : Act Unit) >>= fun _ => (do
        let ready ← readReady ns s.name
        let nodes ← listPodNames ns s.name
        refresh setting s ns ready nodes) := by
    simp only [build, refresh, bind_assoc]
    congr
    funext created
    cases created <;> simp [bind_assoc]
  rw [maintain, prepare, hbuild]
  cases isMarked s.metadata <;> simp [bind_assoc]

/-- What is asked about the instance itself, its status apart. -/
theorem quiet_redisSingle {r : Api.Request} (hresource : r.resource = .redisSingle)
    (hsubresource : r.subresource = none) : Quiet (.request r) :=
  quiet_request (by decide) hresource hsubresource

theorem only_replaceFinalizers {marks : List String} :
    (replaceFinalizers ns name marks).run.Only Quiet := by
  rw [replaceFinalizers]
  refine Program.Only.run_bind (only_attempt ?_) fun _ => trivial
  exact Api.only_decoded (quiet_redisSingle rfl rfl)

theorem only_mark : (mark ns name).run.Only Quiet := by
  have hread : (attempt (Api.get .redisSingle RedisSingle.format ns name)).run.Only Quiet :=
    only_attempt (Api.only_get (quiet_redisSingle rfl rfl))
  rw [mark]
  refine hread.run_bind fun single => ?_
  split
  · exact only_replaceFinalizers
  · exact trivial

theorem only_prepare : (prepare setting s ns).run.Only Quiet := by
  have hset : ∀ {r : Api.Request}, r.resource = .statefulSet → r.subresource = none →
      Quiet (.request r) := quiet_request (by decide)
  have hservice : ∀ {r : Api.Request}, r.resource = .service → r.subresource = none →
      Quiet (.request r) := quiet_request (by decide)
  have hservices : (provideServices s.services).run.Only Quiet :=
    only_provideServices fun _ _ _ _ _ _ => ⟨hservice rfl rfl, hservice rfl rfl⟩
  have hpublish : (setting.publish s.owner .normal "Creating" "CreateResources"
      "Created StatefulSet").Only Quiet :=
    Api.only_publish (fun _ => quiet_request (by decide)) _ _ _ _
  have hrest : (do
      if ← provideStatefulSet s.statefulSet then
        setting.publish s.owner .normal "Creating" "CreateResources" "Created StatefulSet"
      provideServices s.services : Act Unit).run.Only Quiet := by
    refine (only_provide fun _ _ _ _ => ⟨hset rfl rfl, hset rfl rfl⟩).run_bind fun created => ?_
    cases created with
    | false => exact hservices
    | true => exact (hpublish.map .ok).run_bind fun _ => hservices
  rw [prepare]
  split
  · exact only_mark.run_bind fun _ => hrest
  · exact hrest

theorem only_unmark : (unmark ns name).run.Only Quiet := by
  have hread : (attempt (Api.get? .redisSingle RedisSingle.format ns name)).run.Only Quiet :=
    only_attempt (Api.only_get? (quiet_redisSingle rfl rfl))
  rw [unmark]
  refine hread.run_bind fun found => ?_
  cases found with
  | none => exact trivial
  | some single =>
    dsimp only
    split
    · exact only_replaceFinalizers
    · exact trivial

theorem only_ensureAbsent {α : Type} {t : Api.ResourceType} {f : Json.Format α} (ht : t ≠ .pod) :
    (ensureAbsent t f ns name).Only Quiet := by
  rw [ensureAbsent, Api.delete]
  refine Program.Only.bind ?_ fun r => ?_
  · exact (Api.only_sendNamed (quiet_request ht rfl rfl)).bind fun _ => trivial
  · cases r <;> exact trivial

/-- Nothing that is removed has its pods listed. -/
theorem only_remove : (remove s ns).Only Quiet := by
  rw [remove]
  split
  · refine Program.Only.via (fun step => ?_) _
    cases step with
    | service => exact only_ensureAbsent (by decide)
    | claim => exact only_ensureAbsent (by decide)
    | finalizer => exact only_unmark
  · exact trivial

/-! ## What comes to the status -/

def podsRequest (ns name : String) : Api.Request :=
  { verb := .list, resource := .pod, ns := some ns
    query := [("labelSelector",
      selectorText (Manifest.selector name Manifest.singleSetup Manifest.singleSetup))] }

theorem counted_of_readReady {count : Int32}
    (h : (readReady ns name).run.Yields log (.ok count)) :
    (Api.getRequest .statefulSet ns name).sendable = true ∧ ∃ reply,
      log = [Api.requested (Api.getRequest .statefulSet ns name) reply] ∧
        readyCount reply = count := by
  obtain ⟨reply, hmem, hcount⟩ := readyCount_of_readReady h
  cases follows_readReady log _ h with
  | went hsend _ hrest =>
    cases hrest
    rw [← List.mem_singleton.mp hmem]
    exact ⟨hsend, reply, rfl, hcount⟩

theorem listed_of_yields {r : Except Api.Error (List Api.PodState)}
    (h : (Api.list .pod Api.podFormat ns
      (selectorText (Manifest.selector name Manifest.singleSetup Manifest.singleSetup))).Yields
        log r) :
    log = [] ∧ (∃ e, r = .error e) ∨ ∃ reply, log = [Api.requested (podsRequest ns name) reply] ∧
      namesIn? (Api.requested (podsRequest ns name) reply) =
        r.toOption.map fun pods => pods.map fun pod => pod.metadata.displayName := by
  obtain ⟨first, last, sent, rfl, hsent, rfl, rfl⟩ := Program.yields_bind.mp h
  obtain ⟨asked, last, reply, rfl, hasked, rfl, rfl⟩ := Program.yields_bind.mp hsent
  rcases Api.asked_of_yields hasked with ⟨-, rfl, rfl⟩ | ⟨-, reply, rfl, rfl⟩
  · exact .inl ⟨rfl, _, rfl⟩
  · refine .inr ⟨reply, rfl, ?_⟩
    have hlisted : namesIn? (Api.requested (podsRequest ns name) reply) =
        (Api.decoded (Api.Listing.format Api.podFormat) reply.result).toOption.map fun listing =>
          listing.items.map fun pod => pod.metadata.displayName := rfl
    rw [hlisted]
    show _ = ((Api.decoded (Api.Listing.format Api.podFormat) reply.result).map
      (·.items)).toOption.map _
    cases Api.decoded (Api.Listing.format Api.podFormat) reply.result <;> rfl

/-- The pods are listed by one request, or not at all. -/
theorem listed_of_listPodNames {result : Except Error (List String)}
    (h : (listPodNames ns name).run.Yields log result) :
    log.filterMap namesIn? = [] ∧ (∃ e, result = .error e) ∨ ∃ reply nodes,
      log = [Api.requested (podsRequest ns name) reply] ∧
        namesIn? (Api.requested (podsRequest ns name) reply) = some nodes ∧
          result = .ok nodes := by
  rcases Program.yields_run_bind.mp h with
    ⟨e, he, rfl⟩ | ⟨first, last, pods, rfl, hpods, rfl, rfl⟩
  · obtain ⟨r, hr, hyields⟩ := yields_attempt.mp he
    cases r with
    | ok pods => exact absurd hr nofun
    | error failure =>
      rcases listed_of_yields hyields with ⟨rfl, -⟩ | ⟨reply, rfl, hnames⟩
      · exact .inl ⟨rfl, e, rfl⟩
      · exact .inl ⟨List.filterMap_eq_nil_iff.mpr (List.forall_mem_singleton.mpr hnames), e, rfl⟩
  · obtain ⟨r, hr, hyields⟩ := yields_attempt.mp hpods
    cases r with
    | error e => exact absurd hr nofun
    | ok found =>
      obtain rfl := Except.ok.inj hr
      rcases listed_of_yields hyields with ⟨-, e, he⟩ | ⟨reply, rfl, hnames⟩
      · exact absurd he nofun
      · exact .inr ⟨reply, _, rfl, hnames, rfl⟩

/-- How the log of a look falls apart that has the pods listed: they are counted just before,
and then the status is looked after. -/
inductive Surveyed (setting : Setting) (s : RedisSingle) : Api.Log → Prop
  | intro {ns : String} {before rest : Api.Log} {counted listed : Api.Reply} {nodes : List String}
    {result : Except Error Unit} :
    (∀ e ∈ before, Quiet e.query) →
    (Api.getRequest .statefulSet ns s.name).sendable = true →
    namesIn? (Api.requested (podsRequest ns s.name) listed) = some nodes →
    (refresh setting s ns (readyCount counted) nodes).run.Yields rest result →
    Surveyed setting s
      (before ++ Api.requested (Api.getRequest .statefulSet ns s.name) counted ::
        Api.requested (podsRequest ns s.name) listed :: rest)

theorem surveyed_of_maintain {result : Except Error Unit}
    (h : (maintain setting s ns).run.Yields log result) (hlisted : log.filterMap namesIn? ≠ []) :
    Surveyed setting s log := by
  have hcount : (readReady ns s.name).run.Only Quiet :=
    only_readReady (quiet_request (t := .statefulSet) (by decide) rfl rfl)
  rw [maintain_eq] at h
  rcases Program.yields_run_bind.mp h with ⟨e, he, -⟩ | ⟨before, log, _, rfl, hbefore, h⟩
  · exact absurd (filterMap_namesIn?_of_quiet (only_prepare.forall_of_yields he)) hlisted
  have hquiet := only_prepare.forall_of_yields hbefore
  rw [List.filterMap_append, filterMap_namesIn?_of_quiet hquiet, List.nil_append] at hlisted
  rcases Program.yields_run_bind.mp h with ⟨e, he, -⟩ | ⟨counting, log, ready, rfl, hready, h⟩
  · exact absurd (filterMap_namesIn?_of_quiet (hcount.forall_of_yields he)) hlisted
  rw [List.filterMap_append, filterMap_namesIn?_of_quiet (hcount.forall_of_yields hready),
    List.nil_append] at hlisted
  obtain ⟨hsend, counted, rfl, rfl⟩ := counted_of_readReady hready
  rcases Program.yields_run_bind.mp h with ⟨e, he, -⟩ | ⟨listing, rest, nodes, rfl, hnodes, hrest⟩
  · rcases listed_of_listPodNames he with ⟨hnone, -⟩ | ⟨_, _, _, _, hok⟩
    · exact absurd hnone hlisted
    · exact absurd hok nofun
  · rcases listed_of_listPodNames hnodes with ⟨-, e, he⟩ | ⟨listed, nodes, rfl, hnames, hok⟩
    · exact absurd he nofun
    · obtain rfl := Except.ok.inj hok
      exact .intro hquiet hsend hnames hrest

theorem surveyed_of_yields {tick : Tick} (h : (single setting s).Yields log tick)
    (hlisted : log.filterMap namesIn? ≠ []) : Surveyed setting s log := by
  rw [single] at h
  split at h
  · obtain ⟨rfl, -⟩ := h
    exact absurd rfl hlisted
  · split at h
    · obtain ⟨first, last, removed, rfl, hremoved, hlast⟩ := Program.yields_bind.mp h
      have hnone := filterMap_namesIn?_of_quiet (only_remove.forall_of_yields hremoved)
      obtain rfl : last = [] := by cases removed <;> exact hlast.1
      rw [List.append_nil] at hlisted
      exact absurd hnone hlisted
    · obtain ⟨first, last, result, rfl, hmaintained, hlast⟩ := Program.yields_bind.mp h
      obtain rfl : last = [] := by cases result <;> exact hlast.1
      rw [List.append_nil] at hlisted ⊢
      exact surveyed_of_maintain hmaintained hlisted

theorem changes_of_refresh {ready : Int32} {nodes : List String} {result : Except Error Unit}
    (hsend : (Api.getRequest .statefulSet ns s.name).sendable = true)
    (h : (refresh setting s ns ready nodes).run.Yields log result) :
    log.filterMap countIn? = [] ∧ log.filterMap namesIn? = [] ∧
      log.filterMap changeIn? =
        if RedisSingle.statusDiffers s.previousStatus ready nodes s.metadata.generation then
          [.obj [("status", (s.statusAfter ready nodes setting.now.text).toJson)]]
        else [] := by
  rw [refresh] at h
  split at h
  · rename_i hdiffers
    let status := s.statusAfter ready nodes setting.now.text
    have hrequest : (Api.statusRequest .redisSingle ns s.name status.toJson).sendable = true := by
      rw [← hsend]
      exact Api.sendable_congr Api.isPlain_redisSingle Api.isPlain_statefulSet rfl rfl
    let write := Api.mergeStatus .redisSingle RedisSingle.format ns s.name status.toJson
    have hsent : ∀ {log : Api.Log} {r : Except Error RedisSingle},
        (attempt write).run.Yields log r →
        ∃ reply, log =
          [Api.requested (Api.statusRequest .redisSingle ns s.name status.toJson) reply] := by
      intro log r hr
      obtain ⟨decoded, -, hyields⟩ := yields_attempt.mp hr
      obtain ⟨first, last, sent, rfl, hsent, rfl, -⟩ := Program.yields_bind.mp hyields
      rcases Api.sent_of_yields hsent with ⟨hnot, -⟩ | ⟨-, reply, rfl, -⟩
      · exact absurd (hrequest.symm.trans hnot) (by decide)
      · exact ⟨reply, rfl⟩
    have hlog : ∃ reply, log =
        [Api.requested (Api.statusRequest .redisSingle ns s.name status.toJson) reply] := by
      rcases Program.yields_run_bind.mp h with ⟨e, he, -⟩ | ⟨first, last, a, rfl, ha, rfl, -⟩
      · exact hsent he
      · rw [List.append_nil]
        exact hsent ha
    obtain ⟨reply, rfl⟩ := hlog
    rw [if_pos hdiffers]
    exact ⟨rfl, rfl, rfl⟩
  · rename_i hsame
    obtain ⟨rfl, -⟩ := h
    rw [if_neg hsame]
    exact ⟨rfl, rfl, rfl⟩

/-- What a look tells that has the pods listed, and what it then writes. -/
theorem Surveyed.tells (h : Surveyed setting s log) :
    ∃ ready nodes, (log.filterMap countIn?).getLast? = some ready ∧
      log.filterMap namesIn? = [nodes] ∧
      log.filterMap changeIn? =
        if RedisSingle.statusDiffers s.previousStatus ready nodes s.metadata.generation then
          [.obj [("status", (s.statusAfter ready nodes setting.now.text).toJson)]]
        else [] := by
  cases h with
  | @intro ns before rest counted listed nodes result hquiet hsend hnames hrest =>
    obtain ⟨hcounts, hnone, hchanges⟩ := changes_of_refresh hsend hrest
    have hcounted : [Api.requested (Api.getRequest .statefulSet ns s.name) counted,
        Api.requested (podsRequest ns s.name) listed].filterMap countIn? = [readyCount counted] :=
      rfl
    have hlisted : [Api.requested (Api.getRequest .statefulSet ns s.name) counted,
        Api.requested (podsRequest ns s.name) listed].filterMap namesIn? = [nodes] := by
      rw [List.filterMap_cons_none rfl, List.filterMap_cons_some hnames, List.filterMap_nil]
    have hunchanged : [Api.requested (Api.getRequest .statefulSet ns s.name) counted,
        Api.requested (podsRequest ns s.name) listed].filterMap changeIn? = [] := rfl
    have hsplit : ∀ (first second : Exchange Api.interface),
        before ++ first :: second :: rest = before ++ ([first, second] ++ rest) := fun _ _ => rfl
    refine ⟨readyCount counted, nodes, ?_, ?_, ?_⟩
    · rw [hsplit, List.filterMap_append, List.filterMap_append, hcounted, hcounts, List.append_nil,
        List.getLast?_concat]
    · rw [hsplit, List.filterMap_append, List.filterMap_append, hlisted, hnone,
        filterMap_namesIn?_of_quiet hquiet]
      rfl
    · rw [hsplit, List.filterMap_append, List.filterMap_append, hunchanged, hchanges,
        filterMap_changeIn?_of_quiet hquiet]
      rfl

/-! ## Looks -/

/-- What a look has seen of an instance. -/
structure Sight where
  ready : Int32
  /-- The names of the pods, in the order in which they are listed. -/
  nodes : List String
  generation : Int64
deriving DecidableEq

namespace Sight

def isReady (sight : Sight) : Bool := 1 ≤ sight.ready

/-- The status that says just what was seen, where readiness has last changed at a time. -/
def status (sight : Sight) (since : String) : SingleStatus where
  readyReplicas := sight.ready
  nodes := sight.nodes
  observedGeneration := some sight.generation
  conditions :=
    [(RedisSingle.readyVerdict sight.ready).condition "Ready" since (some sight.generation)]

variable {old new : Sight} {since : String}

theorem readyVerdict_holds (ready : Int32) :
    (RedisSingle.readyVerdict ready).holds = decide (1 ≤ ready) := by
  rw [RedisSingle.readyVerdict]
  split
  · rename_i h
    exact (decide_eq_true h).symm
  · rename_i h
    exact (decide_eq_false h).symm

theorem statusDiffers_iff :
    RedisSingle.statusDiffers (old.status since) new.ready new.nodes (some new.generation) = true ↔
      old ≠ new := by
  obtain ⟨ready, nodes, generation⟩ := old
  obtain ⟨ready', nodes', generation'⟩ := new
  simp [RedisSingle.statusDiffers, status]
  grind

theorem statusAfter_of_none {s : RedisSingle} (hstatus : s.status = none)
    (hgeneration : s.metadata.generation = some new.generation) (now : String) :
    s.statusAfter new.ready new.nodes now = new.status now := by
  rw [RedisSingle.statusAfter, RedisSingle.previousStatus, hstatus, hgeneration]
  rfl

/-- The time of the last change is taken over with the readiness. -/
theorem statusAfter_of_some {s : RedisSingle} (hstatus : s.status = some (old.status since))
    (hgeneration : s.metadata.generation = some new.generation) (now : String) :
    s.statusAfter new.ready new.nodes now =
      new.status (if old.isReady = new.isReady then since else now) := by
  have hfollow : Conditions.follow
      ((RedisSingle.readyVerdict old.ready).condition "Ready" since (some old.generation))
      ((RedisSingle.readyVerdict new.ready).condition "Ready" now (some new.generation)) =
        (RedisSingle.readyVerdict new.ready).condition "Ready"
          (if old.isReady = new.isReady then since else now) (some new.generation) := by
    have hstatus : Condition.statusText (RedisSingle.readyVerdict old.ready).holds =
        Condition.statusText (RedisSingle.readyVerdict new.ready).holds ↔
          old.isReady = new.isReady := by
      rw [readyVerdict_holds, readyVerdict_holds, isReady, isReady]
      cases decide (1 ≤ old.ready) <;> cases decide (1 ≤ new.ready) <;> decide
    rw [Conditions.follow]
    simp only [Verdict.condition, hstatus]
    split <;> rfl
  rw [RedisSingle.statusAfter, RedisSingle.previousStatus, hstatus, hgeneration]
  show SingleStatus.mk _ _ _ [Conditions.follow _ _] = _
  rw [hfollow]
  rfl

/-! ### Merging a status -/

theorem toJson_status (sight : Sight) (since : String) :
    (sight.status since).toJson = .obj [
      ("conditions", .arr ((sight.status since).conditions.map Condition.toJson)),
      ("nodes", Json.strings sight.nodes),
      ("observedGeneration", Json.ofInt64 sight.generation),
      ("readyReplicas", Json.ofInt32 sight.ready)] := by
  simp only [SingleStatus.toJson, Json.object, List.foldr_cons, List.foldr_nil, status,
    Option.map_some]
  rw [Keyed.place, Keyed.place_of_lt (by decide), Keyed.place_of_lt (by decide),
    Keyed.place_of_lt (by decide)]

/-- A status names all its fields, so nothing of the one before it is left. -/
theorem mergePatch_status {found : Option Json}
    (h : found = none ∨ ∃ old since, found = some (status old since).toJson) (new : Sight)
    (since : String) :
    Json.mergePatch (found.getD .null) (new.status since).toJson = (new.status since).toJson := by
  rw [toJson_status new]
  rcases h with rfl | ⟨old, since', rfl⟩
  · rfl
  · rw [Option.getD_some, toJson_status old]
    rfl

end Sight

/-- One look at an instance that has its pods listed, so that its status is looked after. -/
structure SingleLook where
  setting : Setting
  /-- The members of the instance as the API keeps it. -/
  members : List (String × Json)
  single : RedisSingle
  generation : Int64
  log : Api.Log
  tick : Tick
  given : RedisSingle.format.decode (.obj members) = some single
  numbered : single.metadata.generation = some generation
  yields : (Reconcile.single setting single).Yields log tick
  listed : log.filterMap namesIn? ≠ []

namespace SingleLook

variable (look : SingleLook)

/-- What the last answers about the StatefulSet and the pods tell. -/
def sight : Sight where
  ready := (look.log.filterMap countIn?).getLast?.getD 0
  nodes := (look.log.filterMap namesIn?).getLast?.getD []
  generation := look.generation

/-- The changes to the status that a look asks for. -/
def changes : List Json := look.log.filterMap changeIn?

/-- The instance as the look finds it. -/
def found : Json := .obj look.members

/-- The instance with all changes merged into it. -/
def left : Json := look.changes.foldl Json.mergePatch look.found

theorem changes_eq :
    look.changes =
      if RedisSingle.statusDiffers look.single.previousStatus look.sight.ready look.sight.nodes
          (some look.sight.generation) then
        [.obj [("status", (look.single.statusAfter look.sight.ready look.sight.nodes
          look.setting.now.text).toJson)]]
      else [] := by
  obtain ⟨ready, nodes, hready, hnodes, hchanges⟩ :=
    (surveyed_of_yields look.yields look.listed).tells
  have hsight : look.sight = ⟨ready, nodes, look.generation⟩ := by
    rw [sight, hready, hnodes]
    rfl
  rw [hsight, changes, hchanges, look.numbered]

/-! ### What a look is given -/

theorem nullable_status :
    (⟨look.found.get?, false⟩ : Json.Record).nullable "status" SingleStatus.format.decode =
      some look.single.status := by
  obtain ⟨settled, hsettled, hstatus⟩ := Option.bind_eq_some_iff.mp look.given
  obtain ⟨named, hnamed, hspec⟩ := Option.bind_eq_some_iff.mp hsettled
  obtain ⟨metadata, -, rfl⟩ := Option.map_eq_some_iff.mp hnamed
  obtain ⟨spec, -, rfl⟩ := Option.map_eq_some_iff.mp hspec
  obtain ⟨status, hfound, hsingle⟩ := Option.map_eq_some_iff.mp hstatus
  rw [← hsingle]
  exact hfound

theorem single_status_of_none (h : look.found.get? "status" = none) :
    look.single.status = none := by
  have hnullable := look.nullable_status
  simp only [Json.Record.nullable, h, Bool.false_eq_true, if_false, Option.some.injEq] at hnullable
  exact hnullable.symm

theorem single_status_of_some {status : SingleStatus}
    (h : look.found.get? "status" = some status.toJson) : look.single.status = some status := by
  have hkept := SingleStatus.keeps 0 status
  have hnullable := look.nullable_status
  simp only [Json.Record.nullable, h] at hnullable
  rw [Json.Fields.Keeps.orNull_of_stands hkept.shape.stands hkept.decode] at hnullable
  exact (Option.some.inj hnullable).symm

/-! ### What a look leaves -/

/-- The instance with a new status merged into it. -/
theorem get?_mergePatch_found (status : SingleStatus) :
    (look.found.mergePatch (.obj [("status", status.toJson)])).get? "status" =
      some (((look.found.get? "status").getD .null).mergePatch status.toJson) :=
  Keyed.lookup_place_self "status" _ look.members

variable {look}

/-- A look over an instance without a status writes what it has seen. -/
theorem left_of_none (h : look.found.get? "status" = none) :
    look.changes ≠ [] ∧
      look.left.get? "status" = some (look.sight.status look.setting.now.text).toJson := by
  have hstatus := look.single_status_of_none h
  have hdiffers : RedisSingle.statusDiffers look.single.previousStatus look.sight.ready
      look.sight.nodes (some look.sight.generation) = true := by
    rw [RedisSingle.previousStatus, hstatus]
    simp [RedisSingle.statusDiffers]
  have hchanges := look.changes_eq
  rw [if_pos hdiffers, Sight.statusAfter_of_none hstatus look.numbered] at hchanges
  refine ⟨by rw [hchanges]; exact List.cons_ne_nil _ _, ?_⟩
  rw [left, hchanges, List.foldl_cons, List.foldl_nil, get?_mergePatch_found, h,
    Sight.mergePatch_status (.inl rfl)]

/-- A look over an instance with the status of what was seen before writes what it has seen, if
that is something else. -/
theorem left_of_some {old : Sight} {since : String}
    (h : look.found.get? "status" = some (old.status since).toJson) :
    (look.changes ≠ [] ↔ old ≠ look.sight) ∧
      look.left.get? "status" = some (look.sight.status
        (if old.isReady = look.sight.isReady then since else look.setting.now.text)).toJson := by
  have hstatus := look.single_status_of_some h
  have hdiffers : RedisSingle.statusDiffers look.single.previousStatus look.sight.ready
      look.sight.nodes (some look.sight.generation) = true ↔ old ≠ look.sight := by
    rw [RedisSingle.previousStatus, hstatus]
    exact Sight.statusDiffers_iff
  have hchanges := look.changes_eq
  by_cases hsame : old = look.sight
  · rw [if_neg (fun hd => hdiffers.mp hd hsame)] at hchanges
    refine ⟨iff_of_false (fun hne => hne hchanges) (fun hne => hne hsame), ?_⟩
    rw [left, hchanges, List.foldl_nil, h, if_pos (by rw [hsame]), hsame]
  · rw [if_pos (hdiffers.mpr hsame), Sight.statusAfter_of_some hstatus look.numbered] at hchanges
    refine ⟨iff_of_true (by rw [hchanges]; exact List.cons_ne_nil _ _) hsame, ?_⟩
    rw [left, hchanges, List.foldl_cons, List.foldl_nil, get?_mergePatch_found, h,
      Sight.mergePatch_status (.inr ⟨old, since, rfl⟩)]

end SingleLook

/-! ## Looks one after the other -/

/-- Whether looks find one after the other the status that the one before them left. -/
def InTurn : Option Json → List SingleLook → Prop
  | _, [] => True
  | status, look :: looks =>
    look.found.get? "status" = status ∧ InTurn (look.left.get? "status") looks

/-- Whether an instance has been ready, or not ready, since a look as the last one saw it. -/
def ReadySince (looks : List SingleLook) (last first : SingleLook) : Prop :=
  ∃ earlier later, looks = earlier ++ first :: later ∧
    (∀ look ∈ first :: later, look.sight.isReady = last.sight.isReady) ∧
    ∀ look ∈ earlier.getLast?, look.sight.isReady ≠ last.sight.isReady

variable {before : List SingleLook} {look last : SingleLook} {status : Option Json}

theorem inTurn_concat_concat :
    InTurn status (before ++ [last] ++ [look]) ↔
      InTurn status (before ++ [last]) ∧
        look.found.get? "status" = last.left.get? "status" := by
  induction before generalizing status with
  | nil => simp [InTurn]
  | cons first before ih => simp only [List.cons_append, InTurn, ih, and_assoc]

theorem readySince_self (h : ∀ last ∈ before.getLast?, last.sight.isReady ≠ look.sight.isReady) :
    ReadySince (before ++ [look]) look look :=
  ⟨before, [], rfl, List.forall_mem_singleton.mpr rfl, h⟩

theorem ReadySince.concat {first : SingleLook} (h : ReadySince (before ++ [last]) last first)
    (hsame : last.sight.isReady = look.sight.isReady) :
    ReadySince (before ++ [last] ++ [look]) look first := by
  obtain ⟨earlier, later, hsplit, hstretch, hearlier⟩ := h
  refine ⟨earlier, later ++ [look], by rw [hsplit, List.append_assoc]; rfl, ?_, ?_⟩
  · rw [← List.cons_append]
    refine List.forall_mem_append.mpr ⟨fun other hother => ?_, List.forall_mem_singleton.mpr rfl⟩
    exact (hstretch other hother).trans hsame
  · rw [← hsame]
    exact hearlier

/-- After each look the status that is kept is the one of what it has seen. -/
theorem left_of_inTurn (h : InTurn none (before ++ [look])) :
    ∃ first, ReadySince (before ++ [look]) look first ∧
      look.left.get? "status" = some (look.sight.status first.setting.now.text).toJson := by
  induction before using List.reverseRecOn generalizing look with
  | nil => exact ⟨look, readySince_self (by simp), (SingleLook.left_of_none h.1).2⟩
  | append_singleton before last ih =>
    obtain ⟨hbefore, hfound⟩ := inTurn_concat_concat.mp h
    obtain ⟨first, hsince, hlast⟩ := ih hbefore
    obtain ⟨-, hleft⟩ := SingleLook.left_of_some (hfound.trans hlast)
    by_cases hsame : last.sight.isReady = look.sight.isReady
    · rw [if_pos hsame] at hleft
      exact ⟨first, hsince.concat hsame, hleft⟩
    · rw [if_neg hsame] at hleft
      exact ⟨look, readySince_self (by simpa using hsame), hleft⟩

/-- An instance with a status as the API keeps it. -/
def cacheMembers (status : Option SingleStatus) : List (String × Json) :=
  [("metadata", .obj [
      ("finalizers", Json.strings [finalizer]),
      ("generation", .int 1),
      ("name", .str "cache"),
      ("namespace", .str "prod")]),
    ("spec", .obj [("kubernetesConfig", .obj [("image", .str "redis:7.2")])])] ++
    (status.map fun status => ("status", status.toJson)).toList

def cache (status : Option SingleStatus) : RedisSingle where
  metadata :=
    { name := some "cache", ns := some "prod", generation := some 1
      finalizers := some [finalizer] }
  spec := { container := { image := "redis:7.2" } }
  status := status

/-- An API that has one pod ready and lists pods in some order. -/
def listing (pods : List String) : Responder Api.interface Unit
  | .request r, u =>
    let text :=
      if r.verb = .list then
        Json.obj [("items", .arr (pods.map fun pod =>
          .obj [("metadata", .obj [("name", .str pod)])]))]
      else if r.verb = .get ∧ r.resource = .statefulSet then
        .obj [("status", .obj [("readyReplicas", .int 1), ("replicas", .int 1)])]
      else .obj []
    (.answered 200 (.text text.write), u)
  | .command _ _ _, u => (.lost "", u)
  | .store call, u =>
    match call with
    | .nodes _ => (.error (.failed ""), u)
    | .connect _ _ | .reset _ | .flush _ | .close _ => (.error (.failed ""), u)

/-- Whether the last count of a log is one and the names are given last. -/
def LastSeen (log : Api.Log) (pods : List String) : Prop :=
  (log.filterMap countIn?).getLast? = some 1 ∧ (log.filterMap namesIn?).getLast? = some pods

instance (log : Api.Log) (pods : List String) : Decidable (LastSeen log pods) :=
  inferInstanceAs (Decidable (_ ∧ _))

section LookAt

variable (now : String) (status : Option SingleStatus) (pods : List String) {tick : Tick}
  (given : RedisSingle.format.decode (.obj (cacheMembers status)) = some (cache status))
  (yields : (single ⟨"keeper", ⟨"redis-cli", 6379⟩, ⟨now, 0, now⟩⟩ (cache status)).Yields log tick)
  (seen : LastSeen log pods)

/-- A look at the instance with a status. -/
def lookAt : SingleLook where
  setting := ⟨"keeper", ⟨"redis-cli", 6379⟩, ⟨now, 0, now⟩⟩
  members := cacheMembers status
  single := cache status
  generation := 1
  log := log
  tick := tick
  given := given
  numbered := rfl
  yields := yields
  listed hnone := by
    have hlast := seen.2
    rw [hnone] at hlast
    exact absurd hlast nofun

theorem sight_lookAt : (lookAt now status pods given yields seen).sight = ⟨1, pods, 1⟩ := by
  -- A log that is a variable keeps the kernel from running the look here.
  have hlog : (lookAt now status pods given yields seen).log = log := rfl
  rw [SingleLook.sight, hlog, seen.1, seen.2]
  rfl

end LookAt

def inOrder : Sight := ⟨1, ["cache-0", "cache-1"], 1⟩

def turned : Sight := ⟨1, ["cache-1", "cache-0"], 1⟩

def firstLook : SingleLook :=
  lookAt "2024-01-01T00:00:00Z" none inOrder.nodes (by decide +kernel)
    (Program.yields_runLogged (listing inOrder.nodes) _ ()) (by decide +kernel)

def secondLook : SingleLook :=
  lookAt "2024-01-02T00:00:00Z" (some (inOrder.status "2024-01-01T00:00:00Z")) turned.nodes
    (by decide +kernel) (Program.yields_runLogged (listing turned.nodes) _ ()) (by decide +kernel)

def thirdLook : SingleLook :=
  lookAt "2024-01-03T00:00:00Z" (some (turned.status "2024-01-01T00:00:00Z")) turned.nodes
    (by decide +kernel) (Program.yields_runLogged (listing turned.nodes) _ ()) (by decide +kernel)

@[simp] theorem sight_firstLook : firstLook.sight = inOrder :=
  sight_lookAt _ _ _ _ _ _

@[simp] theorem sight_secondLook : secondLook.sight = turned :=
  sight_lookAt _ _ _ _ _ _

@[simp] theorem sight_thirdLook : thirdLook.sight = turned :=
  sight_lookAt _ _ _ _ _ _

theorem inTurn_looks : InTurn none ([firstLook, secondLook] ++ [thirdLook]) := by
  have hstatus : firstLook.found.get? "status" = none := rfl
  have hkept : secondLook.found.get? "status" =
      some (inOrder.status "2024-01-01T00:00:00Z").toJson := rfl
  have hfirst := (SingleLook.left_of_none hstatus).2
  have hsecond := (SingleLook.left_of_some hkept).2
  rw [sight_firstLook] at hfirst
  rw [sight_secondLook, if_pos (by decide)] at hsecond
  exact ⟨hstatus, hfirst.symm, hsecond.symm, trivial⟩

end Reconcile
end RedisKeeper
