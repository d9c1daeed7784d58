import RedisKeeper.Proofs.Reconcile.Guarding
import RedisKeeper.Proofs.Reconcile.Marking

/-
An instance over many looks, between and during which others act.

Looks follow one another, any of their requests may fail, any look may end early, and
the user may ask for the instance's deletion at any moment.  What a look keeps up
(`Scene.Upheld`) is kept up by each such move, so the Services are guarded in every
reachable scene (`services_guarded`).
-/
namespace RedisKeeper
namespace Reconcile

variable {ns name : String} {w w' : World}

/-- What is kept, and what is left of the look that is under way, if there is one. -/
structure Scene where
  world : World
  look : Option (Api.Work Tick)

/-- One look at a time starts from the instance as it is then kept.  Between any two of
its requests it may end, the user may ask for the deletion, and others may act. -/
inductive Scene.Moves (ns name : String) : Scene → Scene → Prop
  | start {w : World} {o : Stored} {s : RedisSingle} (setting : Setting) :
    w.object = some o → o.Given ns name s →
      Moves ns name ⟨w, none⟩ ⟨w, some (single setting s)⟩
  | ask {w w' : World} {query : Api.Query} {next : query.Answer → Api.Work Tick}
    {answer : query.Answer} : Serves ns name w ⟨query, answer⟩ w' →
      Moves ns name ⟨w, some (.ask query next)⟩ ⟨w', some (next answer)⟩
  | stop {w : World} {look : Option (Api.Work Tick)} : Moves ns name ⟨w, look⟩ ⟨w, none⟩
  | delete {w : World} {look : Option (Api.Work Tick)} :
    Moves ns name ⟨w, look⟩ ⟨{ w with object := w.object.bind Stored.deleted }, look⟩
  | others {w w' : World} {look : Option (Api.Work Tick)} : World.Others name w w' →
    Moves ns name ⟨w, look⟩ ⟨w', look⟩

inductive Scene.Reachable (ns name : String) : Scene → Prop
  | initial {w : World} : (∀ service, World.Owned name service → service ∉ w.services) →
    Reachable ns name ⟨w, none⟩
  | step {scene scene' : Scene} : Reachable ns name scene → Moves ns name scene scene' →
    Reachable ns name scene'

/-- The Services are guarded, and the look that is under way keeps them so. -/
def Scene.Upheld (ns name : String) (scene : Scene) : Prop :=
  scene.world.Guarded name ∧
    ∀ look, scene.look = some look → Safe ns name (fun _ _ => True) look scene.world

variable {scene scene' : Scene}

theorem Scene.Upheld.others {look : Option (Api.Work Tick)} (h : Upheld ns name ⟨w, look⟩)
    (ho : World.Others name w w') : Upheld ns name ⟨w', look⟩ :=
  ⟨h.1.others ho, fun look hlook => (h.2 look hlook).others ho⟩

theorem Scene.Upheld.moves (h : Upheld ns name scene) (hmoves : Moves ns name scene scene') :
    Upheld ns name scene' := by
  obtain ⟨hguarded, hlook⟩ := h
  cases hmoves with
  | start setting ho hgiven =>
    refine ⟨hguarded, fun look hstart => ?_⟩
    obtain rfl := Option.some.inj hstart
    exact safe_single hgiven ho hguarded
  | ask hserves =>
    have hnext := (hlook _ rfl).2 _ (World.Others.refl name _) _ _ hserves
    refine ⟨hnext.guarded, fun look hstart => ?_⟩
    obtain rfl := Option.some.inj hstart
    exact hnext
  | stop => exact ⟨hguarded, nofun⟩
  | delete => exact Upheld.others ⟨hguarded, hlook⟩ (World.others_deleted name _)
  | others ho => exact Upheld.others ⟨hguarded, hlook⟩ ho

theorem Scene.Reachable.upheld (h : Reachable ns name scene) : Upheld ns name scene := by
  induction h with
  | initial hnone => exact ⟨fun service howned hmem => absurd hmem (hnone service howned), nofun⟩
  | step _ hmoves ih => exact ih.moves hmoves

/-- Wherever looks, failures and users lead to from where neither Service exists: if one
of the Services exists, the instance exists and is marked. -/
theorem services_guarded (h : scene.Reachable ns name) {service : String}
    (howned : World.Owned name service) (hmem : service ∈ scene.world.services) :
    ∃ o, scene.world.object = some o ∧ finalizer ∈ o.finalizers :=
  h.upheld.1 service howned hmem

/-- Where all answers are possible, what a whole look comes to is reachable. -/
theorem Scene.Reachable.run {respond : Responder Api.interface World}
    (hrespond : ∀ query w,
      Serves ns name w ⟨query, (respond query w).1⟩ (respond query w).2)
    {look : Api.Work Tick} (h : Reachable ns name ⟨w, some look⟩) :
    Reachable ns name ⟨(look.run respond w).2, some (.done (look.run respond w).1)⟩ := by
  induction look generalizing w with
  | done tick => exact h
  | ask query next ih => exact ih _ (h.step (.ask (hrespond query w)))

/-- A reply that tells the marks of an instance that has none or the operator's. -/
def markReply : Option Stored → Api.Reply
  | none => .lost ""
  | some o =>
    if o.finalizers = [] then holding "[]"
    else if o.finalizers = [finalizer] then holding "[\"redis.kubeops.dev/finalizer\"]"
    else .lost ""

/-- Whether a change replaces all marks by the operator's. -/
def isMarking : Option Json → Bool
  | some (.obj [(outer, .obj [(inner, .arr [.str mark])])]) =>
    outer = "metadata" && inner = "finalizers" && mark = finalizer
  | _ => false

/-- What a request about instances comes to.  Of the writes only the marking of the one with
a name is carried out. -/
def serveInstance (ns name : String) (r : Api.Request) (w : World) : Api.Reply × World :=
  if r.verb = .get ∨ r.subresource = some "status" then (markReply w.object, w)
  else if r.verb = .merge ∧ r.ns = some ns ∧ r.name = name ∧ r.subresource = none ∧
      isMarking r.body then
    match w.object with
    | some o =>
      let marked := o.withMarks [finalizer]
      (markReply marked, { w with object := marked })
    | none => (.lost "", w)
  else (.lost "", w)

/-- What a request about anything else comes to.  Deletions are lost. -/
def serveOther (ns : String) (r : Api.Request) (w : World) : Api.Reply × World :=
  let reply : Api.Reply := .answered 200 (.text "\x7b\"items\":[]\x7d")
  if r.verb = .delete then (.lost "", w)
  else if r.ns = some ns ∧ r.subresource = none ∧ r.resource = .service ∧ r.verb = .apply then
    (reply, { w with services := r.name :: w.services })
  else (reply, w)

/-- An API that lets an instance be marked and Services be applied. -/
def serving (ns name : String) : Responder Api.interface World
  | .request r, w =>
    if r.resource = .redisSingle then serveInstance ns name r w else serveOther ns r w
  | .command _ _ _, w => (.lost "", w)
  | .store call, w =>
    match call with
    | .nodes _ => (.error (.failed ""), w)
    | .connect _ _ | .reset _ | .flush _ | .close _ => (.error (.failed ""), w)

theorem eq_of_isMarking {body : Option Json} (h : isMarking body = true) :
    body = some (finalizerChange [finalizer]) := by
  unfold isMarking at h
  split at h
  · rename_i outer inner mark
    obtain ⟨⟨rfl, rfl⟩, rfl⟩ : (outer = "metadata" ∧ inner = "finalizers") ∧ mark = finalizer := by
      simpa using h
    rfl
  · exact absurd h Bool.false_ne_true

theorem truthful_markReply (r : Api.Request) :
    Truthful ns name w (Api.requested r (markReply w.object)) := by
  intro reply single he hsingle
  cases he
  cases hobject : w.object with
  | none =>
    rw [hobject] at hsingle
    exact absurd hsingle nofun
  | some o =>
    refine ⟨o, rfl, ?_⟩
    rw [hobject, markReply] at hsingle
    split at hsingle
    · rename_i hnone
      obtain ⟨told, htold, hmarks⟩ := holding_none
      rw [htold] at hsingle
      rw [← Except.ok.inj hsingle, hmarks, hnone]
    · split at hsingle
      · rename_i hmark
        obtain ⟨told, htold, hmarks⟩ := holding_finalizer
        rw [htold] at hsingle
        rw [← Except.ok.inj hsingle, hmarks, hmark]
      · exact absurd hsingle nofun

/-- Only a reply about the instance could be untruthful. -/
theorem truthful_of_other {e : Exchange Api.interface}
    (h : ∀ r, e.query = .request r → r.resource ≠ .redisSingle) : Truthful ns name w e :=
  fun _ _ he => absurd rfl (h _ (congrArg Exchange.query he))

theorem serves_of_lost (ns name : String) (w : World) (r : Api.Request) (text : String) :
    Serves ns name w (Api.requested r (.lost text)) w := by
  by_cases hharmless : Harmless (.request r)
  · refine .harmless hharmless fun reply single he hsingle => ?_
    cases he
    exact absurd hsingle nofun
  · by_cases hknown : Known ns name r
    · exact .failed hknown rfl fun _ habsent => absurd habsent Bool.false_ne_true
    · exact .strange hharmless hknown

/-- Where no instance is concerned, only Services are known to be applied or deleted. -/
theorem service_of_known {r : Api.Request} (h : Known ns name r) (hr : r.resource ≠ .redisSingle) :
    r.ns = some ns ∧ r.subresource = none ∧ r.resource = .service ∧
      (r.verb = .apply ∨ r.verb = .delete) := by
  obtain ⟨hns, hsubresource, ⟨hresource, -⟩ | hservice⟩ := h
  · exact absurd hresource hr
  · exact ⟨hns, hsubresource, hservice⟩

theorem serves_serveInstance (name : String) (w : World) {r : Api.Request}
    (hr : r.resource = .redisSingle) :
    Serves ns name w (Api.requested r (serveInstance ns name r w).1)
      (serveInstance ns name r w).2 := by
  rw [serveInstance]
  split
  · rename_i hread
    refine .harmless ?_ (truthful_markReply r)
    exact hread.elim harmless_of_get fun hstatus => .inr (.inl hstatus)
  split
  · rename_i hmarking
    obtain ⟨hverb, hns, hname, hsubresource, hbody⟩ := hmarking
    have hbody := eq_of_isMarking hbody
    split
    · rename_i o ho
      exact .done ⟨hns, hsubresource, .inl ⟨hr, hverb, hname, _, hbody⟩⟩
        (.replaced _ hr hbody ho)
    · exact serves_of_lost ns name w r ""
  · exact serves_of_lost ns name w r ""

theorem serves_serveOther (name : String) (w : World) {r : Api.Request}
    (hr : r.resource ≠ .redisSingle) :
    Serves ns name w (Api.requested r (serveOther ns r w).1) (serveOther ns r w).2 := by
  rw [serveOther]
  split
  · exact serves_of_lost ns name w r ""
  rename_i hdelete
  split
  · rename_i happly
    obtain ⟨hns, hsubresource, hresource, hverb⟩ := happly
    exact .done ⟨hns, hsubresource, .inr ⟨hresource, .inl hverb⟩⟩ (.applied hresource hverb)
  · rename_i hnot
    by_cases hharmless : Harmless (.request r)
    · refine .harmless hharmless (truthful_of_other fun r' hr' => ?_)
      rwa [← Api.Query.request.inj hr']
    · refine .strange hharmless fun hknown => ?_
      obtain ⟨hns, hsubresource, hresource, hverb⟩ := service_of_known hknown hr
      exact hverb.elim (fun hverb => hnot ⟨hns, hsubresource, hresource, hverb⟩) hdelete

theorem serves_serving (ns name : String) (query : Api.Query) (w : World) :
    Serves ns name w ⟨query, (serving ns name query w).1⟩ (serving ns name query w).2 := by
  cases query with
  | command pod container argv => exact .harmless trivial (truthful_of_other nofun)
  | store call =>
    have hkeep : (serving ns name (.store call) w).2 = w := by cases call <;> rfl
    rw [hkeep]
    exact .harmless trivial (truthful_of_other nofun)
  | request r =>
    rw [serving]
    split
    · rename_i hr
      exact serves_serveInstance name w hr
    · rename_i hr
      exact serves_serveOther name w hr

def cacheInstance : RedisSingle :=
  { metadata := { name := some "cache", ns := some "prod" } }

def cacheLook : Api.Work Tick :=
  single ⟨"operator", ⟨"redis-cli", 6379⟩, default⟩ cacheInstance

/-- A look at an instance without marks and Services marks it and makes both Services, and so
they are guarded. -/
theorem cache_services_guarded :
    let kept : World := ⟨some ⟨[finalizer], false⟩, ["cache", "cache-headless"]⟩
    (cacheLook.run (serving "prod" "cache") ⟨some ⟨[], false⟩, []⟩).2 = kept ∧
      Scene.Reachable "prod" "cache" ⟨kept, none⟩ ∧
      (∀ service, World.Owned "cache" service → service ∈ kept.services) ∧
      ∃ o, kept.object = some o ∧ finalizer ∈ o.finalizers := by
  intro kept
  have hkept : (cacheLook.run (serving "prod" "cache") ⟨some ⟨[], false⟩, []⟩).2 = kept := by
    decide +kernel
  have hstart : Scene.Reachable "prod" "cache" ⟨⟨some ⟨[], false⟩, []⟩, some cacheLook⟩ :=
    .step (.initial fun _ _ => List.not_mem_nil) (.start _ rfl ⟨rfl, rfl, rfl, rfl⟩)
  have hend : Scene.Reachable "prod" "cache" ⟨kept, none⟩ := by
    rw [← hkept]
    exact (hstart.run (serves_serving "prod" "cache")).step .stop
  have hall : ∀ service, World.Owned "cache" service → service ∈ kept.services := by
    rintro service (rfl | rfl) <;> decide
  exact ⟨hkept, hend, hall, services_guarded hend (.inl rfl) (hall "cache" (.inl rfl))⟩

end Reconcile
end RedisKeeper
