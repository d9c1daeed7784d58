import RedisKeeper.Proofs.Api.Concern
import RedisKeeper.Reconcile.Cluster

/-
The requests by which objects are provided and looked up.

`Follows` says of work that may fail that each of its runs is a run of a list of
requests, and that it succeeds just when all of them worked.  Work one after the
other follows the lists one after the other (`Follows.bind`).
-/
namespace RedisKeeper
namespace Reconcile

variable {α β : Type} {t : Api.ResourceType} {f : Json.Format α} {ns name : String}
  {log : Api.Log}

theorem yields_attempt {work : Api.Work (Except Api.Error α)} {result : Except Error α} :
    (attempt work).run.Yields log result ↔
      ∃ r, result = r.mapError .api ∧ work.Yields log r := by
  rw [show (attempt work).run = (fun r => r.mapError .api) <$> work from rfl,
    Program.yields_map]

/-- Whether work is a run of a list of requests and succeeds just when all worked. -/
def Follows (p : Act α) (requests : List Api.Request) : Prop :=
  ∀ log result, p.run.Yields log result → Api.Followed requests log result.isOk

theorem Follows.pure (a : α) : Follows (pure a : Act α) [] := by
  rintro log result ⟨rfl, rfl⟩
  exact .all

theorem Follows.bind {p : Act α} {g : α → Act β} {requests more : List Api.Request}
    (hp : Follows p requests) (hg : ∀ a, Follows (g a) more) :
    Follows (p >>= g) (requests ++ more) := by
  intro log result h
  rcases Program.yields_run_bind.mp h with ⟨e, he, rfl⟩ | ⟨first, second, a, rfl, ha, hrest⟩
  · exact (hp log _ he).append_false
  · exact (hp first _ ha).append (hg a second result hrest)

theorem Follows.map {p : Act α} {g : α → β} {requests : List Api.Request}
    (hp : Follows p requests) : Follows (p >>= fun a => Pure.pure (g a)) requests := by
  have h := hp.bind fun a => Follows.pure (g a)
  rwa [List.append_nil] at h

theorem follows_get? (hf : t.ReadBy f) :
    Follows (attempt (Api.get? t f ns name)) [Api.getRequest t ns name] := by
  intro log result h
  obtain ⟨r, rfl, hr⟩ := yields_attempt.mp h
  rcases Api.found_of_yields hf hr with ⟨hsend, rfl, e, rfl⟩ | ⟨hsend, reply, rfl, hworked, -⟩
  · exact .unsent hsend
  · cases r with
    | error e => exact .failed hsend hworked
    | ok a => exact .went hsend hworked .all

/-- What a look-up found is what its reply says. -/
theorem found_of_attempt (hf : t.ReadBy f) {found : Option α}
    (h : (attempt (Api.get? t f ns name)).run.Yields log (.ok found)) :
    ∃ reply, Api.requested (Api.getRequest t ns name) reply ∈ log ∧
      reply.object? f = found := by
  obtain ⟨r, hr, hget⟩ := yields_attempt.mp h
  cases r with
  | error e => exact absurd hr nofun
  | ok result =>
    obtain rfl := Except.ok.inj hr
    rcases Api.found_of_yields hf hget with ⟨-, -, e, he⟩ | ⟨-, reply, rfl, -, hobject⟩
    · exact absurd he nofun
    · exact ⟨reply, List.mem_cons_self, hobject⟩

/-- A request that is no look-up, with an object for an answer. -/
theorem follows_decoded (hf : t.ReadBy f) {r : Api.Request} (hr : r.resource = t)
    (hverb : r.verb ≠ .get) :
    Follows (attempt (do return Api.decoded f (← Api.sendNamed r))) [r] := by
  intro log result h
  obtain ⟨d, rfl, hd⟩ := yields_attempt.mp h
  rcases Api.decoded_of_yields hf hr hverb hd with
    ⟨hsend, rfl, e, rfl⟩ | ⟨hsend, reply, rfl, hworked⟩
  · exact .unsent hsend
  · cases d with
    | error e => exact .failed hsend hworked
    | ok a => exact .went hsend hworked .all

theorem follows_apply (hf : t.ReadBy f) (body : Json) :
    Follows (attempt (Api.apply t f ns name body)) [Api.applyRequest t ns name body] :=
  follows_decoded hf rfl nofun

theorem follows_mergeStatus (hf : t.ReadBy f) (status : Json) :
    Follows (attempt (Api.mergeStatus t f ns name status))
      [Api.statusRequest t ns name status] :=
  follows_decoded hf rfl nofun

/-! ## Providing objects -/

/-- An object is looked up before it is applied. -/
def provideRequests (t : Api.ResourceType) (ns name : String) (body : Json) : List Api.Request :=
  [Api.getRequest t ns name, Api.applyRequest t ns name body]

theorem provide_eq {metadata : Metadata} (hname : metadata.name = some name)
    (hns : metadata.ns = some ns) (body : Json) :
    provide t f metadata body = do
      let existing ← attempt (Api.get? t f ns name)
      let _ ← attempt (Api.apply t f ns name body)
      return existing.isNone := by
  rw [provide, hname, hns]

theorem follows_provide (hf : t.ReadBy f) {metadata : Metadata}
    (hname : metadata.name = some name) (hns : metadata.ns = some ns) (body : Json) :
    Follows (provide t f metadata body) (provideRequests t ns name body) := by
  rw [provide_eq hname hns]
  exact (follows_get? hf).bind fun _ => (follows_apply hf body).map

/-- What was provided is new just when the look-up found nothing. -/
theorem existing_of_provide (hf : t.ReadBy f) {metadata : Metadata}
    (hname : metadata.name = some name) (hns : metadata.ns = some ns) {body : Json}
    {created : Bool} (h : (provide t f metadata body).run.Yields log (.ok created)) :
    ∃ reply, Api.requested (Api.getRequest t ns name) reply ∈ log ∧
      (reply.object? f).isNone = created := by
  rw [provide_eq hname hns] at h
  obtain ⟨first, rest, existing, rfl, hfirst, h⟩ := Program.exists_of_yields_ok h
  obtain ⟨second, last, a, rfl, -, -, hcreated⟩ := Program.exists_of_yields_ok h
  obtain rfl := Except.ok.inj hcreated
  obtain ⟨reply, hmem, hobject⟩ := found_of_attempt hf hfirst
  exact ⟨reply, List.mem_append_left _ hmem, by rw [hobject]⟩

theorem follows_provideServices {services : List Manifest.Service}
    (h : ∀ s ∈ services, ∃ name, s.metadata.name = some name ∧ s.metadata.ns = some ns) :
    Follows (provideServices services)
      (services.flatMap fun s =>
        provideRequests .service ns s.metadata.displayName s.toJson) := by
  induction services with
  | nil => exact Follows.pure ()
  | cons s rest ih =>
    obtain ⟨⟨name, hname, hns⟩, hrest⟩ := List.forall_mem_cons.mp h
    have hdisplay : s.metadata.displayName = name := by rw [Metadata.displayName, hname]; rfl
    rw [List.flatMap_cons, hdisplay]
    exact (follows_provide Api.readBy_service hname hns s.toJson).bind fun _ => ih hrest

/-! ## Reading how they fare -/

/-- The number of ready pods that a reply tells of, zero if it tells of no set. -/
def readyCount (reply : Api.Reply) : Int32 :=
  ((reply.object? Api.statefulSetFormat).bind (·.readyReplicas)).getD 0

theorem follows_readReady :
    Follows (readReady ns name) [Api.getRequest .statefulSet ns name] :=
  (follows_get? Api.readBy_statefulSet).map

theorem readyCount_of_readReady {count : Int32}
    (h : (readReady ns name).run.Yields log (.ok count)) :
    ∃ reply, Api.requested (Api.getRequest .statefulSet ns name) reply ∈ log ∧
      readyCount reply = count := by
  obtain ⟨first, rest, state, rfl, hfirst, -, hcount⟩ := Program.exists_of_yields_ok h
  obtain rfl := Except.ok.inj hcount
  obtain ⟨reply, hmem, hobject⟩ := found_of_attempt Api.readBy_statefulSet hfirst
  exact ⟨reply, List.mem_append_left _ hmem, by rw [readyCount, hobject]⟩

/-! ## What is asked -/

section

variable {P : Api.Query → Prop}

theorem only_attempt {work : Api.Work (Except Api.Error α)} (h : work.Only P) :
    (attempt work).run.Only P :=
  h.map _

theorem only_provide {metadata : Metadata} {body : Json}
    (h : ∀ name ns, metadata.name = some name → metadata.ns = some ns →
      P (.request (Api.getRequest t ns name)) ∧ P (.request (Api.applyRequest t ns name body))) :
    (provide t f metadata body).run.Only P := by
  rw [provide]
  split
  · exact trivial
  · exact trivial
  · rename_i name ns hname hns
    obtain ⟨hget, happly⟩ := h name ns hname hns
    refine (only_attempt (Api.only_get? hget)).run_bind fun _ => ?_
    exact (only_attempt (Api.only_decoded happly)).run_bind fun _ => trivial

theorem only_provideServices {services : List Manifest.Service}
    (h : ∀ s ∈ services, ∀ name ns, s.metadata.name = some name → s.metadata.ns = some ns →
      P (.request (Api.getRequest .service ns name)) ∧
        P (.request (Api.applyRequest .service ns name s.toJson))) :
    (provideServices services).run.Only P := by
  induction services with
  | nil => exact trivial
  | cons s rest ih =>
    obtain ⟨hs, hrest⟩ := List.forall_mem_cons.mp h
    exact (only_provide hs).run_bind fun _ => ih hrest

theorem only_readReady (h : P (.request (Api.getRequest .statefulSet ns name))) :
    (readReady ns name).run.Only P :=
  (only_attempt (Api.only_get? h)).run_bind fun _ => trivial

end

end Reconcile
end RedisKeeper
