import RedisKeeper.Api.Builtin
import RedisKeeper.Api.Event
import RedisKeeper.Api.Pod
import RedisKeeper.Proofs.Program.Yields
import RedisKeeper.Resource.Cluster
import RedisKeeper.Resource.Single

/-
What the operator's requests come to.

Each kind of request is sent at most once and its result is a function of the
reply (`sent_of_yields` and those that follow).  `Followed` is what is left of a
list of requests of which each is only sent if all before it worked.
-/
namespace RedisKeeper
namespace Api

abbrev Log := List (Exchange interface)

abbrev requested (r : Request) (reply : Reply) : Exchange interface := ⟨.request r, reply⟩

variable {α : Type} {t : ResourceType} {f : Json.Format α} {ns name : String} {log : Log}

/-! ## One request -/

/-- Whether a request about one object can be sent. -/
def Request.sendable (r : Request) : Bool := !r.name.isEmpty && isAddress r.path

theorem asked_of_yields {r : Request} {result : Except Error Reply}
    (h : (ask r).Yields log result) :
    (isAddress r.path = false ∧ log = [] ∧ result = .error .unaddressable) ∨
      (isAddress r.path = true ∧ ∃ reply, log = [requested r reply] ∧ result = .ok reply) := by
  rw [ask] at h
  split at h
  · rename_i haddress
    obtain ⟨reply, rest, rfl, rfl, rfl⟩ := h
    exact .inr ⟨haddress, reply, rfl, rfl⟩
  · rename_i haddress
    obtain ⟨rfl, rfl⟩ := h
    exact .inl ⟨Bool.eq_false_iff.mpr haddress, rfl, rfl⟩

theorem sent_of_yields {r : Request} {result : Except Error String}
    (h : (sendNamed r).Yields log result) :
    (r.sendable = false ∧ log = [] ∧ ∃ e, result = .error e ∧ ∀ refusal, e ≠ .refused refusal) ∨
      (r.sendable = true ∧ ∃ reply, log = [requested r reply] ∧ result = reply.result) := by
  rw [sendNamed] at h
  rw [Request.sendable]
  split at h
  · rename_i hname
    obtain ⟨rfl, rfl⟩ := h
    exact .inl ⟨by rw [hname, Bool.not_true, Bool.false_and], rfl, _, rfl, nofun⟩
  · rename_i hname
    rw [send, Program.yields_bind] at h
    obtain ⟨first, rest, sent, rfl, hsent, rfl, rfl⟩ := h
    rw [Bool.eq_false_iff.mpr hname, Bool.not_false, Bool.true_and, List.append_nil]
    rcases asked_of_yields hsent with ⟨haddress, rfl, rfl⟩ | ⟨haddress, reply, rfl, rfl⟩
    · exact .inl ⟨haddress, rfl, _, rfl, nofun⟩
    · exact .inr ⟨haddress, reply, rfl, rfl⟩

/-- Whether a text is that of an object of a kind.  Only the kinds that a cluster's
objects have are told apart. -/
def ResourceType.reads (t : ResourceType) (text : String) : Bool :=
  if t = .statefulSet then (statefulSetFormat.read text).isOk
  else if t = .service then (serviceFormat.read text).isOk
  else if t = .redisCluster then (RedisCluster.format.read text).isOk
  else true

/-- Whether a request was carried out and answered properly.  To hear that an
object does not exist is a proper answer to a request for it. -/
def worked : Exchange interface → Bool
  | ⟨.request r, reply⟩ =>
    match reply.result with
    | .ok text => r.resource.reads text
    | .error (.refused refusal) => r.verb = .get && refusal.reason = "NotFound"
    | .error _ => false
  | _ => true

def getRequest (t : ResourceType) (ns name : String) : Request :=
  { verb := .get, resource := t, ns := some ns, name }

def applyRequest (t : ResourceType) (ns name : String) (body : Json) : Request :=
  { verb := .apply, resource := t, ns := some ns, name
    query := [("fieldManager", managerName), ("force", "true")], body := some body }

def statusRequest (t : ResourceType) (ns name : String) (status : Json) : Request :=
  { verb := .merge, resource := t, ns := some ns, name, subresource := some "status"
    query := [("fieldManager", managerName)]
    body := some (.obj [("status", status)]) }

/-- What a reply says of an object that is looked up. -/
def Reply.object? (f : Json.Format α) (reply : Reply) : Option α :=
  (decoded f reply.result).toOption

/-- `f` is the format in which the objects of a kind are read. -/
def ResourceType.ReadBy (t : ResourceType) (f : Json.Format α) : Prop :=
  ∀ text, t.reads text = (f.read text).isOk

theorem readBy_statefulSet : ResourceType.statefulSet.ReadBy statefulSetFormat := fun _ => rfl

theorem readBy_service : ResourceType.service.ReadBy serviceFormat := fun _ => rfl

theorem readBy_redisCluster : ResourceType.redisCluster.ReadBy RedisCluster.format := fun _ => rfl

theorem worked_requested (hf : t.ReadBy f) {r : Request} (hr : r.resource = t) (reply : Reply) :
    worked (requested r reply) =
      match decoded f reply.result with
      | .ok _ => true
      | .error (.refused refusal) => r.verb = .get && refusal.reason = "NotFound"
      | .error _ => false := by
  rw [worked]
  cases reply.result with
  | error e => cases e <;> rfl
  | ok text =>
    dsimp only [decoded, Except.bind]
    rw [hr, hf text]
    cases f.read text <;> rfl

theorem got_of_yields {result : Except Error α} (h : (get t f ns name).Yields log result) :
    ((getRequest t ns name).sendable = false ∧ log = [] ∧
      ∃ e, result = .error e ∧ ∀ refusal, e ≠ .refused refusal) ∨
    ((getRequest t ns name).sendable = true ∧ ∃ reply,
      log = [requested (getRequest t ns name) reply] ∧ result = decoded f reply.result) := by
  rw [get, Program.yields_bind] at h
  obtain ⟨first, rest, sent, rfl, hsent, rfl, rfl⟩ := h
  rw [List.append_nil]
  rcases sent_of_yields hsent with ⟨hr, rfl, e, rfl, he⟩ | ⟨hr, reply, rfl, rfl⟩
  · exact .inl ⟨hr, rfl, e, rfl, he⟩
  · exact .inr ⟨hr, reply, rfl, rfl⟩

/-- A look-up works also where there is no object. -/
theorem found_of_yields (hf : t.ReadBy f) {result : Except Error (Option α)}
    (h : (get? t f ns name).Yields log result) :
    ((getRequest t ns name).sendable = false ∧ log = [] ∧ ∃ e, result = .error e) ∨
    ((getRequest t ns name).sendable = true ∧ ∃ reply,
      log = [requested (getRequest t ns name) reply] ∧
        worked (requested (getRequest t ns name) reply) = result.isOk ∧
          reply.object? f = result.toOption.join) := by
  rw [get?, Program.yields_bind] at h
  obtain ⟨first, rest, got, rfl, hgot, h⟩ := h
  rcases got_of_yields hgot with ⟨hr, rfl, e, rfl, he⟩ | ⟨hr, reply, rfl, rfl⟩
  · cases e with
    | refused refusal => exact absurd rfl (he refusal)
    | _ =>
      obtain ⟨rfl, rfl⟩ := h
      exact .inl ⟨hr, rfl, _, rfl⟩
  · refine .inr ⟨hr, reply, ?_⟩
    rw [worked_requested hf rfl, Reply.object?]
    generalize decoded f reply.result = got at h
    cases got with
    | ok a =>
      obtain ⟨rfl, rfl⟩ := h
      exact ⟨rfl, rfl, rfl⟩
    | error e =>
      cases e with
      | refused refusal =>
        dsimp only at h
        split at h
        · rename_i hreason
          obtain ⟨rfl, rfl⟩ := h
          exact ⟨rfl, by simp [getRequest, hreason, Except.isOk, Except.toBool], rfl⟩
        · rename_i hreason
          obtain ⟨rfl, rfl⟩ := h
          exact ⟨rfl, by simp [hreason, Except.isOk, Except.toBool], rfl⟩
      | _ =>
        obtain ⟨rfl, rfl⟩ := h
        exact ⟨rfl, rfl, rfl⟩

/-- A request that is no look-up works just when an object is in its answer. -/
theorem decoded_of_yields (hf : t.ReadBy f) {r : Request} (hr : r.resource = t)
    (hverb : r.verb ≠ .get) {result : Except Error α}
    (h : (do return decoded f (← sendNamed r) : Work (Except Error α)).Yields log result) :
    (r.sendable = false ∧ log = [] ∧ ∃ e, result = .error e) ∨
    (r.sendable = true ∧ ∃ reply, log = [requested r reply] ∧
      worked (requested r reply) = result.isOk) := by
  obtain ⟨first, rest, sent, rfl, hsent, rfl, rfl⟩ := Program.yields_bind.mp h
  rw [List.append_nil]
  rcases sent_of_yields hsent with ⟨hsend, rfl, e, rfl, he⟩ | ⟨hsend, reply, rfl, rfl⟩
  · exact .inl ⟨hsend, rfl, e, rfl⟩
  · refine .inr ⟨hsend, reply, rfl, ?_⟩
    rw [worked_requested hf hr]
    cases decoded f reply.result with
    | ok a => rfl
    | error e =>
      cases e with
      | refused refusal => simp [hverb, Except.isOk, Except.toBool]
      | _ => rfl

/-! ## Requests one after the other -/

/-- A run of requests in order that ends with the first that cannot be sent or
does not work.  The last argument tells whether all of them worked. -/
inductive Followed : List Request → Log → Bool → Prop
  | all : Followed [] [] true
  | unsent {r : Request} {rest : List Request} : r.sendable = false → Followed (r :: rest) [] false
  | failed {r : Request} {rest : List Request} {reply : Reply} : r.sendable = true →
    worked (requested r reply) = false → Followed (r :: rest) [requested r reply] false
  | went {r : Request} {rest : List Request} {reply : Reply} {log : Log} {complete : Bool} :
    r.sendable = true → worked (requested r reply) = true → Followed rest log complete →
      Followed (r :: rest) (requested r reply :: log) complete

variable {requests more : List Request} {complete : Bool}

theorem Followed.append (h : Followed requests log true) {log' : Log}
    (h' : Followed more log' complete) : Followed (requests ++ more) (log ++ log') complete := by
  generalize hall : true = all at h
  induction h with
  | all => exact h'
  | unsent => exact absurd hall (by decide)
  | failed => exact absurd hall (by decide)
  | went hr hworked _ ih => exact .went hr hworked (ih hall)

theorem Followed.append_false (h : Followed requests log false) :
    Followed (requests ++ more) log false := by
  generalize hall : false = all at h
  induction h with
  | all => exact absurd hall (by decide)
  | unsent hr => exact .unsent hr
  | failed hr hworked => exact .failed hr hworked
  | went hr hworked _ ih => exact .went hr hworked (ih hall)

theorem Followed.exists_of_mem (h : Followed requests log complete) {e : Exchange interface}
    (he : e ∈ log) : ∃ r ∈ requests, ∃ reply, e = requested r reply := by
  induction h with
  | all => exact absurd he List.not_mem_nil
  | unsent => exact absurd he List.not_mem_nil
  | @failed r rest reply =>
    obtain rfl := List.mem_singleton.mp he
    exact ⟨r, List.mem_cons_self, reply, rfl⟩
  | @went r rest reply log complete _ _ _ ih =>
    rcases List.mem_cons.mp he with rfl | he
    · exact ⟨r, List.mem_cons_self, reply, rfl⟩
    · obtain ⟨r', hr', reply', rfl⟩ := ih he
      exact ⟨r', List.mem_cons_of_mem r hr', reply', rfl⟩

theorem Followed.length_le (h : Followed requests log complete) :
    log.length ≤ requests.length := by
  induction h with
  | all => exact Nat.le_refl 0
  | unsent => exact Nat.zero_le _
  | failed => exact Nat.succ_le_succ (Nat.zero_le _)
  | went _ _ _ ih => exact Nat.succ_le_succ ih

/-- Where all worked, all could be sent and each answer was proper. -/
theorem Followed.of_complete (h : Followed requests log true) :
    (∀ r ∈ requests, r.sendable = true) ∧ ∀ e ∈ log, worked e = true := by
  generalize hall : true = all at h
  induction h with
  | all => exact ⟨fun r hr => absurd hr List.not_mem_nil, fun e he => absurd he List.not_mem_nil⟩
  | unsent => exact absurd hall (by decide)
  | failed => exact absurd hall (by decide)
  | went hr hworked _ ih =>
    subst hall
    obtain ⟨hsend, hlog⟩ := ih rfl
    rw [List.forall_mem_cons, List.forall_mem_cons]
    exact ⟨⟨hr, hsend⟩, hworked, hlog⟩

/-- Where not all worked, one could not be sent or was not answered properly. -/
theorem Followed.of_incomplete (h : Followed requests log false) :
    (∃ r ∈ requests, r.sendable = false) ∨ ∃ e ∈ log, worked e = false := by
  generalize hall : false = all at h
  induction h with
  | all => exact absurd hall (by decide)
  | unsent hr => exact .inl ⟨_, List.mem_cons_self, hr⟩
  | failed _ hworked => exact .inr ⟨_, List.mem_cons_self, hworked⟩
  | went _ _ _ ih =>
    rcases ih hall with ⟨r, hr, hsend⟩ | ⟨e, he, hworked⟩
    · exact .inl ⟨r, List.mem_cons_of_mem _ hr, hsend⟩
    · exact .inr ⟨e, List.mem_cons_of_mem _ he, hworked⟩

end Api
end RedisKeeper
