import RedisKeeper.Proofs.Api.Sending

/-
What the operator's questions are about.

Looking up pods, running commands in them and talking to their nodes is all about
nodes (`node_of_perform`), and an event is all that publishing one asks for
(`event_of_publish`).
-/
namespace RedisKeeper
namespace Api

/-- What a question is about. -/
inductive Concern where
  /-- A StatefulSet or a Service. -/
  | object
  | status
  /-- A pod, a command in it, or its Redis node. -/
  | node
  | event
  | other
deriving DecidableEq

def Query.concern : Query → Concern
  | .request r =>
    if r.subresource = some "status" then .status
    else if r.resource = .statefulSet ∨ r.resource = .service then .object
    else if r.resource = .pod then .node
    else if r.resource = .event then .event
    else .other
  | .command _ _ _ | .store _ => .node

def Query.applies : Query → Bool
  | .request r => r.verb = .apply
  | _ => false

/-! ## What each kind of work asks -/

section

variable {α : Type} {t : ResourceType} {f : Json.Format α} {ns name : String}
  {P : Query → Prop} {r : Request}

theorem only_send (h : P (.request r)) : (send r).Only P := by
  rw [send, ask]
  refine Program.Only.bind ?_ fun _ => trivial
  split
  · exact ⟨h, fun _ => trivial⟩
  · exact trivial

theorem only_sendNamed (h : P (.request r)) : (sendNamed r).Only P := by
  rw [sendNamed]
  split
  · exact trivial
  · exact only_send h

/-- A request for which an object is the answer. -/
theorem only_decoded (h : P (.request r)) :
    (do return decoded f (← sendNamed r) : Work (Except Error α)).Only P :=
  (only_sendNamed h).bind fun _ => trivial

theorem only_get (h : P (.request (getRequest t ns name))) : (get t f ns name).Only P :=
  only_decoded h

theorem only_get? (h : P (.request (getRequest t ns name))) : (get? t f ns name).Only P := by
  rw [get?]
  refine (only_get h).bind fun got => ?_
  cases got with
  | ok a => exact trivial
  | error e =>
    cases e with
    | refused refusal =>
      dsimp only
      split <;> exact trivial
    | _ => exact trivial

theorem only_getPod {pod : PodName} (h : P (.request (getRequest .pod pod.ns pod.name))) :
    (getPod pod).Only P := by
  rw [getPod]
  refine (only_get? h).bind fun state => ?_
  rcases state with e | state
  · exact trivial
  · cases state <;> exact trivial

end

theorem only_answer (query : Node.Query) :
    (answer query).Only fun q : Query => q.concern = .node := by
  have hpod : ∀ pod, (getPod pod).Only fun q : Query => q.concern = .node :=
    fun _ => only_getPod rfl
  cases query with
  | resolve pod =>
    rw [answer, resolve]
    refine (hpod pod).bind fun state => ?_
    cases state with
    | error e => exact trivial
    | ok state =>
      dsimp only
      split <;> exact trivial
  | execute pod argv =>
    rw [answer, execute]
    refine (hpod pod).bind fun state => ?_
    cases state with
    | error e => exact trivial
    | ok state =>
      dsimp only
      split
      · exact trivial
      · exact ⟨rfl, fun _ => trivial⟩
  | store call => exact ⟨rfl, fun _ => trivial⟩

variable {log : Log}

/-- All that a pass asks is about nodes. -/
theorem node_of_perform {α : Type} {work : Node.Work α} {a : α}
    (h : (perform work).Yields log a) : ∀ e ∈ log, e.query.concern = .node :=
  (Program.Only.via only_answer work).forall_of_yields h

theorem only_publish {P : Query → Prop}
    (hevent : ∀ r, r.resource = .event → r.subresource = none → P (.request r))
    (note : Event) (reporter : String) (o : Owner) (now : Instant) :
    (note.publish reporter o now).Only P :=
  (only_send (hevent _ rfl rfl)).bind fun _ => trivial

theorem event_of_publish {note : Event} {reporter : String} {o : Owner} {now : Instant}
    {u : Unit} (h : (note.publish reporter o now).Yields log u) :
    ∀ e ∈ log, e.query.concern = .event := by
  have hevent : ∀ r : Request, r.resource = .event → r.subresource = none →
      (Query.request r).concern = .event := by
    intro r hresource hsubresource
    rw [Query.concern, hsubresource, hresource]
    rfl
  have honly : (note.publish reporter o now).Only fun q : Query => q.concern = .event :=
    only_publish hevent note reporter o now
  exact honly.forall_of_yields h

end Api
end RedisKeeper
