import RedisKeeper.Proofs.Manifest.Naming
import RedisKeeper.Proofs.Manifest.Selecting
import RedisKeeper.Proofs.Reconcile.Upkeep
import RedisKeeper.Sandbox.Server

/-
What is made for an instance, and what is removed and listed.

The plan by which an instance is removed has the names of its Services and the name of the
claim that its only pod gets, and the pods in its status are those that its StatefulSet
selects, though each of these names and labels is put together on its own
(`teardown_covers`).  A selector is sent as text, and the API reads the labels out of it
again unless one of them holds a comma (`carries_selectorText_iff`).
-/
namespace RedisKeeper

namespace Keyed

theorem lookup_map {κ α β : Type} [DecidableEq κ] (f : α → β) (key : κ) (entries : List (κ × α)) :
    (entries.map fun entry => (entry.1, f entry.2)).lookup key = (entries.lookup key).map f := by
  induction entries with
  | nil => rfl
  | cons entry rest ih =>
    by_cases h : entry.1 = key <;> simp [lookup_cons, h, ih]

end Keyed

/-! ## Claims -/

/-- The names of the claims that Kubernetes makes for a StatefulSet: each pod gets one from each
template. -/
def Manifest.StatefulSet.claimNames (s : Manifest.StatefulSet) : List String :=
  (List.range s.replicas.toInt.toNat).flatMap fun index =>
    (s.claims.getD []).map fun template =>
      claimName template.metadata.displayName s.metadata.displayName index

theorem RedisSingle.claimNames_statefulSet (s : RedisSingle) :
    s.statefulSet.claimNames =
      (s.spec.storage.map fun _ => Manifest.claimName s.name s.name 0).toList := by
  have hname : s.statefulSet.metadata.displayName = s.name := rfl
  have hone : List.range s.statefulSet.replicas.toInt.toNat = [0] := by
    have hreplicas : s.statefulSet.replicas = 1 := rfl
    rw [hreplicas]
    decide
  rw [Manifest.StatefulSet.claimNames, hone, hname]
  cases hstorage : s.spec.storage with
  | none => simp [statefulSet, Manifest.Blueprint.build, blueprint, hstorage]
  | some storage =>
    simp [statefulSet, Manifest.Blueprint.build, Manifest.Blueprint.claim, blueprint, hstorage,
      Metadata.displayName]

/-! ## Labels as text -/

namespace Reconcile

open Sandbox

theorem toList_selectorText (labels : StringMap) :
    (selectorText labels).toList = Text.join ',' (labels.entries.map fun entry =>
      entry.1.toList ++ '=' :: entry.2.toList) := by
  rw [selectorText]
  induction labels.entries with
  | nil => rfl
  | cons entry entries ih =>
    cases entries with
    | nil => simp [Text.join]
    | cons next rest =>
      rw [List.map_cons, List.map_cons] at ih ⊢
      rw [String.intercalate_cons_cons, String.toList_append, ih]
      simp [Text.join]

/-- The label of an object under a key. -/
def labelIn? (json : Json) (key : String) : Option String :=
  ((json.at? ["metadata", "labels"]).bind (·.get? key)).bind Json.asString

theorem labelIn?_eq {pod : Json} {labels : StringMap}
    (h : pod.at? ["metadata", "labels"] = some (Json.ofMap labels)) (key : String) :
    labelIn? pod key = labels.get? key := by
  have hget : (Json.ofMap labels).get? key = (labels.get? key).map Json.str :=
    Keyed.lookup_map Json.str key labels.entries
  rw [labelIn?, h, Option.bind_some, hget]
  cases labels.get? key <;> rfl

/-- Whether labels can be told from the text that asks for them. -/
def Separable (labels : StringMap) : Prop :=
  ∀ entry ∈ labels.entries,
    '=' ∉ entry.1.toList ∧ ',' ∉ entry.1.toList ∧ ',' ∉ entry.2.toList

theorem carries_selectorText_iff {labels : StringMap} (h : Separable labels) (json : Json) :
    carries (selectorText labels) json = true ↔
      ∀ entry ∈ labels.entries, labelIn? json entry.1 = some entry.2 := by
  rw [carries, toList_selectorText]
  by_cases hnone : labels.entries = []
  · simp [hnone, Text.join, Text.cut]
  have hcomma : ∀ part ∈ labels.entries.map fun entry => entry.1.toList ++ '=' :: entry.2.toList,
      ',' ∉ part := by
    intro part hpart
    obtain ⟨entry, hentry, rfl⟩ := List.mem_map.mp hpart
    obtain ⟨-, hkey, hvalue⟩ := h entry hentry
    simp [hkey, hvalue]
  rw [Text.cut_join (by simpa using hnone) hcomma, List.all_map, List.all_eq_true]
  refine forall_congr' fun entry => forall_congr' fun hentry => ?_
  obtain ⟨value, more, hcut⟩ := List.exists_cons_of_ne_nil (Text.cut_ne_nil '=' entry.2.toList)
  have hparts : Text.cut '=' (entry.1.toList ++ '=' :: entry.2.toList) =
      entry.1.toList :: value :: more := by
    rw [Text.cut_append, Text.cut_of_not_mem (h entry hentry).1, hcut, List.singleton_append]
  have hvalue : Text.join '=' (value :: more) = entry.2.toList := by
    rw [← hcut, Text.join_cut]
  simp only [Function.comp_apply, hparts, hvalue, String.ofList_toList, decide_eq_true_eq]
  exact Iff.rfl

/-! ## What an instance has -/

/-- The request for the pods that have all labels of a selector. -/
def podsWith (ns : String) (selector : StringMap) : Api.Request :=
  { verb := .list, resource := .pod, ns := some ns
    query := [("labelSelector", selectorText selector)] }

theorem selector_statefulSet (s : RedisSingle) :
    s.statefulSet.selector =
      Manifest.selector s.name Manifest.singleSetup Manifest.singleSetup := rfl

theorem only_listPodNames_podsWith (ns : String) (s : RedisSingle) :
    (listPodNames ns s.name).run.Only
      (· = Api.Query.request (podsWith ns s.statefulSet.selector)) := by
  have hsend : (Api.send (podsWith ns s.statefulSet.selector)).Only
      (· = Api.Query.request (podsWith ns s.statefulSet.selector)) := Api.only_send rfl
  refine Program.Only.run_bind (only_attempt ?_) fun _ => trivial
  exact hsend.bind fun _ => trivial

theorem separable_selector {s : RedisSingle} (h : ',' ∉ s.name.toList) :
    Separable s.statefulSet.selector := by
  have hstandalone : ',' ∉ Manifest.singleSetup.toList := by decide
  rw [Separable, selector_statefulSet, Manifest.entries_selector]
  simp [h, hstandalone]

/-- Removing an instance covers the Services that are made for it, all of them and no others, and
the claim that its pod gets, if it gets one.  Its status lists what the API tells of the pods
with just the labels by which its StatefulSet selects pods.  The API reads these labels out of
the text that is sent whenever no comma is in the name, as none is in a label. -/
theorem teardown_covers (s : RedisSingle) :
    ((Teardown.of s.name).services.map some).Perm (s.services.map (·.metadata.name)) ∧
    s.statefulSet.claimNames =
      (s.spec.storage.map fun _ => (Teardown.of s.name).claim).toList ∧
    (∀ ns log result, (listPodNames ns s.name).run.Yields log result →
      (∀ e ∈ log, e.query = .request (podsWith ns s.statefulSet.selector)) ∧
        ∀ nodes, result = .ok nodes → ∃ reply,
          log = [Api.requested (podsWith ns s.statefulSet.selector) reply] ∧
            namesIn? (Api.requested (podsWith ns s.statefulSet.selector) reply) = some nodes) ∧
    (',' ∉ s.name.toList → ∀ (pod : Json) (labels : StringMap),
      pod.at? ["metadata", "labels"] = some (Json.ofMap labels) →
        (carries (selectorText s.statefulSet.selector) pod = true ↔
          s.statefulSet.selector.Selects labels)) := by
  refine ⟨?_, ?_, fun ns log result h => ⟨?_, ?_⟩, fun hcomma pod labels hlabels => ?_⟩
  · exact List.Perm.swap _ _ []
  · rw [s.claimNames_statefulSet, teardown_claim]
  · exact (only_listPodNames_podsWith ns s).forall_of_yields h
  · rintro nodes rfl
    rcases listed_of_listPodNames h with ⟨-, e, he⟩ | ⟨reply, nodes', hlog, hnames, hok⟩
    · exact absurd he nofun
    · obtain rfl := Except.ok.inj hok
      exact ⟨reply, hlog, hnames⟩
  · rw [carries_selectorText_iff (separable_selector hcomma), StringMap.Selects]
    simp only [labelIn?_eq hlabels]

/-- An instance with storage. -/
def sessions : RedisSingle := .named "sessions" { storage := some {} }

/-- Its pod, as far as labels go. -/
def sessionsPod : Json :=
  .obj [("metadata", .obj [("labels", Json.ofMap sessions.statefulSet.podLabels)])]

/-- The only claim of the instance is removed with it, and its pod is listed. -/
theorem teardown_covers_sessions :
    sessions.statefulSet.claimNames = ["sessions-sessions-0"] ∧
      (∃ log reply, (listPodNames "prod" "sessions").run.Yields log (.ok ["sessions-0"]) ∧
        log = [Api.requested (podsWith "prod" sessions.statefulSet.selector) reply]) ∧
      ',' ∉ sessions.name.toList ∧
      sessionsPod.at? ["metadata", "labels"] = some (Json.ofMap sessions.statefulSet.podLabels) ∧
      carries (selectorText sessions.statefulSet.selector) sessionsPod = true := by
  obtain ⟨-, hclaims, hlisted, hselected⟩ := teardown_covers sessions
  have hcomma : ',' ∉ sessions.name.toList := by decide
  have hlabels : sessionsPod.at? ["metadata", "labels"] =
      some (Json.ofMap sessions.statefulSet.podLabels) := rfl
  have hyields := Program.yields_runLogged (listing ["sessions-0"])
    (listPodNames "prod" "sessions").run ()
  have hnodes : ((listPodNames "prod" "sessions").run.runLogged (listing ["sessions-0"]) ()).1 =
      .ok ["sessions-0"] := by decide +kernel
  rw [hnodes] at hyields
  obtain ⟨reply, hlog, -⟩ := (hlisted _ _ _ hyields).2 _ rfl
  exact ⟨hclaims, ⟨_, reply, hyields, hlog⟩, hcomma, hlabels,
    (hselected hcomma _ _ hlabels).mpr (by decide)⟩

end Reconcile
end RedisKeeper
