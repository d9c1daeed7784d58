import RedisKeeper.Manifest.Service
import RedisKeeper.Proofs.Json.Keeping
import RedisKeeper.Proofs.Topology.Names

/-
Which pods the selectors of a Redis resource select.

The labels of a pod are those of the owner, and over them the ones by which the pods of its
StatefulSet are selected (`get?_labels`).  An owner may use the same keys, but not to any
effect.  So a selector selects the pods of a set just when name, set-up and role are the
same, which is to say that both sets are of one group of a cluster of one name, or of
instances of one name (`selectors_isolate`).
-/
namespace RedisKeeper

namespace StringMap

theorem get?_insertAll {entries : List (String × String)} (h : Keyed.Sorted entries)
    (m : StringMap) (key : String) :
    (m.insertAll entries).get? key = (entries.lookup key).or (m.get? key) := by
  induction entries generalizing m with
  | nil => rfl
  | cons entry rest ih =>
    obtain ⟨hfirst, hrest⟩ := List.pairwise_cons.mp h
    show ((m.insert entry.1 entry.2).insertAll rest).get? key = _
    by_cases hkey : entry.1 = key
    · -- No later entry has the key of the first.
      have hlater : key ∉ rest.map Prod.fst := by
        intro hmem
        obtain ⟨other, hother, rfl⟩ := List.mem_map.mp hmem
        exact String.lt_irrefl other.1 (hkey ▸ hfirst other hother)
      rw [get?_insertAll_of_not_mem hlater, ← hkey, get?_insert_self]
      simp [Keyed.lookup_cons]
    · rw [ih hrest, get?_insert_ne m (Ne.symm hkey)]
      simp [Keyed.lookup_cons, hkey]

theorem get?_union (m other : StringMap) (key : String) :
    (m.union other).get? key = (other.get? key).or (m.get? key) :=
  get?_insertAll other.sorted m key

/-- Whether labels are all that a selector asks for. -/
def Selects (selector labels : StringMap) : Prop :=
  ∀ entry ∈ selector.entries, labels.get? entry.1 = some entry.2

instance (selector labels : StringMap) : Decidable (selector.Selects labels) :=
  inferInstanceAs (Decidable (∀ entry ∈ selector.entries, _))

end StringMap

namespace Manifest

/-- The labels that select pods. -/
def selectorKeys : List String := ["app", "redis_setup_type", "role"]

variable {app setup role app' setup' role' : String}

theorem entries_selector :
    (selector app setup role).entries =
      [("app", app), ("redis_setup_type", setup), ("role", role)] := by
  have hsorted : Keyed.Sorted [("app", app), ("redis_setup_type", setup), ("role", role)] := by
    simp only [Keyed.Sorted, List.pairwise_cons, List.mem_cons, List.not_mem_nil, or_false,
      forall_eq_or_imp, forall_eq, false_implies, implies_true, List.Pairwise.nil, and_true]
    decide
  exact congrArg StringMap.entries (StringMap.ofList_entries ⟨_, hsorted⟩)

theorem get?_selector_of_not_mem {key : String} (h : key ∉ selectorKeys) :
    (selector app setup role).get? key = none :=
  StringMap.get?_insertAll_of_not_mem h .empty

/-- The owner has no say in the labels that select pods. -/
theorem get?_labels (owner : StringMap) (key : String) :
    (labels app setup role owner).get? key =
      ((selector app setup role).get? key).or (owner.get? key) :=
  StringMap.get?_union owner (selector app setup role) key

/-- A selector selects by the labels that it would give itself. -/
theorem selects_labels_iff (owner : StringMap) :
    (selector app setup role).Selects (labels app' setup' role' owner) ↔
      app = app' ∧ setup = setup' ∧ role = role' := by
  have hlabel : ∀ key value, (selector app' setup' role').get? key = some value →
      (labels app' setup' role' owner).get? key = some value := by
    intro key value h
    rw [get?_labels, h, Option.some_or]
  have happ := hlabel "app" app' (by simp [StringMap.get?, entries_selector, Keyed.lookup_cons])
  have hsetup := hlabel "redis_setup_type" setup'
    (by simp [StringMap.get?, entries_selector, Keyed.lookup_cons])
  have hrole := hlabel "role" role' (by simp [StringMap.get?, entries_selector, Keyed.lookup_cons])
  simp [StringMap.Selects, entries_selector, happ, hsetup, hrole, eq_comm]

end Manifest

/-! ## Resources and their pods -/

/-- What has a StatefulSet and two Services of its own. -/
inductive Workload where
  | group (c : RedisCluster) (role : Role)
  | single (s : RedisSingle)

namespace Workload

open Manifest

def owner : Workload → Owner
  | group c _ => c.owner
  | single s => s.owner

def blueprint : Workload → Blueprint
  | group c role => c.blueprint role
  | single s => s.blueprint

def statefulSet : Workload → StatefulSet
  | group c role => c.statefulSet role
  | single s => s.statefulSet

def services : Workload → List Service
  | group c role => c.services role
  | single s => s.services

/-- The selectors of the StatefulSet and of both Services. -/
def selectors (w : Workload) : List StringMap :=
  w.statefulSet.selector :: w.services.map (·.selector)

/-- The name of the resource, and the group if there are groups. -/
def identity : Workload → String × Option Role
  | group c role => (c.name, some role)
  | single s => (s.name, none)

theorem statefulSet_eq (w : Workload) : w.statefulSet = w.blueprint.build w.owner := by
  cases w <;> rfl

theorem services_eq (w : Workload) :
    w.services = ServicePurpose.all.map
      (Service.build w.owner w.blueprint.name w.blueprint.setup w.blueprint.role) := by
  cases w <;> rfl

theorem eq_of_mem_selectors {w : Workload} {s : StringMap} (h : s ∈ w.selectors) :
    s = selector w.blueprint.name w.blueprint.setup w.blueprint.role := by
  rw [selectors, statefulSet_eq, services_eq] at h
  rcases List.mem_cons.mp h with h | h
  · exact h
  · obtain ⟨service, hservice, rfl⟩ := List.mem_map.mp h
    obtain ⟨purpose, -, rfl⟩ := List.mem_map.mp hservice
    rfl

theorem podLabels_eq (w : Workload) :
    w.statefulSet.podLabels =
      labels w.blueprint.name w.blueprint.setup w.blueprint.role w.owner.metadata.labelMap := by
  rw [statefulSet_eq]
  rfl

/-- Name, set-up and role tell what a resource is called, and which group of it is meant. -/
theorem same_iff (a b : Workload) :
    a.blueprint.name = b.blueprint.name ∧ a.blueprint.setup = b.blueprint.setup ∧
      a.blueprint.role = b.blueprint.role ↔ a.identity = b.identity := by
  have hsetup : clusterSetup ≠ singleSetup := by decide
  cases a with
  | group c role =>
    cases b with
    | group d other =>
      simp [blueprint, RedisCluster.blueprint, identity, roleObjectName_inj, Role.name_inj]
    | single s => simp [blueprint, RedisCluster.blueprint, RedisSingle.blueprint, identity, hsetup]
  | single s =>
    cases b with
    | group d other =>
      simp [blueprint, RedisCluster.blueprint, RedisSingle.blueprint, identity, hsetup.symm]
    | single t => simp [blueprint, RedisSingle.blueprint, identity]

theorem kind_eq_of_identity {a b : Workload} (h : a.identity = b.identity) :
    a.owner.kind = b.owner.kind := by
  cases a with
  | group c role =>
    cases b with
    | group d other => rfl
    | single s => exact absurd (congrArg Prod.snd h) nofun
  | single s =>
    cases b with
    | group d other => exact absurd (congrArg Prod.snd h) nofun
    | single t => rfl

/-- There are two Services, one for each purpose, named after the StatefulSet. -/
theorem services_named (w : Workload) :
    ∃ base, w.statefulSet.metadata.name = some base ∧
      w.services.map (fun s => (s.kind, s.metadata.name)) =
        [(.headless, some (base ++ "-headless")), (.client, some base)] := by
  rw [statefulSet_eq, services_eq]
  exact ⟨w.blueprint.name, rfl, rfl⟩

/-- The selectors of a StatefulSet and of its two Services select the pods of a StatefulSet just
when both have one name, set-up and role.  So they select their own pods, and no pods of another
kind of resource whatever the names are.  The owner's labels under other keys reach the pods as
they are, and no selector. -/
theorem selectors_isolate (a b : Workload) :
    (∃ base, a.statefulSet.metadata.name = some base ∧
      a.services.map (fun s => (s.kind, s.metadata.name)) =
        [(.headless, some (base ++ "-headless")), (.client, some base)]) ∧
    (∀ s ∈ a.selectors, s.Selects b.statefulSet.podLabels ↔
      a.statefulSet.metadata.name = b.statefulSet.metadata.name ∧
        a.blueprint.setup = b.blueprint.setup ∧ a.blueprint.role = b.blueprint.role) ∧
    (∀ s ∈ a.selectors, s.Selects b.statefulSet.podLabels ↔ a.identity = b.identity) ∧
    (∀ s ∈ a.selectors, s.Selects a.statefulSet.podLabels) ∧
    (a.owner.kind ≠ b.owner.kind → ∀ s ∈ a.selectors, ¬ s.Selects b.statefulSet.podLabels) ∧
    ∀ key ∉ selectorKeys,
      a.statefulSet.podLabels.get? key = a.owner.metadata.labelMap.get? key ∧
        ∀ s ∈ a.selectors, s.get? key = none := by
  have hselects : ∀ w : Workload, ∀ s ∈ a.selectors, s.Selects w.statefulSet.podLabels ↔
      a.identity = w.identity := by
    intro w s hs
    rw [eq_of_mem_selectors hs, podLabels_eq, selects_labels_iff, same_iff]
  refine ⟨a.services_named, fun s hs => ?_, hselects b, fun s hs => (hselects a s hs).mpr rfl,
    ?_, ?_⟩
  · have hname : a.statefulSet.metadata.name = b.statefulSet.metadata.name ↔
        a.blueprint.name = b.blueprint.name := by
      rw [statefulSet_eq, statefulSet_eq]
      exact Option.some_inj
    rw [hselects b s hs, hname, same_iff]
  · intro hkind s hs hsel
    exact hkind (kind_eq_of_identity ((hselects b s hs).mp hsel))
  · intro key hkey
    refine ⟨?_, fun s hs => ?_⟩
    · rw [podLabels_eq, get?_labels, get?_selector_of_not_mem hkey, Option.none_or]
    · rw [eq_of_mem_selectors hs, get?_selector_of_not_mem hkey]

/-- The leaders of a cluster and an instance have StatefulSets of one name, and both owners use
a label that selects pods. -/
theorem selectors_isolate_sameName :
    let labels := StringMap.ofList [("app", "shop"), ("team", "db")]
    let leaders := Workload.group
      { metadata := { name := some "cache", labels := some labels }, spec := {} } .leader
    let lone := Workload.single
      { metadata := { name := some "cache-leader", labels := some labels }, spec := {} }
    (leaders.owner.kind ≠ lone.owner.kind ∧ "team" ∉ selectorKeys) ∧
      leaders.statefulSet.metadata.name = lone.statefulSet.metadata.name ∧
      leaders.services.map (fun s => (s.kind, s.metadata.name)) =
        [(.headless, some "cache-leader-headless"), (.client, some "cache-leader")] ∧
      leaders.selectors.length = 3 ∧
      (∀ s ∈ leaders.selectors, s.Selects leaders.statefulSet.podLabels) ∧
      (∀ s ∈ leaders.selectors, ¬ s.Selects lone.statefulSet.podLabels) ∧
      leaders.statefulSet.podLabels.get? "app" = some "cache-leader" ∧
      leaders.statefulSet.podLabels.get? "team" = some "db" ∧
      ∀ s ∈ leaders.selectors, s.get? "team" = none := by
  intro labels leaders lone
  have hkind : leaders.owner.kind ≠ lone.owner.kind := by decide
  have hkey : "team" ∉ selectorKeys := by decide
  obtain ⟨-, -, -, hown, hother, hkeys⟩ := selectors_isolate leaders lone
  obtain ⟨hlabel, hfree⟩ := hkeys "team" hkey
  refine ⟨⟨hkind, hkey⟩, rfl, rfl, rfl, hown, hother hkind, ?_, ?_, hfree⟩
  · decide
  · rw [hlabel]
    decide

end Workload
end RedisKeeper
