import RedisKeeper.Proofs.Manifest.Naming
import RedisKeeper.Proofs.Topology.Names

/-
Groups of clusters and the names of their objects.

Kubernetes knows pods, Services and StatefulSets by their names.  Whatever clusters are
called, no two groups have an object of one kind with the same name, and within a group no
two objects of a kind have (`group_names_distinct`).
-/
namespace RedisKeeper
namespace Manifest

variable {c d : String} {role other : Role}

/-- A headless Service of one group is not named like a Service for clients of another. -/
theorem serviceName_inj {kind kind' : ServicePurpose} :
    kind.serviceName (roleObjectName c role) = kind'.serviceName (roleObjectName d other) ↔
      c = d ∧ role = other ∧ kind = kind' := by
  cases kind <;> cases kind'
  · rw [ServicePurpose.serviceName, ServicePurpose.serviceName, headlessName_inj,
      roleObjectName_inj]
    simp
  · simp [ServicePurpose.serviceName, headlessName_ne_roleObjectName]
  · simp [ServicePurpose.serviceName, (headlessName_ne_roleObjectName _ _ _).symm]
  · rw [ServicePurpose.serviceName, ServicePurpose.serviceName, roleObjectName_inj]
    simp

theorem name_of_mem_services {c : RedisCluster} {service : Service}
    (h : service ∈ c.services role) :
    service.metadata.name = some (service.kind.serviceName (roleObjectName c.name role)) := by
  obtain ⟨kind, -, rfl⟩ := List.mem_map.mp h
  rfl

end Manifest

namespace RedisCluster

open Manifest

/-- Pods, Services and StatefulSets of groups have the same name just when they are of one group
of clusters with one name, and have the same number or serve the same purpose. -/
theorem group_names_distinct (role other : Role) :
    (∀ (t u : Target) (i j : Nat), (t.pod role i).name = (u.pod other j).name ↔
      t.name = u.name ∧ role = other ∧ i = j) ∧
    ∀ c d : RedisCluster,
      (∀ service ∈ c.services role, ∀ service' ∈ d.services other,
        service.metadata.name = service'.metadata.name ↔
          c.name = d.name ∧ role = other ∧ service.kind = service'.kind) ∧
      ((c.statefulSet role).metadata.name = (d.statefulSet other).metadata.name ↔
        c.name = d.name ∧ role = other) := by
  refine ⟨fun t u i j => Target.pod_name_inj, fun c d => ⟨?_, ?_⟩⟩
  · intro service hservice service' hservice'
    rw [name_of_mem_services hservice, name_of_mem_services hservice', Option.some.injEq,
      serviceName_inj]
  · have hname (c : RedisCluster) (role : Role) :
        (c.statefulSet role).metadata.name = some (roleObjectName c.name role) := rfl
    rw [hname, hname, Option.some.injEq, roleObjectName_inj]

/-- A cluster is called like a group of another one, and both have a Service for the followers
of their own. -/
theorem group_names_distinct_nested :
    ∃ service ∈ (named "cache-leader" {}).services .follower,
      ∃ service' ∈ (named "cache" {}).services .follower,
        service.kind = service'.kind ∧ service.metadata.name ≠ service'.metadata.name := by
  refine ⟨_, List.mem_cons_self, _, List.mem_cons_self, rfl, fun hname => ?_⟩
  have hservices := ((group_names_distinct .follower .follower).2 (named "cache-leader" {})
    (named "cache" {})).1
  obtain ⟨hcluster, -⟩ := (hservices _ List.mem_cons_self _ List.mem_cons_self).mp hname
  exact absurd hcluster (by decide)

end RedisCluster
end RedisKeeper
