import RedisKeeper.Api.Pod
import RedisKeeper.Manifest.StatefulSet
import RedisKeeper.Proofs.Json.Taking
import RedisKeeper.Proofs.Text.Searching

/-
The pods of a StatefulSet, and those in which a pass over a cluster looks for its nodes.

Kubernetes names the pods of a StatefulSet after it and numbers them.  A pass numbers pods of
its own accord, and finds the container to run commands in by the name of the pod.  That name
tells the StatefulSet, however many hyphens there are in it (`setNameOf?_append`), and so
manifests and passes are about the same pods, counts and containers (`pods_agree`).
-/
namespace RedisKeeper

namespace Api

theorem setNameOf?_append {base : String} (hbase : base ≠ "") (index : Nat) :
    setNameOf? (base ++ "-" ++ toString index) = some base := by
  let digits := Nat.toDigits 10 index
  have hdash : '-' ∉ digits := Text.not_mem_toDigits (by decide) (by decide) index
  have hname : (base ++ "-" ++ toString index).toList = base.toList ++ '-' :: digits := by
    simp [digits, Nat.toString_eq_repr]
  have hcut : (Text.cut '-' (base ++ "-" ++ toString index).toList).reverse =
      digits :: (Text.cut '-' base.toList).reverse := by
    rw [hname, Text.cut_append, Text.cut_of_not_mem hdash, List.reverse_append]
    rfl
  have hordinal : digits.isEmpty = false ∧ digits.all Char.isDigit = true :=
    ⟨List.isEmpty_eq_false_iff.mpr Nat.toDigits_ne_nil,
      List.all_eq_true.mpr Json.Reading.isDigit_of_mem_toDigits⟩
  obtain ⟨before, more, hbefore⟩ :
      ∃ before more, (Text.cut '-' base.toList).reverse = before :: more :=
    List.exists_cons_of_ne_nil (by simpa using Text.cut_ne_nil '-' base.toList)
  -- What stands before the ordinal is put together again from all its pieces.
  have hjoin : Text.join '-' (before :: more).reverse = base.toList := by
    rw [← hbefore, List.reverse_reverse, Text.join_cut]
  have hbase' : base.toList.isEmpty = false :=
    List.isEmpty_eq_false_iff.mpr (by simpa using hbase)
  rw [setNameOf?, hcut, hbefore]
  simp only [hjoin, hbase', hordinal, Bool.not_false, Bool.and_self, if_true, String.ofList_toList]

/-- The container that has the name of the pod's StatefulSet is found wherever it stands. -/
theorem redisContainer?_append {base : String} (hbase : base ≠ "") (index : Nat)
    {pod : PodState} {containers : List String} (hpod : pod.containers = some containers)
    (hmem : base ∈ containers) :
    pod.redisContainer? (base ++ "-" ++ toString index) = some base := by
  have hfound : (containers.find? fun c => some c = some base) = some base := by
    cases hfind : containers.find? fun c => some c = some base with
    | none => exact absurd (List.find?_eq_none.mp hfind base hmem) (by simp)
    | some c => simpa using List.find?_some hfind
  rw [PodState.redisContainer?, hpod, setNameOf?_append hbase]
  simp only [hfound]

end Api

theorem roleObjectName_ne_empty (cluster : String) (role : Role) :
    roleObjectName cluster role ≠ "" := by
  intro h
  have hlength := congrArg String.length h
  simp [roleObjectName] at hlength

/-- The pods that Kubernetes makes of a StatefulSet.  One without a namespace is not applied. -/
def Manifest.StatefulSet.pods (s : Manifest.StatefulSet) : List PodName :=
  match s.metadata.ns with
  | none => []
  | some ns =>
    (List.range s.replicas.toInt.toNat).map fun index =>
      ⟨ns, s.metadata.displayName ++ "-" ++ toString index⟩

namespace RedisCluster

variable {c : RedisCluster} {ns : String}

theorem replicas_target (c : RedisCluster) (role : Role) :
    ((Target.ofCluster c).replicas role : Int) = (c.statefulSet role).replicas.toInt := by
  have hnonneg := c.spec.replicas_nonneg role
  cases role <;> exact Int.toNat_of_nonneg hnonneg

theorem pods_statefulSet (hns : c.metadata.ns = some ns) (role : Role) :
    (c.statefulSet role).pods =
      (List.range ((Target.ofCluster c).replicas role)).map ((Target.ofCluster c).pod role) := by
  have hcount : (c.statefulSet role).replicas.toInt.toNat = (Target.ofCluster c).replicas role := by
    rw [← replicas_target, Int.toNat_natCast]
  have hplace : (c.statefulSet role).metadata.ns = some ns := hns
  have htarget : (Target.ofCluster c).ns = ns := by rw [Target.ofCluster, hns]; rfl
  rw [Manifest.StatefulSet.pods, hplace, hcount]
  refine List.map_congr_left fun index _ => ?_
  rw [Target.pod, htarget]
  rfl

theorem meet_iff {ready : ReadyCounts} :
    ready.meet (.ofCluster c) = true ↔
      ready.leaders = (c.statefulSet .leader).replicas ∧
        ready.followers = (c.statefulSet .follower).replicas := by
  have hleaders := c.replicas_target .leader
  have hfollowers := c.replicas_target .follower
  rw [ReadyCounts.meet_eq_true_iff, ← Int32.toInt_inj, ← Int32.toInt_inj, ← hleaders, ← hfollowers]
  rfl

/-- The StatefulSet of a group asks for as many pods as the spec does.  Its pods are those of
which the target of a pass consists, a pass begins just when the ready pods are as many as the
StatefulSets ask for, and in each pod it is the container of the StatefulSet that commands are
run in, whatever other containers there are. -/
theorem pods_agree (hns : c.metadata.ns = some ns) (hvalid : c.spec.firstInvalid = none) :
    (∀ role, (c.statefulSet role).replicas = (c.spec.role role).replicas.getD c.spec.size) ∧
    (∀ role, (c.statefulSet role).pods =
      (List.range ((Target.ofCluster c).replicas role)).map ((Target.ofCluster c).pod role)) ∧
    (∀ ready : ReadyCounts, ready.meet (.ofCluster c) = true ↔
      ready.leaders = (c.statefulSet .leader).replicas ∧
        ready.followers = (c.statefulSet .follower).replicas) ∧
    ∀ role, ∀ pod ∈ (c.statefulSet role).pods, ∀ (state : Api.PodState) (containers : List String),
      state.containers = some containers → (c.statefulSet role).container.name ∈ containers →
        state.redisContainer? pod.name = some (c.statefulSet role).container.name := by
  refine ⟨ClusterSpec.replicas_eq_of_valid hvalid, pods_statefulSet hns, fun ready => meet_iff, ?_⟩
  intro role pod hpod state containers hcontainers hmem
  rw [pods_statefulSet hns] at hpod
  obtain ⟨index, -, rfl⟩ := List.mem_map.mp hpod
  exact Api.redisContainer?_append (roleObjectName_ne_empty c.name role) index hcontainers hmem

/-- A cluster whose name ends like that of a pod. -/
def shards : RedisCluster where
  metadata := { name := some "shards-2", ns := some "prod" }
  spec := { leader := { replicas := some 2 }, follower := { replicas := some 1 } }

theorem pods_agree_shards :
    shards.metadata.ns = some "prod" ∧ shards.spec.firstInvalid = none ∧
      (shards.statefulSet .leader).replicas = 2 ∧
      (shards.statefulSet .leader).pods =
        [⟨"prod", "shards-2-leader-0"⟩, ⟨"prod", "shards-2-leader-1"⟩] ∧
      (ReadyCounts.mk 2 1).meet (.ofCluster shards) = true ∧
      ∀ state : Api.PodState, state.containers = some ["exporter", "shards-2-leader"] →
        state.redisContainer? "shards-2-leader-1" = some "shards-2-leader" := by
  have hns : shards.metadata.ns = some "prod" := rfl
  have hvalid : shards.spec.firstInvalid = none := by decide
  obtain ⟨hreplicas, hpods, hmeet, hcontainer⟩ := pods_agree hns hvalid
  have hleaders : (shards.statefulSet .leader).pods =
      [⟨"prod", "shards-2-leader-0"⟩, ⟨"prod", "shards-2-leader-1"⟩] :=
    (hpods .leader).trans (by decide)
  refine ⟨hns, hvalid, hreplicas .leader, hleaders, (hmeet _).mpr (by decide), ?_⟩
  intro state hstate
  exact hcontainer .leader ⟨"prod", "shards-2-leader-1"⟩ (by rw [hleaders]; decide) state _ hstate
    (by decide)

end RedisCluster
end RedisKeeper
