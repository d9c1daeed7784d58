import RedisKeeper.Proofs.Json.Keeping
import RedisKeeper.Resource.Cluster
import RedisKeeper.Resource.Single

/-
What is written of a Redis resource is read back as it was.

Each record follows from its fields in the order in which its format names them.  The room
that is left for containers is that of the most deeply nested field.
-/
namespace RedisKeeper

open Json

variable (room : Nat)

/-! ## Settings -/

theorem Quantities.keeps (q : Quantities) :
    Quantities.format.Keeps (room + 1) q.toJson q := by
  refine .declared rfl (.seq (.map Quantities.mk
    (.optional ?cpu fun s _ => .text room s))
    (.optional ?memory fun s _ => .text room s)) _
  all_goals simp [get?_object_cons]

theorem ResourceBounds.keeps (b : ResourceBounds) :
    ResourceBounds.format.Keeps (room + 2) b.toJson b := by
  refine .declared rfl (.seq (.map ResourceBounds.mk
    (.optional ?requests fun q _ => Quantities.keeps room q))
    (.optional ?limits fun q _ => Quantities.keeps room q)) _
  all_goals simp [get?_object_cons]

theorem ContainerSettings.keeps (c : ContainerSettings) :
    ContainerSettings.format.Keeps (room + 3) c.toJson c := by
  refine .declared rfl (.seq (.seq (.map ContainerSettings.mk
    (.required ?image (.text _ c.image)))
    (.optional ?imagePullPolicy fun s _ => .text _ s))
    (.optional ?resources fun b _ => ResourceBounds.keeps room b)) _
  all_goals simp [get?_object_cons]

theorem ClaimTemplate.keeps (t : ClaimTemplate) :
    ClaimTemplate.format.Keeps (room + 2) t.toJson t := by
  refine .declared rfl (.seq (.seq (.map ClaimTemplate.mk
    (.defaulted ?size (.text _ t.size)))
    (.optional ?storageClassName fun s _ => .text _ s))
    (.defaulted ?accessModes (.list fun s _ => .text room s))) _
  all_goals simp [get?_object_cons, strings]

theorem Storage.keeps (s : Storage) : Storage.format.Keeps (room + 3) s.toJson s := by
  refine .declared rfl (.map Storage.mk
    (.required ?volumeClaimTemplate (ClaimTemplate.keeps room s.claimTemplate))) _
  all_goals simp [get?_object_cons]

theorem ExtraConfig.keeps (c : ExtraConfig) :
    ExtraConfig.format.Keeps (room + 1) c.toJson c := by
  refine .declared rfl (.map ExtraConfig.mk
    (.optional ?additionalRedisConfig fun s _ => .text room s)) _
  all_goals simp [get?_object_cons]

theorem RoleSpec.keeps (s : RoleSpec) : RoleSpec.format.Keeps (room + 2) s.toJson s := by
  refine .declared rfl (.seq (.map RoleSpec.mk
    (.optional ?replicas fun n _ => .int32 _ n))
    (.optional ?redisConfig fun c _ => ExtraConfig.keeps room c)) _
  all_goals simp [get?_object_cons]

theorem ClusterSpec.keeps (s : ClusterSpec) :
    ClusterSpec.format.Keeps (room + 4) s.toJson s := by
  refine .declared rfl (.seq (.seq (.seq (.seq (.seq (.map ClusterSpec.mk
    (.defaulted ?size (.int32 _ s.size)))
    (.defaulted ?redisLeader (RoleSpec.keeps (room + 1) s.leader)))
    (.defaulted ?redisFollower (RoleSpec.keeps (room + 1) s.follower)))
    (.required ?kubernetesConfig (ContainerSettings.keeps room s.container)))
    (.optional ?storage fun t _ => Storage.keeps room t))
    (.defaulted ?nodeSelector (.textMap _ s.nodeSelector))) _
  all_goals simp [get?_object_cons]

theorem SingleSpec.keeps (s : SingleSpec) :
    SingleSpec.format.Keeps (room + 4) s.toJson s := by
  refine .declared rfl (.seq (.seq (.seq (.map SingleSpec.mk
    (.required ?kubernetesConfig (ContainerSettings.keeps room s.container)))
    (.optional ?storage fun t _ => Storage.keeps room t))
    (.optional ?redisConfig fun c _ => ExtraConfig.keeps (room + 2) c))
    (.defaulted ?nodeSelector (.textMap _ s.nodeSelector))) _
  all_goals simp [get?_object_cons]

/-! ## Status -/

theorem Condition.keeps (c : Condition) : Condition.format.Keeps (room + 1) c.toJson c := by
  refine .declared rfl (.seq (.seq (.seq (.seq (.seq (.map Condition.mk
    (.required ?type (.text _ c.aspect)))
    (.required ?status (.text _ c.status)))
    (.required ?reason (.text _ c.reason)))
    (.required ?message (.text _ c.message)))
    (.required ?lastTransitionTime (.text _ c.lastTransitionTime)))
    (.nullable ?observedGeneration fun n _ => .int64 room n)) _
  all_goals simp [get?_object_cons]

theorem Phase.keeps (phase : Phase) : Phase.format.Keeps room (.str phase.name) phase :=
  ⟨Shape.keeps_choice (List.mem_map_of_mem (by cases phase <;> decide)) room,
    Phase.ofName?_name phase⟩

theorem ClusterStatus.keeps (s : ClusterStatus) :
    ClusterStatus.format.Keeps (room + 3) s.toJson s := by
  refine .declared rfl (.seq (.seq (.seq (.seq (.seq (.seq (.map ClusterStatus.mk
    (.defaulted ?phase (Phase.keeps _ s.phase)))
    (.defaulted ?readyLeaders (.int32 _ s.readyLeaders)))
    (.defaulted ?readyFollowers (.int32 _ s.readyFollowers)))
    (.defaulted ?clusterNodes (.int32 _ s.clusterNodes)))
    (.defaulted ?failedNodes (.int32 _ s.failedNodes)))
    (.nullable ?observedGeneration fun n _ => .int64 _ n))
    (.defaulted ?conditions (.list fun c _ => Condition.keeps room c))) _
  all_goals simp [get?_object_cons]

theorem SingleStatus.keeps (s : SingleStatus) :
    SingleStatus.format.Keeps (room + 3) s.toJson s := by
  refine .declared rfl (.seq (.seq (.seq (.map SingleStatus.mk
    (.defaulted ?readyReplicas (.int32 _ s.readyReplicas)))
    (.defaulted ?nodes (.list fun n _ => .text _ n)))
    (.nullable ?observedGeneration fun n _ => .int64 _ n))
    (.defaulted ?conditions (.list fun c _ => Condition.keeps room c))) _
  all_goals simp [get?_object_cons, strings]

/-! ## Whole resources -/

/-- Neither what users set nor what is reported on it is lost between a value and its JSON,
from the spec and the status of either kind down to the records inside them. -/
theorem resources_lossless :
    (ClusterSpec.format.Lossless ClusterSpec.toJson ∧
      ClusterStatus.format.Lossless ClusterStatus.toJson ∧
      SingleSpec.format.Lossless SingleSpec.toJson ∧
      SingleStatus.format.Lossless SingleStatus.toJson) ∧
    (RoleSpec.format.Lossless RoleSpec.toJson ∧
      ContainerSettings.format.Lossless ContainerSettings.toJson ∧
      ResourceBounds.format.Lossless ResourceBounds.toJson ∧
      Quantities.format.Lossless Quantities.toJson ∧
      Storage.format.Lossless Storage.toJson ∧
      ClaimTemplate.format.Lossless ClaimTemplate.toJson ∧
      ExtraConfig.format.Lossless ExtraConfig.toJson ∧
      Condition.format.Lossless Condition.toJson ∧
      Phase.format.Lossless fun phase => .str phase.name) := by
  refine ⟨⟨?_, ?_, ?_, ?_⟩, ?_, ?_, ?_, ?_, ?_, ?_, ?_, ?_, ?_⟩
  · exact .of_keeps (ClusterSpec.keeps 123)
  · exact .of_keeps (ClusterStatus.keeps 124)
  · exact .of_keeps (SingleSpec.keeps 123)
  · exact .of_keeps (SingleStatus.keeps 124)
  · exact .of_keeps (RoleSpec.keeps 125)
  · exact .of_keeps (ContainerSettings.keeps 124)
  · exact .of_keeps (ResourceBounds.keeps 125)
  · exact .of_keeps (Quantities.keeps 126)
  · exact .of_keeps (Storage.keeps 124)
  · exact .of_keeps (ClaimTemplate.keeps 125)
  · exact .of_keeps (ExtraConfig.keeps 126)
  · exact .of_keeps (Condition.keeps 126)
  · exact .of_keeps (Phase.keeps 127)

end RedisKeeper
