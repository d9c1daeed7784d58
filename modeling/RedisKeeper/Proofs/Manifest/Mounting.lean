import Mathlib.Data.List.Nodup
import RedisKeeper.Manifest.StatefulSet

/-
What the mounts of a container name.

A mount names a volume of its pod or a claim that the pod gets from a template.  A
StatefulSet has these under just the names that its container mounts
(`Blueprint.backings_perm_mounts`).  One of the names is that of the set, the other one is
fixed and comes with a ConfigMap.  So each mount names exactly one thing unless the set has
the fixed name itself, which no group of a cluster has but a single instance may
(`mounts_resolve`).
-/
namespace RedisKeeper
namespace Manifest

/-- What a mount can name. -/
inductive Backing where
  | volume (v : Volume)
  | claim (c : Claim)
deriving DecidableEq

def Backing.name : Backing → String
  | volume v => v.name
  | claim c => c.metadata.displayName

namespace StatefulSet

/-- All that the mounts of a pod can name. -/
def backings (s : StatefulSet) : List Backing :=
  s.volumes.map .volume ++ (s.claims.getD []).map .claim

/-- What a mount names. -/
def backingsOf (s : StatefulSet) (m : Mount) : List Backing :=
  s.backings.filter fun backing => backing.name = m.volume

/-- Whether names tell volumes and claims apart, and every mount names exactly one. -/
structure MountsResolve (s : StatefulSet) : Prop where
  distinct : (s.backings.map Backing.name).Nodup
  resolved : ∀ m ∈ s.container.mounts, (s.backingsOf m).length = 1

theorem length_backingsOf (s : StatefulSet) (m : Mount) :
    (s.backingsOf m).length = (s.backings.map Backing.name).count m.volume := by
  rw [backingsOf, ← List.countP_eq_length_filter, List.count, List.countP_map]
  exact List.countP_congr fun backing _ => by simp

/-- If the names are those of the mounts, they only have to differ. -/
theorem mountsResolve_iff {s : StatefulSet}
    (h : (s.backings.map Backing.name).Perm (s.container.mounts.map (·.volume))) :
    s.MountsResolve ↔ (s.container.mounts.map (·.volume)).Nodup := by
  constructor
  · intro hs
    exact h.nodup_iff.mp hs.distinct
  · intro hnodup
    have hdistinct := h.nodup_iff.mpr hnodup
    refine ⟨hdistinct, fun m hm => ?_⟩
    rw [length_backingsOf]
    exact List.count_eq_one_of_mem hdistinct (h.mem_iff.mpr (List.mem_map_of_mem hm))

end StatefulSet

namespace Blueprint

variable (b : Blueprint) (owner : Owner)

/-- With storage the set's own name is that of the claim and otherwise that of a volume. -/
theorem backings_perm_mounts :
    ((b.build owner).backings.map Backing.name).Perm
      ((b.build owner).container.mounts.map (·.volume)) := by
  have hmounts : (b.build owner).container.mounts.map (·.volume) =
      b.name :: (b.configMap.map fun _ => extraConfigVolume).toList := by
    show b.mounts.map (·.volume) = _
    cases hconfig : b.configMap <;> simp [mounts, hconfig]
  rw [hmounts]
  cases hstorage : b.storage with
  | none =>
    have hnames : (b.build owner).backings.map Backing.name =
        b.name :: (b.configMap.map fun _ => extraConfigVolume).toList := by
      cases hconfig : b.configMap <;>
        simp [StatefulSet.backings, build, volumes, hstorage, hconfig, Backing.name]
    rw [hnames]
  | some storage =>
    have hnames : (b.build owner).backings.map Backing.name =
        (b.configMap.map fun _ => extraConfigVolume).toList ++ [b.name] := by
      cases hconfig : b.configMap <;>
        simp [StatefulSet.backings, build, volumes, claim, hstorage, hconfig, Backing.name,
          Metadata.displayName]
    rw [hnames]
    exact List.perm_append_singleton b.name _

/-- Whether the set has the name of the volume with the ConfigMap that it includes. -/
def Clashes : Prop := b.name = extraConfigVolume ∧ b.configMap.isSome = true

theorem mountsResolve_build_iff : (b.build owner).MountsResolve ↔ ¬ b.Clashes := by
  rw [StatefulSet.mountsResolve_iff (b.backings_perm_mounts owner), Clashes]
  show (b.mounts.map (·.volume)).Nodup ↔ _
  cases hconfig : b.configMap <;> simp [mounts, hconfig]

theorem length_backingsOf_of_clashes (h : b.Clashes) :
    ∀ m ∈ (b.build owner).container.mounts, ((b.build owner).backingsOf m).length = 2 := by
  have hmounts : (b.build owner).container.mounts.map (·.volume) =
      [extraConfigVolume, extraConfigVolume] := by
    show b.mounts.map (·.volume) = _
    simp [mounts, h.1, h.2]
  intro m hm
  have hname : m.volume = extraConfigVolume := by
    have hvolume : m.volume ∈ (b.build owner).container.mounts.map (·.volume) :=
      List.mem_map_of_mem hm
    rw [hmounts] at hvolume
    simpa using hvolume
  rw [StatefulSet.length_backingsOf, (b.backings_perm_mounts owner).count_eq, hmounts, hname]
  simp

end Blueprint

theorem roleObjectName_ne_extraConfigVolume (cluster : String) (role : Role) :
    roleObjectName cluster role ≠ extraConfigVolume := by
  intro h
  have hlast := congrArg (fun s : String => s.toList.getLast?) h
  cases role <;> simp [roleObjectName, Role.name, extraConfigVolume] at hlast

/-- Every mount in a pod of a cluster names exactly one volume or claim.  So does every mount
in the pod of an instance, unless that is named like the volume with a ConfigMap and includes
one.  Then both its mounts name both the data and the ConfigMap. -/
theorem mounts_resolve (c : RedisCluster) (role : Role) (s : RedisSingle) :
    (c.statefulSet role).MountsResolve ∧
      (s.statefulSet.MountsResolve ↔
        ¬ (s.name = extraConfigVolume ∧ s.spec.configMap.isSome = true)) ∧
      (s.name = extraConfigVolume ∧ s.spec.configMap.isSome = true →
        ∀ m ∈ s.statefulSet.container.mounts, (s.statefulSet.backingsOf m).length = 2) := by
  refine ⟨?_, s.blueprint.mountsResolve_build_iff s.owner,
    s.blueprint.length_backingsOf_of_clashes s.owner⟩
  apply ((c.blueprint role).mountsResolve_build_iff c.owner).mpr
  intro hclash
  exact roleObjectName_ne_extraConfigVolume c.name role hclash.1

/-- The volume with the data and the one with the ConfigMap of this instance have one name,
and both are mounted. -/
theorem mounts_ambiguous :
    let s := RedisSingle.named "external-config" { config := some ⟨some "tuning"⟩ }
    s.statefulSet.volumes =
        [⟨"external-config", .emptyDir⟩, ⟨"external-config", .configMap "tuning"⟩] ∧
      s.statefulSet.container.mounts.map (·.path) = [dataDirectory, extraConfigPath] ∧
      ¬ s.statefulSet.MountsResolve := by
  intro s
  have hclash : s.blueprint.Clashes := ⟨rfl, rfl⟩
  refine ⟨rfl, rfl, fun h => ?_⟩
  exact (s.blueprint.mountsResolve_build_iff s.owner).mp h hclash

end Manifest
end RedisKeeper
