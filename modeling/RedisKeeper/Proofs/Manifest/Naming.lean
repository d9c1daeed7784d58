import RedisKeeper.Manifest.Service
import RedisKeeper.Proofs.Topology.Names
import RedisKeeper.Reconcile.Teardown

/-
When the objects of two resources have the same names.

All names are made of a base and a fixed ending.  The base of a single instance is the
name of the resource, and that of a group of a cluster goes on with the group's name.
The name of a claim tells the base (`claimName_self_inj`).  That of a Service does not,
for the name of a headless Service may itself be the base of an instance.  A group and
an instance may also have one base.  So what is removed along with an instance can belong
to another resource, and `teardown_names` tells exactly where it does.
-/
namespace RedisKeeper
namespace Manifest

/-! ## Services -/

theorem headlessName_inj {a b : String} : headlessName a = headlessName b ↔ a = b :=
  String.append_left_inj _

theorem headlessName_ne_roleObjectName (a cluster : String) (role : Role) :
    headlessName a ≠ roleObjectName cluster role := by
  intro h
  have hlast := congrArg (fun s : String => s.toList.getLast?) h
  cases role <;> simp [headlessName, roleObjectName, Role.name] at hlast

/-- The names of both Services for a base. -/
def serviceNames (base : String) : List String :=
  ServicePurpose.all.map (ServicePurpose.serviceName base)

theorem mem_serviceNames {base name : String} :
    name ∈ serviceNames base ↔ name = headlessName base ∨ name = base := by
  simp [serviceNames, ServicePurpose.all, ServicePurpose.serviceName]

/-- Two bases share the name of a Service if one is the name of the other's headless
Service. -/
theorem mem_serviceNames_both {a b : String} (hne : a ≠ b) (name : String) :
    name ∈ serviceNames a ∧ name ∈ serviceNames b ↔
      name = a ∧ a = headlessName b ∨ name = b ∧ b = headlessName a := by
  rw [mem_serviceNames, mem_serviceNames]
  constructor
  · rintro ⟨rfl | rfl, hb | hb⟩
    · exact absurd (headlessName_inj.mp hb) hne
    · exact .inr ⟨hb, hb.symm⟩
    · exact .inl ⟨rfl, hb⟩
    · exact absurd hb hne
  · rintro (⟨rfl, hb⟩ | ⟨rfl, ha⟩)
    · exact ⟨.inr rfl, .inl hb⟩
    · exact ⟨.inl ha, .inr rfl⟩

/-! ## Claims -/

/-- The name of the claim that the pod with an index gets from a template. -/
def claimName (template set : String) (index : Nat) : String := s!"{template}-{set}-{index}"

/-- The number at the end is what stands behind the last dash, and what is left is the
base twice. -/
theorem claimName_self_inj {a b : String} {i j : Nat} :
    claimName a a i = claimName b b j ↔ a = b ∧ i = j := by
  have hname (a : String) (i : Nat) :
      claimName a a i = a ++ "-" ++ a ++ "-" ++ toString i := rfl
  rw [hname, hname, numbered_inj]
  refine and_congr_left fun _ => ⟨fun htwice => ?_, fun h => by rw [h]⟩
  have htext : a.toList ++ '-' :: a.toList = b.toList ++ '-' :: b.toList := by
    simpa using congrArg String.toList htwice
  have hlength : a.toList.length = b.toList.length := by
    have hboth := congrArg List.length htext
    simp only [List.length_append, List.length_cons] at hboth
    omega
  exact String.toList_inj.mp (List.append_inj htext hlength).1

/-- Whether a name is that of the claim that some pod of a StatefulSet gets. -/
def StatefulSet.Claims (s : StatefulSet) (name : String) : Prop :=
  ∃ template ∈ s.claims.getD [], ∃ index : Nat,
    name = claimName template.metadata.displayName s.metadata.displayName index

theorem claims_build_iff {b : Blueprint} {owner : Owner} {name : String} :
    (b.build owner).Claims name ↔
      b.storage.isSome = true ∧ ∃ index : Nat, name = claimName b.name b.name index := by
  cases hstorage : b.storage with
  | none => simp [StatefulSet.Claims, Blueprint.build, hstorage]
  | some storage =>
    simp [StatefulSet.Claims, Blueprint.build, Blueprint.claim, hstorage, Owner.metadataOf,
      Metadata.displayName]

end Manifest

/-! ## What is removed with an instance -/

namespace Reconcile

open Manifest

theorem mem_teardown_services {n name : String} :
    name ∈ (Teardown.of n).services ↔ name ∈ serviceNames n := by
  simp [Teardown.of, mem_serviceNames, or_comm]

theorem serviceNames_single (s : RedisSingle) :
    s.services.map (·.metadata.name) = (serviceNames s.name).map some := rfl

theorem serviceNames_cluster (c : RedisCluster) (role : Role) :
    (c.services role).map (·.metadata.name) =
      (serviceNames (roleObjectName c.name role)).map some := rfl

theorem teardown_claim (n : String) : (Teardown.of n).claim = claimName n n 0 := by
  have hend : "-0" = "-" ++ toString 0 := by decide
  have hname : (Teardown.of n).claim = n ++ "-" ++ n ++ "-0" := rfl
  rw [hname, hend, ← String.append_assoc]
  rfl

/-- What is removed with an instance has the name of another resource's object exactly in
three cases.  One of two instances is named like the headless Service of the other, and
this Service is shared.  The instance is named like a group of a cluster, and all Services
of the group are shared and, where storage is configured, the claim of its first pod.  Or
the instance is named like the headless Service of a group, and this Service is shared. -/
theorem teardown_names (n : String) :
    (∀ other : RedisSingle, other.name ≠ n →
      (∀ name ∈ (Teardown.of n).services, some name ∈ other.services.map (·.metadata.name) ↔
        name = n ∧ n = headlessName other.name ∨
          name = other.name ∧ other.name = headlessName n) ∧
      ¬ other.statefulSet.Claims (Teardown.of n).claim) ∧
    ∀ (c : RedisCluster) (role : Role),
      (∀ name ∈ (Teardown.of n).services, some name ∈ (c.services role).map (·.metadata.name) ↔
        n = roleObjectName c.name role ∨
          name = n ∧ n = headlessName (roleObjectName c.name role)) ∧
      ((c.statefulSet role).Claims (Teardown.of n).claim ↔
        n = roleObjectName c.name role ∧ c.spec.storage.isSome = true) := by
  have hsome : ∀ base name, some name ∈ (serviceNames base).map some ↔ name ∈ serviceNames base :=
    fun base name => List.mem_map_of_injective fun _ _ => Option.some.inj
  refine ⟨fun other hne => ⟨fun name hname => ?_, fun hclaim => ?_⟩,
    fun c role => ⟨fun name hname => ?_, ?_⟩⟩
  · rw [mem_teardown_services] at hname
    rw [serviceNames_single, hsome, ← mem_serviceNames_both (Ne.symm hne)]
    exact (and_iff_right hname).symm
  · obtain ⟨-, index, hindex⟩ := claims_build_iff.mp hclaim
    rw [teardown_claim] at hindex
    exact hne (claimName_self_inj.mp hindex).1.symm
  · rw [mem_teardown_services] at hname
    rw [serviceNames_cluster, hsome]
    by_cases hbase : n = roleObjectName c.name role
    · rw [← hbase]
      exact iff_of_true hname (.inl rfl)
    · have hheadless : roleObjectName c.name role ≠ headlessName n :=
        (headlessName_ne_roleObjectName n c.name role).symm
      have hboth := mem_serviceNames_both hbase name
      rw [and_iff_right hname] at hboth
      simp [hboth, hbase, hheadless]
  · rw [RedisCluster.statefulSet, claims_build_iff, teardown_claim]
    constructor
    · rintro ⟨hstorage, index, hindex⟩
      exact ⟨(claimName_self_inj.mp hindex).1, hstorage⟩
    · rintro ⟨hbase, hstorage⟩
      exact ⟨hstorage, 0, by rw [hbase]; rfl⟩

/-- A cluster with storage. -/
def shop : RedisCluster := .named "shop" { storage := some {} }

/-- The Service `shop-leader` and the claim of the first leader go with an instance of that
name, and the objects of an instance with any other base stay. -/
theorem teardown_names_shop :
    some "shop-leader" ∈ (shop.services .leader).map (·.metadata.name) ∧
      (shop.statefulSet .leader).Claims (Teardown.of "shop-leader").claim ∧
      (RedisSingle.named "shop" {}).name ≠ "shop-leader" ∧
      ¬ (RedisSingle.named "shop" {}).statefulSet.Claims (Teardown.of "shop-leader").claim := by
  have hservice : "shop-leader" ∈ (Teardown.of "shop-leader").services := by decide
  have hcluster := (teardown_names "shop-leader").2 shop .leader
  have hother : (RedisSingle.named "shop" {}).name ≠ "shop-leader" := by decide
  exact ⟨(hcluster.1 _ hservice).mpr (.inl rfl), hcluster.2.mpr ⟨rfl, rfl⟩, hother,
    ((teardown_names "shop-leader").1 _ hother).2⟩

/-- A Service of an instance is removed along with another instance, and a claim of a
cluster along with an instance. -/
theorem teardown_removes_others :
    ((RedisSingle.named "cache-headless" {}).name ≠ "cache" ∧
      ∃ name ∈ (Teardown.of "cache").services,
        some name ∈ (RedisSingle.named "cache-headless" {}).services.map (·.metadata.name)) ∧
    (shop.statefulSet .leader).Claims (Teardown.of "shop-leader").claim := by
  refine ⟨⟨by decide, "cache-headless", by decide, by decide⟩, ?_⟩
  exact claims_build_iff.mpr ⟨rfl, 0, teardown_claim "shop-leader"⟩

end Reconcile
end RedisKeeper
