import RedisKeeper.Proofs.Text.Searching
import RedisKeeper.Topology.Target

/-
What the names of a cluster's objects tell.

A name ends in the word of a group or in a number.  Neither holds a hyphen, so it stands
behind the last one, and whatever hyphens there are in front of it belong to the rest
(`roleObjectName_inj`, `numbered_inj`).
-/
namespace RedisKeeper

theorem Role.name_inj {role other : Role} : role.name = other.name ↔ role = other := by
  cases role <;> cases other <;> decide

theorem roleObjectName_inj {c d : String} {role other : Role} :
    roleObjectName c role = roleObjectName d other ↔ c = d ∧ role = other := by
  constructor
  · intro h
    have hword (role : Role) : '-' ∉ role.name.toList := by cases role <;> decide
    have htext (c : String) (role : Role) :
        (roleObjectName c role).toList = c.toList ++ '-' :: role.name.toList := by
      simp [roleObjectName]
    have hparts := congrArg String.toList h
    rw [htext, htext] at hparts
    obtain ⟨hcluster, hrole⟩ := Text.append_cons_inj (hword role) (hword other) hparts
    exact ⟨String.toList_inj.mp hcluster, Role.name_inj.mp (String.toList_inj.mp hrole)⟩
  · rintro ⟨rfl, rfl⟩
    rfl

/-- The number at the end of a name is what stands behind the last hyphen. -/
theorem numbered_inj {a b : String} {i j : Nat} :
    a ++ "-" ++ toString i = b ++ "-" ++ toString j ↔ a = b ∧ i = j := by
  constructor
  · intro h
    have hdigits (n : Nat) : '-' ∉ Nat.toDigits 10 n :=
      Text.not_mem_toDigits (by decide) (by decide) n
    have htext (a : String) (n : Nat) :
        (a ++ "-" ++ toString n).toList = a.toList ++ '-' :: Nat.toDigits 10 n := by
      simp [Nat.toString_eq_repr]
    have hparts := congrArg String.toList h
    rw [htext, htext] at hparts
    obtain ⟨hbase, hindex⟩ := Text.append_cons_inj (hdigits i) (hdigits j) hparts
    exact ⟨String.toList_inj.mp hbase, Text.toDigits_inj hindex⟩
  · rintro ⟨rfl, rfl⟩
    rfl

namespace Target

theorem pod_name_inj {t u : Target} {role other : Role} {i j : Nat} :
    (t.pod role i).name = (u.pod other j).name ↔ t.name = u.name ∧ role = other ∧ i = j := by
  rw [pod, pod, numbered_inj, roleObjectName_inj, and_assoc]

theorem pod_inj {t : Target} {role role' : Role} {i j : Nat}
    (h : t.pod role i = t.pod role' j) : role = role' ∧ i = j :=
  (pod_name_inj.mp (congrArg PodName.name h)).2

end Target
end RedisKeeper
