import Mathlib.Data.List.Basic
import RedisKeeper.Proofs.Node.Visits

/-
Where the table of a cluster is read.

The leaders are visited in the order of their indices, up to the first that tells its table.
A leader that has no address, does not let itself be connected to or fails to tell is passed
over; one that tells an empty text is not (`observe_first_told`).
-/
namespace RedisKeeper
namespace Node

variable {tcp : UInt16} {t : Target} {table : Snapshot} {log : Log} {pod : PodName}

namespace Visit

/-- Whether nothing is asked of the node but its table. -/
def Inspects : Visit → Prop
  | session _ _ commands _ => ∃ answer, commands = [.nodes answer]
  | _ => True

def told? : Visit → Option String
  | session _ _ [.nodes (.ok text)] _ => some text
  | _ => none

end Visit

theorem inspection_of_inspected {result : Except Error Snapshot}
    (h : Inspected tcp pod log result) :
    ∃ v : Visit, v.pod = pod ∧ log = v.log tcp ∧ v.Inspects ∧
      v.told?.map Snapshot.ofText = result.toOption := by
  cases h with
  | unresolved e => exact ⟨.unresolved pod e, rfl, rfl, trivial, rfl⟩
  | unconnected a e => exact ⟨.refused pod a e, rfl, rfl, trivial, rfl⟩
  | unread a e closing =>
    exact ⟨.session pod a [.nodes (.error e)] closing, rfl, rfl, ⟨_, rfl⟩, rfl⟩
  | read a text closing =>
    exact ⟨.session pod a [.nodes (.ok text)] closing, rfl, rfl, ⟨_, rfl⟩, rfl⟩

theorem fallback_of_observed {pods : List PodName} (h : Observed tcp pods log table) :
    ∃ visits : List Visit, log = visits.flatMap (Visit.log tcp) ∧
      (∀ v ∈ visits, v.Inspects) ∧
        ((∃ k text, k < pods.length ∧ visits.map Visit.pod = pods.take (k + 1) ∧
            visits.map Visit.told? = List.replicate k none ++ [some text] ∧
              table = .ofText text) ∨
          (visits.map Visit.pod = pods ∧
            visits.map Visit.told? = List.replicate pods.length none ∧ table = .empty)) := by
  induction h with
  | nobody => exact ⟨[], rfl, List.forall_mem_nil _, .inr ⟨rfl, rfl, rfl⟩⟩
  | @answered pod pods log table hlog =>
    obtain ⟨v, rfl, rfl, hinspects, htold⟩ := inspection_of_inspected hlog
    obtain ⟨text, htext, rfl⟩ := Option.map_eq_some_iff.mp htold
    refine ⟨[v], (List.append_nil _).symm, List.forall_mem_singleton.mpr hinspects, .inl ?_⟩
    refine ⟨0, text, Nat.zero_lt_succ _, rfl, ?_, rfl⟩
    rw [List.map_singleton, htext]
    rfl
  | @silent pod pods first rest e table hfirst _ ih =>
    obtain ⟨v, rfl, rfl, hinspects, htold⟩ := inspection_of_inspected hfirst
    have hnone : v.told? = none := Option.map_eq_none_iff.mp htold
    obtain ⟨visits, rfl, hall, hend⟩ := ih
    refine ⟨v :: visits, List.flatMap_cons.symm, List.forall_mem_cons.mpr ⟨hinspects, hall⟩, ?_⟩
    rcases hend with ⟨k, text, hk, hpods, htexts, htable⟩ | ⟨hpods, htexts, htable⟩
    · refine .inl ⟨k + 1, text, Nat.succ_lt_succ hk, ?_, ?_, htable⟩
      · rw [List.map_cons, hpods, List.take_succ_cons]
      · rw [List.map_cons, htexts, hnone, List.replicate_succ, List.cons_append]
    · refine .inr ⟨?_, ?_, htable⟩
      · rw [List.map_cons, hpods]
      · rw [List.map_cons, htexts, hnone, List.length_cons, List.replicate_succ]

/-- Whatever is answered, there is a table.  It is that of the first leader that tells one, and
the leaders up to this one are visited, in order and once each; or it is empty, and each
leader was visited in vain. -/
theorem observe_first_told (tcp : UInt16) (t : Target) {σ : Type}
    (respond : Responder interface σ) (s : σ) :
    let run := (observe tcp t).runLogged respond s
    ∃ visits : List Visit, run.2.1 = visits.flatMap (Visit.log tcp) ∧
      (∀ v ∈ visits, v.Inspects) ∧
        ((∃ k text, k < max t.leaders 1 ∧
            visits.map Visit.pod = (List.range (k + 1)).map (t.pod .leader) ∧
              visits.map Visit.told? = List.replicate k none ++ [some text] ∧
                run.1 = .ofText text) ∨
          (visits.map Visit.pod = (List.range (max t.leaders 1)).map (t.pod .leader) ∧
            visits.map Visit.told? = List.replicate (max t.leaders 1) none ∧
              run.1 = .empty)) := by
  intro run
  have hobserved : Observed tcp (witnesses t) run.2.1 run.1 :=
    observed_of_yields (Program.yields_runLogged respond (observe tcp t) s)
  obtain ⟨visits, hlog, hinspects, hend⟩ := fallback_of_observed hobserved
  have hlength : (witnesses t).length = max t.leaders 1 := by simp [witnesses]
  rw [hlength] at hend
  refine ⟨visits, hlog, hinspects, ?_⟩
  rcases hend with ⟨k, text, hk, hpods, htexts, htable⟩ | hnobody
  · refine .inl ⟨k, text, hk, ?_, htexts, htable⟩
    have hmin : min (k + 1) (max t.leaders 1) = k + 1 := by omega
    rw [hpods, witnesses, ← List.map_take, List.take_range, hmin]
  · exact .inr hnobody

end Node
end RedisKeeper
