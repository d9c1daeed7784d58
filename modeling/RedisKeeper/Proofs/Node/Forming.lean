import RedisKeeper.Proofs.Node.Log

/-
Forming a cluster.

The leaders are asked for their addresses in the order of their indices, and the first that
has none ends the attempt before anything is executed (`course_of_addressed`).  The command
that makes the cluster is executed once, in the first leader, with the endpoint of every
leader in its place (`bootstrap_all_or_nothing`).
-/
namespace RedisKeeper
namespace Node

variable {tcp : UInt16} {log : Log} {pod : Nat → PodName} {n : Nat}

/-- The exchanges in which the first pods of a group tell their addresses. -/
def tellings (pod : Nat → PodName) (addresses : List Address) : Log :=
  addresses.mapIdx fun i a => resolved (pod i) (.ok a)

theorem tellings_cons (a : Address) (addresses : List Address) :
    tellings pod (a :: addresses) =
      resolved (pod 0) (.ok a) :: tellings (pod ∘ Nat.succ) addresses :=
  List.mapIdx_cons

/-- Either all pods tell their addresses, or the first that does not is the last that is
asked. -/
theorem course_of_addressed {result : Except Error (List String)}
    (h : Addressed tcp ((List.range n).map pod) log result) :
    ∃ addresses : List Address,
      (addresses.length = n ∧ log = tellings pod addresses ∧
        result = .ok (addresses.map (·.endpoint tcp))) ∨
      (addresses.length < n ∧ ∃ e,
        log = tellings pod addresses ++ [resolved (pod addresses.length) (.error e)] ∧
          result = .error e) := by
  induction n generalizing pod log result with
  | zero =>
    cases h
    exact ⟨[], .inl ⟨rfl, rfl, rfl⟩⟩
  | succ n ih =>
    -- The pods behind the first are those of a group whose indices begin one later.
    rw [List.range_succ_eq_map, List.map_cons, List.map_map] at h
    cases h with
    | unresolved _ _ e => exact ⟨[], .inr ⟨Nat.zero_lt_succ n, e, rfl, rfl⟩⟩
    | resolved _ a hrest =>
      obtain ⟨addresses, ⟨rfl, rfl, rfl⟩ | ⟨hlt, e, rfl, rfl⟩⟩ := ih hrest
      · exact ⟨a :: addresses, .inl ⟨rfl, (tellings_cons a addresses).symm, rfl⟩⟩
      · refine ⟨a :: addresses, .inr ⟨Nat.succ_lt_succ hlt, e, ?_, rfl⟩⟩
        rw [tellings_cons]
        rfl

/-- Whatever is answered, either every leader tells its address and one command is executed,
in the first leader and with all endpoints in order, whose result is that of the whole; or
the first leader that does not tell ends the attempt with its error, no later leader is
asked, and nothing is executed. -/
theorem bootstrap_all_or_nothing (tools : Tools) (t : Target) {σ : Type}
    (respond : Responder interface σ) (s : σ) :
    let run := (bootstrap tools t).runLogged respond s
    ∃ addresses : List Address,
      (addresses.length = t.leaders ∧ ∃ result,
        run.2.1 = tellings (t.pod .leader) addresses ++
          [executed (t.pod .leader 0)
            ([tools.program, "--cluster", "create"] ++ addresses.map (·.endpoint tools.tcp) ++
              ["--cluster-yes"]) result] ∧
        run.1 = result) ∨
      (addresses.length < t.leaders ∧ ∃ e,
        run.2.1 = tellings (t.pod .leader) addresses ++
          [resolved (t.pod .leader addresses.length) (.error e)] ∧
        run.1 = .error e) := by
  intro run
  have hrun : Bootstrapped tools t run.2.1 run.1 :=
    bootstrapped_of_yields (Program.yields_runLogged respond (bootstrap tools t) s)
  generalize run.2.1 = log, run.1 = result at hrun
  cases hrun with
  | unaddressed hlog =>
    obtain ⟨addresses, ⟨-, -, hresult⟩ | ⟨hlt, e, rfl, hresult⟩⟩ := course_of_addressed hlog
    · exact absurd hresult nofun
    · exact ⟨addresses, .inr ⟨hlt, e, rfl, congrArg Except.error (Except.error.inj hresult)⟩⟩
  | executed result hlog =>
    obtain ⟨addresses, ⟨hlength, rfl, hresult⟩ | ⟨-, e, -, hresult⟩⟩ := course_of_addressed hlog
    · rw [Except.ok.inj hresult]
      exact ⟨addresses, .inl ⟨hlength, result, rfl, rfl⟩⟩
    · exact absurd hresult nofun

end Node
end RedisKeeper
