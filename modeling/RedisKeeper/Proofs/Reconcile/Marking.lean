import RedisKeeper.Proofs.Reconcile.Provision
import RedisKeeper.Reconcile.Finalizer

/-
What setting and taking away the operator's mark asks, where it works.

Both helpers read the marks of an instance and write another list in their place, or
write nothing (`yields_mark_ok_iff`, `yields_unmark_ok_iff`).  The other list differs
from the one that was read in the operator's mark alone (`OwnOnly`).
-/
namespace RedisKeeper
namespace Reconcile

variable {ns name : String} {log : Api.Log}

/-! ## The list that is written -/

/-- Whether another list differs from the one it replaces in the operator's mark alone. -/
def OwnOnly (change? : List String → Option (List String)) : Prop :=
  ∀ marks m, m ≠ finalizer → (m ∈ (change? marks).getD marks ↔ m ∈ marks)

theorem ownOnly_withFinalizer : OwnOnly withFinalizer? := by
  intro marks m hm
  rw [withFinalizer?]
  split
  · exact Iff.rfl
  · simp [hm]

theorem ownOnly_withoutFinalizer : OwnOnly withoutFinalizer? := by
  intro marks m hm
  rw [withoutFinalizer?]
  split
  · exact List.mem_erase_of_ne hm
  · exact Iff.rfl

theorem mem_withFinalizer (marks : List String) :
    finalizer ∈ (withFinalizer? marks).getD marks := by
  rw [withFinalizer?]
  split
  · rename_i hmark
    exact hmark
  · simp

theorem not_mem_withoutFinalizer {marks : List String} (h : marks.Nodup) :
    finalizer ∉ (withoutFinalizer? marks).getD marks := by
  rw [withoutFinalizer?]
  split
  · exact h.not_mem_erase
  · rename_i hmark
    exact hmark

/-! ## Requests that work -/

/-- A request that can be sent may be answered with anything. -/
theorem yields_sendNamed {r : Api.Request} (hsend : r.sendable = true) (reply : Api.Reply) :
    (Api.sendNamed r).Yields [Api.requested r reply] reply.result := by
  rw [Api.Request.sendable, Bool.and_eq_true, Bool.not_eq_true'] at hsend
  rw [Api.sendNamed, if_neg (Bool.eq_false_iff.mp hsend.1), Api.send, Api.ask, if_pos hsend.2]
  exact ⟨reply, [], rfl, rfl, rfl⟩

theorem yields_decoded {α : Type} (f : Json.Format α) {r : Api.Request}
    (hsend : r.sendable = true) (reply : Api.Reply) :
    (do return Api.decoded f (← Api.sendNamed r) : Api.Work (Except Api.Error α)).Yields
      [Api.requested r reply] (Api.decoded f reply.result) :=
  Program.yields_bind.mpr ⟨_, [], _, rfl, yields_sendNamed hsend reply, rfl, rfl⟩

/-- A request that worked was sent, and its reply holds the result. -/
theorem yields_decoded_ok_iff {α : Type} {f : Json.Format α} {r : Api.Request} {a : α} :
    (attempt (do return Api.decoded f (← Api.sendNamed r))).run.Yields log (.ok a) ↔
      r.sendable = true ∧
        ∃ reply, log = [Api.requested r reply] ∧ Api.decoded f reply.result = .ok a := by
  rw [yields_attempt]
  constructor
  · rintro ⟨result, hresult, h⟩
    obtain ⟨first, last, sent, rfl, hsent, rfl, rfl⟩ := Program.yields_bind.mp h
    rcases Api.sent_of_yields hsent with ⟨-, -, e, rfl, -⟩ | ⟨hsend, reply, rfl, rfl⟩
    · exact absurd hresult nofun
    · refine ⟨hsend, reply, rfl, ?_⟩
      cases hdecoded : Api.decoded f reply.result with
      | error e => rw [hdecoded] at hresult; exact absurd hresult nofun
      | ok b => rw [hdecoded] at hresult; rw [Except.ok.inj hresult]
  · rintro ⟨hsend, reply, rfl, hdecoded⟩
    have hyields := yields_decoded f hsend reply
    rw [hdecoded] at hyields
    exact ⟨.ok a, rfl, hyields⟩

/-! ## The two helpers -/

/-- The request that puts a list in the place of an instance's marks. -/
def replaceRequest (ns name : String) (marks : List String) : Api.Request :=
  { verb := .merge, resource := .redisSingle, ns := some ns, name
    body := some (finalizerChange marks) }

/-- Puts another list in the place of the marks, if there is to be one. -/
def rewriteMarks (ns name : String) : Option (List String) → Act Unit
  | some marks => replaceFinalizers ns name marks
  | none => return ()

theorem mark_eq (ns name : String) :
    mark ns name = (attempt (Api.get .redisSingle RedisSingle.format ns name) >>= fun single =>
      rewriteMarks ns name (withFinalizer? single.metadata.finalizerList)) := rfl

theorem unmark_eq (ns name : String) :
    unmark ns name = (attempt (Api.get? .redisSingle RedisSingle.format ns name) >>= fun found =>
      match found with
      | none => return ()
      | some single =>
        rewriteMarks ns name (withoutFinalizer? single.metadata.finalizerList)) := rfl

/-- What is asked to put another list in the place of the marks, if there is to be one. -/
def Rewrites (ns name : String) : Option (List String) → Api.Log → Prop
  | none, log => log = []
  | some marks, log => ∃ reply single, log = [Api.requested (replaceRequest ns name marks) reply] ∧
    Api.decoded RedisSingle.format reply.result = .ok single

/-- What is asked to read the marks and to rewrite them as `change?` says. -/
def Adjusts (ns name : String) (change? : List String → Option (List String))
    (log : Api.Log) : Prop :=
  ∃ reply single rest, log = Api.requested (Api.getRequest .redisSingle ns name) reply :: rest ∧
    Api.decoded RedisSingle.format reply.result = .ok single ∧
      Rewrites ns name (change? single.metadata.finalizerList) rest

theorem yields_rewriteMarks_ok_iff (hsend : (Api.getRequest .redisSingle ns name).sendable = true)
    {next : Option (List String)} :
    (rewriteMarks ns name next).run.Yields log (.ok ()) ↔ Rewrites ns name next log := by
  cases next with
  | none => exact ⟨fun h => h.1, fun h => ⟨h, rfl⟩⟩
  | some marks =>
    constructor
    · intro h
      obtain ⟨first, last, single, rfl, hfirst, rfl, -⟩ := Program.exists_of_yields_ok h
      obtain ⟨-, reply, rfl, hreply⟩ := yields_decoded_ok_iff.mp hfirst
      exact ⟨reply, single, rfl, hreply⟩
    · rintro ⟨reply, single, rfl, hreply⟩
      have hsent : (attempt (Api.merge .redisSingle RedisSingle.format ns name
          (finalizerChange marks))).run.Yields
            [Api.requested (replaceRequest ns name marks) reply] (.ok single) :=
        yields_decoded_ok_iff.mpr ⟨hsend, reply, rfl, hreply⟩
      exact Program.yields_run_bind.mpr (.inr ⟨_, [], single, rfl, hsent, rfl, rfl⟩)

theorem yields_mark_ok_iff :
    (mark ns name).run.Yields log (.ok ()) ↔
      (Api.getRequest .redisSingle ns name).sendable = true ∧
        Adjusts ns name withFinalizer? log := by
  rw [mark_eq]
  constructor
  · intro h
    obtain ⟨first, rest, single, rfl, hfirst, hrest⟩ := Program.exists_of_yields_ok h
    obtain ⟨hsend, reply, rfl, hreply⟩ := yields_decoded_ok_iff.mp hfirst
    exact ⟨hsend, reply, single, rest, rfl, hreply, (yields_rewriteMarks_ok_iff hsend).mp hrest⟩
  · rintro ⟨hsend, reply, single, rest, rfl, hreply, hrest⟩
    have hsent : (attempt (Api.get .redisSingle RedisSingle.format ns name)).run.Yields
        [Api.requested (Api.getRequest .redisSingle ns name) reply] (.ok single) :=
      yields_decoded_ok_iff.mpr ⟨hsend, reply, rfl, hreply⟩
    have hdone := (yields_rewriteMarks_ok_iff hsend).mpr hrest
    exact Program.yields_run_bind.mpr (.inr ⟨_, rest, single, rfl, hsent, hdone⟩)

/-- Whether a reply tells what the instance is, or that there is none. -/
def Describes (reply : Api.Reply) : Option RedisSingle → Prop
  | some single => Api.decoded RedisSingle.format reply.result = .ok single
  | none => ∃ refusal, Api.decoded RedisSingle.format reply.result = .error (.refused refusal) ∧
    refusal.reason = "NotFound"

theorem yields_get?_ok_iff {found : Option RedisSingle} :
    (attempt (Api.get? .redisSingle RedisSingle.format ns name)).run.Yields log (.ok found) ↔
      (Api.getRequest .redisSingle ns name).sendable = true ∧
        ∃ reply, log = [Api.requested (Api.getRequest .redisSingle ns name) reply] ∧
          Describes reply found := by
  rw [yields_attempt]
  constructor
  · rintro ⟨result, hresult, h⟩
    have hfound : result = .ok found := by
      cases result with
      | error e => cases hresult
      | ok a => rw [Except.ok.inj hresult]
    rw [hfound, Api.get?] at h
    obtain ⟨first, last, got, rfl, hgot, h⟩ := Program.yields_bind.mp h
    rcases Api.got_of_yields hgot with ⟨-, rfl, e, rfl, he⟩ | ⟨hsend, reply, rfl, hreply⟩
    · cases e with
      | refused refusal => exact absurd rfl (he refusal)
      | _ => cases h.2
    · refine ⟨hsend, reply, ?_⟩
      cases got with
      | ok single =>
        obtain ⟨rfl, hsome⟩ := h
        rw [Except.ok.inj hsome]
        exact ⟨rfl, hreply.symm⟩
      | error e =>
        cases e with
        | refused refusal =>
          dsimp only at h
          split at h
          · rename_i hreason
            obtain ⟨rfl, hnone⟩ := h
            rw [Except.ok.inj hnone]
            exact ⟨rfl, refusal, hreply.symm, hreason⟩
          · cases h.2
        | _ => cases h.2
  · rintro ⟨hsend, reply, rfl, hdescribes⟩
    have hgot : (Api.get .redisSingle RedisSingle.format ns name).Yields _ _ :=
      yields_decoded RedisSingle.format hsend reply
    refine ⟨.ok found, rfl, ?_⟩
    rw [Api.get?]
    refine Program.yields_bind.mpr ⟨_, [], _, rfl, hgot, ?_⟩
    cases found with
    | some single =>
      have hdescribes : Api.decoded RedisSingle.format reply.result = .ok single := hdescribes
      rw [hdescribes]
      exact ⟨rfl, rfl⟩
    | none =>
      obtain ⟨refusal, hrefused, hreason⟩ := hdescribes
      rw [hrefused]
      dsimp only
      rw [if_pos hreason]
      exact ⟨rfl, rfl⟩

theorem yields_unmark_ok_iff :
    (unmark ns name).run.Yields log (.ok ()) ↔
      (Api.getRequest .redisSingle ns name).sendable = true ∧
        (Adjusts ns name withoutFinalizer? log ∨
          ∃ reply, log = [Api.requested (Api.getRequest .redisSingle ns name) reply] ∧
            Describes reply none) := by
  rw [unmark_eq]
  constructor
  · intro h
    obtain ⟨first, rest, found, rfl, hfirst, hrest⟩ := Program.exists_of_yields_ok h
    obtain ⟨hsend, reply, rfl, hreply⟩ := yields_get?_ok_iff.mp hfirst
    refine ⟨hsend, ?_⟩
    cases found with
    | none =>
      obtain ⟨rfl, -⟩ := hrest
      exact .inr ⟨reply, rfl, hreply⟩
    | some single =>
      have hdone := (yields_rewriteMarks_ok_iff hsend).mp hrest
      exact .inl ⟨reply, single, rest, rfl, hreply, hdone⟩
  · rintro ⟨hsend, ⟨reply, single, rest, rfl, hreply, hrest⟩ | ⟨reply, rfl, hreply⟩⟩
    · have hdescribes : Describes reply (some single) := hreply
      have hfound := yields_get?_ok_iff.mpr ⟨hsend, reply, rfl, hdescribes⟩
      have hdone := (yields_rewriteMarks_ok_iff hsend).mpr hrest
      exact Program.yields_run_bind.mpr (.inr ⟨_, rest, some single, rfl, hfound, hdone⟩)
    · have hfound := yields_get?_ok_iff.mpr ⟨hsend, reply, rfl, hreply⟩
      exact Program.yields_run_bind.mpr (.inr ⟨_, [], none, rfl, hfound, rfl, rfl⟩)

/-! ## Replies that hold an instance -/

/-- A reply that holds an instance, given the text of the list of its marks. -/
def holding (marks : String) : Api.Reply :=
  .answered 200 (.text
    ("\x7b\"metadata\":\x7b\"finalizers\":" ++ marks ++
      "\x7d,\"spec\":\x7b\"kubernetesConfig\":\x7b\"image\":\"redis\"\x7d\x7d\x7d"))

theorem exists_of_finalizerList {reply : Api.Reply} {marks : List String}
    (h : (Api.decoded RedisSingle.format reply.result).toOption.map (·.metadata.finalizerList) =
      some marks) :
    ∃ single, Api.decoded RedisSingle.format reply.result = .ok single ∧
      single.metadata.finalizerList = marks := by
  cases hreply : Api.decoded RedisSingle.format reply.result with
  | error e => rw [hreply] at h; exact absurd h nofun
  | ok single => rw [hreply] at h; exact ⟨single, rfl, Option.some.inj h⟩

theorem holding_none :
    ∃ single, Api.decoded RedisSingle.format (holding "[]").result = .ok single ∧
      single.metadata.finalizerList = [] :=
  exists_of_finalizerList (by decide +kernel)

theorem holding_finalizer :
    ∃ single,
      Api.decoded RedisSingle.format (holding "[\"redis.kubeops.dev/finalizer\"]").result =
        .ok single ∧ single.metadata.finalizerList = [finalizer] :=
  exists_of_finalizerList (by decide +kernel)

end Reconcile
end RedisKeeper
