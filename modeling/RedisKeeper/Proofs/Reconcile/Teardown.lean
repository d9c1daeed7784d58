import RedisKeeper.Proofs.Reconcile.Marking
import RedisKeeper.Reconcile.Single

/-
Removing an instance, step by step.

Whatever the steps come to, those that are taken are the first ones up to one that fails
(`yields_takeSteps_iff`), so the mark goes last (`Attempted.before_finalizer`).  Against the
API each step is at most one deletion, or the rewriting of the marks (`yields_takeStep_iff`),
and a look at an instance that is to go away asks what its steps ask
(`yields_single_leaving_iff`).
-/
namespace RedisKeeper
namespace Reconcile

/-! ## Which steps are taken -/

/-- The exchange in which a step works. -/
def succeeded (step : TeardownStep) : Exchange teardownInterface := ⟨step, .ok ()⟩

/-- Whether steps were taken in order, either all of them with success, or up to one that
failed, with its error. -/
def Attempted (steps : List TeardownStep) (taken : List (Exchange teardownInterface))
    (result : Except Error Unit) : Prop :=
  (taken = steps.map succeeded ∧ result = .ok ()) ∨
    ∃ done step rest e, steps = done ++ step :: rest ∧
      taken = done.map succeeded ++ [⟨step, .error e⟩] ∧ result = .error e

section

variable {step : TeardownStep} {steps : List TeardownStep}
  {taken : List (Exchange teardownInterface)} {result answer : Except Error Unit}

theorem Attempted.cons (h : Attempted steps taken result) :
    Attempted (step :: steps) (succeeded step :: taken) result := by
  rcases h with ⟨rfl, rfl⟩ | ⟨done, last, rest, e, rfl, rfl, rfl⟩
  · exact .inl ⟨rfl, rfl⟩
  · exact .inr ⟨step :: done, last, rest, e, rfl, rfl, rfl⟩

theorem attempted_cons_iff :
    Attempted (step :: steps) taken result ↔
      (∃ e, taken = [⟨step, .error e⟩] ∧ result = .error e) ∨
        ∃ more, taken = succeeded step :: more ∧ Attempted steps more result := by
  constructor
  · rintro (⟨rfl, rfl⟩ | ⟨done, last, rest, e, hsteps, rfl, rfl⟩)
    · exact .inr ⟨steps.map succeeded, rfl, .inl ⟨rfl, rfl⟩⟩
    · cases done with
      | nil =>
        obtain ⟨rfl, rfl⟩ := List.cons.inj hsteps
        exact .inl ⟨e, rfl, rfl⟩
      | cons first done =>
        obtain ⟨rfl, rfl⟩ := List.cons.inj hsteps
        exact .inr ⟨_, rfl, .inr ⟨done, last, rest, e, rfl, rfl, rfl⟩⟩
  · rintro (⟨e, rfl, rfl⟩ | ⟨more, rfl, hmore⟩)
    · exact .inr ⟨[], step, steps, e, rfl, rfl, rfl⟩
    · exact hmore.cons

theorem yields_takeSteps_iff :
    (takeSteps steps).Yields taken result ↔ Attempted steps taken result := by
  induction steps generalizing taken with
  | nil =>
    constructor
    · intro h
      exact .inl h
    · rintro (h | ⟨done, step, rest, e, hsteps, -⟩)
      · exact h
      · exact absurd hsteps (by simp)
  | cons step steps ih =>
    rw [attempted_cons_iff]
    constructor
    · rintro ⟨answer, more, rfl, hmore⟩
      cases answer with
      | error e =>
        obtain ⟨rfl, rfl⟩ := hmore
        exact .inl ⟨e, rfl, rfl⟩
      | ok u => exact .inr ⟨more, rfl, ih.mp hmore⟩
    · rintro (⟨e, rfl, rfl⟩ | ⟨more, rfl, hmore⟩)
      · exact ⟨.error e, [], rfl, rfl, rfl⟩
      · exact ⟨.ok (), more, rfl, ih.mpr hmore⟩

/-- A split of a list with one more element at its end either splits the list or is at
that element. -/
theorem eq_append_of_concat {α : Type} {xs done rest : List α} {last x : α}
    (h : xs ++ [last] = done ++ x :: rest) :
    (∃ more, xs = done ++ x :: more) ∨ (done = xs ∧ x = last) := by
  rcases List.eq_nil_or_concat rest with rfl | ⟨more, y, rfl⟩
  · obtain ⟨rfl, hlast⟩ := List.append_inj' h rfl
    exact .inr ⟨rfl, (List.cons.inj hlast).1.symm⟩
  · rw [List.concat_eq_append, ← List.cons_append, ← List.append_assoc] at h
    exact .inl ⟨more, (List.append_inj' h rfl).1⟩

/-- What was attempted at the end was attempted after all else had worked. -/
theorem Attempted.before_last {last : TeardownStep} (h : Attempted (steps ++ [last]) taken result)
    (hlast : last ∉ steps) (hmem : (⟨last, answer⟩ : Exchange teardownInterface) ∈ taken) :
    taken = steps.map succeeded ++ [⟨last, answer⟩] := by
  have hquery {done : List TeardownStep}
      (hmem : (⟨last, answer⟩ : Exchange teardownInterface) ∈ done.map succeeded) :
      last ∈ done ∧ answer = .ok () := by
    obtain ⟨step, hstep, heq⟩ := List.mem_map.mp hmem
    cases heq
    exact ⟨hstep, rfl⟩
  rcases h with ⟨rfl, rfl⟩ | ⟨done, step, rest, e, hsteps, rfl, rfl⟩
  · obtain ⟨-, rfl⟩ := hquery hmem
    exact List.map_append
  · rcases eq_append_of_concat hsteps with ⟨more, rfl⟩ | ⟨rfl, rfl⟩
    · -- An attempt that ends earlier does not come to the last step.
      rw [List.mem_append, not_or] at hlast
      rcases List.mem_append.mp hmem with hmem | hmem
      · exact absurd (hquery hmem).1 hlast.1
      · cases List.mem_singleton.mp hmem
        exact absurd List.mem_cons_self hlast.2
    · rcases List.mem_append.mp hmem with hmem | hmem
      · exact absurd (hquery hmem).1 hlast
      · cases List.mem_singleton.mp hmem
        rfl

end

/-! ## What a step asks -/

variable {ns name : String} {log : Api.Log}

/-- The error where a request about one object is not sent. -/
def unsentError (r : Api.Request) : Api.Error :=
  if r.name.isEmpty then .unnamed else .unaddressable

theorem yields_sendNamed_iff {r : Api.Request} {result : Except Api.Error String} :
    (Api.sendNamed r).Yields log result ↔
      (r.sendable = false ∧ log = [] ∧ result = .error (unsentError r)) ∨
        (r.sendable = true ∧ ∃ reply, log = [Api.requested r reply] ∧ result = reply.result) := by
  constructor
  · intro h
    rcases Api.sent_of_yields h with ⟨hsend, rfl, -⟩ | hsent
    · refine .inl ⟨hsend, rfl, ?_⟩
      rw [Api.Request.sendable] at hsend
      rw [Api.sendNamed] at h
      by_cases hname : r.name.isEmpty = true
      · rw [if_pos hname] at h
        rw [unsentError, if_pos hname]
        exact h.2
      · have haddress : ¬ Api.isAddress r.path = true := by simpa [hname] using hsend
        rw [if_neg hname, Api.send, Api.ask, if_neg haddress] at h
        rw [unsentError, if_neg hname]
        exact h.2
    · exact .inr hsent
  · rintro (⟨hsend, rfl, rfl⟩ | ⟨hsend, reply, rfl, rfl⟩)
    · rw [Api.Request.sendable] at hsend
      rw [Api.sendNamed, unsentError]
      by_cases hname : r.name.isEmpty = true
      · rw [if_pos hname, if_pos hname]
        exact ⟨rfl, rfl⟩
      · have haddress : ¬ Api.isAddress r.path = true := by simpa [hname] using hsend
        rw [if_neg hname, if_neg hname, Api.send, Api.ask, if_neg haddress]
        exact ⟨rfl, rfl⟩
    · exact yields_sendNamed hsend reply

/-- An object that goes with an instance. -/
inductive Belonging where
  | service (name : String)
  | claim (name : String)
deriving DecidableEq

/-- The request that deletes an object of a kind. -/
def deleteRequest (t : Api.ResourceType) (ns name : String) : Api.Request :=
  { verb := .delete, resource := t, ns := some ns, name, body := some (.obj []) }

/-- What a reply says of the deletion of an object that is read in a format. -/
def deletion {α : Type} (f : Json.Format α) (reply : Api.Reply) : Except Api.Error Unit :=
  reply.result.bind fun text => (Api.deleted f text).mapError Api.undecodable

/-- What a step makes of a deletion.  That there is no such object is no failure. -/
def answerTo : Except Api.Error Unit → Except Error Unit
  | .ok () => .ok ()
  | .error e => if e.meansAbsent then .ok () else .error (.api e)

namespace Belonging

def step : Belonging → TeardownStep
  | service name => .service name
  | claim name => .claim name

def request (ns : String) : Belonging → Api.Request
  | service name => deleteRequest .service ns name
  | claim name => deleteRequest .claim ns name

/-- What a reply says of the deletion. -/
def told : Belonging → Api.Reply → Except Api.Error Unit
  | service _ => deletion Api.serviceFormat
  | claim _ => deletion Api.claimFormat

/-- What a step asks to remove an object, and its answer.  To be told by code 404 that there
is none is as good as its deletion. -/
inductive Removes (ns : String) (x : Belonging) : Except Error Unit → Api.Log → Prop
  | unsent : (x.request ns).sendable = false →
    Removes ns x (.error (.api (unsentError (x.request ns)))) []
  | deleted {reply : Api.Reply} : (x.request ns).sendable = true → x.told reply = .ok () →
    Removes ns x (.ok ()) [Api.requested (x.request ns) reply]
  | missing {reply : Api.Reply} {refusal : Api.Refusal} : (x.request ns).sendable = true →
    x.told reply = .error (.refused refusal) → refusal.code = 404 →
      Removes ns x (.ok ()) [Api.requested (x.request ns) reply]
  | failed {reply : Api.Reply} {e : Api.Error} : (x.request ns).sendable = true →
    x.told reply = .error e → (∀ refusal, e = .refused refusal → refusal.code ≠ 404) →
      Removes ns x (.error (.api e)) [Api.requested (x.request ns) reply]

end Belonging

theorem yields_ensureAbsent_iff {α : Type} {t : Api.ResourceType} {f : Json.Format α}
    {answer : Except Error Unit} :
    (ensureAbsent t f ns name).Yields log answer ↔
      ((deleteRequest t ns name).sendable = false ∧ log = [] ∧
        answer = .error (.api (unsentError (deleteRequest t ns name)))) ∨
      ((deleteRequest t ns name).sendable = true ∧ ∃ reply,
        log = [Api.requested (deleteRequest t ns name) reply] ∧
          answer = answerTo (deletion f reply)) := by
  have hensure : ensureAbsent t f ns name = (Api.sendNamed (deleteRequest t ns name) >>= fun sent =>
      pure (answerTo (sent.bind fun text => (Api.deleted f text).mapError Api.undecodable))) := by
    rw [ensureAbsent, Api.delete, bind_assoc]
    refine bind_congr fun sent => ?_
    rw [pure_bind]
    cases sent.bind fun text => (Api.deleted f text).mapError Api.undecodable with
    | ok u => rfl
    | error e => rfl
  have hunsent : answerTo (.error (unsentError (deleteRequest t ns name))) =
      .error (.api (unsentError (deleteRequest t ns name))) := by
    rw [unsentError]
    split <;> rfl
  rw [hensure, Program.yields_bind]
  constructor
  · rintro ⟨first, last, sent, rfl, hsent, rfl, rfl⟩
    rw [List.append_nil]
    rcases yields_sendNamed_iff.mp hsent with ⟨hsend, rfl, rfl⟩ | ⟨hsend, reply, rfl, rfl⟩
    · exact .inl ⟨hsend, rfl, hunsent⟩
    · exact .inr ⟨hsend, reply, rfl, rfl⟩
  · rintro (⟨hsend, rfl, rfl⟩ | ⟨hsend, reply, rfl, rfl⟩)
    · exact ⟨[], [], _, rfl, yields_sendNamed_iff.mpr (.inl ⟨hsend, rfl, rfl⟩), rfl, hunsent.symm⟩
    · exact ⟨_, [], _, rfl, yields_sendNamed hsend reply, rfl, rfl⟩

theorem meansAbsent_iff {e : Api.Error} :
    e.meansAbsent = true ↔ ∃ refusal, e = .refused refusal ∧ refusal.code = 404 := by
  constructor
  · intro h
    cases e with
    | refused refusal => exact ⟨refusal, rfl, of_decide_eq_true h⟩
    | _ => exact absurd h Bool.false_ne_true
  · rintro ⟨refusal, rfl, hcode⟩
    exact decide_eq_true hcode

theorem answerTo_missing {e : Api.Error} (h : e.meansAbsent = true) :
    answerTo (.error e) = .ok () := if_pos h

theorem answerTo_failed {e : Api.Error} (h : ¬ e.meansAbsent = true) :
    answerTo (.error e) = .error (.api e) := if_neg h

theorem Belonging.removes_iff {x : Belonging} {answer : Except Error Unit} :
    x.Removes ns answer log ↔
      ((x.request ns).sendable = false ∧ log = [] ∧
        answer = .error (.api (unsentError (x.request ns)))) ∨
      ((x.request ns).sendable = true ∧ ∃ reply,
        log = [Api.requested (x.request ns) reply] ∧ answer = answerTo (x.told reply)) := by
  constructor
  · intro h
    cases h with
    | unsent hsend => exact .inl ⟨hsend, rfl, rfl⟩
    | deleted hsend htold => exact .inr ⟨hsend, _, rfl, by rw [htold]; rfl⟩
    | missing hsend htold hcode =>
      refine .inr ⟨hsend, _, rfl, ?_⟩
      rw [htold, answerTo_missing (meansAbsent_iff.mpr ⟨_, rfl, hcode⟩)]
    | failed hsend htold hcode =>
      have hpresent : ¬ Api.Error.meansAbsent _ = true := fun h =>
        have ⟨refusal, he, h404⟩ := meansAbsent_iff.mp h
        hcode refusal he h404
      refine .inr ⟨hsend, _, rfl, ?_⟩
      rw [htold, answerTo_failed hpresent]
  · rintro (⟨hsend, rfl, rfl⟩ | ⟨hsend, reply, rfl, rfl⟩)
    · exact .unsent hsend
    · cases htold : x.told reply with
      | ok u => exact .deleted hsend htold
      | error e =>
        by_cases habsent : e.meansAbsent = true
        · obtain ⟨refusal, rfl, hcode⟩ := meansAbsent_iff.mp habsent
          rw [answerTo_missing habsent]
          exact .missing hsend htold hcode
        · rw [answerTo_failed habsent]
          exact .failed hsend htold fun refusal he hcode =>
            habsent (meansAbsent_iff.mpr ⟨refusal, he, hcode⟩)

/-- What a step asks, and its answer. -/
def Comes (ns name : String) : Exchange teardownInterface → Api.Log → Prop
  | ⟨.service service, answer⟩ => (Belonging.service service).Removes ns answer
  | ⟨.claim claim, answer⟩ => (Belonging.claim claim).Removes ns answer
  | ⟨.finalizer, answer⟩ => ((unmark ns name).run.Yields · answer)

theorem yields_removal_iff {x : Belonging} {answer : Except Error Unit} :
    (takeStep ns name x.step).Yields log answer ↔ x.Removes ns answer log := by
  rw [Belonging.removes_iff]
  cases x <;> exact yields_ensureAbsent_iff

theorem yields_takeStep_iff {e : Exchange teardownInterface} :
    (takeStep ns name e.query).Yields log e.answer ↔ Comes ns name e log := by
  obtain ⟨step, answer⟩ := e
  cases step with
  | service service => exact yields_removal_iff (x := .service service)
  | claim claim => exact yields_removal_iff (x := .claim claim)
  | finalizer => exact Iff.rfl

theorem yields_teardown_iff {plan : Teardown} {result : Except Error Unit} :
    ((teardown plan).via (takeStep ns name)).Yields log result ↔
      ∃ taken, Attempted plan.steps taken result ∧ Program.Parted (Comes ns name) taken log := by
  have hcomes : (fun e : Exchange teardownInterface =>
      ((takeStep ns name e.query).Yields · e.answer)) = Comes ns name := by
    funext e part
    exact propext yields_takeStep_iff
  rw [Program.yields_via, hcomes, teardown]
  simp only [yields_takeSteps_iff]

/-! ## Taking the mark away -/

/-- What a reply says of the instance is one thing. -/
theorem Describes.unique {reply : Api.Reply} {found found' : Option RedisSingle}
    (h : Describes reply found) (h' : Describes reply found') : found = found' := by
  cases found with
  | some single =>
    cases found' with
    | some single' => exact congrArg some (Except.ok.inj (h.symm.trans h'))
    | none =>
      obtain ⟨refusal, hrefused, -⟩ := h'
      exact absurd (h.symm.trans hrefused) nofun
  | none =>
    obtain ⟨refusal, hrefused, -⟩ := h
    cases found' with
    | some single' => exact absurd (h'.symm.trans hrefused) nofun
    | none => rfl

/-- A look-up that failed was not sent, or its reply says nothing of the instance. -/
theorem yields_get?_error {e : Error}
    (h : (attempt (Api.get? .redisSingle RedisSingle.format ns name)).run.Yields log (.error e)) :
    ((Api.getRequest .redisSingle ns name).sendable = false ∧ log = []) ∨
      ∃ reply, log = [Api.requested (Api.getRequest .redisSingle ns name) reply] ∧
        ∀ found, ¬ Describes reply found := by
  obtain ⟨result, hresult, hget⟩ := yields_attempt.mp h
  have hfailed : ∀ found, result ≠ .ok found := by
    rintro found rfl
    cases hresult
  rw [Api.get?] at hget
  obtain ⟨first, last, got, rfl, hgot, hlast⟩ := Program.yields_bind.mp hget
  rcases Api.got_of_yields hgot with ⟨hsend, rfl, e', rfl, hunrefused⟩ | ⟨-, reply, rfl, rfl⟩
  · refine .inl ⟨hsend, ?_⟩
    cases e' with
    | refused refusal => exact absurd rfl (hunrefused refusal)
    | _ => exact hlast.1
  · right
    refine ⟨reply, ?_⟩
    cases hgot : Api.decoded RedisSingle.format reply.result with
    | ok single =>
      rw [hgot] at hlast
      exact absurd hlast.2 (hfailed _)
    | error e' =>
      rw [hgot] at hlast
      have hnone {found : Option RedisSingle} (hdescribes : Describes reply found) :
          ∃ refusal, e' = .refused refusal ∧ refusal.reason = "NotFound" := by
        cases found with
        | some single => cases hgot.symm.trans hdescribes
        | none =>
          obtain ⟨refusal, hrefused, hreason⟩ := hdescribes
          exact ⟨refusal, Except.error.inj (hgot.symm.trans hrefused), hreason⟩
      cases e' with
      | refused refusal =>
        dsimp only at hlast
        by_cases hreason : refusal.reason = "NotFound"
        · rw [if_pos hreason] at hlast
          exact absurd hlast.2 (hfailed _)
        · rw [if_neg hreason] at hlast
          refine ⟨congrArg _ hlast.1, fun found hdescribes => ?_⟩
          obtain ⟨refusal', hrefused, hreason'⟩ := hnone hdescribes
          cases hrefused
          exact hreason hreason'
      | _ =>
        refine ⟨congrArg _ hlast.1, fun found hdescribes => ?_⟩
        obtain ⟨refusal, hrefused, -⟩ := hnone hdescribes
        cases hrefused

/-- How an attempt to take the mark away may go. -/
inductive Unmarks (ns name : String) : Api.Log → Except Error Unit → Prop
  | unsent {e : Error} : (Api.getRequest .redisSingle ns name).sendable = false →
    Unmarks ns name [] (.error e)
  | unread {reply : Api.Reply} {e : Error} : (∀ found, ¬ Describes reply found) →
    Unmarks ns name [Api.requested (Api.getRequest .redisSingle ns name) reply] (.error e)
  | unmarked {reply : Api.Reply} {found : Option RedisSingle} : Describes reply found →
    (∀ single, found = some single → withoutFinalizer? single.metadata.finalizerList = none) →
      Unmarks ns name [Api.requested (Api.getRequest .redisSingle ns name) reply] (.ok ())
  | rewritten {reply reply' : Api.Reply} {single : RedisSingle} {marks : List String}
    {answer : Except Error Unit} : Describes reply (some single) →
    withoutFinalizer? single.metadata.finalizerList = some marks →
    (answer = .ok () ↔ ∃ single', Api.decoded RedisSingle.format reply'.result = .ok single') →
      Unmarks ns name [Api.requested (Api.getRequest .redisSingle ns name) reply,
        Api.requested (replaceRequest ns name marks) reply'] answer

theorem replaced_of_yields {marks : List String} {answer : Except Error Unit}
    (hsend : (Api.getRequest .redisSingle ns name).sendable = true)
    (h : (replaceFinalizers ns name marks).run.Yields log answer) :
    ∃ reply, log = [Api.requested (replaceRequest ns name marks) reply] ∧
      (answer = .ok () ↔ ∃ single, Api.decoded RedisSingle.format reply.result = .ok single) := by
  rcases Program.yields_run_bind.mp h with ⟨e, he, rfl⟩ | ⟨first, last, single, rfl, hok, rfl, rfl⟩
  · obtain ⟨result, hresult, hdecoded⟩ := yields_attempt.mp he
    obtain ⟨first, last, sent, rfl, hsent, rfl, rfl⟩ := Program.yields_bind.mp hdecoded
    rcases yields_sendNamed_iff.mp hsent with ⟨hunsent, -, -⟩ | ⟨-, reply, rfl, rfl⟩
    · exact absurd (hsend.symm.trans hunsent) nofun
    · refine ⟨reply, rfl, iff_of_false nofun ?_⟩
      rintro ⟨single, hsingle⟩
      rw [hsingle] at hresult
      exact absurd hresult nofun
  · obtain ⟨-, reply, rfl, hreply⟩ := yields_decoded_ok_iff.mp hok
    exact ⟨reply, rfl, iff_of_true rfl ⟨single, hreply⟩⟩

theorem unmarks_of_yields {answer : Except Error Unit}
    (h : (unmark ns name).run.Yields log answer) : Unmarks ns name log answer := by
  rw [unmark_eq] at h
  rcases Program.yields_run_bind.mp h with ⟨e, he, rfl⟩ | ⟨first, rest, found, rfl, hfound, hrest⟩
  · rcases yields_get?_error he with ⟨hsend, rfl⟩ | ⟨reply, rfl, hnone⟩
    · exact .unsent hsend
    · exact .unread hnone
  · obtain ⟨hsend, reply, rfl, hdescribes⟩ := yields_get?_ok_iff.mp hfound
    cases found with
    | none =>
      obtain ⟨rfl, rfl⟩ := hrest
      exact .unmarked hdescribes fun single hsingle => absurd hsingle nofun
    | some single =>
      dsimp only at hrest
      cases hnext : withoutFinalizer? single.metadata.finalizerList with
      | none =>
        rw [hnext] at hrest
        obtain ⟨rfl, rfl⟩ := hrest
        refine .unmarked hdescribes ?_
        rintro single' ⟨⟩
        exact hnext
      | some marks =>
        rw [hnext] at hrest
        obtain ⟨reply', rfl, hanswer⟩ := replaced_of_yields hsend hrest
        exact .rewritten hdescribes hnext hanswer

/-! ## A look at an instance that is to go away -/

/-- Whether an instance that a look is given is to go away. -/
structure Leaving (ns name : String) (s : RedisSingle) : Prop where
  ns : s.metadata.ns = some ns
  name : s.name = name
  deleting : s.metadata.deletionTimestamp.isSome = true

/-- How a look ends that removed what belongs to an instance. -/
def endOf : Except Error Unit → Tick
  | .error e => .failed e
  | .ok () => .ended .none

variable {setting : Setting} {s : RedisSingle} {tick : Tick}

theorem single_leaving (h : Leaving ns name s) : single setting s = endOf <$> remove s ns := by
  rw [single, h.ns, map_eq_pure_bind]
  dsimp only
  rw [if_pos h.deleting]
  refine bind_congr fun result => ?_
  cases result <;> rfl

/-- A look at a marked instance takes the steps that remove it. -/
theorem yields_single_leaving_iff (h : Leaving ns name s) (hmark : isMarked s.metadata = true) :
    (single setting s).Yields log tick ↔
      ∃ taken result, Attempted (Teardown.of name).steps taken result ∧
        Program.Parted (Comes ns name) taken log ∧ tick = endOf result := by
  rw [single_leaving h, Program.yields_map, remove, if_pos hmark, h.name]
  simp only [yields_teardown_iff]
  constructor
  · rintro ⟨result, rfl, taken, htaken, hparted⟩
    exact ⟨taken, result, htaken, hparted, rfl⟩
  · rintro ⟨taken, result, htaken, hparted, rfl⟩
    exact ⟨result, rfl, taken, htaken, hparted⟩

/-- A look at an instance without the mark asks nothing. -/
theorem eq_nil_of_unmarked (h : Leaving ns name s) (hmark : ¬ isMarked s.metadata = true)
    (hlook : (single setting s).Yields log tick) : log = [] := by
  rw [single_leaving h, Program.yields_map, remove, if_neg hmark] at hlook
  obtain ⟨result, -, hlog, -⟩ := hlook
  exact hlog

end Reconcile
end RedisKeeper
