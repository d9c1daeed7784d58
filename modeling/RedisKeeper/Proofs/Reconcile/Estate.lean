import Mathlib.Order.BooleanAlgebra.Set
import RedisKeeper.Proofs.Reconcile.Serving
import RedisKeeper.Proofs.Reconcile.Teardown

/-
An instance and what goes with it, while it is removed.

Requests may be answered normally (`Normal`) or fail, carried out or not (`Failing`).  A
step that works has its effect, and one that fails has it or not (`effect_of_comes`), so
what is done are always the first steps (`exists_prefix_of_attempted`).  Where all is
answered normally, no step fails (`result_of_normal`).
-/
namespace RedisKeeper
namespace Reconcile

variable {ns name : String} {log : Api.Log}

/-! ## What there is of an instance -/

structure Estate where
  /-- The instance, if it exists. -/
  object : Option Stored
  /-- What exists in its namespace, whether or not it goes with the instance. -/
  belongings : Set Belonging

/-- The instance without the operator's mark. -/
def Stored.released (o : Stored) : Option Stored :=
  match withoutFinalizer? o.finalizers with
  | some marks => o.withMarks marks
  | none => some o

namespace Estate

def without (k : Estate) (gone : Set Belonging) : Estate :=
  { k with belongings := k.belongings \ gone }

def released (k : Estate) : Estate := { k with object := k.object.bind Stored.released }

/-- The marks of the instance are replaced, if it exists. -/
def rewritten (k : Estate) (marks : List String) : Estate :=
  { k with object := k.object.bind (·.withMarks marks) }

end Estate

/-- What a step that works has done. -/
def TeardownStep.effect (k : Estate) : TeardownStep → Estate
  | .service n => k.without {.service n}
  | .claim n => k.without {.claim n}
  | .finalizer => k.released

/-! ## What requests come to -/

/-- What a request comes to that is answered normally. -/
inductive Normal (ns name : String) : Estate → Exchange Api.interface → Estate → Prop
  | deleted {k : Estate} {r : Api.Request} {reply : Api.Reply} {x : Belonging} :
    r = x.request ns → x ∈ k.belongings → x.told reply = .ok () →
      Normal ns name k (Api.requested r reply) (k.without {x})
  | missing {k : Estate} {r : Api.Request} {reply : Api.Reply} {x : Belonging}
    {refusal : Api.Refusal} : r = x.request ns → x ∉ k.belongings →
      x.told reply = .error (.refused refusal) → refusal.code = 404 →
        Normal ns name k (Api.requested r reply) k
  | read {k : Estate} {r : Api.Request} {reply : Api.Reply} {found : Option RedisSingle} :
    r = Api.getRequest .redisSingle ns name → Describes reply found →
      found.map (·.metadata.finalizerList) = k.object.map (·.finalizers) →
        Normal ns name k (Api.requested r reply) k
  | rewritten {k : Estate} {r : Api.Request} {reply : Api.Reply} {marks : List String}
    {o : Stored} {single : RedisSingle} : r = replaceRequest ns name marks → k.object = some o →
      Api.decoded RedisSingle.format reply.result = .ok single →
        Normal ns name k (Api.requested r reply) (k.rewritten marks)

/-- What a request comes to that fails.  It may have been carried out all the same. -/
inductive Failing (ns name : String) : Estate → Exchange Api.interface → Estate → Prop
  | deletion {k k' : Estate} {r : Api.Request} {reply : Api.Reply} {x : Belonging}
    {e : Api.Error} : r = x.request ns → x.told reply = .error e → ¬ e.meansAbsent = true →
      k' = k ∨ k' = k.without {x} → Failing ns name k (Api.requested r reply) k'
  | reading {k : Estate} {r : Api.Request} {reply : Api.Reply} :
    r = Api.getRequest .redisSingle ns name → (∀ found, ¬ Describes reply found) →
      Failing ns name k (Api.requested r reply) k
  | rewriting {k k' : Estate} {r : Api.Request} {reply : Api.Reply} {marks : List String}
    {e : Api.Error} : r = replaceRequest ns name marks →
      Api.decoded RedisSingle.format reply.result = .error e →
        k' = k ∨ k' = k.rewritten marks → Failing ns name k (Api.requested r reply) k'

def Answers (ns name : String) (k : Estate) (e : Exchange Api.interface) (k' : Estate) : Prop :=
  Normal ns name k e k' ∨ Failing ns name k e k'

/-- Whether a log leads from one estate to another. -/
def Leads (R : Estate → Exchange Api.interface → Estate → Prop) :
    Estate → Api.Log → Estate → Prop
  | k, [], k' => k' = k
  | k, e :: log, k' => ∃ mid, R k e mid ∧ Leads R mid log k'

variable {R S : Estate → Exchange Api.interface → Estate → Prop} {k k' k₁ : Estate}

theorem leads_singleton_iff {e : Exchange Api.interface} : Leads R k [e] k' ↔ R k e k' := by
  constructor
  · rintro ⟨mid, h, rfl⟩
    exact h
  · intro h
    exact ⟨k', h, rfl⟩

theorem leads_append_iff {first second : Api.Log} :
    Leads R k (first ++ second) k' ↔ ∃ mid, Leads R k first mid ∧ Leads R mid second k' := by
  induction first generalizing k with
  | nil =>
    constructor
    · intro h
      exact ⟨k, rfl, h⟩
    · rintro ⟨mid, rfl, h⟩
      exact h
  | cons e first ih =>
    constructor
    · rintro ⟨mid, he, hrest⟩
      obtain ⟨mid', hfirst, hsecond⟩ := ih.mp hrest
      exact ⟨mid', ⟨mid, he, hfirst⟩, hsecond⟩
    · rintro ⟨mid', ⟨mid, he, hfirst⟩, hsecond⟩
      exact ⟨mid, he, ih.mpr ⟨mid', hfirst, hsecond⟩⟩

theorem Leads.mono (hRS : ∀ k e k', R k e k' → S k e k') (h : Leads R k log k') :
    Leads S k log k' := by
  induction log generalizing k with
  | nil => exact h
  | cons e log ih =>
    obtain ⟨mid, he, hrest⟩ := h
    exact ⟨mid, hRS _ _ _ he, ih hrest⟩

/-! ## One request -/

theorem Belonging.request_inj {x y : Belonging} (h : x.request ns = y.request ns) : x = y := by
  have hresource := congrArg Api.Request.resource h
  have hname := congrArg Api.Request.name h
  have hkinds : Api.ResourceType.service ≠ .claim := by decide
  cases x <;> cases y
  · exact congrArg service hname
  · exact absurd hresource hkinds
  · exact absurd hresource hkinds.symm
  · exact congrArg claim hname

theorem Belonging.request_verb (x : Belonging) : (x.request ns).verb = .delete := by
  cases x <;> rfl

theorem Belonging.request_ne (x : Belonging) {r : Api.Request} (hr : r.verb ≠ .delete) :
    x.request ns ≠ r := fun h => hr (h ▸ x.request_verb)

theorem Belonging.request_ne_getRequest (x : Belonging) :
    x.request ns ≠ Api.getRequest .redisSingle ns name := x.request_ne nofun

theorem Belonging.request_ne_replaceRequest (x : Belonging) (marks : List String) :
    x.request ns ≠ replaceRequest ns name marks := x.request_ne nofun

theorem getRequest_ne_replaceRequest (marks : List String) :
    Api.getRequest .redisSingle ns name ≠ replaceRequest ns name marks :=
  fun h => absurd (congrArg Api.Request.verb h) nofun

theorem replaceRequest_inj {marks marks' : List String}
    (h : replaceRequest ns name marks = replaceRequest ns name marks') : marks = marks' :=
  finalizerChange_inj (Option.some.inj (congrArg Api.Request.body h))

variable {x : Belonging} {reply : Api.Reply}

theorem Estate.without_eq_self (h : x ∉ k.belongings) : k.without {x} = k := by
  rw [without, Set.sdiff_singleton_eq_self h]

theorem Normal.of_deletion (h : Normal ns name k (Api.requested (x.request ns) reply) k') :
    k' = k.without {x} ∧ answerTo (x.told reply) = .ok () := by
  cases h with
  | deleted hr hmem htold =>
    obtain rfl := Belonging.request_inj hr
    exact ⟨rfl, congrArg answerTo htold⟩
  | missing hr hmem htold hcode =>
    obtain rfl := Belonging.request_inj hr
    refine ⟨(Estate.without_eq_self hmem).symm, ?_⟩
    rw [htold, answerTo_missing (meansAbsent_iff.mpr ⟨_, rfl, hcode⟩)]
  | read hr => exact absurd hr x.request_ne_getRequest
  | rewritten hr => exact absurd hr (x.request_ne_replaceRequest _)

theorem Normal.of_reading
    (h : Normal ns name k (Api.requested (Api.getRequest .redisSingle ns name) reply) k') :
    k' = k ∧ ∃ found, Describes reply found ∧
      found.map (·.metadata.finalizerList) = k.object.map (·.finalizers) := by
  cases h with
  | deleted hr => exact absurd hr.symm (Belonging.request_ne_getRequest _)
  | missing hr => exact absurd hr.symm (Belonging.request_ne_getRequest _)
  | read hr hdescribes hfound => exact ⟨rfl, _, hdescribes, hfound⟩
  | rewritten hr => exact absurd hr (getRequest_ne_replaceRequest _)

theorem Normal.of_rewriting {marks : List String}
    (h : Normal ns name k (Api.requested (replaceRequest ns name marks) reply) k') :
    k' = k.rewritten marks ∧
      ∃ single, Api.decoded RedisSingle.format reply.result = .ok single := by
  cases h with
  | deleted hr => exact absurd hr.symm (Belonging.request_ne_replaceRequest _ _)
  | missing hr => exact absurd hr.symm (Belonging.request_ne_replaceRequest _ _)
  | read hr => exact absurd hr.symm (getRequest_ne_replaceRequest _)
  | rewritten hr ho hsingle =>
    obtain rfl := replaceRequest_inj hr
    exact ⟨rfl, _, hsingle⟩

theorem Failing.of_deletion (h : Failing ns name k (Api.requested (x.request ns) reply) k') :
    (k' = k ∨ k' = k.without {x}) ∧ ∃ e, answerTo (x.told reply) = .error e := by
  cases h with
  | deletion hr htold hpresent heffect =>
    obtain rfl := Belonging.request_inj hr
    exact ⟨heffect, _, (congrArg answerTo htold).trans (answerTo_failed hpresent)⟩
  | reading hr => exact absurd hr x.request_ne_getRequest
  | rewriting hr => exact absurd hr (x.request_ne_replaceRequest _)

theorem Failing.of_reading
    (h : Failing ns name k (Api.requested (Api.getRequest .redisSingle ns name) reply) k') :
    k' = k ∧ ∀ found, ¬ Describes reply found := by
  cases h with
  | deletion hr => exact absurd hr.symm (Belonging.request_ne_getRequest _)
  | reading hr hnone => exact ⟨rfl, hnone⟩
  | rewriting hr => exact absurd hr (getRequest_ne_replaceRequest _)

theorem Failing.of_rewriting {marks : List String}
    (h : Failing ns name k (Api.requested (replaceRequest ns name marks) reply) k') :
    (k' = k ∨ k' = k.rewritten marks) ∧
      ∃ e, Api.decoded RedisSingle.format reply.result = .error e := by
  cases h with
  | deletion hr => exact absurd hr.symm (Belonging.request_ne_replaceRequest _ _)
  | reading hr => exact absurd hr.symm (getRequest_ne_replaceRequest _)
  | rewriting hr herror heffect =>
    obtain rfl := replaceRequest_inj hr
    exact ⟨heffect, _, herror⟩

/-- A deletion that a step takes for one that worked leaves the object gone. -/
theorem Answers.of_deletion (h : Answers ns name k (Api.requested (x.request ns) reply) k') :
    (k' = k ∨ k' = k.without {x}) ∧ (answerTo (x.told reply) = .ok () → k' = k.without {x}) := by
  rcases h with h | h
  · obtain ⟨rfl, -⟩ := h.of_deletion
    exact ⟨.inr rfl, fun _ => rfl⟩
  · obtain ⟨heffect, e, he⟩ := h.of_deletion
    exact ⟨heffect, fun hok => absurd (he.symm.trans hok) nofun⟩

/-- To read the instance changes nothing, and what is read then is so. -/
theorem Answers.of_reading
    (h : Answers ns name k (Api.requested (Api.getRequest .redisSingle ns name) reply) k') :
    k' = k ∧ ∀ found, Describes reply found →
      found.map (·.metadata.finalizerList) = k.object.map (·.finalizers) := by
  rcases h with h | h
  · obtain ⟨rfl, found, hdescribes, hfound⟩ := h.of_reading
    refine ⟨rfl, fun found' hdescribes' => ?_⟩
    rw [hdescribes'.unique hdescribes]
    exact hfound
  · obtain ⟨rfl, hnone⟩ := h.of_reading
    exact ⟨rfl, fun found hdescribes => absurd hdescribes (hnone found)⟩

/-- A rewriting that worked was carried out. -/
theorem Answers.of_rewriting {marks : List String}
    (h : Answers ns name k (Api.requested (replaceRequest ns name marks) reply) k') :
    (k' = k ∨ k' = k.rewritten marks) ∧ ∀ single,
      Api.decoded RedisSingle.format reply.result = .ok single → k' = k.rewritten marks := by
  rcases h with h | h
  · obtain ⟨rfl, -⟩ := h.of_rewriting
    exact ⟨.inr rfl, fun _ _ => rfl⟩
  · obtain ⟨heffect, e, he⟩ := h.of_rewriting
    exact ⟨heffect, fun single hok => absurd (he.symm.trans hok) nofun⟩

/-! ## One step -/

theorem Estate.released_eq_self
    (h : ∀ o, k.object = some o → withoutFinalizer? o.finalizers = none) : k.released = k := by
  obtain ⟨object, belongings⟩ := k
  cases object with
  | none => rfl
  | some o =>
    have hsame : o.released = some o := by rw [Stored.released, h o rfl]
    rw [released, Option.bind_some, hsame]

theorem Estate.released_eq_rewritten {o : Stored} {marks : List String} (ho : k.object = some o)
    (h : withoutFinalizer? o.finalizers = some marks) : k.released = k.rewritten marks := by
  rw [released, rewritten, ho, Option.bind_some, Option.bind_some, Stored.released, h]

variable {answer : Except Error Unit}

theorem Belonging.effect_step (x : Belonging) : x.step.effect k = k.without {x} := by
  cases x <;> rfl

theorem effect_of_removes (h : x.Removes ns answer log)
    (hleads : Leads (Answers ns name) k log k') :
    (k' = k ∨ k' = k.without {x}) ∧ (answer = .ok () → k' = k.without {x}) := by
  rcases Belonging.removes_iff.mp h with ⟨-, rfl, rfl⟩ | ⟨-, reply, rfl, rfl⟩
  · exact ⟨.inl hleads, nofun⟩
  · exact (leads_singleton_iff.mp hleads).of_deletion

/-- An instance that is kept is read with its marks. -/
theorem exists_of_read {found : Option RedisSingle} {o : Stored}
    (h : found.map (·.metadata.finalizerList) = k.object.map (·.finalizers))
    (ho : k.object = some o) :
    ∃ single, found = some single ∧ single.metadata.finalizerList = o.finalizers := by
  rw [ho] at h
  exact Option.map_eq_some_iff.mp h

theorem exists_of_kept {single : RedisSingle}
    (h : (some single).map (·.metadata.finalizerList) = k.object.map (·.finalizers)) :
    ∃ o, k.object = some o ∧ single.metadata.finalizerList = o.finalizers := by
  obtain ⟨o, ho, hmarks⟩ := Option.map_eq_some_iff.mp h.symm
  exact ⟨o, ho, hmarks.symm⟩

theorem effect_of_unmarks (h : Unmarks ns name log answer)
    (hleads : Leads (Answers ns name) k log k') :
    (k' = k ∨ k' = k.released) ∧ (answer = .ok () → k' = k.released) := by
  cases h with
  | unsent => exact ⟨.inl hleads, nofun⟩
  | unread =>
    obtain ⟨rfl, -⟩ := (leads_singleton_iff.mp hleads).of_reading
    exact ⟨.inl rfl, nofun⟩
  | unmarked hdescribes hnone =>
    obtain ⟨rfl, hread⟩ := (leads_singleton_iff.mp hleads).of_reading
    have hsame : k'.released = k' := by
      refine Estate.released_eq_self fun o ho => ?_
      obtain ⟨single, hsingle, hmarks⟩ := exists_of_read (hread _ hdescribes) ho
      rw [← hmarks]
      exact hnone single hsingle
    rw [hsame]
    exact ⟨.inl rfl, fun _ => rfl⟩
  | rewritten hdescribes hnext hanswer =>
    obtain ⟨mid, hread, hleads⟩ := hleads
    obtain ⟨rfl, hread⟩ := hread.of_reading
    obtain ⟨heffect, hworked⟩ := (leads_singleton_iff.mp hleads).of_rewriting
    -- What is written was made of what was read, and that is what is kept.
    obtain ⟨o, ho, hmarks⟩ := exists_of_kept (hread _ hdescribes)
    rw [hmarks] at hnext
    rw [Estate.released_eq_rewritten ho hnext]
    refine ⟨heffect, fun hok => ?_⟩
    obtain ⟨single', hsingle'⟩ := hanswer.mp hok
    exact hworked single' hsingle'

theorem effect_of_comes {step : TeardownStep} (h : Comes ns name ⟨step, answer⟩ log)
    (hleads : Leads (Answers ns name) k log k') :
    (k' = k ∨ k' = step.effect k) ∧ (answer = .ok () → k' = step.effect k) := by
  cases step with
  | service n => exact effect_of_removes (x := .service n) h hleads
  | claim n => exact effect_of_removes (x := .claim n) h hleads
  | finalizer => exact effect_of_unmarks (unmarks_of_yields h) hleads

/-! ## Steps that are answered normally -/

/-- The first request of a step. -/
def TeardownStep.request (ns name : String) : TeardownStep → Api.Request
  | .service n => deleteRequest .service ns n
  | .claim n => deleteRequest .claim ns n
  | .finalizer => Api.getRequest .redisSingle ns name

theorem answer_of_removes (hsend : (x.request ns).sendable = true) (h : x.Removes ns answer log)
    (hleads : Leads (Normal ns name) k log k') : answer = .ok () := by
  rcases Belonging.removes_iff.mp h with ⟨hunsent, -, -⟩ | ⟨-, reply, rfl, rfl⟩
  · exact absurd (hsend.symm.trans hunsent) nofun
  · exact (leads_singleton_iff.mp hleads).of_deletion.2

theorem answer_of_unmarks (hsend : (Api.getRequest .redisSingle ns name).sendable = true)
    (h : Unmarks ns name log answer) (hleads : Leads (Normal ns name) k log k') :
    answer = .ok () := by
  cases h with
  | unsent hunsent => exact absurd (hsend.symm.trans hunsent) nofun
  | unread hnone =>
    obtain ⟨-, found, hdescribes, -⟩ := (leads_singleton_iff.mp hleads).of_reading
    exact absurd hdescribes (hnone found)
  | unmarked => rfl
  | rewritten _ _ hanswer =>
    obtain ⟨mid, -, hleads⟩ := hleads
    exact hanswer.mpr (leads_singleton_iff.mp hleads).of_rewriting.2

theorem answer_of_comes {step : TeardownStep} (hsend : (step.request ns name).sendable = true)
    (h : Comes ns name ⟨step, answer⟩ log) (hleads : Leads (Normal ns name) k log k') :
    answer = .ok () := by
  cases step with
  | service n => exact answer_of_removes (x := .service n) hsend h hleads
  | claim n => exact answer_of_removes (x := .claim n) hsend h hleads
  | finalizer => exact answer_of_unmarks hsend (unmarks_of_yields h) hleads

/-! ## Several steps -/

variable {steps : List TeardownStep} {taken : List (Exchange teardownInterface)}
  {result : Except Error Unit}

theorem effects_of_succeeded (h : Program.Parted (Comes ns name) (steps.map succeeded) log)
    (hleads : Leads (Answers ns name) k log k') : k' = steps.foldl TeardownStep.effect k := by
  induction steps generalizing k log with
  | nil =>
    obtain rfl := Program.parted_nil_iff.mp h
    exact hleads
  | cons step steps ih =>
    obtain ⟨part, more, rfl, hstep, hmore⟩ := Program.parted_cons_iff.mp h
    obtain ⟨mid, hpart, hrest⟩ := leads_append_iff.mp hleads
    obtain rfl := (effect_of_comes hstep hpart).2 rfl
    exact ih hmore hrest

/-- What was done are the first steps, and all of them where they worked. -/
theorem exists_prefix_of_attempted (h : Attempted steps taken result)
    (hparted : Program.Parted (Comes ns name) taken log)
    (hleads : Leads (Answers ns name) k log k') :
    ∃ done, done <+: steps ∧ k' = done.foldl TeardownStep.effect k ∧
      (result = .ok () → done = steps) := by
  rcases h with ⟨rfl, rfl⟩ | ⟨done, step, rest, e, rfl, rfl, rfl⟩
  · exact ⟨steps, List.prefix_refl steps, effects_of_succeeded hparted hleads, fun _ => rfl⟩
  · obtain ⟨first, last, rfl, hdone, hstep⟩ := Program.parted_append_iff.mp hparted
    obtain ⟨mid, hfirst, hlast⟩ := leads_append_iff.mp hleads
    obtain rfl := effects_of_succeeded hdone hfirst
    have hcomes := Program.parted_singleton_iff.mp hstep
    -- The step that failed may have been carried out as well.
    rcases (effect_of_comes hcomes hlast).1 with rfl | rfl
    · exact ⟨done, List.prefix_append _ _, rfl, nofun⟩
    · refine ⟨done ++ [step], ⟨rest, by simp⟩, ?_, nofun⟩
      rw [List.foldl_append]
      rfl

theorem result_of_normal (hsend : ∀ step ∈ steps, (step.request ns name).sendable = true)
    (h : Attempted steps taken result) (hparted : Program.Parted (Comes ns name) taken log)
    (hleads : Leads (Normal ns name) k log k') : result = .ok () := by
  rcases h with ⟨-, rfl⟩ | ⟨done, step, rest, e, rfl, rfl, rfl⟩
  · rfl
  · obtain ⟨first, last, rfl, -, hstep⟩ := Program.parted_append_iff.mp hparted
    obtain ⟨mid, -, hlast⟩ := leads_append_iff.mp hleads
    have hcomes := Program.parted_singleton_iff.mp hstep
    have hstepsend := hsend step (List.mem_append_right _ List.mem_cons_self)
    exact absurd (answer_of_comes hstepsend hcomes hlast) nofun

end Reconcile
end RedisKeeper
