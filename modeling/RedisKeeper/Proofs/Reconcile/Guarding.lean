import RedisKeeper.Proofs.Reconcile.Provision
import RedisKeeper.Proofs.Reconcile.Serving

/-
The mark on an instance guards its Services.

A look marks the instance before it applies a Service, and what comes after asks
nothing that takes the mark away (`only_build`).  A look that removes the instance
takes the mark away last, when it has seen both Services go (`safe_remove`).  Each look
is thus safe from wherever it starts (`safe_single`).
-/
namespace RedisKeeper
namespace Reconcile

variable {ns name : String} {w w' : World}

/-! ## Marking -/

/-- Work with the API is as safe as the one request that it sends. -/
theorem safe_attempt {α : Type} {f : Json.Format α} {r : Api.Request} {Q : α → World → Prop}
    (hw : w.Guarded name)
    (hsent : ∀ w', World.Others name w w' → ∀ reply w'',
      Serves ns name w' (Api.requested r reply) w'' →
        w''.Guarded name ∧ ∀ a, Api.decoded f reply.result = .ok a → Q a w'') :
    Safe ns name (OnSuccess Q)
      (attempt (do return Api.decoded f (← Api.sendNamed r))).run w := by
  refine Safe.bind (Q := fun d w => ∀ a, d = .ok a → Q a w) ?_ fun d w hw hd => ?_
  · refine Safe.bind (Q := fun result w => ∀ a, Api.decoded f result = .ok a → Q a w) ?_
      fun result w hw h => .of_done hw h
    exact safe_sendNamed hw (fun e _ a h => absurd h nofun) hsent
  · cases d with
    | error e => exact .of_done hw trivial
    | ok a => exact .of_done hw (hd a rfl)

theorem safe_get (hw : w.Guarded name) :
    Safe ns name
      (OnSuccess fun single w => ∃ o, w.object = some o ∧
        single.metadata.finalizerList = o.finalizers)
      (attempt (Api.get .redisSingle RedisSingle.format ns name)).run w := by
  refine safe_attempt hw fun w' ho reply w'' hserves => ?_
  obtain ⟨rfl, htruthful⟩ := hserves.eq_of_harmless (harmless_of_get rfl)
  exact ⟨hw.others ho, fun single hsingle => htruthful reply single rfl hsingle⟩

/-- To replace the marks changes the instance, or it fails and changes nothing. -/
theorem safe_replaceFinalizers {marks : List String} {A : World → Prop} (hw : w.Guarded name)
    (hguarded : ∀ w, A w → w.Guarded name)
    (hreplaced : ∀ w', World.Others name w w' → ∀ o, w'.object = some o →
      A { w' with object := o.withMarks marks }) :
    Safe ns name (OnSuccess fun _ => A) (replaceFinalizers ns name marks).run w := by
  refine Safe.run_bind (Q := fun _ => A) ?_ fun _ w hw hA => .of_done hw hA
  have hkind : Api.ResourceType.redisSingle ≠ .service := by decide
  refine safe_attempt hw fun w' ho reply w'' hserves => ?_
  rcases hserves.of_known ⟨rfl, rfl, .inl ⟨rfl, rfl, rfl, marks, rfl⟩⟩ with
    heffect | ⟨rfl, e, he, -⟩
  · cases heffect with
    | replaced marks' _ hbody hobject =>
      obtain rfl := finalizerChange_inj (Option.some.inj hbody)
      have hA := hreplaced w' ho _ hobject
      exact ⟨hguarded _ hA, fun _ _ => hA⟩
    | applied hresource => exact absurd hresource hkind
    | deleted hresource => exact absurd hresource hkind
  · refine ⟨hw.others ho, fun a ha => ?_⟩
    rw [he] at ha
    exact absurd ha nofun

theorem marked_withMarks {o : Stored} {marks : List String} (hmark : finalizer ∈ marks) :
    World.Marked { w with object := o.withMarks marks } := by
  have hne : ¬ (o.deleting = true ∧ marks = []) := fun h => List.ne_nil_of_mem hmark h.2
  exact ⟨{ o with finalizers := marks }, if_neg hne, hmark⟩

theorem safe_mark (hw : w.Guarded name) :
    Safe ns name (OnSuccess fun _ => World.Marked) (mark ns name).run w := by
  refine (safe_get hw).run_bind ?_
  rintro single w hw ⟨o, hobject, hmarks⟩
  rw [withFinalizer?]
  split
  · rename_i marks hchange
    split at hchange
    · exact absurd hchange nofun
    · obtain rfl := Option.some.inj hchange
      exact safe_replaceFinalizers hw (fun _ => World.Marked.guarded)
        fun w' _ o' _ => marked_withMarks (by simp)
  · rename_i hchange
    split at hchange
    · rename_i hmark
      exact .of_done hw ⟨o, hobject, hmarks ▸ hmark⟩
    · exact absurd hchange nofun

/-! ## Building -/

/-- What a look asks that brings an instance's objects into being. -/
def Building (ns : String) (q : Api.Query) : Prop :=
  Harmless q ∨ ∃ r, q = .request r ∧ r.ns = some ns ∧ r.subresource = none ∧
    r.resource = .service ∧ r.verb = .apply

/-- Building takes no mark away. -/
theorem marked_of_building {e : Exchange Api.interface} (he : Building ns e.query)
    (hw : w.Marked) (h : Serves ns name w e w') : w'.Marked := by
  obtain ⟨query, answer⟩ := e
  rcases he with hharmless | ⟨r, rfl, hns, hsubresource, hresource, hverb⟩
  · obtain ⟨rfl, -⟩ := h.eq_of_harmless hharmless
    exact hw
  · rcases h.of_known ⟨hns, hsubresource, .inr ⟨hresource, .inl hverb⟩⟩ with heffect | ⟨rfl, -⟩
    · cases heffect with
      | replaced _ hsingle => exact absurd (hresource.symm.trans hsingle) (by decide)
      | applied => exact hw
      | deleted _ hdelete => exact absurd (hverb.symm.trans hdelete) (by decide)
    · exact hw

theorem only_services {s : RedisSingle} (hns : s.metadata.ns = some ns) :
    (provideServices s.services).run.Only (Building ns) := by
  refine only_provideServices fun service hservice name ns' _ hns' => ?_
  obtain ⟨kind, -, rfl⟩ := List.mem_map.mp hservice
  obtain rfl : ns = ns' := Option.some.inj (hns.symm.trans hns')
  exact ⟨.inl (harmless_of_get rfl), .inr ⟨_, rfl, rfl, rfl, rfl, rfl⟩⟩

theorem only_listPodNames : (listPodNames ns name).run.Only (Building ns) := by
  refine Program.Only.run_bind (only_attempt ?_) fun _ => trivial
  have hpods : ∀ {r : Api.Request}, r.resource = .pod → Building ns (.request r) :=
    fun hr => .inl (harmless_of_resource hr (by decide))
  exact (Api.only_send (hpods rfl)).bind fun _ => trivial

theorem only_writeSingleStatus (s : RedisSingle) (status : SingleStatus) :
    (writeSingleStatus s ns status).run.Only (Building ns) :=
  Program.Only.run_bind (only_attempt (Api.only_decoded (.inl (.inr (.inl rfl)))))
    fun _ => trivial

theorem only_report (setting : Setting) (o : Owner) (type : Api.EventType)
    (reason action note : String) :
    (setting.publish o type reason action note).Only (Building ns) :=
  Api.only_publish (fun _ hresource _ => .inl (harmless_of_resource hresource (by decide)))
    _ _ _ _

theorem only_build {setting : Setting} {s : RedisSingle} (hns : s.metadata.ns = some ns) :
    (build setting s ns).run.Only (Building ns) := by
  have hset : ∀ {r : Api.Request}, r.resource = .statefulSet → Building ns (.request r) :=
    fun hr => .inl (harmless_of_resource hr (by decide))
  -- This is asked whether or not an event is published before it.
  have hrest : (do
      provideServices s.services
      let ready ← readReady ns s.name
      let nodes ← listPodNames ns s.name
      if RedisSingle.statusDiffers s.previousStatus ready nodes s.metadata.generation then
        writeSingleStatus s ns (s.statusAfter ready nodes setting.now.text) :
      Act Unit).run.Only (Building ns) := by
    refine (only_services hns).run_bind fun _ => ?_
    refine (only_readReady (hset rfl)).run_bind fun ready => ?_
    refine only_listPodNames.run_bind fun nodes => ?_
    split
    · exact only_writeSingleStatus s _
    · exact trivial
  rw [build]
  refine (only_provide fun _ _ _ _ => ⟨hset rfl, hset rfl⟩).run_bind fun created => ?_
  cases created with
  | false => exact hrest
  | true => exact ((only_report setting s.owner _ _ _ _).map .ok).run_bind fun _ => hrest

/-- Once the instance is marked, it stays so while it is built. -/
theorem safe_build {setting : Setting} {s : RedisSingle} (hns : s.metadata.ns = some ns)
    (hw : w.Marked) : Safe ns name (fun _ => World.Marked) (build setting s ns).run w :=
  safe_of_only (fun _ => World.Marked.guarded) (fun _ _ hw ho => ho.2 hw)
    (fun _ _ _ he hw h => marked_of_building he hw h) (only_build hns) hw

theorem safe_maintain {setting : Setting} {s : RedisSingle} (hns : s.metadata.ns = some ns)
    (hw : w.Guarded s.name) (hmark : isMarked s.metadata = true → w.Marked) :
    Safe ns s.name (fun _ _ => True) (maintain setting s ns).run w := by
  rw [maintain]
  split
  · exact ((safe_mark hw).run_bind fun _ w _ hw => (safe_build hns hw).onSuccess).weaken
  · rename_i hmarked
    rw [Bool.not_eq_true', Bool.not_eq_false] at hmarked
    exact (safe_build hns (hmark hmarked)).weaken

/-! ## Removing -/

namespace World

/-- Whether none of some Services exists. -/
def Gone (w : World) (services : List String) : Prop := ∀ service ∈ services, service ∉ w.services

theorem Gone.others {services : List String} (howned : ∀ service ∈ services, Owned name service)
    (hw : w.Gone services) (h : Others name w w') : w'.Gone services :=
  fun service hmem hin => hw service hmem (h.1 service (howned service hmem) hin)

theorem owned_iff {service : String} :
    Owned name service ↔ service ∈ (Teardown.of name).services := by
  rw [Owned, Teardown.of, List.mem_cons, List.mem_singleton]

/-- Where both Services are gone, nothing is left to be guarded. -/
theorem Gone.guarded (hw : w.Gone (Teardown.of name).services) : w.Guarded name :=
  fun service howned hmem => absurd hmem (hw service (owned_iff.mp howned))

end World

variable {gone : List String}

/-- Whether a deletion leaves no object behind: it worked, or there was none. -/
def Removed {α : Type} (r : Except Api.Error α) : Prop := ∀ e, r = .error e → e.meansAbsent = true

theorem gone_deleted {service : String} (hgone : w.Gone gone) :
    World.Gone { w with services := w.services.filter (· ≠ service) } (service :: gone) := by
  intro other hmem hin
  obtain ⟨hin, hne⟩ := List.mem_filter.mp hin
  rcases List.mem_cons.mp hmem with rfl | hmem
  · exact absurd rfl (of_decide_eq_true hne)
  · exact hgone other hmem hin

theorem guarded_deleted {service : String} (hw : w.Guarded name) :
    World.Guarded name { w with services := w.services.filter (· ≠ service) } :=
  fun other howned hin => hw other howned (List.mem_filter.mp hin).1

/-- A Service whose deletion worked is gone, and so are those that were gone before. -/
theorem safe_delete {service : String} (howned : ∀ s ∈ gone, World.Owned name s)
    (hw : w.Guarded name) (hgone : w.Gone gone) :
    Safe ns name (fun r w => Removed r → w.Gone (service :: gone))
      (Api.delete .service Api.serviceFormat ns service) w := by
  have hkind : Api.ResourceType.service ≠ .redisSingle := by decide
  rw [Api.delete]
  refine Safe.bind (Q := fun r w => Removed r → w.Gone (service :: gone))
    (safe_sendNamed hw ?unsent ?sent) fun r w hw h => .of_done hw ?_
  case unsent =>
    intro e he h
    cases e with
    | refused refusal => exact absurd rfl (he refusal)
    | _ => exact absurd (h _ rfl) Bool.false_ne_true
  case sent =>
    intro w' ho reply w'' hserves
    have hgone' := hgone.others howned ho
    rcases hserves.of_known ⟨rfl, rfl, .inr ⟨rfl, .inr rfl⟩⟩ with heffect | ⟨rfl, e, he, habsent⟩
    · cases heffect with
      | replaced _ hresource => exact absurd hresource hkind
      | applied _ hverb => exact absurd hverb nofun
      | deleted => exact ⟨guarded_deleted (hw.others ho), fun _ => gone_deleted hgone'⟩
    · refine ⟨hw.others ho, fun h other hmem => ?_⟩
      rcases List.mem_cons.mp hmem with rfl | hmem
      · exact habsent rfl (h e he)
      · exact hgone' other hmem
  · intro hremoved
    refine h fun e he => hremoved e ?_
    rw [he]
    rfl

theorem safe_removeService {service : String} (howned : ∀ s ∈ gone, World.Owned name s)
    (hw : w.Guarded name) (hgone : w.Gone gone) :
    Safe ns name (OnSuccess fun _ w => w.Gone (service :: gone))
      (takeStep ns name (.service service)) w := by
  rw [takeStep, ensureAbsent]
  refine (safe_delete howned hw hgone).bind fun r w hw h => ?_
  cases r with
  | ok u => exact .of_done hw (h nofun)
  | error e =>
    refine .of_done hw ?_
    split
    · rename_i habsent
      exact h fun e' he => Except.error.inj he ▸ habsent
    · exact trivial

theorem safe_takeSteps_cons {A : World → Prop} {step : TeardownStep} {rest : List TeardownStep}
    (hstep : Safe ns name (OnSuccess fun _ => A) (takeStep ns name step) w)
    (hrest : ∀ w, w.Guarded name → A w →
      Safe ns name (fun _ _ => True) ((takeSteps rest).via (takeStep ns name)) w) :
    Safe ns name (fun _ _ => True) ((takeSteps (step :: rest)).via (takeStep ns name)) w := by
  have hcall : (Program.call (I := teardownInterface) step).via (takeStep ns name) =
      takeStep ns name step := Program.bind_done _
  rw [takeSteps, Program.via_bind, hcall]
  refine hstep.bind fun r w hw hr => ?_
  cases r with
  | error e => exact .of_done hw trivial
  | ok u => exact hrest w hw hr

/-- Services are removed one after the other, and what comes then finds them gone. -/
theorem safe_takeServices {services : List String} {rest : List TeardownStep}
    (howned : ∀ service ∈ services ++ gone, World.Owned name service)
    (hrest : ∀ w, w.Guarded name → w.Gone (services ++ gone) →
      Safe ns name (fun _ _ => True) ((takeSteps rest).via (takeStep ns name)) w)
    (hw : w.Guarded name) (hgone : w.Gone gone) :
    Safe ns name (fun _ _ => True)
      ((takeSteps (services.map .service ++ rest)).via (takeStep ns name)) w := by
  induction services generalizing gone w with
  | nil => exact hrest w hw hgone
  | cons service services ih =>
    -- The first Service goes over from those that are to go to those that are gone.
    have hperm : ∀ s, s ∈ services ++ service :: gone ↔ s ∈ service :: services ++ gone := by
      intro s
      rw [List.cons_append, List.mem_append, List.mem_cons, List.mem_cons, List.mem_append]
      exact or_left_comm
    have hgoneowned : ∀ s ∈ gone, World.Owned name s :=
      fun s hs => howned s (List.mem_append_right _ hs)
    refine safe_takeSteps_cons (safe_removeService hgoneowned hw hgone) fun w hw hgone => ?_
    refine ih (fun s hs => howned s ((hperm s).mp hs)) (fun w hw hgone => ?_) hw hgone
    exact hrest w hw fun s hs => hgone s ((hperm s).mpr hs)

/-- Once both Services are gone, no harmless question brings them back. -/
theorem safe_afterwards {α : Type} {p : Api.Work α} (hp : p.Only Harmless)
    (hw : w.Gone (Teardown.of name).services) :
    Safe ns name (fun _ w => w.Gone (Teardown.of name).services) p w := by
  refine safe_of_only (P := Harmless) (fun _ => World.Gone.guarded)
    (fun _ _ hw ho => hw.others (fun _ => World.owned_iff.mpr) ho) (fun w w' e he hw h => ?_) hp hw
  obtain ⟨rfl, -⟩ := h.eq_of_harmless he
  exact hw

theorem only_removeClaim {claim : String} : (takeStep ns name (.claim claim)).Only Harmless := by
  rw [takeStep, ensureAbsent, Api.delete]
  refine Program.Only.bind ?_ fun r => ?_
  · refine (Api.only_sendNamed ?_).bind fun _ => trivial
    exact harmless_of_resource (t := .claim) rfl (by decide)
  · cases r <;> exact trivial

/-- The mark may go once both Services are gone. -/
theorem safe_unmark (hw : w.Gone (Teardown.of name).services) :
    Safe ns name (OnSuccess fun _ _ => True) (unmark ns name).run w := by
  refine Safe.run_bind (Q := fun _ w => w.Gone (Teardown.of name).services) ?_
    fun found w hw hgone => ?_
  · exact (safe_afterwards (only_attempt (Api.only_get? (harmless_of_get rfl))) hw).onSuccess
  · cases found with
    | none => exact .of_done hw trivial
    | some single =>
      dsimp only
      split
      · rename_i marks _
        refine (safe_replaceFinalizers (A := fun w => w.Gone (Teardown.of name).services) hw
          (fun _ => World.Gone.guarded) fun w' ho o _ => ?_).weaken.onSuccess
        have hgone' : w'.Gone (Teardown.of name).services :=
          hgone.others (fun _ => World.owned_iff.mpr) ho
        exact hgone'
      · exact .of_done hw trivial

theorem safe_remove {s : RedisSingle} (hw : w.Guarded s.name) :
    Safe ns s.name (fun _ _ => True) (remove s ns) w := by
  rw [remove]
  split
  · have hnil : w.Gone [] := List.forall_mem_nil _
    refine safe_takeServices ?_ (fun w hw hgone => ?_) hw hnil
    · intro service hmem
      rw [List.append_nil] at hmem
      exact World.owned_iff.mpr hmem
    · rw [List.append_nil] at hgone
      refine safe_takeSteps_cons (safe_afterwards only_removeClaim hgone).onSuccess ?_
      intro w _ hgone
      exact safe_takeSteps_cons (safe_unmark hgone) fun w hw _ => .of_done hw trivial
  · exact .of_done hw trivial

/-! ## A whole look -/

/-- Whether a resource that a look is given is the instance as it is kept. -/
structure Stored.Given (o : Stored) (ns name : String) (s : RedisSingle) : Prop where
  ns : s.metadata.ns = some ns
  name : s.name = name
  finalizers : s.metadata.finalizerList = o.finalizers
  deleting : s.metadata.deletionTimestamp.isSome = o.deleting

theorem safe_single {setting : Setting} {s : RedisSingle} {o : Stored} (hgiven : o.Given ns name s)
    (ho : w.object = some o) (hw : w.Guarded name) :
    Safe ns name (fun _ _ => True) (single setting s) w := by
  obtain ⟨hns, rfl, hmarks, -⟩ := hgiven
  rw [single, hns]
  dsimp only
  split
  · refine (safe_remove hw).bind fun r w hw _ => ?_
    cases r <;> exact .of_done hw trivial
  · have hmark : isMarked s.metadata = true → w.Marked := by
      intro h
      refine ⟨o, ho, ?_⟩
      rw [← hmarks]
      exact of_decide_eq_true h
    refine (safe_maintain hns hw hmark).bind fun r w hw _ => ?_
    cases r <;> exact .of_done hw trivial

end Reconcile
end RedisKeeper
