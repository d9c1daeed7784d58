import Mathlib.Logic.Relation
import RedisKeeper.Proofs.Reconcile.Estate
import RedisKeeper.Proofs.Reconcile.Sharing

/-
An instance that goes away, whatever became of it so far.

As the steps that are done are the first ones, what is left after any number of looks is
settled (`Underway`).  A look that is answered normally comes to the same end from there
as from the start (`Underway.completed_eq`), so it does not matter how many looks there
were before (`removal_restartable`).
-/
namespace RedisKeeper
namespace Reconcile

variable {ns name : String} {log : Api.Log} {k k' k₁ : Estate}

/-! ## A whole plan -/

/-- What goes with an instance, in the order in which it is removed. -/
def Teardown.belongings (plan : Teardown) : List Belonging :=
  plan.services.map .service ++ [.claim plan.claim]

theorem Teardown.steps_eq (plan : Teardown) :
    plan.steps = plan.belongings.map Belonging.step ++ [.finalizer] := by
  rw [steps, belongings, List.map_append, List.map_map, List.append_assoc]
  rfl

/-- What is left once a plan has been carried out. -/
def Teardown.completed (plan : Teardown) (k : Estate) : Estate :=
  (k.without {x | x ∈ plan.belongings}).released

theorem Estate.without_without (k : Estate) (xs ys : Set Belonging) :
    (k.without xs).without ys = k.without (xs ∪ ys) := by
  rw [without, without, without, Set.sdiff_sdiff]

theorem foldl_effect_step (xs : List Belonging) :
    (xs.map Belonging.step).foldl TeardownStep.effect k = k.without {x | x ∈ xs} := by
  induction xs generalizing k with
  | nil => simp [Estate.without]
  | cons x xs ih =>
    rw [List.map_cons, List.foldl_cons, ih, x.effect_step, Estate.without_without]
    congr 1
    ext y
    simp

theorem foldl_effect_steps (plan : Teardown) :
    plan.steps.foldl TeardownStep.effect k = plan.completed k := by
  rw [plan.steps_eq, List.foldl_append, foldl_effect_step]
  rfl

/-- How far the removal of an instance may have come. -/
inductive Underway (plan : Teardown) (k : Estate) : Estate → Prop
  | removing {gone : Set Belonging} :
    gone ⊆ {x | x ∈ plan.belongings} → Underway plan k (k.without gone)
  | completed : Underway plan k (plan.completed k)

theorem underway_of_prefix {plan : Teardown} {done : List TeardownStep}
    (h : done <+: plan.steps) : Underway plan k (done.foldl TeardownStep.effect k) := by
  rw [plan.steps_eq, List.prefix_concat_iff] at h
  rcases h with rfl | hdone
  · rw [← plan.steps_eq, foldl_effect_steps]
    exact .completed
  · obtain ⟨xs, hxs, rfl⟩ := List.prefix_map_iff.mp hdone
    rw [foldl_effect_step]
    exact .removing fun x hx => hxs.subset hx

/-! ## Look after look -/

/-- Whether the instance, if it exists, has no mark twice. -/
def Estate.Distinct (k : Estate) : Prop := ∀ o, k.object = some o → o.finalizers.Nodup

theorem Stored.object_withMarks {o o' : Stored} {marks : List String}
    (h : o.withMarks marks = some o') : o'.finalizers = marks := by
  rw [withMarks] at h
  split at h
  · exact absurd h nofun
  · rw [← Option.some.inj h]

theorem withoutFinalizer?_erase {marks : List String} (h : marks.Nodup) :
    withoutFinalizer? (marks.erase finalizer) = none := by
  rw [withoutFinalizer?, if_neg h.not_mem_erase]

/-- A mark that has been taken away cannot be taken away again. -/
theorem Estate.released_released (h : k.Distinct) : k.released.released = k.released := by
  refine released_eq_self fun o ho => ?_
  obtain ⟨o', ho', hreleased⟩ := Option.bind_eq_some_iff.mp ho
  rw [Stored.released] at hreleased
  cases hnext : withoutFinalizer? o'.finalizers with
  | none =>
    rw [hnext] at hreleased
    rwa [← Option.some.inj hreleased]
  | some marks =>
    rw [hnext] at hreleased
    rw [Stored.object_withMarks hreleased]
    rw [withoutFinalizer?] at hnext
    split at hnext
    · obtain rfl := Option.some.inj hnext
      exact withoutFinalizer?_erase (h o' ho')
    · cases hnext

variable {plan : Teardown} {gone : Set Belonging}

theorem Teardown.completed_without (h : gone ⊆ {x | x ∈ plan.belongings}) :
    plan.completed (k.without gone) = plan.completed k := by
  rw [completed, Estate.without_without, Set.union_eq_right.mpr h, completed]

theorem Estate.released_without (k : Estate) (gone : Set Belonging) :
    k.released.without gone = (k.without gone).released := rfl

theorem Teardown.without_completed (h : gone ⊆ {x | x ∈ plan.belongings}) :
    (plan.completed k).without gone = plan.completed k := by
  rw [completed, Estate.released_without, Estate.without_without, Set.union_eq_left.mpr h]

theorem Teardown.completed_completed (h : k.Distinct) :
    plan.completed (plan.completed k) = plan.completed k := by
  have hdistinct : (k.without {x | x ∈ plan.belongings}).Distinct := h
  have hself : (plan.completed k).without {x | x ∈ plan.belongings} = plan.completed k :=
    without_completed (Set.Subset.refl _)
  calc plan.completed (plan.completed k) = (plan.completed k).released := by rw [completed, hself]
    _ = plan.completed k := Estate.released_released hdistinct

namespace Underway

theorem refl : Underway plan k k := by
  have hnone : k.without ∅ = k := by rw [Estate.without, Set.sdiff_empty]
  have h : Underway plan k (k.without ∅) := .removing (Set.empty_subset _)
  rwa [hnone] at h

theorem completed_eq (hdistinct : k.Distinct) (h : Underway plan k k') :
    plan.completed k' = plan.completed k := by
  cases h with
  | removing hgone => exact Teardown.completed_without hgone
  | completed => exact Teardown.completed_completed hdistinct

theorem trans (hdistinct : k.Distinct) (h : Underway plan k k₁) (h' : Underway plan k₁ k') :
    Underway plan k k' := by
  cases h' with
  | completed =>
    rw [h.completed_eq hdistinct]
    exact .completed
  | removing hgone' =>
    cases h with
    | removing hgone =>
      rw [Estate.without_without]
      exact .removing (Set.union_subset hgone hgone')
    | completed =>
      -- Once the mark is gone there is nothing left to remove.
      rw [Teardown.without_completed hgone']
      exact .completed

end Underway

/-- Whether a look at the instance while it is to go away leads from one estate to another.
Each look may be given the instance as it was at another time. -/
def Tried (ns name : String) (k k' : Estate) : Prop :=
  ∃ setting s log tick, Leaving ns name s ∧ (single setting s).Yields log tick ∧
    Leads (Answers ns name) k log k'

theorem underway_of_tried (h : Tried ns name k k') : Underway (Teardown.of name) k k' := by
  obtain ⟨setting, s, log, tick, hleaving, hlook, hleads⟩ := h
  by_cases hmark : isMarked s.metadata = true
  · obtain ⟨taken, result, htaken, hparted, -⟩ :=
      (yields_single_leaving_iff hleaving hmark).mp hlook
    obtain ⟨done, hdone, rfl, -⟩ := exists_prefix_of_attempted htaken hparted hleads
    exact underway_of_prefix hdone
  · obtain rfl := eq_nil_of_unmarked hleaving hmark hlook
    obtain rfl : k' = k := hleads
    exact .refl

theorem underway_of_looks (hdistinct : k.Distinct)
    (h : Relation.ReflTransGen (Tried ns name) k k') : Underway (Teardown.of name) k k' := by
  induction h with
  | refl => exact .refl
  | tail _ htried ih => exact ih.trans hdistinct (underway_of_tried htried)

/-- A look that is answered normally removes all that is left. -/
theorem completed_of_normal {setting : Setting} {s : RedisSingle} {tick : Tick}
    (hleaving : Leaving ns name s) (hmark : isMarked s.metadata = true)
    (hsend : ∀ step ∈ (Teardown.of name).steps, (step.request ns name).sendable = true)
    (hlook : (single setting s).Yields log tick) (hleads : Leads (Normal ns name) k log k') :
    tick = .ended .none ∧ k' = (Teardown.of name).completed k := by
  obtain ⟨taken, result, htaken, hparted, rfl⟩ :=
    (yields_single_leaving_iff hleaving hmark).mp hlook
  obtain rfl := result_of_normal hsend htaken hparted hleads
  have hanswers : Leads (Answers ns name) k log k' := hleads.mono fun _ _ _ => .inl
  obtain ⟨done, -, rfl, hall⟩ := exists_prefix_of_attempted htaken hparted hanswers
  rw [hall rfl, foldl_effect_steps]
  exact ⟨rfl, rfl⟩

theorem Estate.object_released {o : Stored} (ho : k.object = some o)
    (hmark : finalizer ∈ o.finalizers) (hnodup : o.finalizers.Nodup) :
    k.released.object = o.withMarks (o.finalizers.filter (· ≠ finalizer)) := by
  have hnext : withoutFinalizer? o.finalizers = some (o.finalizers.filter (· ≠ finalizer)) := by
    have hfilter : o.finalizers.erase finalizer = o.finalizers.filter (· ≠ finalizer) := by
      rw [hnodup.erase_eq_filter]
      exact List.filter_congr fun m _ => Bool.eq_iff_iff.mpr (by simp)
    rw [withoutFinalizer?, if_pos hmark, hfilter]
  rw [released_eq_rewritten ho hnext, rewritten, ho, Option.bind_some]

/-- Whatever the steps of a plan come to, they are taken in order, up to one that fails, and
the mark is only touched once all else has worked.  A look takes the steps of its plan, where
to be told that there is no such object is no failure and anything else is.  However many
looks there were before, whatever became of their requests, a look that is answered normally
leaves nothing that goes with the instance, and of the marks of the instance all others, in
the order they had. -/
theorem removal_restartable :
    (∀ (plan : Teardown) {σ : Type} (respond : Responder teardownInterface σ) (start : σ),
      let deletions : List TeardownStep := plan.services.map .service ++ [.claim plan.claim]
      let run := (teardown plan).runLogged respond start
      Attempted (deletions ++ [.finalizer]) run.2.1 run.1 ∧
        ∀ answer, (⟨.finalizer, answer⟩ : Exchange teardownInterface) ∈ run.2.1 →
          run.2.1 = deletions.map succeeded ++ [⟨.finalizer, answer⟩]) ∧
    ∀ (ns name : String) (setting : Setting) (s : RedisSingle),
      Leaving ns name s → isMarked s.metadata = true →
      (∀ log tick, (single setting s).Yields log tick ↔ ∃ taken result,
        Attempted (Teardown.of name).steps taken result ∧
          Program.Parted (Comes ns name) taken log ∧ tick = endOf result) ∧
      ∀ k k₁ k' o log tick, k.object = some o → finalizer ∈ o.finalizers → o.finalizers.Nodup →
        Relation.ReflTransGen (Tried ns name) k k₁ → (single setting s).Yields log tick →
        (∀ step ∈ (Teardown.of name).steps, (step.request ns name).sendable = true) →
        Leads (Normal ns name) k₁ log k' →
          tick.result = .ok .none ∧
          k'.belongings = k.belongings \ {x | x ∈ (Teardown.of name).belongings} ∧
          k'.object = o.withMarks (o.finalizers.filter (· ≠ finalizer)) := by
  constructor
  · intro plan σ respond start deletions run
    have hsteps : plan.steps = deletions ++ [.finalizer] := by
      show plan.steps = (plan.services.map .service ++ [.claim plan.claim]) ++ [.finalizer]
      rw [List.append_assoc]
      rfl
    have hrun : Attempted (deletions ++ [.finalizer]) run.2.1 run.1 := by
      rw [← hsteps]
      exact yields_takeSteps_iff.mp (Program.yields_runLogged respond (teardown plan) start)
    have hlast : TeardownStep.finalizer ∉ deletions := by simp [deletions]
    exact ⟨hrun, fun answer hmem => hrun.before_last hlast hmem⟩
  · intro ns name setting s hleaving hmark
    refine ⟨fun _ _ => yields_single_leaving_iff hleaving hmark, ?_⟩
    intro k k₁ k' o log tick ho hown hnodup hlooks hlook hsend hleads
    have hdistinct : k.Distinct := fun o' ho' => by
      rwa [← Option.some.inj (ho.symm.trans ho')]
    obtain ⟨rfl, rfl⟩ := completed_of_normal hleaving hmark hsend hlook hleads
    rw [(underway_of_looks hdistinct hlooks).completed_eq hdistinct]
    exact ⟨rfl, rfl, Estate.object_released ho hown hnodup⟩

/-- An instance that two other programs mark as well. -/
def retired : RedisSingle :=
  { RedisSingle.named "cache" {} with
    metadata := {
      name := some "cache"
      ns := some "prod"
      finalizers := some ["example.com/backup", finalizer, "example.com/audit"]
      deletionTimestamp := some ⟨1714557600, false⟩ } }

def retiredEstate : Estate where
  object := some ⟨["example.com/backup", finalizer, "example.com/audit"], true⟩
  belongings :=
    {.service "cache", .service "cache-headless", .service "other", .claim "cache-cache-0"}

/-- What is left of it after both Services have been deleted. -/
def retiredRest : Estate :=
  (retiredEstate.without {.service "cache"}).without {.service "cache-headless"}

def lookSetting : Setting :=
  ⟨"keeper-0", ⟨"redis-cli", 6379⟩, ⟨"2024-05-01T10:00:00Z", 1714557600, "17cbd9f0"⟩⟩

theorem leaving_retired : Leaving "prod" "cache" retired := ⟨rfl, rfl, rfl⟩

theorem isMarked_retired : isMarked retired.metadata = true := by decide

/-- The reply to a deletion that worked. -/
def deletedReply : Api.Reply := .answered 200 (.text "\x7b\"kind\":\"Status\"\x7d")

/-- The reply to a deletion where there is no such object. -/
def unknownReply : Api.Reply := .answered 404 (.text "")

theorem deletion_deletedReply :
    (deletion Api.serviceFormat deletedReply).isOk = true ∧
      (deletion Api.claimFormat deletedReply).isOk = true := by
  decide +kernel

theorem told_deletedReply (x : Belonging) : x.told deletedReply = .ok () := by
  have hok : (x.told deletedReply).isOk = true := by
    cases x with
    | service n => exact deletion_deletedReply.1
    | claim n => exact deletion_deletedReply.2
  cases h : x.told deletedReply with
  | ok u => rfl
  | error e =>
    rw [h] at hok
    exact absurd hok Bool.false_ne_true

theorem code_unknownReply : (Api.Refusal.of 404 (.text "")).code = 404 := by decide +kernel

theorem told_unknownReply (x : Belonging) :
    x.told unknownReply = .error (.refused (.of 404 (.text ""))) := by
  have hresult : unknownReply.result = .error (.refused (.of 404 (.text ""))) := by
    rw [unknownReply, Api.Reply.result, if_pos (by decide)]
  cases x <;> rw [Belonging.told, deletion, hresult, Except.bind]

theorem told_lost (x : Belonging) (text : String) :
    x.told (.lost text) = .error (.transport text) := by
  cases x <;> rw [Belonging.told, deletion, Api.Reply.result, Except.bind]

theorem sendable_retired :
    ∀ step ∈ (Teardown.of "cache").steps, (step.request "prod" "cache").sendable = true := by
  decide +kernel

/-- A look that loses the reply to the second deletion, which is carried out all the same. -/
theorem tried_retired : Tried "prod" "cache" retiredEstate retiredRest := by
  let e : Error := .api (.transport "connection reset")
  have hfirst : (Belonging.service "cache").Removes "prod" (.ok ())
      [Api.requested ((Belonging.service "cache").request "prod") deletedReply] :=
    .deleted (by decide +kernel) (told_deletedReply _)
  have hsecond : (Belonging.service "cache-headless").Removes "prod" (.error e)
      [Api.requested ((Belonging.service "cache-headless").request "prod")
        (.lost "connection reset")] :=
    .failed (by decide +kernel) (told_lost _ _) nofun
  have hattempted : Attempted (Teardown.of "cache").steps
      [succeeded (.service "cache"), ⟨.service "cache-headless", .error e⟩] (.error e) :=
    .inr ⟨[.service "cache"], .service "cache-headless", [.claim "cache-cache-0", .finalizer], e,
      rfl, rfl, rfl⟩
  have hlook : (single lookSetting retired).Yields _ (endOf (.error e)) :=
    (yields_single_leaving_iff leaving_retired isMarked_retired).mpr
      ⟨_, _, hattempted, .cons hfirst (.cons hsecond .nil), rfl⟩
  refine ⟨lookSetting, retired, _, _, leaving_retired, hlook, ?_⟩
  have hmem : Belonging.service "cache" ∈ retiredEstate.belongings := by simp [retiredEstate]
  exact ⟨_, .inl (.deleted rfl hmem (told_deletedReply _)), retiredRest,
    .inr (.deletion rfl (told_lost _ _) nofun (.inr rfl)), rfl⟩

/-- The reply to a request for the instance, with all its marks. -/
def retiredReply : Api.Reply :=
  holding ("[\"example.com/backup\",\"redis.kubeops.dev/finalizer\"," ++ "\"example.com/audit\"]")

/-- The reply to the request that takes the operator's mark away. -/
def releasedReply : Api.Reply := holding "[\"example.com/backup\",\"example.com/audit\"]"

theorem exists_of_retiredReply :
    ∃ single, Api.decoded RedisSingle.format retiredReply.result = .ok single ∧
      single.metadata.finalizerList = ["example.com/backup", finalizer, "example.com/audit"] :=
  exists_of_finalizerList (by decide +kernel)

theorem exists_of_releasedReply :
    ∃ single, Api.decoded RedisSingle.format releasedReply.result = .ok single ∧
      single.metadata.finalizerList = ["example.com/backup", "example.com/audit"] :=
  exists_of_finalizerList (by decide +kernel)

/-- The next look finds both Services gone and goes on from there. -/
def retiredLog : Api.Log :=
  [Api.requested ((Belonging.service "cache").request "prod") unknownReply,
    Api.requested ((Belonging.service "cache-headless").request "prod") unknownReply,
    Api.requested ((Belonging.claim "cache-cache-0").request "prod") deletedReply,
    Api.requested (Api.getRequest .redisSingle "prod" "cache") retiredReply,
    Api.requested (replaceRequest "prod" "cache" ["example.com/backup", "example.com/audit"])
      releasedReply]

theorem yields_retired : (single lookSetting retired).Yields retiredLog (.ended .none) := by
  obtain ⟨found, hfound, hmarks⟩ := exists_of_retiredReply
  obtain ⟨left, hleft, -⟩ := exists_of_releasedReply
  have hmissing {x : Belonging} (hsend : (x.request "prod").sendable = true) :
      x.Removes "prod" (.ok ()) [Api.requested (x.request "prod") unknownReply] :=
    .missing hsend (told_unknownReply x) code_unknownReply
  have hservice : Comes "prod" "cache" (succeeded (.service "cache")) _ :=
    hmissing (x := .service "cache") (by decide +kernel)
  have hheadless : Comes "prod" "cache" (succeeded (.service "cache-headless")) _ :=
    hmissing (x := .service "cache-headless") (by decide +kernel)
  have hclaim : Comes "prod" "cache" (succeeded (.claim "cache-cache-0")) _ :=
    Belonging.Removes.deleted (x := .claim "cache-cache-0") (by decide +kernel)
      (told_deletedReply _)
  have hrewrites : Rewrites "prod" "cache" (withoutFinalizer? found.metadata.finalizerList)
      [Api.requested (replaceRequest "prod" "cache" ["example.com/backup", "example.com/audit"])
        releasedReply] := by
    rw [hmarks]
    exact ⟨releasedReply, left, rfl, hleft⟩
  have hmark : Comes "prod" "cache" (succeeded .finalizer) _ :=
    yields_unmark_ok_iff.mpr ⟨by decide +kernel, .inl ⟨_, _, _, rfl, hfound, hrewrites⟩⟩
  exact (yields_single_leaving_iff leaving_retired isMarked_retired).mpr
    ⟨_, .ok (), .inl ⟨rfl, rfl⟩,
      .cons hservice (.cons hheadless (.cons hclaim (.cons hmark .nil))), rfl⟩

theorem exists_leads_retired : ∃ k', Leads (Normal "prod" "cache") retiredRest retiredLog k' := by
  obtain ⟨found, hfound, hmarks⟩ := exists_of_retiredReply
  obtain ⟨left, hleft, -⟩ := exists_of_releasedReply
  have hcache : Belonging.service "cache" ∉ retiredRest.belongings := by
    simp [retiredRest, Estate.without]
  have hheadless : Belonging.service "cache-headless" ∉ retiredRest.belongings := by
    simp [retiredRest, Estate.without]
  have hclaim : Belonging.claim "cache-cache-0" ∈ retiredRest.belongings := by
    simp [retiredRest, retiredEstate, Estate.without]
  have hdescribes : Describes retiredReply (some found) := hfound
  have hread : (some found).map (·.metadata.finalizerList) =
      (retiredRest.without {.claim "cache-cache-0"}).object.map (·.finalizers) :=
    congrArg some hmarks
  exact ⟨_, _, .missing rfl hcache (told_unknownReply _) code_unknownReply,
    _, .missing rfl hheadless (told_unknownReply _) code_unknownReply,
    _, .deleted rfl hclaim (told_deletedReply _), _, .read rfl hdescribes hread,
    _, .rewritten rfl rfl hleft, rfl⟩

theorem removal_restartable_retired :
    Tried "prod" "cache" retiredEstate retiredRest ∧
      (single lookSetting retired).Yields retiredLog (.ended .none) ∧
      ∃ k', Leads (Normal "prod" "cache") retiredRest retiredLog k' ∧
        (∀ x ∈ (Teardown.of "cache").belongings, x ∉ k'.belongings) ∧
        k'.object = some ⟨["example.com/backup", "example.com/audit"], true⟩ := by
  obtain ⟨k', hleads⟩ := exists_leads_retired
  have hmark : finalizer ∈ ["example.com/backup", finalizer, "example.com/audit"] := by simp
  have hnodup : ["example.com/backup", finalizer, "example.com/audit"].Nodup := by decide
  obtain ⟨-, hlook⟩ :=
    removal_restartable.2 "prod" "cache" lookSetting retired leaving_retired isMarked_retired
  obtain ⟨-, hbelongings, hobject⟩ := hlook retiredEstate retiredRest k' _ retiredLog _ rfl hmark
    hnodup (.single tried_retired) yields_retired sendable_retired hleads
  refine ⟨tried_retired, yields_retired, k', hleads, fun x hx hmem => ?_,
    hobject.trans (by decide)⟩
  rw [hbelongings] at hmem
  exact hmem.2 hx

end Reconcile
end RedisKeeper
