import RedisKeeper.Proofs.Reconcile.Marking

/-
An instance that another client marks too.

The operator reads the marks of an instance and writes them back as a whole, in two
requests.  What the other client does between the two is taken back, as if it had never
been done (`Shared.surviving`); what it does before or after stays, and so do the marks
of third parties (`finalizers_shared`).
-/
namespace RedisKeeper
namespace Reconcile

/-! ## The other client -/

/-- What a client does with its own mark, in one go. -/
inductive Edit where
  | add
  | drop
deriving DecidableEq

namespace Edit

def apply (own : String) : Edit → List String → List String
  | add, marks => if own ∈ marks then marks else marks ++ [own]
  | drop, marks => marks.filter (· ≠ own)

def applyAll (own : String) (edits : List Edit) (marks : List String) : List String :=
  edits.foldl (fun marks edit => edit.apply own marks) marks

/-- Whether a client's mark is there after what it did.  The last thing that it did
settles that, and where it did nothing, the mark is there if it was before. -/
def PresentAfter (edits : List Edit) (before : Prop) : Prop :=
  edits.getLast? = some add ∨ edits = [] ∧ before

variable {own : String} {edit : Edit} {edits more : List Edit} {marks : List String}

theorem mem_apply_of_ne {m : String} (hm : m ≠ own) : m ∈ edit.apply own marks ↔ m ∈ marks := by
  cases edit with
  | add =>
    rw [apply]
    split
    · exact Iff.rfl
    · simp [hm]
  | drop => simp [apply, hm]

theorem own_mem_apply : own ∈ edit.apply own marks ↔ edit = add := by
  cases edit with
  | add =>
    rw [apply]
    split
    · rename_i hown
      simp [hown]
    · simp
  | drop => simp [apply]

theorem nodup_apply (h : marks.Nodup) : (edit.apply own marks).Nodup := by
  cases edit with
  | add =>
    rw [apply]
    split
    · exact h
    · rename_i hown
      have hdisjoint : ∀ m ∈ marks, m ≠ own := fun m hm heq => hown (heq ▸ hm)
      exact List.nodup_append.mpr ⟨h, by simp, by simpa using hdisjoint⟩
  | drop => exact h.filter _

theorem mem_applyAll_of_ne {m : String} (hm : m ≠ own) :
    m ∈ applyAll own edits marks ↔ m ∈ marks := by
  induction edits generalizing marks with
  | nil => exact Iff.rfl
  | cons edit edits ih => exact ih.trans (mem_apply_of_ne hm)

theorem own_mem_applyAll :
    own ∈ applyAll own edits marks ↔ PresentAfter edits (own ∈ marks) := by
  rcases List.eq_nil_or_concat edits with rfl | ⟨before, edit, rfl⟩
  · simp [applyAll, PresentAfter]
  · have hlast : applyAll own (before.concat edit) marks =
        edit.apply own (applyAll own before marks) := by
      rw [applyAll, List.concat_eq_append, List.foldl_append]
      rfl
    rw [hlast, own_mem_apply, PresentAfter]
    simp

theorem nodup_applyAll (h : marks.Nodup) : (applyAll own edits marks).Nodup := by
  induction edits generalizing marks with
  | nil => exact h
  | cons edit edits ih => exact ih (nodup_apply h)

theorem presentAfter_append {before : Prop} :
    PresentAfter (edits ++ more) before ↔ PresentAfter more (PresentAfter edits before) := by
  rcases List.eq_nil_or_concat more with rfl | ⟨front, last, rfl⟩
  · simp [PresentAfter]
  · simp [PresentAfter]

end Edit

/-! ## What happens to the instance -/

/-- A request of the operator is answered, or the other client acts. -/
inductive Moment where
  | asked (e : Exchange Api.interface)
  | edited (edit : Edit)

/-- The requests of a history, with their replies. -/
def asked : List Moment → Api.Log
  | [] => []
  | .asked e :: rest => e :: asked rest
  | .edited _ :: rest => asked rest

def edits : List Moment → List Edit
  | [] => []
  | .asked _ :: rest => edits rest
  | .edited edit :: rest => edit :: edits rest

/-- An instance and the mark that another client sets on it. -/
structure Shared where
  ns : String
  name : String
  other : String
  foreign : other ≠ finalizer

def textOf? : Json → Option String
  | .str s => some s
  | _ => none

/-- The list of marks that a change holds. -/
def marksIn? (change : Json) : Option (List String) :=
  match change.at? ["metadata", "finalizers"] with
  | some (.arr items) => items.mapM textOf?
  | _ => none

namespace Shared

variable (o : Shared)

/-- Whether a question is a request about the instance itself. -/
def asks (verb : Api.Verb) : Api.Query → Bool
  | .request r =>
    r.verb = verb && r.resource = .redisSingle && r.ns = some o.ns && r.name = o.name &&
      r.subresource = none
  | _ => false

/-- The list that a request has put in the place of the instance's marks. -/
def written? : Exchange Api.interface → Option (List String)
  | ⟨.request r, reply⟩ =>
    if o.asks .merge (.request r) && reply.result.isOk then r.body.bind marksIn? else none
  | _ => none

def after (marks : List String) : Moment → List String
  | .asked e => (o.written? e).getD marks
  | .edited edit => edit.apply o.other marks

def afterAll (marks : List String) (history : List Moment) : List String :=
  history.foldl o.after marks

/-- Whether a reply to a request for the instance tells its marks, or only fails.  The
instance is there, so it is not said to be absent. -/
def Tells (marks : List String) : Exchange Api.interface → Prop
  | ⟨.request r, reply⟩ =>
    o.asks .get (.request r) = true →
      match Api.decoded RedisSingle.format reply.result with
      | .ok single => single.metadata.finalizerList = marks
      | .error (.refused refusal) => refusal.reason ≠ "NotFound"
      | .error _ => True
  | _ => True

/-- Whether all that is read in a history is what there is at the time. -/
def Told : List String → List Moment → Prop
  | _, [] => True
  | marks, .asked e :: rest => o.Tells marks e ∧ Told (o.after marks (.asked e)) rest
  | marks, .edited edit :: rest => Told (o.after marks (.edited edit)) rest

/-- What the other client does that is not taken back.  A write takes back what was
`pending`, which is what was done since the last read. -/
def surviving : List Edit → List Moment → List Edit
  | pending, [] => pending
  | pending, .edited edit :: rest => surviving (pending ++ [edit]) rest
  | pending, .asked e :: rest =>
    if (o.written? e).isSome then surviving [] rest
    else if o.asks .get e.query then pending ++ surviving [] rest
    else surviving pending rest

end Shared

/-! ## Histories -/

/-- A stretch of time in which only the other client acts. -/
def unasked (acts : List Edit) : List Moment := acts.map .edited

theorem exists_of_asked_eq_nil {history : List Moment} (h : asked history = []) :
    ∃ acts, history = unasked acts := by
  induction history with
  | nil => exact ⟨[], rfl⟩
  | cons moment rest ih =>
    cases moment with
    | asked e => exact absurd h (List.cons_ne_nil _ _)
    | edited edit =>
      obtain ⟨acts, rfl⟩ := ih h
      exact ⟨edit :: acts, rfl⟩

/-- In front of the first request, only the other client acts. -/
theorem exists_of_asked_eq_cons {history : List Moment} {e : Exchange Api.interface}
    {log : Api.Log} (h : asked history = e :: log) :
    ∃ before rest, history = unasked before ++ .asked e :: rest ∧ asked rest = log := by
  induction history with
  | nil => exact absurd h.symm (List.cons_ne_nil _ _)
  | cons moment rest ih =>
    cases moment with
    | asked e' =>
      obtain ⟨rfl, hrest⟩ := List.cons.inj h
      exact ⟨[], rest, rfl, hrest⟩
    | edited edit =>
      obtain ⟨before, after, rfl, hafter⟩ := ih h
      exact ⟨edit :: before, after, rfl, hafter⟩

namespace Shared

variable {o : Shared} {marks : List String} {history : List Moment}

theorem afterAll_edited (acts : List Edit) :
    o.afterAll marks (unasked acts ++ history) =
      o.afterAll (Edit.applyAll o.other acts marks) history := by
  rw [afterAll, List.foldl_append, unasked, List.foldl_map]
  rfl

theorem afterAll_asked (e : Exchange Api.interface) :
    o.afterAll marks (.asked e :: history) = o.afterAll ((o.written? e).getD marks) history := rfl

theorem told_edited_iff {acts : List Edit} :
    o.Told marks (unasked acts ++ history) ↔
      o.Told (Edit.applyAll o.other acts marks) history := by
  induction acts generalizing marks with
  | nil => exact Iff.rfl
  | cons edit acts ih => exact ih

theorem surviving_edited (pending acts : List Edit) :
    o.surviving pending (unasked acts ++ history) = o.surviving (pending ++ acts) history := by
  induction acts generalizing pending with
  | nil => rw [List.append_nil]; rfl
  | cons edit acts ih =>
    have hstep := ih (pending ++ [edit])
    rw [List.append_assoc] at hstep
    exact hstep

theorem asks_getRequest :
    o.asks .get (.request (Api.getRequest .redisSingle o.ns o.name)) = true := by
  simp [asks, Api.getRequest]

theorem written?_read (reply : Api.Reply) :
    o.written? (Api.requested (Api.getRequest .redisSingle o.ns o.name) reply) = none := rfl

theorem marksIn?_finalizerChange (marks : List String) :
    marksIn? (finalizerChange marks) = some marks := by
  show (marks.map Json.str).mapM textOf? = some marks
  induction marks with
  | nil => rfl
  | cons m marks ih =>
    rw [List.map_cons, List.mapM_cons, ih]
    rfl

theorem written?_replaced {reply : Api.Reply} (hreply : reply.result.isOk = true) :
    o.written? (Api.requested (replaceRequest o.ns o.name marks) reply) = some marks := by
  have hasks : o.asks .merge (.request (replaceRequest o.ns o.name marks)) = true := by
    simp [asks, replaceRequest]
  rw [written?, hasks, hreply]
  exact marksIn?_finalizerChange marks

theorem surviving_unasked (pending acts : List Edit) :
    o.surviving pending (unasked acts) = pending ++ acts := by
  have h : o.surviving pending (unasked acts ++ []) = o.surviving (pending ++ acts) [] :=
    surviving_edited pending acts
  rwa [List.append_nil] at h

theorem afterAll_unasked (acts : List Edit) :
    o.afterAll marks (unasked acts) = Edit.applyAll o.other acts marks := by
  have h : o.afterAll marks (unasked acts ++ []) =
      o.afterAll (Edit.applyAll o.other acts marks) [] := afterAll_edited acts
  rwa [List.append_nil] at h

theorem told_unasked (acts : List Edit) : o.Told marks (unasked acts) := by
  have h : o.Told marks (unasked acts ++ []) := told_edited_iff.mpr trivial
  rwa [List.append_nil] at h

/-- After the marks were read, what the other client does survives, unless the marks are
rewritten later. -/
theorem afterAll_of_rewrites {next : Option (List String)}
    (h : Rewrites o.ns o.name next (asked history)) :
    o.afterAll marks history =
      Edit.applyAll o.other (o.surviving [] history) (next.getD marks) := by
  cases next with
  | none =>
    obtain ⟨acts, rfl⟩ := exists_of_asked_eq_nil h
    rw [surviving_unasked, afterAll_unasked]
    rfl
  | some written =>
    obtain ⟨reply, single, hasked, hreply⟩ := h
    obtain ⟨window, rest, rfl, hrest⟩ := exists_of_asked_eq_cons hasked
    obtain ⟨later, rfl⟩ := exists_of_asked_eq_nil hrest
    have hworked : reply.result.isOk = true := by
      cases hresult : reply.result with
      | error e => rw [hresult] at hreply; exact absurd hreply nofun
      | ok text => rfl
    have hwritten :
        o.written? (Api.requested (replaceRequest o.ns o.name written) reply) = some written :=
      written?_replaced hworked
    rw [surviving_edited, surviving, afterAll_edited, afterAll_asked, hwritten,
      if_pos (Option.isSome_some), surviving_unasked, afterAll_unasked]
    rfl

/-- In the end there is what was read, rewritten, and changed by what the other client did
after that.  What it did before it was read survives. -/
theorem settled_of_adjusts {initial : List String} {change? : List String → Option (List String)}
    (htold : o.Told initial history) (h : Adjusts o.ns o.name change? (asked history)) :
    ∃ before later, o.surviving [] history = before ++ later ∧
      o.afterAll initial history = Edit.applyAll o.other later
        ((change? (Edit.applyAll o.other before initial)).getD
          (Edit.applyAll o.other before initial)) := by
  obtain ⟨reply, single, log, hasked, hreply, hrewrites⟩ := h
  obtain ⟨before, rest, rfl, rfl⟩ := exists_of_asked_eq_cons hasked
  rw [told_edited_iff] at htold
  have hread : single.metadata.finalizerList = Edit.applyAll o.other before initial := by
    have htells := htold.1 asks_getRequest
    rw [hreply] at htells
    exact htells
  rw [hread] at hrewrites
  refine ⟨before, o.surviving [] rest, ?_, ?_⟩
  · rw [surviving_edited, surviving, written?_read, if_neg nofun, if_pos asks_getRequest,
      List.nil_append]
  · rw [afterAll_edited, afterAll_asked, written?_read, Option.getD_none]
    exact afterAll_of_rewrites hrewrites

/-- Whether the marks of third parties are as they were, and the other client's is there
as what it did settles. -/
structure Respected (o : Shared) (initial final : List String) (acts : List Edit) : Prop where
  third : ∀ m, m ≠ finalizer → m ≠ o.other → (m ∈ final ↔ m ∈ initial)
  other : o.other ∈ final ↔ Edit.PresentAfter acts (o.other ∈ initial)

theorem respected_of_adjusts {initial : List String} {change? : List String → Option (List String)}
    (hchange : OwnOnly change?) (htold : o.Told initial history)
    (h : Adjusts o.ns o.name change? (asked history)) :
    o.Respected initial (o.afterAll initial history) (o.surviving [] history) := by
  obtain ⟨before, later, hsurviving, hfinal⟩ := settled_of_adjusts htold h
  rw [hsurviving, hfinal]
  constructor
  · intro m hm hother
    rw [Edit.mem_applyAll_of_ne hother, hchange _ m hm, Edit.mem_applyAll_of_ne hother]
  · rw [Edit.own_mem_applyAll, hchange _ _ o.foreign, Edit.own_mem_applyAll,
      Edit.presentAfter_append]

/-- The other client does nothing about the operator's mark. -/
theorem finalizer_mem_afterAll_iff {initial : List String}
    {change? : List String → Option (List String)} (hinitial : initial.Nodup)
    (htold : o.Told initial history) (h : Adjusts o.ns o.name change? (asked history)) :
    ∃ marks : List String, marks.Nodup ∧
      (finalizer ∈ o.afterAll initial history ↔ finalizer ∈ (change? marks).getD marks) := by
  obtain ⟨before, later, -, hfinal⟩ := settled_of_adjusts htold h
  refine ⟨Edit.applyAll o.other before initial, Edit.nodup_applyAll hinitial, ?_⟩
  rw [hfinal, Edit.mem_applyAll_of_ne o.foreign.symm]

end Shared

/-! ## Histories that can happen -/

namespace Shared

/-- A history in which the marks are read and rewritten while the other client acts before,
in between and after. -/
def overlapped (o : Shared) (before : List Edit) (read : Api.Reply) (window : List Edit)
    (marks : List String) (written : Api.Reply) (later : List Edit) : List Moment :=
  unasked before ++ .asked (Api.requested (Api.getRequest .redisSingle o.ns o.name) read) ::
    (unasked window ++
      .asked (Api.requested (replaceRequest o.ns o.name marks) written) :: unasked later)

variable {o : Shared} {before window later : List Edit} {read written : Api.Reply}
  {initial marks : List String}

/-- What the other client does in between is taken back. -/
theorem surviving_overlapped (hworked : written.result.isOk = true) :
    o.surviving [] (o.overlapped before read window marks written later) = before ++ later := by
  have hwritten :
      o.written? (Api.requested (replaceRequest o.ns o.name marks) written) = some marks :=
    written?_replaced hworked
  rw [overlapped, surviving_edited, surviving, written?_read, if_neg nofun,
    if_pos asks_getRequest, surviving_edited, surviving, hwritten, if_pos (Option.isSome_some),
    surviving_unasked]
  rfl

theorem asked_unasked (acts : List Edit) (history : List Moment) :
    asked (unasked acts ++ history) = asked history := by
  induction acts with
  | nil => rfl
  | cons edit acts ih => exact ih

theorem told_overlapped {single : RedisSingle}
    (hread : Api.decoded RedisSingle.format read.result = .ok single)
    (hmarks : single.metadata.finalizerList = Edit.applyAll o.other before initial) :
    o.Told initial (o.overlapped before read window marks written later) := by
  rw [overlapped, told_edited_iff]
  refine ⟨fun _ => ?_, ?_⟩
  · rw [hread]
    exact hmarks
  · rw [told_edited_iff]
    exact ⟨fun hasks => absurd hasks nofun, told_unasked later⟩

theorem adjusts_overlapped {change? : List String → Option (List String)}
    {single single' : RedisSingle}
    (hread : Api.decoded RedisSingle.format read.result = .ok single)
    (hchange : change? single.metadata.finalizerList = some marks)
    (hwritten : Api.decoded RedisSingle.format written.result = .ok single') :
    Adjusts o.ns o.name change? (asked (o.overlapped before read window marks written later)) := by
  have hlater := asked_unasked later []
  rw [List.append_nil] at hlater
  rw [overlapped, asked_unasked, asked, asked_unasked, asked, hlater]
  refine ⟨read, single, _, rfl, hread, ?_⟩
  rw [hchange]
  exact ⟨written, single', rfl, hwritten⟩

end Shared

theorem holding_backup :
    ∃ single,
      Api.decoded RedisSingle.format (holding "[\"example.com/backup\"]").result = .ok single ∧
        single.metadata.finalizerList = ["example.com/backup"] :=
  exists_of_finalizerList (by decide +kernel)

/-- A backup program marks the instance `cache` as well. -/
def backup : Shared := ⟨"prod", "cache", "example.com/backup", by decide⟩

theorem backup_sendable : (Api.getRequest .redisSingle backup.ns backup.name).sendable = true := by
  decide +kernel

/-! ## The helpers among the other client's acts -/

/-- However the other client's acts fall between the operator's requests, once a helper
has worked, the operator's mark is there or not as it is to be, and the marks of third
parties are as they were.  The other client's mark is there as the last of its acts
settles that did not fall between the read and the write. -/
theorem finalizers_shared (o : Shared) {initial : List String} (hinitial : initial.Nodup)
    {history : List Moment} (htold : o.Told initial history) :
    ((mark o.ns o.name).run.Yields (asked history) (.ok ()) →
      finalizer ∈ o.afterAll initial history ∧
        o.Respected initial (o.afterAll initial history) (o.surviving [] history)) ∧
    ((unmark o.ns o.name).run.Yields (asked history) (.ok ()) →
      finalizer ∉ o.afterAll initial history ∧
        o.Respected initial (o.afterAll initial history) (o.surviving [] history)) := by
  constructor
  · intro h
    obtain ⟨-, hadjusts⟩ := yields_mark_ok_iff.mp h
    obtain ⟨marks, -, hown⟩ := Shared.finalizer_mem_afterAll_iff hinitial htold hadjusts
    exact ⟨hown.mpr (mem_withFinalizer marks),
      Shared.respected_of_adjusts ownOnly_withFinalizer htold hadjusts⟩
  · intro h
    obtain ⟨-, hadjusts | ⟨reply, hasked, habsent⟩⟩ := yields_unmark_ok_iff.mp h
    · obtain ⟨marks, hmarks, hown⟩ := Shared.finalizer_mem_afterAll_iff hinitial htold hadjusts
      exact ⟨fun hmem => not_mem_withoutFinalizer hmarks (hown.mp hmem),
        Shared.respected_of_adjusts ownOnly_withoutFinalizer htold hadjusts⟩
    · -- The instance is there, so no reply denies it.
      obtain ⟨before, rest, rfl, -⟩ := exists_of_asked_eq_cons hasked
      obtain ⟨refusal, hrefused, hreason⟩ := habsent
      have htells := (Shared.told_edited_iff.mp htold).1 Shared.asks_getRequest
      rw [hrefused] at htells
      exact absurd hreason htells

/-- The backup drops its mark after the operator has read the marks, and the operator
writes it back.  Another time the backup marks the instance too early, and once more when
the operator has taken its own mark away. -/
theorem backup_shared :
    let marked := backup.overlapped [.add] (holding "[\"example.com/backup\"]") [.drop]
      ["example.com/backup", finalizer] (holding "[]") []
    let unmarked := backup.overlapped [] (holding "[\"redis.kubeops.dev/finalizer\"]") [.add] []
      (holding "[]") [.drop, .add]
    ((mark backup.ns backup.name).run.Yields (asked marked) (.ok ()) ∧
      finalizer ∈ backup.afterAll [] marked ∧
        backup.Respected [] (backup.afterAll [] marked) [.add]) ∧
    ((unmark backup.ns backup.name).run.Yields (asked unmarked) (.ok ()) ∧
      finalizer ∉ backup.afterAll [finalizer] unmarked ∧
        backup.Respected [finalizer] (backup.afterAll [finalizer] unmarked) [.drop, .add]) := by
  intro marked unmarked
  obtain ⟨empty, hempty, -⟩ := holding_none
  constructor
  · obtain ⟨single, hread, hmarks⟩ := holding_backup
    have htold : backup.Told [] marked := Shared.told_overlapped hread hmarks
    have hadjusts : Adjusts backup.ns backup.name withFinalizer? (asked marked) :=
      Shared.adjusts_overlapped hread (by rw [hmarks]; rfl) hempty
    have hyields := yields_mark_ok_iff.mpr ⟨backup_sendable, hadjusts⟩
    have hsurviving : backup.surviving [] marked = [.add] := Shared.surviving_overlapped rfl
    obtain ⟨hown, hothers⟩ := (finalizers_shared backup List.nodup_nil htold).1 hyields
    rw [hsurviving] at hothers
    exact ⟨hyields, hown, hothers⟩
  · obtain ⟨single, hread, hmarks⟩ := holding_finalizer
    have htold : backup.Told [finalizer] unmarked := Shared.told_overlapped hread hmarks
    have hadjusts : Adjusts backup.ns backup.name withoutFinalizer? (asked unmarked) :=
      Shared.adjusts_overlapped hread (by rw [hmarks]; rfl) hempty
    have hyields := yields_unmark_ok_iff.mpr ⟨backup_sendable, .inl hadjusts⟩
    have hsurviving : backup.surviving [] unmarked = [.drop, .add] :=
      Shared.surviving_overlapped rfl
    have hnodup : [finalizer].Nodup := by simp
    obtain ⟨hown, hothers⟩ := (finalizers_shared backup hnodup htold).2 hyields
    rw [hsurviving] at hothers
    exact ⟨hyields, hown, hothers⟩

/-- The mark that the backup sets between the operator's read and its write is lost. -/
theorem mark_loses_backup :
    let history := backup.overlapped [] (holding "[]") [.add] [finalizer]
      (holding "[\"redis.kubeops.dev/finalizer\"]") []
    backup.Told [] history ∧ (mark backup.ns backup.name).run.Yields (asked history) (.ok ()) ∧
      (edits history).getLast? = some .add ∧ backup.other ∉ backup.afterAll [] history := by
  intro history
  obtain ⟨single, hread, hmarks⟩ := holding_none
  obtain ⟨single', hwritten, -⟩ := holding_finalizer
  have htold : backup.Told [] history := Shared.told_overlapped hread hmarks
  have hadjusts : Adjusts backup.ns backup.name withFinalizer? (asked history) :=
    Shared.adjusts_overlapped hread (by rw [hmarks]; rfl) hwritten
  have hlost : backup.other ∉ backup.afterAll [] history := by decide +kernel
  exact ⟨htold, yields_mark_ok_iff.mpr ⟨backup_sendable, hadjusts⟩, rfl, hlost⟩

end Reconcile
end RedisKeeper
