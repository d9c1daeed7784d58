import Mathlib.Data.List.Induction
import Mathlib.Data.List.Nodup
import RedisKeeper.Metrics.Exposition

/-
What the metrics hold after a history of observations.

Each observation is noted in one family or in two, and in each under one label set
(`Observation.labels?`).  A family changes in that sample only, and in the same way for all
families of a kind (`shown_record`).  So what a sample reads is told by the observations that
were noted under its labels, in their order, and by nothing else (`get?_shown_recordAll`).
-/
namespace RedisKeeper
namespace Metrics

/-! ## Families -/

namespace Family

variable {L L' V V' : Type}

/-- A family with labels and values written in another way. -/
def map (texts : L → L') (reading : V → V') (f : Family L V) : Family L' V' :=
  ⟨f.entries.map fun entry => (texts entry.1, reading entry.2)⟩

/-- Whether there is one value at most under each set of labels. -/
def Distinct (f : Family L V) : Prop := (f.entries.map Prod.fst).Nodup

variable [DecidableEq L] [DecidableEq L'] {f : Family L V} {labels : L} {start : V} {g : V → V}

/-- A family may be changed first and written in the other way then, or the other way round, if
the two changes do the same to what is written. -/
theorem map_update {texts : L → L'} {reading : V → V'} {start' : V'} {g' : V' → V'}
    (htexts : Function.Injective texts) (hstart : g' start' = reading (g start))
    (hchange : ∀ v, g' (reading v) = reading (g v)) :
    (f.update labels start g).map texts reading =
      (f.map texts reading).update (texts labels) start' g' := by
  obtain ⟨entries⟩ := f
  simp only [map, update, Family.mk.injEq]
  induction entries with
  | nil => simp [change, hstart]
  | cons entry rest ih =>
    obtain ⟨l, v⟩ := entry
    by_cases hl : l = labels
    · simp [change, hl, hchange]
    · simp [change, hl, htexts.ne hl, ih]

/-- New labels stand behind the others. -/
theorem map_fst_change (entries : List (L × V)) :
    (change start g labels entries).map Prod.fst =
      if labels ∈ entries.map Prod.fst then entries.map Prod.fst
      else entries.map Prod.fst ++ [labels] := by
  induction entries with
  | nil => simp [change]
  | cons entry rest ih =>
    obtain ⟨l, v⟩ := entry
    by_cases hl : l = labels
    · simp [change, hl]
    · rw [change, if_neg hl, List.map_cons, ih]
      simp only [List.map_cons, List.mem_cons, Ne.symm hl, false_or]
      split <;> rfl

theorem Distinct.update (h : f.Distinct) : (f.update labels start g).Distinct := by
  rw [Distinct, Family.update, map_fst_change]
  split
  · exact h
  · rename_i hnew
    exact List.concat_eq_append ▸ List.Nodup.concat hnew h

end Family

/-! ## Samples of all families -/

inductive FamilyName where
  | reconciliations
  | errors
  | durations
  | steps
  | nodes
  | failedNodes
  | desired
  | ready

def FamilyName.kind : FamilyName → FamilyKind
  | .reconciliations | .errors | .steps => .counter
  | .durations => .histogram
  | .nodes | .failedNodes | .desired | .ready => .gauge

/-- What a sample tells. -/
inductive Reading where
  | count (n : Nat)
  | level (value : Int)
  | spread (h : Histogram)

/-- What a sample tells before anything has been noted under its labels. -/
def FamilyKind.zero : FamilyKind → Reading
  | .counter => .count 0
  | .gauge => .level 0
  | .histogram => .spread .empty

/-- The samples of a family, under their labels as they are shown. -/
def shown (m : Metrics) : FamilyName → Family LabelTexts Reading
  | .reconciliations => m.reconciliations.map ObjectId.texts .count
  | .errors => m.errors.map ObjectId.texts .count
  | .durations => m.durations.map ObjectId.texts .spread
  | .steps => m.steps.map StepId.texts .count
  | .nodes => m.nodes.map ClusterId.texts .level
  | .failedNodes => m.failedNodes.map ClusterId.texts .level
  | .desired => m.desired.map RoleId.texts .level
  | .ready => m.ready.map RoleId.texts .level

theorem ObjectId.texts_injective : Function.Injective ObjectId.texts := by
  rintro ⟨kind, ns, name⟩ ⟨kind', ns', name'⟩ h
  simpa [texts] using h

theorem ClusterId.texts_injective : Function.Injective ClusterId.texts := by
  rintro ⟨ns, name⟩ ⟨ns', name'⟩ h
  simpa [texts] using h

theorem RoleId.texts_injective : Function.Injective RoleId.texts := by
  rintro ⟨ns, name, role⟩ ⟨ns', name', role'⟩ h
  simpa [texts] using h

theorem StepId.texts_injective : Function.Injective StepId.texts := by
  rintro ⟨ns, name, step⟩ ⟨ns', name', step'⟩ h
  simpa [texts] using h

/-! ## What an observation is noted as -/

namespace Observation

/-- The label set under which an observation is noted in a family, if it is. -/
def labels? : Observation → FamilyName → Option LabelTexts
  | .reconciled ⟨kind, ns, name⟩ _, .reconciliations
  | .reconciled ⟨kind, ns, name⟩ _, .durations
  | .failed ⟨kind, ns, name⟩, .errors =>
    some [("kind", kind), ("namespace", ns), ("name", name)]
  | .stepTaken ⟨ns, name, step⟩, .steps =>
    some [("namespace", ns), ("name", name), ("action", step)]
  | .nodesSeen ⟨ns, name⟩ _ _, .nodes
  | .nodesSeen ⟨ns, name⟩ _ _, .failedNodes =>
    some [("namespace", ns), ("name", name)]
  | .replicasSeen ⟨ns, name, role⟩ _ _, .desired
  | .replicasSeen ⟨ns, name, role⟩ _ _, .ready =>
    some [("namespace", ns), ("name", name), ("role", role)]
  | _, _ => none

/-- The number to which an observation sets a gauge. -/
def level? : Observation → FamilyName → Option Int
  | .nodesSeen _ nodes _, .nodes => some nodes
  | .nodesSeen _ _ failing, .failedNodes => some failing
  | .replicasSeen _ desired _, .desired => some desired
  | .replicasSeen _ _ ready, .ready => some ready
  | _, _ => none

def seconds? : Observation → Option Float
  | .reconciled _ seconds => some seconds
  | _ => none

end Observation

/-- What a sample tells once an observation has been noted under its labels. -/
def Reading.after (family : FamilyName) (o : Observation) : Reading → Reading
  | .count n => .count (n + 1)
  | .level value => .level ((o.level? family).getD value)
  | .spread h => .spread (o.seconds?.elim h h.observe)

variable {m : Metrics} {o : Observation} {family : FamilyName} {labels : LabelTexts}

/-- All that an observation does: it changes the sample under its labels, in the families in
which it is noted. -/
theorem shown_record (m : Metrics) (o : Observation) (family : FamilyName) :
    (m.record o).shown family =
      match o.labels? family with
      | none => m.shown family
      | some labels => (m.shown family).update labels family.kind.zero (.after family o) := by
  cases o with
  | reconciled id seconds =>
    cases family with
    | reconciliations | durations =>
      exact Family.map_update ObjectId.texts_injective rfl fun _ => rfl
    | _ => rfl
  | failed id =>
    cases family with
    | errors => exact Family.map_update ObjectId.texts_injective rfl fun _ => rfl
    | _ => rfl
  | stepTaken id =>
    cases family with
    | steps => exact Family.map_update StepId.texts_injective rfl fun _ => rfl
    | _ => rfl
  | nodesSeen id nodes failed =>
    cases family with
    | nodes | failedNodes => exact Family.map_update ClusterId.texts_injective rfl fun _ => rfl
    | _ => rfl
  | replicasSeen id desired ready =>
    cases family with
    | desired | ready => exact Family.map_update RoleId.texts_injective rfl fun _ => rfl
    | _ => rfl

theorem get?_shown_record_self (h : o.labels? family = some labels) :
    ((m.record o).shown family).get? labels =
      some (.after family o (((m.shown family).get? labels).getD family.kind.zero)) := by
  rw [shown_record, h]
  exact Family.get?_update_self _ _ _ _

theorem get?_shown_record_other (h : o.labels? family ≠ some labels) :
    ((m.record o).shown family).get? labels = (m.shown family).get? labels := by
  rw [shown_record]
  cases hnoted : o.labels? family with
  | none => rfl
  | some noted =>
    refine Family.get?_update_ne _ (fun hsame => h ?_) _ _
    rw [hnoted, hsame]

theorem distinct_shown_record (h : (m.shown family).Distinct) :
    ((m.record o).shown family).Distinct := by
  rw [shown_record]
  cases o.labels? family with
  | none => exact h
  | some labels => exact h.update

/-! ## Histories -/

variable {history noted : List Observation}

theorem recordAll_concat : m.recordAll (history ++ [o]) = (m.recordAll history).record o := by
  rw [recordAll, List.foldl_append]
  rfl

/-- What a sample tells of the observations noted under its labels: their number, the number
that the last of them set, or all their durations in turn. -/
def FamilyName.reading (family : FamilyName) (noted : List Observation) : Reading :=
  match family.kind with
  | .counter => .count noted.length
  | .gauge => .level ((noted.filterMap (·.level? family)).getLastD 0)
  | .histogram => .spread ((noted.filterMap (·.seconds?)).foldl Histogram.observe .empty)

theorem reading_nil : family.reading [] = family.kind.zero := by
  rw [FamilyName.reading]
  cases family.kind <;> rfl

theorem reading_concat :
    family.reading (noted ++ [o]) = .after family o (family.reading noted) := by
  rw [FamilyName.reading, FamilyName.reading]
  cases family.kind with
  | counter => simp [Reading.after]
  | gauge => cases h : o.level? family <;> simp [Reading.after, h]
  | histogram => cases h : o.seconds? <;> simp [Reading.after, h]

/-- The observations of a history that are noted under some labels in a family. -/
def notedIn (family : FamilyName) (labels : LabelTexts) (history : List Observation) :
    List Observation :=
  history.filter fun o => o.labels? family = some labels

theorem notedIn_concat_self (h : o.labels? family = some labels) :
    notedIn family labels (history ++ [o]) = notedIn family labels history ++ [o] := by
  rw [notedIn, List.filter_append, List.filter_cons_of_pos (by simpa using h), List.filter_nil,
    notedIn]

theorem notedIn_concat_other (h : o.labels? family ≠ some labels) :
    notedIn family labels (history ++ [o]) = notedIn family labels history := by
  rw [notedIn, List.filter_append, List.filter_cons_of_neg (by simpa using h), List.filter_nil,
    List.append_nil, notedIn]

theorem distinct_shown_recordAll : ((empty.recordAll history).shown family).Distinct := by
  induction history using List.reverseRecOn with
  | nil => cases family <;> exact List.nodup_nil
  | append_singleton history o ih =>
    rw [recordAll_concat]
    exact distinct_shown_record ih

theorem get?_shown_recordAll :
    ((empty.recordAll history).shown family).get? labels =
      if notedIn family labels history = [] then none
      else some (family.reading (notedIn family labels history)) := by
  induction history using List.reverseRecOn with
  | nil => cases family <;> rfl
  | append_singleton history o ih =>
    rw [recordAll_concat]
    by_cases h : o.labels? family = some labels
    · -- Nothing noted so far and a sample at zero come to the same.
      have hbefore : (((empty.recordAll history).shown family).get? labels).getD
          family.kind.zero = family.reading (notedIn family labels history) := by
        rw [ih]
        split
        · rename_i hnone
          rw [hnone, reading_nil]
          rfl
        · rfl
      rw [get?_shown_record_self h, hbefore, notedIn_concat_self h, reading_concat, if_neg]
      exact List.append_ne_nil_of_right_ne_nil _ (List.cons_ne_nil _ _)
    · rw [get?_shown_record_other h, ih, notedIn_concat_other h]

/-- Each reconciliation is counted once and its duration observed once. -/
theorem get?_reconciliations_recordAll (id : ObjectId) :
    (empty.recordAll history).reconciliations.get? id =
      ((empty.recordAll history).durations.get? id).map Histogram.count := by
  induction history using List.reverseRecOn with
  | nil => rfl
  | append_singleton history o ih =>
    rw [recordAll_concat]
    cases o with
    | reconciled labels seconds =>
      simp only [record]
      by_cases h : id = labels
      · rw [h] at ih ⊢
        rw [Family.get?_update_self, Family.get?_update_self, ih]
        cases (empty.recordAll history).durations.get? labels <;> rfl
      · rw [Family.get?_update_ne _ h, Family.get?_update_ne _ h, ih]
    | _ => exact ih

/-- The metrics tell the history of what was observed and nothing else.  In each family there
is one sample for each label set under which something was noted there, and none for any other.
It tells how often that was, the number that was set last, or the durations in turn; counts have
no upper bound.  For each object there are as many durations as reconciliations.  An observation
leaves alone all samples but those under its own labels in the families in which it is noted. -/
theorem samples_of_history (history : List Observation) :
    let m := empty.recordAll history
    (∀ family, (m.shown family).Distinct ∧ ∀ labels,
      let noted := notedIn family labels history
      (m.shown family).get? labels = if noted = [] then none else some (family.reading noted)) ∧
    (∀ id, m.reconciliations.get? id = (m.durations.get? id).map Histogram.count) ∧
    ∀ (before : Metrics) (o : Observation) (family : FamilyName) (labels : LabelTexts),
      o.labels? family ≠ some labels →
        ((before.record o).shown family).get? labels = (before.shown family).get? labels :=
  ⟨fun _ => ⟨distinct_shown_recordAll, fun _ => get?_shown_recordAll⟩,
    get?_reconciliations_recordAll, fun _ _ _ _ => get?_shown_record_other⟩

/-- Passes over two clusters in turn. -/
def twoClusters : List Observation :=
  [.stepTaken ⟨"prod", "cache", "bootstrap"⟩, .nodesSeen ⟨"prod", "cache"⟩ 6 1,
    .stepTaken ⟨"prod", "shop", "bootstrap"⟩, .nodesSeen ⟨"prod", "shop"⟩ 3 0,
    .stepTaken ⟨"prod", "cache", "bootstrap"⟩, .nodesSeen ⟨"prod", "cache"⟩ 5 0]

theorem samples_of_history_twoClusters :
    let m := empty.recordAll twoClusters
    let cache := [("namespace", "prod"), ("name", "cache")]
    let next : Observation := .nodesSeen ⟨"prod", "shop"⟩ 4 1
    (m.shown .steps).get? (cache ++ [("action", "bootstrap")]) = some (.count 2) ∧
      (m.shown .nodes).get? cache = some (.level 5) ∧
      (m.shown .nodes).get? [("namespace", "prod"), ("name", "sessions")] = none ∧
      next.labels? .nodes ≠ some cache ∧
      ((m.record next).shown .nodes).get? cache = (m.shown .nodes).get? cache := by
  intro m cache next
  obtain ⟨htold, -, hkept⟩ := samples_of_history twoClusters
  have hother : next.labels? .nodes ≠ some cache := by decide
  exact ⟨(htold .steps).2 _, (htold .nodes).2 _, (htold .nodes).2 _, hother,
    hkept m next .nodes cache hother⟩

end Metrics
end RedisKeeper
