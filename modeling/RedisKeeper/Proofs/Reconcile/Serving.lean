import RedisKeeper.Proofs.Api.Concern
import RedisKeeper.Proofs.Program.Yields
import RedisKeeper.Reconcile.Single

/-
An instance and its Services as the API keeps them, while the operator and others
work on them.

`Serves` says what a request may come to: it may fail at any time, and a write of a
kind that is not described may do anything.  Between two requests others may do what
`Others` allows.  `Safe` follows a program through all of that and keeps both what
is to be shown at each moment and what holds at the end; `Safe.bind` puts programs
together, and where a program asks only requests that keep an assertion,
`safe_of_only` is all that there is to show.
-/
namespace RedisKeeper
namespace Reconcile

/-! ## What the API keeps -/

/-- What is kept of an instance. -/
structure Stored where
  finalizers : List String
  /-- Whether it is to go away as soon as nothing holds it back. -/
  deleting : Bool
deriving DecidableEq

structure World where
  /-- The instance, if it exists. -/
  object : Option Stored
  /-- The names of the Services in its namespace. -/
  services : List String
deriving DecidableEq

/-- The instance with other marks.  It goes away when the last one goes while it is
to be deleted. -/
def Stored.withMarks (o : Stored) (marks : List String) : Option Stored :=
  if o.deleting = true ∧ marks = [] then none else some { o with finalizers := marks }

/-- The instance once its user has asked for its deletion. -/
def Stored.deleted (o : Stored) : Option Stored :=
  if o.finalizers = [] then none else some { o with deleting := true }

namespace World

def Marked (w : World) : Prop := ∃ o, w.object = some o ∧ finalizer ∈ o.finalizers

/-- Whether a name is that of one of the two Services of an instance. -/
def Owned (name service : String) : Prop :=
  service = name ∨ service = Manifest.headlessName name

/-- Whether the instance exists and is marked as long as one of its Services exists. -/
def Guarded (name : String) (w : World) : Prop :=
  ∀ service, Owned name service → service ∈ w.services → w.Marked

/-- What others may do: they create none of the instance's Services, and they take no
mark of the operator away. -/
def Others (name : String) (w w' : World) : Prop :=
  (∀ service, Owned name service → service ∈ w'.services → service ∈ w.services) ∧
    (w.Marked → w'.Marked)

variable {name : String} {w w' w'' : World}

theorem Others.refl (name : String) (w : World) : Others name w w :=
  ⟨fun _ _ h => h, fun h => h⟩

theorem Others.trans (h : Others name w w') (h' : Others name w' w'') : Others name w w'' :=
  ⟨fun service howned hmem => h.1 service howned (h'.1 service howned hmem),
    fun hmarked => h'.2 (h.2 hmarked)⟩

theorem Guarded.others (hw : Guarded name w) (h : Others name w w') : Guarded name w' :=
  fun service howned hmem => h.2 (hw service howned (h.1 service howned hmem))

theorem Marked.guarded (hw : w.Marked) : Guarded name w := fun _ _ _ => hw

/-- A user who asks for the deletion takes no mark away, since a marked instance
stays. -/
theorem others_deleted (name : String) (w : World) :
    Others name w { w with object := w.object.bind Stored.deleted } := by
  refine ⟨fun _ _ h => h, ?_⟩
  rintro ⟨o, ho, hmark⟩
  have hne : o.finalizers ≠ [] := List.ne_nil_of_mem hmark
  refine ⟨{ o with deleting := true }, ?_, hmark⟩
  show w.object.bind Stored.deleted = _
  rw [ho]
  exact if_neg hne

end World

/-! ## What requests come to -/

/-- Whether a question is no write to instances or Services. -/
def Harmless : Api.Query → Prop
  | .request r =>
    r.verb ∈ [.get, .list, .watch] ∨ r.subresource = some "status" ∨
      (r.resource ≠ .redisSingle ∧ r.resource ≠ .service)
  | .command _ _ _ | .store _ => True

/-- The writes of which it is known what they do. -/
def Known (ns name : String) (r : Api.Request) : Prop :=
  r.ns = some ns ∧ r.subresource = none ∧
    (r.resource = .redisSingle ∧ r.verb = .merge ∧ r.name = name ∧
        (∃ marks, r.body = some (finalizerChange marks)) ∨
      r.resource = .service ∧ (r.verb = .apply ∨ r.verb = .delete))

/-- What a write does when it is carried out. -/
inductive Effect : Api.Request → World → World → Prop
  | replaced {r : Api.Request} {w : World} {o : Stored} (marks : List String) :
    r.resource = .redisSingle → r.body = some (finalizerChange marks) → w.object = some o →
      Effect r w { w with object := o.withMarks marks }
  | applied {r : Api.Request} {w : World} : r.resource = .service → r.verb = .apply →
    Effect r w { w with services := r.name :: w.services }
  | deleted {r : Api.Request} {w : World} : r.resource = .service → r.verb = .delete →
    Effect r w { w with services := w.services.filter (· ≠ r.name) }

/-- Whether a reply that holds the instance tells the marks that it has. -/
def Truthful (ns name : String) (w : World) (e : Exchange Api.interface) : Prop :=
  ∀ reply single, e = Api.requested (Api.getRequest .redisSingle ns name) reply →
    Api.decoded RedisSingle.format reply.result = .ok single →
      ∃ o, w.object = some o ∧ single.metadata.finalizerList = o.finalizers

/-- What a question may come to.  That a Service does not exist is only said of one
that does not. -/
inductive Serves (ns name : String) : World → Exchange Api.interface → World → Prop
  | harmless {w : World} {e : Exchange Api.interface} : Harmless e.query →
    Truthful ns name w e → Serves ns name w e w
  | done {w w' : World} {r : Api.Request} {reply : Api.Reply} : Known ns name r →
    Effect r w w' → Serves ns name w (Api.requested r reply) w'
  | failed {w : World} {r : Api.Request} {reply : Api.Reply} {e : Api.Error} :
    Known ns name r → reply.result = .error e →
    (r.verb = .delete → e.meansAbsent = true → r.name ∉ w.services) →
      Serves ns name w (Api.requested r reply) w
  | strange {w w' : World} {r : Api.Request} {reply : Api.Reply} :
    ¬ Harmless (.request r) → ¬ Known ns name r →
      Serves ns name w (Api.requested r reply) w'

variable {ns name : String} {w w' : World}

theorem harmless_of_get {r : Api.Request} (h : r.verb = .get) : Harmless (.request r) :=
  .inl (h ▸ List.mem_cons_self)

theorem harmless_of_resource {r : Api.Request} {t : Api.ResourceType} (hr : r.resource = t)
    (ht : t ≠ .redisSingle ∧ t ≠ .service) : Harmless (.request r) :=
  .inr (.inr (hr ▸ ht))

theorem Known.not_harmless {r : Api.Request} (h : Known ns name r) : ¬ Harmless (.request r) := by
  obtain ⟨-, hsubresource, h⟩ := h
  rintro (hverb | hstatus | ⟨hsingle, hservice⟩)
  · rcases h with ⟨-, hwrite, -⟩ | ⟨-, hwrite | hwrite⟩ <;>
      exact absurd hverb (by rw [hwrite]; decide)
  · rw [hsubresource] at hstatus
    exact absurd hstatus nofun
  · rcases h with ⟨hresource, -⟩ | ⟨hresource, -⟩
    · exact hsingle hresource
    · exact hservice hresource

theorem Serves.eq_of_harmless {e : Exchange Api.interface} (h : Serves ns name w e w')
    (he : Harmless e.query) : w' = w ∧ Truthful ns name w e := by
  cases h with
  | harmless _ htruthful => exact ⟨rfl, htruthful⟩
  | done hknown => exact absurd he hknown.not_harmless
  | failed hknown => exact absurd he hknown.not_harmless
  | strange hnot => exact absurd he hnot

/-- A known write is carried out, or it fails and changes nothing. -/
theorem Serves.of_known {r : Api.Request} {reply : Api.Reply}
    (h : Serves ns name w (Api.requested r reply) w') (hr : Known ns name r) :
    Effect r w w' ∨
      (w' = w ∧ ∃ e, reply.result = .error e ∧
        (r.verb = .delete → e.meansAbsent = true → r.name ∉ w.services)) := by
  cases h with
  | harmless hharmless => exact absurd hharmless hr.not_harmless
  | done _ heffect => exact .inl heffect
  | failed _ hreply hdelete => exact .inr ⟨rfl, _, hreply, hdelete⟩
  | strange _ hnot => exact absurd hr hnot

theorem finalizerChange_inj {marks marks' : List String}
    (h : finalizerChange marks = finalizerChange marks') : marks = marks' := by
  have hinner := (Prod.mk.inj (List.cons.inj (Json.obj.inj h)).1).2
  have hlists := Json.arr.inj (Prod.mk.inj (List.cons.inj (Json.obj.inj hinner)).1).2
  exact (List.map_inj_right fun _ _ => Json.str.inj).mp hlists

/-! ## Following a program -/

/-- Whether the instance's Services are guarded at every moment of a program's run,
and `Q` holds of its result and of what there is then, whatever others do between two
questions. -/
def Safe (ns name : String) {α : Type} (Q : α → World → Prop) : Api.Work α → World → Prop
  | .done a, w => w.Guarded name ∧ Q a w
  | .ask query next, w =>
    w.Guarded name ∧ ∀ w', World.Others name w w' → ∀ answer w'',
      Serves ns name w' ⟨query, answer⟩ w'' → Safe ns name Q (next answer) w''

section

variable {α β : Type} {p : Api.Work α} {Q R : α → World → Prop}

theorem Safe.of_done {a : α} (hw : w.Guarded name) (h : Q a w) : Safe ns name Q (.done a) w :=
  ⟨hw, h⟩

theorem Safe.guarded (h : Safe ns name Q p w) : w.Guarded name := by
  cases p with
  | done a => exact h.1
  | ask query next => exact h.1

theorem Safe.mono (h : Safe ns name Q p w) (hQ : ∀ a w, Q a w → R a w) :
    Safe ns name R p w := by
  induction p generalizing w with
  | done a => exact ⟨h.1, hQ a w h.2⟩
  | ask query next ih =>
    exact ⟨h.1, fun w' ho answer w'' hs => ih answer (h.2 w' ho answer w'' hs)⟩

theorem Safe.weaken (h : Safe ns name Q p w) : Safe ns name (fun _ _ => True) p w :=
  h.mono fun _ _ _ => trivial

/-- Others do not make a run unsafe. -/
theorem Safe.others (h : Safe ns name (fun _ _ => True) p w) (ho : World.Others name w w') :
    Safe ns name (fun _ _ => True) p w' := by
  cases p with
  | done a => exact ⟨h.1.others ho, trivial⟩
  | ask query next => exact ⟨h.1.others ho, fun w'' ho' => h.2 w'' (ho.trans ho')⟩

theorem Safe.bind {S : β → World → Prop} {f : α → Api.Work β} (hp : Safe ns name Q p w)
    (hf : ∀ a w, w.Guarded name → Q a w → Safe ns name S (f a) w) :
    Safe ns name S (p >>= f) w := by
  induction p generalizing w with
  | done a => exact hf a w hp.1 hp.2
  | ask query next ih =>
    exact ⟨hp.1, fun w' ho answer w'' hs => ih answer (hp.2 w' ho answer w'' hs)⟩

/-- What an assertion says of a result that is no failure. -/
def OnSuccess {ε : Type} (Q : α → World → Prop) : Except ε α → World → Prop
  | .ok a, w => Q a w
  | .error _, _ => True

theorem Safe.onSuccess {ε : Type} {A : World → Prop} {p : Api.Work (Except ε α)}
    (h : Safe ns name (fun _ => A) p w) : Safe ns name (OnSuccess fun _ => A) p w := by
  refine h.mono fun r w hA => ?_
  cases r with
  | error e => exact trivial
  | ok a => exact hA

theorem Safe.run_bind {S : β → World → Prop} {p : Act α} {f : α → Act β}
    (hp : Safe ns name (OnSuccess Q) p.run w)
    (hf : ∀ a w, w.Guarded name → Q a w → Safe ns name (OnSuccess S) (f a).run w) :
    Safe ns name (OnSuccess S) (p >>= f).run w := by
  rw [ExceptT.run_bind]
  refine hp.bind fun r w hw hr => ?_
  cases r with
  | error e => exact ⟨hw, trivial⟩
  | ok a => exact hf a w hw hr

/-- A program all of whose requests keep an assertion keeps it. -/
theorem safe_of_only {A : World → Prop} {P : Api.Query → Prop}
    (hguarded : ∀ w, A w → w.Guarded name)
    (hothers : ∀ w w', A w → World.Others name w w' → A w')
    (hserves : ∀ w w' e, P e.query → A w → Serves ns name w e w' → A w')
    (hp : p.Only P) (hw : A w) : Safe ns name (fun _ => A) p w := by
  induction p generalizing w with
  | done a => exact ⟨hguarded w hw, hw⟩
  | ask query next ih =>
    refine ⟨hguarded w hw, fun w' ho answer w'' hs => ih answer (hp.2 answer) ?_⟩
    exact hserves w' w'' _ hp.1 (hothers w w' hw ho) hs

/-- One request about one object. -/
theorem safe_sendNamed {r : Api.Request} {Q : Except Api.Error String → World → Prop}
    (hw : w.Guarded name)
    (hunsent : ∀ e, (∀ refusal, e ≠ .refused refusal) → Q (.error e) w)
    (hsent : ∀ w', World.Others name w w' → ∀ reply w'',
      Serves ns name w' (Api.requested r reply) w'' → w''.Guarded name ∧ Q reply.result w'') :
    Safe ns name Q (Api.sendNamed r) w := by
  rw [Api.sendNamed]
  split
  · exact ⟨hw, hunsent .unnamed fun _ h => Api.Error.noConfusion h⟩
  · rw [Api.send, Api.ask]
    split
    · exact ⟨hw, hsent⟩
    · exact ⟨hw, hunsent .unaddressable fun _ h => Api.Error.noConfusion h⟩

end

end Reconcile
end RedisKeeper
