import RedisKeeper.Program

/-
The runs of a program, whatever answers.

`Yields log a` says that the program, answered as in `log`, asks just what `log`
says and ends with `a`.  Nothing is assumed about the answers, so what holds of
every log holds for every behaviour of the world: each responder's run is such a
log (`yields_runLogged`), and each such log is the run of a responder that recites it
(`runLogged_recite`).  The log of a composed program falls apart into the
logs of its parts (`yields_bind`, `yields_each_cons`, `yields_eachOk_cons`, `yields_via`).
-/
namespace RedisKeeper
namespace Program

variable {I J : Interface} {α β γ ε : Type}

def Yields : Program I α → List (Exchange I) → α → Prop
  | .done a, log, b => log = [] ∧ b = a
  | .ask q next, log, b =>
    ∃ answer rest, log = ⟨q, answer⟩ :: rest ∧ (next answer).Yields rest b

@[simp] theorem yields_done {a b : α} {log : List (Exchange I)} :
    (Program.done a : Program I α).Yields log b ↔ log = [] ∧ b = a := Iff.rfl

@[simp] theorem yields_ask {q : I.Query} {next : I.Answer q → Program I α}
    {log : List (Exchange I)} {b : α} :
    (Program.ask q next).Yields log b ↔
      ∃ answer rest, log = ⟨q, answer⟩ :: rest ∧ (next answer).Yields rest b := Iff.rfl

/-- A responder's run is one of the runs. -/
theorem yields_runLogged {σ : Type} (respond : Responder I σ) (p : Program I α) (s : σ) :
    p.Yields (p.runLogged respond s).2.1 (p.runLogged respond s).1 := by
  induction p generalizing s with
  | done a => exact ⟨rfl, rfl⟩
  | ask q next ih => exact ⟨_, _, rfl, ih (respond q s).1 (respond q s).2⟩

theorem answer_of_mem_runLogged {σ : Type} (respond : Responder I σ) (p : Program I α) (s : σ)
    {e : Exchange I} (he : e ∈ (p.runLogged respond s).2.1) :
    ∃ s', e.answer = (respond e.query s').1 := by
  induction p generalizing s with
  | done a => exact absurd he List.not_mem_nil
  | ask q next ih =>
    rcases List.mem_cons.mp he with rfl | hrest
    · exact ⟨s, rfl⟩
    · exact ih _ _ hrest

open Classical in
/-- The responder that gives the answers of a log, question after question, as long as the
questions are those of the log. -/
noncomputable def recite [∀ q, Inhabited (I.Answer q)] : Responder I (List (Exchange I))
  | _, [] => (default, [])
  | q, e :: log => if h : e.query = q then (h ▸ e.answer, log) else (default, log)

theorem runLogged_recite [∀ q, Inhabited (I.Answer q)] {p : Program I α}
    {log : List (Exchange I)} {a : α} (h : p.Yields log a) :
    p.runLogged recite log = (a, log, []) := by
  induction p generalizing log with
  | done b =>
    obtain ⟨rfl, rfl⟩ := h
    rfl
  | ask q next ih =>
    obtain ⟨answer, rest, rfl, hnext⟩ := h
    have hsaid : recite q (⟨q, answer⟩ :: rest) = (answer, rest) := dif_pos rfl
    simp only [runLogged, hsaid, ih answer hnext]

theorem yields_bind {p : Program I α} {f : α → Program I β} {log : List (Exchange I)} {b : β} :
    (p >>= f).Yields log b ↔
      ∃ first second a, log = first ++ second ∧ p.Yields first a ∧ (f a).Yields second b := by
  induction p generalizing log with
  | done a =>
    constructor
    · intro h
      exact ⟨[], log, a, rfl, ⟨rfl, rfl⟩, h⟩
    · rintro ⟨first, second, c, rfl, ⟨rfl, rfl⟩, h⟩
      exact h
  | ask q next ih =>
    rw [ask_bind, yields_ask]
    constructor
    · rintro ⟨answer, rest, rfl, h⟩
      obtain ⟨first, second, a, rfl, hp, hf⟩ := (ih answer).mp h
      exact ⟨⟨q, answer⟩ :: first, second, a, rfl, ⟨answer, first, rfl, hp⟩, hf⟩
    · rintro ⟨first, second, a, rfl, ⟨answer, rest, rfl, hp⟩, hf⟩
      exact ⟨answer, rest ++ second, rfl, (ih answer).mpr ⟨rest, second, a, rfl, hp, hf⟩⟩

/-- What is done with a result asks nothing more. -/
theorem yields_map {p : Program I α} {g : α → β} {log : List (Exchange I)} {b : β} :
    (g <$> p).Yields log b ↔ ∃ a, b = g a ∧ p.Yields log a := by
  rw [map_eq_pure_bind, yields_bind]
  constructor
  · rintro ⟨first, second, a, rfl, hp, rfl, rfl⟩
    exact ⟨a, rfl, by rwa [List.append_nil]⟩
  · rintro ⟨a, rfl, hp⟩
    exact ⟨log, [], a, (List.append_nil log).symm, hp, rfl, rfl⟩

/-- What stands in the second part of a list stands behind all of the first. -/
theorem exists_of_append_eq {P : α → Prop} {first second before after : List α}
    {e : α} (h : first ++ second = before ++ e :: after) (hfirst : ∀ x ∈ first, ¬ P x)
    (he : P e) : ∃ part, before = first ++ part ∧ second = part ++ e :: after := by
  rcases List.append_eq_append_iff.mp h with ⟨part, rfl, hsecond⟩ | ⟨part, rfl, hrest⟩
  · exact ⟨part, rfl, hsecond⟩
  · cases part with
    | nil => exact ⟨[], by simp, by simpa using hrest.symm⟩
    | cons x part =>
      obtain ⟨rfl, -⟩ := List.cons.inj hrest
      exact absurd he (hfirst e (by simp))

/-! ## Programs that may fail -/

/-- The first failure ends the whole. -/
theorem yields_run_bind {p : ExceptT ε (Program I) α} {f : α → ExceptT ε (Program I) β}
    {log : List (Exchange I)} {r : Except ε β} :
    (p >>= f).run.Yields log r ↔
      (∃ e, p.run.Yields log (.error e) ∧ r = .error e) ∨
      ∃ first second a, log = first ++ second ∧ p.run.Yields first (.ok a) ∧
        (f a).run.Yields second r := by
  rw [ExceptT.run_bind, yields_bind]
  constructor
  · rintro ⟨first, second, a, rfl, hp, hf⟩
    cases a with
    | error e =>
      obtain ⟨rfl, rfl⟩ := hf
      exact .inl ⟨e, by rwa [List.append_nil], rfl⟩
    | ok a => exact .inr ⟨first, second, a, rfl, hp, hf⟩
  · rintro (⟨e, hp, rfl⟩ | ⟨first, second, a, rfl, hp, hf⟩)
    · exact ⟨log, [], .error e, (List.append_nil log).symm, hp, rfl, rfl⟩
    · exact ⟨first, second, .ok a, rfl, hp, hf⟩

/-- A whole that succeeded is of two parts that succeeded. -/
theorem exists_of_yields_ok {p : ExceptT ε (Program I) α} {f : α → ExceptT ε (Program I) β}
    {log : List (Exchange I)} {b : β} (h : (p >>= f).run.Yields log (.ok b)) :
    ∃ first second a, log = first ++ second ∧ p.run.Yields first (.ok a) ∧
      (f a).run.Yields second (.ok b) := by
  rcases yields_run_bind.mp h with ⟨e, -, he⟩ | hparts
  · exact absurd he nofun
  · exact hparts

/-! ## Lists of programs -/

theorem yields_each_nil {f : α → Program I β} {log : List (Exchange I)} {bs : List β} :
    (each f []).Yields log bs ↔ log = [] ∧ bs = [] := Iff.rfl

theorem yields_each_cons {f : α → Program I β} {a : α} {as : List α}
    {log : List (Exchange I)} {bs : List β} :
    (each f (a :: as)).Yields log bs ↔
      ∃ first second b more, log = first ++ second ∧ bs = b :: more ∧
        (f a).Yields first b ∧ (each f as).Yields second more := by
  rw [each, yields_bind]
  constructor
  · rintro ⟨first, rest, b, rfl, hb, h⟩
    obtain ⟨second, last, more, rfl, hmore, rfl, rfl⟩ := yields_bind.mp h
    exact ⟨first, second, b, more, by rw [List.append_nil], rfl, hb, hmore⟩
  · rintro ⟨first, second, b, more, rfl, rfl, hb, hmore⟩
    exact ⟨first, second, b, rfl, hb,
      yields_bind.mpr ⟨second, [], more, (List.append_nil second).symm, hmore, rfl, rfl⟩⟩

/-- What is asked for a list is asked for one of its elements. -/
theorem exists_of_yields_each {f : α → Program I β} {as : List α} {log : List (Exchange I)}
    {bs : List β} (h : (each f as).Yields log bs) {e : Exchange I} (he : e ∈ log) :
    ∃ a ∈ as, ∃ part b, (f a).Yields part b ∧ e ∈ part := by
  induction as generalizing log bs with
  | nil =>
    obtain ⟨rfl, -⟩ := yields_each_nil.mp h
    exact absurd he List.not_mem_nil
  | cons a as ih =>
    obtain ⟨first, second, b, more, rfl, rfl, hb, hmore⟩ := yields_each_cons.mp h
    rcases List.mem_append.mp he with he | he
    · exact ⟨a, List.mem_cons_self, first, b, hb, he⟩
    · obtain ⟨c, hc, part, d, hd, hpart⟩ := ih hmore he
      exact ⟨c, List.mem_cons_of_mem a hc, part, d, hd, hpart⟩

theorem yields_eachOk_cons {f : α → Program I (Except ε β)} {a : α} {as : List α}
    {log : List (Exchange I)} {r : Except ε (List β)} :
    (eachOk f (a :: as)).Yields log r ↔
      (∃ e, (f a).Yields log (.error e) ∧ r = .error e) ∨
      ∃ first second b more, log = first ++ second ∧ r = more.map (b :: ·) ∧
        (f a).Yields first (.ok b) ∧ (eachOk f as).Yields second more := by
  rw [eachOk, yields_bind]
  constructor
  · rintro ⟨first, rest, b, rfl, hb, h⟩
    cases b with
    | error e =>
      obtain ⟨rfl, rfl⟩ := h
      exact .inl ⟨e, by rwa [List.append_nil], rfl⟩
    | ok b =>
      obtain ⟨second, last, more, rfl, hmore, h⟩ := yields_bind.mp h
      cases more with
      | error e =>
        obtain ⟨rfl, rfl⟩ := h
        exact .inr ⟨first, second, b, .error e, by rw [List.append_nil], rfl, hb, hmore⟩
      | ok more =>
        obtain ⟨rfl, rfl⟩ := h
        exact .inr ⟨first, second, b, .ok more, by rw [List.append_nil], rfl, hb, hmore⟩
  · rintro (⟨e, hb, rfl⟩ | ⟨first, second, b, more, rfl, rfl, hb, hmore⟩)
    · exact ⟨log, [], .error e, (List.append_nil log).symm, hb, rfl, rfl⟩
    · refine ⟨first, second, .ok b, rfl, hb, yields_bind.mpr
        ⟨second, [], more, (List.append_nil second).symm, hmore, ?_⟩⟩
      cases more with
      | error e => exact ⟨rfl, rfl⟩
      | ok more => exact ⟨rfl, rfl⟩

/-! ## Questions replaced by programs -/

/-- Whether a log falls apart into one part for each element of a list, in order. -/
inductive Parted (R : α → List β → Prop) : List α → List β → Prop
  | nil : Parted R [] []
  | cons {a : α} {rest : List α} {part log : List β} :
    R a part → Parted R rest log → Parted R (a :: rest) (part ++ log)

theorem parted_nil_iff {R : α → List β → Prop} {log : List β} : Parted R [] log ↔ log = [] := by
  constructor
  · rintro ⟨⟩
    rfl
  · rintro rfl
    exact .nil

theorem parted_cons_iff {R : α → List β → Prop} {a : α} {rest : List α} {log : List β} :
    Parted R (a :: rest) log ↔
      ∃ part more, log = part ++ more ∧ R a part ∧ Parted R rest more := by
  constructor
  · rintro ⟨⟩
    rename_i part more ha hrest
    exact ⟨part, more, rfl, ha, hrest⟩
  · rintro ⟨part, more, rfl, ha, hrest⟩
    exact .cons ha hrest

theorem parted_singleton_iff {R : α → List β → Prop} {a : α} {log : List β} :
    Parted R [a] log ↔ R a log := by
  rw [parted_cons_iff]
  constructor
  · rintro ⟨part, more, rfl, ha, hmore⟩
    rwa [parted_nil_iff.mp hmore, List.append_nil]
  · intro h
    exact ⟨log, [], (List.append_nil log).symm, h, .nil⟩

theorem parted_append_iff {R : α → List β → Prop} {as bs : List α} {log : List β} :
    Parted R (as ++ bs) log ↔
      ∃ first second, log = first ++ second ∧ Parted R as first ∧ Parted R bs second := by
  induction as generalizing log with
  | nil =>
    constructor
    · intro h
      exact ⟨[], log, rfl, .nil, h⟩
    · rintro ⟨first, second, rfl, hfirst, hsecond⟩
      rwa [parted_nil_iff.mp hfirst]
  | cons a as ih =>
    rw [List.cons_append, parted_cons_iff]
    constructor
    · rintro ⟨part, more, rfl, ha, hmore⟩
      obtain ⟨first, second, rfl, has, hbs⟩ := ih.mp hmore
      exact ⟨part ++ first, second, (List.append_assoc _ _ _).symm, .cons ha has, hbs⟩
    · rintro ⟨first, second, rfl, has, hbs⟩
      obtain ⟨part, more, rfl, ha, has⟩ := parted_cons_iff.mp has
      exact ⟨part, more ++ second, List.append_assoc _ _ _, ha, ih.mpr ⟨_, _, rfl, has, hbs⟩⟩

/-- Where each question is replaced by a program, the log is made of the logs of these
programs, and their results are the answers. -/
theorem yields_via {f : (q : I.Query) → Program J (I.Answer q)} {p : Program I α}
    {log : List (Exchange J)} {a : α} :
    (p.via f).Yields log a ↔
      ∃ taken, p.Yields taken a ∧
        Parted (fun e : Exchange I => ((f e.query).Yields · e.answer)) taken log := by
  induction p generalizing log with
  | done b =>
    constructor
    · rintro ⟨rfl, rfl⟩
      exact ⟨[], ⟨rfl, rfl⟩, .nil⟩
    · rintro ⟨taken, ⟨rfl, rfl⟩, hparted⟩
      exact ⟨parted_nil_iff.mp hparted, rfl⟩
  | ask q next ih =>
    rw [via, yields_bind]
    constructor
    · rintro ⟨part, more, answer, rfl, hpart, hnext⟩
      obtain ⟨taken, htaken, hparted⟩ := (ih answer).mp hnext
      exact ⟨⟨q, answer⟩ :: taken, ⟨answer, taken, rfl, htaken⟩, .cons hpart hparted⟩
    · rintro ⟨-, ⟨answer, taken, rfl, htaken⟩, hparted⟩
      obtain ⟨part, more, rfl, hpart, hmore⟩ := parted_cons_iff.mp hparted
      exact ⟨part, more, answer, rfl, hpart, (ih answer).mpr ⟨taken, htaken, hmore⟩⟩

/-! ## What a program may ask -/

/-- Whether all that a program can ask, whatever is answered, has a property. -/
def Only (P : I.Query → Prop) : Program I α → Prop
  | .done _ => True
  | .ask q next => P q ∧ ∀ answer, (next answer).Only P

variable {P : I.Query → Prop} {p : Program I α}

theorem Only.forall_of_yields (hp : p.Only P) {log : List (Exchange I)} {a : α}
    (h : p.Yields log a) : ∀ e ∈ log, P e.query := by
  induction p generalizing log with
  | done b =>
    obtain ⟨rfl, -⟩ := h
    exact fun e he => absurd he List.not_mem_nil
  | ask q next ih =>
    obtain ⟨answer, rest, rfl, hnext⟩ := h
    intro e he
    rcases List.mem_cons.mp he with rfl | he
    · exact hp.1
    · exact ih answer (hp.2 answer) hnext e he

theorem Only.bind (hp : p.Only P) {f : α → Program I β} (hf : ∀ a, (f a).Only P) :
    (p >>= f).Only P := by
  induction p with
  | done a => exact hf a
  | ask q next ih => exact ⟨hp.1, fun answer => ih answer (hp.2 answer)⟩

theorem Only.map (hp : p.Only P) (g : α → β) : (g <$> p).Only P := by
  rw [map_eq_pure_bind]
  exact hp.bind fun _ => trivial

theorem Only.run_bind {p : ExceptT ε (Program I) α} (hp : p.run.Only P)
    {f : α → ExceptT ε (Program I) β} (hf : ∀ a, (f a).run.Only P) :
    (p >>= f).run.Only P := by
  rw [ExceptT.run_bind]
  refine hp.bind fun r => ?_
  cases r with
  | error e => exact trivial
  | ok a => exact hf a

theorem Only.each {f : α → Program I β} (hf : ∀ a, (f a).Only P) (as : List α) :
    (Program.each f as).Only P := by
  induction as with
  | nil => exact trivial
  | cons a as ih => exact (hf a).bind fun _ => ih.bind fun _ => trivial

theorem Only.eachOk {f : α → Program I (Except ε β)} (hf : ∀ a, (f a).Only P) (as : List α) :
    (Program.eachOk f as).Only P := by
  induction as with
  | nil => exact trivial
  | cons a as ih =>
    refine (hf a).bind fun r => ?_
    cases r with
    | error e => exact trivial
    | ok b =>
      refine ih.bind fun more => ?_
      cases more with
      | error e => exact trivial
      | ok bs => exact trivial

/-- What is asked in place of each question is asked in place of them all. -/
theorem Only.via {P : J.Query → Prop} {f : (q : I.Query) → Program J (I.Answer q)}
    (hf : ∀ q, (f q).Only P) (p : Program I α) : (p.via f).Only P := by
  induction p with
  | done a => exact trivial
  | ask q next ih => exact (hf q).bind ih

end Program
end RedisKeeper
