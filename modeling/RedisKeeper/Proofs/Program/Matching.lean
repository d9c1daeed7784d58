import RedisKeeper.Proofs.Program.Yields

/-
Comparing the runs of two programs that are answered differently.

`A` says which answers to a question pass for the same.  Two programs match when
they ask the same as long as they are given such answers, and end with results
that a relation holds of.  `Matches.bind` compares composed programs part by part.
Two responders are alike when they keep giving such
answers, and of matching programs that they answer, they are asked the same
(`Matches.runLogged`).
-/
namespace RedisKeeper
namespace Program

variable {I : Interface} {α β γ δ σ τ : Type}
  {A : (q : I.Query) → I.Answer q → I.Answer q → Prop}

inductive Matches (A : (q : I.Query) → I.Answer q → I.Answer q → Prop) (Q : α → β → Prop) :
    Program I α → Program I β → Prop
  | done {a : α} {b : β} : Q a b → Matches A Q (.done a) (.done b)
  | ask (q : I.Query) {next : I.Answer q → Program I α} {next' : I.Answer q → Program I β} :
    (∀ answer answer', A q answer answer' → Matches A Q (next answer) (next' answer')) →
      Matches A Q (.ask q next) (.ask q next')

/-- Programs that match given more answers match given fewer. -/
theorem Matches.mono {A' : (q : I.Query) → I.Answer q → I.Answer q → Prop} {Q : α → β → Prop}
    {p : Program I α} {p' : Program I β} (hA : ∀ q answer answer', A' q answer answer' →
      A q answer answer') (hp : Matches A Q p p') : Matches A' Q p p' := by
  induction hp with
  | done h => exact .done h
  | ask q _ ih => exact .ask q fun answer answer' h => ih answer answer' (hA q answer answer' h)

theorem Matches.bind {Q : α → β → Prop} {R : γ → δ → Prop} {p : Program I α}
    {p' : Program I β} {f : α → Program I γ} {f' : β → Program I δ} (hp : Matches A Q p p')
    (hf : ∀ a b, Q a b → Matches A R (f a) (f' b)) : Matches A R (p >>= f) (p' >>= f') := by
  induction hp with
  | done h => exact hf _ _ h
  | ask q _ ih => exact .ask q ih

theorem Matches.each {f f' : α → Program I β} (hf : ∀ a, Matches A Eq (f a) (f' a))
    (as : List α) : Matches A Eq (Program.each f as) (Program.each f' as) := by
  induction as with
  | nil => exact .done rfl
  | cons a as ih =>
    refine (hf a).bind fun b b' hb => ih.bind fun bs bs' hbs => .done ?_
    rw [hb, hbs]

/-- A program to whose questions only equal answers pass for the same matches itself. -/
theorem Only.matches_self {P : I.Query → Prop}
    (hA : ∀ q, P q → ∀ answer answer', A q answer answer' → answer = answer')
    {p : Program I α} (h : p.Only P) : Matches A Eq p p := by
  induction p with
  | done a => exact .done rfl
  | ask q next ih =>
    refine .ask q fun answer answer' hanswer => ?_
    have heq : answer = answer' := hA q h.1 answer answer' hanswer
    rw [← heq]
    exact ih answer (h.2 answer)

/-- Whether two responders answer alike from states that `R` relates, and are again in
such states afterwards. -/
def Alike (A : (q : I.Query) → I.Answer q → I.Answer q → Prop) (R : σ → τ → Prop)
    (w : Responder I σ) (w' : Responder I τ) : Prop :=
  ∀ q s s', R s s' → A q (w q s).1 (w' q s').1 ∧ R (w q s).2 (w' q s').2

theorem Matches.runLogged {Q : α → β → Prop} {R : σ → τ → Prop} {p : Program I α}
    {p' : Program I β} {w : Responder I σ} {w' : Responder I τ} (hp : Matches A Q p p')
    (hw : Alike A R w w') {s : σ} {s' : τ} (hs : R s s') :
    Q (p.runLogged w s).1 (p'.runLogged w' s').1 ∧
      (p.runLogged w s).2.1.map (·.query) = (p'.runLogged w' s').2.1.map (·.query) := by
  induction hp generalizing s s' with
  | done h => exact ⟨h, rfl⟩
  | ask q _ ih =>
    obtain ⟨hanswer, hnext⟩ := hw q s s' hs
    obtain ⟨hresult, hqueries⟩ := ih _ _ hanswer hnext
    exact ⟨hresult, congrArg (q :: ·) hqueries⟩

end Program
end RedisKeeper
