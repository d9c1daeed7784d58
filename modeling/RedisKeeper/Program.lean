/-
Programs that talk to the outside world.

A program is a tree of questions.  Each question has its own type of answer and
nothing is known about the answers, so a statement over all programs' runs holds
for every behaviour of the world.  `run` lets a responder with a state of its
own answer, and `runLogged` also returns what was asked and answered, in order;
the log of two programs one after the other is the two logs one after the other
(`runLogged_bind`).  `via` replaces every question by a program over other
questions.
-/
namespace RedisKeeper

/-- What can be asked of a part of the world, and the answers it can give. -/
structure Interface where
  Query : Type
  Answer : Query → Type

/-- A program over an interface with a result in `α`. -/
inductive Program (I : Interface) (α : Type) where
  | done (a : α)
  | ask (q : I.Query) (next : I.Answer q → Program I α)

/-- One question with the answer that was given to it. -/
structure Exchange (I : Interface) where
  query : I.Query
  answer : I.Answer query

/-- Something that answers, with a state that each answer may change. -/
def Responder (I : Interface) (σ : Type) : Type := (q : I.Query) → σ → I.Answer q × σ

namespace Program

variable {I J : Interface} {α β γ : Type}

def bind : Program I α → (α → Program I β) → Program I β
  | .done a, f => f a
  | .ask q next, f => .ask q fun answer => (next answer).bind f

/-- The program that asks one question and returns the answer. -/
def call (q : I.Query) : Program I (I.Answer q) := .ask q .done

instance : Monad (Program I) where
  pure := .done
  bind := bind

@[simp] theorem pure_eq (a : α) : (pure a : Program I α) = .done a := rfl

@[simp] theorem done_bind (a : α) (f : α → Program I β) : (Program.done a >>= f) = f a := rfl

@[simp] theorem ask_bind (q : I.Query) (next : I.Answer q → Program I α)
    (f : α → Program I β) : (Program.ask q next >>= f) = .ask q fun r => next r >>= f := rfl

theorem bind_done (p : Program I α) : (p >>= Program.done) = p := by
  induction p with
  | done a => rfl
  | ask q next ih => simp [ih]

theorem bind_bind (p : Program I α) (f : α → Program I β) (g : β → Program I γ) :
    (p >>= f >>= g) = p >>= fun a => f a >>= g := by
  induction p with
  | done a => rfl
  | ask q next ih => simp [ih]

instance : LawfulMonad (Program I) :=
  LawfulMonad.mk' _ (fun p => bind_done p) (fun _ _ => rfl) bind_bind

/-- The result and the final state when a responder answers. -/
def run {σ : Type} (respond : Responder I σ) : Program I α → σ → α × σ
  | .done a, s => (a, s)
  | .ask q next, s =>
    let (answer, s) := respond q s
    (next answer).run respond s

/-- The result, the exchanges in order and the final state. -/
def runLogged {σ : Type} (respond : Responder I σ) :
    Program I α → σ → α × List (Exchange I) × σ
  | .done a, s => (a, [], s)
  | .ask q next, s =>
    let (answer, s) := respond q s
    let (a, log, s) := (next answer).runLogged respond s
    (a, ⟨q, answer⟩ :: log, s)

theorem run_bind {σ : Type} (respond : Responder I σ) (p : Program I α)
    (f : α → Program I β) (s : σ) :
    (p >>= f).run respond s = (f (p.run respond s).1).run respond (p.run respond s).2 := by
  induction p generalizing s with
  | done a => rfl
  | ask q next ih => simpa [run] using ih _ _

theorem runLogged_bind {σ : Type} (respond : Responder I σ) (p : Program I α)
    (f : α → Program I β) (s : σ) :
    (p >>= f).runLogged respond s =
      let (a, log, s) := p.runLogged respond s
      let (b, more, s) := (f a).runLogged respond s
      (b, log ++ more, s) := by
  induction p generalizing s with
  | done a => rfl
  | ask q next ih => simp [runLogged, ih]

/-- Keeping a log changes neither result nor state. -/
theorem run_eq_runLogged {σ : Type} (respond : Responder I σ) (p : Program I α) (s : σ) :
    p.run respond s = ((p.runLogged respond s).1, (p.runLogged respond s).2.2) := by
  induction p generalizing s with
  | done a => rfl
  | ask q next ih => simpa [run, runLogged] using ih _ _

/-- The program over another interface that asks `f q` in place of `q`. -/
def via (f : (q : I.Query) → Program J (I.Answer q)) : Program I α → Program J α
  | .done a => .done a
  | .ask q next => f q >>= fun answer => (next answer).via f

theorem via_bind (f : (q : I.Query) → Program J (I.Answer q)) (p : Program I α)
    (g : α → Program I β) : (p >>= g).via f = p.via f >>= fun a => (g a).via f := by
  induction p with
  | done a => rfl
  | ask q next ih => simp [via, ih]

/-- Runs a program for each element, in order, and returns all results. -/
def each (f : α → Program I β) : List α → Program I (List β)
  | [] => .done []
  | a :: rest => do
    let b ← f a
    let more ← each f rest
    return b :: more

/-- Runs a program for each element, in order, up to the first that fails. -/
def eachOk {ε : Type} (f : α → Program I (Except ε β)) : List α → Program I (Except ε (List β))
  | [] => .done (.ok [])
  | a :: rest => do
    match ← f a with
    | .error e => return .error e
    | .ok b =>
      match ← eachOk f rest with
      | .error e => return .error e
      | .ok more => return .ok (b :: more)

end Program
end RedisKeeper
