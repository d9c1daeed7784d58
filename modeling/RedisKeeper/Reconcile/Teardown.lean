import RedisKeeper.Api.Builtin
import RedisKeeper.Manifest.Label
import RedisKeeper.Reconcile.Finalizer

/-
Removing what belongs to a single instance before it goes away: its Services,
then its claim, and last the mark that holds it back.

The first step that fails ends the attempt, so the mark stays until everything
else is gone.
-/
namespace RedisKeeper
namespace Reconcile

structure Teardown where
  services : List String
  claim : String
deriving DecidableEq, Inhabited

/-- The plan for an instance.  The claim is that of its only pod. -/
def Teardown.of (name : String) : Teardown where
  services := [name, Manifest.headlessName name]
  claim := s!"{name}-{name}-0"

inductive TeardownStep where
  | service (name : String)
  | claim (name : String)
  | finalizer
deriving DecidableEq

def Teardown.steps (plan : Teardown) : List TeardownStep :=
  plan.services.map .service ++ [.claim plan.claim, .finalizer]

/-- Steps are asked for one by one, and each either works or fails. -/
abbrev teardownInterface : Interface := ⟨TeardownStep, fun _ => Except Error Unit⟩

/-- Takes steps in order, up to the first that fails. -/
def takeSteps : List TeardownStep → Program teardownInterface (Except Error Unit)
  | [] => return .ok ()
  | step :: rest => do
    match ← Program.call step with
    | .error e => return .error e
    | .ok () => takeSteps rest

def teardown (plan : Teardown) : Program teardownInterface (Except Error Unit) :=
  takeSteps plan.steps

/-- Deletes an object.  One that is not there counts as deleted. -/
def ensureAbsent {α : Type} (t : Api.ResourceType) (f : Json.Format α)
    (ns name : String) : Api.Work (Except Error Unit) := do
  match ← Api.delete t f ns name with
  | .ok () => return .ok ()
  | .error e => return if e.meansAbsent then .ok () else .error (.api e)

/-- One step on the objects of the instance with a name. -/
def takeStep (ns name : String) : TeardownStep → Api.Work (Except Error Unit)
  | .service service => ensureAbsent .service Api.serviceFormat ns service
  | .claim claim => ensureAbsent .claim Api.claimFormat ns claim
  | .finalizer => (unmark ns name).run

end Reconcile
end RedisKeeper
