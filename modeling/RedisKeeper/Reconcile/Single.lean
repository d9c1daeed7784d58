import RedisKeeper.Reconcile.Provision
import RedisKeeper.Reconcile.Status
import RedisKeeper.Reconcile.Teardown
import RedisKeeper.Reconcile.Tick

/-
One look at a single instance.

It is marked before anything is made for it, and when it is to go away its
objects are removed before the mark is.
-/
namespace RedisKeeper
namespace Reconcile

/-- The names of the pods of an instance, in the order in which they are
listed. -/
def listPodNames (ns name : String) : Act (List String) := do
  let labels := Manifest.selector name Manifest.singleSetup Manifest.singleSetup
  let pods ← attempt (Api.list .pod Api.podFormat ns (selectorText labels))
  return pods.map fun pod => pod.metadata.displayName

def writeSingleStatus (s : RedisSingle) (ns : String) (status : SingleStatus) : Act Unit := do
  let _ ← attempt (Api.mergeStatus .redisSingle RedisSingle.format ns s.name status.toJson)

/-- Removes what belongs to an instance that is to go away. -/
def remove (s : RedisSingle) (ns : String) : Api.Work (Except Error Unit) :=
  if isMarked s.metadata then
    (teardown (.of s.name)).via (takeStep ns s.name)
  else return .ok ()

/-- Brings an instance's objects into being and writes what has changed into its
status. -/
def build (setting : Setting) (s : RedisSingle) (ns : String) : Act Unit := do
  if ← provideStatefulSet s.statefulSet then
    setting.publish s.owner .normal "Creating" "CreateResources" "Created StatefulSet"
  provideServices s.services
  let ready ← readReady ns s.name
  let nodes ← listPodNames ns s.name
  if RedisSingle.statusDiffers s.previousStatus ready nodes s.metadata.generation then
    writeSingleStatus s ns (s.statusAfter ready nodes setting.now.text)

/-- Marks an instance, if it is not marked yet, and then builds it. -/
def maintain (setting : Setting) (s : RedisSingle) (ns : String) : Act Unit := do
  if !isMarked s.metadata then
    mark ns s.name
  build setting s ns

/-- One look at an instance. -/
def single (setting : Setting) (s : RedisSingle) : Api.Work Tick := do
  match s.metadata.ns with
  | none => return .failed (.missingField "metadata.namespace")
  | some ns =>
    if s.metadata.deletionTimestamp.isSome then
      match ← remove s ns with
      | .error e => return .failed e
      | .ok () => return .ended .none
    else
      match ← (maintain setting s ns).run with
      | .error e => return .failed e
      | .ok () =>
        return {
          result := .ok (.after 15)
          observations :=
            some fun seconds => [.reconciled ⟨RedisSingle.kind, ns, s.name⟩ seconds] }

end Reconcile
end RedisKeeper
