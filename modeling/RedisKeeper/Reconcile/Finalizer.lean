import RedisKeeper.Reconcile.Error
import RedisKeeper.Resource.Single

/-
The mark that keeps a single instance from going away before its objects have
been removed.

The list of such marks is read and then replaced as a whole.
-/
namespace RedisKeeper
namespace Reconcile

def finalizer : String := Api.redisGroup ++ "/finalizer"

/-- The list with the mark at its end, if it is not in it yet. -/
def withFinalizer? (marks : List String) : Option (List String) :=
  if finalizer ∈ marks then none else some (marks ++ [finalizer])

/-- The list without the mark's first occurrence, if it is in it. -/
def withoutFinalizer? (marks : List String) : Option (List String) :=
  if finalizer ∈ marks then some (marks.erase finalizer) else none

def isMarked (m : Metadata) : Bool := finalizer ∈ m.finalizerList

/-- The change that replaces the list of marks. -/
def finalizerChange (marks : List String) : Json :=
  .obj [("metadata", .obj [("finalizers", .strings marks)])]

def replaceFinalizers (ns name : String) (marks : List String) : Act Unit := do
  let _ ← attempt (Api.merge .redisSingle RedisSingle.format ns name (finalizerChange marks))

def mark (ns name : String) : Act Unit := do
  let single ← attempt (Api.get .redisSingle RedisSingle.format ns name)
  match withFinalizer? single.metadata.finalizerList with
  | some marks => replaceFinalizers ns name marks
  | none => return ()

/-- Takes the mark away.  An object that is gone has none. -/
def unmark (ns name : String) : Act Unit := do
  match ← attempt (Api.get? .redisSingle RedisSingle.format ns name) with
  | none => return ()
  | some single =>
    match withoutFinalizer? single.metadata.finalizerList with
    | some marks => replaceFinalizers ns name marks
    | none => return ()

end Reconcile
end RedisKeeper
