import RedisKeeper.Controller.Backoff
import RedisKeeper.Controller.Schedule
import RedisKeeper.Controller.Watch

/-
A controller: it watches the resources of one kind and the objects that belong
to them, and schedules a look at a resource whenever something about it changes.

A resource counts as changed when its generation does, so neither its status nor
its labels matter; one without a generation counts as changed each time.  Any
change of an object that belongs to a resource counts.  After a failure of a
watch the controller takes in nothing for a while, and a watch on the resources
themselves waits for a while of its own.
-/
namespace RedisKeeper

namespace Controller

/-- What a watch is doing. -/
inductive Turn where
  /-- It is its turn, or soon will be. -/
  | queued
  /-- It has a request to send, which is to be answered. -/
  | sent
  /-- Its request can be answered. -/
  | granted
  /-- Something has to happen. -/
  | idle
  /-- It waits after a failure. -/
  | asleep
deriving DecidableEq, Inhabited

/-- A watch among those of a controller. -/
structure Post where
  watch : Watch
  turn : Turn := .queued
  /-- Resources that are to be looked at because of what was last seen. -/
  triggers : List ObjectName := []
  backoff : Backoff := {}
  /-- The millisecond up to which nothing is asked. -/
  asleepUntil : Nat := 0

end Controller

structure Controller where
  /-- The kind of resource that is looked after. -/
  resource : Api.ResourceType
  posts : List Controller.Post
  /-- The watches whose turn it is, by their places, in order. -/
  queue : List Nat
  schedule : Controller.Schedule := .empty
  /-- The resources as they were last seen. -/
  known : List (ObjectName × Controller.Subject) := []
  /-- The resources that have been listed so far. -/
  listed : List (ObjectName × Controller.Subject) := []
  /-- Whether the resources have been listed. -/
  ready : Bool := false
  /-- The generation with which each resource was last seen to change. -/
  generations : List (ObjectName × Int64) := []
  backoff : Controller.Backoff := {}
  /-- The millisecond up to which nothing is taken in. -/
  pausedUntil : Nat := 0

namespace Controller

/-- The controller that looks after a kind of resource, to which objects of other
kinds belong. -/
def new (resource : Api.ResourceType) (owned : List Api.ResourceType) : Controller where
  resource := resource
  posts := { watch := ⟨resource, false, .unlisted⟩ } ::
    owned.map fun t => { watch := ⟨t, true, .unlisted⟩ }
  queue := List.range (owned.length + 1)

/-- StatefulSets and Services belong to clusters. -/
def clusters : Controller := new .redisCluster [.statefulSet, .service]

/-- StatefulSets belong to single instances. -/
def singles : Controller := new .redisSingle [.statefulSet]

/-! ## Objects -/

def nameOf (m : Metadata) : ObjectName := ⟨m.ns, m.name.getD ""⟩

/-- The resources of a kind that an object belongs to. -/
def ownersOf (t : Api.ResourceType) (m : Metadata) : List ObjectName :=
  (m.ownerReferences.getD []).filterMap fun r =>
    if r.apiVersion = t.apiVersion ∧ r.kind = t.kind then some ⟨m.ns, r.name⟩ else none

/-- Replaces the value under a key, or adds it. -/
def upsert {α : Type} (key : ObjectName) (value : α) (entries : List (ObjectName × α)) :
    List (ObjectName × α) :=
  (key, value) :: entries.filter fun entry => entry.1 ≠ key

def look (c : Controller) (time : Nat) (object : ObjectName) : Controller :=
  { c with schedule := c.schedule.add object time }

/-! ## Taking in -/

/-- The resources that are to be looked at because an object was seen. -/
def triggersOf (c : Controller) (s : Sighting) : Controller × List ObjectName :=
  match s with
  | .relative m => (c, ownersOf c.resource m)
  | .subject subject =>
    let m := subject.metadata
    match m.generation with
    | none => (c, [nameOf m])
    | some generation =>
      if c.generations.lookup (nameOf m) = some generation then (c, [])
      else ({ c with generations := upsert (nameOf m) generation c.generations }, [nameOf m])

/-- Keeps a resource as it was listed. -/
def keepListed (c : Controller) : Sighting → Controller
  | .subject s => { c with listed := upsert (nameOf s.metadata) s c.listed }
  | .relative _ => c

/-- Keeps a resource as it is now. -/
def keep (c : Controller) : Sighting → Controller
  | .subject s => { c with known := upsert (nameOf s.metadata) s c.known }
  | .relative _ => c

/-- Takes in what a watch has to say, and returns the resources that are to be
looked at because of it. -/
def take (c : Controller) (owned : Bool) : Note → Controller × List ObjectName
  | .begun => (if owned then c else { c with listed := [] }, [])
  | .listed s => (c.keepListed s).triggersOf s
  | .complete => (if owned then c else { c with known := c.listed, listed := [], ready := true }, [])
  | .changed s => (c.keep s).triggersOf s
  | .removed (.subject s) =>
    ({ c with known := c.known.filter fun entry => entry.1 ≠ nameOf s.metadata }, [])
  | .removed (.relative m) => (c, ownersOf c.resource m)
  | .failed => (c, [])

/-! ## Turns -/

def setPost (c : Controller) (i : Nat) (post : Post) : Controller :=
  { c with posts := c.posts.set i post }

/-- The controller with a watch at the end of the queue. -/
def enqueue (c : Controller) (i : Nat) (post : Post) (turn : Turn) : Controller :=
  { c.setPost i { post with turn } with queue := c.queue ++ [i] }

/-- The watch whose turn it is, and the controller without it in the queue. -/
def dequeue? (c : Controller) (now : Nat) : Option (Nat × Post × Controller) :=
  if now < c.pausedUntil then none
  else
    match c.queue with
    | [] => none
    | i :: rest => c.posts[i]?.map fun post => (i, post, { c with queue := rest })

/-- The controller after one of its watches named a resource to be looked at. -/
def triggered (c : Controller) (now : Nat) (object : ObjectName) : Controller :=
  { c with backoff := c.backoff.succeeded }.look now object

/-- The controller after one of its watches failed. -/
def failed (c : Controller) (now : Nat) : Controller :=
  let (pausedUntil, backoff) := c.backoff.failed now
  { c with pausedUntil, backoff }

namespace Post

/-- The watch after it said something.  Only a watch on the resources themselves
waits after failures. -/
def said (post : Post) (now : Nat) (note : Note) : Post :=
  if post.watch.owned then post
  else
    match note with
    | .failed =>
      let (asleepUntil, backoff) := post.backoff.failed now
      { post with asleepUntil, backoff }
    | _ => { post with backoff := post.backoff.succeeded }

end Post

/-- The times at which the controller may have something to do again, while looks
at some objects go on. -/
def wakeTimes (c : Controller) (busy : List ObjectName) : List Nat :=
  c.pausedUntil :: c.posts.map (·.asleepUntil) ++
    (if c.ready then (c.schedule.earliest? busy).toList else [])

end Controller
end RedisKeeper
