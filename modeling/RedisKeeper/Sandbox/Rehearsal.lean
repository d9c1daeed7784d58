import RedisKeeper.Controller.Basic
import RedisKeeper.Reconcile.Settle
import RedisKeeper.Sandbox.Server

/-
The whole operator against a scripted API, in a time of its own.

Work takes no time.  It is done in rounds.  In a round each controller has a turn:
its looks at resources have a question answered and ask the next one, it takes in
what it can, and it begins the looks that are due.  The controllers take turns in
going first.  What is asked in a round is answered in the next one.  The clock
stands still while anything can be done, and then jumps to the next moment at which
something is due.

An object without a name stops everything, in the middle of a turn.
-/
namespace RedisKeeper
namespace Sandbox

/-- A look at a resource that goes on. -/
structure Look where
  /-- The controller's place. -/
  controller : Nat
  object : ObjectName
  subject : Controller.Subject
  started : Instant
  work : Api.Work Reconcile.Tick
  /-- Whether the next question has been asked. -/
  asked : Bool := false

structure Rehearsal where
  server : Server
  controllers : List Controller := [.clusters, .singles]
  /-- The only namespace that is looked after, if not all are. -/
  scope : Option String
  reporter : String
  tools : Node.Tools
  /-- The operator's account of itself, if it keeps one. -/
  health : Option Health
  /-- The milliseconds that have passed. -/
  now : Nat := 0
  looks : List Look := []
  /-- The looks that have been begun. -/
  begun : Nat := 0
  /-- The watches that have sent a request, by the places of their controllers and
  their own. -/
  sent : List (Nat × Nat) := []
  /-- What was asked and answered, the latest first. -/
  log : List (Exchange Api.interface) := []
  /-- The rounds that have been done. -/
  rounds : Nat := 0
  /-- Whether the operator has come to its end. -/
  stopped : Bool := false

namespace Rehearsal

/-- What every text of a clock reading begins with. -/
def clockText : String := "<now "

/-- The reading of the clock for the next look.  No two looks read the same. -/
def clock (r : Rehearsal) : Instant :=
  ⟨clockText ++ toString r.begun ++ ">", r.now / 1000 + 1, toString r.begun⟩

def perform {α : Type} (r : Rehearsal) (work : Api.Work α) : α × Rehearsal :=
  let (a, log, server) := r.server.perform work
  (a, { r with server, log := log.reverse ++ r.log })

def setController (r : Rehearsal) (k : Nat) (c : Controller) : Rehearsal :=
  { r with controllers := r.controllers.set k c }

/-! ## Watches -/

/-- The first change that is to be told on a channel, and the channel behind it. -/
def unread? (r : Rehearsal) (channel : Api.Channel) : Option (Api.Change × Api.Channel) :=
  let later := (r.server.changes.take (r.server.changes.length - channel.seen)).reverse
  (later.zipIdx.find? fun (change, _) =>
      Server.isIn channel.plural channel.ns change.object).map
    fun (change, i) => (change, { channel with seen := channel.seen + i + 1 })

/-- What a watch that follows the changes has to take in, if anything. -/
def unreadBy? (r : Rehearsal) (w : Controller.Watch) : Option (Api.Change × Api.Channel) :=
  match w.stage with
  | .following _ (.live channel) => r.unread? channel
  | _ => none

/-- One step of a watch, or what it has to wait for. -/
def stepWatch (r : Rehearsal) (post : Controller.Post) :
    Except Controller.Turn (Rehearsal × Controller.Watch × Option Controller.Note) :=
  let w := post.watch
  match w.request? r.scope with
  | some request =>
    if post.turn = .granted then
      let (result, r) := r.perform (Api.ask request)
      let (w, note) := w.answered result
      .ok (r, w, note)
    else .error .sent
  | none =>
    match w.stage with
    | .following version (.live _) =>
      match r.unreadBy? w with
      | some (change, channel) =>
        let line := (change.toJson (toString channel.seen)).write
        let (w, note) := w.takeNotice version (.live channel) line
        .ok (r, w, note)
      | none => .error .idle
    | _ =>
      match w.advance? with
      | some (w, note) => .ok (r, w, note)
      | none => .error .idle

/-- Gives a watch its turn, for at most so many steps.  The turn ends when the
watch has to wait, fails, or names a resource to be looked at. -/
def giveTurn : Nat → Rehearsal → Nat → Controller → Nat → Controller.Post → Rehearsal
  | 0, r, k, c, i, post => r.setController k (c.setPost i { post with turn := .idle })
  | fuel + 1, r, k, c, i, post =>
    match post.triggers with
    | object :: rest =>
      r.setController k
        ((c.enqueue i { post with triggers := rest } .queued).triggered r.now object)
    | [] =>
      if r.now < post.asleepUntil then
        r.setController k (c.setPost i { post with turn := .asleep })
      else
        match r.stepWatch post with
        | .error turn =>
          let r := r.setController k (c.setPost i { post with turn })
          if turn = .sent then { r with sent := r.sent ++ [(k, i)] } else r
        | .ok (r, watch, note) =>
          let post := { post with watch, turn := .queued }
          match note with
          | none => giveTurn fuel r k c i post
          | some note =>
            if note.isNameless then { r with stopped := true }
            else
              let post := post.said r.now note
              match note with
              | .failed => r.setController k ((c.enqueue i post .queued).failed r.now)
              | note =>
                let (c, triggers) := c.take post.watch.owned note
                giveTurn fuel r k c i { post with triggers }

/-- Gives the watches of a controller their turns, at most so many. -/
def takeIn : Nat → Rehearsal → Nat → Rehearsal
  | 0, r, _ => r
  | fuel + 1, r, k =>
    if r.stopped then r
    else
      match r.controllers[k]?.bind (·.dequeue? r.now) with
      | some (i, post, c) => takeIn fuel (r.giveTurn 100000 k c i post) k
      | none => r

/-- Lets the requests that were sent be answered. -/
def grant (r : Rehearsal) : Rehearsal :=
  let step (r : Rehearsal) (place : Nat × Nat) : Rehearsal :=
    match r.controllers[place.1]? with
    | some c =>
      match c.posts[place.2]? with
      | some post => r.setController place.1 (c.enqueue place.2 post .granted)
      | none => r
    | none => r
  r.sent.foldl step { r with sent := [] }

/-- The watches of a controller that have something to take in again, each with
the place of the change that it waited for. -/
def awakened (r : Rehearsal) (c : Controller) : List (Nat × Nat) :=
  c.posts.zipIdx.filterMap fun (post, i) =>
    match post.turn with
    | .idle => (r.unreadBy? post.watch).map fun (_, channel) => (channel.seen, i)
    | .asleep => if post.asleepUntil ≤ r.now then some (0, i) else none
    | _ => none

/-- Queues the watches that have something to take in again, in the order of the
changes. -/
def awaken (r : Rehearsal) : Rehearsal :=
  { r with
    controllers := r.controllers.map fun c =>
      ((r.awakened c).mergeSort fun a b => a.1 ≤ b.1).foldl
        (fun c (_, i) =>
          match c.posts[i]? with
          | some post => c.enqueue i post .queued
          | none => c) c }

/-! ## Looks -/

/-- The objects of a controller that are being looked at. -/
def busy (r : Rehearsal) (k : Nat) : List ObjectName :=
  (r.looks.filter fun look => look.controller = k).map (·.object)

/-- The operator after a look came to its end. -/
def settle (r : Rehearsal) (look : Look) (tick : Reconcile.Tick) : Rehearsal :=
  let r := { r with health := r.health.map (tick.settle look.subject.owner look.started 0) }
  match r.controllers[look.controller]?, tick.requeue.delay? with
  | some c, some seconds =>
    r.setController look.controller (c.look (r.now + seconds * 1000) look.object)
  | _, _ => r

/-- Begins a look at a resource, if it is known. -/
def begin (r : Rehearsal) (k : Nat) (c : Controller) (object : ObjectName) : Rehearsal :=
  match c.known.lookup object with
  | none => r
  | some subject =>
    let work := subject.tick ⟨r.reporter, r.tools, r.clock⟩
    let look : Look := { controller := k, object, subject, started := r.clock, work }
    { r with looks := r.looks ++ [look], begun := r.begun + 1 }

/-- Begins the looks of a controller that are due, at most so many. -/
def beginDue : Nat → Rehearsal → Nat → Rehearsal
  | 0, r, _ => r
  | fuel + 1, r, k =>
    match r.controllers[k]? with
    | none => r
    | some c =>
      if !c.ready then r
      else
        match c.schedule.takeDue? r.now (r.busy k) with
        | none => r
        | some (object, schedule) =>
          let c := { c with schedule }
          beginDue fuel ((r.setController k c).begin k c object) k

/-- Goes on with a look: the question that it asked is answered, and it asks the next
one. -/
def goOn (r : Rehearsal) (look : Look) : Rehearsal :=
  match look.work, look.asked with
  | .done tick, _ => r.settle look tick
  | .ask _ _, false => { r with looks := r.looks ++ [{ look with asked := true }] }
  | .ask q next, true =>
    let (answer, server) := Server.answer q r.server
    let r := { r with server, log := ⟨q, answer⟩ :: r.log }
    match next answer with
    | .done tick => r.settle look tick
    | work => { r with looks := r.looks ++ [{ look with work }] }

/-- Goes on with the looks of a controller. -/
def goOnAll (r : Rehearsal) (k : Nat) : Rehearsal :=
  let (mine, others) := r.looks.partition fun look => look.controller = k
  mine.foldl goOn { r with looks := others }

/-! ## Time -/

/-- Whether anything can be done at the present moment. -/
def canGo (r : Rehearsal) : Bool :=
  !r.looks.isEmpty || !r.sent.isEmpty ||
    r.controllers.zipIdx.any fun (c, k) =>
      (c.dequeue? r.now).isSome || c.ready && (c.schedule.takeDue? r.now (r.busy k)).isSome

/-- A controller's turn.  It begins no look in the turn in which it gets ready. -/
def attend (r : Rehearsal) (k : Nat) : Rehearsal :=
  if r.stopped then r
  else
    let wasReady := r.controllers[k]?.any (·.ready)
    let r := takeIn 10000 (r.goOnAll k).awaken k
    if wasReady && !r.stopped then beginDue 10000 r k else r

def round (r : Rehearsal) : Rehearsal :=
  let places := List.range r.controllers.length
  let order := if r.rounds % 2 = 0 then places else places.reverse
  let r := order.foldl attend r
  { r.grant with rounds := r.rounds + 1 }

/-- The next moment at which something may be due. -/
def wake? (r : Rehearsal) : Option Nat :=
  let times := r.controllers.zipIdx.flatMap fun (c, k) => c.wakeTimes (r.busy k)
  (times.filter (r.now < ·)).min?

/-- Goes on up to a moment, for at most so many steps.  What is due at that very
moment is left for later. -/
def runUntil : Nat → Rehearsal → Nat → Rehearsal
  | 0, r, _ => r
  | fuel + 1, r, moment =>
    if moment ≤ r.now then r
    else if r.stopped then { r with now := moment }
    else
      let r := r.awaken
      if r.canGo then runUntil fuel r.round moment
      else
        match r.wake? with
        | some t => runUntil fuel { r with now := min t moment } moment
        | none => { r with now := moment }

/-- Lets some milliseconds pass. -/
def run (r : Rehearsal) (ms : Nat) : Rehearsal := r.runUntil (ms + 100000) (r.now + ms)

/-- The operator before its first step.  It is ready from then on. -/
def start (server : Server) (scope : Option String) (reporter : String) (tools : Node.Tools)
    (watched : Bool) : Rehearsal where
  server := server
  scope := scope
  reporter := reporter
  tools := tools
  health := if watched then some { ready := true } else none

end Rehearsal
end Sandbox
end RedisKeeper
