import RedisKeeper.Instant
import RedisKeeper.Metrics.Exposition

/-
What the operator tells about itself: whether it lives, whether it is ready, and
its metrics.
-/
namespace RedisKeeper

structure Health where
  ready : Bool := false
  metrics : Metrics := .empty
  /-- The second of the last look at a resource that came to its end, zero if
  there was none. -/
  lastReconcile : Nat := 0
deriving Inhabited

namespace Health

def record (h : Health) (observation : Metrics.Observation) : Health :=
  { h with metrics := h.metrics.record observation }

def touch (h : Health) (now : Instant) : Health := { h with lastReconcile := now.epoch }

structure Response where
  status : Nat
  contentType : Option String
  allow : Option String
  body : String
deriving DecidableEq, Inhabited

/-- The pages that are served. -/
inductive Page where
  | alive
  | readiness
  | metrics
deriving DecidableEq

/-- Whether a character may stand in the name of a scheme. -/
def isSchemeChar (c : Char) : Bool := c.isAlphanum || c = '+' || c = '-' || c = '.'

/-- The path of a request target, which may name a scheme and a host in front of
it.  A question mark or a number sign ends the path. -/
def pathOf (target : List Char) : List Char :=
  let path := match target.dropWhile isSchemeChar with
    | ':' :: '/' :: '/' :: rest =>
      if (target.takeWhile isSchemeChar).isEmpty then target
      else rest.dropWhile fun c => c ≠ '/' && c ≠ '?' && c ≠ '#'
    | _ => target
  path.takeWhile fun c => c ≠ '?' && c ≠ '#'

/-- The page at the path of a request target. -/
def page? (target : String) : Option Page :=
  match String.ofList (pathOf target.toList) with
  | "/healthz" => some .alive
  | "/readyz" => some .readiness
  | "/metrics" => some .metrics
  | _ => none

def plain (status : Nat) (body : String) : Response :=
  ⟨status, some "text/plain; charset=utf-8", none, body⟩

def render (h : Health) : Page → Response
  | .alive => plain 200 "ok"
  | .readiness => if h.ready then plain 200 "ready" else plain 503 "not ready"
  | .metrics =>
    ⟨200, some "text/plain; version=0.0.4; charset=utf-8", none, h.metrics.page⟩

/-- The answer to a request.  A page can be read, with or without its body, and
nothing else. -/
def respond (h : Health) (method target : String) : Response :=
  match page? target with
  | none => ⟨404, none, none, ""⟩
  | some page =>
    if method = "GET" then h.render page
    else if method = "HEAD" then { h.render page with body := "" }
    else ⟨405, none, some "GET,HEAD", ""⟩

end Health
end RedisKeeper
