import RedisKeeper.Api.Request
import RedisKeeper.StringMap
import RedisKeeper.Text.Query

/-
Requests as they arrive.

The API knows a request by its address: the path, a question mark and the query.
Namespace and name stand in the path as they are.  So a slash in one of them parts
it in two, an empty part is none, a question mark begins the query, and all that
follows a number sign is lost.  The pairs of the query itself arrive as they were.
-/
namespace RedisKeeper
namespace Sandbox

structure Arrival where
  verb : Api.Verb
  /-- The collection that the request is about. -/
  plural : String
  /-- Nothing stands for all namespaces. -/
  ns : Option String
  /-- Empty where the request is about a collection. -/
  name : String
  subresource : Option String
  query : List (String × String)
  body : Option Json

namespace Arrival

/-- The parts of a path behind the API's group and version. -/
def scopeOf : List String → List String
  | "api" :: _ :: parts | "apis" :: _ :: _ :: parts => parts
  | parts => parts

/-- The namespace that a path names, and the parts behind it. -/
def placeOf : List String → Option String × List String
  | "namespaces" :: ns :: parts => (some ns, parts)
  | parts => (none, parts)

/-- What is done.  Whether one object is read or many, and whether the connection
is for a command, is told by the address alone. -/
def verbOf (sent : Api.Verb) (name : String) (subresource : Option String)
    (query : List (String × String)) : Api.Verb :=
  match sent with
  | .get | .list | .watch | .execute =>
    if subresource = some "exec" then .execute
    else if !name.isEmpty then .get
    else if ("watch", "true") ∈ query then .watch
    else .list
  | sent => sent

/-- What arrives of a request that is sent to an address. -/
def read (sent : Api.Verb) (address : String) (query : List (String × String))
    (body : Option Json) : Arrival :=
  let whole := address.toList
  let kept := whole.takeWhile (· ≠ '#')
  let path := kept.takeWhile (· ≠ '?')
  let query := Text.queryPairs (kept.drop (path.length + 1)) ++
    (if kept.length < whole.length then [] else query)
  let parts := ((Text.cut '/' path).filter fun part => !part.isEmpty).map String.ofList
  let (ns, parts) := placeOf (scopeOf parts)
  let name := parts[1]?.getD ""
  let subresource := parts[2]?
  { verb := verbOf sent name subresource query
    plural := parts[0]?.getD "", ns, name, subresource, query, body }

def ofRequest (r : Api.Request) : Arrival := read r.verb r.address r.query r.body

/-- What arrives of a request to run a command in a pod. -/
def ofCommand (pod : PodName) (container : String) (argv : List String) : Arrival :=
  let r : Api.Request := {
    verb := .execute, resource := .pod, ns := some pod.ns, name := pod.name
    subresource := some "exec"
    query := [("stdout", "true"), ("stderr", "true"), ("container", container)] ++
      argv.map fun word => ("command", word) }
  ofRequest r

/-- The words of the command that is to be run. -/
def command (a : Arrival) : List String :=
  a.query.filterMap fun (key, value) => if key = "command" then some value else none

/-- What the query says besides the command.  Of two pairs with one key the last
one counts. -/
def options (a : Arrival) : StringMap :=
  .ofList (a.query.filter fun pair => pair.1 ≠ "command")

end Arrival
end Sandbox
end RedisKeeper
