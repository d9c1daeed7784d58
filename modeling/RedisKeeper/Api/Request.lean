import RedisKeeper.Api.Error
import RedisKeeper.Api.Resource
import RedisKeeper.Json.Format
import RedisKeeper.Store.Call
import RedisKeeper.Topology.Target

/-
What the operator asks of the Kubernetes API, and how it reads the answers.

A request whose names cannot be part of a path is not sent.  An answer with a
status code from 400 to 599 is a refusal.  It is described by its body where that
is an account of a failure, and otherwise by the code and the quoted body.  The
body of any other answer has to be JSON.
-/
namespace RedisKeeper
namespace Api

inductive Verb where
  | get
  | list
  | watch
  /-- Server-side apply. -/
  | apply
  /-- JSON merge patch. -/
  | merge
  | create
  | delete
  /-- Runs a command in a pod. -/
  | execute
deriving DecidableEq, Inhabited

def Verb.name : Verb → String
  | get => "get"
  | list => "list"
  | watch => "watch"
  | apply => "apply"
  | merge => "merge"
  | create => "create"
  | delete => "delete"
  | execute => "exec"

structure Request where
  verb : Verb
  resource : ResourceType
  /-- Nothing stands for all namespaces. -/
  ns : Option String
  /-- Empty where the request is about a collection. -/
  name : String := ""
  subresource : Option String := none
  query : List (String × String) := []
  body : Option Json := none
deriving Inhabited

/-- The path of what a request is about. -/
def Request.path (r : Request) : String :=
  let name := if r.name.isEmpty then "" else "/" ++ r.name
  r.resource.path r.ns ++ name

/-- The address that a request is sent to, up to the pairs of its query.  Only the
request for an object as it is has no query. -/
def Request.address (r : Request) : String :=
  let part := match r.subresource with
    | some part => "/" ++ part
    | none => ""
  r.path ++ part ++ (if r.verb = .get then "" else "?")

/-- Whether a character is visible and no number sign or angle bracket. -/
def isAddressChar (c : Char) : Bool :=
  '!' ≤ c && c ≠ '\x7f' && c ≠ '#' && c ≠ '<' && c ≠ '>'

/-- Whether a character may stand in a path as it is. -/
def isPathChar (c : Char) : Bool := isAddressChar c && c ≠ '?' && c ≠ '\x60'

/-- Whether a character may stand in what follows the question mark behind a
path. -/
def isQueryChar (c : Char) : Bool := isAddressChar c && c ≠ '"'

/-- Whether a text can be the path that a request is sent to.  A number sign ends
it, and after a question mark other characters are in order. -/
@[irreducible]
def isAddress (path : String) : Bool :=
  let cs := path.toList.takeWhile (· ≠ '#')
  (cs.takeWhile (· ≠ '?')).all isPathChar &&
    ((cs.dropWhile (· ≠ '?')).drop 1).all isQueryChar

/-- What happens to the objects of a collection, in one namespace or in all of
them, behind a number of changes. -/
structure Channel where
  plural : String
  ns : Option String
  seen : Nat
deriving DecidableEq, Inhabited

/-- What an answer carries. -/
inductive Payload where
  | text (s : String)
  /-- Changes, one after the other as they happen. -/
  | changes (channel : Channel)
deriving Inhabited

/-- The text of what has come as a whole. -/
def Payload.toText : Payload → String
  | text s => s
  | changes _ => ""

inductive Reply where
  /-- Nothing came back. -/
  | lost (text : String)
  | answered (code : Nat) (body : Payload)
deriving Inhabited

/-- The answer to a request to run a command. -/
inductive CommandReply where
  | lost (text : String)
  | notUpgraded (code : Nat)
  /-- What the command wrote, and what the API tells of how it ended. -/
  | ran (stdout stderr : List UInt8) (closing : Option String)
deriving Inhabited

inductive Query where
  | request (r : Request)
  | command (pod : PodName) (container : String) (argv : List String)
  | store (call : Store.Call)

abbrev Query.Answer : Query → Type
  | request _ => Reply
  | command _ _ _ => CommandReply
  | store call => call.Answer

/-- All that the operator can ask of the world. -/
abbrev interface : Interface := ⟨Query, Query.Answer⟩

abbrev Work (α : Type) := Program interface α

/-! ## Reading answers -/

open Json

/-- The account of a failure that the API gives. -/
def Refusal.format : Format Refusal :=
  .declared "Refusal" <| Refusal.mk
    <$> .required "status" .text
    <*> .defaulted "message" "" .text
    <*> .defaulted "reason" "" .text
    <*> .required "code" (.natOfBits 16)

/-- The refusal told by an answer with an error code. -/
def Refusal.of (code : Nat) (body : Payload) : Refusal :=
  match Refusal.format.read body.toText with
  | .ok r => r
  | .error _ =>
    ⟨statusLine code, Text.quoted body.toText, "Failed to parse error data", code⟩

/-- The text that a reply brings. -/
def Reply.result : Reply → Except Error String
  | lost text => .error (.transport text)
  | answered code body =>
    if 400 ≤ code ∧ code ≤ 599 then .error (.refused (.of code body)) else .ok body.toText

variable {α : Type}

/-- An answer that is not what was asked for. -/
def undecodable (c : Complaint) : Error := .undecodable c.text

/-- What an answer's body says. -/
def decoded (f : Format α) (result : Except Error String) : Except Error α :=
  result.bind fun text => (f.read text).mapError undecodable

/-- What the API says of a request that it carried out. -/
def outcomeFormat : Format Unit :=
  .declared "Outcome" <| (fun _ _ _ _ _ => ())
    <$> .optional "status" (.unread (.choice ["Success", "Failure"]))
    <*> .defaulted "code" 0 (.natOfBits 16)
    <*> .defaulted "message" "" .text
    <*> .defaulted "reason" "" .text
    <*> .optional "details" detailsFormat
where
  detailsFormat : Format Unit :=
    .declared "OutcomeDetails" <| (fun _ _ _ _ _ _ => ())
      <$> .defaulted "name" "" .text
      <*> .defaulted "group" "" .text
      <*> .defaulted "kind" "" .text
      <*> .defaulted "uid" "" .text
      <*> .defaulted "causes" [] (.list causeFormat)
      <*> .defaulted "retryAfterSeconds" 0 (.natOfBits 32)
  causeFormat : Format Unit :=
    .declared "OutcomeCause" <| (fun _ _ _ => ())
      <$> .defaulted "reason" "" .text
      <*> .defaulted "message" "" .text
      <*> .defaulted "field" "" .text

/-- What the answer to a deletion says: it holds the object, or tells how the
deletion went. -/
def deleted (f : Format α) (text : String) : Except Complaint Unit := do
  let json ← Format.any.read text
  match json.get? "kind" with
  | some (.str "Status") => outcomeFormat.read text
  | _ => discard (f.read text)

/-- Some objects of a kind. -/
structure Listing (α : Type) where
  items : List α
  version : Option String
  /-- Where the list goes on, if it does. -/
  next : Option String

def Listing.format (item : Format α) : Format (Listing α) :=
  .flattened "Listing" <| (fun (version, next) items => ⟨items.getD [], version, next⟩)
    <$> .defaulted "metadata" (none, none) metadata
    <*> .present "items" (.list item)
where
  metadata : Format (Option String × Option String) :=
    .lenient "ListMeta" <| Prod.mk
      <$> .optional "resourceVersion" .text
      <*> .optional "continue" .text
      <* .unread "remainingItemCount" .int64
      <* .unread "selfLink" .anyText

/-! ## Sending requests -/

def ask (r : Request) : Work (Except Error Reply) := do
  if isAddress r.path then
    let reply : Reply ← .ask (Query.request r) .done
    return .ok reply
  else return .error .unaddressable

/-- Sends a request and returns the text that comes back. -/
def send (r : Request) : Work (Except Error String) := do
  return (← ask r).bind Reply.result

/-- Sends a request about one object, which must be named. -/
def sendNamed (r : Request) : Work (Except Error String) := do
  if r.name.isEmpty then return .error .unnamed else send r

def get (t : ResourceType) (f : Format α) (ns name : String) : Work (Except Error α) := do
  return decoded f (← sendNamed { verb := .get, resource := t, ns := some ns, name })

/-- The object, or nothing where the API's reason is that it does not exist. -/
def get? (t : ResourceType) (f : Format α) (ns name : String) :
    Work (Except Error (Option α)) := do
  match ← get t f ns name with
  | .ok a => return .ok (some a)
  | .error (.refused r) =>
    if r.reason = "NotFound" then return .ok none else return .error (.refused r)
  | .error e => return .error e

/-- The name under which the operator changes objects. -/
def managerName : String := "redis-cluster-operator"

def apply (t : ResourceType) (f : Format α) (ns name : String) (body : Json) :
    Work (Except Error α) := do
  return decoded f (← sendNamed {
    verb := .apply, resource := t, ns := some ns, name
    query := [("fieldManager", managerName), ("force", "true")], body := some body })

def merge (t : ResourceType) (f : Format α) (ns name : String) (body : Json) :
    Work (Except Error α) := do
  return decoded f (← sendNamed {
    verb := .merge, resource := t, ns := some ns, name, body := some body })

/-- Merges into the status alone. -/
def mergeStatus (t : ResourceType) (f : Format α) (ns name : String) (status : Json) :
    Work (Except Error α) := do
  return decoded f (← sendNamed {
    verb := .merge, resource := t, ns := some ns, name, subresource := some "status"
    query := [("fieldManager", managerName)]
    body := some (.obj [("status", status)]) })

/-- Deletes an object. -/
def delete (t : ResourceType) (f : Format α) (ns name : String) : Work (Except Error Unit) := do
  let result ← sendNamed {
    verb := .delete, resource := t, ns := some ns, name, body := some (.obj []) }
  return result.bind fun text => (deleted f text).mapError undecodable

/-- The objects of a namespace that carry some labels. -/
def list (t : ResourceType) (f : Format α) (ns labelSelector : String) :
    Work (Except Error (List α)) := do
  let listing := decoded (Listing.format f) (← send {
    verb := .list, resource := t, ns := some ns, query := [("labelSelector", labelSelector)] })
  return listing.map (·.items)

end Api
end RedisKeeper
