import RedisKeeper.Text.Quoted

/-
What can go wrong between the operator and the Kubernetes API.
-/
namespace RedisKeeper
namespace Api

/-- The API's own account of a request that it refused. -/
structure Refusal where
  status : String
  message : String
  reason : String
  code : Nat
deriving DecidableEq, Inhabited

inductive Error where
  /-- The API answered that it refuses. -/
  | refused (r : Refusal)
  /-- No answer came back. -/
  | transport (text : String)
  /-- The request was not sent, because it names no object. -/
  | unnamed
  /-- The request was not sent, because a name in it cannot be part of a path. -/
  | unaddressable
  /-- The answer is not what was asked for. -/
  | undecodable (complaint : String)
  /-- The connection for a command was answered with this status in place of
  being opened.  The status of an opened one is not enough. -/
  | notUpgraded (code : Nat)
deriving DecidableEq, Inhabited

/-- The standard phrase for an HTTP status code. -/
def reasonPhrase? : Nat → Option String
  | 100 => some "Continue"
  | 101 => some "Switching Protocols"
  | 102 => some "Processing"
  | 103 => some "Early Hints"
  | 200 => some "OK"
  | 201 => some "Created"
  | 202 => some "Accepted"
  | 203 => some "Non Authoritative Information"
  | 204 => some "No Content"
  | 205 => some "Reset Content"
  | 206 => some "Partial Content"
  | 207 => some "Multi-Status"
  | 208 => some "Already Reported"
  | 226 => some "IM Used"
  | 300 => some "Multiple Choices"
  | 301 => some "Moved Permanently"
  | 302 => some "Found"
  | 303 => some "See Other"
  | 304 => some "Not Modified"
  | 305 => some "Use Proxy"
  | 307 => some "Temporary Redirect"
  | 308 => some "Permanent Redirect"
  | 400 => some "Bad Request"
  | 401 => some "Unauthorized"
  | 402 => some "Payment Required"
  | 403 => some "Forbidden"
  | 404 => some "Not Found"
  | 405 => some "Method Not Allowed"
  | 406 => some "Not Acceptable"
  | 407 => some "Proxy Authentication Required"
  | 408 => some "Request Timeout"
  | 409 => some "Conflict"
  | 410 => some "Gone"
  | 411 => some "Length Required"
  | 412 => some "Precondition Failed"
  | 413 => some "Payload Too Large"
  | 414 => some "URI Too Long"
  | 415 => some "Unsupported Media Type"
  | 416 => some "Range Not Satisfiable"
  | 417 => some "Expectation Failed"
  | 418 => some "I'm a teapot"
  | 421 => some "Misdirected Request"
  | 422 => some "Unprocessable Entity"
  | 423 => some "Locked"
  | 424 => some "Failed Dependency"
  | 425 => some "Too Early"
  | 426 => some "Upgrade Required"
  | 428 => some "Precondition Required"
  | 429 => some "Too Many Requests"
  | 431 => some "Request Header Fields Too Large"
  | 451 => some "Unavailable For Legal Reasons"
  | 500 => some "Internal Server Error"
  | 501 => some "Not Implemented"
  | 502 => some "Bad Gateway"
  | 503 => some "Service Unavailable"
  | 504 => some "Gateway Timeout"
  | 505 => some "HTTP Version Not Supported"
  | 506 => some "Variant Also Negotiates"
  | 507 => some "Insufficient Storage"
  | 508 => some "Loop Detected"
  | 510 => some "Not Extended"
  | 511 => some "Network Authentication Required"
  | _ => none

def statusLine (code : Nat) : String :=
  let phrase := (reasonPhrase? code).getD "<unknown status code>"
  s!"{code} {phrase}"

/-- A refusal written with all its parts. -/
def Refusal.text (r : Refusal) : String :=
  let parts := [
    ("status", Text.quoted r.status), ("message", Text.quoted r.message),
    ("reason", Text.quoted r.reason), ("code", toString r.code)]
  let inner := ", ".intercalate (parts.map fun part => part.1 ++ ": " ++ part.2)
  s!"{r.message}: {r.reason} (ErrorResponse \x7b {inner} \x7d)"

def Error.message : Error → String
  | .refused r => s!"ApiError: {r.text}"
  | .transport text => s!"ServiceError: {text}"
  | .unnamed =>
    "Failed to build request: failed to validate request: A non-empty name is required"
  | .unaddressable =>
    "Failed to build request: failed to build request: invalid uri character"
  | .undecodable complaint => s!"Error deserializing response: {complaint}"
  | .notUpgraded code =>
    let reason :=
      if code = 101 then "upgrade header was not set to websocket"
      else s!"failed to switch protocol: {statusLine code}"
    s!"failed to upgrade to a WebSocket connection: {reason}"

/-- Whether the API says that the object does not exist. -/
def Error.meansAbsent : Error → Bool
  | .refused r => r.code = 404
  | _ => false

end Api
end RedisKeeper
