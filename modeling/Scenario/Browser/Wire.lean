import Scenario.Json.Parser
import Scenario.Text.Utf8

/-!
# Messages to a browser server

A request has a method, an address and at most one JSON value; a response has
a status and a body. A transport carries a request and brings the response, or
nothing where no server answers.
-/

set_option autoImplicit false

namespace Scenario.Wire

inductive Method where
  | get
  | post
  | delete
  deriving DecidableEq, Repr

def Method.name : Method → String
  | .get => "GET"
  | .post => "POST"
  | .delete => "DELETE"

structure Request where
  method : Method
  address : String
  body : Option Json := none
  deriving Repr

structure Response where
  status : Nat := 200
  body : List UInt8
  deriving Repr

def Response.isSuccess (r : Response) : Bool := 200 ≤ r.status && r.status < 300

def Response.json? (r : Response) : Option Json :=
  (Text.decodeUtf8? r.body).bind fun cs => Json.parse (String.ofList cs)

structure Transport (τ : Type) where
  send : Request → τ → Option Response × τ
  elapse : Nat → τ → τ

def unreachable (τ : Type) : Transport τ where
  send _ t := (none, t)
  elapse _ t := t

/-- Answers that are known, and the first request beyond them with the
milliseconds that pass before it. -/
structure Tape where
  answers : List (Option Response) := []
  idle : Nat := 0
  asked : Option (Nat × Request) := none

/-- Answers from a tape; once a request is asked for, nothing is answered any more. -/
def replay : Transport Tape where
  send q t :=
    match t.asked, t.answers with
    | some _, _ => (none, t)
    | none, r :: rest => (r, { t with answers := rest, idle := 0 })
    | none, [] => (none, { t with idle := 0, asked := some (t.idle, q) })
  elapse ms t := { t with idle := t.idle + ms }

def reason? : Nat → Option String
  | 100 => some "Continue"
  | 101 => some "Switching Protocols"
  | 102 => some "Processing"
  | 200 => some "OK"
  | 201 => some "Created"
  | 202 => some "Accepted"
  | 203 => some "Non Authoritative Information"
  | 204 => some "No Content"
  | 205 => some "Reset Content"
  | 206 => some "Partial Content"
  | 207 => some "Multi-Status"
  | 208 => some "Already Reported"
  | 226 => some "IM Used"
  | 300 => some "Multiple Choices"
  | 301 => some "Moved Permanently"
  | 302 => some "Found"
  | 303 => some "See Other"
  | 304 => some "Not Modified"
  | 305 => some "Use Proxy"
  | 307 => some "Temporary Redirect"
  | 308 => some "Permanent Redirect"
  | 400 => some "Bad Request"
  | 401 => some "Unauthorized"
  | 402 => some "Payment Required"
  | 403 => some "Forbidden"
  | 404 => some "Not Found"
  | 405 => some "Method Not Allowed"
  | 406 => some "Not Acceptable"
  | 407 => some "Proxy Authentication Required"
  | 408 => some "Request Timeout"
  | 409 => some "Conflict"
  | 410 => some "Gone"
  | 411 => some "Length Required"
  | 412 => some "Precondition Failed"
  | 413 => some "Payload Too Large"
  | 414 => some "URI Too Long"
  | 415 => some "Unsupported Media Type"
  | 416 => some "Range Not Satisfiable"
  | 417 => some "Expectation Failed"
  | 418 => some "I'm a teapot"
  | 421 => some "Misdirected Request"
  | 422 => some "Unprocessable Entity"
  | 423 => some "Locked"
  | 424 => some "Failed Dependency"
  | 425 => some "Too Early"
  | 426 => some "Upgrade Required"
  | 428 => some "Precondition Required"
  | 429 => some "Too Many Requests"
  | 431 => some "Request Header Fields Too Large"
  | 451 => some "Unavailable For Legal Reasons"
  | 500 => some "Internal Server Error"
  | 501 => some "Not Implemented"
  | 502 => some "Bad Gateway"
  | 503 => some "Service Unavailable"
  | 504 => some "Gateway Timeout"
  | 505 => some "HTTP Version Not Supported"
  | 506 => some "Variant Also Negotiates"
  | 507 => some "Insufficient Storage"
  | 508 => some "Loop Detected"
  | 510 => some "Not Extended"
  | 511 => some "Network Authentication Required"
  | _ => none

def Response.statusText (r : Response) : String :=
  Text.natText r.status ++ " " ++ (reason? r.status).getD "<unknown status code>"

end Scenario.Wire
