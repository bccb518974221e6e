import Scenario.Browser
import Scenario.Browser.Wire
import Scenario.Text.Blank
import Scenario.Url

/-!
# Browsers behind a server

Browsers are driven by the WebDriver protocol: a session is opened with the
wanted capabilities, and each command is a request below the address of its
session. Responses wrap what they carry in the member `value`.
-/

set_option autoImplicit false

namespace Scenario

namespace Locator

def escapeChars (cs : List Char) : List Char :=
  cs.flatMap fun c => if c == '\\' || c == '"' then ['\\', c] else [c]

def attributeSelector (name value : String) : String :=
  "[" ++ name ++ "=\"" ++ String.ofList (escapeChars value.toList) ++ "\"]"

/-- The strategy and the selector with which a server looks for the elements. -/
def strategy (l : Locator) : Except Trouble (String × String) :=
  match l.kind with
  | "css" => .ok ("css selector", l.value)
  | "css selector" => .ok ("css selector", l.value)
  | "xpath" => .ok ("xpath", l.value)
  | "link" => .ok ("link text", l.value)
  | "link text" => .ok ("link text", l.value)
  | "linkText" => .ok ("link text", l.value)
  | "partial link text" => .ok ("partial link text", l.value)
  | "partialLinkText" => .ok ("partial link text", l.value)
  | "tag name" => .ok ("tag name", l.value)
  | "tagName" => .ok ("tag name", l.value)
  | "id" => .ok ("css selector", attributeSelector "id" l.value)
  | "name" => .ok ("css selector", attributeSelector "name" l.value)
  | kind => .error (.ofText ("unsupported locator type '" ++ kind ++ "'"))

end Locator

namespace Browser
open Wire

/-- The sessions opened so far, by their addresses, and the state of the transport. -/
structure Remote (τ : Type) where
  wire : τ
  sessions : List String := []

namespace Remote
variable {τ : Type}

def elementKey : String := "element-6066-11e4-a52e-4f735466cecf"

def defaultUrl : String := "http://localhost:4444"

def valueOf (r : Response) : Except Trouble Json :=
  match r.json? with
  | none =>
    .error [.text ("Invalid WebDriver response (status " ++ r.statusText ++ ")"), .malformed .http]
  | some body =>
    let value := (body.normal.get? "value").getD .null
    if r.isSuccess then .ok value
    else
      let part (key : String) : Option String := (value.get? key).bind Json.str?
      .error (.ofText ("WebDriver error " ++ Text.natText r.status ++ " (" ++
        (part "error").getD "unknown error" ++ "): " ++ (part "message").getD ""))

def ask (t : Transport τ) (q : Request) (w : τ) : Except Trouble Json × τ :=
  match t.send q w with
  | (some r, w) => (valueOf r, w)
  | (none, w) => (.error [.text "WebDriver request failed", .malformed .http], w)

def capabilities (config : Assoc String) : Except Trouble Json :=
  let name := Json.str ((Assoc.get? config "browser").getD "chrome")
  match Assoc.get? config "capabilities" with
  | none => .ok (.obj [("browserName", name)])
  | some text =>
    match (Json.parse text).map Json.normal with
    | some (.obj extra) => .ok (Json.obj (("browserName", name) :: extra)).normal
    | _ => .error [.text "Invalid capabilities JSON", .malformed .json]

def opening (config : Assoc String) : Except Trouble (String × Json) := do
  let written := (Assoc.get? config "url").getD defaultUrl
  let url ← match Url.parse? written with
    | some url => .ok url
    | none => .error [.text ("Invalid WebDriver url '" ++ written ++ "'"), .malformed .url]
  match Assoc.get? config "timeoutMs" with
  | none => pure ()
  | some ms =>
    match Text.readWord (Text.trim ms) with
    | .ok _ => pure ()
    | .error f => .error [.text "Invalid timeoutMs", .text f.message]
  let wanted ← capabilities config
  .ok (url.base, .obj [("capabilities", .obj [("alwaysMatch", wanted)])])

def sessionId (v : Json) : Except Trouble String :=
  match (v.get? "sessionId").bind Json.str? with
  | some id => .ok id
  | none => .error (.ofText ("session response has no sessionId: " ++ v.compact))

def launch (t : Transport τ) (config : Assoc String) (r : Remote τ) :
    Except Trouble Unit × Remote τ :=
  match opening config with
  | .error e => (.error e, r)
  | .ok (base, body) =>
    let (answer, wire) := ask t ⟨.post, base ++ "/session", some body⟩ r.wire
    let r := { r with wire }
    match during "Failed to create WebDriver session" answer |>.bind sessionId with
    | .error e => (.error e, r)
    | .ok id => (.ok (), { r with sessions := r.sessions ++ [base ++ "/session/" ++ id] })

def request : Command → Except Trouble (Method × String × Option Json)
  | .navigate url => .ok (.post, "/url", some (.obj [("url", .str url)]))
  | .currentUrl => .ok (.get, "/url", none)
  | .title => .ok (.get, "/title", none)
  | .pageSource => .ok (.get, "/source", none)
  | .find l => do
    let (way, value) ← l.strategy
    .ok (.post, "/elements", some (.obj [("using", .str way), ("value", .str value)]))
  | .click e => .ok (.post, "/element/" ++ e ++ "/click", some (.obj []))
  | .clear e => .ok (.post, "/element/" ++ e ++ "/clear", some (.obj []))
  | .sendKeys e text => .ok (.post, "/element/" ++ e ++ "/value", some (.obj [("text", .str text)]))
  | .elementText e => .ok (.get, "/element/" ++ e ++ "/text", none)
  | .quit => .ok (.delete, "", none)

def textReply (path : String) : Json → Except Trouble String
  | .str s => .ok s
  | v => .error (.ofText ("expected a string from " ++ path ++ ", got " ++ v.compact))

def elementReply (v : Json) : Except Trouble String :=
  match (v.get? elementKey).bind Json.str? with
  | some id => .ok id
  | none => .error (.ofText ("malformed element reference: " ++ v.compact))

def elementsReply (l : Locator) : Json → Except Trouble (List String)
  | .arr es => es.mapM elementReply
  | v => .error (.ofText ("expected an element list for " ++ l.text ++ ", got " ++ v.compact))

def reply (c : Command) (path : String) (v : Json) : Except Trouble c.Reply :=
  match c with
  | .currentUrl => textReply path v
  | .title => textReply path v
  | .pageSource => textReply path v
  | .elementText _ => textReply path v
  | .find l => elementsReply l v
  | .navigate _ => .ok ()
  | .click _ => .ok ()
  | .clear _ => .ok ()
  | .sendKeys _ _ => .ok ()
  | .quit => .ok ()

/-- Commands name the session by its number, counted from one. -/
def perform (t : Transport τ) (session : Nat) (c : Command) (r : Remote τ) :
    Except Trouble c.Reply × Remote τ :=
  match request c with
  | .error e => (.error e, r)
  | .ok (method, path, body) =>
    let address := (r.sessions[session - 1]?).getD ""
    let (answer, wire) := ask t ⟨method, address ++ path, body⟩ r.wire
    (answer.bind (reply c path), { r with wire })

end Remote

/-- The browsers behind a server that a transport reaches. -/
def remote {τ : Type} (t : Transport τ) : Browser (Remote τ) where
  launch := Remote.launch t
  perform := Remote.perform t
  elapse ms r := { r with wire := t.elapse ms r.wire }

end Browser

end Scenario
