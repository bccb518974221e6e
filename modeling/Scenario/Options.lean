import Scenario.Settings

/-!
# Options of the command

Options are read from left to right, and the first one that is refused ends
the reading. An option that takes a value has it in the same word or as the
next one; the next word is no value if it looks like an option. No option may
be given twice.
-/

set_option autoImplicit false

namespace Scenario

structure Options where
  path : Option String := none
  settings : Option String := none
  filter : Option String := none
  verbose : Bool := false
  maxWait : Option Nat := none
  reportDir : Option String := none
  format : Option ReportFormat := none
  browser : Option String := none
  serverUrl : Option String := none
  dataDir : Option String := none
  deriving DecidableEq, Repr, Inhabited

namespace Options

inductive Name where
  | path
  | settings
  | filter
  | verbose
  | maxWait
  | reportDir
  | format
  | browser
  | serverUrl
  | dataDir
  | help
  | version
  deriving DecidableEq, Repr

def Name.ofLong? : String → Option Name
  | "path" => some .path
  | "settings" => some .settings
  | "filter" => some .filter
  | "verbose" => some .verbose
  | "max-wait" => some .maxWait
  | "report-dir" => some .reportDir
  | "report-format" => some .format
  | "browser" => some .browser
  | "webdriver-url" => some .serverUrl
  | "data-source-dir" => some .dataDir
  | "help" => some .help
  | "version" => some .version
  | _ => none

def Name.ofShort? : Char → Option Name
  | 'p' => some .path
  | 's' => some .settings
  | 'f' => some .filter
  | 'v' => some .verbose
  | 't' => some .maxWait
  | 'r' => some .reportDir
  | 'b' => some .browser
  | 'h' => some .help
  | 'V' => some .version
  | _ => none

def Name.takesValue : Name → Bool
  | .verbose => false
  | .help => false
  | .version => false
  | _ => true

inductive Refusal where
  | unknown (word : String)
  | missingValue (name : Name)
  | needlessValue (name : Name)
  | invalidValue (name : Name) (value : String)
  | repeated (name : Name)
  | answered (name : Name)
  deriving DecidableEq, Repr

def Refusal.exitCode : Refusal → Nat
  | .answered _ => 0
  | _ => 2

def Name.text : Name → String
  | .path => "path"
  | .settings => "settings"
  | .filter => "filter"
  | .verbose => "verbose"
  | .maxWait => "max-wait"
  | .reportDir => "report-dir"
  | .format => "report-format"
  | .browser => "browser"
  | .serverUrl => "webdriver-url"
  | .dataDir => "data-source-dir"
  | .help => "help"
  | .version => "version"

theorem Name.ofLong?_text (n : Name) : Name.ofLong? n.text = some n := by cases n <;> rfl

def Name.description : Name → Option Char × String
  | .path => (some 'p', "Script file or directory path")
  | .settings => (some 's', "Settings file (defaults to ./stepchain.yaml when present)")
  | .filter => (some 'f', "Filter scripts by name (partial match)")
  | .verbose => (some 'v', "Enable verbose logging")
  | .maxWait => (some 't', "Maximum wait of wait steps, in milliseconds")
  | .reportDir => (some 'r', "Directory to save test report files")
  | .format => (none, "Report output format")
  | .browser => (some 'b', "Browser name requested from the WebDriver server")
  | .serverUrl => (none, "WebDriver server URL")
  | .dataDir => (none, "Directory data source files are looked up in")
  | .help => (some 'h', "Print help")
  | .version => (some 'V', "Print version")

def Name.all : List Name :=
  [.path, .settings, .filter, .verbose, .maxWait, .reportDir, .format, .browser, .serverUrl,
   .dataDir, .help, .version]

def usage : String :=
  String.join (Name.all.map fun n =>
    (match n.description.1 with
      | some c => "  -" ++ String.singleton c ++ ", --"
      | none => "      --") ++ n.text ++
      (if n.takesValue then " <VALUE>  " else "  ") ++ n.description.2 ++ "\n")

def Refusal.message : Refusal → String
  | .unknown w => "unexpected argument '" ++ w ++ "' found"
  | .missingValue n => "a value is required for '--" ++ n.text ++ "' but none was supplied"
  | .needlessValue n => "unexpected value for '--" ++ n.text ++ "' found"
  | .invalidValue n v => "invalid value '" ++ v ++ "' for '--" ++ n.text ++ "'"
  | .repeated n => "the argument '--" ++ n.text ++ "' cannot be used multiple times"
  | .answered n => n.description.2

def nonempty (name : Name) (value : String) : Except Refusal String :=
  if value.isEmpty then .error (.missingValue name) else .ok value

def put (o : Options) (name : Name) (value : String) : Except Refusal Options :=
  match name with
  | .path => .ok { o with path := some value }
  | .settings => do .ok { o with settings := some (← nonempty name value) }
  | .filter => .ok { o with filter := some value }
  | .maxWait =>
    match Text.readWord value with
    | .ok n => .ok { o with maxWait := some n }
    | .error _ => .error (.invalidValue name value)
  | .reportDir => do .ok { o with reportDir := some (← nonempty name value) }
  | .format =>
    match ReportFormat.ofName? value with
    | some f => .ok { o with format := some f }
    | none => .error (.invalidValue name value)
  | .browser => .ok { o with browser := some value }
  | .serverUrl => .ok { o with serverUrl := some value }
  | .dataDir => do .ok { o with dataDir := some (← nonempty name value) }
  | .verbose => .ok { o with verbose := true }
  | .help => .error (.answered name)
  | .version => .error (.answered name)

structure Reader where
  options : Options := {}
  given : List Name := []
  deriving Inhabited

def Reader.put (r : Reader) (name : Name) (value : String) : Except Refusal Reader :=
  if r.given.contains name then .error (.repeated name)
  else do .ok ⟨← r.options.put name value, name :: r.given⟩

/-- The option that still waits for its value, after a word. -/
abbrev Step := Reader × Option Name

/-- A word of short options; the rest of the word is the value of the first that takes one. -/
def readShort (word : String) (r : Reader) : List Char → Except Refusal Step
  | [] => .ok (r, none)
  | c :: rest =>
    match Name.ofShort? c with
    | none => .error (.unknown word)
    | some name =>
      if name.takesValue then
        match rest with
        | [] => .ok (r, some name)
        | '=' :: value => do .ok (← r.put name (String.ofList value), none)
        | value => do .ok (← r.put name (String.ofList value), none)
      else do readShort word (← r.put name "") rest

def readLong (word : String) (r : Reader) (cs : List Char) : Except Refusal Step :=
  let long := cs.takeWhile (· != '=')
  match Name.ofLong? (String.ofList long), cs.drop long.length with
  | none, _ => .error (.unknown word)
  | some name, [] =>
    if name.takesValue then .ok (r, some name) else do .ok (← r.put name "", none)
  | some name, _ :: value =>
    if name.takesValue then do .ok (← r.put name (String.ofList value), none)
    else .error (.needlessValue name)

def readWord (r : Reader) (word : String) : Except Refusal Step :=
  match word.toList with
  | '-' :: '-' :: c :: cs => readLong word r (c :: cs)
  | '-' :: c :: cs => readShort word r (c :: cs)
  | _ => .error (.unknown word)

def looksLikeOption (word : String) : Bool :=
  match word.toList with
  | '-' :: _ :: _ => true
  | _ => false

def readFrom : Reader → Option Name → List String → Except Refusal Reader
  | r, none, [] => .ok r
  | _, some name, [] => .error (.missingValue name)
  | r, some name, word :: rest =>
    if looksLikeOption word then .error (.missingValue name)
    else do readFrom (← r.put name word) none rest
  | r, none, word :: rest =>
    -- after two hyphens only words that are no options could follow
    if word = "--" then
      match rest with
      | [] => .ok r
      | w :: _ => .error (.unknown w)
    else do
      let (r, waiting) ← readWord r word
      readFrom r waiting rest

def ofWords (words : List String) (server : Option String) : Except Refusal Options := do
  let r ← readFrom {} none words
  .ok { r.options with serverUrl := r.options.serverUrl.or server }

end Options

end Scenario
