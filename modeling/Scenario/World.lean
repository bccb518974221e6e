import Scenario.Browser
import Scenario.Case
import Scenario.Stop

/-!
# What runs share

The world holds the browsers and their sessions, the stop signals, and the
trace of everything that happened, newest first. The stage is what an
execution is set up with and does not change.
-/

set_option autoImplicit false

namespace Scenario

/-- What listeners are told. -/
inductive Event where
  | opened (suite : String) (script : Script) (row : Row)
  | started (label : String)
  | ended
  | failure (message : String)
  | error (fault : Fault)
  | closed
  deriving DecidableEq, Repr

inductive TraceEntry where
  | event (e : Event)
  | launch (config : Assoc String)
  | command (browser : Nat) (c : Command)
  | note (text : String)
  /-- The run of a case as advice begins. -/
  | adviceBegun (kind : AdviceKind)
  /-- Advice, given by a hook or by the run of a case, that answered. -/
  | advised (byHook : Bool) (kind : AdviceKind) (answer : Bool)
  /-- Advice that ended in a fault. -/
  | adviceRaised (byHook : Bool) (kind : AdviceKind) (fault : Fault)
  /-- A run that came to its end was stopped. -/
  | endedStopped
  /-- A hook around a step stopped the run with this signal. -/
  | stopped (signal : Signal) (kind : AdviceKind) (step : Step)
  /-- A run turns to the step at this place. -/
  | turned (index : Nat)
  /-- A round of a loop begins. -/
  | round (number : Nat)
  /-- A chain comes to the case with this number, and may pass it over. -/
  | reached (index : Nat) (passed : Bool)
  deriving DecidableEq, Repr

/-- A signal that is stopped when the trace says so. -/
structure Watch where
  signal : Signal
  stopsAt : List TraceEntry → Bool

structure Stage (σ : Type) where
  browsers : Browser σ
  sources : String → Option DataSource
  /-- Advice for every run that does not refuse it. -/
  aspect : Aspect := []
  browser : String := "chrome"
  driverConfig : Assoc String := []
  baseDir : String := "."
  dataDir : String := "."
  resultDir : String := "result"
  env : Assoc String := []
  maxWait : Nat := 10000
  pollInterval : Nat := 100
  watch : Option Watch := none

namespace Stage
variable {σ : Type}

/-- The empty row with the properties of the environment. -/
def emptyRow (stage : Stage σ) : Row := { env := stage.env }

def reserved (stage : Stage σ) : Assoc String :=
  [("_browser", stage.browser), ("_baseDir", stage.baseDir), ("_dataSourceDir", stage.dataDir),
   ("_resultDir", stage.resultDir),
   ("_screenShotDir", Path.join stage.resultDir "screenshot"),
   ("_downloadDir", Path.join stage.resultDir "download"),
   ("_templateDir", Path.join stage.resultDir "template")]

end Stage

/-- A place for one browser; handles to it are shared by its number. -/
structure Session where
  slot : Nat
  deriving DecidableEq, Repr, Inhabited

structure World (σ : Type) where
  browser : σ
  launched : Nat := 0
  slots : List (Option Nat) := []
  signals : Signals := {}
  hookCalls : Nat := 0
  trace : List TraceEntry := []

namespace World
variable {σ : Type}

def events (w : World σ) : List Event :=
  w.trace.reverse.filterMap fun e =>
    match e with
    | .event e => some e
    | _ => none

def notes (w : World σ) : List String :=
  w.trace.reverse.filterMap fun e =>
    match e with
    | .note s => some s
    | _ => none

def record (w : World σ) (e : TraceEntry) : World σ := { w with trace := e :: w.trace }

def hookCalled (w : World σ) (note : Option String) : World σ :=
  let w := { w with hookCalls := w.hookCalls + 1 }
  match note with
  | some n => w.record (.note n)
  | none => w

def stop (w : World σ) (s : Signal) : World σ := { w with signals := w.signals.stop s }

def emit (stage : Stage σ) (w : World σ) (e : Event) : World σ :=
  let w := w.record (.event e)
  match stage.watch with
  | some watch => if watch.stopsAt w.trace then w.stop watch.signal else w
  | none => w

def newSession (w : World σ) : Session × World σ :=
  (⟨w.slots.length⟩, { w with slots := w.slots ++ [none] })

def childSignal (w : World σ) (parent : Signal) : Signal × World σ :=
  let (g, s) := w.signals.child parent
  (g, { w with signals := s })

def driver? (w : World σ) (s : Session) : Option Nat := (w.slots[s.slot]?).bind id

def isActive (w : World σ) (s : Session) : Bool := (w.driver? s).isSome

/-- The browser of a session, launched when it is first needed. -/
def driver (stage : Stage σ) (w : World σ) (s : Session) : Except Fault Nat × World σ :=
  match w.driver? s with
  | some d => (.ok d, w)
  | none =>
    let w := w.record (.launch stage.driverConfig)
    match stage.browsers.launch stage.driverConfig w.browser with
    | (.ok _, b) =>
      let d := w.launched + 1
      (.ok d, { w with browser := b, launched := d, slots := w.slots.set s.slot (some d) })
    | (.error t, b) => (.error (.driver t), { w with browser := b })

def perform (stage : Stage σ) (w : World σ) (d : Nat) (c : Command) :
    Except Trouble c.Reply × World σ :=
  let w := w.record (.command d c)
  let (r, b) := stage.browsers.perform d c w.browser
  (r, { w with browser := b })

def elapse (stage : Stage σ) (w : World σ) (ms : Nat) : World σ :=
  { w with browser := stage.browsers.elapse ms w.browser }

/-- Quits the browser of a session, if it has one; the slot is empty even if that fails. -/
def quit (stage : Stage σ) (w : World σ) (s : Session) : World σ :=
  match w.driver? s with
  | some d => ({ w with slots := w.slots.set s.slot none }.perform stage d .quit).2
  | none => w

end World

end Scenario
