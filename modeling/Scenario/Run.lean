import Scenario.Cursor
import Scenario.World

/-!
# Runs

A run executes one case on one row. An act changes the run and the world that
it runs in and may end in an error.
-/

set_option autoImplicit false

namespace Scenario

structure Run where
  name : String
  case : Case
  session : Session
  ownsSession : Bool
  row : Row
  aspect : Aspect
  inherited : Aspect
  cursor : Cursor
  signal : Signal
  aborted : Bool := false

/-- How a run is set up; what is left out is taken from its case. -/
structure Run.Setup where
  case : Case
  signal : Signal
  name : String := case.name
  row : Row := {}
  session : Option (Session × Bool) := none
  inherited : Aspect := []
  chainEnabled : Bool := true

namespace Run
variable {σ : Type}

def build (stage : Stage σ) (w : World σ) (s : Setup) : Run × World σ :=
  let ((session, owns), w) := match s.session with
    | some p => (p, w)
    | none =>
      let (session, w) := w.newSession
      ((session, !s.case.sharesState), w)
  ({ name := s.name
     case := s.case
     session
     ownsSession := owns
     row := { s.row with env := stage.env }
     aspect := s.case.aspect ++ s.inherited ++
       (if s.case.preventsContext then [] else stage.aspect)
     inherited := s.inherited
     cursor := Cursor.start (s.chainEnabled && s.case.hasChain)
     signal := s.signal }, w)

def step? (r : Run) : Option Step := r.cursor.current?.bind fun i => r.case.steps[i]?

def remaining (r : Run) : Nat :=
  match r.cursor.current? with
  | some i => r.case.steps.length - (i + 1)
  | none => r.case.steps.length

def lastIndex (r : Run) : Int := (r.case.steps.length : Int) - 1

/-- The interceptors that chained runs inherit; the stage's own are added by each run anew. -/
def chainAspect (r : Run) : Aspect :=
  Aspect.inherited (Aspect.freeze r.row (r.case.aspect ++ r.inherited))

end Run

structure State (σ : Type) where
  world : World σ
  run : Run

abbrev Act (σ ε α : Type) := ExceptT ε (StateM (State σ)) α

/-- What keeps a step from being carried out. -/
inductive Problem where
  /-- The fault of a nested step, which was told to the listeners. -/
  | reported (f : Fault)
  | fault (f : Fault)
  | trouble (t : Trouble)
  deriving DecidableEq, Repr

namespace Act
variable {σ ε α : Type}

def getRun : Act σ ε Run := do return (← get).run

def modifyRun (f : Run → Run) : Act σ ε Unit := modify fun s => { s with run := f s.run }

def modifyWorld (f : World σ → World σ) : Act σ ε Unit :=
  modify fun s => { s with world := f s.world }

def onWorld (f : World σ → α × World σ) : Act σ ε α := do
  let s ← get
  let (a, w) := f s.world
  set { s with world := w }
  return a

def emit (stage : Stage σ) (e : Event) : Act σ ε Unit := modifyWorld fun w => w.emit stage e

def outcome {δ : Type} (a : Act σ ε α) : Act σ δ (Except ε α) := fun s =>
  let (r, s) := StateT.run (ExceptT.run a) s
  (.ok r, s)

/-- Ends as an outcome says. -/
def conclude (r : Except ε α) : Act σ ε α := fun s => (r, s)

/-- Carries out an act in another run, which is returned in its last state. -/
def inside {δ : Type} (inner : Run) (a : Act σ ε α) : Act σ δ (Except ε α × Run) := fun s =>
  let (r, t) := StateT.run (ExceptT.run a) { s with run := inner }
  (.ok (r, t.run), { s with world := t.world })

def isStopped : Act σ ε Bool := do
  let s ← get
  return s.run.cursor.stopped || s.world.signals.isStopped s.run.signal

/-- Stops the run and every run inside it at the next step. -/
def stop : Act σ ε Unit := do
  modifyRun fun r => { r with cursor := r.cursor.stop }
  let r ← getRun
  modifyWorld fun w => w.stop r.signal

def assign (key value : String) : Act σ ε Unit :=
  modifyRun fun r => { r with row := r.row.put key value }

def trouble (s : String) : Act σ Problem α := throw (.trouble (.ofText s))

def liftTrouble (a : Except Trouble α) : Act σ Problem α :=
  match a with
  | .ok a => pure a
  | .error t => throw (.trouble t)

def driver (stage : Stage σ) : Act σ Problem Nat := do
  let r ← getRun
  match ← onWorld fun w => w.driver stage r.session with
  | .ok d => pure d
  | .error f => throw (.fault f)

def perform (stage : Stage σ) (d : Nat) (c : Command) : Act σ Problem c.Reply := do
  liftTrouble (← onWorld fun w => w.perform stage d c)

def command (stage : Stage σ) (c : Command) : Act σ Problem c.Reply := do
  perform stage (← driver stage) c

def quitOwned (stage : Stage σ) : Act σ ε Unit := do
  let r ← getRun
  if r.ownsSession then modifyWorld fun w => w.quit stage r.session

def currentStep : Act σ Problem Step := do
  match (← getRun).step? with
  | some s => pure s
  | none => trouble "no step is running"

def rawText (key : String) : Act σ Problem String := do
  let s ← currentStep
  match s.text? key with
  | some v => pure v
  | none => trouble ("missing parameter '" ++ key ++ "' of " ++ s.kind.name)

def text (key : String) : Act σ Problem String := do
  let raw ← rawText key
  return (← getRun).row.bind raw

def evaluatedText (key : String) : Act σ Problem String := do
  let raw ← rawText key
  return (← getRun).row.evaluateString raw

def optionalText (key : String) : Act σ ε (Option String) := do
  let r ← getRun
  return (r.step?.bind fun s => s.text? key).map r.row.bind

def locator (key : String) : Act σ Problem Locator := do
  let s ← currentStep
  match s.locator? key with
  | some l => return l.bind (← getRun).row
  | none => trouble ("missing locator '" ++ key ++ "' of " ++ s.kind.name)

end Act

end Scenario
