import Scenario.Discovery
import Scenario.Options
import Scenario.Report.File
import Scenario.Runner
import Scenario.Text.Lowercase

/-!
# The command

The command loads its settings and its scripts, runs the scripts one after
another in one world, counts those that passed, and may write a report. It
succeeds if every script passed and every suite of the report did.
-/

set_option autoImplicit false

namespace Scenario.CommandLine

def defaultSettings : String := Discovery.settingsName ++ ".yaml"

def scriptDirs : List String := ["tests/scripts", "scripts"]

def override (o : Options) (s : Settings) : Settings :=
  { s with
    browser := o.browser.getD s.browser
    driverConfig := match o.serverUrl with
      | some url => Assoc.putSorted s.driverConfig "url" url
      | none => s.driverConfig
    maxWait := o.maxWait.getD s.maxWait
    dataDir := o.dataDir.getD s.dataDir
    resultDir := o.reportDir.getD s.resultDir
    format := o.format.getD s.format }

def loadSettings (fs : Files) (o : Options) : Except Trouble Settings := do
  let s ← match o.settings with
    | some path => Settings.load fs path
    | none =>
      if fs.exists? defaultSettings then Settings.load fs defaultSettings else .ok {}
  .ok (override o s)

def loadScripts (fs : Files) (o : Options) : Except Trouble (List Case) := do
  let cases ← match o.path with
    | some path =>
      if !fs.exists? path then .error (.ofText ("Path does not exist: " ++ path))
      else if fs.isFile path then (Discovery.loadScript fs path).map ([·])
      else during ("Failed to load scripts from directory: " ++ path) (Discovery.scriptsIn fs path)
    | none => Discovery.scriptsOf fs (scriptDirs.filter fs.exists?)
  if cases.isEmpty then .error (.ofText "No scripts found") else .ok cases

def chosen (filter : Option String) (cases : List Case) : Except Trouble (List Case) :=
  let kept := match filter with
    | some f => cases.filter fun c => Text.contains (Text.lowered c.name) (Text.lowered f)
    | none => cases
  if kept.isEmpty then .error (.ofText "No scripts matching the filter were found") else .ok kept

structure Totals where
  passed : Nat := 0
  failed : Nat := 0
  deriving DecidableEq, Repr

def Totals.total (t : Totals) : Nat := t.passed + t.failed

def Totals.add (t : Totals) (success : Bool) : Totals :=
  if success then { t with passed := t.passed + 1 } else { t with failed := t.failed + 1 }

def passes : Except Fault Bool → Bool
  | .ok b => b
  | .error _ => false

/-- Runs scripts in turn; after a stop those that are left count as failed. -/
def runAll {σ : Type} (stage : Stage σ) (stop : Signal) :
    List Case → Totals → World σ → Totals × World σ
  | [], t, w => (t, w)
  | c :: rest, t, w =>
    if w.signals.isStopped stop then ({ t with failed := t.failed + (c :: rest).length }, w)
    else
      let (result, w) := Runner.run stage stop c w
      runAll stage stop rest (t.add (passes result)) w

structure Outcome (σ : Type) where
  exitCode : Nat
  refusal : Option Options.Refusal := none
  trouble : Trouble := []
  totals : Option Totals := none
  report : Option Report := none
  saved : Option (String × String × String) := none
  browser : Option σ := none

def Outcome.failed {σ : Type} (t : Trouble) : Outcome σ := { exitCode := 1, trouble := t }

def Outcome.message? {σ : Type} (o : Outcome σ) : Option String :=
  o.trouble.messages.head?

def reportName (o : Options) : String :=
  (o.path.bind Path.stem?).getD Discovery.settingsName

def dated (now : Calendar.Moment) (r : Report) : Report :=
  { r with
    timestamp := now.text false
    suites := r.suites.map fun s => { s with startedAt := now } }

section
variable {σ : Type} (browsers : Browser σ) (browser : σ) (fs : Files) (now : Calendar.Moment)

def carryOut (o : Options) : Except Trouble (Outcome σ) := do
  let settings ← loadSettings fs o
  let stage ← settings.stage fs browsers
  let cases ← loadScripts fs o
  let cases ← chosen o.filter cases
  let (stop, signals) := Signals.fresh {}
  let (totals, w) := runAll stage stop cases {} { browser, signals }
  let report := dated now ((Recorder.ofEvents w.events).report (reportName o))
  let second := now.seconds.toNat
  .ok {
    exitCode := if totals.failed == 0 && report.success then 0 else 1
    totals := some totals
    report := some report
    saved := o.reportDir.map fun _ =>
      (settings.resultDir, report.fileName settings.format second, report.content settings.format)
    browser := some w.browser }

/-- Carries out the command with its words; `server` is the address that the
environment names. -/
def run (words : List String) (server : Option String) : Outcome σ :=
  match Options.ofWords words server with
  | .error r => { exitCode := r.exitCode, refusal := some r }
  | .ok o =>
    match carryOut browsers browser fs now o with
    | .ok outcome => outcome
    | .error t => .failed t

end

/-- The files after the report is written; a report that cannot be written is left out. -/
def Outcome.save {σ : Type} (o : Outcome σ) (fs : Files) : Files :=
  match o.saved with
  | some (dir, name, content) =>
    ((fs.write dir name (Text.encodeUtf8 content.toList)).toOption).getD fs
  | none => fs

end Scenario.CommandLine
