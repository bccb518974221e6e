import Scenario.Loading
import Scenario.World

/-!
# Settings

Settings are read from a file or given directly. Every one of them has a
default; directories in a file start from its own directory.
-/

set_option autoImplicit false

namespace Scenario

inductive ReportFormat where
  | json
  | yaml
  | text
  deriving DecidableEq, Repr

namespace ReportFormat

def name : ReportFormat → String
  | .json => "json"
  | .yaml => "yaml"
  | .text => "text"

def ofName? : String → Option ReportFormat
  | "json" => some .json
  | "yaml" => some .yaml
  | "text" => some .text
  | _ => none

theorem ofName?_name (f : ReportFormat) : ofName? f.name = some f := by cases f <;> rfl

end ReportFormat

structure Settings where
  browser : String := "chrome"
  driverConfig : Assoc String := []
  baseDir : String := "."
  dataDir : String := "."
  resultDir : String := "result"
  aspect : Option String := none
  env : Assoc String := []
  maxWait : Nat := 10000
  pollInterval : Nat := 100
  format : ReportFormat := .json
  deriving DecidableEq, Repr

namespace Settings
open Document

def decode {N : Type} (R : Reading N) (n : N) : Yaml.Reads Settings := do
  let fs ← R.fields ["browser", "driverConfig", "baseDir", "dataSourceDir", "resultDir",
    "aspect", "env", "maxWaitMs", "pollIntervalMs", "reportFormat"] n
  let d : Settings := {}
  return {
    browser := ← Reading.defaulted R.text d.browser (Assoc.get? fs "browser")
    driverConfig := ← Reading.defaulted R.texts d.driverConfig (Assoc.get? fs "driverConfig")
    baseDir := ← Reading.defaulted R.text d.baseDir (Assoc.get? fs "baseDir")
    dataDir := ← Reading.defaulted R.text d.dataDir (Assoc.get? fs "dataSourceDir")
    resultDir := ← Reading.defaulted R.text d.resultDir (Assoc.get? fs "resultDir")
    aspect := ← Reading.defaulted (fun n => R.optional R.text (some n)) d.aspect
      (Assoc.get? fs "aspect")
    env := ← Reading.defaulted R.texts d.env (Assoc.get? fs "env")
    maxWait := ← Reading.defaulted R.word d.maxWait (Assoc.get? fs "maxWaitMs")
    pollInterval := ← Reading.defaulted R.word d.pollInterval (Assoc.get? fs "pollIntervalMs")
    format := ← Reading.defaulted (fun n => do just (ReportFormat.ofName? (← R.choice n))) d.format
      (Assoc.get? fs "reportFormat") }

def ofJson (v : Json) : Except Trouble Settings :=
  match ofValue decode v with
  | some s => .ok s
  | none => .error [.malformed .json]

def ofYaml (cs : List Char) : Except Trouble Settings :=
  match ofYamlText decode cs with
  | some s => .ok s
  | none => .error [.text "Failed to parse settings YAML", .malformed .yaml]

/-- Settings are compared with their paths read part by part. -/
def same (s t : Settings) : Bool :=
  Path.same s.baseDir t.baseDir && Path.same s.dataDir t.dataDir &&
  Path.same s.resultDir t.resultDir &&
  s.aspect.map Path.parts == t.aspect.map Path.parts &&
  { s with baseDir := "", dataDir := "", resultDir := "", aspect := none } ==
    { t with baseDir := "", dataDir := "", resultDir := "", aspect := none }

def startingFrom (s : Settings) (dir : String) : Settings :=
  { s with
    baseDir := Path.join dir s.baseDir
    dataDir := Path.join dir s.dataDir
    resultDir := Path.join dir s.resultDir
    aspect := s.aspect.map (Path.join dir) }

def load (fs : Files) (path : String) : Except Trouble Settings :=
  match fs.readText path with
  | .error o => .error [.text ("Failed to read settings file: " ++ path), .io o]
  | .ok cs =>
    match during ("Failed to load settings from " ++ path) (ofYaml cs) with
    | .error t => .error t
    | .ok s =>
      match Path.parent? path with
      | some dir => .ok (s.startingFrom dir)
      | none => .ok s

def textMap (m : Assoc String) : Json := .obj (Assoc.mapValues Json.str m)

def toJson (s : Settings) : Json :=
  .obj [("browser", .str s.browser), ("driverConfig", textMap s.driverConfig),
    ("baseDir", .str s.baseDir), ("dataSourceDir", .str s.dataDir),
    ("resultDir", .str s.resultDir),
    ("aspect", match s.aspect with
      | some a => .str a
      | none => .null),
    ("env", textMap s.env), ("maxWaitMs", .int s.maxWait), ("pollIntervalMs", .int s.pollInterval),
    ("reportFormat", .str s.format.name)]

def stage {σ : Type} (s : Settings) (fs : Files) (browsers : Browser σ) :
    Except Trouble (Stage σ) := do
  let aspect ← match s.aspect with
    | none => .ok []
    | some path => during ("Failed to load aspect: " ++ path) (Loading.loadAspect fs path)
  .ok {
    browsers
    sources := DataSource.ofName? fs
    aspect
    browser := s.browser
    driverConfig := if Assoc.has s.driverConfig "browser" then s.driverConfig
      else Assoc.putSorted s.driverConfig "browser" s.browser
    baseDir := s.baseDir
    dataDir := s.dataDir
    resultDir := s.resultDir
    env := s.env
    maxWait := s.maxWait
    pollInterval := s.pollInterval }

end Settings

end Scenario
