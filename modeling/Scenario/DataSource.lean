import Scenario.Csv
import Scenario.Files
import Scenario.Json.Parser
import Scenario.Row
import Scenario.Text.Quoted

/-!
# Sources of rows

A data source turns a configuration into rows. A loader names a source and
gives it a configuration whose texts are templates; rows of a source that
makes several are numbered, and the last row is marked.
-/

set_option autoImplicit false

namespace Scenario
open Scenario.Text

structure DataSource where
  /-- Whether rows are numbered and run one by one under names of their own. -/
  multiLine : Bool
  /-- Whether a configuration has what the source needs. -/
  isLoadable : Assoc String → Bool
  /-- The rows; files are looked for in the directories in order. -/
  rows : Assoc String → List String → Row → Except Trouble (List Row)

/-- The first of the directories that has the file, or else the file itself. -/
def resolvePath (fs : Files) (file : String) (dirs : List String) : String :=
  if Path.isAbsolute file then file
  else ((dirs.map fun d => Path.join d file).find? fs.exists?).getD file

namespace DataSource

def required (config : Assoc String) (key : String) : Except Trouble String :=
  match Assoc.get? config key with
  | some v => .ok v
  | none => .error (.ofText ("missing '" ++ key ++ "' in data source config"))

def ofVars (vars : Assoc String) : Row := { vars := Assoc.putAll [] vars }

def none : DataSource := ⟨false, fun _ => true, fun _ _ _ => .ok [{}]⟩

def csvRows (header : List String) : List (List (List UInt8)) → Except Trouble (List Row)
  | [] => .ok []
  | record :: r =>
    match Csv.texts record with
    | some fields =>
      if fields.length = header.length then
        match csvRows header r with
        | .ok rows => .ok (ofVars (header.zip fields) :: rows)
        | .error t => .error t
      else .error [.text "Failed to parse CSV record", .malformed .csv]
    | Option.none => .error [.text "Failed to parse CSV record", .malformed .csv]

def csvTable (records : List (List (List UInt8))) : Except Trouble (List Row) :=
  match records with
  | [] => .ok []
  | header :: r =>
    match Csv.texts header with
    | some header => csvRows header r
    | Option.none => .error [.text "Failed to read CSV header", .malformed .csv]

def delimiter (config : Assoc String) : Except Trouble UInt8 :=
  match Assoc.get? config "delimiter" with
  | Option.none => .ok 44
  | some d =>
    match encodeUtf8 d.toList with
    | [b] => .ok b
    | _ => .error (.ofText "delimiter must be a single byte")

def csv (fs : Files) : DataSource :=
  ⟨true, fun config => Assoc.has config "path", fun config dirs _ => do
    let path := resolvePath fs (← required config "path") dirs
    let d ← delimiter config
    match fs.find path with
    | .error o => .error [.text ("Failed to open CSV file: " ++ path), .io o]
    | .ok (.file bytes) => csvTable (Csv.records d bytes)
    | .ok _ => .error [.text "Failed to read CSV header", .malformed .csv]⟩

def jsonRow : Json → Except Trouble Row
  | .obj members => .ok (ofVars (Assoc.mapValues Json.scalar (Assoc.sorted members)))
  | v => .error (.ofText ("JSON data row is not an object: " ++ v.normal.compact))

def jsonRows : List Json → Except Trouble (List Row)
  | [] => .ok []
  | v :: r => do
    let row ← jsonRow v
    let rows ← jsonRows r
    .ok (row :: rows)

def jsonTable : Json → Except Trouble (List Row)
  | .arr items => jsonRows items
  | _ => .error (.ofText "JSON data must be an array of objects")

def json (fs : Files) : DataSource :=
  ⟨true, fun config => Assoc.has config "path", fun config dirs _ => do
    let path := resolvePath fs (← required config "path") dirs
    match fs.readText path with
    | .error o => .error [.text ("Failed to read JSON data: " ++ path), .io o]
    | .ok cs =>
      match Json.parseChars cs with
      | some v => jsonTable v
      | Option.none => .error [.text ("Failed to parse JSON data: " ++ path), .malformed .json]⟩

def manual : DataSource :=
  ⟨true, fun config => Assoc.has config "data", fun config _ _ => do
    match Json.parse (← required config "data") with
    | some v => jsonTable v
    | Option.none => .error [.text "Failed to parse manual data rows", .malformed .json]⟩

/-- The known sources by name. -/
def ofName? (fs : Files) : String → Option DataSource
  | "none" => some none
  | "csv" => some (csv fs)
  | "json" => some (json fs)
  | "manual" => some manual
  | _ => Option.none

end DataSource

structure Loader where
  source : String := "none"
  config : Assoc String := []
  dir : String := ""
  deriving DecidableEq, Repr, Inhabited

namespace Loader

def isNone (l : Loader) : Bool := l.source == "none"

def isMultiLine (sources : String → Option DataSource) (l : Loader) : Bool :=
  match sources l.source with
  | some s => s.multiLine
  | none => false

def configText (config : Assoc String) : String :=
  "\x7b" ++ ", ".intercalate (config.map fun e => quoted e.1 ++ ": " ++ quoted e.2) ++ "\x7d"

/-- Rows with their numbers, the last one marked. -/
def numbered (multiLine : Bool) : Nat → List Row → List Row
  | _, [] => []
  | n, row :: r =>
    ((if multiLine then row.put Row.rowNumberKey (natText n) else row).withLast r.isEmpty) ::
      numbered multiLine (n + 1) r

def load (sources : String → Option DataSource) (dataDir : String) (l : Loader) (row : Row) :
    Except Fault (List Row) :=
  match sources l.source with
  | none => .error (.dataSource l.source (.ofText "unknown data source"))
  | some s =>
    let config := Assoc.mapValues row.bind l.config
    if s.isLoadable config then
      match s.rows config [l.dir, dataDir] row with
      | .ok rows => .ok (numbered s.multiLine 1 rows)
      | .error t => .error (.dataSource l.source t)
    else
      .error (.dataSource l.source (.ofText ("incomplete config: " ++ configText config)))

theorem isOriginal_of_load {sources : String → Option DataSource} {dataDir : String} {l : Loader}
    {row : Row} {f : Fault} (h : l.load sources dataDir row = .error f) : f.isOriginal = true := by
  unfold load at h
  split at h
  · cases h
    rfl
  · dsimp only at h
    split at h
    · split at h
      · cases h
      · cases h
        rfl
    · cases h
      rfl

theorem length_numbered (multiLine : Bool) (n : Nat) (rows : List Row) :
    (numbered multiLine n rows).length = rows.length := by
  induction rows generalizing n with
  | nil => rfl
  | cons r rs ih => simp [numbered, ih]

end Loader

end Scenario
