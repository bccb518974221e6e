import Scenario.Fault
import Scenario.Path
import Scenario.Text.Utf8

/-!
# Files

Files are found below a directory, in which every path begins. Only what the
paths of the files name exists; directories are what lies above them. Nothing is
found at an absolute path, nor at one that leaves the directory and comes back.
-/

set_option autoImplicit false

namespace Scenario

/-- Contents by normalized path, and directories that exist without files. -/
structure Files where
  contents : List (List String × List UInt8) := []
  deriving Inhabited

namespace Files

inductive Node where
  | file (bytes : List UInt8)
  | directory (path : List String)
  | outside
  deriving DecidableEq, Repr

def properPrefix (a b : List String) : Bool := a.isPrefixOf b && a.length < b.length

def nodeAt (fs : Files) (path : List String) : Option Node :=
  if path.isEmpty then some (.directory [])
  else match fs.contents.find? fun e => e.1 == path with
    | some e => some (.file e.2)
    | none =>
      if fs.contents.any fun e => properPrefix path e.1 then some (.directory path) else none

/-- Follows the pieces of a path one by one; each but the last must be a directory. -/
def walk (fs : Files) : Node → List String → Except Obstacle Node
  | n, [] => .ok n
  | .file _, _ :: _ => .error .notADirectory
  | .outside, p :: r =>
    if Path.isIdle p || p == ".." then walk fs .outside r else .error .notFound
  | .directory d, p :: r =>
    if Path.isIdle p then walk fs (.directory d) r
    else if p = ".." then
      walk fs (if d.isEmpty then .outside else .directory d.dropLast) r
    else match fs.nodeAt (d ++ [p]) with
      | some n => walk fs n r
      | none => .error .notFound

def find (fs : Files) (path : String) : Except Obstacle Node :=
  if path.isEmpty || Path.isAbsolute path then .error .notFound
  else fs.walk (.directory []) (Path.pieces path)

def exists? (fs : Files) (path : String) : Bool :=
  match fs.find path with
  | .ok _ => true
  | .error _ => false

def isFile (fs : Files) (path : String) : Bool :=
  match fs.find path with
  | .ok (.file _) => true
  | _ => false

def isDirectory (fs : Files) (path : String) : Bool :=
  match fs.find path with
  | .ok (.directory _) => true
  | .ok .outside => true
  | _ => false

def readBytes (fs : Files) (path : String) : Except Obstacle (List UInt8) :=
  match fs.find path with
  | .ok (.file bytes) => .ok bytes
  | .ok _ => .error .isADirectory
  | .error o => .error o

def readText (fs : Files) (path : String) : Except Obstacle (List Char) :=
  match fs.readBytes path with
  | .ok bytes =>
    match Text.decodeUtf8? bytes with
    | some cs => .ok cs
    | none => .error .invalidData
  | .error o => .error o

def list (fs : Files) (path : String) : Except Obstacle (List String) :=
  match fs.find path with
  | .ok (.directory d) =>
    .ok ((fs.contents.filterMap fun e =>
      if properPrefix d e.1 then (e.1.drop d.length).head? else none).eraseDups)
  | .ok .outside => .ok []
  | .ok (.file _) => .error .notADirectory
  | .error o => .error o

def put (fs : Files) (path : String) (bytes : List UInt8) : Files :=
  let key := (Path.parts path).filter fun p => !Path.isIdle p
  ⟨(fs.contents.filter fun e => e.1 != key) ++ [(key, bytes)]⟩

/-- Writes a file in a directory, which is made if it is missing; a file on the
way to it is in the way. -/
def write (fs : Files) (dir name : String) (bytes : List UInt8) : Except Obstacle Files :=
  match fs.find dir with
  | .ok (.file _) => .error .notADirectory
  | .error .notFound => .ok (fs.put (Path.join dir name) bytes)
  | .error o => .error o
  | .ok _ => .ok (fs.put (Path.join dir name) bytes)

end Files

end Scenario
