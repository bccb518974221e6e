import Scenario.Loading

/-!
# Finding scripts

The scripts of a directory are its files with the endings of scripts, in the
order of their names; those that cannot be loaded are left out. A settings
file is no script.
-/

set_option autoImplicit false

namespace Scenario.Discovery

def settingsName : String := "stepchain"

def isScriptFile (path : String) : Bool :=
  Path.stem? path != some settingsName &&
    match Path.extension? path with
    | some e => e == "json" || e == "yaml" || e == "yml"
    | none => false

def loadScript (fs : Files) (path : String) : Except Trouble Case :=
  during ("Failed to load script: " ++ path) (Loading.loadCase fs path)

def insertName (n : String) : List String → List String
  | [] => [n]
  | m :: r => if n < m then n :: m :: r else m :: insertName n r

def sortNames (ns : List String) : List String := ns.foldr insertName []

def scriptPaths (fs : Files) (dir : String) : Except Trouble (List String) :=
  match fs.list dir with
  | .error o => .error [.text ("Failed to read directory: " ++ dir), .io o]
  | .ok names =>
    .ok ((sortNames names).map (Path.join dir) |>.filter fun p => fs.isFile p && isScriptFile p)

def scriptsIn (fs : Files) (dir : String) : Except Trouble (List Case) := do
  let paths ← scriptPaths fs dir
  .ok (paths.filterMap fun p => (loadScript fs p).toOption)

/-- The scripts of several places: directories as far as they load, files strictly. -/
def scriptsOf (fs : Files) : List String → Except Trouble (List Case)
  | [] => .ok []
  | p :: r => do
    let here ← if fs.isDirectory p then .ok ((scriptsIn fs p).toOption.getD [])
      else if fs.isFile p then do
        let c ← loadScript fs p
        .ok [c]
      else .ok []
    let rest ← scriptsOf fs r
    .ok (here ++ rest)

end Scenario.Discovery
