import Scenario.Assoc

/-!
# Paths

A path is a text of parts between slashes. Repeated slashes and parts that are
a single point count for nothing, except a point at the very start.
-/

set_option autoImplicit false

namespace Scenario.Path

def splitOn (sep : Char) : List Char → List (List Char)
  | [] => [[]]
  | c :: r =>
    if c = sep then [] :: splitOn sep r
    else match splitOn sep r with
      | [] => [[c]]
      | p :: ps => (c :: p) :: ps

def pieces (path : String) : List String := (splitOn '/' path.toList).map String.ofList

def isAbsolute (path : String) : Bool := path.toList.head? == some '/'

def isIdle (piece : String) : Bool := piece == "" || piece == "."

/-- What a path consists of; an absolute one begins with a slash. -/
def parts (path : String) : List String :=
  match pieces path with
  | [] => []
  | p :: r =>
    let rest := r.filter fun p => !isIdle p
    if isAbsolute path then "/" :: rest
    else if p = "" then rest
    else p :: rest

/-- Paths that differ in idle pieces only are the same. -/
def same (a b : String) : Bool := parts a == parts b

def endsWithSlash (path : String) : Bool := path.toList.getLast? == some '/'

def join (base path : String) : String :=
  if isAbsolute path || base.isEmpty then path
  else if endsWithSlash base then base ++ path
  else base ++ "/" ++ path

def trimmed : List String → List String
  | [] => []
  | [p] => [p]
  | p :: r => if isIdle p then trimmed r else p :: r

def ofPieces (reversed : List String) : String := "/".intercalate reversed.reverse

/-- The path without its last part; the root and the empty path have no parent. -/
def parent? (path : String) : Option String :=
  if path.isEmpty then none
  else match trimmed (pieces path).reverse with
    | [] => none
    | [p] => if p = "" then none else some ""
    | [_, ""] => some "/"
    | _ :: r =>
      match trimmed r with
      | [""] => some "/"
      | r => some (ofPieces r)

def fileName? (path : String) : Option String :=
  match (parts path).getLast? with
  | some p => if p = "/" ∨ p = ".." ∨ p = "." then none else some p
  | none => none

/-- The last point of a name, not counting one at its start, splits it. -/
def splitName (name : String) : String × Option String :=
  let rev := name.toList.reverse
  let ext := rev.takeWhile (· != '.')
  match rev.drop ext.length with
  | _ :: c :: r => (String.ofList (c :: r).reverse, some (String.ofList ext.reverse))
  | _ => (name, none)

def stem? (path : String) : Option String := (fileName? path).map fun n => (splitName n).1

def extension? (path : String) : Option String := (fileName? path).bind fun n => (splitName n).2

end Scenario.Path
