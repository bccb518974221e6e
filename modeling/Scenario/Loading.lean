import Scenario.Case
import Scenario.Document

/-!
# Loading of scripts

A document becomes a case. Entries of chains and suites are loaded with it,
except those whose paths hold references; these are loaded when a run reaches
them. References are followed deeper than they can go without coming back to a
file that is still being loaded.
-/

set_option autoImplicit false

namespace Scenario.Loading
open Scenario.Document Scenario.Text

def asBool : Json → Bool
  | .bool b => b
  | .str s => eqIgnoringCase s "true"
  | _ => false

/-- A value with a kind and a value, and no method, is a locator. -/
def locator? (members : Assoc Json) : Option Locator :=
  match Assoc.get? members "type", Assoc.get? members "value", Assoc.get? members "method" with
  | some kind, some value, none => some ⟨kind.scalar, value.scalar⟩
  | _, _, _ => none

def addField (b : Step.Builder) (key : String) (value : Json) : Step.Builder :=
  if key = "type" then b
  else if key = "negated" then { b with negated := asBool value }
  else if key = "name" then { b with name := some value.scalar }
  else match value with
    | .obj members =>
      match locator? members with
      | some l => b.locate key l
      | none => b.put key value.scalar
    | value => b.put key value.scalar

def step : Json → Except Trouble Step
  | .obj members =>
    match (Assoc.get? members "type").bind Json.str? with
    | none => .error (.ofText "step has no type")
    | some name =>
      match Step.Kind.ofName? name with
      | none => .error (.ofText ("unknown step type '" ++ name ++ "'"))
      | some kind => .ok (members.foldl (fun b e => addField b e.1 e.2) { kind }).build
  | v => .error (.ofText ("step must be an object, found " ++ v.compact))

def stepsFrom : Nat → List Json → Except Trouble (List Step)
  | _, [] => .ok []
  | n, v :: r => do
    let s ← during ("Failed to parse step " ++ natText n) (step v)
    let rest ← stepsFrom (n + 1) r
    .ok (s :: rest)

def steps (vs : List Json) : Except Trouble (List Step) := stepsFrom 1 vs

def isObject : Json → Bool
  | .obj _ => true
  | _ => false

mutual
def conditions (p : Pointcut) : List (String × Json) → Except Trouble Pointcut
  | [] => .ok p
  | (key, value) :: r =>
    match condition key value with
    | .ok q => conditions (p.both q) r
    | .error t => .error t
def condition (key : String) : Json → Except Trouble Pointcut
  | .obj members =>
    if key = "type" then .ok (.kind [(Json.obj members).scalar])
    else if key = "negated" then .ok (.negated false)
    else if key = "skip" then .ok (.skip false)
    else if key = "not" then
      match conditions .any members with
      | .ok p => .ok (.not p)
      | .error t => .error t
    else match Assoc.get? members "method" with
      | some m =>
        match MatchMethod.ofName? m.scalar with
        | some method =>
          .ok (.param key (((Assoc.get? members "value").map Json.scalar).getD "") method)
        | none => .error (.ofText ("unknown match method '" ++ m.scalar ++ "'"))
      | none =>
        match locator? members with
        | some l => .ok (.locator key l)
        | none => .ok (.param key (Json.obj members).scalar .equals)
  | .arr items =>
    if key = "type" then .ok (.kind (items.map Json.scalar))
    else if key = "negated" then .ok (.negated false)
    else if key = "skip" then .ok (.skip false)
    else if key = "not" then
      if items.all isObject then
        match alternatives .none items with
        | .ok p => .ok (.not p)
        | .error t => .error t
      else .error (.ofText "invalid not entry")
    else .ok (.param key (Json.arr items).scalar .equals)
  | v =>
    if key = "type" then .ok (.kind [v.scalar])
    else if key = "negated" then .ok (.negated (asBool v))
    else if key = "skip" then .ok (.skip (asBool v))
    else .ok (.param key v.scalar .equals)
def alternatives (p : Pointcut) : List Json → Except Trouble Pointcut
  | [] => .ok p
  | .obj members :: r =>
    match conditions .any members with
    | .ok q => alternatives (p.either q) r
    | .error t => .error t
  | _ :: r => alternatives p r
end

def pointcut (entries : List (Assoc Json)) : Except Trouble Pointcut :=
  alternatives .none (entries.map Json.obj)

def adviceCase (dir name : String) (vs : List Json) : Except Trouble Case := do
  let steps ← steps vs
  .ok { script := { name, dir }, steps }

def optionally {α β : Type} (f : α → Except Trouble β) : Option α → Except Trouble (Option β)
  | none => .ok none
  | some a =>
    match f a with
    | .ok b => .ok (some b)
    | .error t => .error t

def interceptor (dir : String) (d : InterceptorDocument) : Except Trouble (Interceptor Case) := do
  let p ← optionally pointcut d.pointcut
  let before ← optionally (adviceCase dir "before") d.before
  let after ← optionally (adviceCase dir "after") d.after
  let failure ← optionally (adviceCase dir "failure") d.failure
  .ok (.script p before after failure d.takesOver)

def interceptors (dir : String) : List InterceptorDocument → Except Trouble Aspect
  | [] => .ok []
  | d :: r => do
    let i ← interceptor dir d
    let is ← interceptors dir r
    .ok (i :: is)

def loader (dir : String) (d : Source) : Loader :=
  let config := Assoc.mapValues Json.scalar d.config
  { source := d.source
    config := match d.data with
      | some v => Assoc.putSorted config "data" v.compact
      | none => config
    dir }

/-- What an entry imposes on the case that it points to. -/
def impose (e : ScriptEntry) (dir : String) (sharesState : Bool) (c : Case) : Case :=
  { c with
    skip := e.skip.getD c.skip
    override := e.source.map (loader dir)
    nestedChain := e.nestedChain
    waitsForLast := e.waitsForLast
    sharesState := e.sharesState.getD sharesState }.settled

section Build
variable (load : String → Except Trouble Case)

/-- The case of an entry, or a case that loads it when its path is known. -/
def scriptCase (dir : String) (sharesState : Bool) (e : ScriptEntry) : Except Trouble Case :=
  if contains e.path "$\x7b" then
    .ok (impose e dir sharesState
      { script := { name := e.path, dir }
        resolve := some fun row =>
          let path := Path.join dir (row.bind e.path)
          match load path with
          | .ok c => .ok (impose e dir sharesState c)
          | .error t => .error (.load path t) })
  else
    match load (Path.join dir e.path) with
    | .ok c => .ok (impose e dir sharesState c)
    | .error t => .error t

mutual
def entryCase (dir : String) (sharesState : Bool) : Entry → Except Trouble Case
  | .chain entries takesOver skip =>
    match chainFrom dir sharesState entries [] with
    | .ok cases =>
      let c := Case.suite { name := "chain", dir } cases takesOver
      .ok { c with skip := skip.getD c.skip }
    | .error t => .error t
  | .script e => scriptCase load dir sharesState e
def chainFrom (dir : String) (sharesState : Bool) :
    List Entry → List Case → Except Trouble (List Case)
  | [], chain => .ok chain
  | e :: r, chain =>
    match entryCase dir sharesState e with
    | .ok c => chainFrom dir sharesState r (Case.append chain c)
    | .error t => .error t
end

def build (d : ScriptDocument) (script : Script) : Except Trouble Case := do
  let script := match d.name with
    | some name => { script with name }
    | none => script
  let dir := script.dir
  let c ←
    if d.kind = "script" then do
      let steps ← steps d.steps
      .ok ({ script, steps } : Case)
    else if d.kind = "suite" then do
      let chain ← chainFrom load dir (d.sharesState.getD true) d.scripts []
      .ok (Case.suite script chain d.takesOver)
    else .error (.ofText ("Unknown script type '" ++ d.kind ++ "' in " ++ script.name))
  let c := match d.source with
    | some s => { c with loader := loader dir s }
    | none => c
  let aspect ← interceptors dir d.aspect
  let c := { c with aspect }
  let c ← if d.chains.isEmpty then .ok c else do
    let chain ← chainFrom load dir false d.chains []
    .ok { c with chain, takesOver := d.takesOver }
  let c := { c with sharesState := d.sharesState.getD c.sharesState }
  let c ← if d.included.isEmpty then .ok c else do
    let included ← pointcut d.included
    .ok { c with included }
  let c ← if d.excluded.isEmpty then .ok c else do
    let excluded ← pointcut d.excluded
    .ok { c with excluded }
  .ok c.settled

end Build

def isYaml (path : String) : Bool :=
  Path.extension? path == some "yaml" || Path.extension? path == some "yml"

def readDocument {α : Type} (fs : Files) (decode : Decoder α) (path : String) :
    Except Trouble α :=
  match fs.readText path with
  | .error o => .error [.text ("Failed to read script: " ++ path), .io o]
  | .ok cs =>
    if isYaml path then
      match ofYamlText decode cs with
      | some d => .ok d
      | none => .error [.text ("Failed to parse YAML from " ++ path), .malformed .yaml]
    else
      match ofJsonText decode cs with
      | some d => .ok d
      | none => .error [.text ("Failed to parse JSON from " ++ path), .malformed .json]

/-- The case in a file, following references no deeper than `depth`. -/
def caseAt (fs : Files) : Nat → String → Except Trouble Case
  | 0, _ => .error [.tooDeep]
  | depth + 1, path => do
    let d ← readDocument fs Document.script path
    during ("Failed to load script: " ++ path) (build (caseAt fs depth) d (Script.ofPath path))

/-- How deep references are followed: every file once, for each of the
generations of scripts that a run may load inside one another. -/
def depthLimit (fs : Files) : Nat := 1000 * (fs.contents.length + 1)

def loadCase (fs : Files) (path : String) : Except Trouble Case :=
  caseAt fs (depthLimit fs) path

def caseOfJson (fs : Files) (script : Script) (v : Json) : Except Trouble Case :=
  match ofValue Document.script v with
  | some d => build (loadCase fs) d script
  | none =>
    .error [.text ("Invalid script document '" ++ script.name ++ "'"), .malformed .json]

def loadAspect (fs : Files) (path : String) : Except Trouble Aspect := do
  let d ← readDocument fs Document.aspect path
  during ("Failed to load aspect: " ++ path) (interceptors ((Path.parent? path).getD "") d)

end Scenario.Loading
