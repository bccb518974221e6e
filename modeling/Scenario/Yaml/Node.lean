import Scenario.Yaml.Token

/-!
# Documents of YAML

Documents as `serde_yaml` takes them. A document is one node: a scalar, a
sequence or a mapping, possibly tagged. An alias refers by number to the node of
its anchor, which may contain it.
-/

set_option autoImplicit false

namespace Scenario.Yaml

inductive Node where
  | scalar (tag : Option String) (style : Style) (text : String)
  | list (tag : Option String) (items : List Node)
  | map (tag : Option String) (entries : List (Node × Node))
  /-- The node of an anchor, by number. -/
  | alias (number : Nat)
  deriving Inhabited, Repr

def Node.empty : Node := .scalar none .plain ""

/-- A document: its node, and the nodes of its anchors, the latest first. -/
structure Graph where
  root : Node
  anchored : List (Nat × Node) := []
  deriving Inhabited, Repr

def Graph.find? (g : Graph) (number : Nat) : Option Node := g.anchored.lookup number

mutual
def Node.weight : Node → Nat
  | .list _ items => 2 + itemsWeight items
  | .map _ entries => 2 + entriesWeight entries
  | _ => 1
def itemsWeight : List Node → Nat
  | [] => 0
  | n :: r => n.weight + itemsWeight r
def entriesWeight : List (Node × Node) → Nat
  | [] => 0
  | (k, v) :: r => k.weight + v.weight + entriesWeight r
end

/-- The anchors so far. A name takes the count of names before it as its number, also when it
is given again, so that two names may come to share a number. -/
structure Anchors where
  numbers : Assoc Nat := []
  nodes : List (Nat × Node) := []

def Anchors.begin (as : Anchors) (name : Option String) : Anchors :=
  match name with
  | some name =>
    let number := as.numbers.length
    ⟨as.numbers.put name number, (number, .empty) :: as.nodes⟩
  | none => as

def Anchors.complete (as : Anchors) (before : Nat) (name : Option String) (n : Node) : Anchors :=
  match name with
  | some _ =>
    { as with nodes := as.nodes.modify (as.nodes.length - 1 - before) fun e => (e.1, n) }
  | none => as

abbrev Parsed (α : Type) := Option (α × List Token × Anchors)

def properties : List Token → Option String × Option String × List Token
  | .anchor a :: .tag t :: r => (some a, some t, r)
  | .tag t :: .anchor a :: r => (some a, some t, r)
  | .anchor a :: r => (some a, none, r)
  | .tag t :: r => (none, some t, r)
  | r => (none, none, r)

def endsBlockValue : List Token → Bool
  | .key :: _ => true
  | .value :: _ => true
  | .blockEnd :: _ => true
  | [] => true
  | _ => false

def endsPair (close : Token) : List Token → Bool
  | .comma :: _ => true
  | t :: _ => t == close
  | [] => false

mutual
/-- A node; `inBlock` allows blocks, and `bare` a list without indentation of its own. -/
def node : Nat → Bool → Bool → List Token → Anchors → Parsed Node
  | 0, _, _, _, _ => none
  | fuel + 1, inBlock, bare, ts, outer =>
    match ts with
    | .alias a :: r => (outer.numbers.get? a).map fun n => (.alias n, r, outer)
    | ts =>
      let (anchor, tag, r) := properties ts
      let as := outer.begin anchor
      let done (n : Node) (r : List Token) (as : Anchors) : Parsed Node :=
        some (n, r, as.complete outer.nodes.length anchor n)
      let nothing (r : List Token) : Parsed Node :=
        if anchor.isSome || tag.isSome then done (.scalar tag .plain "") r as else none
      match r with
      | .scalar style s :: r => done (.scalar tag style s) r as
      | .openList :: r =>
        match flowItems fuel true r as with
        | some (items, r, as) => done (.list tag items) r as
        | none => none
      | .openMap :: r =>
        match flowEntries fuel true r as with
        | some (entries, r, as) => done (.map tag entries) r as
        | none => none
      | .entry :: _ =>
        if bare then
          match bareItems fuel r as with
          | some (items, r, as) => done (.list tag items) r as
          | none => none
        else nothing r
      | t :: rest =>
        if inBlock && t == .sequenceStart then
          match blockItems fuel rest as with
          | some (items, r, as) => done (.list tag items) r as
          | none => none
        else if inBlock && t == .mappingStart then
          match blockEntries fuel rest as with
          | some (entries, r, as) => done (.map tag entries) r as
          | none => none
        else nothing r
      | [] => nothing []
def blockItems : Nat → List Token → Anchors → Parsed (List Node)
  | 0, _, _ => none
  | fuel + 1, ts, as =>
    match ts with
    | .entry :: r =>
      let first : Parsed Node := match r with
        | .entry :: _ => some (.empty, r, as)
        | .blockEnd :: _ => some (.empty, r, as)
        | r => node fuel true false r as
      match first with
      | some (n, r, as) => (blockItems fuel r as).map fun (ns, s) => (n :: ns, s)
      | none => none
    | .blockEnd :: r => some ([], r, as)
    | _ => none
def bareItems : Nat → List Token → Anchors → Parsed (List Node)
  | 0, _, _ => none
  | fuel + 1, ts, as =>
    match ts with
    | .entry :: r =>
      let first : Parsed Node := match r with
        | .entry :: _ => some (.empty, r, as)
        | r => if endsBlockValue r then some (.empty, r, as) else node fuel true false r as
      match first with
      | some (n, r, as) => (bareItems fuel r as).map fun (ns, s) => (n :: ns, s)
      | none => none
    | ts => some ([], ts, as)
def blockEntries : Nat → List Token → Anchors → Parsed (List (Node × Node))
  | 0, _, _ => none
  | fuel + 1, ts, as =>
    match ts with
    | .key :: r =>
      let key : Parsed Node :=
        if endsBlockValue r then some (.empty, r, as) else node fuel true true r as
      match key with
      | some (k, r, as) =>
        let value : Parsed Node := match r with
          | .value :: r =>
            if endsBlockValue r then some (.empty, r, as) else node fuel true true r as
          | r => some (.empty, r, as)
        match value with
        | some (v, r, as) => (blockEntries fuel r as).map fun (es, s) => ((k, v) :: es, s)
        | none => none
      | none => none
    | .blockEnd :: r => some ([], r, as)
    | _ => none
/-- Items up to the closing bracket; a key among them makes a mapping of one entry. An empty
key there takes up the token that ends it. -/
def flowItems : Nat → Bool → List Token → Anchors → Parsed (List Node)
  | 0, _, _, _ => none
  | fuel + 1, first, ts, as =>
    match ts with
    | .closeList :: r => some ([], r, as)
    | ts =>
      let start : Option (List Token) := if first then some ts else match ts with
        | .comma :: r => some r
        | _ => none
      match start with
      | none => none
      | some (.closeList :: r) => some ([], r, as)
      | some (.key :: r) =>
        let key : Parsed Node :=
          if r.head? == some .value || endsPair .closeList r then some (.empty, r.drop 1, as)
          else node fuel false false r as
        match key with
        | some (k, r, as) =>
          match flowValue fuel .closeList r as with
          | some (v, r, as) =>
            (flowItems fuel false r as).map fun (ns, s) => (.map none [(k, v)] :: ns, s)
          | none => none
        | none => none
      | some r =>
        match node fuel false false r as with
        | some (n, r, as) => (flowItems fuel false r as).map fun (ns, s) => (n :: ns, s)
        | none => none
def flowEntries : Nat → Bool → List Token → Anchors → Parsed (List (Node × Node))
  | 0, _, _, _ => none
  | fuel + 1, first, ts, as =>
    match ts with
    | .closeMap :: r => some ([], r, as)
    | ts =>
      let start : Option (List Token) := if first then some ts else match ts with
        | .comma :: r => some r
        | _ => none
      match start with
      | none => none
      | some (.closeMap :: r) => some ([], r, as)
      | some (.key :: r) =>
        let key : Parsed Node :=
          if r.head? == some .value || endsPair .closeMap r then some (.empty, r, as)
          else node fuel false false r as
        match key with
        | some (k, r, as) =>
          match flowValue fuel .closeMap r as with
          | some (v, r, as) => (flowEntries fuel false r as).map fun (es, s) => ((k, v) :: es, s)
          | none => none
        | none => none
      | some r =>
        match node fuel false false r as with
        | some (k, r, as) =>
          (flowEntries fuel false r as).map fun (es, s) => ((k, .empty) :: es, s)
        | none => none
def flowValue : Nat → Token → List Token → Anchors → Parsed Node
  | 0, _, _, _ => none
  | fuel + 1, close, ts, as =>
    match ts with
    | .value :: r => if endsPair close r then some (.empty, r, as) else node fuel false false r as
    | r => some (.empty, r, as)
end

def endsDocument : List Token → Bool
  | [] => true
  | .directive :: _ => true
  | .documentStart :: _ => true
  | .documentEnd :: _ => true
  | _ => false

def skipDirectives : List Token → List Token
  | .directive :: r => skipDirectives r
  | r => r

def documentContent : List Token → Option (List Token)
  | .documentStart :: r => some r
  | .directive :: r =>
    match skipDirectives r with
    | .documentStart :: r => some r
    | _ => none
  | r => some r

/-- The document of a text that holds one; an empty text is an empty scalar. -/
def parseChars (cs : List Char) : Option Graph := do
  let ts ← tokenize cs
  let started := ts.head? == some .documentStart || ts.head? == some .directive
  let ts ← documentContent ts
  if endsDocument ts && (started || ts.isEmpty) then
    if (ts.dropWhile (· == .documentEnd)).isEmpty then some { root := .empty } else none
  else
    let (root, r, as) ← node (8 * ts.length + 16) true false ts {}
    if (r.dropWhile (· == .documentEnd)).isEmpty then some { root, anchored := as.nodes } else none

end Scenario.Yaml
