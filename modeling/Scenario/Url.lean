import Scenario.Domain
import Scenario.Text.Blank
import Scenario.Text.Url

/-!
# Absolute addresses

This module stands for the `url` library, and the modules of domain names for
the library that reads the host of an address for it.

An address has a scheme, an authority and a path. The schemes of the web are
special: they must name a host, a backslash counts as a slash, and a host that
ends in a number is an IPv4 address.
-/

set_option autoImplicit false

namespace Scenario

structure Authority where
  credentials : String := ""
  host : String := ""
  port : Option Nat := none
  deriving DecidableEq, Repr

structure Url where
  scheme : String
  authority : Option Authority := none
  rest : String := ""
  deriving DecidableEq, Repr

namespace Authority

def place (a : Authority) : String :=
  a.host ++
    (match a.port with
      | some n => ":" ++ Text.natText n
      | none => "")

def text (a : Authority) : String :=
  (if a.credentials.isEmpty then "" else a.credentials ++ "@") ++ a.place

end Authority

namespace Url
open Scenario.Text

def special? : String → Option (Option Nat)
  | "http" => some (some 80)
  | "ws" => some (some 80)
  | "ftp" => some (some 21)
  | "https" => some (some 443)
  | "wss" => some (some 443)
  | "file" => some none
  | _ => none

def isControlOrBlank (c : Char) : Bool := c.toNat ≤ 32

/-- Blanks around an address and line ends inside it do not count. -/
def tidy (s : String) : List Char :=
  let inner := (s.toList.dropWhile isControlOrBlank).reverse.dropWhile isControlOrBlank
  inner.reverse.filter fun c => c != '\t' && c != '\n' && c != '\r'

def schemeOf (cs : List Char) : Option (String × List Char) :=
  let name := cs.takeWhile fun c => c.isAlphanum || c == '+' || c == '-' || c == '.'
  match name, cs.drop name.length with
  | c :: _, ':' :: r => if c.isAlpha then some (lowerAscii (String.ofList name), r) else none
  | _, _ => none

def undoPercents : List UInt8 → List UInt8
  | 37 :: a :: b :: r =>
    match digit? 16 (Char.ofNat a.toNat), digit? 16 (Char.ofNat b.toNat) with
    | some h, some l => UInt8.ofNat (h * 16 + l) :: undoPercents r
    | _, _ => 37 :: undoPercents (a :: b :: r)
  | b :: r => b :: undoPercents r
  | [] => []

def neverInHost : List Char :=
  [' ', '#', '%', '/', ':', '<', '>', '?', '@', '[', '\\', ']', '^', '|', Char.ofNat 127]

def isHostChar (c : Char) : Bool := 32 ≤ c.toNat && !neverInHost.contains c

/-- A number in a host: hexadecimal after `0x`, octal after `0`, else decimal. -/
def hostNumber? (cs : List Char) : Option Nat :=
  let (base, ds) : Nat × List Char := match cs with
    | '0' :: 'x' :: r => (16, r)
    | '0' :: 'X' :: r => (16, r)
    | '0' :: c :: r => (8, c :: r)
    | ds => (10, ds)
  if cs.isEmpty then none
  else ds.foldl (fun n c => do some ((← n) * base + (← digit? base c))) (some 0)

def labels (host : List Char) : List (List Char) :=
  let ls := Path.splitOn '.' host
  if 1 < ls.length && ls.getLast? == some [] then ls.dropLast else ls

def endsInNumber (host : List Char) : Bool :=
  match (labels host).getLast? with
  | some l =>
    (!l.isEmpty && l.all Char.isDigit) ||
      (match l with
        | '0' :: x :: _ => (x == 'x' || x == 'X') && (hostNumber? l).isSome
        | _ => false)
  | none => false

/-- An IPv4 address; its last part fills what the others leave. -/
def ipv4? (host : List Char) : Option Nat := do
  let ls := labels host
  let ns ← ls.mapM hostNumber?
  let last ← ns.getLast?
  if ls.length ≤ 4 && ns.dropLast.all (· < 256) && last < 1 <<< (8 * (5 - ns.length)) then
    some ((ns.dropLast.zipIdx.foldl (fun n p => n + p.1 <<< (8 * (3 - p.2))) 0) + last)
  else none

def ipv4Text (n : Nat) : String :=
  ".".intercalate ([3, 2, 1, 0].map fun i => natText ((n >>> (8 * i)) % 256))

def plainByte? : List Char → Option Nat
  | ['0'] => some 0
  | '0' :: _ => none
  | cs => (readNatIn 10 256 cs).toOption

def ipv6Group? (cs : List Char) : Option Nat :=
  if 1 ≤ cs.length && cs.length ≤ 4 then
    cs.foldl (fun n c => do some ((← n) * 16 + (← digit? 16 c))) (some 0)
  else none

def ipv6Groups : List (List Char) → Option (List Nat)
  | [] => some []
  | [g] =>
    if g.contains '.' then
      match (Path.splitOn '.' g).map plainByte? with
      | [some a, some b, some c, some d] => some [a * 256 + b, c * 256 + d]
      | _ => none
    else (ipv6Group? g).map ([·])
  | g :: r => do some ((← ipv6Group? g) :: (← ipv6Groups r))

def splitGap : List Char → Option (List Char × List Char)
  | ':' :: ':' :: r => some ([], r)
  | c :: r => (splitGap r).map fun p => (c :: p.1, p.2)
  | [] => none

def sideGroups (cs : List Char) : Option (List Nat) :=
  if cs.isEmpty then some [] else ipv6Groups (Path.splitOn ':' cs)

def isIpv6 (cs : List Char) : Bool :=
  match splitGap cs with
  | some (l, r) =>
    match sideGroups l, sideGroups r with
    | some a, some b => !l.contains '.' && a.length + b.length ≤ 7
    | _, _ => false
  | none =>
    match sideGroups cs with
    | some a => a.length == 8
    | none => false

def specialHost (cs : List Char) : Option String :=
  match cs with
  | '[' :: r =>
    if r.getLast? == some ']' && isIpv6 r.dropLast then some (lowerAscii (String.ofList cs))
    else none
  | cs => do
    let host ← Domain.toAscii? (← decodeUtf8? (undoPercents (encodeUtf8 cs)))
    if host.isEmpty || !host.all isHostChar then none
    else if endsInNumber host then (ipv4? host).map ipv4Text
    else some (String.ofList host)

def opaqueHost (cs : List Char) : Option String :=
  match cs with
  | '[' :: r =>
    if r.getLast? == some ']' && isIpv6 r.dropLast then some (String.ofList cs) else none
  | cs =>
    if cs.any fun c => c.toNat == 0 || (c != '%' && c.toNat != 127 && neverInHost.contains c) then
      none
    else some (String.ofList cs)

def splitPort : Bool → List Char → List Char × Option (List Char)
  | _, [] => ([], none)
  | inside, ':' :: r =>
    if inside then let (h, p) := splitPort inside r; (':' :: h, p) else ([], some r)
  | inside, c :: r =>
    let (h, p) := splitPort ((inside || c == '[') && c != ']') r
    (c :: h, p)

def portOf (usual : Option Nat) : Option (List Char) → Option (Option Nat)
  | none => some none
  | some [] => some none
  | some ds =>
    if ds.all Char.isDigit then
      (readNatIn 10 65536 ds).toOption.map fun n => if usual == some n then none else some n
    else none

def splitCredentials (cs : List Char) : Option (List Char) × List Char :=
  match (cs.reverse.span (· != '@')) with
  | (host, _ :: r) => (some r.reverse, host.reverse)
  | (host, []) => (none, host.reverse)

def neverInFragment : List Char := [' ', '"', '<', '>', Char.ofNat 96]
def neverInPath : List Char := neverInFragment ++ ['\x7b', '\x7d']
def neverInQuery : List Char := [' ', '"', '<', '>', '\'']
def neverInCredentials : List Char :=
  neverInPath ++ ['#', '?', '/', ':', ';', '=', '@', '[', '\\', ']', '^', '|']

def escapedBut (never : List Char) (cs : List Char) : List Char :=
  cs.flatMap fun c =>
    if c.toNat < 32 || 126 < c.toNat || never.contains c then (encodeUtf8 [c]).flatMap percentByte
    else [c]

def credentialsOf (cs : List Char) : String :=
  let name := cs.takeWhile (· != ':')
  let password := cs.drop (name.length + 1)
  String.ofList (escapedBut neverInCredentials name ++
    if password.isEmpty then [] else ':' :: escapedBut neverInCredentials password)

def authorityOf (host : List Char → Option String) (mayBeEmpty : Bool) (usual : Option Nat)
    (cs : List Char) : Option Authority := do
  let (user, cs) := splitCredentials cs
  let (name, port) := splitPort false cs
  if name.isEmpty && !(mayBeEmpty && user.isNone && port.isNone) then none
  else
    let name ← host name
    let port ← portOf usual port
    some ⟨credentialsOf (user.getD []), name, port⟩

def afterPoint : List Char → Option (List Char)
  | '.' :: r => some r
  | '%' :: '2' :: e :: r => if e = 'e' ∨ e = 'E' then some r else none
  | _ => none

def isPoint (name : List Char) : Bool := afterPoint name == some []

def isPoints (name : List Char) : Bool := (afterPoint name).bind afterPoint == some []

/-- Points in a path lead to the place that they name. -/
def resolvePoints : List (List Char) → List (List Char) → List (List Char)
  | done, [] => done.reverse
  | done, [p] =>
    if isPoint p then ([] :: done).reverse
    else if isPoints p then ([] :: done.drop 1).reverse
    else (p :: done).reverse
  | done, p :: r =>
    if isPoint p then resolvePoints done r
    else if isPoints p then resolvePoints (done.drop 1) r
    else resolvePoints (p :: done) r

def pathOf (cs : List Char) : String :=
  let path := cs.takeWhile fun c => c != '?' && c != '#'
  let query := (cs.drop path.length).takeWhile (· != '#')
  let fragment := cs.drop (path.length + query.length)
  let pieces := Path.splitOn '/' (path.map fun c => if c == '\\' then '/' else c)
  let names := match pieces with
    | [] :: r => r
    | ps => ps
  String.ofList ('/' :: ['/'].intercalate ((resolvePoints [] names).map (escapedBut neverInPath)) ++
    escapedBut neverInQuery query ++ escapedBut neverInFragment fragment)

/-- A letter and a colon or bar name a drive, not a host. -/
def isDrive : List Char → Bool
  | [c, d] => c.isAlpha && (d == ':' || d == '|')
  | _ => false

def parse? (s : String) : Option Url := do
  let (scheme, r) ← schemeOf (tidy s)
  match special? scheme with
  | some usual =>
    let isSlash := fun c => c == '/' || c == '\\'
    let slashes := r.takeWhile isSlash
    if usual.isNone && slashes.length < 2 then some ⟨scheme, some {}, pathOf r⟩
    else
      let r := if usual.isNone then r.drop 2 else r.drop slashes.length
      let cs := r.takeWhile fun c => !isSlash c && c != '?' && c != '#'
      if usual.isNone then
        if cs.isEmpty || isDrive cs then some ⟨scheme, some {}, pathOf r⟩
        else some ⟨scheme, some { host := ← specialHost cs }, pathOf (r.drop cs.length)⟩
      else
        let authority ← authorityOf specialHost false usual cs
        some ⟨scheme, some authority, pathOf (r.drop cs.length)⟩
  | none =>
    match r with
    | '/' :: '/' :: r =>
      let cs := r.takeWhile fun c => c != '/' && c != '?' && c != '#'
      let authority ← authorityOf opaqueHost true none cs
      some ⟨scheme, some authority, String.ofList (r.drop cs.length)⟩
    | r => some ⟨scheme, none, String.ofList r⟩

def text (u : Url) : String :=
  u.scheme ++ ":" ++
    (match u.authority with
      | some a => "//" ++ a.text
      | none => "") ++ u.rest

def port? (u : Url) : Option Nat :=
  (u.authority.bind Authority.port).or ((special? u.scheme).bind id)

def target (u : Url) : String := String.ofList (u.rest.toList.takeWhile (· != '#'))

def base (u : Url) : String :=
  String.ofList ((u.text.toList.reverse.dropWhile (· == '/')).reverse)

end Url

end Scenario
