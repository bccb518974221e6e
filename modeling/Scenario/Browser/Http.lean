import Scenario.Browser.Wire
import Scenario.Path
import Scenario.Text.Blank
import Scenario.Url

/-!
# Messages as bytes

A request is a line, headers and a body; the connection is closed after the
response, which is read to its end. The body of a response is as long as its
headers say, or comes in chunks.
-/

set_option autoImplicit false

namespace Scenario.Wire
open Scenario.Text

def ascii (s : String) : List UInt8 := encodeUtf8 s.toList

def Request.bytes (q : Request) (url : Url) (place : Authority) : List UInt8 :=
  let line := q.method.name ++ " " ++ url.target ++ " HTTP/1.1\r\n"
  let headers := "Host: " ++ place.place ++ "\r\nAccept: */*\r\nConnection: close\r\n"
  match q.body with
  | none => ascii (line ++ headers ++ "\r\n")
  | some v =>
    let body := ascii v.compact
    ascii (line ++ headers ++ "Content-Type: application/json\r\nContent-Length: " ++
      natText body.length ++ "\r\n\r\n") ++ body

def splitLine : List UInt8 → Option (List UInt8 × List UInt8)
  | 13 :: 10 :: r => some ([], r)
  | b :: r => (splitLine r).map fun p => (b :: p.1, p.2)
  | [] => none

def lineText (bs : List UInt8) : String :=
  String.ofList (bs.map fun b => Char.ofNat b.toNat)

def splitHead : Nat → List UInt8 → Option (List String × List UInt8)
  | 0, _ => none
  | fuel + 1, bs => do
    let (line, r) ← splitLine bs
    if line.isEmpty then some ([], r)
    else
      let (lines, r) ← splitHead fuel r
      some (lineText line :: lines, r)

def header? (name : String) (lines : List String) : Option String :=
  lines.findSome? fun l =>
    match l.toList.span (· != ':') with
    | (n, _ :: v) =>
      if eqIgnoringCase (String.ofList n) name then some (trim (String.ofList v)) else none
    | _ => none

def hexNumber? (cs : List Char) : Option Nat :=
  if cs.isEmpty then none
  else cs.foldl (fun n c => do some ((← n) * 16 + (← digit? 16 c))) (some 0)

/-- Chunks up to an empty one; each begins with a line that says its length. -/
def joinChunks : Nat → List UInt8 → Option (List UInt8)
  | 0, _ => none
  | fuel + 1, bs => do
    let (line, r) ← splitLine bs
    let size ← hexNumber? ((lineText line).toList.takeWhile Char.isAlphanum)
    if size = 0 then some []
    else if r.length < size then none
    else do
      let (_, rest) ← splitLine (r.drop size)
      some (r.take size ++ (← joinChunks fuel rest))

def bodyOf (headers : List String) (bs : List UInt8) : Option (List UInt8) :=
  if (header? "Transfer-Encoding" headers).any (eqIgnoringCase "chunked") then
    joinChunks (bs.length + 1) bs
  else match (header? "Content-Length" headers).map readWord with
    | some (.ok n) => if bs.length < n then none else some (bs.take n)
    | _ => some bs

def Response.ofBytes? (bs : List UInt8) : Option Response := do
  let (lines, r) ← splitHead (bs.length + 1) bs
  match lines with
  | [] => none
  | first :: headers =>
    let digits := (first.toList.dropWhile (· != ' ')).drop 1 |>.take 3
    let status ← (readWord (String.ofList digits)).toOption
    some ⟨status, ← bodyOf headers r⟩

end Scenario.Wire
