import Scenario.Browser.Http
import Scenario.Browser.Remote
import Scenario.CommandLine
import Std.Async.DNS
import Std.Async.TCP
import Std.Time.DateTime.Timestamp

/-!
# The program

The program reads the working directory, carries out the command, and writes
what the command leaves. Requests to a browser server are made one after
another: the command is carried out on the answers known so far, until it asks
for nothing more.
-/

set_option autoImplicit false

namespace Scenario.Main
open Std.Async

def deepest : Nat := 32

def readTree : Nat → String → Array IO.FS.DirEntry → Files → IO Files
  | 0, _, _, fs => pure fs
  | depth + 1, dir, entries, fs => do
    let mut fs := fs
    for e in entries do
      if !e.fileName.startsWith "." then
        let path := if dir.isEmpty then e.fileName else Path.join dir e.fileName
        if ← e.path.isDir then
          fs ← readTree depth path (← e.path.readDir) fs
        else
          fs ← try pure (fs.put path (← IO.FS.readBinFile e.path).toList) catch _ => pure fs
    return fs

def socketAddress (port : UInt16) : Std.Net.IPAddr → Std.Net.SocketAddress
  | .v4 addr => .v4 ⟨addr, port⟩
  | .v6 addr => .v6 ⟨addr, port⟩

partial def receive (c : TCP.Socket.Client) (got : ByteArray) : Async ByteArray := do
  match ← c.recv? 65536 with
  | some bytes => receive c (got ++ bytes)
  | none => return got

def exchange (host : String) (port : UInt16) (bytes : ByteArray) : Async (Option ByteArray) := do
  match (← DNS.getAddrInfo host (toString port))[0]? with
  | none => return none
  | some address =>
    let c ← TCP.Socket.Client.mk
    c.connect (socketAddress port address)
    c.send bytes
    return some (← receive c .empty)

def ask (q : Wire.Request) : IO (Option Wire.Response) := do
  let some url := Url.parse? q.address | return none
  let some place := url.authority | return none
  let some port := url.port? | return none
  if url.scheme != "http" then return none
  try
    let bytes := ByteArray.mk (q.bytes url place).toArray
    let answer ← (exchange place.host (UInt16.ofNat port) bytes).block
    return answer.bind fun bs => Wire.Response.ofBytes? bs.toList
  catch _ => return none

abbrev Outcome := CommandLine.Outcome (Browser.Remote Wire.Tape)

partial def carryOut (run : Wire.Tape → Outcome) (answers : Array (Option Wire.Response)) :
    IO Outcome := do
  let o := run { answers := answers.toList }
  match o.browser.map (·.wire) with
  | none => return o
  | some tape =>
    match tape.asked with
    | some (ms, q) =>
      IO.sleep (UInt32.ofNat ms)
      carryOut run (answers.push (← ask q))
    | none =>
      IO.sleep (UInt32.ofNat tape.idle)
      return o

def printRefusal (r : Options.Refusal) : IO Unit :=
  match r with
  | .answered .version => IO.println (Discovery.settingsName ++ " 0.1.0")
  | .answered _ =>
    IO.println ("Usage: " ++ Discovery.settingsName ++ " [OPTIONS]\n\n" ++ Options.usage)
  | r => IO.eprintln ("error: " ++ r.message)

def printTrouble : List String → IO Unit
  | [] => pure ()
  | m :: causes => do
    IO.eprintln ("Error: " ++ m)
    if !causes.isEmpty then
      IO.eprintln "\nCaused by:"
      for c in causes do IO.eprintln ("    " ++ c)

def save (o : Outcome) : IO Unit := do
  let some (dir, name, content) := o.saved | return
  try
    IO.FS.createDirAll dir
    IO.FS.writeFile (Path.join dir name) content
  catch e => IO.eprintln ("Failed to save report: " ++ e.toString)

end Scenario.Main

open Scenario in
def main (words : List String) : IO UInt32 := do
  let files ← Scenario.Main.readTree Scenario.Main.deepest "" (← (← IO.currentDir).readDir) {}
  let now := Calendar.Moment.ofNanos
    (← Std.Time.Timestamp.now).toNanosecondsSinceUnixEpoch.val 0
  let server ← IO.getEnv "STEPCHAIN_WEBDRIVER_URL"
  let run (tape : Wire.Tape) : Scenario.Main.Outcome :=
    CommandLine.run (Browser.remote Wire.replay) ⟨tape, []⟩ files now words server
  let o ← Scenario.Main.carryOut run #[]
  o.refusal.forM Scenario.Main.printRefusal
  Scenario.Main.printTrouble o.trouble.messages
  o.report.forM fun r => IO.print r.text
  o.totals.forM fun t =>
    IO.println ("Summary:\n  Total: " ++ Text.natText t.total ++ "\n  Passed: " ++
      Text.natText t.passed ++ "\n  Failed: " ++ Text.natText t.failed)
  Scenario.Main.save o
  return UInt32.ofNat o.exitCode
