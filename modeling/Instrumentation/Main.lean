import Instrumentation.CommandLine.Run
import Std.Time.DateTime.Timestamp
/-
  The program

  Looks at the few files that a request is about, runs the request, and carries out
  what it came to.
-/

namespace Instrumentation

open CommandLine (Request Environment Surroundings)
open Files (Tree Failure Entry)

/-- The failure that a number of the system stands for. Some calls give the negated
number. -/
def failureOfCode (code : UInt32) (details : String) : Failure :=
  let number := if code < 0x80000000 then code else 0 - code
  match number with
  | 2 => .notFound
  | 17 => .alreadyExists
  | 20 => .notDirectory
  | 21 => .isDirectory
  | 28 => .noSpace
  | 36 => .nameTooLong
  | _ => .described (details ++ " (os error " ++ toString number.toNat ++ ")")

def failureOf (e : IO.Error) : Failure :=
  match e with
  | .alreadyExists _ code details | .noFileOrDirectory _ code details
  | .invalidArgument _ code details | .permissionDenied _ code details
  | .resourceExhausted _ code details | .inappropriateType _ code details
  | .noSuchThing _ code details | .interrupted _ code details
  | .otherError code details | .resourceBusy code details | .resourceVanished code details
  | .unsupportedOperation code details | .hardwareFault code details
  | .unsatisfiedConstraints code details | .illegalOperation code details
  | .protocolError code details | .timeExpired code details => failureOfCode code details
  | .unexpectedEof => .described "unexpected end of file"
  | .userError text => .described text

def absolutePath (place : List String) : String := "/" ++ String.intercalate "/" place

def bareTree (current : String) : Tree :=
  let tree : Tree := { entries := [], current := Files.walk [] current }
  (tree.putBelow ["dev", "null"] .drain).putBelow ["dev", "full"] .full

/-- The tree with the document that a request reads. -/
def withDocument (tree : Tree) (path : String) : IO Tree := do
  let place := tree.place path
  try
    let bytes ← IO.FS.readBinFile path
    return tree.putBelow place (.file bytes)
  catch e =>
    match failureOf e with
    | .notFound => return tree
    | .isDirectory => return tree.putBelow place .directory
    | cause => return tree.putBelow place (.blocked cause)

def openForAppend (path parent : String) : IO IO.FS.Handle := do
  try IO.FS.Handle.mk path .append
  catch e =>
    match failureOf e with
    | .notFound =>
      IO.FS.createDirAll parent
      IO.FS.Handle.mk path .append
    | _ => throw e

/-- The tree with the file to which a request adds records, and the file if it can
be opened. It stands in the tree as if it were empty. -/
def withRecordFile (tree : Tree) (path : String) : IO (Tree × Option IO.FS.Handle) := do
  let place := tree.place path
  if (tree.entry? place).isSome then return (tree, none)
  try
    let handle ← openForAppend path (absolutePath place.dropLast)
    return (tree.putBelow place (.file .empty), some handle)
  catch e => return (tree.putBelow place (.blocked (failureOf e)), none)

def randomId : IO String := do
  let bytes ← IO.getRandomBytes 8
  return String.ofList (bytes.toList.flatMap fun b => Format.Json.hexPair b.toNat)

def surroundings : IO Surroundings := do
  let environment : Environment :=
    { configDirectory := ← IO.getEnv "TRACEHOOK_CONFIG_DIR"
      settingsDirectory := ← IO.getEnv "XDG_CONFIG_HOME"
      home := ← IO.getEnv "HOME" }
  let time := (← Std.Time.Timestamp.now).toNanosecondsSinceUnixEpoch.val.toNat
  return {
    environment
    now := ⟨.after 0 time, ← IO.monoNanosNow⟩
    spanId := ← randomId }

def report (around : Surroundings) (done : CommandLine.Performance) : IO Unit := do
  let time := CommandLine.timeText around.now.wall
  for event in done.events do
    IO.eprintln (CommandLine.eventLine done.structured time event)
  IO.print done.answer.output
  IO.eprint done.answer.complaint

end Instrumentation

open Instrumentation in
def main (arguments : List String) : IO UInt32 := do
  let around ← surroundings
  let mut tree := bareTree (← IO.currentDir).toString
  let mut recordFile : Option (String × IO.FS.Handle) := none
  if let .ok request :=
      CommandLine.Request.ofArguments around.environment.configDirectory arguments then
    if let some path := request.document? around then
      tree ← withDocument tree path
    if let some path := request.recordFile? then
      let (changed, handle) ← withRecordFile tree path
      tree := changed
      recordFile := handle.map ((path, ·))
  let done := CommandLine.perform around tree arguments
  if let some (path, handle) := recordFile then
    if let .ok bytes := done.tree.read path then
      handle.write bytes
      handle.flush
  report around done
  return .ofNat done.answer.exit
