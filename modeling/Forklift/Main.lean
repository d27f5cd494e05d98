import Forklift.CommandLine.Execution
import Std.Time.DateTime.Timestamp

/-! # The program

What the program needs of the system is read beforehand: the clock, once for each word, and the one
file that a request may name. The rest is decided without effects.
-/

namespace Forklift.System

open CommandLine

/-- The moment that the clock shows. -/
def now : IO Timestamp := do
  let moment := (← Std.Time.Timestamp.now).toDurationSinceUnixEpoch
  return ⟨moment.second.val, moment.nano.val.toNat⟩

/-- What the system says of an error. -/
def systemMessage : IO.Error → String
  | .alreadyExists _ code details | .inappropriateType _ code details
  | .invalidArgument _ code details | .noSuchThing _ code details
  | .permissionDenied _ code details | .resourceExhausted _ code details
  | .noFileOrDirectory _ code details | .interrupted _ code details
  | .otherError code details | .hardwareFault code details | .illegalOperation code details
  | .protocolError code details | .resourceBusy code details | .resourceVanished code details
  | .timeExpired code details | .unsatisfiedConstraints code details
  | .unsupportedOperation code details => s!"{details.capitalize} (os error {code})"
  | .unexpectedEof => "unexpected end of file"
  | .userError message => message

/-- The start of a file: one byte more than an inventory may have, or less if the file ends. -/
partial def readStart (handle : IO.FS.Handle) (content : ByteArray) : IO ByteArray := do
  let missing := Inventory.maxImportBytes + 1 - content.size
  let part ← handle.read (USize.ofNat missing)
  if part.isEmpty then return content else readStart handle (content ++ part)

/-- What a path leads to. A directory can be opened but has no content. -/
def viewOf (path : String) : IO FileView := do
  match ← (IO.FS.Handle.mk path .read).toBaseIO with
  | .error error =>
    let message := systemMessage error
    return ⟨fun _ => .error message, fun _ => .error message⟩
  | .ok handle =>
    match ← (readStart handle ByteArray.empty).toBaseIO with
    | .error error => return ⟨fun _ => .ok 0, fun _ => .error (systemMessage error)⟩
    | .ok content => return ⟨fun _ => .ok content.size, fun _ => .ok content⟩

/-- The file that a task names. -/
def fileOf? : Task → Option String
  | .inventory path => some path
  | .simulate path _ _ => path
  | .check _ | .explain _ => none

/-- The files as they are, as far as a request looks at them. -/
def filesFor (words : List String) : IO FileView := do
  match (Request.ofWords words).toOption.bind (fileOf? ·.task) with
  | some path => viewOf path
  | none => return ⟨fun _ => .ok 0, fun _ => .ok ByteArray.empty⟩

end Forklift.System

open Forklift Forklift.CommandLine Forklift.System in
def main (words : List String) : IO UInt32 := do
  let output ← IO.getStdout
  let files ← filesFor words
  let moments ← words.toArray.mapM fun _ => now
  let finished := execute words (← output.isTty) files fun i => moments.getD i ⟨0, 0⟩
  (← IO.getStderr).putStr (Terminal.Output.textOf finished.output.remarks)
  output.putStr (Terminal.Output.textOf finished.output.results)
  return UInt32.ofNat finished.ending.status
