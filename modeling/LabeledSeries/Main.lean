import LabeledSeries.CommandLine.Run
import Std.Time.DateTime.Timestamp

/-!
# The program

Reads the files that the words on the command line name and the clock, and prints what
`CommandLine.run` makes of them.
-/

namespace LabeledSeries.CommandLine

/-- The text of a file, if it can be read. -/
def fileText? (path : String) : IO (Option String) := do
  try
    return some (← IO.FS.readFile ((← IO.currentDir) / path))
  catch _ => return none

/-- The names in a folder, if it can be read. -/
def folderNames? (path : String) : IO (Option (List String)) := do
  try
    return some ((← ((← IO.currentDir) / path).readDir).toList.map (·.fileName))
  catch _ => return none

/-- The paths of the files that a command reads besides the dumps. -/
def Command.paths : Command → List String
  | rules path _ => [path]
  | _ => []

/-- The files that a command reads, as they are now. -/
def snapshot (options : Options) (command : Command) : IO Files := do
  let folder := options.samples.getD defaultSamples
  let names ← folderNames? folder
  let inFolder := (timeFile :: names.getD []).map (Files.join folder)
  let texts ← (inFolder ++ command.paths).filterMapM fun path => do
    return (← fileText? path).map (path, ·)
  return {
    read? := fun path => texts.lookup path
    names? := fun path => if path = folder then names else none }

/-- The files that the words on the command line make the program read. -/
def snapshotFor (words : List String) : IO Files := do
  match Request.read words with
  | .run options command => snapshot options command
  | _ => return Files.ofList []

/-- The seconds of the present time. -/
def presentSeconds : IO Int := do
  return (← Std.Time.Timestamp.now).toSecondsSinceUnixEpoch.val

end LabeledSeries.CommandLine

open LabeledSeries.CommandLine in
/-- Run the program; the result is its exit code. -/
def main (words : List String) : IO UInt32 := do
  let ending := run (← presentSeconds) (← snapshotFor words) words
  match ending with
  | .done output => IO.print output
  | .failed message | .aborted message => IO.eprintln ("Error: " ++ message)
  | .misuse => IO.eprint (Topic.text .program)
  return UInt32.ofNat ending.code
