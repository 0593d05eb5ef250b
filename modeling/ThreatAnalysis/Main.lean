import ThreatAnalysis.CommandLine.Run
import ThreatAnalysis.CommandLine.Snapshot
import ThreatAnalysis.Json.Reader

/-!
The program. The words of its command line say what to do; a snapshot on the standard input holds
the files and the environment to do it with. What a run prints goes to the standard output, an
error to the standard error. A run that makes files or directories ends with a line that holds
them, as the files of a snapshot.
-/
namespace ThreatAnalysis.Program

variable [Platform]

/-- The snapshot in a text, an empty one if the text is no document. -/
def snapshotOf (text : String) : Snapshot :=
  .read ((Json.read? text).getD .null)

/-- All lines that a run prints. -/
def output (before : FileTree) (outcome : RunOutcome) : List String :=
  match Snapshot.changes before outcome.files with
  | [] => outcome.printed
  | changes => outcome.printed ++ [(Json.object [("files", .object changes)]).render .line]

/-- Runs the program on a snapshot from the standard input. -/
def execute (words : List String) : IO UInt32 := do
  let snapshot := snapshotOf (← (← IO.getStdin).readToEnd)
  let outcome := CommandLine.run snapshot.files snapshot.environment words
  for line in output snapshot.files outcome do
    IO.println line
  if let some line := outcome.failure.bind RunFailure.errorLine? then
    IO.eprintln line
  return outcome.exitCode.toUInt32

end ThreatAnalysis.Program

/-- Runs the program and gives back its exit code. -/
def main (words : List String) : IO UInt32 :=
  @ThreatAnalysis.Program.execute ThreatAnalysis.Platform.usual words
