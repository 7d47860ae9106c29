import Culprit.Cli.Run
import Culprit.Host.Files
import Culprit.Host.Oracle.Isolated
import Culprit.Host.Settings.Load
import Culprit.Host.Terminal

/-!
# The command

The outermost layer: it collects what a run is given, performs the run, writes what the run wrote
and ends with its status. A run that breaks off ends with status one and the reason for it. Nothing
outside is touched but files and streams: a verifier command runs in isolated surroundings, and a
remote verifier is not reached.
-/

namespace Culprit.Main

open Command (FileFault)

def variableNames : List String := [
  "log_level", "oracle", "completer", "oracle_url", "oracle_command", "oracle_timeout_seconds",
  "api_server_host", "api_server_port", "port", "mcp_transport", "mcp_server_host",
  "mcp_server_port"]

/-- The variables of the environment that count: those for settings, in capitals or in small
letters, and the one for the width of lines. -/
def readEnvironment : BaseIO (List (Text × Text)) := do
  let names := "COLUMNS" :: variableNames.flatMap fun name => [name, name.map Char.toUpper]
  let found ← names.mapM fun name => do
    return (← IO.getEnv name).map fun value => (name.toList, value.toList)
  return found.filterMap id

def fileFault : IO.Error → FileFault
  | .permissionDenied _ _ _ => .permissionDenied
  | .inappropriateType _ 20 _ => .notADirectory
  | .inappropriateType _ _ _ => .isADirectory
  | .resourceExhausted _ 36 _ => .nameTooLong
  | _ => .notFound

def fileContents (path : Text) : BaseIO (Except Cli.ReadError Bytes) := do
  match ← (IO.FS.readBinFile (String.ofList path)).toBaseIO with
  | .ok bytes => return .ok bytes.toList
  | .error error => return .error (.system ((fileFault error).about path))

def readStandardInput : IO (Except Cli.ReadError Text) := do
  let bytes ← (← IO.getStdin).readBinToEnd
  return match Utf8.decode bytes.toList with
    | .ok text => .ok (Text.unifyLineEnds text)
    | .error error => .error (.other ⟨"UnicodeDecodeError", error.message, []⟩)

def inputOf (arguments : List Text) : Option Text :=
  match Cli.Request.ofArguments arguments with
  | .ok (.check check) => some check.input
  | _ => none

def Exception.text (exception : Exception) : String :=
  let invalid := exception.violations.map fun violation => violation.defect.name
  exception.kind ++ ": " ++ ", ".intercalate (exception.message :: invalid)

def breakMessage : Cli.Break → String
  | .start (.settings exception) => Exception.text exception
  | .start (.unknownLevel capitals) => Log.unknownLevelMessage capitals
  | .start (.setup (.failed failure)) => failure.message
  | .start (.setup (.noClient exception)) => Exception.text exception
  | .start (.setup error) => error.explanation?.getD ""
  | .reading exception => Exception.text exception
  | .undecodable error => error.message
  | .closing failure => failure.message
  | .printing exception => Exception.text exception

def readInvocation (arguments : List Text) : IO (Cli.Invocation (Http.Connection Unit)) := do
  let environment ← readEnvironment
  let variableFile := (← fileContents Settings.variableFileName).toOption
  let input := inputOf arguments
  let standardInput ←
    if input = some Cli.standardInputName then readStandardInput else pure (.ok [])
  let contents ← fileContents (Path.read (input.getD [])).render
  return {
    arguments
    width := Cli.lineWidth environment
    load := (Configuration.mk environment variableFile).loader
    surroundings := .isolated .bare
    world := .fresh
    contents := fun _ => contents
    standardInput
    console := ⟨.present fun _ => none, .present fun _ => none⟩ }

end Culprit.Main

def main (arguments : List String) : IO UInt32 := do
  let invocation ← Culprit.Main.readInvocation (arguments.map String.toList)
  let run := invocation.run
  IO.print run.output
  IO.eprint (run.log ++ run.errors)
  match run.ending with
  | .exit status => return status.toUInt32
  | .broken reason => do
    IO.eprintln (Culprit.Main.breakMessage reason)
    return 1
