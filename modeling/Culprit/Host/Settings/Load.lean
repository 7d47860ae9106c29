import Culprit.Host.Model.Reading
import Culprit.Host.Settings.Variables
import Culprit.Settings.Basic
import Culprit.Text.Lines
import Culprit.Text.Utf8

/-!
# Loading settings

The loader that evaluated runs use. A setting comes from a value given directly, else a variable of
the environment, else a file of variables, else its default. Names of variables are compared without
regard to case. All settings are checked at once, so that the violations name every one that is
wrong.
-/

namespace Culprit

namespace Settings

structure Sources where
  values : List (Text × Json)
  environment : List (Text × Text)
  file : Variables
  deriving Repr

namespace Sources

def fileEntries (sources : Sources) : Variables :=
  distinct
    (expandEntries (sources.environment.map fun (name, value) => (name, some value)) sources.file)

def foldName (name : Text) : Text := name.map Char.toLower

def lookup (sources : Sources) (name : String) : Option Json :=
  match Json.field? name sources.values with
  | some value => some value
  | none =>
    let folded (known : Variables) : Variables :=
      known.map fun (name, value) => (foldName name, value)
    let environment := sources.environment.map fun (name, value) => (name, some value)
    match lastValue? name.toList (folded environment) with
    | some value => some (.string value)
    | none => (lastValue? name.toList (folded sources.fileEntries)).map .string

def setting {α : Type} (sources : Sources) (name : String) (read : Json → Checked α)
    (default : α) : Checked α :=
  Checked.inside (.field name)
    (match sources.lookup name with
      | some value => read value
      | none => .ok default)

def settings (sources : Sources) : Checked Settings :=
  open Model in
  let text (name : String) (default : Text) := sources.setting name readText default
  let string (name : String) (default : String) := sources.setting name readString default
  (Checked.both (text "log_level" usual.logLevel)
    (Checked.both (string "oracle" usual.oracle)
      (Checked.both (string "completer" usual.completer)
        (Checked.both (sources.setting "oracle_url" (readOptional readText) usual.oracleUrl)
          (Checked.both
            (sources.setting "oracle_command" (readOptional readText) usual.oracleCommand)
            (Checked.both
              (sources.setting "oracle_timeout_seconds" readFloat usual.oracleTimeout)
              (Checked.both (text "api_server_host" usual.apiHost)
                (Checked.both (sources.setting "api_server_port" readInt usual.apiPort)
                  (Checked.both (sources.setting "port" (readOptional readInt) usual.port)
                    (Checked.both (text "mcp_transport" usual.toolsTransport)
                      (Checked.both (text "mcp_server_host" usual.toolsHost)
                        (sources.setting "mcp_server_port" readInt
                          usual.toolsPort)))))))))))).map
    fun (logLevel, oracle, completer, oracleUrl, oracleCommand, oracleTimeout, apiHost, apiPort,
        port, toolsTransport, toolsHost, toolsPort) =>
      { logLevel, oracle, completer, oracleUrl, oracleCommand, oracleTimeout, apiHost, apiPort,
        port, toolsTransport, toolsHost, toolsPort }

end Sources

def variableFileName : Text := ".env".toList

def readVariableFile : Option Bytes → Except Utf8.DecodeError Variables
  | none => .ok []
  | some bytes =>
    (Utf8.decode bytes).map fun text => readVariables (Text.unifyLineEnds (Utf8.dropMark text))

end Settings

/-- Where the settings that are not given directly come from. -/
structure Configuration where
  environment : List (Text × Text)
  variableFile : Option Bytes

namespace Configuration

def invalid (found : List Violation) : Exception := ⟨"ValidationError", "", found⟩

def load (configuration : Configuration) (values : List (Text × Json)) :
    Except Exception Settings := do
  let file ← (Settings.readVariableFile configuration.variableFile).mapError fun error =>
    ⟨"UnicodeDecodeError", error.message, []⟩
  (Settings.Sources.settings ⟨values, configuration.environment, file⟩).mapError invalid

def loader (configuration : Configuration) : Settings.Loader := fun values =>
  configuration.load (values.map fun (name, value) => (name, .string value))

end Configuration
end Culprit
