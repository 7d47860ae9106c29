import Culprit.Oracle.Command
import Culprit.Oracle.Http
import Culprit.Oracle.Kind
import Culprit.Oracle.Lexical
import Culprit.Service
import Culprit.Settings.Basic

/-!
# Configured oracles and services

The oracle that is asked for by name, and the service that the settings describe. All oracles act
in one world, which the remote one and the command change when they are asked.
-/

namespace Culprit

inductive SetupError
  | unknownOracle (name : String)
  | unknownCompletion (name : String)
  | failed (failure : Failure)
  /-- No client can be opened for a remote verifier. -/
  | noClient (exception : Exception)
  deriving DecidableEq, Repr

/-- What front ends tell their users about the lack of a service. A command that cannot be cut into
words and a client that cannot be opened are not explained. -/
def SetupError.explanation? : SetupError → Option String
  | .unknownOracle name => some (OracleKind.unknownMessage name)
  | .unknownCompletion name => some (LocateError.message (.unknownCompletion name))
  | .failed (.noVerdict reason) => some reason.message
  | .failed _ => none
  | .noClient _ => none

/-- What oracles need from the world around them: clients, which are opened with a time limit, and a
way to run programs. -/
structure Surroundings (τ : Type) where
  openClient : Number.Seconds → Except Exception (Http.Client τ)
  run : Command.Runner τ

structure OracleOptions where
  url : Option Text
  command : Option Command.Spelling
  limit : Number.Seconds

variable {τ : Type}

def OracleKind.build (surroundings : Surroundings τ) (options : OracleOptions) :
    OracleKind → Except SetupError (Oracle τ)
  | .lexical => .ok (Oracle.lexical τ)
  | .http => do
    let url ← (Http.requiredUrl options.url).mapError .failed
    let client ← (surroundings.openClient options.limit).mapError .noClient
    return Http.oracle url client
  | .command => (Command.oracle? surroundings.run options.command options.limit).mapError .failed

def Oracle.named (surroundings : Surroundings τ) (name : String) (options : OracleOptions) :
    Except SetupError (Oracle τ) :=
  match OracleKind.ofName? name with
  | none => .error (.unknownOracle name)
  | some kind => kind.build surroundings options

def Settings.oracleOptions (settings : Settings) : OracleOptions where
  url := settings.oracleUrl
  command := settings.oracleCommand.map .text
  limit := .fraction settings.oracleTimeout

def Settings.buildOracle (surroundings : Surroundings τ) (settings : Settings) :
    Except SetupError (Oracle τ) :=
  Oracle.named surroundings settings.oracle settings.oracleOptions

def Settings.buildService (surroundings : Surroundings τ) (settings : Settings) :
    Except SetupError (Service τ) := do
  let oracle ← settings.buildOracle surroundings
  match Completion.ofName? settings.completer with
  | some completion => return ⟨oracle, completion⟩
  | none => .error (.unknownCompletion settings.completer)

end Culprit
