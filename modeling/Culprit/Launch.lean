import Culprit.Release
import Culprit.Startup
import Culprit.Tools

/-!
# Launching the servers

How the API and the tools are put into service. Each loads its settings and logs that it starts;
the tools need their service at once, while the API builds its own when it is up. What is left is
to listen where the settings say.
-/

namespace Culprit.Launch

structure Launched (α : Type) where
  result : Except StartError α
  errors : String

def Launched.failed {α : Type} (error : StartError) : Launched α := ⟨.error error, ""⟩

def banner (kind details : String) : String :=
  Release.title ++ " " ++ kind ++ " Server v" ++ Release.version ++ " starting (" ++ details ++ ")"

def levelName (settings : Settings) : Text := settings.logLevel.map Char.toLower

def announce (threshold : Nat) (component : Component) (message : String) : String :=
  Log.shown threshold [.logged ⟨.info, component, message⟩]

/-! ### The API -/

structure ApiAddress where
  host : Text
  port : Int
  logLevel : Text
  deriving DecidableEq, Repr

def api (load : Settings.Loader) : Launched ApiAddress :=
  match load.start [] with
  | .error error => .failed error
  | .ok (settings, threshold) =>
    { result := .ok ⟨settings.apiHost, settings.effectivePort, levelName settings⟩
      errors := announce threshold .api (banner "API"
        ("host=" ++ String.ofList settings.apiHost ++ ", port=" ++ toString settings.effectivePort
          ++ ", oracle=" ++ settings.oracle)) }

/-! ### The tools -/

inductive ToolsAddress
  | standardStreams
  | network (transport host : Text) (port : Int) (logLevel : Text)
  deriving DecidableEq, Repr

def standardStreamsName : Text := "stdio".toList

def toolsAddress (settings : Settings) : ToolsAddress :=
  if settings.toolsTransport = standardStreamsName then .standardStreams
  else .network settings.toolsTransport settings.toolsHost settings.toolsPort (levelName settings)

def tools {τ : Type} (surroundings : Surroundings τ) (load : Settings.Loader) :
    Launched (Service τ × ToolsAddress) :=
  match load.start [] with
  | .error error => .failed error
  | .ok (settings, threshold) =>
    { result := match settings.buildService surroundings with
        | .error error => .error (.setup error)
        | .ok service => .ok (service, toolsAddress settings)
      errors := announce threshold .tools (banner "MCP"
        ("transport=" ++ String.ofList settings.toolsTransport ++ ", oracle="
          ++ settings.oracle)) }

def exitMessage? : StartError → Option String
  | .setup error => error.explanation?.map ("Cannot start: " ++ ·)
  | _ => none

end Culprit.Launch
