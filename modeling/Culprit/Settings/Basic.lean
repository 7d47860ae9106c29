import Culprit.Oracle.Failure

/-!
# Settings

What can be configured, with the values for what is not. Where the settings come from is left to a
loader, which is given the values that go before all others.
-/

namespace Culprit

structure Settings where
  logLevel : Text := "INFO".toList
  oracle : String := "lexical"
  completer : String := "structural"
  oracleUrl : Option Text := none
  oracleCommand : Option Text := none
  oracleTimeout : Float := 30.0
  apiHost : Text := "localhost".toList
  apiPort : Int := 8000
  port : Option Int := none
  toolsTransport : Text := "stdio".toList
  toolsHost : Text := "localhost".toList
  toolsPort : Int := 9000

namespace Settings

def usual : Settings := {}

def effectivePort (settings : Settings) : Int := settings.port.getD settings.apiPort

/-- A way to load the settings, some of which are given by their names. -/
abbrev Loader := List (Text × Text) → Except Exception Settings

end Settings
end Culprit
