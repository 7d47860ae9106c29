import Culprit.Oracle.Configured
import Culprit.Settings.LogThreshold

/-!
# Starting up

What the command and the servers have in common before they do their work: they load the settings,
find out which log records are to be shown, and build the service. Each step can fail, and the
first that does decides what is reported.
-/

namespace Culprit

inductive StartError
  | settings (exception : Exception)
  | unknownLevel (capitals : Text)
  | setup (error : SetupError)
  deriving DecidableEq, Repr

/-- The settings with the given values, and the number of the least serious level that is
logged. -/
def Settings.Loader.start (load : Settings.Loader) (values : List (Text × Text)) :
    Except StartError (Settings × Nat) := do
  let settings ← (load values).mapError .settings
  let threshold ← (Log.threshold settings.logLevel).mapError .unknownLevel
  return (settings, threshold)

end Culprit
