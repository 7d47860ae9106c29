import Culprit.Journal
import Culprit.Text.Quoted
import Culprit.Text.UpperCase

/-!
# The log

Which records of a journal are shown and how. The level is configured by its name in any case; a
record is shown on a line of its own if it is at least that serious.
-/

namespace Culprit.Log

def levels : List (String × Nat) :=
  [("CRITICAL", 50), ("FATAL", 50), ("ERROR", 40), ("WARN", 30), ("WARNING", 30), ("INFO", 20),
    ("DEBUG", 10), ("NOTSET", 0)]

def threshold (name : Text) : Except Text Nat :=
  let capitals := Text.toCapitals name
  match levels.find? fun entry => entry.1.toList == capitals with
  | some (_, severity) => .ok severity
  | none => .error capitals

def unknownLevelMessage (capitals : Text) : String :=
  "Unknown level: " ++ String.ofList (Text.quote capitals)

def render (record : LogRecord) : String :=
  record.level.name ++ ":" ++ record.component.loggerName ++ ":" ++ record.message ++ "\n"

def shown (threshold : Nat) (journal : Journal) : String :=
  String.join ((journal.records.filter fun record => threshold ≤ record.level.severity).map render)

end Culprit.Log
