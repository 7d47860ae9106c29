/-!
# Kinds of oracle

The oracles that can be asked for by name, and what asking for another one says.
-/

namespace Culprit

inductive OracleKind
  | command
  | http
  | lexical
  deriving DecidableEq, Repr

namespace OracleKind

def all : List OracleKind := [.command, .http, .lexical]

def name : OracleKind → String
  | .command => "command"
  | .http => "http"
  | .lexical => "lexical"

def names : List String := all.map name

def ofName? (wanted : String) : Option OracleKind := all.find? fun kind => kind.name == wanted

def unknownMessage (wanted : String) : String :=
  "Unsupported oracle '" ++ wanted ++ "'. Available: " ++ ", ".intercalate names

theorem ofName?_name (kind : OracleKind) : ofName? kind.name = some kind := by
  cases kind <;> rfl

end OracleKind
end Culprit
