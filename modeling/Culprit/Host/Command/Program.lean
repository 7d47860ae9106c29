/-!
# Programs

The programs that verifier commands are made of.
-/

namespace Culprit.Command

inductive Program
  | shell
  | cat
  | grep
  | wc
  | printf
  | echo
  | sleep
  | succeed
  | fail
  deriving DecidableEq, Repr

namespace Program

def all : List Program := [.shell, .cat, .grep, .wc, .printf, .echo, .sleep, .succeed, .fail]

def name : Program → String
  | .shell => "sh"
  | .cat => "cat"
  | .grep => "grep"
  | .wc => "wc"
  | .printf => "printf"
  | .echo => "echo"
  | .sleep => "sleep"
  | .succeed => "true"
  | .fail => "false"

def ofName? (name : String) : Option Program := all.find? fun program => program.name == name

end Program
end Culprit.Command
