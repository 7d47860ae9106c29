import Culprit.Cli.Help
import Culprit.Startup
import Culprit.Text.Utf8

/-!
# A run of the command

What the command does with its surroundings as a function: the arguments, the settings, the files,
the standard input and the verifiers decide what is written and with which status the command ends.
Status zero means that no fault was found, one that a fault was printed, and two that the command
could not do its work and says so. Some conditions it does not explain; then it breaks off. What it
is given is not looked into here: loading the settings, reading, verifying and printing may fail in
every way that they can.
-/

namespace Culprit.Cli

/-! ### What a run is given -/

inductive ReadError
  | system (error : SystemError)
  | other (exception : Exception)
  deriving DecidableEq, Repr

/-- A stream to print to. It may be missing, and it may refuse a text: because it has no form for a
character of it, or because nobody reads it any more. -/
inductive Sink
  | absent
  | present (refuses : String → Option Exception)

structure Console where
  output : Sink
  errors : Sink

structure Invocation (τ : Type) where
  arguments : List Text
  /-- The width of the lines of the help. -/
  width : Int
  load : Settings.Loader
  surroundings : Surroundings τ
  world : τ
  contents : Text → Except ReadError Bytes
  standardInput : Except ReadError Text
  console : Console

/-! ### What becomes of it -/

inductive Break
  | start (error : StartError)
  | reading (exception : Exception)
  | undecodable (error : Utf8.DecodeError)
  | closing (failure : Failure)
  | printing (exception : Exception)
  deriving DecidableEq, Repr

inductive Ending
  | exit (status : Nat)
  | broken (reason : Break)
  deriving DecidableEq, Repr

/-- A run: how it ended, what was printed, and the log, which goes to the stream of errors as well
and comes before them. -/
structure Run where
  ending : Ending
  output : String
  log : String
  errors : String
  deriving DecidableEq, Repr

def Run.broken (reason : Break) (log : String) : Run := ⟨.broken reason, "", log, ""⟩

/-! ### Printing -/

/-- What of a text is printed to a stream. Nothing is to one that is missing. -/
def Sink.print : Sink → String → Except Exception String
  | .absent, _ => .ok ""
  | .present refuses, text =>
    match refuses text with
    | none => .ok text
    | some exception => .error exception

/-- What of a text is printed to a stream if its objections do not count. -/
def Sink.offer (sink : Sink) (text : String) : String := (sink.print text).toOption.getD ""

/-- What a run has to say: an error, or the outcome of a search. -/
inductive Finding
  | error (message : String)
  | outcome (found : Option Fault)
  deriving DecidableEq, Repr

def Finding.text : Finding → String
  | .error message => "Error: " ++ message ++ "\n"
  | .outcome none => "No fault found.\n"
  | .outcome (some fault) => fault.render ++ "\n"

def Finding.status : Finding → Nat
  | .outcome none => 0
  | .outcome (some _) => 1
  | .error _ => 2

namespace Console

/-- The stream that a finding is printed to. An error goes to the output if there is no stream of
errors. -/
def streamFor (console : Console) : Finding → Sink
  | .outcome _ => console.output
  | .error _ =>
    match console.errors with
    | .absent => console.output
    | errors => errors

/-- Prints a finding and ends with its status. -/
def tell (console : Console) (log : String) (finding : Finding) : Run :=
  match (console.streamFor finding).print finding.text with
  | .error exception => .broken (.printing exception) log
  | .ok printed =>
    match finding, console.errors with
    | .error _, .present _ => ⟨.exit finding.status, "", log, printed⟩
    | _, _ => ⟨.exit finding.status, printed, log, ""⟩

/-- Prints a text about the command itself. It goes to the stream of errors if there is no
output. -/
def inform (console : Console) (text : String) : Run :=
  match console.output with
  | .absent => ⟨.exit 0, "", "", console.errors.offer text⟩
  | output => ⟨.exit 0, output.offer text, "", ""⟩

end Console

/-! ### The source -/

inductive SourceError
  | system (error : SystemError)
  | broken (reason : Break)
  deriving DecidableEq, Repr

def ReadError.sourceError : ReadError → SourceError
  | .system error => .system error
  | .other exception => .broken (.reading exception)

def decodeSource (bytes : Bytes) : Except SourceError Text :=
  match Utf8.decode bytes with
  | .ok text => .ok (Text.unifyLineEnds text)
  | .error error => .error (.broken (.undecodable error))

def standardInputName : Text := ['-']

variable {τ : Type}

/-- The source that a path names. The standard input comes as a text, a file as bytes. -/
def Invocation.source (invocation : Invocation τ) (input : Text) : Except SourceError Text :=
  if input = standardInputName then invocation.standardInput.mapError ReadError.sourceError
  else
    match invocation.contents input with
    | .ok bytes => decodeSource bytes
    | .error error => .error error.sourceError

def unreadable (input : Text) (error : SystemError) : String :=
  "cannot read " ++ String.ofList input ++ ": " ++ error.message

/-! ### The search -/

/-- A run that has closed the service. An oracle that fails to close breaks off the run, whatever it
has printed by then. -/
def Run.closing (run : Run) : Except Failure Unit → Run
  | .ok _ => run
  | .error failure => { run with ending := .broken (.closing failure) }

/-- Searches a source with a service, which is closed then, and says what was found. An error is
printed before the service is closed, an outcome only after that. -/
def Invocation.search (invocation : Invocation τ) (service : Service τ) (threshold : Nat)
    (source : Text) : Run :=
  let (found, session) := (service.locate source none).run (Session.start invocation.world)
  let (closed, session) := service.close.run session
  let log := Log.shown threshold session.journal
  match found with
  | .error error => (invocation.console.tell log (.error error.message)).closing closed
  | .ok found =>
    match closed with
    | .error failure => .broken (.closing failure) log
    | .ok _ => invocation.console.tell log (.outcome found)

/-! ### The run -/

def Check.values (check : Check) : List (Text × Text) :=
  let given (name : String) (value : Option String) : List (Text × Text) :=
    (value.map fun value => (name.toList, value.toList)).toList
  given "oracle" check.oracle ++ given "completer" check.completer

def Invocation.check (invocation : Invocation τ) (check : Check) : Run :=
  match invocation.load.start check.values with
  | .error error => .broken (.start error) ""
  | .ok (settings, threshold) =>
    match invocation.source check.input with
    | .error (.broken reason) => .broken reason ""
    | .error (.system error) => invocation.console.tell "" (.error (unreadable check.input error))
    | .ok source =>
      match settings.buildService invocation.surroundings with
      | .error error =>
        match error.explanation? with
        | some message => invocation.console.tell "" (.error message)
        | none => .broken (.start (.setup error)) ""
      | .ok service => invocation.search service threshold source

def Invocation.run (invocation : Invocation τ) : Run :=
  match Request.ofArguments invocation.arguments with
  | .error error =>
    ⟨.exit 2, "", "", invocation.console.errors.offer (error.text invocation.width)⟩
  | .ok .help => invocation.console.inform (helpText invocation.width)
  | .ok .version => invocation.console.inform versionText
  | .ok (.check check) => invocation.check check

end Culprit.Cli
