import Culprit.Cli.Run
import Culprit.Host.Oracle.Isolated
import Culprit.Host.Settings.Load
import Culprit.Proofs.Service.Startup

/-!
# How the command ends

A run of the command that gets something to check loads the settings, reads the source, builds the
service, searches, closes the service and says what it found. The command explains some of the
errors of these stages and breaks off at the others. So a status of its own does say what happened:
the source has no fault, a fault was printed, or an error was. But a run that breaks off ends with
the status of a fault as well, and without one. Nothing is assumed of what the run is given, so each
stage may fail in every way that its type has.
-/

namespace Culprit

namespace Cli

variable {τ : Type}

namespace Invocation

variable (invocation : Invocation τ)

/-! ### What a run comes to -/

/-- The source cannot be read, and not because of an error of the system, or it is no text. -/
inductive HasBrokenSource (input : Text) : Prop
  | standardInput {exception : Exception} (hinput : input = standardInputName)
      (hread : invocation.standardInput = .error (.other exception))
  | file {exception : Exception} (hinput : input ≠ standardInputName)
      (hread : invocation.contents input = .error (.other exception))
  | bytes {bytes : Bytes} {error : Utf8.DecodeError} (hinput : input ≠ standardInputName)
      (hread : invocation.contents input = .ok bytes) (hdecode : Utf8.decode bytes = .error error)

/-- The run gets as far as to its source, with these settings. -/
structure Starts (check : Check) (settings : Settings) (threshold : Nat) : Prop where
  load : invocation.load check.values = .ok settings
  level : Log.threshold settings.logLevel = .ok threshold

/-- The run gets as far as to a search of the source with the service. -/
structure Searches (check : Check) (threshold : Nat) (source : Text) (service : Service τ) :
    Prop where
  starts : ∃ settings, invocation.Starts check settings threshold ∧
    settings.buildService invocation.surroundings = .ok service
  source : invocation.source check.input = .ok source

/-- A search of the source with the service, in the world that the run begins in. -/
def located (service : Service τ) (source : Text) :
    Except LocateError (Option Fault) × Session τ :=
  (service.locate source none).run (.start invocation.world)

/-- What the run has to say: that its source cannot be read, that it has no service, that there is
nothing to search, or what the search found. -/
inductive Finds (check : Check) : Finding → Prop
  | unreadable {settings : Settings} {threshold : Nat} {error : SystemError}
      (hstarts : invocation.Starts check settings threshold)
      (hsource : invocation.source check.input = .error (.system error)) :
      Finds check (.error (unreadable check.input error))
  | unsupported {settings : Settings} {threshold : Nat} {source : Text} {error : SetupError}
      {message : String} (hstarts : invocation.Starts check settings threshold)
      (hsource : invocation.source check.input = .ok source)
      (hservice : settings.buildService invocation.surroundings = .error error)
      (hexplained : error.explanation? = some message) : Finds check (.error message)
  | unsearched {threshold : Nat} {source : Text} {service : Service τ} {error : LocateError}
      (hsearches : invocation.Searches check threshold source service)
      (hlocated : (invocation.located service source).1 = .error error) :
      Finds check (.error error.message)
  | searched {threshold : Nat} {source : Text} {service : Service τ} {found : Option Fault}
      (hsearches : invocation.Searches check threshold source service)
      (hlocated : (invocation.located service source).1 = .ok found) :
      Finds check (.outcome found)

/-- What the command does not explain: settings that cannot be loaded or name an unknown log level,
a source that cannot be read for another reason than the system's or is no text, a verifier that is
broken before it is asked or breaks when it is closed, and a stream that refuses what the run has to
say. -/
inductive Unexplained (check : Check) : Prop
  | settings {exception : Exception} (hload : invocation.load check.values = .error exception)
  | level {settings : Settings} {capitals : Text}
      (hload : invocation.load check.values = .ok settings)
      (hlevel : Log.threshold settings.logLevel = .error capitals)
  | source {settings : Settings} {threshold : Nat}
      (hstarts : invocation.Starts check settings threshold)
      (hsource : invocation.HasBrokenSource check.input)
  | oracle {settings : Settings} {threshold : Nat} {source : Text}
      (hstarts : invocation.Starts check settings threshold)
      (hsource : invocation.source check.input = .ok source)
      (horacle : settings.HasBrokenOracle invocation.surroundings)
  | closing {threshold : Nat} {source : Text} {service : Service τ} {failure : Failure}
      (hsearches : invocation.Searches check threshold source service)
      (hclosed : (service.close.run (invocation.located service source).2).1 = .error failure)
  | printing {finding : Finding} {exception : Exception} (hfinds : invocation.Finds check finding)
      (hrefused : (invocation.console.streamFor finding).print finding.text = .error exception)

/-- A run that says what happened. What is printed is the whole text, or nothing if the stream for
it is missing; an error is printed to the output if there is no stream of errors. -/
inductive Reports (check : Check) : Run → Prop
  | noFault {printed : String} (log : String) (hfinds : invocation.Finds check (.outcome none))
      (hprinted : invocation.console.output.print "No fault found.\n" = .ok printed) :
      Reports check ⟨.exit 0, printed, log, ""⟩
  | fault {printed : String} (log : String) (fault : Fault)
      (hfinds : invocation.Finds check (.outcome (some fault)))
      (hprinted : invocation.console.output.print (fault.render ++ "\n") = .ok printed) :
      Reports check ⟨.exit 1, printed, log, ""⟩
  | error {printed : String} (log message : String)
      (hfinds : invocation.Finds check (.error message))
      (herrors : invocation.console.errors ≠ .absent)
      (hprinted : invocation.console.errors.print ("Error: " ++ message ++ "\n") = .ok printed) :
      Reports check ⟨.exit 2, "", log, printed⟩
  | errorAsOutput {printed : String} (log message : String)
      (hfinds : invocation.Finds check (.error message))
      (herrors : invocation.console.errors = .absent)
      (hprinted : invocation.console.output.print ("Error: " ++ message ++ "\n") = .ok printed) :
      Reports check ⟨.exit 2, printed, log, ""⟩

/-! ### Reading the source -/

variable {invocation}

theorem exists_of_sourceError_eq_broken {error : ReadError} {reason : Break}
    (h : error.sourceError = .broken reason) : ∃ exception, error = .other exception := by
  cases error with
  | system error => cases h
  | other exception => exact ⟨exception, rfl⟩

theorem hasBrokenSource_iff {input : Text} :
    invocation.HasBrokenSource input ↔
      ∃ reason, invocation.source input = .error (.broken reason) := by
  constructor
  · rintro (⟨rfl, hread⟩ | ⟨hinput, hread⟩ | ⟨hinput, hread, hdecode⟩)
    · exact ⟨_, by rw [source, if_pos rfl, hread]; rfl⟩
    · exact ⟨_, by rw [source, if_neg hinput, hread]; rfl⟩
    · exact ⟨_, by rw [source, if_neg hinput, hread]; simp only [decodeSource, hdecode]; rfl⟩
  · rintro ⟨reason, hsource⟩
    by_cases hinput : input = standardInputName
    · rw [source, if_pos hinput] at hsource
      cases hread : invocation.standardInput with
      | ok text =>
        rw [hread] at hsource
        cases hsource
      | error error =>
        rw [hread] at hsource
        obtain ⟨exception, rfl⟩ := exists_of_sourceError_eq_broken (Except.error.inj hsource)
        exact .standardInput hinput hread
    · rw [source, if_neg hinput] at hsource
      cases hread : invocation.contents input with
      | error error =>
        simp only [hread] at hsource
        obtain ⟨exception, rfl⟩ := exists_of_sourceError_eq_broken (Except.error.inj hsource)
        exact .file hinput hread
      | ok bytes =>
        simp only [hread, decodeSource] at hsource
        cases hdecode : Utf8.decode bytes with
        | ok text =>
          rw [hdecode] at hsource
          cases hsource
        | error error => exact .bytes hinput hread hdecode

/-! ### The stages of a run -/

variable {check : Check} {settings : Settings} {threshold : Nat} {source : Text}
  {service : Service τ}

theorem Starts.start_eq (h : invocation.Starts check settings threshold) :
    invocation.load.start check.values = .ok (settings, threshold) := by
  rw [Settings.Loader.start_of_load h.load, h.level]
  rfl

/-- What is left of a run with a service is to search, to close the service and to say what was
found. -/
theorem Searches.exists_check_eq (h : invocation.Searches check threshold source service) :
    ∃ log, invocation.check check =
      match (invocation.located service source).1 with
      | .error error => (invocation.console.tell log (.error error.message)).closing
          (service.close.run (invocation.located service source).2).1
      | .ok found =>
        match (service.close.run (invocation.located service source).2).1 with
        | .error failure => .broken (.closing failure) log
        | .ok _ => invocation.console.tell log (.outcome found) := by
  obtain ⟨⟨settings, hstarts, hservice⟩, hsource⟩ := h
  simp only [Invocation.check, hstarts.start_eq, hsource, hservice]
  exact ⟨_, rfl⟩

theorem tell_of_refused {console : Console} {finding : Finding} {exception : Exception}
    (h : (console.streamFor finding).print finding.text = .error exception) (log : String) :
    console.tell log finding = .broken (.printing exception) log := by
  rw [Console.tell, h]

/-- A finding that is not refused is reported. -/
theorem reports_tell {finding : Finding} (hfinds : invocation.Finds check finding)
    {printed : String}
    (hprinted : (invocation.console.streamFor finding).print finding.text = .ok printed)
    (log : String) : invocation.Reports check (invocation.console.tell log finding) := by
  rw [Console.tell, hprinted]
  rcases finding with message | _ | fault
  · rw [Console.streamFor] at hprinted
    cases herrors : invocation.console.errors with
    | absent =>
      rw [herrors] at hprinted
      exact .errorAsOutput log message hfinds herrors hprinted
    | present refuses =>
      rw [herrors] at hprinted
      exact .error log message hfinds (by simp [herrors]) (by rw [herrors]; exact hprinted)
  · exact .noFault log hfinds hprinted
  · exact .fault log fault hfinds hprinted

/-- A finding is reported, unless it is refused. -/
theorem unexplained_or_reports_tell {finding : Finding} (hfinds : invocation.Finds check finding)
    (log : String) :
    invocation.Unexplained check ∨
      invocation.Reports check (invocation.console.tell log finding) := by
  cases hprinted : (invocation.console.streamFor finding).print finding.text with
  | error exception => exact .inl (.printing hfinds hprinted)
  | ok printed => exact .inr (reports_tell hfinds hprinted log)

theorem unexplained_or_reports_of_searches
    (h : invocation.Searches check threshold source service) :
    invocation.Unexplained check ∨ invocation.Reports check (invocation.check check) := by
  obtain ⟨log, hcheck⟩ := h.exists_check_eq
  rw [hcheck]
  cases hclosed : (service.close.run (invocation.located service source).2).1 with
  | error failure => exact .inl (.closing h hclosed)
  | ok _ =>
    cases hlocated : (invocation.located service source).1 with
    | error error => exact unexplained_or_reports_tell (.unsearched h hlocated) log
    | ok found => exact unexplained_or_reports_tell (.searched h hlocated) log

/-- Stage by stage, a run meets something that the command does not explain, or reports. -/
theorem unexplained_or_reports (check : Check) :
    invocation.Unexplained check ∨ invocation.Reports check (invocation.check check) := by
  cases hload : invocation.load check.values with
  | error exception => exact .inl (.settings hload)
  | ok settings =>
    cases hlevel : Log.threshold settings.logLevel with
    | error capitals => exact .inl (.level hload hlevel)
    | ok threshold =>
      have hstarts : invocation.Starts check settings threshold := ⟨hload, hlevel⟩
      rcases hsource : invocation.source check.input with (error | reason) | source
      · simp only [Invocation.check, hstarts.start_eq, hsource]
        exact unexplained_or_reports_tell (.unreadable hstarts hsource) ""
      · exact .inl (.source hstarts (hasBrokenSource_iff.mpr ⟨reason, hsource⟩))
      · cases hservice : settings.buildService invocation.surroundings with
        | error error =>
          cases hexplained : error.explanation? with
          | none =>
            have horacle := Settings.hasBrokenOracle_iff.mpr ⟨error, hservice, hexplained⟩
            exact .inl (.oracle hstarts hsource horacle)
          | some message =>
            simp only [Invocation.check, hstarts.start_eq, hsource, hservice, hexplained]
            exact unexplained_or_reports_tell (.unsupported hstarts hsource hservice hexplained) ""
        | ok service =>
          exact unexplained_or_reports_of_searches ⟨⟨settings, hstarts, hservice⟩, hsource⟩

/-- A finding that is refused breaks off the run that has it. -/
theorem ending_of_refused {finding : Finding} (hfinds : invocation.Finds check finding)
    {exception : Exception}
    (hrefused : (invocation.console.streamFor finding).print finding.text = .error exception) :
    ∃ reason, (invocation.check check).ending = .broken reason := by
  cases hfinds with
  | unreadable hstarts hsource =>
    simp only [Invocation.check, hstarts.start_eq, hsource, tell_of_refused hrefused]
    exact ⟨_, rfl⟩
  | unsupported hstarts hsource hservice hexplained =>
    simp only [Invocation.check, hstarts.start_eq, hsource, hservice, hexplained,
      tell_of_refused hrefused]
    exact ⟨_, rfl⟩
  | @unsearched threshold source service error hsearches hlocated =>
    obtain ⟨log, hcheck⟩ := hsearches.exists_check_eq
    rw [hcheck]
    simp only [hlocated, tell_of_refused hrefused]
    -- Closing the service may break off the run for a reason of its own.
    cases (service.close.run (invocation.located service source).2).1 with
    | error failure => exact ⟨_, rfl⟩
    | ok _ => exact ⟨_, rfl⟩
  | @searched threshold source service found hsearches hlocated =>
    obtain ⟨log, hcheck⟩ := hsearches.exists_check_eq
    rw [hcheck]
    simp only [hlocated, tell_of_refused hrefused]
    cases (service.close.run (invocation.located service source).2).1 with
    | error failure => exact ⟨_, rfl⟩
    | ok _ => exact ⟨_, rfl⟩

/-- What the command does not explain breaks off the run. -/
theorem Unexplained.ending_eq (h : invocation.Unexplained check) :
    ∃ reason, (invocation.check check).ending = .broken reason := by
  cases h with
  | @settings exception hload =>
    have hstart : invocation.load.start check.values = .error (.settings exception) := by
      rw [Settings.Loader.start, hload]
      rfl
    exact ⟨_, by simp only [Invocation.check, hstart]; rfl⟩
  | @level settings capitals hload hlevel =>
    have hstart : invocation.load.start check.values = .error (.unknownLevel capitals) := by
      rw [Settings.Loader.start_of_load hload, hlevel]
      rfl
    exact ⟨_, by simp only [Invocation.check, hstart]; rfl⟩
  | source hstarts hbroken =>
    obtain ⟨reason, hsource⟩ := hasBrokenSource_iff.mp hbroken
    exact ⟨reason, by simp only [Invocation.check, hstarts.start_eq, hsource]; rfl⟩
  | oracle hstarts hsource horacle =>
    obtain ⟨error, hservice, hexplained⟩ := Settings.hasBrokenOracle_iff.mp horacle
    exact ⟨.start (.setup error), by
      simp only [Invocation.check, hstarts.start_eq, hsource, hservice, hexplained]; rfl⟩
  | @closing threshold source service failure hsearches hclosed =>
    obtain ⟨log, hcheck⟩ := hsearches.exists_check_eq
    rw [hcheck]
    simp only [hclosed]
    cases (invocation.located service source).1 with
    | error error => exact ⟨_, rfl⟩
    | ok found => exact ⟨_, rfl⟩
  | printing hfinds hrefused => exact ending_of_refused hfinds hrefused

theorem Reports.ending_ne {run : Run} (h : invocation.Reports check run) (reason : Break) :
    run.ending ≠ .broken reason := by
  cases h <;> simp

/-- **How a run with something to check ends.** It breaks off exactly when something is wrong that
the command does not explain. In every other case it ends with a status of its own: status zero
stands for a source without a fault, status one for a fault that was located in the source and
printed, and status two for an error that was written. The settings and the source that the run is
given, the verifiers and the streams are arbitrary. -/
theorem run_of_check (hrequest : Request.ofArguments invocation.arguments = .ok (.check check)) :
    (invocation.Unexplained check ∧ ∃ reason, invocation.run.ending = .broken reason) ∨
      (¬invocation.Unexplained check ∧ invocation.Reports check invocation.run) := by
  have hrun : invocation.run = invocation.check check := by
    rw [run, hrequest]
  rw [hrun]
  by_cases hunexplained : invocation.Unexplained check
  · exact .inl ⟨hunexplained, hunexplained.ending_eq⟩
  · exact .inr ⟨hunexplained, (unexplained_or_reports check).resolve_left hunexplained⟩

end Invocation

/-! ### Runs on a file -/

/-- A stream that takes every text. -/
def openSink : Sink := .present fun _ => none

/-- A stream that has forms for the characters of ASCII only. -/
def asciiSink : Sink := .present fun text =>
  if text.toList.all (·.toNat < 128) then none
  else some ⟨"UnicodeEncodeError", "ordinal not in range(128)", []⟩

/-- The check of a file with the given bytes, in an environment with the given variables, with the
given output. -/
def fileInvocation (environment : List (Text × Text)) (bytes : Bytes) (output : Sink) :
    Invocation (Http.Connection Unit) where
  arguments := ["rules.drl".toList]
  width := 78
  load := (Configuration.mk environment none).loader
  surroundings := .isolated .bare
  world := .fresh
  contents _ := .ok bytes
  standardInput := .ok []
  console := ⟨output, openSink⟩

/-- A stray `end` is reported with status one, and a byte that begins no character breaks the run
off. -/
theorem run_of_check_fileInvocation :
    (∃ fault log, (fileInvocation [] (Utf8.encode "end".toList) openSink).Finds
        ⟨"rules.drl".toList, none, none⟩ (.outcome (some fault)) ∧
      (fileInvocation [] (Utf8.encode "end".toList) openSink).run =
        ⟨.exit 1, fault.render ++ "\n", log, ""⟩) ∧
      (fileInvocation [] [0xFF] openSink).Unexplained ⟨"rules.drl".toList, none, none⟩ := by
  constructor
  · have hstray : (fileInvocation [] (Utf8.encode "end".toList) openSink).run.ending = .exit 1 := by
      decide +kernel
    have hends := (fileInvocation [] (Utf8.encode "end".toList) openSink).run_of_check rfl
    generalize (fileInvocation [] (Utf8.encode "end".toList) openSink).run = run at hstray hends ⊢
    rcases hends with ⟨-, reason, hbroken⟩ | ⟨-, hreports⟩
    · cases hstray.symm.trans hbroken
    · cases hreports with
      | noFault log hfinds hprinted => cases hstray
      | fault log fault hfinds hprinted =>
        obtain rfl := Except.ok.inj hprinted
        exact ⟨fault, log, hfinds, rfl⟩
      | error log message hfinds herrors hprinted => cases hstray
      | errorAsOutput log message hfinds herrors hprinted => cases hstray
  · have hbyte : (fileInvocation [] [0xFF] openSink).run.ending =
        .broken (.undecodable ⟨.invalidStart, 0, [0xFF]⟩) := by decide +kernel
    have hends := (fileInvocation [] [0xFF] openSink).run_of_check rfl
    rcases hends with ⟨hunexplained, -⟩ | ⟨-, hreports⟩
    · exact hunexplained
    · exact absurd hbyte (hreports.ending_ne _)

/-- A run with something to check breaks off for a file that is no text, for a log level that does
not exist, for a port that is no number, for a verifier command with a quote that is not closed, and
for a fault that the output has no form for. -/
theorem run_fileInvocation_broken :
    Request.ofArguments ["rules.drl".toList] = .ok (.check ⟨"rules.drl".toList, none, none⟩) ∧
      (fileInvocation [] [0xFF] openSink).run.ending =
        .broken (.undecodable ⟨.invalidStart, 0, [0xFF]⟩) ∧
      (fileInvocation [("LOG_LEVEL".toList, "loud".toList)] [] openSink).run.ending =
        .broken (.start (.unknownLevel "LOUD".toList)) ∧
      (fileInvocation [("PORT".toList, "x".toList)] [] openSink).run.ending =
        .broken (.start (.settings
          ⟨"ValidationError", "", [⟨[.field "port"], .intParsing⟩]⟩)) ∧
      (fileInvocation [("ORACLE".toList, "command".toList),
          ("ORACLE_COMMAND".toList, "verify '".toList)] [] openSink).run.ending =
        .broken (.start (.setup (.failed .unclosedQuotation))) ∧
      (fileInvocation [] (Utf8.encode "end é".toList) asciiSink).run.ending =
        .broken (.printing ⟨"UnicodeEncodeError", "ordinal not in range(128)", []⟩) :=
  ⟨rfl, by decide +kernel⟩

end Cli
end Culprit
