import Culprit.Host.Command.Execution
import Culprit.Host.Shell.Expansion
import Culprit.Host.Shell.Invocation
import Culprit.Host.Shell.Reader
import Culprit.Host.Shell.Redirect
import Culprit.Host.Shell.Start

/-!
# Running scripts

Words run scripts, scripts expand words, and both may start another shell, so all that is one
recursion. Each step down takes a unit of fuel; a script that goes deeper than that has run out of
memory. What a script does in a copy of the shell leaves the shell as it was, except for its exit
status; what it does to files and channels stays.
-/

namespace Culprit.Shell

open Command Act

/-- How often a loop is run at most. -/
def turnLimit : Nat := 50000

def memorySignal : Nat := 11

def tooDeep {α : Type} : Act α := throw (.killed memorySignal)

def Script.isEmpty : Script → Bool
  | .nothing => true
  | .sequence [] => true
  | _ => false

def enterLine (line : Nat) : Act Unit := change fun shell => { shell with line }

/-- Leaves the script if a command has failed and the script is to end then. A command whose failure
is tested for does not count. -/
def checkFailure (isTested : Bool) : Act Unit := do
  if !isTested && (← shell).status != 0 && (← hasOption 'e') then throw .left

def turn (action : Act Unit) : Act Bool := do
  match ← attempt action with
  | .ok () => return true
  | .error (.skipped isBreak loops) =>
    if 1 < loops then throw (.skipped isBreak (loops - 1)) else return !isBreak
  | .error stop => throw stop

def inLoop (action : Act Unit) : Act Unit := do
  let depth := (← shell).loopDepth
  change fun shell => { shell with loopDepth := depth + 1 }
  restoring action fun shell => { shell with loopDepth := depth }

def bindFor (name value : Octets) : Act Unit := do
  bind name value
  match ← binding? name with
  | some binding => setVariable name (some { binding with isExported := true })
  | none => return ()

def restoreLocals (shell : State) : State :=
  shell.locals.foldl (fun shell (name, binding) =>
    let others := shell.bindings.filter fun entry => entry.1 != name
    { shell with bindings := match binding with
      | some binding => (name, binding) :: others
      | none => others }) shell

/-- The parts of a shell that only it has and no copy of it: what it does at signals, except that it
may not heed them, and the processes that it left running. -/
def forgetOwn (shell : State) : State :=
  { shell with
    traps := shell.traps.filter fun entry => entry.2.isEmpty
    signals := []
    jobs := [] }

/-- Whether a script that is not waited for may go on writing to where the shell writes. -/
def Script.holdsOutput (script : Script) : Bool :=
  let redirections := match script with
    | .simple _ _ _ redirections => redirections
    | .redirected _ _ redirections => redirections
    | .subshell _ _ redirections => redirections
    | _ => []
  let streams := redirections.map Redirection.stream
  !(streams.contains 1 && streams.contains 2)

def writeEffect (name : Octets) (effect : Effect) : Act Nat := do
  let mut succeeds := true
  for (stream, octets) in effect.writes do
    let written ← write (if stream == .output then 1 else 2) octets
    if !written && stream == .output then succeeds := false
  if succeeds then return effect.status
  else do
    let reason := if (← channelOf? 1).isSome then "No space left on device"
      else "Bad file descriptor"
    let _ ← write 2 (name ++ (": write error: " ++ reason ++ "\n").toList)
    return max 1 effect.status

def runProgram (program : Program) (arguments : List Octets) : Act Unit := do
  let channel ← channelOf? 0
  let input ← match channel with
    | some number => rest? number
    | none => pure none
  let channels := (← world).channels
  let isFile := match channel.bind (fun number => channels[number]?) with
    | some (.file _ _ _) => true
    | _ => false
  let tree := (← world).tree
  let charset := Charset.ofEnvironment (environmentOf (← shell))
  let effect := program.run ⟨charset, input.getD [], isFile, tree.read⟩ arguments
  match channel with
  | some number => if effect.readsInput then skip number (input.getD []).length
  | none => pure ()
  let status ← writeEffect program.name.toList effect
  changeWorld fun world => { world with clock := world.clock + effect.seconds }
  finish status

def emitEffect (effect : Effect) : Act Unit := do
  let _ ← write 2 (effect.written .errors)
  emit (effect.written .output) effect.status

def ownWriter : Act Writer := do
  let shell ← shell
  return .shell (shell.name ++ (": " ++ toString shell.line ++ ": ").toList)

def describeCommands (arguments : List Octets) : Act Unit := do
  let (options, names) ← readOptions "pvV" "" arguments
  match (options.filter fun option => option.1 != 'p').getLast?, names with
  | some (letter, _), name :: _ => do
    let (text, isKnown) ← describe (letter == 'V') name
    emit text (if isKnown then 0 else 127)
  | _, _ => finish 0

/-- The file that a script takes its commands from: a path, or a name that is looked for where
programs are. -/
def findScript (name : Octets) : Act Octets := do
  if name.contains '/' then return name
  else do
    let tree := (← world).tree
    let directories := ((← value? "PATH".toList).getD []).splitOn ':'
    let candidates := directories.map fun directory =>
      if directory.isEmpty then name else directory ++ ['/'] ++ name
    let isFile (path : Octets) : Bool :=
      match tree.find path with
      | .ok (.file _) => true
      | _ => false
    match candidates.find? isFile with
    | some path => return path
    | none => fail (name ++ ": not found".toList)

mutual

def expandWord : Nat → ExpansionMode → Word → Act Expanded
  | 0, _, _ => tooDeep
  | fuel + 1, mode, word => do
    let mut expanded : Expanded := []
    for (piece, index) in word.zipIdx do
      let isLast := index + 1 == word.length
      expanded := expanded ++ (← expandPiece fuel mode (index == 0) isLast piece)
    return expanded

/-- Expands a piece of a word, which may be the first or the last one. -/
def expandPiece : Nat → ExpansionMode → Bool → Bool → Piece → Act Expanded
  | 0, _, _, _, _ => tooDeep
  | fuel + 1, mode, isFirst, isLast, piece => do
    let inQuotes : ExpansionMode := { mode with isQuoted := true, tildes := .nowhere }
    match piece with
    | .plain characters =>
      if mode.isQuoted then return .region .fixed true characters
      else
        let kind := if mode.standsIn then RegionKind.cut else .fixed
        expandTildes mode kind isLast characters.length.succ
          (isFirst && mode.tildes == .atStart) (!isFirst) characters
    | .literal characters => return .region .fixed true characters
    | .quoted [.value .all .none] => expandValue fuel inQuotes .all .none
    | .quoted pieces => return ⟨.fixed, [.mark]⟩ :: (← expandWord fuel inQuotes pieces)
    | .value parameter change => expandValue fuel mode parameter change
    | .output script => return resultRegion mode (← outputOf fuel script)
    | .sum expression => do
      let text := (← expandWord fuel .document expression).toOctets
      let bindings := (← shell).bindings
      match evaluateSum (fun name => (bindings.lookup name).bind Variable.value) text with
      | .ok (value, assigned) => do
        for (name, number) in assigned.reverse do
          bind name (toString number).toList
        return resultRegion mode (toString value).toList
      | .error error => fail (error.message text)

def expandValue : Nat → ExpansionMode → Parameter → Change → Act Expanded
  | 0, _, _, _ => tooDeep
  | fuel + 1, mode, parameter, change => do
    let isSize := match change with
      | .size => true
      | _ => false
    let separator ← separatorOf parameter { mode with cuts := mode.cuts && !isSize }
    let value ← textOf? parameter separator
    let complain {α : Type} (reason : Octets) : Act α :=
      fail (parameter.spelling ++ ": ".toList ++ reason)
    let required : Act Octets := do
      match value with
      | some value => return value
      | none =>
        if ← hasOption 'u' then complain "parameter not set".toList else return []
    match change with
    | .invalid => fail "Bad substitution".toList
    | .none => valueRegion parameter mode (← required)
    | .size => return resultRegion mode (toString (← required).length).toList
    | .trim atEnd isLongest word => do
      let text ← required
      if value.isNone then return []
      else do
        let pattern := Glob.pattern (← expandWord fuel .text word).toGlyphs
        let trimmed := if atEnd then Glob.trimBack isLongest pattern text
          else Glob.trimFront isLongest pattern text
        valueRegion parameter mode trimmed
    | .substitute kind whenEmpty word => do
      let present := value.filter fun value => !(whenEmpty && value.isEmpty)
      let standIn : ExpansionMode := { mode with
        standsIn := true
        tildes := if mode.isQuoted then .nowhere else .atStart }
      match kind, present with
      | .replacement, none => return []
      | .replacement, some _ => expandWord fuel standIn word
      | _, some value => valueRegion parameter mode value
      | .fallback, none => expandWord fuel standIn word
      | .assignment, none => do
        let value := (← expandWord fuel .text word).toOctets
        checkName parameter.spelling
        bind parameter.spelling value
        valueRegion parameter mode value
      | .complaint, none => do
        let reason := (← expandWord fuel .text word).toOctets
        if !word.isEmpty then complain reason
        else if whenEmpty then complain "parameter not set or null".toList
        else complain "parameter not set".toList

def outputOf : Nat → Script → Act Octets
  | 0, _ => tooDeep
  | fuel + 1, script => do
    if script.isEmpty then return []
    else do
      let sink ← addChannel (.sink [])
      let status := (← shell).status
      runCopy fuel do
        connect 1 sink
        run fuel false script
      change fun shell => { shell with status, wordStatus := shell.status }
      let written := match (← world).channels[sink]? with
        | some (.sink written) => written
        | _ => []
      setChannel sink .null
      return ((written.dropWhile (· == '\n')).reverse).filter (· != '\x00')

def expandFields : Nat → Word → Act (List Octets)
  | 0, _ => tooDeep
  | fuel + 1, word => do
    let fields := cutFields (← separators) none (← expandWord fuel .fields word)
    let mut paths : List (List Octets) := []
    for field in fields do
      paths := (← expandPaths field) :: paths
    return paths.reverse.flatten

def expandText : Nat → ExpansionMode → Word → Act Octets
  | 0, _, _ => tooDeep
  | fuel + 1, mode, word => return (← expandWord fuel mode word).toOctets

def findTargets : Nat → List Redirection → Act (List (Nat × Target))
  | 0, _ => tooDeep
  | fuel + 1, redirections => do
    let mut targets : List (Nat × Target) := []
    for redirection in redirections do
      let target ← match redirection with
        | .opened _ mode file => Target.opened mode <$> expandText fuel .text file
        | .copied _ other => do
          let name ← expandText fuel .text other
          Target.copied <$> otherStream name
        | .document _ number => do
          let documents := (← shell).documents
          pure (Target.document ((documents.lookup number).getD []))
      targets := (redirection.stream, target) :: targets
    return targets.reverse

/-- Lets streams lead to targets. Says whether that succeeded. -/
def redirect : Nat → List (Nat × Target) → Act Bool
  | 0, _ => tooDeep
  | _, [] => return true
  | fuel + 1, (stream, target) :: rest => do
    let succeeds ← match target with
      | .opened mode path => openFile stream mode path
      | .copied other => copyStream stream other
      | .document text =>
        match ← attempt (expandText fuel .document text) with
        | .ok octets => do
          connect stream (← addChannel (.source octets))
          pure true
        | .error .failed => pure false
        | .error stop => throw stop
    if succeeds then redirect fuel rest else return false

/-- Runs a script. A failure that is tested for does not end it. -/
def run : Nat → Bool → Script → Act Unit
  | 0, _, _ => tooDeep
  | fuel + 1, isTested, script => do
    if ← hasOption 'n' then return ()
    handleSignals fuel
    match script with
    | .nothing => finish 0
    | .simple line assignments words redirections => do
      enterLine line
      runSimple fuel isTested assignments words redirections
      checkFailure isTested
    | .redirected line body redirections => do
      enterLine line
      let targets ← findTargets fuel redirections
      let streams := (← shell).streams
      let action : Act Unit := do
        if ← redirect fuel targets then run fuel isTested body else finish 2
      restoring action fun shell => { shell with streams }
    | .subshell line body redirections => do
      enterLine line
      let targets ← findTargets fuel redirections
      runCopy fuel do
        if ← redirect fuel targets then run fuel isTested body else finish 2
      checkFailure isTested
    | .background body => do
      let start := (← world).clock
      let number := (← world).nextProcess
      let before := (← shell).status
      changeWorld fun world => { world with nextProcess := number + 1 }
      runCopy fuel do
        connect 0 (← addChannel .null)
        run fuel false body
      let finished := (← world).clock
      let status := (← shell).status
      changeWorld fun world => { world with
        clock := start
        lingering := if body.holdsOutput then (number, finished) :: world.lingering
          else world.lingering }
      change fun shell => { shell with
        status := before
        jobs := (number, finished, status) :: shell.jobs
        background := some number }
      finish 0
    | .pipe parts => do
      runPipe fuel isTested parts
      checkFailure isTested
    | .negated body => do
      run fuel true body
      finish (if (← shell).status = 0 then 1 else 0)
    | .onSuccess first second => do
      run fuel true first
      if (← shell).status = 0 then run fuel isTested second
    | .onFailure first second => do
      run fuel true first
      if (← shell).status != 0 then run fuel isTested second
    | .sequence parts =>
      for part in parts do
        run fuel isTested part
    | .branch condition thenPart elsePart => do
      run fuel true condition
      if (← shell).status = 0 then run fuel isTested thenPart else run fuel isTested elsePart
    | .loop isUntil condition body => inLoop do
      let step (status : Nat) : Act (Option Nat) := do
        if ← turn (run fuel true condition) then
          let succeeds := (← shell).status == 0
          if succeeds == isUntil then do
            finish status
            return none
          else do
            let goesOn ← turn (run fuel isTested body)
            let status := (← shell).status
            return if goesOn then some status else none
        else do
          finish status
          return none
      iterate step turnLimit 0
    | .each line name words body => do
      enterLine line
      let mut groups : List (List Octets) := []
      for word in words do
        groups := (← expandFields fuel word) :: groups
      let fields := groups.reverse.flatten
      if fields.isEmpty then finish 0
      else inLoop do
        for field in fields do
          bind name field
          if !(← turn (run fuel isTested body)) then break
    | .choice line subject alternatives => do
      enterLine line
      let text ← expandText fuel .text subject
      match ← findAlternative fuel text alternatives with
      | none => finish 0
      | some body => if body.isEmpty then finish 0 else run fuel isTested body
    | .function _ name body => do
      change fun shell => { shell with
        functions := (name, body) :: shell.functions.filter fun entry => entry.1 != name }
      finish 0
    handleSignals fuel

def findAlternative : Nat → Octets → List Alternative → Act (Option Script)
  | 0, _, _ => tooDeep
  | _, _, [] => return none
  | fuel + 1, text, .fitting patterns body :: rest => do
    let mut fits := false
    for pattern in patterns do
      if !fits then
        fits := (Glob.pattern (← expandWord fuel .text pattern).toGlyphs).accepts text
    if fits then return some body else findAlternative fuel text rest

def handleSignals : Nat → Act Unit
  | 0 => tooDeep
  | fuel + 1 => do
    let shell ← shell
    if shell.signals.isEmpty then return ()
    else do
      change fun shell => { shell with signals := [] }
      for signal in (shell.signals.mergeSort).eraseDups do
        match shell.traps.lookup signal with
        | none => pure ()
        | some action => do
          let status := shell.statusBefore.getD shell.status
          change fun shell => { shell with statusBefore := some status }
          restoring (runText fuel false action) fun after =>
            { after with statusBefore := shell.statusBefore }
          finish status

/-- Runs what has to be done at the end of a script. The exit status of the script stays unless that
leaves the script with another one. -/
def runExitTrap : Nat → Act Unit
  | 0 => tooDeep
  | fuel + 1 => do
    match (← shell).traps.lookup 0 with
    | none => return ()
    | some action => do
      let status := (← shell).status
      change fun shell => { shell with
        traps := shell.traps.filter fun entry => entry.1 != 0
        statusBefore := some status }
      match ← attempt (runText fuel false action) with
      | .ok () => finish status
      | .error (.skipped _ _) => finish status
      | .error .returned => finish status
      | .error .left => return ()
      | .error .failed => return ()
      | .error stop => throw stop

/-- Runs an action to its end, and then what has to be done at the end of the script. -/
def runToEnd : Nat → Act Unit → Act Unit
  | 0, _ => tooDeep
  | fuel + 1, action => do
    match ← attempt action with
    | .error (.killed signal) => throw (.killed signal)
    | .error .endless => throw .endless
    | _ => runExitTrap fuel

def runCopy : Nat → Act Unit → Act Unit
  | 0, _ => tooDeep
  | fuel + 1, action => do
    let outer ← shell
    let place := (← world).tree.place
    change forgetOwn
    runToEnd fuel action
    let status := (← shell).status % 256
    change fun _ => { outer with status }
    changeWorld fun world => { world with tree := { world.tree with place } }

/-- Runs parts that are joined by pipes. They begin at the same time, and the last one to end ends
the pipe. -/
def runPipe : Nat → Bool → List Script → Act Unit
  | 0, _, _ => tooDeep
  | fuel + 1, isTested, parts => do
    let start := (← world).clock
    let before := (← shell).status
    let mut finished := start
    let mut status := 0
    let mut source : Option Nat := none
    for (part, index) in parts.zipIdx do
      let input := source
      let sink ← addChannel (.sink [])
      changeWorld fun world => { world with clock := start }
      finish before
      runCopy fuel do
        match input with
        | some channel => connect 0 channel
        | none => pure ()
        if index + 1 < parts.length then connect 1 sink
        run fuel isTested part
      status := (← shell).status
      let now := (← world).clock
      if finished < now then finished := now
      match (← world).channels[sink]? with
      | some (.sink written) => setChannel sink (.source written.reverse)
      | _ => pure ()
      source := some sink
    let last := finished
    changeWorld fun world => { world with clock := last }
    finish status

/-- Runs the script that octets write. Its units are read one by one, each when the ones before it
have been run. -/
def runText : Nat → Bool → Octets → Act Unit
  | 0, _, _ => tooDeep
  | fuel + 1, isTested, octets => do
    let step (state : Source × Bool) : Act (Option (Source × Bool)) := do
      let (source, hasRun) := state
      let documents := (← shell).documents
      match readUnit.run { source with documents, documentCount := documents.length } with
      | .error error => do
        enterLine error.line
        fail error.problem.message.toList
      | .ok (unit, rest) => do
        change fun shell => { shell with documents := rest.documents, lineRead := rest.line }
        match unit with
        | none => do
          if !hasRun then finish 0
          return none
        | some script =>
          if script.isEmpty then return some (rest, hasRun)
          else do
            run fuel isTested script
            return some (rest, true)
    let before ← shell
    restoring (iterate step (octets.length + 2) (.start octets before.documents, false))
      fun shell => { shell with lineRead := before.lineRead }

/-- Runs a simple command. Its words are expanded first, then its streams are redirected, and its
assignments come last. -/
def runSimple : Nat → Bool → List Word → List Word → List Redirection → Act Unit
  | 0, _, _, _, _ => tooDeep
  | fuel + 1, isTested, assignments, words, redirections => do
    change fun shell => { shell with wordStatus := 0 }
    let mut fields : List Octets := []
    for word in words do
      if word.isAssignment && takesAssignments (← shell) fields then
        fields := fields ++ [← expandText fuel .assignment word]
      else fields := fields ++ (← expandFields fuel word)
    let given := fields
    let invocation := Invocation.ofFields? (← shell) given
    let errors ← channelOf? 2
    let streams := (← shell).streams
    let targets ← findTargets fuel redirections
    let isSpecial := invocation.any Invocation.isSpecial
    let isLasting := isSpecial || invocation.isNone
    let action : Act Unit := do
      if ← redirect fuel targets then
        let bindings := (← shell).bindings
        let bound ← assign fuel isLasting assignments
        let names := bound.map Prod.fst
        let perform : Act Unit := do
          trace fuel errors (bound.map Prod.snd ++ given)
          match invocation with
          | none => do
            let status := (← shell).wordStatus
            finish status
          | some invocation => runInvocation fuel isTested invocation
        if isLasting then perform
        else restoring perform fun shell => { shell with
          bindings := bindings.filter (fun entry => names.contains entry.1)
            ++ shell.bindings.filter fun entry => !names.contains entry.1 }
      else do
        finish 2
        if isSpecial then throw .failed
    let keepsStreams := invocation.any fun invocation =>
      match invocation.meaning with
      | .builtin .exec => true
      | _ => false
    if keepsStreams then action
    else restoring action fun shell => { shell with streams }

/-- Makes assignments, which last or hold for a command only, and gives their names and texts. -/
def assign : Nat → Bool → List Word → Act (List (Octets × Octets))
  | 0, _, _ => tooDeep
  | fuel + 1, isLasting, assignments => do
    let mut bound : List (Octets × Octets) := []
    for assignment in assignments do
      let text ← expandText fuel .assignment assignment
      match splitAssignment? text with
      | some (name, value) => do
        if isLasting then bind name value else bindFor name value
        bound := bound ++ [(name, text)]
      | none => pure ()
    return bound

def trace : Nat → Option Nat → List Octets → Act Unit
  | 0, _, _ => tooDeep
  | fuel + 1, channel, texts => do
    if ← hasOption 'x' then
      let prompt := (← value? "PS4".toList).getD []
      let expand (word : Word) : Act Octets := do
        setOption 'x' false
        expandText fuel .document word
      let source := Source.start prompt []
      let expanded : Act Octets :=
        match (readPieces source.fuel .document).run source with
        | .ok (word, _) => expand word
        | .error _ => return prompt
      let label ← restoring expanded fun shell => { shell with options := shell.options ++ ['x'] }
      let line := label ++ [' '].intercalate texts ++ ['\n']
      if let some number := channel then
        let _ ← writeTo number line

def runInvocation : Nat → Bool → Invocation → Act Unit
  | 0, _, _ => tooDeep
  | fuel + 1, isTested, invocation => do
    match invocation.meaning with
    | .function body => callFunction fuel isTested body invocation.arguments
    | .builtin builtin => do
      let outer := (← shell).commandName
      let writer ← ownWriter
      change fun shell => { shell with commandName := some invocation.name }
      let action : Act Unit :=
        match builtin with
        | .eval =>
          runText fuel isTested ([' '].intercalate invocation.arguments)
        | .dot => runFile fuel invocation.arguments
        | .exec => runInstead fuel invocation
        | .echo => emitEffect (runEcho writer invocation.arguments)
        | .printf => emitEffect (runPrintf writer invocation.arguments)
        | .command => describeCommands invocation.arguments
        | builtin => runBuiltin builtin invocation.name invocation.arguments
      match ← attempt (restoring action fun shell => { shell with commandName := outer }) with
      | .ok () => return ()
      | .error .failed => if invocation.isSpecial then throw .failed else return ()
      | .error stop => throw stop
    | .program => do
      match ← findProgram invocation with
      | .ok program => startProgram fuel program invocation
      | .error (error, status) => do
        complain (invocation.name ++ (": " ++ startMeaning error).toList)
        finish status

def callFunction : Nat → Bool → Script → List Octets → Act Unit
  | 0, _, _, _ => tooDeep
  | fuel + 1, isTested, body, arguments => do
    let outer ← shell
    change fun shell => { shell with
      parameters := arguments
      optionPlace := .start
      functionDepth := shell.functionDepth + 1
      loopDepth := 0
      locals := []
      optionsBefore := none }
    let action : Act Unit := do
      match ← attempt (run fuel isTested body) with
      | .ok () => return ()
      | .error .returned => return ()
      | .error stop => throw stop
    restoring action fun shell =>
      { restoreLocals shell with
        parameters := outer.parameters
        optionPlace := outer.optionPlace
        functionDepth := outer.functionDepth
        loopDepth := outer.loopDepth
        locals := outer.locals
        options := shell.optionsBefore.getD shell.options
        optionsBefore := outer.optionsBefore }

def runFile : Nat → List Octets → Act Unit
  | 0, _ => tooDeep
  | fuel + 1, arguments => do
    match (← readOptions "" "" arguments).2 with
    | [] => finish 0
    | name :: _ => do
      let path ← findScript name
      match (← world).tree.read path with
      | .error .isADirectory => finish 0
      | .error error =>
        fail ("cannot open ".toList ++ path ++ (": " ++ OpenMode.read.meaning error).toList)
      | .ok content => do
        change fun shell => { shell with commandName := some path }
        let octets ← match content with
          | some content => pure content
          | none => takeInput
        match ← attempt (runText fuel false octets) with
        | .ok () => return ()
        | .error .returned => return ()
        | .error stop => throw stop

def runInstead : Nat → Invocation → Act Unit
  | 0, _ => tooDeep
  | fuel + 1, invocation => do
    match invocation.arguments with
    | [] => finish 0
    | name :: arguments => do
      let program : Invocation := { invocation with name, arguments, meaning := .program }
      match ← findProgram program with
      | .ok found => do
        change fun shell => { shell with traps := [] }
        startProgram fuel found program
        throw .left
      | .error (error, status) => do
        complain (name ++ (": " ++ startMeaning error).toList)
        finish status
        throw .left

def startProgram : Nat → Program → Invocation → Act Unit
  | 0, _, _ => tooDeep
  | fuel + 1, program, invocation => do
    match program with
    | .shell => do
      let outer ← shell
      let world ← world
      let inner := State.start invocation.name (environmentOf outer) world.tree.place outer.streams
        world.nextProcess outer.process
      changeWorld fun world => { world with nextProcess := world.nextProcess + 1 }
      change fun _ => inner
      let result ← attempt (runToEnd fuel (runShell fuel invocation.arguments))
      let status := (← shell).status % 256
      change fun _ => outer
      changeWorld fun after => { after with tree := { after.tree with place := world.tree.place } }
      match result with
      | .ok () => finish status
      | .error (.killed signal) => do
        if isReported signal then
          let _ ← write 2 (signalMeaning signal ++ "\n").toList
        finish (signalStatus signal)
      | .error stop => throw stop
    | program => runProgram program invocation.arguments

def runShell : Nat → List Octets → Act Unit
  | 0, _ => tooDeep
  | fuel + 1, arguments => do
    for script in ← scriptsOf arguments do
      runText fuel false script

end

end Culprit.Shell
