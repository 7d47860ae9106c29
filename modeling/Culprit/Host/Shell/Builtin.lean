import Culprit.Host.Command.Effect
import Culprit.Host.Shell.Condition
import Culprit.Host.Shell.Signal
import Culprit.Host.Shell.State
import Culprit.Host.Shell.Token

/-!
# Commands of the shell

The commands that a shell runs itself because they change or ask for its own state. Those that run
scripts are not among them.
-/

namespace Culprit.Shell

open Command

inductive Builtin
  | alias
  | background
  | break
  | cd
  | colon
  | command
  | continue
  | dot
  | echo
  | eval
  | exec
  | exit
  | export
  | fail
  | foreground
  | getopts
  | hash
  | jobs
  | kill
  | local
  | printf
  | pwd
  | read
  | readonly
  | return
  | set
  | shift
  | succeed
  | test
  | times
  | trap
  | type
  | ulimit
  | umask
  | unalias
  | unset
  | wait
  deriving DecidableEq, Repr

namespace Builtin

def ofName? (name : Octets) : Option Builtin :=
  match String.ofList name with
  | "alias" => some .alias
  | "bg" => some .background
  | "break" => some .break
  | "cd" => some .cd
  | "chdir" => some .cd
  | ":" => some .colon
  | "command" => some .command
  | "continue" => some .continue
  | "." => some .dot
  | "echo" => some .echo
  | "eval" => some .eval
  | "exec" => some .exec
  | "exit" => some .exit
  | "export" => some .export
  | "false" => some .fail
  | "fg" => some .foreground
  | "getopts" => some .getopts
  | "hash" => some .hash
  | "jobs" => some .jobs
  | "kill" => some .kill
  | "local" => some .local
  | "printf" => some .printf
  | "pwd" => some .pwd
  | "read" => some .read
  | "readonly" => some .readonly
  | "return" => some .return
  | "set" => some .set
  | "shift" => some .shift
  | "true" => some .succeed
  | "test" => some .test
  | "[" => some .test
  | "times" => some .times
  | "trap" => some .trap
  | "type" => some .type
  | "ulimit" => some .ulimit
  | "umask" => some .umask
  | "unalias" => some .unalias
  | "unset" => some .unset
  | "wait" => some .wait
  | _ => none

/-- Whether a failure of the command ends the script and assignments in front of it are kept. -/
def isSpecial : Builtin → Bool
  | .break | .colon | .continue | .dot | .eval | .exec | .exit | .export | .local | .readonly
  | .return | .set | .shift | .times | .trap | .unset => true
  | _ => false

def takesAssignments : Builtin → Bool
  | .alias | .export | .local | .readonly => true
  | _ => false

end Builtin

open Act

/-! ### Output -/

def emit (output : Octets) (status : Nat) : Act Unit := do
  if ← write 1 output then finish status
  else do
    complain (((← shell).commandName.getD []) ++ ": I/O error".toList)
    finish (if status = 0 then 1 else status)

def quoteValue (value : Octets) : Octets :=
  ['\''] ++ value.flatMap (fun c => if c == '\'' then "'\"'\"'".toList else [c]) ++ ['\'']

def variableLines (front : String) (property : Variable → Bool) : Act Octets := do
  let bindings := (← shell).bindings.filter fun entry => property entry.2
  let sorted := bindings.mergeSort fun left right => !Test.isBefore right.1 left.1
  return sorted.flatMap fun (name, binding) =>
    front.toList ++ name
      ++ (match binding.value with
        | some value => '=' :: quoteValue value
        | none => []) ++ ['\n']

/-! ### Arguments -/

def readNumber (argument : Octets) : Act Nat :=
  match Number.wholeWord? false argument with
  | some number =>
    if 0 ≤ number && number < Nat.pow 2 31 then return number.toNat else refuse
  | none => refuse
where
  refuse : Act Nat := fail ("Illegal number: ".toList ++ argument)

/-- The letters of the options in front of arguments, with the arguments of those that have one,
and the other arguments. Fuel as for the arguments is enough. -/
def takeOptions (letters withArgument : String) :
    Nat → List Octets → Act (List (Char × Octets) × List Octets)
  | 0, arguments => return ([], arguments)
  | fuel + 1, arguments =>
    match arguments with
    | ('-' :: c :: group) :: rest =>
      if c == '-' && group.isEmpty then return ([], rest)
      else takeLetters (c :: group) rest fuel
    | _ => return ([], arguments)
where
  takeLetters (group : Octets) (rest : List Octets) (fuel : Nat) :
      Act (List (Char × Octets) × List Octets) := do
    match group with
    | [] => takeOptions letters withArgument fuel rest
    | c :: others =>
      if withArgument.toList.contains c then
        match others, rest with
        | [], [] => fail ("No arg for -".toList ++ [c] ++ " option".toList)
        | [], argument :: behind => do
          let (more, last) ← takeOptions letters withArgument fuel behind
          return ((c, argument) :: more, last)
        | others, rest => do
          let (more, last) ← takeOptions letters withArgument fuel rest
          return ((c, others) :: more, last)
      else if letters.toList.contains c then do
        let (more, last) ← takeLetters others rest fuel
        return ((c, []) :: more, last)
      else fail ("Illegal option -".toList ++ [c])

def readOptions (letters withArgument : String) (arguments : List Octets) :
    Act (List (Char × Octets) × List Octets) :=
  takeOptions letters withArgument arguments.length.succ arguments

/-- Checks that a name can be bound. What is said about it ends in front of an equals sign. -/
def checkName (name : Octets) : Act Unit :=
  if isName name then return ()
  else fail (name.takeWhile (· != '=') ++ ": bad variable name".toList)

/-! ### Options of the shell -/

def shellOptions : List (String × Char) :=
  [("errexit", 'e'), ("noglob", 'f'), ("ignoreeof", 'I'), ("interactive", 'i'), ("monitor", 'm'),
    ("noexec", 'n'), ("stdin", 's'), ("xtrace", 'x'), ("verbose", 'v'), ("vi", 'V'), ("emacs", 'E'),
    ("noclobber", 'C'), ("allexport", 'a'), ("notify", 'b'), ("nounset", 'u'), ("privileged", 'p'),
    ("nolog", '\x01'), ("debug", '\x02')]

def setOption (letter : Char) (isSet : Bool) : Act Unit :=
  change fun shell =>
    let others := shell.options.filter (· != letter)
    { shell with options := if isSet then others ++ [letter] else others }

def optionLines (asCommands : Bool) : Act Octets := do
  let options := (← shell).options
  let lines := shellOptions.flatMap fun (name, letter) =>
    let isSet := options.contains letter
    if asCommands then ("set " ++ (if isSet then "-o " else "+o ") ++ name ++ "\n").toList
    else name.toList ++ List.replicate (16 - name.length) ' '
      ++ (if isSet then "on\n" else "off\n").toList
  return if asCommands then lines else "Current option settings\n".toList ++ lines

/-- Sets the options of a group of letters, and gives the arguments that are left behind it. -/
def setLetters (isSet : Bool) : Octets → List Octets → Act (List Octets)
  | [], rest => return rest
  | 'o' :: letters, [] => do
    emit (← optionLines (!isSet)) 0
    setLetters isSet letters []
  | 'o' :: letters, name :: rest => do
    match shellOptions.lookup (String.ofList name) with
    | some letter => do
      setOption letter isSet
      setLetters isSet letters rest
    | none => fail ("Illegal option -o ".toList ++ name)
  | letter :: letters, rest =>
    if letter != '\x01' && letter != '\x02' && (shellOptions.map Prod.snd).contains letter then do
      setOption letter isSet
      setLetters isSet letters rest
    else fail ("Illegal option -".toList ++ [letter])

/-- Sets options and parameters. Fuel as for the arguments is enough. -/
def setFrom : Nat → List Octets → Act Unit
  | 0, _ => return ()
  | _, [] => return ()
  | fuel + 1, argument :: rest => do
    let setParameters (parameters : List Octets) : Act Unit :=
      change fun shell => { shell with parameters, optionPlace := .start }
    match argument with
    | ['-'] => do
      setOption 'x' false
      setOption 'v' false
      if !rest.isEmpty then setParameters rest
    | ['-', '-'] => setParameters rest
    | '-' :: letters => do setFrom fuel (← setLetters true letters rest)
    | '+' :: letters => do setFrom fuel (← setLetters false letters rest)
    | _ => setParameters (argument :: rest)

/-! ### Variables -/

def mark (front : String) (property : Variable → Bool) (update : Variable → Variable)
    (arguments : List Octets) : Act Unit := do
  let (options, names) ← readOptions "p" "" arguments
  if names.isEmpty || !options.isEmpty then emit (← variableLines front property) 0
  else do
    for argument in names do
      match splitAssignment? argument with
      | some (name, value) => bind name value
      | none => checkName (argument.takeWhile (· != '='))
      let name := argument.takeWhile (· != '=')
      let known := (← binding? name).getD ⟨none, false, false⟩
      setVariable name (some (update known))
    finish 0

/-- Lets a name be bound again, at the end of the function, to what it is bound to now. -/
def keepForFunction (name : Octets) : Act Unit := do
  let binding ← binding? name
  change fun shell => { shell with locals := (name, binding) :: shell.locals }

def makeLocal (argument : Octets) : Act Unit := do
  if argument == ['-'] then
    change fun shell => { shell with
      optionsBefore := shell.optionsBefore.or (some shell.options) }
  else
    match splitAssignment? argument with
    | some (name, value) => do
      keepForFunction name
      bind name value
    | none => do
      checkName argument
      keepForFunction argument

def unset (arguments : List Octets) : Act Unit := do
  let (options, names) ← readOptions "vf" "" arguments
  for name in names do
    if options.getLast?.any fun option => option.1 == 'f' then
      change fun shell => { shell with
        functions := shell.functions.filter fun entry => entry.1 != name }
    else do
      checkName name
      match ← binding? name with
      | some binding =>
        if binding.isReadOnly then fail (name ++ ": is read only".toList)
        else setVariable name none
      | none => pure ()
  finish 0

/-! ### Reading a line -/

/-- A line of an input as a word whose escaped characters are not cut, whether a line feed ends it,
and the number of octets that it takes. A backslash joins lines unless they are read as they are.
Fuel as for the octets is enough. -/
def takeLine (asIs : Bool) : Nat → Octets → Expanded × Bool × Nat
  | 0, _ => ([], false, 0)
  | _, [] => ([], false, 0)
  | fuel + 1, c :: rest =>
    let continueWith (region : Expanded) (count : Nat) (behind : Octets) :
        Expanded × Bool × Nat :=
      let (word, isEnded, more) := takeLine asIs fuel behind
      (region ++ word, isEnded, count + more)
    if c == '\n' then ([], true, 1)
    else if c == '\x00' then continueWith [] 1 rest
    else if c == '\\' && !asIs then
      match rest with
      | [] => ([], false, 1)
      | '\n' :: behind => continueWith [] 2 behind
      | d :: behind => continueWith (.region .fixed true [d]) 2 behind
    else
      let run := (c :: rest).takeWhile fun c =>
        c != '\n' && c != '\x00' && (asIs || c != '\\')
      continueWith (.region .cut false run) run.length ((c :: rest).drop run.length)

/-- Reads a line and binds names to its fields; the last name gets all that is left. -/
def read (arguments : List Octets) : Act Unit := do
  let (options, names) ← readOptions "r" "p" arguments
  if names.isEmpty then fail "arg count".toList
  else do
    let asIs := options.any fun option => option.1 == 'r'
    let channel := (← channelOf? 0).getD 0
    let isOpen := (← channelOf? 0).isSome
    let ahead := (← rest? channel).getD []
    let input := if isOpen then ahead else []
    let (word, isEnded, count) := takeLine asIs input.length.succ input
    skip channel count
    let fields := (cutFields (← separators) (some names.length) word).map spell
    for (name, index) in names.zipIdx do
      checkName name
      bind name (fields.getD index [])
    finish (if isEnded then 0 else 1)

/-- The letter of the next option among parameters, the place behind it and what is left of its
parameter; none if there is no option. -/
def nextLetter? (place : OptionPlace) (parameters : List Octets) :
    Option (Char × OptionPlace × Octets) × OptionPlace :=
  let current := if 1 < place.next then parameters[place.next - 2]? else none
  match (current.getD []).drop (place.offset.getD (current.getD []).length) with
  | c :: rest => (some (c, place, rest), place)
  | [] =>
    match parameters[place.next - 1]? with
    | some ['-', '-'] => (none, ⟨place.next + 1, none⟩)
    | some ('-' :: c :: rest) => (some (c, ⟨place.next + 1, none⟩, rest), place)
    | _ => (none, ⟨place.next, none⟩)

/-- Whether a letter is among those of a specification, and whether it has an argument. -/
def findLetter? (letter : Char) : Octets → Option Bool
  | [] => none
  | c :: ':' :: rest => if c == letter then some true else findLetter? letter rest
  | c :: rest => if c == letter then some false else findLetter? letter rest

def getopts (arguments : List Octets) : Act Unit := do
  match arguments with
  | specification :: name :: given => do
    let shell ← shell
    let parameters := if given.isEmpty then shell.parameters else given
    let isSilent := specification.head? == some ':'
    let argumentName := "OPTARG".toList
    let settle (place : OptionPlace) (found : Char) (status : Nat) : Act Unit := do
      bind optionCounter (toString place.next).toList
      checkName name
      bind name [found]
      change fun shell => { shell with optionPlace := place }
      finish status
    let refuse (letter found : Char) (place : OptionPlace) (message : Octets) : Act Unit := do
      if isSilent then do
        bind argumentName [letter]
        settle place found 0
      else do
        let _ ← write 2 (message ++ ['\n'])
        setVariable argumentName none
        settle place '?' 0
    match nextLetter? shell.optionPlace parameters with
    | (none, place) => settle place '?' 1
    | (some (letter, place, rest), _) =>
      let size := (parameters.getD (place.next - 2) []).length
      let inside : OptionPlace := ⟨place.next, some (size - rest.length)⟩
      match findLetter? letter specification with
      | none => refuse letter '?' inside ("Illegal option -".toList ++ [letter])
      | some false => do
        bind argumentName []
        settle inside letter 0
      | some true =>
        if !rest.isEmpty then do
          bind argumentName rest
          settle ⟨place.next, none⟩ letter 0
        else
          match parameters[place.next - 1]? with
          | some argument => do
            bind argumentName argument
            settle ⟨place.next + 1, none⟩ letter 0
          | none =>
            refuse letter ':' inside ("No arg for -".toList ++ [letter] ++ " option".toList)
  | _ => fail "Usage: getopts optstring var [arg...]".toList

/-! ### Signals -/

def trap (arguments : List Octets) : Act Unit := do
  let (_, arguments) ← readOptions "" "" arguments
  match arguments with
  | [] => do
    let traps := (← shell).traps.mergeSort fun left right => left.1 ≤ right.1
    emit (traps.flatMap fun (number, action) =>
      "trap -- ".toList ++ quoteValue action ++ [' ']
        ++ (signalNames.getD number "").toList ++ ['\n']) 0
  | first :: rest => do
    let isReset := rest.isEmpty || (!first.isEmpty && first.all Char.isDigit)
    let names := if isReset then first :: rest else rest
    let set (number : Nat) : Act Unit :=
      change fun shell =>
        let others := shell.traps.filter fun entry => entry.1 != number
        { shell with
          traps := if isReset || first == ['-'] then others else (number, first) :: others }
    let rec setAll : List Octets → Act Unit
      | [] => finish 0
      | name :: names =>
        match signal? name with
        | some number => do
          set number
          setAll names
        | none => do
          let _ ← write 2 ("trap: ".toList ++ name ++ ": bad trap\n".toList)
          finish 1
    setAll names

/-- Sends a signal to a process. Only the process of the script itself and those that it left
running are there. -/
def signalProcess (signal process : Nat) : Act Bool := do
  let shell ← shell
  if process = shell.process then do
    match shell.traps.lookup signal with
    | some action =>
      if signal = killSignal then throw (.killed signal)
      else do
        if !action.isEmpty && signal != 0 then
          change fun shell => { shell with signals := shell.signals ++ [signal] }
        return true
    | none =>
      if harmlessSignals.contains signal then return true else throw (.killed signal)
  else if shell.jobs.any fun job => job.1 = process then do
    let now := (← world).clock
    if signal != 0 then
      change fun shell => { shell with
        jobs := shell.jobs.map fun job =>
          if job.1 = process && now < job.2.1 then (process, now, signalStatus signal) else job }
      changeWorld fun world => { world with
        lingering := world.lingering.filter fun entry => entry.1 != process }
    return true
  else return false

def kill (arguments : List Octets) : Act Unit := do
  let usage : Act Unit := fail
    ("Usage: kill [-s sigspec | -signum | -sigspec] [pid | job]... or\n"
      ++ "kill -l [exitstatus]").toList
  let send (signal : Nat) (processes : List Octets) : Act Unit := do
    if processes.isEmpty then usage
    else do
      let mut status := 0
      for process in processes do
        let digits := if process.head? == some '-' then process.drop 1 else process
        if !(← signalProcess signal (← readNumber digits)) then
          complain "No such process\n".toList
          status := 1
      finish status
  match arguments with
  | [] => usage
  | first :: rest =>
    match if first.head? == some '-' then signal? (first.drop 1) else none with
    | some signal => send signal rest
    | none => do
      let (options, processes) ← readOptions "l" "s" arguments
      if options.any fun option => option.1 == 'l' then
        match processes with
        | [] => emit (signalNames.zipIdx.flatMap fun (name, number) =>
            (if number = 0 then "0" else name).toList ++ ['\n']) 0
        | status :: _ => do
          let number ← readNumber status
          let number := if 128 < number then number - 128 else number
          match signalNames[number]? with
          | some name => emit (name.toList ++ ['\n']) 0
          | none => fail ("invalid signal number or exit status: ".toList ++ status)
      else
        match options.getLast? with
        | none => send endSignal processes
        | some (_, name) =>
          match signal? name with
          | some signal => send signal processes
          | none => fail ("invalid signal number or name: ".toList ++ name)

def wait (arguments : List Octets) : Act Unit := do
  let (_, processes) ← readOptions "" "" arguments
  let waitUntil (time : Float) : Act Unit :=
    changeWorld fun world =>
      { world with clock := if world.clock < time then time else world.clock }
  if processes.isEmpty then do
    for job in (← shell).jobs do
      waitUntil job.2.1
    change fun shell => { shell with jobs := [] }
    finish 0
  else
    for process in processes do
      if process.head? == some '%' then fail ("No such job: ".toList ++ process)
      let number ← readNumber process
      match (← shell).jobs.lookup number with
      | some (time, status) => do
        waitUntil time
        finish status
      | none => finish 127

/-! ### Directories -/

def changeDirectory (arguments : List Octets) : Act Unit := do
  let (_, operands) ← readOptions "LP" "" arguments
  let previous := (← value? "OLDPWD".toList).getD []
  let target := match operands with
    | [] => none
    | operand :: _ => some operand
  let home := (← value? "HOME".toList).getD []
  let path := match target with
    | none => home
    | some ['-'] => previous
    | some path => path
  if path.isEmpty then finish 0
  else
    match (← world).tree.locate path with
    | .ok parts =>
      if (← world).tree.node? parts == some .directory then do
        let old := (← world).tree.place
        changeWorld fun world => { world with tree := { world.tree with place := parts } }
        bind "OLDPWD".toList (Tree.spell old)
        bind "PWD".toList (Tree.spell parts)
        if target == some ['-'] then emit (Tree.spell parts ++ ['\n']) 0 else finish 0
      else fail ("can't cd to ".toList ++ path)
    | .error _ => fail ("can't cd to ".toList ++ path)

/-! ### Names of commands -/

def programPath? (name : Octets) : Act (Option Octets) := do
  let tree := (← world).tree
  let isProgram (path : Octets) : Bool := (tree.programAt path).toOption.isSome
  if name.contains '/' then return if isProgram name then some name else none
  else do
    let directories := ((← value? "PATH".toList).getD []).splitOn ':'
    return (directories.map fun directory =>
      if directory.isEmpty then name else directory ++ ['/'] ++ name).find? isProgram

/-- Says what a name means as a command, in words or as it would be run, and whether it means
anything. -/
def describe (inWords : Bool) (name : Octets) : Act (Octets × Bool) := do
  let shell ← shell
  let told (meaning : String) : Octets :=
    name ++ (if inWords then meaning.toList else []) ++ ['\n']
  if (Keyword.ofOctets? name).isSome then return (told " is a shell keyword", true)
  else
    match shell.aliases.lookup name with
    | some value =>
      return (if inWords then name ++ " is an alias for ".toList ++ value ++ ['\n']
        else "alias ".toList ++ name ++ ['='] ++ quoteValue value ++ ['\n'], true)
    | none =>
      if (shell.functions.lookup name).isSome then
        return (told " is a shell function", true)
      else
        match Builtin.ofName? name with
        | some builtin =>
          return (told (if builtin.isSpecial then " is a special shell builtin"
            else " is a shell builtin"), true)
        | none =>
          match ← programPath? name with
          | some path => return (if inWords then name ++ " is ".toList ++ path ++ ['\n']
              else path ++ ['\n'], true)
          | none => return (if inWords then name ++ ": not found\n".toList else [], false)

def describeAll (inWords : Bool) (names : List Octets) : Act Unit := do
  let mut output : Octets := []
  let mut status := 0
  for name in names do
    let (text, isKnown) ← describe inWords name
    output := output ++ text
    if !isKnown then status := 127
  emit output status

/-! ### Running -/

def leaveLoops (isBreak : Bool) (arguments : List Octets) : Act Unit := do
  let loops ← match arguments with
    | [] => pure 1
    | argument :: _ => do
      let number ← readNumber argument
      if number = 0 then fail ("Illegal number: ".toList ++ argument) else pure number
  finish 0
  let depth := (← shell).loopDepth
  if 0 < depth then throw (.skipped isBreak (min loops depth))

def runBuiltin (builtin : Builtin) (name : Octets) (arguments : List Octets) : Act Unit := do
  match builtin with
  | .colon | .succeed => finish 0
  | .times => emit "0m0.000000s 0m0.000000s\n0m0.000000s 0m0.000000s\n".toList 0
  | .fail => finish 1
  | .exit => do
    match arguments with
    | [] => finish ((← shell).statusBefore.getD (← shell).status)
    | argument :: _ => finish (← readNumber argument)
    throw .left
  | .return => do
    match arguments with
    | [] => pure ()
    | argument :: _ => finish (← readNumber argument)
    throw .returned
  | .break => leaveLoops true arguments
  | .continue => leaveLoops false arguments
  | .shift => do
    let count ← match arguments with
      | [] => pure 1
      | argument :: _ => readNumber argument
    if (← shell).parameters.length < count then fail "can't shift that many".toList
    else do
      change fun shell => { shell with
        parameters := shell.parameters.drop count
        optionPlace := .start }
      finish 0
  | .set =>
    if arguments.isEmpty then
      emit (← variableLines "" fun binding => binding.value.isSome) 0
    else do
      finish 0
      setFrom arguments.length.succ arguments
  | .unset => unset arguments
  | .export =>
    mark "export " (·.isExported) (fun binding => { binding with isExported := true }) arguments
  | .readonly =>
    mark "readonly " (·.isReadOnly) (fun binding => { binding with isReadOnly := true }) arguments
  | .read => read arguments
  | .test =>
    let isBracket := name == ['[']
    if isBracket && arguments.getLast?.bind List.head? != some ']' then do
      complain TestError.missingBracket.message
      finish 2
    else do
      let tree := (← world).tree
      let operands := if isBracket then arguments.dropLast else arguments
      match Test.evaluate (fun path => (tree.find path).toOption) false operands with
      | .ok holds => finish (if holds then 0 else 1)
      | .error error => do
        complain error.message
        finish 2
  | .kill => kill arguments
  | .trap => trap arguments
  | .wait => wait arguments
  | .getopts => getopts arguments
  | .cd => changeDirectory arguments
  | .pwd => emit (Tree.spell (← world).tree.place ++ ['\n']) 0
  | .type => describeAll true arguments
  | .hash => do
    let mut status := 0
    for name in (← readOptions "r" "" arguments).2 do
      if (Builtin.ofName? name).isNone && (← programPath? name).isNone then
        complain (name ++ ": not found".toList)
        status := 1
    finish status
  | .alias =>
    if arguments.isEmpty then
      emit ((← shell).aliases.flatMap fun (name, value) =>
        name ++ ['='] ++ quoteValue value ++ ['\n']) 0
    else do
      let mut status := 0
      for argument in arguments do
        let name := argument.takeWhile (· != '=')
        if name.length < argument.length then
          change fun shell => { shell with
            aliases := (name, argument.drop (name.length + 1))
              :: shell.aliases.filter fun entry => entry.1 != name }
        else
          match (← shell).aliases.lookup name with
          | some value => let _ ← write 1 (name ++ ['='] ++ quoteValue value ++ ['\n'])
          | none =>
            let _ ← write 2 ("alias: ".toList ++ name ++ " not found\n".toList)
            status := 1
      finish status
  | .unalias => do
    change fun shell => { shell with
      aliases := if arguments == [['-', 'a']] then []
        else shell.aliases.filter fun entry => !arguments.contains entry.1 }
    finish 0
  | .umask => do
    let (options, modes) ← readOptions "S" "" arguments
    match modes with
    | [] => emit (if options.isEmpty then "0022\n" else "u=rwx,g=rx,o=rx\n").toList 0
    | mode :: _ =>
      if mode.all Char.isDigit && mode.any (fun c => '7' < c) then
        fail ("Illegal number: ".toList ++ mode)
      else if mode.all Char.isDigit || mode == ['a'] || mode.contains '=' || mode.contains '-' then
        finish 0
      else fail ("Illegal mode: ".toList ++ mode)
  | .ulimit => do
    match (← readOptions "HSatfdsmcnlpvwr" "" arguments).2 with
    | [] => emit "unlimited\n".toList 0
    | size :: _ =>
      if size.all Char.isDigit || size == "unlimited".toList then finish 0
      else fail "bad number".toList
  | .jobs => do
    match (← readOptions "lp" "" arguments).2 with
    | [] => finish 0
    | job :: _ => fail ("No such job: ".toList ++ job)
  | .foreground | .background => do
    match (← readOptions "" "" arguments).2 with
    | [] => fail "No current job".toList
    | job :: _ => fail ("No such job: ".toList ++ job)
  | .local =>
    if (← shell).functionDepth = 0 then fail "not in a function".toList
    else do
      for argument in arguments do
        makeLocal argument
      finish 0
  | _ => finish 0

end Culprit.Shell
