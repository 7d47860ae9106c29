import Culprit.Host.Shell.Run
import Culprit.Oracle.Command

/-!
# Processes

The way to run programs that evaluated runs use; a verifier command takes any other as well. A
program is started by its name and waited for with a time limit. Whoever waits for a program also
waits for those that it left running, as long as they may write.
-/

namespace Culprit.Command

open Shell

def depthLimit : Nat := 4000

def waitingProcess : Nat := 4000

/-- The world in which a program is started: its input, its output and its errors are the first
channels. -/
def startWorld (place : Place) (input : Octets) : World where
  tree := place.tree
  channels := [.source input, .sink [], .sink []]
  clock := 0.0
  lingering := []
  nextProcess := waitingProcess + 2

def startStreams : List (Nat × Nat) := [(0, 0), (1, 1), (2, 2)]

def written (world : World) (channel : Nat) : Bytes :=
  match world.channels[channel]? with
  | some (.sink octets) => Octets.toBytes octets.reverse
  | _ => []

/-- The greatest time limit that can be waited for, in milliseconds. -/
def longestWait : Float := 2147483647.0

/-- The greatest time limit that a timestamp can tell, in milliseconds. -/
def longestStamp : Float := 9223372036854.0

/-- Why nobody can wait for a number of seconds. -/
def waitFault? (limit : Float) : Option Exception :=
  let milliseconds := (limit * 1000.0).ceil
  if limit.isNaN then some ⟨"ValueError", "cannot convert float NaN to integer", []⟩
  else if limit ≤ 0.0 then none
  else if limit.isInf then some ⟨"OverflowError", "cannot convert float infinity to integer", []⟩
  else if longestStamp < milliseconds then
    some ⟨"OverflowError", "timestamp too large to convert to C _PyTime_t", []⟩
  else if longestWait < milliseconds then some ⟨"OverflowError", "timeout is too large", []⟩
  else none

/-- How a program that was found comes out. -/
def runFound (place : Place) (program : Program) (name : Octets) (operands : List Octets)
    (input : Bytes) (limit : Float) : Outcome :=
  let shell := State.start name place.environment place.tree.place startStreams
    (waitingProcess + 1) waitingProcess
  let machine : Machine := ⟨shell, startWorld place (Octets.ofBytes input)⟩
  let action := match program with
    | .shell => runToEnd depthLimit (runShell depthLimit operands)
    | program => runProgram program operands
  let (result, after) := action machine
  let seconds := after.world.lingering.foldl
    (fun latest entry => if latest < entry.2 then entry.2 else latest) after.world.clock
  let isEndless := match result with
    | .error .endless => true
    | _ => false
  let status := match result with
    | .error (.killed signal) => signalStatus signal
    | _ => after.shell.status % 256
  if limit ≤ 0.0 || limit < seconds || isEndless then .timedOut
  else .ended status (written after.world 2) (written after.world 1)

/-- Runs a program with arguments and an input, and waits for it for the given number of
seconds. -/
def runProcess {σ : Type} (place : Place) : Runner σ := fun name arguments input limit =>
  return match place.findProgram (Octets.ofText name) with
    | .error fault => .notStarted (fault.about name)
    | .ok program =>
      match waitFault? limit with
      | some exception => .raised exception
      | none =>
        runFound place program (Octets.ofText name) (arguments.map Octets.ofText) input limit

end Culprit.Command
