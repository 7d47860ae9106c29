import Culprit.Host.Shell.Script

/-!
# Signals

The names of signals, which are also their order: a name's place is its number, and the first one
stands for the end of a script.
-/

namespace Culprit.Shell

/-- The names of signals in the order of their numbers. A number is the name of one that has no
other. -/
def signalNames : List String :=
  ["EXIT", "HUP", "INT", "QUIT", "ILL", "TRAP", "ABRT", "BUS", "FPE", "KILL", "USR1", "SEGV",
    "USR2", "PIPE", "ALRM", "TERM", "16", "CHLD", "CONT", "STOP", "TSTP", "TTIN", "TTOU", "URG",
    "XCPU", "XFSZ", "VTALRM", "PROF", "WINCH", "IO", "PWR", "SYS", "32", "33", "RTMIN", "RTMIN+1",
    "RTMIN+2", "RTMIN+3", "RTMIN+4", "RTMIN+5", "RTMIN+6", "RTMIN+7", "RTMIN+8", "RTMIN+9",
    "RTMIN+10", "RTMIN+11", "RTMIN+12", "RTMIN+13", "RTMIN+14", "RTMIN+15", "RTMAX-14", "RTMAX-13",
    "RTMAX-12", "RTMAX-11", "RTMAX-10", "RTMAX-9", "RTMAX-8", "RTMAX-7", "RTMAX-6", "RTMAX-5",
    "RTMAX-4", "RTMAX-3", "RTMAX-2", "RTMAX-1", "RTMAX"]

/-- The number of the signal that an argument names, by its name in letters of any size or by its
number. -/
def signal? (argument : Octets) : Option Nat :=
  if !argument.isEmpty && argument.all Char.isDigit then
    let number := argument.foldl (fun value d => value * 10 + (d.toNat - '0'.toNat)) 0
    if number < signalNames.length then some number else none
  else
    signalNames.findIdx? fun name => name.toList == argument.map Char.toUpper

def killSignal : Nat := 9

def endSignal : Nat := 15

def harmlessSignals : List Nat := [0, 17, 18, 23, 28]

def signalMeaning (number : Nat) : String :=
  match number with
  | 1 => "Hangup"
  | 3 => "Quit"
  | 4 => "Illegal instruction"
  | 5 => "Trace/breakpoint trap"
  | 6 => "Aborted"
  | 7 => "Bus error"
  | 8 => "Floating point exception"
  | 9 => "Killed"
  | 10 => "User defined signal 1"
  | 11 => "Segmentation fault"
  | 12 => "User defined signal 2"
  | 14 => "Alarm clock"
  | 15 => "Terminated"
  | _ => "Unknown signal " ++ toString number

/-- Whether a shell says that a signal has ended a process: it does except for those that users and
pipes end processes with. -/
def isReported (number : Nat) : Bool := number != 2 && number != 13

def signalStatus (number : Nat) : Nat := 128 + number

end Culprit.Shell
