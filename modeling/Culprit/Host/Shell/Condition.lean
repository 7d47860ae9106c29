import Culprit.Host.Command.Tree
import Culprit.Host.Number.Radix

/-!
# Conditions

The conditions that scripts put to the test: about texts, numbers and files, joined and negated. An
argument that could be an operator is an operand where the arguments around it say so. Conditions
are read from left to right, and all of them are evaluated.
-/

namespace Culprit.Shell

open Command

inductive TestOperator
  | unary
  | binary
  | negation
  | conjunction
  | disjunction
  | opening
  | closing
  deriving DecidableEq, Repr

namespace TestOperator

def ofSpelling? (argument : Octets) : Option TestOperator :=
  match String.ofList argument with
  | "!" => some .negation
  | "-a" => some .conjunction
  | "-o" => some .disjunction
  | "(" => some .opening
  | ")" => some .closing
  | spelling =>
    if ["=", "!=", "<", ">", "-eq", "-ne", "-ge", "-gt", "-le", "-lt", "-nt", "-ot",
        "-ef"].contains spelling then some .binary
    else if ["-r", "-w", "-x", "-e", "-f", "-d", "-c", "-b", "-p", "-u", "-g", "-k", "-s", "-t",
        "-z", "-n", "-h", "-O", "-G", "-L", "-S"].contains spelling then some .unary
    else none

end TestOperator

inductive TestError
  | unexpectedOperator (argument : Octets)
  | illegalNumber (argument : Octets)
  | argumentExpected (operator : Octets)
  | closingExpected
  | missingBracket
  deriving DecidableEq, Repr

def TestError.message : TestError → Octets
  | .unexpectedOperator argument =>
    (if argument.isEmpty then [] else argument ++ [':', ' ']) ++ "unexpected operator".toList
  | .illegalNumber argument => "Illegal number: ".toList ++ argument
  | .argumentExpected operator => operator ++ ": argument expected".toList
  | .closingExpected => "closing paren expected".toList
  | .missingBracket => "missing ]".toList

namespace Test

inductive Front
  | nothing
  | operand
  | operator (operator : TestOperator)
  deriving DecidableEq, Repr

/-- Whether the arguments behind an operator with one operand show that it is an operand itself. -/
def showOperand : List Octets → Bool
  | [] => true
  | [_] => false
  | argument :: _ => TestOperator.ofSpelling? argument == some .binary

def front : List Octets → Front
  | [] => .nothing
  | argument :: rest =>
    match TestOperator.ofSpelling? argument with
    | some .unary => if showOperand rest then .operand else .operator .unary
    | some .opening => if rest.isEmpty then .operand else .operator .opening
    | some operator => .operator operator
    | none => .operand

def isBefore : Octets → Octets → Bool
  | [], [] => false
  | [], _ :: _ => true
  | _ :: _, [] => false
  | a :: left, b :: right => if a == b then isBefore left right else a.toNat < b.toNat

def numberOf (operand : Octets) : Except TestError Int :=
  match Number.wholeWord? false operand with
  | some value => .ok value
  | none => .error (.illegalNumber operand)

def applyUnary (find : Octets → Option Node) (operator operand : Octets) :
    Except TestError Bool :=
  let isNode (holds : Node → Bool) : Except TestError Bool := .ok ((find operand).any holds)
  match String.ofList operator with
  | "-z" => .ok operand.isEmpty
  | "-n" => .ok !operand.isEmpty
  | "-t" => (numberOf operand).map fun _ => false
  | "-e" | "-r" | "-w" | "-O" | "-G" => isNode fun _ => true
  | "-f" => isNode fun
    | .file _ | .program _ => true
    | _ => false
  | "-d" => isNode (· == .directory)
  | "-x" => isNode fun
    | .directory | .program _ => true
    | _ => false
  | "-s" => isNode fun
    | .file content => !content.isEmpty
    | .directory | .program _ => true
    | .device _ => false
  | "-c" => isNode fun
    | .device (.stream _) => false
    | .device _ => true
    | _ => false
  | "-p" => isNode fun
    | .device (.stream _) => true
    | _ => false
  | _ => .ok false

def applyBinary (find : Octets → Option Node) (left operator right : Octets) :
    Except TestError Bool := do
  let numbers (holds : Int → Int → Bool) : Except TestError Bool := do
    return holds (← numberOf left) (← numberOf right)
  match String.ofList operator with
  | "=" => return left == right
  | "!=" => return left != right
  | "<" => return isBefore left right
  | ">" => return isBefore right left
  | "-eq" => numbers (· == ·)
  | "-ne" => numbers (· != ·)
  | "-ge" => numbers (· ≥ ·)
  | "-gt" => numbers (· > ·)
  | "-le" => numbers (· ≤ ·)
  | "-lt" => numbers (· < ·)
  | "-ef" => return left == right && (find left).isSome
  | _ => return false

mutual

/-- Evaluates conditions one of which has to hold, and gives the arguments from the last one used
on. Fuel for a few steps an argument is enough, as in all functions here. -/
def disjunction (find : Octets → Option Node) (first : Front) :
    Nat → List Octets → Except TestError (Bool × List Octets)
  | 0, arguments => .ok (false, arguments)
  | fuel + 1, arguments => do
    let (holds, rest) ← conjunction find first fuel arguments
    if front (rest.drop 1) == .operator .disjunction then
      let (others, last) ← disjunction find (front (rest.drop 2)) fuel (rest.drop 2)
      return (holds || others, last)
    else return (holds, rest)

def conjunction (find : Octets → Option Node) (first : Front) :
    Nat → List Octets → Except TestError (Bool × List Octets)
  | 0, arguments => .ok (false, arguments)
  | fuel + 1, arguments => do
    let (holds, rest) ← negation find first fuel arguments
    if front (rest.drop 1) == .operator .conjunction then
      let (others, last) ← conjunction find (front (rest.drop 2)) fuel (rest.drop 2)
      return (holds && others, last)
    else return (holds, rest)

def negation (find : Octets → Option Node) (first : Front) :
    Nat → List Octets → Except TestError (Bool × List Octets)
  | 0, arguments => .ok (false, arguments)
  | fuel + 1, arguments =>
    if first == .operator .negation then
      (negation find (front (arguments.drop 1)) fuel (arguments.drop 1)).map
        fun (holds, rest) => (!holds, rest)
    else single find first fuel arguments

def single (find : Octets → Option Node) (first : Front) :
    Nat → List Octets → Except TestError (Bool × List Octets)
  | 0, arguments => .ok (false, arguments)
  | fuel + 1, arguments =>
    match first, arguments with
    | .operator .opening, _ :: rest =>
      if front rest == .operator .closing then .ok (false, rest)
      else do
        let (holds, last) ← disjunction find (front rest) fuel rest
        if front (last.drop 1) == .operator .closing then return (holds, last.drop 1)
        else .error .closingExpected
    | .operator .unary, operator :: rest =>
      match rest with
      | [] => .error (.argumentExpected operator)
      | operand :: _ => (applyUnary find operator operand).map (·, rest)
    | _, left :: operator :: rest =>
      if front (operator :: rest) == .operator .binary then
        match rest with
        | [] => .error (.argumentExpected operator)
        | right :: _ => (applyBinary find left operator right).map (·, rest)
      else .ok (!left.isEmpty, arguments)
    | _, [left] => .ok (!left.isEmpty, arguments)
    | _, [] => .ok (false, [])

end

/-- Evaluates all arguments, which may have a first operand that is known to be one. -/
def whole (find : Octets → Option Node) (first : Front) (arguments : List Octets) :
    Except TestError Bool := do
  let (holds, rest) ← disjunction find first (4 * arguments.length + 8) arguments
  match rest with
  | argument :: _ :: _ => .error (.unexpectedOperator argument)
  | _ => return holds

/-- The value of a condition. Parentheses around it or negations in front of it are taken away where
there are three or four arguments; however many negations are taken away, they count as one. -/
def evaluate (find : Octets → Option Node) (isNegated : Bool) :
    List Octets → Except TestError Bool
  | [] => .ok false
  | first :: rest =>
    let arguments := first :: rest
    let finish (first : Front) (arguments : List Octets) : Except TestError Bool :=
      (whole find first arguments).map (· != isNegated)
    if rest.length = 2 ∧ (rest.head?.bind TestOperator.ofSpelling?) = some .binary then
      finish .operand arguments
    else if rest.length = 2 ∨ rest.length = 3 then
      if first = ['('] ∧ rest.getLast? = some [')'] then
        finish (front rest.dropLast) rest.dropLast
      else if first = ['!'] then evaluate find true rest
      else finish (front arguments) arguments
    else finish (front arguments) arguments

end Test
end Culprit.Shell
