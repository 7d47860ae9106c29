import Culprit.Host.Number.Radix
import Culprit.Host.Shell.Script

/-!
# Arithmetic

The value of an arithmetic expression over machine words, with the operators of the language that
shells took them from. Names stand for the numbers that are bound to them and may be assigned to.
An operand that does not decide a condition is read and not evaluated.
-/

namespace Culprit.Shell

inductive BinaryOperator
  | times
  | quotient
  | remainder
  | plus
  | minus
  | shiftLeft
  | shiftRight
  | less
  | lessOrEqual
  | greater
  | greaterOrEqual
  | equal
  | unequal
  | bitAnd
  | bitXor
  | bitOr
  deriving DecidableEq, Repr

namespace BinaryOperator

def rank : BinaryOperator → Nat
  | .times | .quotient | .remainder => 0
  | .plus | .minus => 1
  | .shiftLeft | .shiftRight => 2
  | .less | .lessOrEqual | .greater | .greaterOrEqual => 3
  | .equal | .unequal => 4
  | .bitAnd => 5
  | .bitXor => 6
  | .bitOr => 7

def bits (value : Int) : Nat := (value % Nat.pow 2 64).toNat

def result? (operator : BinaryOperator) (left right : Int) : Option Int :=
  let truth (holds : Bool) : Int := if holds then 1 else 0
  let amount := bits right % 64
  match operator with
  | .times => some (Number.wrapToWord (left * right))
  | .quotient => if right = 0 then none else some (Number.wrapToWord (Int.tdiv left right))
  | .remainder => if right = 0 then none else some (Int.tmod left right)
  | .plus => some (Number.wrapToWord (left + right))
  | .minus => some (Number.wrapToWord (left - right))
  | .shiftLeft => some (Number.wrapToWord (left * Nat.pow 2 amount))
  | .shiftRight => some (Int.fdiv left (Nat.pow 2 amount))
  | .less => some (truth (left < right))
  | .lessOrEqual => some (truth (left ≤ right))
  | .greater => some (truth (left > right))
  | .greaterOrEqual => some (truth (left ≥ right))
  | .equal => some (truth (left == right))
  | .unequal => some (truth (left != right))
  | .bitAnd => some (Number.wrapToWord (Nat.land (bits left) (bits right)))
  | .bitXor => some (Number.wrapToWord (Nat.xor (bits left) (bits right)))
  | .bitOr => some (Number.wrapToWord (Nat.lor (bits left) (bits right)))

end BinaryOperator

inductive SumToken
  | number (value : Int)
  | name (name : Octets)
  | binary (operator : BinaryOperator)
  | assign (operator : Option BinaryOperator)
  | conjunction
  | disjunction
  | negation
  | complement
  | question
  | colon
  | opening
  | closing
  | endOfExpression
  | stray
  deriving DecidableEq, Repr

def sumOperators : List (String × SumToken) :=
  [("<<=", .assign (some .shiftLeft)), (">>=", .assign (some .shiftRight)),
    ("<<", .binary .shiftLeft), (">>", .binary .shiftRight), ("<=", .binary .lessOrEqual),
    (">=", .binary .greaterOrEqual), ("==", .binary .equal), ("!=", .binary .unequal),
    ("&&", .conjunction), ("||", .disjunction), ("*=", .assign (some .times)),
    ("/=", .assign (some .quotient)), ("%=", .assign (some .remainder)),
    ("+=", .assign (some .plus)), ("-=", .assign (some .minus)),
    ("&=", .assign (some .bitAnd)), ("^=", .assign (some .bitXor)),
    ("|=", .assign (some .bitOr)), ("=", .assign none), ("<", .binary .less),
    (">", .binary .greater), ("*", .binary .times), ("/", .binary .quotient),
    ("%", .binary .remainder), ("+", .binary .plus), ("-", .binary .minus),
    ("&", .binary .bitAnd), ("^", .binary .bitXor), ("|", .binary .bitOr), ("!", .negation),
    ("~", .complement), ("?", .question), (":", .colon), ("(", .opening), (")", .closing)]

inductive SumError
  | expectingPrimary
  | expectingClosing
  | expectingColon
  | expectingEnd
  | divisionByZero
  | illegalNumber (value : Octets)
  deriving DecidableEq, Repr

def SumError.message (expression : Octets) (error : SumError) : Octets :=
  let about (reason : String) : Octets :=
    ("arithmetic expression: " ++ reason ++ ": \"").toList ++ expression ++ ['"']
  match error with
  | .expectingPrimary => about "expecting primary"
  | .expectingClosing => about "expecting ')'"
  | .expectingColon => about "expecting ':'"
  | .expectingEnd => about "expecting EOF"
  | .divisionByZero => about "division by zero"
  | .illegalNumber value => "Illegal number: ".toList ++ value

def takeSumToken (expression : Octets) : SumToken × Octets :=
  let text := expression.dropWhile fun c => c == ' ' || c == '\t' || c == '\n'
  match text with
  | [] => (.endOfExpression, [])
  | c :: rest =>
    if c.isDigit then
      match Number.readInteger? true text with
      | some (value, behind) => (.number (Number.clampToWord value), behind)
      | none => (.stray, rest)
    else if startsName c then
      let name := text.takeWhile isNameChar
      (.name name, text.drop name.length)
    else
      match sumOperators.find? fun entry => entry.1.toList.isPrefixOf text with
      | some (spelling, token) => (token, text.drop spelling.length)
      | none => (.stray, rest)

/-- What is left of an expression that is being evaluated, and what its names are bound to. -/
structure Summing where
  ahead : Octets
  value? : Octets → Option Octets
  /-- The assignments so far, the last one first. -/
  assigned : List (Octets × Int)

namespace Summing

abbrev Action := StateT Summing (Except SumError)

def look : Action SumToken := do return (takeSumToken (← get).ahead).1

def skip : Action Unit :=
  modify fun state => { state with ahead := (takeSumToken state.ahead).2 }

/-- The number that a name is bound to; one that is bound to nothing stands for zero. -/
def numberOf (name : Octets) : Action Int := do
  let state ← get
  match state.assigned.lookup name with
  | some value => return value
  | none =>
    match state.value? name with
    | none => return 0
    | some text =>
      if text.isEmpty then return 0
      else
        match Number.readInteger? true text with
        | none => if text.all Number.isProgramBlank then return 0 else throw (.illegalNumber text)
        | some _ =>
          match Number.wholeWord? true text with
          | some value => return value
          | none => throw (.illegalNumber text)

def combine (isWanted : Bool) (operator : BinaryOperator) (left right : Int) : Action Int :=
  if !isWanted then return right
  else
    match operator.result? left right with
    | some value => return value
    | none => throw .divisionByZero

mutual

/-- Evaluates a part that may be an assignment. `isWanted` says whether its value counts. Fuel for
a few steps a character is enough. -/
def assignment : Nat → Bool → Action Int
  | 0, _ => throw .expectingPrimary
  | fuel + 1, isWanted => do
    let start ← get
    match ← look with
    | .name name => do
      skip
      match ← look with
      | .assign operator => do
        skip
        let value ← assignment fuel isWanted
        if !isWanted then return value
        else do
          let result ← match operator with
            | none => pure value
            | some operator => do combine true operator (← numberOf name) value
          modify fun state => { state with assigned := (name, result) :: state.assigned }
          return result
      | _ => do
        set start
        conditional fuel isWanted
    | _ => conditional fuel isWanted

def conditional : Nat → Bool → Action Int
  | 0, _ => throw .expectingPrimary
  | fuel + 1, isWanted => do
    let condition ← disjunction fuel isWanted
    match ← look with
    | .question => do
      skip
      let first ← assignment fuel (isWanted && condition != 0)
      match ← look with
      | .colon => do
        skip
        let second ← conditional fuel (isWanted && condition == 0)
        return if condition != 0 then first else second
      | _ => throw .expectingColon
    | _ => return condition

def disjunction : Nat → Bool → Action Int
  | 0, _ => throw .expectingPrimary
  | fuel + 1, isWanted => do
    let first ← conjunction fuel isWanted
    match ← look with
    | .disjunction => do
      skip
      let second ← disjunction fuel (isWanted && first == 0)
      return if first != 0 || second != 0 then 1 else 0
    | _ => return first

def conjunction : Nat → Bool → Action Int
  | 0, _ => throw .expectingPrimary
  | fuel + 1, isWanted => do
    let first ← primary fuel isWanted
    let first ← operations fuel isWanted 8 first
    match ← look with
    | .conjunction => do
      skip
      let second ← conjunction fuel (isWanted && first != 0)
      return if first != 0 && second != 0 then 1 else 0
    | _ => return first

def operations : Nat → Bool → Nat → Int → Action Int
  | 0, _, _, left => return left
  | fuel + 1, isWanted, limit, left => do
    match ← look with
    | .binary operator =>
      if operator.rank < limit then do
        skip
        let first ← primary fuel isWanted
        let right ← operations fuel isWanted operator.rank first
        operations fuel isWanted limit (← combine isWanted operator left right)
      else return left
    | _ => return left

def primary : Nat → Bool → Action Int
  | 0, _ => throw .expectingPrimary
  | fuel + 1, isWanted => do
    let token ← look
    let skipped (action : Action Int) : Action Int := do
      skip
      action
    match token with
    | .number value => skipped (return value)
    | .name name => skipped (if isWanted then numberOf name else return 0)
    | .opening => skipped do
      let value ← assignment fuel isWanted
      match ← look with
      | .closing => skipped (return value)
      | _ => throw .expectingClosing
    | .binary .plus => skipped (primary fuel isWanted)
    | .binary .minus => skipped do return Number.wrapToWord (-(← primary fuel isWanted))
    | .negation => skipped do return if (← primary fuel isWanted) == 0 then 1 else 0
    | .complement => skipped do return -(← primary fuel isWanted) - 1
    | _ => throw .expectingPrimary

end

end Summing

/-- The value of an expression and the assignments in it, the last one first. -/
def evaluateSum (value? : Octets → Option Octets) (expression : Octets) :
    Except SumError (Int × List (Octets × Int)) := do
  let (value, state) ← (Summing.assignment (8 * expression.length + 8) true).run
    ⟨expression, value?, []⟩
  match takeSumToken state.ahead with
  | (.endOfExpression, _) => return (value, state.assigned)
  | _ => .error .expectingEnd

end Culprit.Shell
