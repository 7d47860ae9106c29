import Culprit.Host.Text.Octets

/-!
# Effects

What a program does, as far as whoever started it can see: what it writes, its exit status, the time
it takes, and whether it leaves any of its input.
-/

namespace Culprit.Command

/-- One of the two streams that a program writes to. -/
inductive Stream
  | output
  | errors
  deriving DecidableEq, Repr

structure Effect where
  status : Nat
  writes : List (Stream × Octets)
  seconds : Float
  readsInput : Bool

namespace Effect

def quiet (status : Nat) : Effect := ⟨status, [], 0.0, false⟩

def writing (output : Octets) : Effect := ⟨0, [(.output, output)], 0.0, false⟩

def failing (status : Nat) (message : Octets) : Effect :=
  ⟨status, [(.errors, message ++ ['\n'])], 0.0, false⟩

def written (effect : Effect) (stream : Stream) : Octets :=
  effect.writes.flatMap fun (target, octets) => if target == stream then octets else []

end Effect

def isOption (argument : Octets) : Bool := argument.length > 1 && argument.head? == some '-'

end Culprit.Command
