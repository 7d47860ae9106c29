import Culprit.Text.Blank

/-!
# Runs of letters

Letters of one case often stand in runs whose counterparts in the other case stand in the same
order somewhere else. A run then says everything about its letters: every one or every other one
of them is at one distance from its counterpart.
-/

namespace Culprit.Text

/-- A run of letters of one case: the first, the last, the step between them, and the distance from
each to its counterpart in the other case. -/
structure LetterRun where
  first : Nat
  last : Nat
  step : Nat
  distance : Int

def LetterRun.holds (run : LetterRun) (code : Nat) : Bool :=
  run.first ≤ code && code ≤ run.last && (code - run.first) % run.step == 0

def LetterRun.counterpart (run : LetterRun) (code : Nat) : Char :=
  Char.ofNat ((code : Int) + run.distance).toNat

end Culprit.Text
