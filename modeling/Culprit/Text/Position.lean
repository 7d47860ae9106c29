import Culprit.Text.Blank

/-!
# Positions

Lines and columns are counted from one. Positions are ordered as a reader meets them: by line, and
within a line by column.
-/

namespace Culprit

/-- A place in a source: a line and a column, both counted from one. -/
structure Position where
  line : Nat
  column : Nat
  deriving DecidableEq, Repr

def Position.notAfter (first second : Position) : Bool :=
  first.line < second.line || (first.line == second.line && first.column ≤ second.column)

/-- A thing together with the place where it stands. -/
structure Located (α : Type) where
  value : α
  position : Position
  deriving DecidableEq, Repr

/-! ### The order is total -/

theorem Position.notAfter_iff (first second : Position) :
    first.notAfter second = true ↔
      first.line < second.line ∨ first.line = second.line ∧ first.column ≤ second.column := by
  simp [notAfter]

theorem Position.notAfter_total (first second : Position) :
    (first.notAfter second || second.notAfter first) = true := by
  rw [Bool.or_eq_true, notAfter_iff, notAfter_iff]
  omega

theorem Position.notAfter_trans (a b c : Position)
    (hab : a.notAfter b = true) (hbc : b.notAfter c = true) : a.notAfter c = true := by
  rw [notAfter_iff] at *
  omega

end Culprit
