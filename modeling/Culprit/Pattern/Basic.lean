import Culprit.Text.Word

/-!
# Patterns

Regular patterns over characters and the test whether a whole text fits one. Matching keeps the
list of patterns that the rest of the text may still fit: reading a character replaces each pattern
by its continuations, of which a pattern has only finitely many, so no text needs backtracking.
What a pattern means is `Pattern.Matches`, which speaks of ways to cut the text and not of the
matching.
-/

namespace Culprit

/-- A set of characters. -/
inductive CharClass
  | only (c : Char)
  | allBut (c : Char)
  | blank
  /-- An ASCII letter, the underscore or the dollar sign. -/
  | nameStart
  /-- A word character or the dollar sign. -/
  | nameRest
  | word
  /-- A character in one of the ranges, or in none of them if so marked. -/
  | among (ranges : List (Char × Char)) (isNegated : Bool)
  | any
  deriving DecidableEq, Repr

def CharClass.holds : CharClass → Char → Bool
  | .only expected, c => c == expected
  | .allBut excluded, c => c != excluded
  | .blank, c => Text.isBlank c
  | .nameStart, c => c.isAlpha || c == '_' || c == '$'
  | .nameRest, c => Text.isWord c || c == '$'
  | .word, c => Text.isWord c
  | .among ranges isNegated, c =>
    ranges.any (fun (first, last) => first ≤ c && c ≤ last) != isNegated
  | .any, _ => true

/-- A regular pattern. -/
inductive Pattern
  | done
  | one (kind : CharClass)
  | seq (first second : Pattern)
  | either (left right : Pattern)
  | many (body : Pattern)
  deriving DecidableEq, Repr

namespace Pattern

def literal (text : Text) : Pattern :=
  text.foldr (fun c rest => .seq (.one (.only c)) rest) .done

def inOrder (parts : List Pattern) : Pattern := parts.foldr .seq .done

def optional (body : Pattern) : Pattern := .either body .done

/-- The pattern at least once. -/
def atLeastOnce (body : Pattern) : Pattern := .seq body (.many body)

/-! ### What a pattern means -/

/-- The texts that fit a pattern. -/
def Matches : Pattern → Text → Prop
  | .done, text => text = []
  | .one kind, text => ∃ c, kind.holds c = true ∧ text = [c]
  | .seq first second, text =>
    ∃ front back, text = front ++ back ∧ first.Matches front ∧ second.Matches back
  | .either left right, text => left.Matches text ∨ right.Matches text
  | .many body, text => ∃ pieces : List Text, text = pieces.flatten ∧ ∀ p ∈ pieces, body.Matches p

/-! ### Matching -/

def fitsNothing : Pattern → Bool
  | .done => true
  | .one _ => false
  | .seq first second => first.fitsNothing && second.fitsNothing
  | .either left right => left.fitsNothing || right.fitsNothing
  | .many _ => true

/-- The patterns one of which the rest of a text has to fit, once the given first character is
read. -/
def continuations (c : Char) : Pattern → List Pattern
  | .done => []
  | .one kind => if kind.holds c then [.done] else []
  | .seq first second =>
    (first.continuations c).map (.seq · second)
      ++ if first.fitsNothing then second.continuations c else []
  | .either left right => left.continuations c ++ right.continuations c
  | .many body => (body.continuations c).map (.seq · (.many body))

def anyAccepts : List Pattern → Text → Bool
  | candidates, [] => candidates.any fitsNothing
  | candidates, c :: rest =>
    anyAccepts (candidates.flatMap (continuations c)).eraseDups rest

def accepts (pattern : Pattern) (text : Text) : Bool := anyAccepts [pattern] text

end Pattern
end Culprit
