import Culprit.Text.Blank

/-!
# Lines

A source is cut into lines at line feeds. The content of a source leaves out the empty lines at its
end, which only trailing line feeds make. The output of a program is cut at more characters: every
control and separator that Unicode lets end a line.
-/

namespace Culprit.Text

/-- The pieces of a source between its line feeds, at least one. -/
def lines (source : Text) : List Text := source.splitOn '\n'

def unlines (lines : List Text) : Text := ['\n'].intercalate lines

def dropEmptyTail (lines : List Text) : List Text :=
  (lines.reverse.dropWhile List.isEmpty).reverse

/-- The lines of a source without the empty ones at its end. -/
def contentLines (source : Text) : List Text := dropEmptyTail source.lines

/-- Line ends in the style of any system, each replaced by one line feed. -/
def unifyLineEnds : Text → Text
  | [] => []
  | '\r' :: '\n' :: rest => '\n' :: unifyLineEnds rest
  | c :: rest => (if c = '\r' then '\n' else c) :: unifyLineEnds rest

def isLineBoundary (c : Char) : Bool :=
  let code := c.toNat
  (10 ≤ code && code ≤ 13) || (28 ≤ code && code ≤ 30) || code == 0x85 || code == 0x2028
    || code == 0x2029

/-- The lines of an output whose line ends are unified. What follows the last boundary is a line
only if it is not empty. -/
def outputLines : Text → List Text
  | [] => []
  | c :: rest =>
    if isLineBoundary c then [] :: outputLines rest
    else
      match outputLines rest with
      | [] => [[c]]
      | line :: others => (c :: line) :: others

end Culprit.Text
