import Culprit.Rules.Code
import Culprit.Rules.Diagnostic
import Culprit.Rules.Statement

/-!
# The outline of a document

The block structure of a rule document, read line by line from its code: which block is open, what
has been seen of it, and which lines are out of place. A block does not lie inside another one. A
header inside a block other than a function ends that block with a diagnostic and is read again as
the first line of its own; in a function only braces count, until they balance.
-/

namespace Culprit

/-- What is known of a block from its header. -/
structure Heading where
  /-- The text that names the block in messages. -/
  label : Text
  line : Nat
  deriving DecidableEq, Repr

/-- A block that is open. -/
inductive Block
  | rule (heading : Heading) (hasWhen hasThen : Bool)
  | query (heading : Heading)
  | declare (heading : Heading)
  /-- A function with the number of braces open in it, and whether one has been opened at all. -/
  | function (heading : Heading) (depth : Int) (opened : Bool)
  deriving DecidableEq, Repr

namespace Block

def keyword : Block → Keyword
  | .rule _ _ _ => .rule
  | .query _ => .query
  | .declare _ => .declare
  | .function _ _ _ => .function

def heading : Block → Heading
  | .rule heading _ _ => heading
  | .query heading => heading
  | .declare heading => heading
  | .function heading _ _ => heading

end Block

/-- The label of a block: what follows the first word of its header, without an opening brace at
the end and without quotes around it. A header of one word is its own label. -/
def Heading.labelOf (header : Text) : Text :=
  match Text.afterFirstWord header with
  | [] => header
  | rest =>
    Text.dropEnds isQuote (Text.trim (Text.dropBack (fun c => c == '{' || c == ' ') rest))

def Heading.ofLine (line : CodeLine) : Heading := ⟨labelOf line.raw, line.number⟩

/-- By how much a text opens more braces than it closes. -/
def Text.braceBalance (text : Text) : Int := (text.count '{' : Int) - (text.count '}' : Int)

/-- The state in which the next line of a document is read. -/
structure Outline where
  block : Option Block
  /-- Whether a statement or block header has been seen. -/
  started : Bool
  deriving DecidableEq, Repr

namespace Outline

def start : Outline := ⟨none, false⟩

/-- A function with the braces of one more line counted; closed once a brace has been opened and
all are closed again. -/
def countBraces (heading : Heading) (depth : Int) (opened : Bool) (text : Text) : Option Block :=
  let depth := depth + text.braceBalance
  let opened := opened || text.contains '{'
  if opened && depth ≤ 0 then none else some (.function heading depth opened)

def unlessForm (form : Pattern) (line : CodeLine) (problem : Problem) : List Diagnostic :=
  if form.accepts line.text then [] else [.atLine line.number problem]

/-- The diagnostics of a line outside of blocks, and the block that it opens. -/
def readTopLevel (started : Bool) (line : CodeLine) : Option Block × List Diagnostic :=
  let heading := Heading.ofLine line
  match String.ofList (Statement.leadingName line.text).fold with
  | "package" =>
    (none, if started then [.atLine line.number .misplacedPackage]
      else unlessForm Statement.packageForm line (.malformed .package line.raw))
  | "import" => (none, unlessForm Statement.importForm line (.malformed .importing line.raw))
  | "global" => (none, unlessForm Statement.globalForm line (.malformed .global line.raw))
  | "dialect" => (none, unlessForm Statement.dialectForm line (.malformed .dialect line.raw))
  | "rule" =>
    (some (.rule heading false false),
      unlessForm Statement.namedBlockForm line (.blockWithoutName .rule))
  | "query" =>
    (some (.query heading), unlessForm Statement.namedBlockForm line (.blockWithoutName .query))
  | "declare" =>
    (some (.declare heading),
      unlessForm Statement.declareForm line (.malformed .declaration line.raw))
  | "function" =>
    (countBraces heading 0 false line.text,
      unlessForm Statement.functionForm line (.malformed .functionSignature line.raw))
  | _ =>
    (none, [.atLine line.number
      (if line.text.fold = endKey then .endWithoutBlock else .unexpectedInput line.raw)])

/-- The block that a line inside another block opens: its first word is a block keyword and more
follows. -/
def opener? (key : Text) : Option Keyword :=
  match Keyword.ofWord? (Text.firstWord key) with
  | some keyword => if key = keyword.spelling.toList then none else some keyword
  | none => none

/-- A line of a rule that neither ends it nor opens a block: the two clause words are counted, and
anything else is accepted. -/
def readRuleLine (heading : Heading) (hasWhen hasThen : Bool) (number : Nat) (key : Text) :
    Block × List Diagnostic :=
  if key = whenKey then
    (.rule heading true hasThen,
      if hasThen then [.atLine number .whenAfterThen]
      else if hasWhen then [.atLine number .duplicateWhen] else [])
  else if key = thenKey then
    (.rule heading hasWhen true, if hasThen then [.atLine number .duplicateThen] else [])
  else (.rule heading hasWhen hasThen, [])

/-- Reads a line inside a block that is not a function and that the line does not interrupt. -/
def readInside (block : Block) (line : CodeLine) : Option Block × List Diagnostic :=
  let key := line.text.fold
  match block with
  | .rule heading hasWhen hasThen =>
    if key = endKey then
      (none, if hasThen then [] else [.atLine line.number (.ruleWithoutThen heading.label)])
    else
      let (block, found) := readRuleLine heading hasWhen hasThen line.number key
      (some block, found)
  | .query heading => (if key = endKey then none else some (.query heading), [])
  | .declare heading =>
    if key = endKey then (none, [])
    else
      (some (.declare heading),
        if Statement.fieldForm.accepts line.text || Statement.annotation.accepts line.text then []
        else [.atLine line.number (.invalidField line.raw heading.label)])
  | .function heading depth opened => (countBraces heading depth opened line.text, [])

/-- Reads one line of a document. Blank lines change nothing. -/
def step (outline : Outline) (line : CodeLine) : Outline × List Diagnostic :=
  if line.text = [] then (outline, [])
  else
    match outline.block with
    | none =>
      let (block, found) := readTopLevel outline.started line
      (⟨block, true⟩, found)
    | some (.function heading depth opened) =>
      ({ outline with block := countBraces heading depth opened line.text }, [])
    | some block =>
      match opener? line.text.fold with
      | some next =>
        let (opened, found) := readTopLevel outline.started line
        (⟨opened, true⟩,
          .atLine line.number (.missingEnd block.keyword block.heading.label (some next)) :: found)
      | none =>
        let (after, found) := readInside block line
        ({ outline with block := after }, found)

/-- The diagnostics of a document that ends in the given state. A function whose braces do not
balance is left to the nesting of brackets. -/
def atEnd (outline : Outline) : List Diagnostic :=
  match outline.block with
  | none => []
  | some (.function heading _ opened) =>
    if opened then [] else [.atLine heading.line (.functionWithoutBody heading.label)]
  | some block =>
    [.atLine block.heading.line (.missingEnd block.keyword block.heading.label none)]

def after (outline : Outline) : List CodeLine → Outline
  | [] => outline
  | line :: rest => after (outline.step line).1 rest

/-- The diagnostics of the rest of a document. -/
def diagnose (outline : Outline) : List CodeLine → List Diagnostic
  | [] => outline.atEnd
  | line :: rest => (outline.step line).2 ++ diagnose (outline.step line).1 rest

end Outline
end Culprit
