import Culprit.Pattern.Basic

/-!
# Statement forms

The statements and block headers of a rule document, and the entries of a declared type, each have
a form that is regular once comments and literal bodies are gone. Each form is one pattern over the
trimmed code of a line; the words in it are written in small letters only.
-/

namespace Culprit.Statement

open Pattern CharClass

def gap : Pattern := atLeastOnce (one blank)

def optionalGap : Pattern := many (one blank)

/-- A name: a letter, the underscore or the dollar sign, then word characters and dollar signs. -/
def name : Pattern := seq (one nameStart) (many (one nameRest))

def qualifiedName : Pattern := seq name (many (seq (one (only '.')) name))

/-- A type: a qualified name, perhaps arguments between angle brackets, then array brackets. -/
def type : Pattern :=
  inOrder [qualifiedName,
    optional (inOrder [one (only '<'), many (one (allBut '>')), one (only '>')]),
    many (literal "[]".toList)]

/-- An annotation: an at sign and a word, perhaps followed by anything between parentheses. -/
def annotation : Pattern :=
  inOrder [one (only '@'), atLeastOnce (one word),
    optional (inOrder [one (only '('), many (one any), one (only ')')])]

def ending : Pattern := seq optionalGap (optional (one (only ';')))

/-- An empty string literal, which is what is left of any literal. -/
def emptyLiteral : Pattern := either (literal "\"\"".toList) (literal "''".toList)

/-- The package header: `package`, a qualified name. -/
def packageForm : Pattern := inOrder [literal "package".toList, gap, qualifiedName, ending]

/-- An import: `import`, perhaps `static` or `function`, a qualified name, perhaps `.*`. -/
def importForm : Pattern :=
  inOrder [literal "import".toList, gap,
    optional (seq (either (literal "static".toList) (literal "function".toList)) gap),
    qualifiedName, optional (literal ".*".toList), ending]

/-- A global: `global`, a type and a name. -/
def globalForm : Pattern := inOrder [literal "global".toList, gap, type, gap, name, ending]

/-- A dialect: `dialect` and a string literal. -/
def dialectForm : Pattern := inOrder [literal "dialect".toList, gap, emptyLiteral, ending]

/-- The header of a rule or a query starts with the keyword and a name or literal. -/
def namedBlockForm : Pattern :=
  inOrder [either (literal "rule".toList) (literal "query".toList), gap,
    either emptyLiteral (one nameStart), many (one any)]

/-- The header of a declared type: its name, perhaps the type it extends, and annotations. -/
def declareForm : Pattern :=
  inOrder [literal "declare".toList, gap, qualifiedName,
    optional (inOrder [gap, literal "extends".toList, gap, qualifiedName]),
    many (seq gap annotation)]

/-- The header of a function starts with its return type, its name and a parenthesis. -/
def functionForm : Pattern :=
  inOrder [literal "function".toList, gap, type, gap, name, optionalGap, one (only '('),
    many (one any)]

/-- A field of a declared type: a name, a colon, a type and annotations. -/
def fieldForm : Pattern :=
  inOrder [name, optionalGap, one (only ':'), optionalGap, type,
    many (seq optionalGap annotation), ending]

def leadingName : Text → Text
  | [] => []
  | c :: rest => if nameStart.holds c then c :: rest.takeWhile nameRest.holds else []

end Culprit.Statement
