import Culprit.Pattern.Basic

/-!
# Named character classes

The classes of ASCII characters that search expressions and file patterns know by name, each as the
ranges of characters in it. A line feed is always a range of its own.
-/

namespace Culprit

def namedRanges? (name : String) : Option (List (Char × Char)) :=
  match name with
  | "alpha" => some [('a', 'z'), ('A', 'Z')]
  | "digit" => some [('0', '9')]
  | "alnum" => some [('a', 'z'), ('A', 'Z'), ('0', '9')]
  | "upper" => some [('A', 'Z')]
  | "lower" => some [('a', 'z')]
  | "space" => some [(' ', ' '), ('\t', '\t'), ('\n', '\n'), ('\x0b', '\r')]
  | "blank" => some [(' ', ' '), ('\t', '\t')]
  | "punct" => some [('!', '/'), (':', '@'), ('[', Char.ofNat 0x60), ('\x7b', '~')]
  | "xdigit" => some [('0', '9'), ('a', 'f'), ('A', 'F')]
  | "cntrl" => some [('\x00', '\t'), ('\n', '\n'), ('\x0b', '\x1f'), ('\x7f', '\x7f')]
  | "graph" => some [('!', '~')]
  | "print" => some [(' ', '~')]
  | _ => none

end Culprit
