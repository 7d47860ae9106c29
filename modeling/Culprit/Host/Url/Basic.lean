import Culprit.Text.Blank

/-!
# URLs

The parts of a URL and how they are written together. The parts are escaped already, so writing
them needs no care.
-/

namespace Culprit

/-- A URL in its parts, some of which may be empty or missing. -/
structure Url where
  scheme : Text
  userinfo : Text
  host : Text
  port : Option Int
  path : Text
  query : Option Text
  fragment : Option Text
  deriving DecidableEq, Repr

namespace Url

def marked (mark : Char) : Option Text → Text
  | none => []
  | some part => mark :: part

def authority (url : Url) : Text :=
  (if url.userinfo.isEmpty then [] else url.userinfo ++ ['@'])
    ++ (if url.host.contains ':' then '[' :: url.host ++ [']'] else url.host)
    ++ marked ':' (url.port.map fun port => (toString port).toList)

def target (url : Url) : Text :=
  (if url.path.isEmpty then ['/'] else url.path) ++ marked '?' url.query

def text (url : Url) : Text :=
  (if url.scheme.isEmpty then [] else url.scheme ++ [':'])
    ++ (if url.authority.isEmpty then [] else '/' :: '/' :: url.authority)
    ++ url.path ++ marked '?' url.query ++ marked '#' url.fragment

def isAbsolute (url : Url) : Bool := !url.scheme.isEmpty && !url.host.isEmpty

end Url
end Culprit
