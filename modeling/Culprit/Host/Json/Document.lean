import Culprit.Host.Json.Reader
import Culprit.Host.Text.Encoding

/-!
# JSON documents

A document is JSON as it is sent: bytes, in one of the encodings of texts. It is decoded first and
read afterwards, so that it can be refused for two kinds of reasons.
-/

namespace Culprit.Json

inductive DocumentError
  | undecodable (error : Encoding.DecodeError)
  | unreadable (text : Text) (error : ReadError)
  deriving DecidableEq, Repr

def DocumentError.message : DocumentError → String
  | .undecodable error => error.message
  | .unreadable text error => error.message text

/-- Reads a document with no more than the given number of arrays and objects in each other. -/
def readDocument (room : Nat) (document : Bytes) : Except DocumentError Json :=
  match Encoding.decode document with
  | .error error => .error (.undecodable error)
  | .ok text => (readWithin room text).mapError (.unreadable text)

end Culprit.Json
