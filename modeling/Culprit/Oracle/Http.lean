import Culprit.Oracle.Basic
import Culprit.Report
import Culprit.Text.Utf8

/-!
# The remote oracle

A verifier that is asked over HTTP: the source is posted, and the answer is a report. One question
makes one request. The client that posts it, judges the status of the answer and reads its body is a
parameter; here it is decided what its troubles mean. A request that fails and an answer of the
wrong status mean that there is no verdict, and so does an answer that is refused as malformed. An
exception of any other class is nobody's business here.
-/

namespace Culprit.Http

structure Response where
  status : Nat
  body : Bytes
  deriving DecidableEq, Repr

/-- What goes wrong between a question and a report: an error of the transport or a bad status, an
answer that cannot be made sense of, or any other exception. -/
inductive Trouble
  | failed (reason : String)
  | malformed (exception : Exception)
  | other (exception : Exception)
  deriving DecidableEq, Repr

/-- What the oracle asks of a client, which has a state of its own. -/
structure Client (τ : Type) where
  /-- Posts a source to a URL. -/
  post : Text → Text → StateM τ (Except Trouble Response)
  /-- Objects to the status of an answer from a URL. -/
  checkStatus : Text → Response → Except Trouble Unit
  readReport : Bytes → Except Trouble Report
  close : StateM τ (Except Failure Unit)

def Trouble.failure (url : Text) : Trouble → Failure
  | .failed reason => .noVerdict (.requestFailed url reason)
  | .malformed exception => .noVerdict (.malformedAnswer url exception)
  | .other exception => .raised exception

variable {τ : Type}

/-- Reads the answer from a URL. Its status is looked at before its body. -/
def Client.read (client : Client τ) (url : Text) (response : Response) :
    Except Trouble Report := do
  client.checkStatus url response
  client.readReport response.body

def report (url : Text) (client : Client τ) (document : Text) :
    StateM τ (Except Failure Report) := do
  let answer ← client.post url document
  return (answer >>= client.read url).mapError (Trouble.failure url)

/-- The errors that a report comes to: none for a valid document, at least one otherwise. -/
def errorsOf (report : Report) : List String :=
  if report.valid then [] else if report.errors.isEmpty then [""] else report.errors

def oracle (url : Text) (client : Client τ) : Oracle τ :=
  let errors (document : Text) : StateM τ (Except Failure (List String)) := do
    return (← report url client document).map errorsOf
  { name := "http"
    errors
    isValid := fun document => do return (← report url client document).map Report.valid
    firstError := fun document => do return (← errors document).map List.head?
    close := client.close }

def requiredUrl : Option Text → Except Failure Text
  | some (c :: rest) => .ok (c :: rest)
  | _ => .error (.noVerdict .missingUrl)

end Culprit.Http
