import Culprit.Host.Json.Document
import Culprit.Host.Model.Reading
import Culprit.Host.Url.Read
import Culprit.Oracle.Http

/-!
# A client for remote verifiers

The client that evaluated runs use; the remote oracle takes any other as well. It decides over a
transport where a request goes, objects to bad statuses and reads bodies as JSON, within a number of
arrays and objects in each other, and that as a report. A URL that cannot be used is an exception of
its own, since no request is made. Nor is one over a client that is closed. What is said about a bad
status is up to whoever opens the client.
-/

namespace Culprit.Http

abbrev Transport (τ : Type) := Url → Text → StateM τ (Except String Response)

/-- A connection over a transport, until it is closed. -/
structure Connection (τ : Type) where
  transport : τ
  closed : Bool

def isSuccess (status : Nat) : Bool := status / 100 == 2

/-! ### The URL of a request -/

def badName (fault : Domain.NameFault) : Exception := ⟨"IDNAError", fault.message, []⟩

def unknownScheme (url : Text) : Exception :=
  ⟨"ValueError", "unknown url type: " ++ String.ofList (Text.quote url), []⟩

/-- The URL that a request to a URL goes to. A host in ASCII that is marked to stand for another
name has to do so. -/
def requestUrl (url : Text) : Except Trouble Url := do
  let request ← ((Url.read url).bind Url.requested).mapError fun error =>
    .other ⟨"InvalidURL", error.message, []⟩
  if Domain.asciiMark.isPrefixOf request.host then
    match Domain.readAsciiName request.host with
    | .ok _ => return request
    | .error fault => throw (.malformed (badName fault))
  else return request

/-! ### The body of an answer -/

def undocumented (error : Json.DocumentError) : Exception :=
  let kind := match error with
    | .undecodable _ => "UnicodeDecodeError"
    | .unreadable _ (.tooManyDigits _) => "ValueError"
    | .unreadable _ _ => "JSONDecodeError"
  ⟨kind, error.message, []⟩

def invalidReport (found : List Violation) : Exception :=
  ⟨"ValidationError", "<validation>", found⟩

/-- Reads a body with no more than the given number of arrays and objects in each other. One that
has more is an exception that is no objection to a value. -/
def readReport (room : Nat) (body : Bytes) : Except Trouble Report :=
  match Json.readDocument room body with
  | .error (.unreadable text (.tooDeep isArray)) =>
    .error (.other ⟨"RecursionError", Json.ReadError.message text (.tooDeep isArray), []⟩)
  | .error error => .error (.malformed (undocumented error))
  | .ok value => (Model.readReport value).mapError fun found => .malformed (invalidReport found)

/-! ### The client -/

variable {τ : Type}

def closedClient : Exception :=
  ⟨"RuntimeError", "Cannot send a request, as the client has been closed.", []⟩

def post (send : Transport τ) (url document : Text) :
    StateM (Connection τ) (Except Trouble Response) := fun connection =>
  match requestUrl url with
  | .error trouble => (.error trouble, connection)
  | .ok request =>
    if connection.closed then (.error (.other closedClient), connection)
    else
      let (answer, transport) := send request document connection.transport
      let result := match answer with
        | .error reason => .error (.failed reason)
        | .ok response =>
          if request.scheme.isEmpty then .error (.malformed (unknownScheme request.text))
          else .ok response
      (result, { connection with transport })

def checkStatus (describe : Text → Nat → String) (url : Text) (response : Response) :
    Except Trouble Unit := do
  let request ← requestUrl url
  if isSuccess response.status then return ()
  else throw (.failed (describe request.text response.status))

def client (room : Nat) (describe : Text → Nat → String) (send : Transport τ) :
    Client (Connection τ) where
  post := post send
  checkStatus := checkStatus describe
  readReport := readReport room
  close := fun connection => (.ok (), { connection with closed := true })

end Culprit.Http
