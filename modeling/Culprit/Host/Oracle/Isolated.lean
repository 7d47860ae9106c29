import Culprit.Host.Command.Process
import Culprit.Host.Oracle.Client
import Culprit.Oracle.Configured

/-!
# Surroundings without a network

The surroundings in which runs are evaluated, one of many that the command and the services could
run in: programs are run at a place, and no request over the network is answered.
-/

namespace Culprit

/-- Why a request is not answered where there is no network. Only requests over two protocols are
tried at all. -/
def unansweredReason (url : Url) : String :=
  match String.ofList url.scheme with
  | "" => "Request URL is missing an 'http://' or 'https://' protocol."
  | "http" => "All connection attempts failed"
  | "https" => "All connection attempts failed"
  | scheme => "Request URL has an unsupported protocol '" ++ scheme ++ "://'."

/-- No answer is ever read here, so no depth needs to be allowed for and no status described. -/
def Surroundings.isolated (place : Command.Place) : Surroundings (Http.Connection Unit) where
  openClient _ :=
    .ok (Http.client 0 (fun _ _ => "") fun url _ => return .error (unansweredReason url))
  run := Command.runProcess place

def Http.Connection.fresh : Http.Connection Unit := ⟨(), false⟩

end Culprit
