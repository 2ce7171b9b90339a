import TokenAcquisition.Failure
import TokenAcquisition.SortedMap
import TokenAcquisition.Text.Uuid
import TokenAcquisition.Url.Basic

/-!
User agents: whatever can show an authorization page to the user.
-/

namespace TokenAcquisition

structure Agent where
  name : String
  version : Option String := none
  deriving DecidableEq, Repr

def Agent.select (agents : List Agent) : Except Failure Agent :=
  match agents with
  | agent :: _ => .ok agent
  | [] =>
      .error (.client ClientCode.noAgentAvailable
        "no user agent is available to run the authorization flow")

structure Launch where
  /-- Echoed back on completion. -/
  requestCode : Int
  url : Url
  redirectUri : String
  headers : SortedMap String
  /-- Names this launch and no other. -/
  token : Uuid
  agent : Agent
  correlationId : Option String

/-- What a launched agent holds until it is released. -/
structure AgentHandle where
  token : Uuid
  agent : String
  deriving DecidableEq, Repr

def Launch.handle (launch : Launch) : AgentHandle :=
  { token := launch.token, agent := launch.agent.name }

inductive LaunchAnswer where
  | launched
  | failed (failure : Failure)
  | panicked (message : String)
  deriving DecidableEq, Repr

end TokenAcquisition
