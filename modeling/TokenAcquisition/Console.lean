import TokenAcquisition.Agent
import TokenAcquisition.Authorization.Redirect

/-!
The console as a user agent.  A launch waits in line until the reader of the console prints its
URL and asks for the one that the user was redirected to.
-/

namespace TokenAcquisition.Console

def agentName : String := "console"

/-- Launches that the reader of the console has not seen yet. -/
structure Line where
  waiting : List Launch := []
  isOpen : Bool := true

namespace Line

def launch (line : Line) (launch : Launch) : Except Failure AgentHandle × Line :=
  if line.isOpen then
    (.ok launch.handle, { line with waiting := line.waiting ++ [launch] })
  else
    (.error (.client ClientCode.noAgentAvailable "console is no longer reading redirects"), line)

def receive (line : Line) : Option Launch × Line :=
  match line.waiting with
  | launch :: rest => (some launch, { line with waiting := rest })
  | [] => (none, line)

def close (line : Line) : Line :=
  { line with waiting := [], isOpen := false }

end Line

inductive Reply where
  | redirect (url : String)
  /-- A blank line. -/
  | cancel
  deriving DecidableEq, Repr

/-- Blanks around a URL do not count. -/
def Reply.ofLine (line : String) : Reply :=
  if Text.allBlank line then .cancel else .redirect (Text.trim line)

def Reply.completion : Reply → Completion
  | .redirect url => .ofRedirect url
  | .cancel => .cancelled

def prompt (launch : Launch) : String :=
  "Open this URL in a browser and sign in:\n\n  " ++ launch.url.render ++
    "\n\nPaste the URL you were redirected to (empty line cancels):\n"

end TokenAcquisition.Console
