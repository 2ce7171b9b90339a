import TokenAcquisition.Account
import TokenAcquisition.Authorization.Result
import TokenAcquisition.Secret
import TokenAcquisition.Token.Response

/-!
Results of an acquisition, and the failure that an unsuccessful one stands for.
-/

namespace TokenAcquisition

/-- Tokens as they are handed to the caller. -/
structure Authentication where
  accessToken : Secret
  idToken : Option String := none
  account : Account
  /-- Milliseconds of Unix time. -/
  expiresOn : UInt64
  scopes : List String
  tenantId : Option String := none
  correlationId : Option String := none
  /-- No request was made for the tokens. -/
  fromCache : Bool
  deriving DecidableEq, Repr

/-- One attempt: the tokens it led to, if any, and the results of its two legs. -/
structure Acquisition where
  local? : Option Authentication := none
  authorization : Option AuthorizationResult := none
  token : Option TokenResult := none
  deriving DecidableEq, Repr

namespace Acquisition

def succeeded (a : Acquisition) : Bool :=
  a.local?.isSome

/-- The failure of an attempt without tokens.  The authorization leg is looked at first. -/
def failure (a : Acquisition) : Failure :=
  match a.authorization with
  | some .cancel => .userCancel
  | some (.error e) => .service e.error e.subcode e.message
  | _ =>
      match a.token with
      | some (.error e) =>
          if e.isBadToken then .uiRequired e.error e.suberror e.message
          else (Failure.service e.error e.suberror e.message).withStatus e.status
      | _ =>
          .unknown
            (ClientCode.unknownError ++ ": token acquisition failed without an error response")
            []

end Acquisition

/-- Why the work of a command ended without a result. -/
inductive Breakdown where
  | typed (failure : Failure)
  /-- Any other error, by its outermost text and those of what lies beneath. -/
  | foreign (message : String) (causes : List String)
  | panic (message : String)
  deriving DecidableEq, Repr

namespace Breakdown

/-- The text of a panic whose payload is no text. -/
def wordlessPanic : String := "non-string panic payload"

/-- The failure of a breakdown.  Typed ones pass through; any other error is kept whole, as what
caused the failure. -/
def failure : Breakdown → Failure
  | .typed failure => failure
  | .foreign message causes => .unknown message (message :: causes)
  | .panic message => .unknown ("command panicked: " ++ message) [message]

/-- A panic, by the text of its payload if that is a text. -/
def ofPayload (payload : Option String) : Breakdown :=
  .panic (payload.getD wordlessPanic)

end Breakdown

/-! ### How the task of a command ends -/

/-- One layer of a raised error: a failure of this library, or anything else by its text. -/
inductive Raised.Layer where
  | typed (failure : Failure)
  | text (message : String)
  deriving DecidableEq, Repr

namespace Raised.Layer

def typed? : Layer → Option Failure
  | .typed failure => some failure
  | .text _ => none

def message : Layer → String
  | .typed failure => failure.cause.message
  | .text message => message

end Raised.Layer

/-- A raised error: each context that was added on the way lies around the layers before it, and
what went wrong at first around what caused it.  What is a cause only is there as a text. -/
structure Raised where
  outermost : Raised.Layer
  inner : List Raised.Layer := []
  deriving DecidableEq, Repr

namespace Raised

def layers (raised : Raised) : List Layer :=
  raised.outermost :: raised.inner

def inContext (raised : Raised) (context : Layer) : Raised :=
  { outermost := context, inner := raised.layers }

/-- The outermost failure of this library. -/
def typed? (raised : Raised) : Option Failure :=
  raised.layers.findSome? Layer.typed?

def breakdown (raised : Raised) : Breakdown :=
  match raised.typed? with
  | some failure => .typed failure
  | none => .foreign raised.outermost.message (raised.inner.map Layer.message)

end Raised

inductive TaskEnd where
  | returned (acquisition : Acquisition)
  | failed (raised : Raised)
  /-- With the payload, if it is a text. -/
  | panicked (payload : Option String)
  /-- Given up by the runtime, with what it says of that. -/
  | aborted (message : String)
  deriving DecidableEq, Repr

def TaskEnd.work : TaskEnd → Except Breakdown Acquisition
  | .returned acquisition => .ok acquisition
  | .failed raised => .error raised.breakdown
  | .panicked payload => .error (.ofPayload payload)
  | .aborted message => .error (.foreign message [])

end TokenAcquisition
