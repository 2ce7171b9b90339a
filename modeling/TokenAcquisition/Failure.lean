import TokenAcquisition.Text.Uuid

/-!
What an acquisition of tokens can end in other than tokens.  Every failure is of one of five
kinds, and carries the correlation id of the request that produced it once it is stamped.
-/

namespace TokenAcquisition

/-! ### Codes of failures that arise on this side of the wire -/

namespace ClientCode

def noAgentAvailable : String := "no_agent_available"
def flowDisposed : String := "orchestrator_disposed"
def authorizationAbandoned : String := "authorization_abandoned"
def authorizationTimedOut : String := "authorization_timed_out"
def authorizationFailed : String := "authorization_failed"
def authenticationException : String := "authentication_exception"
def stateMismatch : String := "state_mismatch"
def missingParameter : String := "missing_parameter"
def malformedUrl : String := "malformed_url"
def malformedTokenResponse : String := "malformed_token_response"
def invalidIdToken : String := "invalid_id_token"
def invalidClientInfo : String := "invalid_client_info"
def cacheFailure : String := "cache_failure"
def unknownError : String := "unknown_error"
def noTokensFound : String := "no_tokens_found"
def noAccountFound : String := "no_account_found"

end ClientCode

inductive Failure.Cause where
  /-- Something on this side of the wire. -/
  | client (code message : String)
  /-- An answer of the authorization server, with the status of the response if it had one. -/
  | service (code : String) (subcode : Option String) (message : String) (status : Option Nat)
  /-- Only the user can help. -/
  | uiRequired (code : String) (subcode : Option String) (message : String)
  | userCancel
  /-- Anything else, with the texts of what caused it, the nearest first. -/
  | unknown (message : String) (causes : List String)
  deriving DecidableEq, Repr

structure Failure where
  cause : Failure.Cause
  correlationId : Option String := none
  deriving DecidableEq, Repr

/-- A rejected grant: only a new sign-in helps. -/
def isBadToken (code : String) (subcode : Option String) : Bool :=
  Text.sameIgnoringCase code "invalid_grant" &&
    subcode.any fun s => Text.sameIgnoringCase s "bad_token"

namespace Failure

def client (code message : String) : Failure :=
  ⟨.client code message, none⟩

def service (code : String) (subcode : Option String) (message : String) : Failure :=
  ⟨.service code subcode message none, none⟩

def uiRequired (code : String) (subcode : Option String) (message : String) : Failure :=
  ⟨.uiRequired code subcode message, none⟩

def userCancel : Failure :=
  ⟨.userCancel, none⟩

def unknown (message : String) (causes : List String) : Failure :=
  ⟨.unknown message causes, none⟩

/-- Notes the status of the response; other failures than those of the service have none. -/
def withStatus (failure : Failure) (status : Nat) : Failure :=
  match failure.cause with
  | .service code subcode message _ =>
      { failure with cause := .service code subcode message (some status) }
  | _ => failure

/-- Stamps a correlation id; the first one stays. -/
def stamped (failure : Failure) (id : Option String) : Failure :=
  { failure with correlationId := failure.correlationId <|> id }

@[simp]
theorem cause_stamped (failure : Failure) (id : Option String) :
    (failure.stamped id).cause = failure.cause := rfl

def Cause.code : Cause → String
  | .client code _ => code
  | .service code _ _ _ => code
  | .uiRequired code _ _ => code
  | .userCancel => "cancel"
  | .unknown _ _ => ClientCode.unknownError

def Cause.subcode : Cause → Option String
  | .service _ subcode _ _ => subcode
  | .uiRequired _ subcode _ => subcode
  | _ => none

def Cause.status : Cause → Option Nat
  | .service _ _ _ status => status
  | _ => none

/-- What caused it, the nearest first. -/
def Cause.causes : Cause → List String
  | .unknown _ causes => causes
  | _ => []

def Cause.kind : Cause → String
  | .client _ _ => "client"
  | .service _ _ _ _ => "service"
  | .uiRequired _ _ _ => "ui_required"
  | .userCancel => "user_cancel"
  | .unknown _ _ => "unknown"

def Cause.message : Cause → String
  | .client code message => "client error (" ++ code ++ "): " ++ message
  | .service code _ message _ => "service error (" ++ code ++ "): " ++ message
  | .uiRequired code _ message => "interaction required (" ++ code ++ "): " ++ message
  | .userCancel => "user cancelled the authorization flow"
  | .unknown message _ => "unknown error: " ++ message

def isRejectedGrant (failure : Failure) : Bool :=
  isBadToken failure.cause.code failure.cause.subcode

end Failure

/-! ### Correlation ids

A request runs under at most one id at a time; a scope binds an id for what runs inside it and
gives the outer binding back at its end. -/

namespace Correlation

/-- The bound id as an identifier, if it spells one. -/
def uuid? (bound : Option String) : Option Uuid :=
  bound.bind Uuid.parse?

/-- The bindings seen on the way into scopes nested in one another and on the way out: one before
the first, then inside each, then after each. -/
def seen (bound : Option String) : List String → List (Option String)
  | [] => [bound]
  | id :: inner => bound :: seen (some id) inner ++ [bound]

end Correlation

/-! ### Panics -/

/-- What is left of a computation that could not go on: the text that it ended with. -/
structure Panic where
  message : String
  deriving DecidableEq, Repr

def Panic.overflow : Panic :=
  { message := "attempt to add with overflow" }

/-- The sum of two words, unless it is past the last word. -/
def addWords (a b : UInt64) : Except Panic UInt64 :=
  if a.toNat + b.toNat < UInt64.size then .ok (a + b) else .error .overflow

/-- What succeeds with something made of a value has come to that value. -/
theorem exceptMap_eq_ok_iff {ε α β : Type} {answer : Except ε α} {f : α → β} {made : β} :
    answer.map f = .ok made ↔ ∃ value, answer = .ok value ∧ f value = made := by
  cases answer <;> simp [Except.map]

/-- What succeeds in steps is made of what each step comes to. -/
theorem exceptBind_eq_ok_iff {ε α β : Type} {answer : Except ε α} {f : α → Except ε β}
    {made : β} : (answer >>= f) = .ok made ↔ ∃ value, answer = .ok value ∧ f value = .ok made := by
  cases answer <;> simp [bind, Except.bind]

end TokenAcquisition
