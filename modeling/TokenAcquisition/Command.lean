import TokenAcquisition.Acquisition

/-!
Commands: what a caller asks for, and what the caller is told in the end.
-/

namespace TokenAcquisition

structure InteractiveParameters where
  clientId : String := ""
  redirectUri : String := ""
  scopes : List String := []
  loginHint : Option String := none
  prompt : Option String := none
  extraQuery : List (String × String) := []
  extraScopes : List String := []
  /-- The account to offer first. -/
  account : Option Account := none

structure SilentParameters where
  clientId : String
  scopes : List String
  account : Account
  forceRefresh : Bool := false

/-- What the caller is told; one of three, once. -/
inductive Outcome where
  | success (authentication : Authentication)
  | cancel
  | error (failure : Failure)
  deriving DecidableEq, Repr

/-- What a caller does about the outcome of a command.  One method runs for each command. -/
structure Callback (α : Type) where
  onSuccess : Authentication → α
  onCancel : α
  onError : Failure → α

namespace Outcome

def label : Outcome → String
  | .success _ => "success"
  | .cancel => "cancel"
  | .error _ => "error"

def deliver {α : Type} (outcome : Outcome) (callback : Callback α) : α :=
  match outcome with
  | .success authentication => callback.onSuccess authentication
  | .cancel => callback.onCancel
  | .error failure => callback.onError failure

def ofWork (id : Option String) (work : Except Breakdown Acquisition) : Outcome :=
  match work with
  | .error breakdown => .error (breakdown.failure.stamped id)
  | .ok acquisition =>
      match acquisition.local? with
      | some authentication => .success authentication
      | none =>
          match acquisition.failure.cause with
          | .userCancel => .cancel
          | _ => .error (acquisition.failure.stamped id)

/-- The outcome of a command by the end of its task. -/
def ofTask (id : Option String) (task : TaskEnd) : Outcome :=
  ofWork id task.work

end Outcome

end TokenAcquisition
