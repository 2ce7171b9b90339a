import TokenAcquisition.Acquisition
import TokenAcquisition.Authorization.Request
import TokenAcquisition.Authorization.Result
import TokenAcquisition.Credential.Store
import TokenAcquisition.Failure
import TokenAcquisition.Flow
import TokenAcquisition.Token.Request
import TokenAcquisition.Token.Response

/-!
Programs: what the work of a command asks of its surroundings, one thing after another, as a tree
of requests and of what follows each answer.  Whoever runs a program supplies the clock, the
cache, the network and the user agent.
-/

namespace TokenAcquisition

inductive Program (α : Type) where
  | done (value : α)
  | now (next : UInt64 → Program α)
  | seeds (next : Seeds → Program α)
  | sleep (milliseconds : Nat) (next : Program α)
  | lookup (clientId : String) (account : Account) (next : Lookup → Program α)
  | save (clientId : String) (credential : Credential) (metadata : Option AppMetadata)
      (next : Except Failure Unit → Program α)
  | invalidate (clientId : String) (account : Account) (next : Except Failure Unit → Program α)
  | post (request : TokenRequest) (next : Except Failure HttpResponse → Program α)
  | launch (request : AuthorizationRequest) (next : Except Failure Unit → Program α)
  /-- Await the answer of the flow, for at most some seconds; no answer came in time if there is
  none. -/
  | await (seconds : Option Nat)
      (next : Option (Except Failure AuthorizationResult) → Program α)
  | dispose (next : Program α)

namespace Program

variable {α β : Type}

def bind (program : Program α) (f : α → Program β) : Program β :=
  match program with
  | .done value => f value
  | .now next => .now fun answer => (next answer).bind f
  | .seeds next => .seeds fun answer => (next answer).bind f
  | .sleep milliseconds next => .sleep milliseconds (next.bind f)
  | .lookup clientId account next => .lookup clientId account fun answer => (next answer).bind f
  | .save clientId c metadata next =>
      .save clientId c metadata fun answer => (next answer).bind f
  | .invalidate clientId account next =>
      .invalidate clientId account fun answer => (next answer).bind f
  | .post request next => .post request fun answer => (next answer).bind f
  | .launch request next => .launch request fun answer => (next answer).bind f
  | .await seconds next => .await seconds fun answer => (next answer).bind f
  | .dispose next => .dispose (next.bind f)

instance : Monad Program where
  pure := .done
  bind := bind

@[simp]
theorem done_bind (value : α) (f : α → Program β) : (Program.done value).bind f = f value := rfl

theorem bind_done (program : Program α) : program.bind .done = program := by
  induction program with
  | done => rfl
  | _ => simp_all [bind]

end Program

/-- What a program does that others can see. -/
inductive Deed where
  | agent (event : Flow.Event)
  | post (request : TokenRequest)

/-- What generated values are made of. -/
structure Supply where
  seeds : Nat → Seeds
  token : Nat → Uuid

/-- A program that can break down. -/
abbrev Work (α : Type) := ExceptT Breakdown Program α

namespace Work

variable {α : Type}

def fail (failure : Failure) : Work α :=
  throw (.typed failure)

/-- Goes on with what has succeeded. -/
def ofResult (result : Except Failure α) : Work α :=
  ExceptT.mk (.done (result.mapError .typed))

/-- Goes on with what did not panic. -/
def ofCheck (check : Except Panic α) : Work α :=
  ExceptT.mk (.done (check.mapError fun panic => .panic panic.message))

/-- Asks for something, and goes on if that succeeds. -/
def orFail (ask : (Except Failure α → Program (Except Breakdown α)) →
    Program (Except Breakdown α)) : Work α :=
  ExceptT.mk (ask fun answer => (ofResult answer).run)

end Work

end TokenAcquisition
