import TokenAcquisition.CommandLine.Invocation
import TokenAcquisition.CommandLine.Report
import TokenAcquisition.Console
import TokenAcquisition.Dispatch.Scheduler
import TokenAcquisition.Operation

/-!
Runs of the program.  A run submits one command to a dispatcher of its own.  A silent command goes
to its end; an interactive one stops at the console and goes on when a line is typed.
-/

namespace TokenAcquisition.CommandLine

structure Outside where
  /-- The Unix time in milliseconds. -/
  now : UInt64
  transport : List TransportAnswer
  supply : Supply
  correlationId : String

inductive Turn where
  /-- A line from the console is awaited for a launch. -/
  | asking (launch : Launch) (scheduler : Dispatch.Scheduler)
  | ended (ending : Ending) (cache : Cache)

def dispatcher (outside : Outside) (cache : Cache) : Dispatch.Scheduler :=
  { dispatcher :=
      { now := outside.now
        cache
        transport := outside.transport
        agents := [{ name := Console.agentName }]
        supply := outside.supply } }

def operation (settings : Settings) : Except Report Operation :=
  match settings.strategyConfig with
  | .ok config =>
      .ok
        { strategy := { config, registry := settings.cloudRegistry }
          applicationUid := settings.applicationUid
          timeout := settings.timeout }
  | .error fault => .error { text := fault.message, causes := fault.cause.toList }

def interactiveParameters (settings : Settings) (loginHint prompt : Option String) :
    InteractiveParameters :=
  { clientId := settings.clientId
    redirectUri := settings.redirectUri
    scopes := settings.scopes
    loginHint, prompt }

def silentParameters (settings : Settings) (account : Account) (forceRefresh : Bool) :
    SilentParameters :=
  { clientId := settings.clientId, scopes := settings.scopes, account, forceRefresh }

def command (settings : Settings) (operation : Operation) (store : Store) (mode : Mode)
    (id : String) : Except Report (Dispatch.Lane × Program (Except Breakdown Acquisition)) :=
  match mode with
  | .interactive loginHint prompt =>
      let parameters := interactiveParameters settings loginHint prompt
      .ok (.interactive, Operation.supervised (operation.interactive parameters (some id)))
  | .silent wanted forceRefresh =>
      match selectAccount store settings.clientId wanted with
      | some account =>
          let parameters := silentParameters settings account forceRefresh
          .ok (.silent, Operation.supervised (operation.silent parameters (some id)))
      | none => .error .noAccount

def delivered? (s : Dispatch.Scheduler) : Option Outcome :=
  s.dispatcher.events.findSome? fun event => match event with
    | .delivered delivery => some delivery.outcome
    | .deed _ => none

def launched? (s : Dispatch.Scheduler) : Option Launch :=
  s.dispatcher.events.findSome? fun event => match event with
    | .deed (.agent (.launch launch)) => some launch
    | _ => none

/-- Everything goes on, and time passes from the end of one wait to the end of the next, for at most
some waits, until there is what is looked for. -/
def goOnUntil (isThere : Dispatch.Scheduler → Bool) :
    Nat → Dispatch.Scheduler → Dispatch.Scheduler
  | 0, s => s
  | waits + 1, s =>
      let s := s.run
      if isThere s then s
      else
        match s.nextDeadline? with
        | some deadline => goOnUntil isThere waits (s.moveTo deadline)
        | none => s

/-- Far more waits than a run has. -/
def waits : Nat := 100

/-- The turn of a dispatcher that cannot go on by itself. -/
def turn (s : Dispatch.Scheduler) : Turn :=
  match delivered? s, launched? s with
  | some outcome, _ => .ended (.ofOutcome outcome) s.dispatcher.cache
  | none, some launch => .asking launch s
  | none, none =>
      .ended (.ofReport { text := "command ended without an outcome" }) s.dispatcher.cache

def start (settings : Settings) (cache : Cache) (mode : Mode) (outside : Outside) : Turn :=
  let submitted := do
    let op ← operation settings
    let (lane, program) ← command settings op cache.store mode outside.correlationId
    return (dispatcher outside cache).submit lane outside.correlationId 0 program
  match submitted with
  | .ok s => turn (goOnUntil (fun s => (delivered? s).isSome || (launched? s).isSome) waits s)
  | .error report => .ended (.ofReport report) cache

/-- Goes on with a line that was typed after some milliseconds. -/
def resume (s : Dispatch.Scheduler) (launch : Launch) (milliseconds : Nat) (line : String) :
    Turn :=
  let s := s.elapse milliseconds
  let completion := (Console.Reply.ofLine line).completion
  let s := (s.complete launch.requestCode launch.token completion).2
  turn (goOnUntil (fun s => (delivered? s).isSome) waits s)

/-- The settings of an invocation, from what stands at their path. -/
def settings (invocation : Invocation) (environmentPath clientId : Option String)
    (read : Except String String) : Except Report Settings :=
  let path := Settings.path invocation.config environmentPath
  match read with
  | .error detail => .error (.ofSettings path (.unreadable detail))
  | .ok text => (Settings.parse text clientId).mapError (.ofSettings path)

def openCache (file : CacheFile) : Except Report Cache :=
  (Cache.load file).mapError .ofCache

end TokenAcquisition.CommandLine
