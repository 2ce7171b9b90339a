import TokenAcquisition.Command
import TokenAcquisition.CommandLine.Invocation
import TokenAcquisition.Settings

/-!
What the program prints at its end: a summary of the tokens without the tokens themselves, or a
failure with what caused it.
-/

namespace TokenAcquisition.CommandLine

open Json (encode)

/-- A failure of the program with its causes, the nearest first. -/
structure Report where
  text : String
  causes : List String := []
  deriving DecidableEq, Repr

namespace Report

/-- Text with an indentation behind each of its line ends. -/
def indented (indentation text : String) : String :=
  String.ofList <| text.toList.flatMap fun c =>
    if c = '\n' then c :: indentation.toList else [c]

/-- The number of a cause, at the right of five columns. -/
def numbered (n : Nat) (cause : String) : String :=
  let digits := toString n
  String.ofList (List.replicate (5 - digits.length) ' ') ++ digits ++ ": " ++
    indented "       " cause

/-- The lines of the causes.  A single one needs no number. -/
def causeLines : List String → List String
  | [] => []
  | [cause] => ["    " ++ indented "    " cause]
  | causes => causes.zipIdx.map fun entry => numbered entry.2 entry.1

def render (report : Report) : String :=
  let causes :=
    if report.causes.isEmpty then ""
    else "\n\nCaused by:\n" ++ "\n".intercalate (causeLines report.causes)
  "Error: " ++ report.text ++ causes ++ "\n"

def ofUsage (fault : UsageFault) : Report :=
  { text := fault.message }

def ofSettings (path : String) (fault : Settings.Fault) : Report :=
  { text := "failed to load config from " ++ path
    causes := fault.message :: fault.cause.toList }

def ofFailure (failure : Failure) : Report :=
  { text := failure.cause.message, causes := failure.cause.causes }

def ofCache (failure : Failure) : Report :=
  { text := "failed to open credential cache"
    causes := failure.cause.message :: failure.cause.causes }

def noAccount : Report :=
  { text := "no matching cached account, sign in with \x60identity-cli interactive\x60 first" }

end Report

def summary (tokens : Authentication) : Json :=
  .record
    [("correlation_id", encode tokens.correlationId),
     ("environment", encode tokens.account.environment),
     ("expires_on", encode tokens.expiresOn),
     ("from_cache", encode tokens.fromCache),
     ("home_account_id", encode tokens.account.homeAccountId),
     ("scopes", encode tokens.scopes),
     ("tenant_id", encode tokens.tenantId),
     ("username", encode tokens.account.username)]

/-- What a run leaves behind: its exit code and what it prints. -/
structure Ending where
  exitCode : Nat
  output : String := ""
  errors : String := ""
  deriving DecidableEq, Repr

namespace Ending

def ofReport (report : Report) : Ending :=
  { exitCode := 1, errors := report.render }

/-- The ending of a run with an outcome.  A cancelled sign-in has an exit code of its own. -/
def ofOutcome : Outcome → Ending
  | .success tokens => { exitCode := 0, output := (summary tokens).renderLines ++ "\n" }
  | .cancel => { exitCode := 2 }
  | .error failure => ofReport (.ofFailure failure)

end Ending

end TokenAcquisition.CommandLine
