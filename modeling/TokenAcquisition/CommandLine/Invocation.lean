import TokenAcquisition.Credential.Store

/-!
Invocations of the program: a mode, and options in any order around it.  Of an option that is
given more than once the last value counts.
-/

namespace TokenAcquisition.CommandLine

inductive Mode where
  | interactive (loginHint prompt : Option String)
  | silent (account : Option String) (forceRefresh : Bool)
  deriving DecidableEq, Repr

structure Invocation where
  config : Option String
  mode : Mode
  deriving DecidableEq, Repr

inductive UsageFault where
  | missingValue (option : String)
  | unexpected (argument : String)
  /-- An option of silent runs in an interactive one. -/
  | silentOnly
  /-- An option of interactive runs in a silent one. -/
  | interactiveOnly
  | missingMode
  deriving DecidableEq, Repr

def UsageFault.message : UsageFault → String
  | .missingValue option => option ++ " needs a value"
  | .unexpected argument => "unexpected argument: " ++ argument
  | .silentOnly => "--account and --force-refresh only apply to silent"
  | .interactiveOnly => "--login-hint and --prompt only apply to interactive"
  | .missingMode => "usage: identity-cli [--config PATH] <interactive|silent> [options]"

inductive ModeWord where
  | interactive
  | silent
  deriving DecidableEq, Repr

def ModeWord.ofText? (text : String) : Option ModeWord :=
  if text = "interactive" then some .interactive
  else if text = "silent" then some .silent
  else none

inductive ValueOption where
  | config
  | loginHint
  | prompt
  | account
  deriving DecidableEq, Repr

namespace ValueOption

def text : ValueOption → String
  | .config => "--config"
  | .loginHint => "--login-hint"
  | .prompt => "--prompt"
  | .account => "--account"

def all : List ValueOption :=
  [.config, .loginHint, .prompt, .account]

def ofText? (text : String) : Option ValueOption :=
  all.find? fun option => option.text = text

end ValueOption

structure Draft where
  mode : Option ModeWord := none
  config : Option String := none
  loginHint : Option String := none
  prompt : Option String := none
  account : Option String := none
  forceRefresh : Bool := false
  deriving DecidableEq, Repr

namespace Draft

/-- Notes the value of an option in place of an earlier one. -/
def set (draft : Draft) (option : ValueOption) (value : String) : Draft :=
  match option with
  | .config => { draft with config := some value }
  | .loginHint => { draft with loginHint := some value }
  | .prompt => { draft with prompt := some value }
  | .account => { draft with account := some value }

def word (draft : Draft) (argument : String) : Except UsageFault Draft :=
  if argument = "--force-refresh" then .ok { draft with forceRefresh := true }
  else
    match ModeWord.ofText? argument, draft.mode with
    | some mode, none => .ok { draft with mode := some mode }
    | _, _ => .error (.unexpected argument)

def read (draft : Draft) : List String → Except UsageFault Draft
  | [] => .ok draft
  | argument :: rest =>
      match ValueOption.ofText? argument with
      | some option =>
          match rest with
          | value :: rest => (draft.set option value).read rest
          | [] => .error (.missingValue argument)
      | none =>
          match draft.word argument with
          | .ok draft => draft.read rest
          | .error fault => .error fault

/-- The invocation of all arguments.  Options of the other mode are refused. -/
def invocation (draft : Draft) : Except UsageFault Invocation :=
  match draft.mode with
  | some .interactive =>
      if draft.account.isSome || draft.forceRefresh then .error .silentOnly
      else
        .ok { config := draft.config, mode := .interactive draft.loginHint draft.prompt }
  | some .silent =>
      if draft.loginHint.isSome || draft.prompt.isSome then .error .interactiveOnly
      else .ok { config := draft.config, mode := .silent draft.account draft.forceRefresh }
  | none => .error .missingMode

end Draft

def Invocation.parse (arguments : List String) : Except UsageFault Invocation :=
  (({} : Draft).read arguments).bind Draft.invocation

/-- The cached account to get tokens for: the first whose home id or user name is the wanted one
up to case, or the first of all. -/
def selectAccount (store : Store) (clientId : String) (wanted : Option String) : Option Account :=
  let accounts := store.accounts clientId
  match wanted with
  | some id =>
      accounts.find? fun account =>
        Text.sameIgnoringCase account.homeAccountId id ||
          account.username.any fun name => Text.sameIgnoringCase name id
  | none => accounts.head?

end TokenAcquisition.CommandLine
