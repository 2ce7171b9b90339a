import TokenAcquisition.Cloud
import TokenAcquisition.Strategy
import TokenAcquisition.Toml.Parser

/-!
Settings: the registration of an application and what it runs with, read from a TOML document.
The client id may be given from outside instead.
-/

namespace TokenAcquisition

structure Settings where
  clientId : String
  redirectUri : String
  /-- The authority as it was written. -/
  authorityText : String
  authority : Url
  scopes : List String
  applicationUid : Int
  multipleClouds : Bool
  slice : Option String
  dc : Option String
  flightParameters : SortedMap String
  cachePath : String
  /-- How many seconds to wait for a redirect; without a number there is no limit. -/
  timeout : Option Nat
  clouds : List Cloud

namespace Settings

inductive Fault where
  /-- A value that was read but cannot be accepted. -/
  | refused (reason : String)
  | unreadable (detail : String)
  /-- The document is not TOML, or not that of settings. -/
  | malformed (detail : String)
  deriving DecidableEq, Repr

def Fault.kind : Fault → String
  | .refused _ => "config"
  | .unreadable _ => "io"
  | .malformed _ => "toml"

def Fault.message : Fault → String
  | .refused reason => "Configuration error: " ++ reason
  | .unreadable detail => "I/O error: " ++ detail
  | .malformed detail => "TOML parse error: " ++ detail

def Fault.cause : Fault → Option String
  | .refused _ => none
  | .unreadable detail => some detail
  | .malformed detail => some detail

/-! ### What is written -/

/-- The settings of a document before they are looked over. -/
structure Draft where
  clientId : String
  redirectUri : String
  authority : String
  scopes : List String
  applicationUid : Int
  multipleClouds : Bool := false
  slice : Option String := none
  dc : Option String := none
  flightParameters : SortedMap String := .empty
  cachePath : String
  timeout : Option Nat := none
  clouds : List Cloud := []

def defaultAuthority : String := "https://login.microsoftonline.com/common"

def defaultScopes : List String := ["user.read"]

def defaultCachePath : String := "identity-cache.json"

/-- An integer of at most 32 bits. -/
def integer32? (value : Toml) : Option Int :=
  value.integer?.filter fun n => Int32.minValue.toInt ≤ n && n ≤ Int32.maxValue.toInt

/-- A natural number of at most 64 bits. -/
def word? (value : Toml) : Option Nat :=
  match value.integer? with
  | some (.ofNat n) => if n < UInt64.size then some n else none
  | _ => none

private def named (names : List String) : List Field :=
  names.map fun name => ⟨name, []⟩

def cloud? (value : Toml) : Option Cloud := do
  let r ← value.record? (named ["preferred_network_host", "preferred_cache_host", "aliases"])
  some
    { networkHost := ← r.required "preferred_network_host" Toml.str?
      cacheHost := ← r.required "preferred_cache_host" Toml.str?
      aliases := ← r.required "aliases" (Toml.list? Toml.str?) }

def client? (value : Toml) : Option Draft := do
  let r ← value.record?
    (named ["client_id", "redirect_uri", "authority", "scopes", "application_uid"])
  some
    { clientId := ← r.withDefault "client_id" "" Toml.str?
      redirectUri := ← r.required "redirect_uri" Toml.str?
      authority := ← r.withDefault "authority" defaultAuthority Toml.str?
      scopes := ← r.withDefault "scopes" defaultScopes (Toml.list? Toml.str?)
      applicationUid := ← r.withDefault "application_uid" 0 integer32?
      cachePath := defaultCachePath }

def strategy? (draft : Draft) (value : Toml) : Option Draft := do
  let r ← value.record?
    (named ["multiple_clouds_supported", "slice", "dc", "flight_parameters"])
  some
    { draft with
      multipleClouds := ← r.withDefault "multiple_clouds_supported" false Toml.bool?
      slice := ← r.given "slice" Toml.str?
      dc := ← r.given "dc" Toml.str?
      flightParameters := ← r.withDefault "flight_parameters" .empty (Toml.map? Toml.str?) }

def cache? (draft : Draft) (value : Toml) : Option Draft := do
  let r ← value.record? (named ["path"])
  some { draft with cachePath := ← r.withDefault "path" defaultCachePath Toml.str? }

def interactive? (draft : Draft) (value : Toml) : Option Draft := do
  let r ← value.record? (named ["timeout_secs"])
  some { draft with timeout := ← r.given "timeout_secs" word? }

def draft? (document : Toml) : Option Draft := do
  let r ← document.record? (named ["client", "strategy", "cache", "interactive", "clouds"])
  let draft ← r.required "client" client?
  let draft ← r.withDefault "strategy" draft (strategy? draft)
  let draft ← r.withDefault "cache" draft (cache? draft)
  let draft ← r.withDefault "interactive" draft (interactive? draft)
  some { draft with clouds := ← r.withDefault "clouds" [] (Toml.list? cloud?) }

/-! ### What is accepted -/

private def demand (holds : Bool) (reason : String) : Except Fault Unit :=
  if holds then .ok () else .error (.refused reason)

@[simp]
theorem demand_bind_eq_ok_iff {α : Type} {holds : Bool} {reason : String}
    {next : Unit → Except Fault α} {a : α} :
    (demand holds reason >>= next) = .ok a ↔ holds = true ∧ next () = .ok a := by
  cases holds with
  | false => exact ⟨nofun, nofun⟩
  | true => exact ⟨fun made => ⟨rfl, made⟩, And.right⟩

def ofDraft (draft : Draft) : Except Fault Settings := do
  demand (!Text.allBlank draft.clientId)
    "client.client_id must be set in the config file or IDENTITY_CLIENT_ID"
  demand (!Text.allBlank draft.redirectUri) "client.redirect_uri must not be empty"
  let authority ←
    match Url.parse draft.authority with
    | .ok url => pure url
    | .error fault =>
        throw (Fault.refused ("client.authority is not a URL: " ++ fault.message))
  demand (authority.scheme == "https")
    ("client.authority must use https, got: " ++ authority.render)
  demand (draft.scopes.all fun scope => !Text.allBlank scope)
    "client.scopes must not contain empty entries"
  demand (draft.timeout != some 0) "interactive.timeout_secs must be greater than 0"
  demand
    (draft.clouds.all fun cloud =>
      !Text.allBlank cloud.networkHost && !Text.allBlank cloud.cacheHost)
    "clouds entries need preferred_network_host and preferred_cache_host"
  return {
    clientId := draft.clientId
    redirectUri := draft.redirectUri
    authorityText := draft.authority
    authority
    scopes := draft.scopes
    applicationUid := draft.applicationUid
    multipleClouds := draft.multipleClouds
    slice := draft.slice
    dc := draft.dc
    flightParameters := draft.flightParameters
    cachePath := draft.cachePath
    timeout := draft.timeout
    clouds := draft.clouds }

/-- The settings of a document.  A client id from outside takes the place of the written one. -/
def parse (text : String) (clientId : Option String) : Except Fault Settings :=
  match (Toml.parse? text).bind draft? with
  | some draft => ofDraft { draft with clientId := clientId.getD draft.clientId }
  | none => .error (.malformed "unexpected content")

/-! ### What they are for -/

def strategyConfig (settings : Settings) : Except Fault StrategyConfig :=
  match StrategyConfig.ofAuthority settings.authority with
  | .error failure => .error (.refused ("invalid authority: " ++ failure.cause.message))
  | .ok config =>
      .ok
        { config with
          multipleClouds := settings.multipleClouds
          flightParameters := settings.flightParameters
          slice :=
            if settings.slice.isSome || settings.dc.isSome then
              some { slice := settings.slice, dc := settings.dc }
            else config.slice }

/-- The well-known clouds and those of the settings. -/
def cloudRegistry (settings : Settings) : CloudRegistry :=
  CloudRegistry.wellKnown.registerAll settings.clouds

/-- The path of the document: that of the command line, or else that of the environment, or else
a fixed one. -/
def path (commandLine environment : Option String) : String :=
  (commandLine <|> environment).getD "identity-cli.toml"

end Settings

end TokenAcquisition
