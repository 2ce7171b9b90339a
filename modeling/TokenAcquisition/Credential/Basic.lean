import TokenAcquisition.Account
import TokenAcquisition.AppMetadata
import TokenAcquisition.Failure
import TokenAcquisition.Secret
import TokenAcquisition.Text.Characters

/-!
Credentials: the tokens cached for an account of an application in an environment.
-/

namespace TokenAcquisition

/-- Tokens with what they were issued for. -/
structure Credential where
  account : Account
  accessToken : Option Secret := none
  refreshToken : Option Secret := none
  idToken : Option String := none
  /-- Milliseconds of Unix time. -/
  expiresOn : UInt64 := 0
  scopes : List String := []
  tenantId : Option String := none
  deriving DecidableEq, Repr

namespace Credential

open Json (encode)

/-- Tokens that end this soon, in milliseconds, count as expired. -/
def expiryBuffer : UInt64 := 300000

def hasAccessToken (c : Credential) : Bool :=
  c.accessToken.any Secret.isFilled

def hasRefreshToken (c : Credential) : Bool :=
  c.refreshToken.any Secret.isFilled

def covers (c : Credential) (scopes : List String) : Bool :=
  scopes.all fun scope => c.scopes.any fun cached => Text.sameIgnoringCase cached scope

/-- Whether the access token can be handed out for some scopes.  Where there is one, the buffer is
added to the time, and the sum may be past the last instant. -/
def hasValidAccessToken (c : Credential) (scopes : List String) (now : UInt64) :
    Except Panic Bool :=
  if c.hasAccessToken then do
    let buffered ← addWords now expiryBuffer
    return decide (buffered < c.expiresOn) && c.covers scopes
  else .ok false

def withoutTokens (c : Credential) : Credential :=
  { c with accessToken := none, refreshToken := none, expiresOn := 0 }

def fields : List Field :=
  [⟨"account", []⟩, ⟨"access_token", []⟩, ⟨"refresh_token", []⟩, ⟨"id_token", []⟩,
    ⟨"expires_on", []⟩, ⟨"scopes", []⟩, ⟨"tenant_id", []⟩]

def ofJson? (value : Json) : Option Credential := do
  let r ← value.record? fields
  some
    { account := ← r.required "account" Account.ofJson?
      accessToken := ← r.optional "access_token" Secret.ofJson?
      refreshToken := ← r.optional "refresh_token" Secret.ofJson?
      idToken := ← r.optional "id_token" Json.text?
      expiresOn := ← r.withDefault "expires_on" 0 Json.word?
      scopes := ← r.withDefault "scopes" [] (Json.list? Json.text?)
      tenantId := ← r.optional "tenant_id" Json.text? }

def toJson (c : Credential) : Json :=
  .record
    [("account", encode c.account),
     ("access_token", encode c.accessToken),
     ("refresh_token", encode c.refreshToken),
     ("id_token", encode c.idToken),
     ("expires_on", encode c.expiresOn),
     ("scopes", encode c.scopes),
     ("tenant_id", encode c.tenantId)]

instance : Json.Encode Credential := ⟨toJson⟩

/-- The key of a credential: home account, environment and client in small letters. -/
def key (clientId homeAccountId environment : String) : String :=
  Text.lowerAscii (homeAccountId ++ "-" ++ environment ++ "-" ++ clientId)

def keyOf (clientId : String) (account : Account) : String :=
  key clientId account.homeAccountId account.environment

end Credential

end TokenAcquisition
