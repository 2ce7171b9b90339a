import TokenAcquisition.Credential.Basic

/-!
The credentials and application entries that the cache holds, and what each operation makes of
them.  Writing them down is another matter: see the cache file.
-/

namespace TokenAcquisition

structure Store where
  credentials : SortedMap Credential := .empty
  metadata : List AppMetadata := []

inductive Lookup where
  /-- A credential with a token. -/
  | found (credential : Credential)
  | notFound
  /-- A credential without tokens. -/
  | uiRequired
  deriving DecidableEq, Repr

namespace Store

def get? (s : Store) (clientId : String) (account : Account) : Option Credential :=
  s.credentials.find? (Credential.keyOf clientId account)

def lookup (s : Store) (clientId : String) (account : Account) : Lookup :=
  match s.get? clientId account with
  | none => .notFound
  | some c => if c.hasRefreshToken || c.hasAccessToken then .found c else .uiRequired

/-- The application entries with a new one in place of that of the same owner. -/
def withMetadata (entries : List AppMetadata) (entry : AppMetadata) : List AppMetadata :=
  (entries.filter fun m => !m.sameOwner entry) ++ [entry]

/-- The store with a credential.  One that brings no refresh token keeps the stored one. -/
def save (s : Store) (clientId : String) (c : Credential) (metadata : Option AppMetadata) :
    Store :=
  let key := Credential.keyOf clientId c.account
  let refreshToken := c.refreshToken <|> (s.credentials.find? key).bind Credential.refreshToken
  { credentials := s.credentials.insert key { c with refreshToken }
    metadata :=
      match metadata with
      | some entry => withMetadata s.metadata entry
      | none => s.metadata }

def invalidate? (s : Store) (clientId : String) (account : Account) : Option Store :=
  (s.get? clientId account).map fun c =>
    { s with
      credentials := s.credentials.insert (Credential.keyOf clientId account) c.withoutTokens }

def remove? (s : Store) (clientId : String) (account : Account) : Option Store :=
  (s.get? clientId account).map fun _ =>
    { s with credentials := s.credentials.erase (Credential.keyOf clientId account) }

/-- The accounts whose key ends in the client, by home account id. -/
def accounts (s : Store) (clientId : String) : List Account :=
  let ending := ("-" ++ Text.lowerAscii clientId).toList
  let held := s.credentials.entries.filter fun entry => ending.isSuffixOf entry.1.toList
  (held.map fun entry => entry.2.account).mergeSort fun a b =>
    Text.precedes a.homeAccountId b.homeAccountId

def size (s : Store) : Nat :=
  s.credentials.size

def fields : List Field :=
  [⟨"credentials", []⟩, ⟨"app_metadata", []⟩]

def ofJson? (value : Json) : Option Store := do
  let r ← value.record? fields
  let entries ← r.withDefault "app_metadata" [] (Json.list? AppMetadata.ofJson?)
  some
    { credentials := ← r.withDefault "credentials" .empty (Json.map? Credential.ofJson?)
      metadata := entries.eraseDups }

def toJson (s : Store) : Json :=
  .record
    [("credentials", Json.encode s.credentials), ("app_metadata", Json.encode s.metadata)]

end Store

end TokenAcquisition
