import TokenAcquisition.Failure
import TokenAcquisition.Json.Parser
import TokenAcquisition.Json.Printer
import TokenAcquisition.Json.Value
import TokenAcquisition.Text.Base64Url
import TokenAcquisition.Url.Parser

/-!
Accounts.  An account is made from two texts of the token endpoint: the id token, whose second
segment holds the claims of the user, and the client info, which holds the two halves of the home
account id.  Both are JSON in Base64.  Signatures are not looked at.
-/

namespace TokenAcquisition

/-- The claims of an id token that an account is made from. -/
structure IdTokenClaims where
  iss : Option String := none
  sub : Option String := none
  oid : Option String := none
  tid : Option String := none
  preferredUsername : Option String := none
  name : Option String := none
  deriving DecidableEq, Repr

structure IdToken where
  raw : String
  claims : IdTokenClaims
  deriving DecidableEq, Repr

/-- The halves of a home account id. -/
structure ClientInfo where
  uid : String
  utid : String
  deriving DecidableEq, Repr

structure Account where
  homeAccountId : String
  environment : String
  realm : Option String := none
  localAccountId : Option String := none
  username : Option String := none
  name : Option String := none
  deriving DecidableEq, Repr

/-- Why an encoded text holds no record. -/
inductive EncodedFault where
  | base64 (fault : Text.Base64Url.Fault)
  | json
  deriving DecidableEq, Repr

def EncodedFault.message (what : String) : EncodedFault → String
  | .base64 fault => what ++ " is not base64url: " ++ fault.message
  | .json => what ++ " is not valid JSON: unexpected content"

/-- The value of JSON in Base64; padding at the end is ignored. -/
def readEncoded {α : Type} (read : Json → Option α) (text : List Char) :
    Except EncodedFault α :=
  let unpadded := (text.reverse.dropWhile (· = '=')).reverse
  match Text.Base64Url.decode (Text.encodeChars unpadded) with
  | .error fault => .error (.base64 fault)
  | .ok bytes =>
      match (Json.parse? bytes).bind read with
      | some value => .ok value
      | none => .error .json

namespace IdTokenClaims

def fields : List Field :=
  [⟨"iss", []⟩, ⟨"sub", []⟩, ⟨"oid", []⟩, ⟨"tid", []⟩, ⟨"preferred_username", []⟩, ⟨"name", []⟩]

def ofJson? (value : Json) : Option IdTokenClaims := do
  let r ← value.record? fields
  some
    { iss := ← r.optional "iss" Json.text?
      sub := ← r.optional "sub" Json.text?
      oid := ← r.optional "oid" Json.text?
      tid := ← r.optional "tid" Json.text?
      preferredUsername := ← r.optional "preferred_username" Json.text?
      name := ← r.optional "name" Json.text? }

end IdTokenClaims

namespace IdToken

/-- The part between the first dot and the next one, or the end. -/
def payload? (raw : String) : Option (List Char) :=
  match raw.toList.dropWhile (· ≠ '.') with
  | _ :: rest => some (rest.takeWhile (· ≠ '.'))
  | [] => none

def parse (raw : String) : Except Failure IdToken :=
  match (payload? raw).filter fun payload => !payload.isEmpty with
  | none => .error (.client ClientCode.invalidIdToken "id token is not a JWT")
  | some payload =>
      match readEncoded IdTokenClaims.ofJson? payload with
      | .ok claims => .ok { raw, claims }
      | .error fault => .error (.client ClientCode.invalidIdToken (fault.message "id token"))

end IdToken

namespace ClientInfo

def fields : List Field :=
  [⟨"uid", []⟩, ⟨"utid", []⟩]

def ofJson? (value : Json) : Option ClientInfo := do
  let r ← value.record? fields
  some { uid := ← r.required "uid" Json.text?, utid := ← r.required "utid" Json.text? }

def parse (raw : String) : Except Failure ClientInfo :=
  match readEncoded ofJson? raw.toList with
  | .ok info => .ok info
  | .error fault => .error (.client ClientCode.invalidClientInfo (fault.message "client info"))

/-- The two halves joined by a dot. -/
def homeAccountId (info : ClientInfo) : String :=
  info.uid ++ "." ++ info.utid

end ClientInfo

/-- The parts of a home account id before and after its first dot. -/
def splitHomeAccountId (id : String) : String × String :=
  let cs := id.toList
  (String.ofList (cs.takeWhile (· ≠ '.')), String.ofList ((cs.dropWhile (· ≠ '.')).drop 1))

namespace Account

open Json (encode)

/-- The account of an id token, in the environment of its issuer. -/
def ofIdToken (token : IdToken) (info : ClientInfo) : Account :=
  let issuerHost :=
    match token.claims.iss.map Url.parse with
    | some (.ok url) => url.host
    | _ => ""
  { homeAccountId := info.homeAccountId
    environment := issuerHost
    realm := token.claims.tid
    localAccountId := token.claims.oid <|> token.claims.sub
    username := token.claims.preferredUsername
    name := token.claims.name }

def tenantInfo (account : Account) : String × String :=
  splitHomeAccountId account.homeAccountId

def fields : List Field :=
  [⟨"home_account_id", []⟩, ⟨"environment", []⟩, ⟨"realm", []⟩, ⟨"local_account_id", []⟩,
    ⟨"username", []⟩, ⟨"name", []⟩]

def ofJson? (value : Json) : Option Account := do
  let r ← value.record? fields
  some
    { homeAccountId := ← r.required "home_account_id" Json.text?
      environment := ← r.required "environment" Json.text?
      realm := ← r.optional "realm" Json.text?
      localAccountId := ← r.optional "local_account_id" Json.text?
      username := ← r.optional "username" Json.text?
      name := ← r.optional "name" Json.text? }

def toJson (account : Account) : Json :=
  .record
    [("home_account_id", encode account.homeAccountId),
     ("environment", encode account.environment),
     ("realm", encode account.realm),
     ("local_account_id", encode account.localAccountId),
     ("username", encode account.username),
     ("name", encode account.name)]

instance : Json.Encode Account := ⟨toJson⟩

end Account

end TokenAcquisition
