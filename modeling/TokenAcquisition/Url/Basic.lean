import TokenAcquisition.Url.Form

/-!
URLs as records of their components, each component in its encoded form.
-/

namespace TokenAcquisition

/-- Where a URL points to: credentials, host and port. -/
structure Url.Authority where
  username : String := ""
  password : Option String := none
  /-- The host as written in a URL; it is empty when there is none. -/
  host : String
  /-- A port that is not the usual one of the scheme. -/
  port : Option Nat := none
  deriving DecidableEq, Repr

/-- A URL.  The path is kept as text: it is empty, starts with a slash, or, in a URL without
authority, is a text of its own kind that nothing can be relative to. -/
structure Url where
  scheme : String
  authority : Option Url.Authority
  path : String
  query : Option String := none
  fragment : Option String := none
  deriving DecidableEq, Repr

namespace Url

inductive Fault where
  | emptyHost
  | domainName
  | port
  | ipv4Address
  | ipv6Address
  | domainCharacter
  | relativeWithoutBase
  | relativeToPathText
  | hostOnPathText
  deriving DecidableEq, Repr

def Fault.message : Fault → String
  | .emptyHost => "empty host"
  | .domainName => "invalid international domain name"
  | .port => "invalid port number"
  | .ipv4Address => "invalid IPv4 address"
  | .ipv6Address => "invalid IPv6 address"
  | .domainCharacter => "invalid domain character"
  | .relativeWithoutBase => "relative URL without a base"
  | .relativeToPathText => "relative URL with a cannot-be-a-base base"
  | .hostOnPathText => "a cannot-be-a-base URL doesn’t have a host to set"

/-- The schemes with rules of their own. -/
inductive Kind where
  | file
  | web
  | other
  deriving DecidableEq, Repr

def Kind.ofScheme (scheme : String) : Kind :=
  if scheme = "file" then .file
  else if scheme = "http" ∨ scheme = "https" ∨ scheme = "ws" ∨ scheme = "wss" ∨ scheme = "ftp" then
    .web
  else .other

def Kind.isSpecial (kind : Kind) : Bool :=
  kind != .other

def usualPort? (scheme : String) : Option Nat :=
  if scheme = "http" ∨ scheme = "ws" then some 80
  else if scheme = "https" ∨ scheme = "wss" then some 443
  else if scheme = "ftp" then some 21
  else none

def kind (url : Url) : Kind :=
  Kind.ofScheme url.scheme

/-- The path is a text that nothing can be relative to. -/
def hasPathText (url : Url) : Bool :=
  url.authority.isNone && !url.path.toList.head?.any (· == '/')

def host (url : Url) : String :=
  (url.authority.map Authority.host).getD ""

/-- The credentials with the mark that ends them. -/
def Authority.renderUserinfo (authority : Authority) : String :=
  match authority.password with
  | some password => authority.username ++ ":" ++ password ++ "@"
  | none => if authority.username.isEmpty then "" else authority.username ++ "@"

def Authority.render (authority : Authority) : String :=
  authority.renderUserinfo ++ authority.host ++
    (match authority.port with
    | some port => ":" ++ toString port
    | none => "")

/-- What stands between the scheme and the path.  A path that starts with two slashes is kept
apart from the scheme by a dot segment. -/
def renderAuthority (url : Url) : String :=
  match url.authority with
  | some authority => "//" ++ authority.render
  | none => if url.path.toList.take 2 = ['/', '/'] then "/." else ""

def render (url : Url) : String :=
  url.scheme ++ ":" ++ url.renderAuthority ++ url.path ++
    (match url.query with
    | some query => "?" ++ query
    | none => "") ++
    (match url.fragment with
    | some fragment => "#" ++ fragment
    | none => "")

def queryPairs (url : Url) : List (String × String) :=
  match url.query with
  | some query => Form.decode query.toList
  | none => []

/-- The names and values of the fragment, read as a query. -/
def fragmentPairs (url : Url) : List (String × String) :=
  match url.fragment with
  | some fragment => Form.decode fragment.toList
  | none => []

def appendQuery (url : Url) (pairs : List (String × String)) : Url :=
  { url with query := some (String.ofList (Form.append (url.query.getD "").toList pairs)) }

end Url

end TokenAcquisition
