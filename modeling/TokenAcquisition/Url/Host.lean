import TokenAcquisition.Url.Address
import TokenAcquisition.Url.DomainName

/-!
Hosts.  Under the special schemes a host is an address or a domain name; elsewhere it is an
address in brackets or a text without the characters that end or divide hosts.
-/

namespace TokenAcquisition.Url

/-- The address between brackets, if the text starts with one. -/
def bracketed? (text : List Char) : Option (Except Fault String) :=
  match text with
  | '[' :: rest =>
      some <|
        if rest.getLast? = some ']' then
          match ipv6? rest.dropLast with
          | some pieces => .ok ("[" ++ renderIpv6 pieces ++ "]")
          | none => .error .ipv6Address
        else .error .ipv6Address
  | _ => none

def specialHost (text : List Char) : Except Fault String :=
  match bracketed? text with
  | some answer => answer
  | none =>
      match DomainName.toAscii? (percentDecode (Text.encodeChars text)) with
      | none => .error .domainName
      | some name =>
          if name.isEmpty then .error .emptyHost
          else if endsInNumber name.toList then
            match ipv4? name.toList with
            | some address => .ok (renderIpv4 address)
            | none => .error .ipv4Address
          else .ok name

def isForbiddenInHost (c : Char) : Bool :=
  c.toNat == 0 || "\t\n\r #/:<>?@[\\]^|".toList.contains c

def otherHost (text : List Char) : Except Fault String :=
  match bracketed? text with
  | some answer => answer
  | none =>
      if text.any isForbiddenInHost then .error .domainCharacter
      else .ok (String.ofList (percentEncode isControl text))

def Kind.host (kind : Kind) (text : List Char) : Except Fault String :=
  if kind.isSpecial then specialHost text else otherHost text

/-- A host given by name: text from the first colon on does not belong to it unless the whole is
in brackets. -/
def beforePort (name : List Char) : List Char :=
  if name.head? = some '[' ∧ name.getLast? = some ']' then name else name.takeWhile (· ≠ ':')

/-- The URL with another host; credentials, port, path, query and fragment stay, and so does a dot
segment that kept the path apart from the scheme. -/
def withHost (url : Url) (name : String) : Except Fault Url :=
  let cs := name.toList
  if url.hasPathText then .error .hostOnPathText
  else if cs.isEmpty && url.kind == .web then .error .emptyHost
  else if (beforePort cs).isEmpty && !cs.isEmpty then .error .domainCharacter
  else
    match url.kind.host (beforePort cs) with
    | .error fault => .error fault
    | .ok host =>
        let (authority, path) :=
          match url.authority with
          | some authority => ({ authority with host := host }, url.path)
          | none => ({ host := host }, url.renderAuthority ++ url.path)
        .ok { url with authority := some authority, path }

end TokenAcquisition.Url
