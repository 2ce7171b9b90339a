import TokenAcquisition.Url.Host

/-!
Reading URLs, on their own or relative to a base.
-/

namespace TokenAcquisition.Url

def endsPath (c : Char) : Bool :=
  c == '?' || c == '#'

/-- Slashes; a backslash is one under the special schemes. -/
def Kind.isSlash (kind : Kind) (c : Char) : Bool :=
  c == '/' || (kind.isSpecial && c == '\\')

def isAnySlash (c : Char) : Bool :=
  c == '/' || c == '\\'

/-- Line ends and tabs, which are skipped inside a URL. -/
def isBreak (c : Char) : Bool :=
  c == '\t' || c == '\n' || c == '\r'

def withoutBreaks (text : List Char) : List Char :=
  text.filter fun c => !isBreak c

/-- Control characters and blanks around a URL do not belong to it. -/
def trimmed (text : List Char) : List Char :=
  let isEdge (c : Char) : Bool := c.toNat ≤ 0x20
  ((text.dropWhile isEdge).reverse.dropWhile isEdge).reverse

/-- The scheme that starts a text, in small letters, and what follows its colon. -/
def scheme? (text : List Char) : Option (String × List Char) :=
  let belongs (c : Char) : Bool :=
    c.isAlphanum || c == '+' || c == '-' || c == '.' || isBreak c
  if text.head?.any Char.isAlpha then
    match text.dropWhile belongs with
    | ':' :: rest =>
        some (String.ofList ((withoutBreaks (text.takeWhile belongs)).map Char.toLower), rest)
    | _ => none
  else none

/-! ### Paths

A path is built from its end: the reversed text so far, with the slash before the next segment at
its head. -/

def isDrive (segment : List Char) : Bool :=
  match segment with
  | [letter, mark] => letter.isAlpha && (mark == ':' || mark == '|')
  | _ => false

def isWrittenDrive (segment : List Char) : Bool :=
  match segment with
  | [letter, mark] => letter.isAlpha && mark == ':'
  | _ => false

/-- A drive letter that is a whole segment at the start of a text. -/
def startsWithDrive (text : List Char) : Bool :=
  isDrive (text.take 2) &&
    (match text[2]? with
    | some c => isAnySlash c || endsPath c
    | none => true)

def isDot (segment : List Char) : Bool :=
  [".", "%2e", "%2E"].contains (String.ofList segment)

def isDoubleDot (segment : List Char) : Bool :=
  ["..", "%2e%2e", "%2e%2E", "%2E%2e", "%2E%2E", "%2e.", "%2E.", ".%2e", ".%2E"].contains
    (String.ofList segment)

/-- The reversed path without its last segment; the slash before it stays. -/
def dropSegment (kind : Kind) (path : List Char) : List Char :=
  let segment := (path.takeWhile (· != '/')).reverse
  if kind == .file && isWrittenDrive segment then path else path.dropWhile (· != '/')

/-- The last slash can go unless it is the first one or ends a drive letter. -/
def lastSlashCanGo (path : List Char) : Bool :=
  let before := path.drop 1
  before.contains '/' &&
    !startsWithDrive ((before.takeWhile (· != '/')).reverse ++ ['/'])

def ascend (kind : Kind) (path : List Char) : List Char :=
  let path := if path.head? == some '/' && lastSlashCanGo path then path.drop 1 else path
  if path.isEmpty || (kind == .file && isWrittenDrive path.reverse) then path
  else dropSegment kind path

def endWithSlash (path : List Char) : List Char :=
  if path.head? == some '/' then path else '/' :: path

structure PathDraft where
  /-- The path so far, reversed. -/
  path : List Char
  /-- How much of the path stands before its last segment. -/
  start : Nat
  /-- The characters of the last segment that are not in the path yet, reversed. -/
  pending : List Char := []
  /-- A drive letter was found in the first segment. -/
  namesDrive : Bool := false

namespace PathDraft

/-- A path that the next segment comes behind. -/
def behind (path : List Char) : PathDraft :=
  { path, start := path.length }

def flush (draft : PathDraft) : PathDraft :=
  { draft with
    path := (percentEncode inPathSet draft.pending.reverse).reverse ++ draft.path
    pending := [] }

/-- The path is a drive letter without a slash behind it. -/
def isBareDrive (draft : PathDraft) : Bool :=
  match draft.path with
  | [mark, letter, _] => isWrittenDrive [letter, mark]
  | _ => false

/-- Takes in a character of a segment.  A slash comes between it and a bare drive letter. -/
def read (kind : Kind) (draft : PathDraft) (c : Char) : PathDraft :=
  let draft :=
    if kind == .file && draft.isBareDrive then
      { draft with path := '/' :: draft.path, start := draft.start + 1 }
    else draft
  { draft with pending := c :: draft.pending }

def endSegment (kind : Kind) (draft : PathDraft) (hasSlash : Bool) : PathDraft :=
  let draft := draft.flush
  let size := draft.path.length - draft.start
  let segment := (draft.path.take size).reverse
  let before := draft.path.drop size
  let slash := if hasSlash then ['/'] else []
  if isDoubleDot segment then
    let path := ascend kind before
    { behind (if hasSlash then endWithSlash path else path) with namesDrive := draft.namesDrive }
  else if isDot segment then
    { behind (endWithSlash before) with namesDrive := draft.namesDrive }
  else if kind == .file && draft.start == 1 && isDrive segment then
    { behind (slash ++ ':' :: segment.take 1 ++ before) with namesDrive := true }
  else { behind (slash ++ draft.path) with namesDrive := draft.namesDrive }

/-- Takes in the segments of a text.  What stands before a break is written at once. -/
def readAll (kind : Kind) (draft : PathDraft) : List Char → PathDraft
  | [] => draft.endSegment kind false
  | c :: rest =>
      if isBreak c then readAll kind draft.flush rest
      else if kind.isSlash c then readAll kind (draft.endSegment kind true) rest
      else readAll kind (draft.read kind c) rest

/-- The written path.  Paths of files start with one slash. -/
def written (kind : Kind) (draft : PathDraft) : String :=
  let path := draft.path.reverse
  String.ofList (if kind == .file then '/' :: path.dropWhile (· == '/') else path)

end PathDraft

def resolvePath (kind : Kind) (path text : List Char) : String :=
  ((PathDraft.behind path).readAll kind text).written kind

def startPath (kind : Kind) (text : List Char) : String :=
  if kind.isSpecial then
    resolvePath kind ['/'] (if text.head?.any isAnySlash then text.drop 1 else text)
  else
    match text with
    | [] => ""
    | c :: _ => resolvePath kind (if c == '/' then [] else ['/']) text

/-- The URL with another path.  A text that nothing can be relative to does not become a path of
segments: a slash at its start is hidden. -/
def withPath (url : Url) (path : String) : Url :=
  let cs := path.toList
  if url.hasPathText then
    let hidden := if cs.head? == some '/' then "%2F".toList ++ cs.drop 1 else cs
    { url with path := String.ofList (percentEncode isControl hidden) }
  else { url with path := startPath url.kind cs }

/-! ### Query and fragment -/

/-- The URL with the query and the fragment that a text starts with. -/
def withTail (url : Url) (text : List Char) : Url :=
  let queried :=
    match text with
    | '?' :: rest =>
        let set := if url.kind.isSpecial then inSpecialQuerySet else inQuerySet
        some (String.ofList (percentEncode set (rest.takeWhile (· != '#'))))
    | _ => none
  let fragment :=
    match text.dropWhile (· != '#') with
    | _ :: rest => some (String.ofList (percentEncode inFragmentSet rest))
    | [] => none
  { url with query := queried, fragment := fragment }

/-! ### Authority -/

/-- Credentials before the last at-sign, and what follows it. -/
def splitUserinfo (kind : Kind) (text : List Char) :
    Except Fault ((String × Option String) × List Char) :=
  let endsAuthority (c : Char) : Bool := kind.isSlash c || endsPath c
  let whole := text.takeWhile fun c => !endsAuthority c
  if !whole.contains '@' then .ok (("", none), text)
  else
    let hostSize := (whole.reverse.takeWhile (· != '@')).length
    let userinfo := whole.take (whole.length - hostSize - 1)
    let rest := text.drop (userinfo.length + 1)
    if userinfo.isEmpty && rest.head?.any endsAuthority then .error .emptyHost
    else
      let username := percentEncode inUserinfoSet (userinfo.takeWhile (· != ':'))
      let password := percentEncode inUserinfoSet ((userinfo.dropWhile (· != ':')).drop 1)
      .ok ((String.ofList username,
        if password.isEmpty then none else some (String.ofList password)), rest)

/-- The length of the host that a text starts with.  A colon between brackets belongs to it. -/
def hostLength (kind : Kind) (inBrackets : Bool) : List Char → Nat
  | [] => 0
  | c :: rest =>
      if kind.isSlash c || endsPath c || (c == ':' && !inBrackets) then 0
      else 1 + hostLength kind (if c == '[' then true else if c == ']' then false else inBrackets)
        rest

def port? (scheme : String) (value : Nat) (hasDigit : Bool) :
    List Char → Except Fault (Option Nat × List Char)
  | [] => .ok (if hasDigit && usualPort? scheme != some value then some value else none, [])
  | c :: rest =>
      if c.isDigit then
        let next := value * 10 + (c.toNat - 48)
        if next > 65535 then .error .port else port? scheme next true rest
      else if isAnySlash c || endsPath c then
        .ok (if hasDigit && usualPort? scheme != some value then some value else none, c :: rest)
      else .error .port

/-- The rest of a URL after the two slashes that announce an authority. -/
def afterSlashes (scheme : String) (text : List Char) : Except Fault Url := do
  let kind := Kind.ofScheme scheme
  let ((username, password), rest) ← splitUserinfo kind text
  let size := hostLength kind false rest
  let hostText := rest.take size
  if kind == .web && hostText.isEmpty then throw .emptyHost
  let host ← kind.host hostText
  let rest := rest.drop size
  if host.isEmpty && (rest.head? == some ':' || kind.isSpecial) then throw .emptyHost
  let (port, rest) ←
    match rest with
    | ':' :: afterColon => port? scheme 0 false afterColon
    | _ => pure (none, rest)
  if host.isEmpty && (!username.isEmpty || password.isSome) then throw .emptyHost
  let path := startPath kind (rest.takeWhile fun c => !endsPath c)
  let url : Url := { scheme, authority := some { username, password, host, port }, path }
  return url.withTail (rest.dropWhile fun c => !endsPath c)

/-! ### Relative references -/

def basePath (base : Url) : List Char :=
  dropSegment base.kind base.path.toList.reverse

def withFragmentOnly (base : Url) (text : List Char) : Url :=
  { base with fragment := some (String.ofList (percentEncode inFragmentSet (text.drop 1))) }

/-- A text without scheme relative to a base with a path of segments. -/
def relative (base : Url) (text : List Char) : Except Fault Url :=
  let pathText := text.takeWhile fun c => !endsPath c
  let tail := text.dropWhile fun c => !endsPath c
  match text with
  | [] => .ok { base with fragment := none }
  | '?' :: _ => .ok (base.withTail text)
  | '#' :: _ => .ok (base.withFragmentOnly text)
  | c :: rest =>
      if isAnySlash c then
        if rest.head?.any isAnySlash then
          afterSlashes base.scheme
            (if c == '/' && rest.head? == some '/' then rest.drop 1 else text.dropWhile isAnySlash)
        else
          let path := resolvePath base.kind ['/'] (pathText.drop 1)
          .ok (Url.withTail { base with path } tail)
      else
        let start := base.basePath
        let start := if start.isEmpty then ['/'] else start
        .ok (Url.withTail { base with path := resolvePath base.kind start pathText } tail)

/-! ### Files -/

/-- A file URL after two slashes: a host, unless a drive letter stands there, and a path.  Without
a host the path starts behind a slash of its own; a path that names a drive takes the host away. -/
def fileAfterSlashes (text : List Char) : Except Fault Url := do
  let belongs (c : Char) : Bool := !(isAnySlash c || endsPath c)
  let hostText := withoutBreaks (text.takeWhile belongs)
  let startsWithHost := !isDrive hostText
  let host ← if !startsWithHost || hostText.isEmpty then pure "" else specialHost hostText
  let host := if host == "localhost" then "" else host
  let rest := if startsWithHost then text.dropWhile belongs else text
  let pathText := rest.takeWhile fun c => !endsPath c
  let hasSlash := !host.isEmpty && pathText.head?.any isAnySlash
  let behindSlash := if hasSlash then pathText.drop 1 else pathText
  let draft := (PathDraft.behind ['/']).readAll .file behindSlash
  let url : Url :=
    { scheme := "file"
      authority := some { host := if draft.namesDrive then "" else host }
      path := draft.written .file }
  return url.withTail (withoutBreaks (rest.dropWhile fun c => !endsPath c))

def file (base : Option Url) (text : List Char) : Except Fault Url :=
  let text := text.dropWhile isBreak
  let pathText := text.takeWhile fun c => !endsPath c
  let tail := withoutBreaks (text.dropWhile fun c => !endsPath c)
  let plain : Url :=
    Url.withTail
      { scheme := "file", authority := some { host := "" },
        path := resolvePath .file ['/'] pathText }
      tail
  match text with
  | c :: rest =>
      if isAnySlash c then
        match rest.dropWhile isBreak with
        | d :: afterSlashes =>
            if isAnySlash d then fileAfterSlashes afterSlashes
            else .ok (rooted base rest pathText tail)
        | [] => .ok (rooted base rest pathText tail)
      else
        match base with
        | some base =>
            if c == '?' then .ok (base.withTail tail)
            else if c == '#' then .ok (base.withFragmentOnly tail)
            else if startsWithDrive (withoutBreaks text) then .ok plain
            else
              .ok (Url.withTail
                { base with path := resolvePath .file base.basePath pathText } tail)
        | none => .ok plain
  | [] =>
      match base with
      | some base => .ok { base with fragment := none }
      | none => .ok plain
where
  /-- A path from the root keeps the drive letter or the host of the base. -/
  rooted (base : Option Url) (rest pathText tail : List Char) : Url :=
    let first := (base.map fun url => (url.path.toList.drop 1).takeWhile (· != '/')).getD []
    let keeps := !startsWithDrive (withoutBreaks rest)
    let drive := if keeps && isWrittenDrive first then first.reverse ++ ['/'] else []
    let host := if keeps && drive.isEmpty then (base.map Url.host).getD "" else ""
    Url.withTail
      { scheme := "file", authority := some { host }, path := resolvePath .file drive pathText }
      tail

/-! ### Whole URLs -/

def other (scheme : String) (text : List Char) : Except Fault Url :=
  let pathText := text.takeWhile fun c => !endsPath c
  let tail := text.dropWhile fun c => !endsPath c
  match text with
  | '/' :: '/' :: rest => afterSlashes scheme rest
  | '/' :: _ =>
      .ok (Url.withTail
        { scheme, authority := none, path := resolvePath .other ['/'] (pathText.drop 1) } tail)
  | _ =>
      .ok (Url.withTail
        { scheme, authority := none, path := String.ofList (percentEncode isControl pathText) }
        tail)

def parseFrom (base : Option Url) (text : String) : Except Fault Url :=
  let cs := trimmed text.toList
  match scheme? cs with
  | some (scheme, behindScheme) =>
      let rest := withoutBreaks behindScheme
      match Kind.ofScheme scheme with
      | .file => file (base.filter fun url => url.scheme == "file") behindScheme
      | .web =>
          let slashes := (rest.takeWhile isAnySlash).length
          match base with
          | some base =>
              if slashes < 2 && base.scheme == scheme then relative base rest
              else afterSlashes scheme (rest.drop slashes)
          | none => afterSlashes scheme (rest.drop slashes)
      | .other => other scheme rest
  | none =>
      match base with
      | none => .error .relativeWithoutBase
      | some base =>
          if cs.head? == some '#' then .ok (base.withFragmentOnly (withoutBreaks cs))
          else if base.hasPathText then .error .relativeToPathText
          else if base.kind == .file then file (some base) cs
          else relative base (withoutBreaks cs)

def parse (text : String) : Except Fault Url :=
  parseFrom none text

def join (base : Url) (reference : String) : Except Fault Url :=
  parseFrom (some base) reference

end TokenAcquisition.Url
