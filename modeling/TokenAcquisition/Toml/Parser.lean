import TokenAcquisition.Toml.Scalar

/-!
Reading TOML documents.  A document is first read as a list of statements: headers of tables, and
keys with their values.  The statements then build the tables, each of which is defined once.
-/

namespace TokenAcquisition.Toml

/-- A key, or the parts of a dotted one. -/
abbrev Path := List String

/-- How many parts a dotted key has at most, and how deep arrays and inline tables stand in one
another. -/
def deepest : Nat := 80

inductive Statement where
  /-- The table that the following keys belong to. -/
  | table (path : Path)
  /-- A new element of a list of tables. -/
  | element (path : Path)
  | assign (path : Path) (value : Toml)

/-! ### Statements -/

def skipGaps (text : List Char) : List Char :=
  text.dropWhile isGap

def afterComment? (text : List Char) : Option (List Char) :=
  match text with
  | '#' :: rest =>
      let ends (c : Char) : Bool := c == '\n' || c == '\r'
      if (rest.takeWhile fun c => !ends c).any isForbidden then none
      else some (rest.dropWhile fun c => !ends c)
  | _ => some text

/-- The end of a line: blanks, a comment, and a line end or the end of the text. -/
def endOfLine? (text : List Char) : Option (List Char) := do
  let rest ← afterComment? (skipGaps text)
  match rest with
  | [] => some []
  | _ => afterNewline? rest

/-- The rest behind blanks, comments and line ends. -/
def skipLines? : Nat → List Char → Option (List Char)
  | 0, text => some text
  | fuel + 1, text => do
      let rest ← afterComment? (skipGaps text)
      match afterNewline? rest with
      | some next => skipLines? fuel next
      | none => some rest

def isBareKeyChar (c : Char) : Bool :=
  c.isAlphanum || c == '_' || c == '-'

def keyPart? (text : List Char) : Option (String × List Char) :=
  match text with
  | '"' :: rest => (basic? rest).map fun found => (String.ofList found.1, found.2)
  | '\'' :: rest => (literal? rest).map fun found => (String.ofList found.1, found.2)
  | _ =>
      let bare := text.takeWhile isBareKeyChar
      if bare.isEmpty then none else some (String.ofList bare, text.dropWhile isBareKeyChar)

/-- A key of at most some parts, and what follows the blanks behind it. -/
def parts? : Nat → List Char → Option (Path × List Char)
  | 0, _ => none
  | count + 1, text => do
      let (part, rest) ← keyPart? (skipGaps text)
      match skipGaps rest with
      | '.' :: more => (parts? count more).map fun found => (part :: found.1, found.2)
      | rest => some ([part], rest)

def key? (text : List Char) : Option (Path × List Char) :=
  parts? deepest text

/-! ### Tables in the making -/

inductive Origin where
  /-- Named on the way to another table. -/
  | passed
  /-- Named by a dotted key. -/
  | dotted
  /-- Defined by its own header. -/
  | header
  deriving DecidableEq

/-- What a key stands for while a document is read. -/
inductive Node where
  | value (value : Toml)
  | table (origin : Origin) (entries : List (String × Node))
  /-- A list of tables, the last of which is first. -/
  | elements (tables : List (List (String × Node)))

/-- Entries with a node in place of that of its key, or behind the others. -/
def put (key : String) (node : Node) : List (String × Node) → List (String × Node)
  | [] => [(key, node)]
  | entry :: rest =>
      if entry.1 = key then (key, node) :: rest else entry :: put key node rest

/-- Changes the table at a path, which is made as far as it is missing.  `isDotted` tells whether
the path is part of a dotted key, which leads into tables without a header only and makes the last
of them its own. -/
def changeAt (isDotted : Bool)
    (change : List (String × Node) → Option (List (String × Node))) :
    Path → List (String × Node) → Option (List (String × Node))
  | [], entries => change entries
  | key :: path, entries =>
      match entries.lookup key with
      | none =>
          let origin := if isDotted then Origin.dotted else .passed
          (changeAt isDotted change path []).map fun inner =>
            put key (.table origin inner) entries
      | some (.table origin inner) =>
          if isDotted && origin = .header then none
          else
            let origin := if isDotted && path.isEmpty then .dotted else origin
            (changeAt isDotted change path inner).map fun inner =>
              put key (.table origin inner) entries
      | some (.elements (last :: others)) =>
          if isDotted && path.isEmpty then none
          else
            (changeAt isDotted change path last).map fun last =>
              put key (.elements (last :: others)) entries
      | some _ => none

/-- Adds a value under a key that is new to the table. -/
def assignNode (key : String) (node : Node) (entries : List (String × Node)) :
    Option (List (String × Node)) :=
  if (entries.lookup key).isSome then none else some (entries ++ [(key, node)])

def assign (path : Path) (node : Node) (entries : List (String × Node)) :
    Option (List (String × Node)) :=
  match path.getLast? with
  | none => none
  | some key => changeAt true (assignNode key node) path.dropLast entries

def openTable (path : Path) (root : List (String × Node)) : Option (List (String × Node)) :=
  match path.getLast? with
  | none => none
  | some key =>
      changeAt false
        (fun entries =>
          match entries.lookup key with
          | none => some (entries ++ [(key, .table .header [])])
          | some (.table .passed inner) => some (put key (.table .header inner) entries)
          | some _ => none)
        path.dropLast root

def openElement (path : Path) (root : List (String × Node)) : Option (List (String × Node)) :=
  match path.getLast? with
  | none => none
  | some key =>
      changeAt false
        (fun entries =>
          match entries.lookup key with
          | none => some (entries ++ [(key, .elements [[]])])
          | some (.elements tables) => some (put key (.elements ([] :: tables)) entries)
          | some _ => none)
        path.dropLast root

mutual

def Node.finish : Node → Toml
  | .value value => value
  | .table _ entries => .table (finishEntries entries)
  | .elements tables => .array (finishTables tables).reverse

def finishEntries : List (String × Node) → List (String × Toml)
  | [] => []
  | (key, node) :: rest => (key, node.finish) :: finishEntries rest

def finishTables : List (List (String × Node)) → List Toml
  | [] => []
  | entries :: rest => .table (finishEntries entries) :: finishTables rest

end

/-! ### Values -/

mutual

/-- A value, and what follows it.  Brackets and braces can be opened at most `depth` deep. -/
def value? : Nat → Nat → List Char → Option (Toml × List Char)
  | 0, _, _ => none
  | fuel + 1, depth, text =>
      match text, depth with
      | '[' :: _, 0 => none
      | '\x7b' :: _, 0 => none
      | '[' :: rest, depth + 1 =>
          (items? fuel depth rest).map fun found => (.array found.1, found.2)
      | '\x7b' :: rest, depth + 1 =>
          (members? fuel depth [] rest).map fun found =>
            (.table (finishEntries found.1), found.2)
      | '"' :: _, _ => (string? text).map fun found => (.str found.1, found.2)
      | '\'' :: _, _ => (string? text).map fun found => (.str found.1, found.2)
      | _, _ => token? text

/-- The items of an array up to its closing bracket.  Lines and comments may divide them. -/
def items? : Nat → Nat → List Char → Option (List Toml × List Char)
  | 0, _, _ => none
  | fuel + 1, depth, text => do
      match ← skipLines? text.length text with
      | ']' :: rest => some ([], rest)
      | rest => do
          let (item, rest) ← value? fuel depth rest
          match ← skipLines? rest.length rest with
          | ',' :: more => (items? fuel depth more).map fun found => (item :: found.1, found.2)
          | ']' :: more => some ([item], more)
          | _ => none

/-- The members of an inline table up to its closing brace, added to those before.  Lines and
comments may divide all but the parts of a key. -/
def members? : Nat → Nat → List (String × Node) → List Char →
    Option (List (String × Node) × List Char)
  | 0, _, _, _ => none
  | fuel + 1, depth, entries, text => do
      match ← skipLines? text.length text with
      | '\x7d' :: rest => some (entries, rest)
      | rest => do
          let (path, rest) ← key? rest
          match ← skipLines? rest.length rest with
          | '=' :: rest => do
              let (value, rest) ← value? fuel depth (← skipLines? rest.length rest)
              let entries ← assign path (.value value) entries
              match ← skipLines? rest.length rest with
              | ',' :: more => members? fuel depth entries more
              | '\x7d' :: more => some (entries, more)
              | _ => none
          | _ => none

end

/-- A header's path, from behind its opening brackets, and what follows its closing ones. -/
def headerPath? (closing text : List Char) : Option (Path × List Char) := do
  let (path, rest) ← key? text
  if rest.take closing.length = closing then some (path, rest.drop closing.length) else none

def statement? (text : List Char) : Option (Statement × List Char) :=
  match text with
  | '[' :: '[' :: rest =>
      (headerPath? [']', ']'] rest).map fun found => (.element found.1, found.2)
  | '[' :: rest => (headerPath? [']'] rest).map fun found => (.table found.1, found.2)
  | _ => do
      let (path, rest) ← key? text
      match rest with
      | '=' :: rest => do
          let (value, rest) ← value? (2 * rest.length + 2) deepest (skipGaps rest)
          some (.assign path value, rest)
      | _ => none

def statements? : Nat → List Char → Option (List Statement)
  | 0, _ => none
  | fuel + 1, text => do
      match ← skipLines? text.length text with
      | [] => some []
      | rest => do
          let (statement, rest) ← statement? rest
          let rest ← endOfLine? rest
          (statements? fuel rest).map (statement :: ·)

/-! ### Documents -/

structure Draft where
  root : List (String × Node) := []
  here : Path := []

def Draft.add (draft : Draft) : Statement → Option Draft
  | .table path => (openTable path draft.root).map fun root => { root, here := path }
  | .element path => (openElement path draft.root).map fun root => { root, here := path }
  | .assign path value =>
      (changeAt false (assign path (.value value)) draft.here draft.root).map fun root =>
        { draft with root }

/-- The table of a document.  A byte order mark at its start is skipped. -/
def parse? (text : String) : Option Toml := do
  let cs := text.toList
  let cs := if cs.head? = some (Char.ofNat 0xFEFF) then cs.drop 1 else cs
  let statements ← statements? (cs.length + 1) cs
  let draft ← statements.foldlM Draft.add {}
  some (.table (finishEntries draft.root))

end TokenAcquisition.Toml
