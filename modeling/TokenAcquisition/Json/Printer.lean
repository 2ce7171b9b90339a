import TokenAcquisition.Json.Value
import TokenAcquisition.Text.Characters

/-!
Writing JSON texts, compact or with one member or item a line.
-/

namespace TokenAcquisition.Json

/-- A character of a string as written: quotes, backslashes and control characters are escaped
and nothing else is. -/
def escape (c : Char) : List Char :=
  if c = '"' then ['\\', '"']
  else if c = '\\' then ['\\', '\\']
  else if c = '\x08' then ['\\', 'b']
  else if c = '\t' then ['\\', 't']
  else if c = '\n' then ['\\', 'n']
  else if c = '\x0C' then ['\\', 'f']
  else if c = '\r' then ['\\', 'r']
  else if c.toNat < 32 then
    ['\\', 'u', '0', '0', Text.hexDigit (Text.nibble (c.toNat / 16)),
      Text.hexDigit (Text.nibble c.toNat)]
  else [c]

def quoted (s : String) : List Char :=
  '"' :: s.toList.flatMap escape ++ ['"']

/-- A scalar, or the brackets of an empty container. -/
private def leaf : Json → List Char
  | .null => "null".toList
  | .bool true => "true".toList
  | .bool false => "false".toList
  | .number text => text.map fun b => Char.ofNat b.toNat
  | .string text => quoted (text.getD "")
  | .array _ => "[]".toList
  | .object _ => "\x7b\x7d".toList

mutual

def compact : Json → List Char
  | .array items => '[' :: compactItems items ++ [']']
  | .object members => '\x7b' :: compactMembers members ++ ['\x7d']
  | other => leaf other

def compactItems : List Json → List Char
  | [] => []
  | [item] => compact item
  | item :: rest => compact item ++ ',' :: compactItems rest

def compactMembers : List (Option String × Json) → List Char
  | [] => []
  | [(key, value)] => quoted (key.getD "") ++ ':' :: compact value
  | (key, value) :: rest =>
      quoted (key.getD "") ++ ':' :: compact value ++ ',' :: compactMembers rest

end

def render (value : Json) : String :=
  String.ofList value.compact

/-- A line break and two blanks for each level. -/
def newline (depth : Nat) : List Char :=
  '\n' :: List.replicate (2 * depth) ' '

mutual

/-- One member or item a line, indented by its depth. -/
def lines (depth : Nat) : Json → List Char
  | .array items =>
      if items.isEmpty then leaf (.array [])
      else '[' :: lineItems (depth + 1) items ++ newline depth ++ [']']
  | .object members =>
      if members.isEmpty then leaf (.object [])
      else '\x7b' :: lineMembers (depth + 1) members ++ newline depth ++ ['\x7d']
  | other => leaf other

def lineItems (depth : Nat) : List Json → List Char
  | [] => []
  | [item] => newline depth ++ lines depth item
  | item :: rest => newline depth ++ lines depth item ++ ',' :: lineItems depth rest

def lineMembers (depth : Nat) : List (Option String × Json) → List Char
  | [] => []
  | [(key, value)] => newline depth ++ quoted (key.getD "") ++ ':' :: ' ' :: lines depth value
  | (key, value) :: rest =>
      newline depth ++ quoted (key.getD "") ++ ':' :: ' ' :: lines depth value ++
        ',' :: lineMembers depth rest

end

def renderLines (value : Json) : String :=
  String.ofList (value.lines 0)

end TokenAcquisition.Json
