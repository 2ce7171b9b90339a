import TokenAcquisition.Text.Characters
import TokenAcquisition.Text.Punycode
import TokenAcquisition.Text.Utf8
import TokenAcquisition.Url.DomainName.Context
import TokenAcquisition.Url.DomainName.Direction
import TokenAcquisition.Url.DomainName.Mapping

/-!
Domain names in their ASCII form.  Variant characters are replaced and marks joined to their
letters, and every label with characters beyond ASCII is spelled in Punycode behind `xn--`.
-/

namespace TokenAcquisition.Url.DomainName

/-- ASCII characters that no domain name has. -/
def isForbidden (c : Char) : Bool :=
  c.toNat ≤ 0x20 || c.toNat == 0x7F || "%#/:<>?@[\\]^|".toList.contains c

/-- What stands before the Punycode of a label. -/
def codeMark : List Char :=
  "xn--".toList

def longestSpelled : Nat := 1000

def longestCode : Nat := 2000

/-- A label as it is sent and as it is read. -/
structure Label where
  ascii : List Char
  letters : List Char

namespace Label

/-- The label stands for itself: no forbidden character, no mark in front, joiners in place. -/
def isWellFormed (letters : List Char) : Bool :=
  !letters.any isForbidden && !letters.head?.any isMark && joinersStandWell [] letters

/-- A label that starts with the code mark.  Its code has to be that of a well-formed label in
composed form beyond ASCII. -/
def ofCode? (label : List Char) : Option Label := do
  let code := label.drop codeMark.length
  guard (code.length ≤ longestCode)
  let letters ← Text.Punycode.decode? code
  guard (!letters.all Text.isAscii && letters.all isValid && composed letters == letters)
  guard (letters.length ≤ longestSpelled && isWellFormed letters)
  return ⟨label, letters⟩

def ofLetters? (letters : List Char) : Option Label := do
  if codeMark.isPrefixOf letters then
    ofCode? letters
  else
    guard (isWellFormed letters)
    if letters.all Text.isAscii then
      return ⟨letters, letters⟩
    else
      guard (letters.length ≤ longestSpelled)
      return ⟨codeMark ++ Text.Punycode.encode letters, letters⟩

end Label

/-- The labels of a name; in a name with right-to-left writing all keep their order. -/
def labels? (name : List Char) : Option (List Label) := do
  let mapped ← name.mapM mapped?
  let labels ← (splitAt '.' (composed mapped.flatten)).mapM Label.ofLetters?
  let directions := labels.map fun label => label.letters.map Direction.ofChar
  guard (!directions.flatten.any Direction.turnsLeft || directions.all Direction.keepsOrder)
  return labels

/-- A name of ASCII letters, digits and signs without Punycode, in small letters. -/
def isPlain (name : String) : Bool :=
  name.toList.all Text.isAscii && !(splitAt '.' name.toList).any codeMark.isPrefixOf

/-- The ASCII form of a domain name given in bytes.  The tables leave a plain name as it is, so
that only forbidden characters are looked for in it. -/
def toAscii? (bytes : List UInt8) : Option String := do
  let text ← Text.decode? bytes
  let name := Text.lowerAscii text
  if isPlain name then
    if name.toList.any isForbidden then none else some name
  else
    let labels ← labels? name.toList
    return String.ofList (['.'].intercalate (labels.map Label.ascii))

end TokenAcquisition.Url.DomainName
