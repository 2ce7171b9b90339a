import TokenAcquisition.Text.Characters
import TokenAcquisition.Url.Address

/-!
Tables about characters, written as entries with blanks between them.  An entry is a key, an
equals sign and a value; code points are given in hexadecimal digits.
-/

namespace TokenAcquisition.Url.DomainName

def hexNumber (digits : List Char) : Nat :=
  digits.foldl (fun n c => 16 * n + ((Text.hexValue? c.toNat).map Fin.val).getD 0) 0

/-- The code points of a text, written with plus signs between them. -/
def codePoints (text : List Char) : List Nat :=
  (splitAt '+' text).map hexNumber

def keyAndValue (entry : String) : List Char × List Char :=
  let key := entry.toList.takeWhile (· ≠ '=')
  (key, entry.toList.drop (key.length + 1))

def entries (table : String) : List (List Char × List Char) :=
  (Text.words table).map keyAndValue

/-- A property of characters.  Each entry gives the value of the characters from its code point
up to that of the entry before it, so the entries stand in descending order. -/
structure Property (α : Type) where
  entries : List (Nat × α)

namespace Property

/-- The property that a table in ascending order writes. -/
def ofTable {α : Type} (read : List Char → α) (table : String) : Property α :=
  ⟨((DomainName.entries table).map fun e => (hexNumber e.1, read e.2)).reverse⟩

/-- The value at a character; characters below all entries have none. -/
def value? {α : Type} (property : Property α) (c : Char) : Option α :=
  (property.entries.find? fun e => e.1 ≤ c.toNat).map Prod.snd

end Property

end TokenAcquisition.Url.DomainName
