import TokenAcquisition.Text.Characters

/-!
Universally unique identifiers: thirty-two hexadecimal digits, written small and hyphenated as
8-4-4-4-12.  They are read in either case, with or without hyphens, in braces, or after
`urn:uuid:` in either case.
-/

namespace TokenAcquisition

structure Uuid where
  digits : List (Fin 16)
  length_eq : digits.length = 32
  deriving DecidableEq, Repr

namespace Uuid

def render (id : Uuid) : String :=
  let cs := id.digits.map Text.hexDigit
  String.ofList (cs.take 8 ++ '-' :: (cs.drop 8).take 4 ++ '-' :: (cs.drop 12).take 4 ++
    '-' :: (cs.drop 16).take 4 ++ '-' :: cs.drop 20)

def ofDigits? (cs : List Char) : Option Uuid :=
  match cs.mapM fun c => Text.hexValue? c.toNat with
  | some digits =>
      if length_eq : digits.length = 32 then some { digits, length_eq } else none
  | none => none

def ofHyphenated? (cs : List Char) : Option Uuid :=
  if cs[8]? = some '-' && cs[13]? = some '-' && cs[18]? = some '-' && cs[23]? = some '-' then
    ofDigits? (cs.take 8 ++ (cs.drop 9).take 4 ++ (cs.drop 14).take 4 ++ (cs.drop 19).take 4 ++
      cs.drop 24)
  else none

/-- The identifier that a text spells in any of the four forms. -/
def parse? (text : String) : Option Uuid :=
  let cs := text.toList
  if cs.length = 32 then ofDigits? cs
  else if cs.length = 36 then ofHyphenated? cs
  else if cs.length = 38 && cs.head? = some '\x7b' && cs.getLast? = some '\x7d' then
    ofHyphenated? ((cs.drop 1).take 36)
  else if cs.length = 45 && Text.sameIgnoringCase (String.ofList (cs.take 9)) "urn:uuid:" then
    ofHyphenated? (cs.drop 9)
  else none

/-- The random identifier (version 4, variant 1) made from sixteen bytes. -/
def ofRandom (bytes : List UInt8) : Uuid :=
  let zero := Text.nibble 0
  let given := bytes.flatMap fun b => [(Text.nibbles b).1, (Text.nibbles b).2]
  let digits := (given ++ List.replicate 32 zero).take 32
  let variant := Text.nibble (8 + (digits[16]?.getD zero).val % 4)
  { digits := (digits.set 12 (Text.nibble 4)).set 16 variant
    length_eq := by
      simp only [digits, List.length_set, List.length_take, List.length_append,
        List.length_replicate]
      omega }

end Uuid

end TokenAcquisition
