import TokenAcquisition.Url.DomainName.ReplacementTable
import TokenAcquisition.Url.DomainName.StandingTable
import TokenAcquisition.Url.DomainName.Table

/-!
What becomes of the characters of a domain name before it is read: capital letters and variant
forms are replaced, invisible characters fall away, and some characters may not appear at all.
-/

namespace TokenAcquisition.Url.DomainName

/-- What a character without a replacement is in a domain name. -/
inductive Standing
  | valid
  | ignored
  | disallowed
  deriving DecidableEq, Repr

def Standing.ofLetter : List Char → Standing
  | ['v'] => .valid
  | ['i'] => .ignored
  | _ => .disallowed

/-- Replacements for the characters from `first` to `last`, `step` apart.  `text` replaces the
first of them; where the replacement `follows` its character, each later one is replaced by a
character as much later. -/
structure Replacement where
  first : Nat
  last : Nat
  step : Nat
  text : List Nat
  follows : Bool

namespace Replacement

/-- The replacements of an entry: one code point or the ends of a range, after a slash the step,
after a dot the mark that all characters of the range have the same replacement. -/
def ofEntry (key value : List Char) : Replacement :=
  let range := key.takeWhile fun c => c ≠ '/' && c ≠ '.'
  let ends := (splitAt '-' range).map hexNumber
  let first := ends.headD 0
  { first
    last := ends.getLast?.getD first
    step := if key.contains '/' then 2 else 1
    text := codePoints value
    follows := !key.contains '.' }

def text? (r : Replacement) (code : Nat) : Option (List Char) :=
  if r.first ≤ code ∧ code ≤ r.last ∧ (code - r.first) % r.step = 0 then
    some (r.text.map fun n => Char.ofNat (if r.follows then n + (code - r.first) else n))
  else none

end Replacement

def replacements : List Replacement :=
  (entries replacementTable).map fun e => .ofEntry e.1 e.2

def standings : Property Standing :=
  .ofTable .ofLetter standingTable

def replacement? (c : Char) : Option (List Char) :=
  replacements.findSome? fun r => r.text? c.toNat

def isValid (c : Char) : Bool :=
  (replacement? c).isNone && standings.value? c == some .valid

/-- The text that takes the place of a character, unless the character is not allowed. -/
def mapped? (c : Char) : Option (List Char) :=
  match replacement? c with
  | some text => some text
  | none =>
      match standings.value? c with
      | some .valid => some [c]
      | some .ignored => some []
      | _ => none

end TokenAcquisition.Url.DomainName
