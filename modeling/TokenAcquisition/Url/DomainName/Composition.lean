import TokenAcquisition.Url.DomainName.CombiningClassTable
import TokenAcquisition.Url.DomainName.PairTable
import TokenAcquisition.Url.DomainName.Table

/-!
The composed form of a text: letters and their marks are taken apart, marks put in order, and
what can be one character made one.
-/

namespace TokenAcquisition.Url.DomainName

def combiningClasses : Property Nat :=
  .ofTable hexNumber combiningClassTable

/-- Where a mark stands about its letter; zero for characters that are no such marks. -/
def combiningClass (c : Char) : Nat :=
  (combiningClasses.value? c).getD 0

structure Pair where
  whole : Char
  first : Char
  second : Char

def Pair.ofEntry (key value : List Char) : Pair :=
  let parts := (codePoints value).map Char.ofNat
  ⟨Char.ofNat (hexNumber key), parts.headD 'a', parts.getLast?.getD 'a'⟩

/-- The characters made of two; the first part of a pair is whole in an earlier pair or in none. -/
def pairs : List Pair :=
  (entries pairTable).map fun e => .ofEntry e.1 e.2

/-- A Korean syllable in its letters: a leading consonant, a vowel and perhaps another consonant. -/
def syllableLetters (c : Char) : List Char :=
  let n := c.toNat - 0xAC00
  if 0xAC00 ≤ c.toNat ∧ c.toNat < 0xD7A4 then
    Char.ofNat (0x1100 + n / 588) :: Char.ofNat (0x1161 + n % 588 / 28) ::
      (if n % 28 = 0 then [] else [Char.ofNat (0x11A7 + n % 28)])
  else [c]

def decomposed (text : List Char) : List Char :=
  let apart (p : Pair) (text : List Char) : List Char :=
    text.flatMap fun c => if c = p.whole then [p.first, p.second] else [c]
  (pairs.foldr apart text).flatMap syllableLetters

/-- Puts a character in front of a text, but a mark behind the marks of lower classes. -/
def insertMark (c : Char) : List Char → List Char
  | [] => [c]
  | d :: rest =>
      if 0 < combiningClass d ∧ combiningClass d < combiningClass c then d :: insertMark c rest
      else c :: d :: rest

def marksInOrder (text : List Char) : List Char :=
  text.foldr insertMark []

def syllable? (first second : Char) : Option Char :=
  let (a, b) := (first.toNat, second.toNat)
  if 0x1100 ≤ a ∧ a ≤ 0x1112 ∧ 0x1161 ≤ b ∧ b ≤ 0x1175 then
    some (Char.ofNat (0xAC00 + ((a - 0x1100) * 21 + (b - 0x1161)) * 28))
  else if 0xAC00 ≤ a ∧ a < 0xD7A4 ∧ (a - 0xAC00) % 28 = 0 ∧ 0x11A8 ≤ b ∧ b ≤ 0x11C2 then
    some (Char.ofNat (a + (b - 0x11A7)))
  else none

def whole? (first second : Char) : Option Char :=
  ((pairs.find? fun p => p.first = first && p.second = second).map Pair.whole) <|>
    syllable? first second

/-- A text put together from a character, marks that stay apart from it, last one first, and what
follows.  A mark joins the character unless a mark of the same or a higher class stands between. -/
def composeFrom (letter : Char) (marks : List Char) : List Char → List Char
  | [] => letter :: marks.reverse
  | c :: rest =>
      let isHidden := marks.head?.any fun last => combiningClass c ≤ combiningClass last
      match if isHidden then none else whole? letter c with
      | some whole => composeFrom whole marks rest
      | none =>
          if combiningClass c = 0 then letter :: marks.reverse ++ composeFrom c [] rest
          else composeFrom letter (c :: marks) rest

def composed (text : List Char) : List Char :=
  match marksInOrder (decomposed text) with
  | [] => []
  | c :: rest => composeFrom c [] rest

end TokenAcquisition.Url.DomainName
