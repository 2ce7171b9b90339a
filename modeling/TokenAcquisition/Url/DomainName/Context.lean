import TokenAcquisition.Url.DomainName.Composition
import TokenAcquisition.Url.DomainName.JoiningTable
import TokenAcquisition.Url.DomainName.MarkTable

/-!
Characters that may stand at some places of a label only: marks need a letter before them, and
the invisible joiners need letters around them on whose shape they have an influence.
-/

namespace TokenAcquisition.Url.DomainName

def marks : Property Bool :=
  .ofTable (· = ['m']) markTable

/-- A character that belongs to the one before it. -/
def isMark (c : Char) : Bool :=
  (marks.value? c).getD false

inductive Joining
  | toNext
  | toPrevious
  | toBoth
  | transparent
  | never
  deriving DecidableEq, Repr

def Joining.ofLetter : List Char → Joining
  | ['l'] => .toNext
  | ['r'] => .toPrevious
  | ['d'] => .toBoth
  | ['t'] => .transparent
  | _ => .never

def joinings : Property Joining :=
  .ofTable .ofLetter joiningTable

def joining (c : Char) : Joining :=
  (joinings.value? c).getD .never

/-- The first character that is not transparent joins as wanted. -/
def joinsFirst (wanted : Joining) (text : List Char) : Bool :=
  match text.find? fun c => joining c ≠ .transparent with
  | some c => joining c = wanted || joining c = .toBoth
  | none => false

/-- A mark that takes the vowel from the letter before it. -/
def isVowelKiller (c : Char) : Bool :=
  combiningClass c = 9

/-- A joiner, between the text before it, last character first, and the text after it, stands
behind a vowel killer; the one that keeps letters apart may also stand between letters that would
join. -/
def joinerStandsWell (before : List Char) (c : Char) (after : List Char) : Bool :=
  before.head?.any isVowelKiller ||
    (c.toNat == 0x200C && joinsFirst .toNext before && joinsFirst .toPrevious after)

def joinersStandWell (before : List Char) : List Char → Bool
  | [] => true
  | c :: rest =>
      ((c.toNat != 0x200C && c.toNat != 0x200D) || joinerStandsWell before c rest) &&
        joinersStandWell (c :: before) rest

end TokenAcquisition.Url.DomainName
