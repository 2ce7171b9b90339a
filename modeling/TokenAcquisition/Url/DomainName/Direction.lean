import TokenAcquisition.Url.DomainName.DirectionTable
import TokenAcquisition.Url.DomainName.Table

/-!
Writing directions.  A name with a character written from right to left keeps every label in one
direction, so that labels do not change places when the name is shown.
-/

namespace TokenAcquisition.Url.DomainName

inductive Direction
  | rightward
  | leftward
  /-- A digit of Arabic writing. -/
  | arabicDigit
  /-- A digit that may stand in text of either direction. -/
  | plainDigit
  | mark
  | neutral
  /-- A character that divides paragraphs or fields. -/
  | divider
  deriving DecidableEq, Repr

namespace Direction

def ofLetter : List Char → Direction
  | ['l'] => .rightward
  | ['r'] => .leftward
  | ['a'] => .arabicDigit
  | ['e'] => .plainDigit
  | ['m'] => .mark
  | ['n'] => .neutral
  | _ => .divider

def table : Property Direction :=
  .ofTable .ofLetter directionTable

def ofChar (c : Char) : Direction :=
  (table.value? c).getD .divider

/-- Directions that make a name one with right-to-left writing. -/
def turnsLeft (d : Direction) : Bool :=
  d = .leftward || d = .arabicDigit

def rightwardLabel (rest : List Direction) : Bool :=
  let upToMarks := (rest.reverse.dropWhile (· = .mark)).reverse
  upToMarks.getLast?.all (fun d => d = .rightward || d = .plainDigit) &&
    upToMarks.all fun d => d ≠ .leftward && d ≠ .arabicDigit && d ≠ .divider

/-- The rule for a label that starts from right to left: digits of both kinds do not meet. -/
def leftwardLabel (rest : List Direction) : Bool :=
  let upToMarks := (rest.reverse.dropWhile (· = .mark)).reverse
  upToMarks.getLast?.all (fun d => d ≠ .mark && d ≠ .neutral) &&
    upToMarks.all (fun d => d ≠ .rightward && d ≠ .divider) &&
    !(upToMarks.contains .arabicDigit && upToMarks.contains .plainDigit)

/-- A label with these directions keeps its order in a name with right-to-left writing. -/
def keepsOrder : List Direction → Bool
  | [] => true
  | .rightward :: rest => rightwardLabel rest
  | .leftward :: rest => leftwardLabel rest
  | _ => false

end Direction

end TokenAcquisition.Url.DomainName
