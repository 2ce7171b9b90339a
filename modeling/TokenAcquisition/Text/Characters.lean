/-!
What texts are made of: ASCII letters and comparison of text that ignores their case and nothing
else; blanks, at which text is trimmed and split into words; and hexadecimal digits, read in either
case and written small.
-/

namespace TokenAcquisition.Text

/-! ### ASCII -/

def isAscii (c : Char) : Bool :=
  c.toNat < 128

/-- Every ASCII capital letter made small; other characters stay as they are. -/
def lowerAscii (s : String) : String :=
  String.ofList (s.toList.map Char.toLower)

@[simp]
theorem toList_lowerAscii (s : String) :
    (lowerAscii s).toList = s.toList.map Char.toLower := by
  simp [lowerAscii]

@[simp]
theorem lowerAscii_append (s t : String) :
    lowerAscii (s ++ t) = lowerAscii s ++ lowerAscii t := by
  simp [lowerAscii]

def sameIgnoringCase (s t : String) : Bool :=
  lowerAscii s == lowerAscii t

@[simp]
theorem sameIgnoringCase_eq_true_iff (s t : String) :
    sameIgnoringCase s t = true ↔ lowerAscii s = lowerAscii t := by
  simp [sameIgnoringCase]

/-- Text order by code point, with equal texts in order both ways. -/
def precedes (s t : String) : Bool :=
  !decide (t < s)

/-! ### Blanks -/

/-- The Unicode property `White_Space`. -/
def isBlank (c : Char) : Bool :=
  let n := c.toNat
  (9 ≤ n && n ≤ 13) || n == 0x20 || n == 0x85 || n == 0xA0 || n == 0x1680 ||
    (0x2000 ≤ n && n ≤ 0x200A) || n == 0x2028 || n == 0x2029 || n == 0x202F ||
    n == 0x205F || n == 0x3000

/-- A text of blanks only; the empty text is one. -/
def allBlank (s : String) : Bool :=
  s.toList.all isBlank

def trim (s : String) : String :=
  String.ofList ((s.toList.dropWhile isBlank).reverse.dropWhile isBlank).reverse

def trimEnd (s : String) : String :=
  String.ofList (s.toList.reverse.dropWhile isBlank).reverse

/-- The words of `rest` after the letters of an unfinished word, held last letter first. -/
def wordsFrom (letters : List Char) : List Char → List (List Char)
  | [] => if letters.isEmpty then [] else [letters.reverse]
  | c :: rest =>
      if isBlank c then
        if letters.isEmpty then wordsFrom [] rest else letters.reverse :: wordsFrom [] rest
      else wordsFrom (c :: letters) rest

/-- The longest runs of characters that are not blank, in order. -/
def words (s : String) : List String :=
  (wordsFrom [] s.toList).map String.ofList

/-! ### Hexadecimal digits -/

def hexValue? (code : Nat) : Option (Fin 16) :=
  if h : 48 ≤ code ∧ code ≤ 57 then some ⟨code - 48, by omega⟩
  else if h : 97 ≤ code ∧ code ≤ 102 then some ⟨code - 87, by omega⟩
  else if h : 65 ≤ code ∧ code ≤ 70 then some ⟨code - 55, by omega⟩
  else none

def hexCode (digit : Fin 16) : Nat :=
  if digit.val < 10 then 48 + digit.val else 87 + digit.val

@[simp]
theorem hexValue?_hexCode (digit : Fin 16) : hexValue? (hexCode digit) = some digit := by
  revert digit
  decide

def hexDigit (digit : Fin 16) : Char :=
  Char.ofNat (hexCode digit)

def hexCapital (digit : Fin 16) : Nat :=
  if digit.val < 10 then 48 + digit.val else 55 + digit.val

@[simp]
theorem hexValue?_hexCapital (digit : Fin 16) : hexValue? (hexCapital digit) = some digit := by
  revert digit
  decide

def nibble (n : Nat) : Fin 16 :=
  Fin.ofNat 16 n

/-- The digits for the upper and the lower half of a byte. -/
def nibbles (b : UInt8) : Fin 16 × Fin 16 :=
  (nibble (b.toNat / 16), nibble b.toNat)

end TokenAcquisition.Text
