import TokenAcquisition.Json.Value
import TokenAcquisition.Text.Characters
import TokenAcquisition.Text.Utf8

/-!
Reading JSON texts from bytes.  The whole text has to be one value between blanks.  Numbers and
strings are checked for their form only: see `Json`.
-/

namespace TokenAcquisition.Json

/-- The four characters allowed between tokens. -/
def isGap (b : UInt8) : Bool :=
  b == 0x20 || b == 0x0A || b == 0x0D || b == 0x09

def skipGaps (bytes : List UInt8) : List UInt8 :=
  bytes.dropWhile isGap

def isDigit (b : UInt8) : Bool :=
  48 ≤ b && b ≤ 57

def afterWord? (word bytes : List UInt8) : Option (List UInt8) :=
  if bytes.take word.length == word then some (bytes.drop word.length) else none

def digits? (bytes : List UInt8) : Option (List UInt8 × List UInt8) :=
  let found := bytes.takeWhile isDigit
  if found.isEmpty then none else some (found, bytes.dropWhile isDigit)

/-- The whole part of a number: a zero, or digits that do not start with one. -/
def whole? : List UInt8 → Option (List UInt8 × List UInt8)
  | [] => none
  | b :: rest =>
      if b == 48 then
        if rest.head?.any isDigit then none else some ([48], rest)
      else digits? (b :: rest)

def fraction? : List UInt8 → Option (List UInt8 × List UInt8)
  | [] => some ([], [])
  | b :: rest =>
      if b == 46 then (digits? rest).map fun part => (46 :: part.1, part.2)
      else some ([], b :: rest)

def exponent? : List UInt8 → Option (List UInt8 × List UInt8)
  | [] => some ([], [])
  | b :: rest =>
      if b == 101 || b == 69 then
        match rest with
        | [] => none
        | c :: rest₁ =>
            if c == 43 || c == 45 then (digits? rest₁).map fun part => (b :: c :: part.1, part.2)
            else (digits? rest).map fun part => (b :: part.1, part.2)
      else some ([], b :: rest)

def number? (bytes : List UInt8) : Option (List UInt8 × List UInt8) := do
  let sign : List UInt8 := if bytes.head? == some 45 then [45] else []
  let (whole, rest₁) ← whole? (bytes.drop sign.length)
  let (fraction, rest₂) ← fraction? rest₁
  let (exponent, rest₃) ← exponent? rest₂
  some (sign ++ whole ++ fraction ++ exponent, rest₃)

/-- The sixteen-bit unit spelled by four hexadecimal digits. -/
def unit? (a b c d : UInt8) : Option Nat := do
  let w ← Text.hexValue? a.toNat
  let x ← Text.hexValue? b.toNat
  let y ← Text.hexValue? c.toNat
  let z ← Text.hexValue? d.toNat
  some (((w.val * 16 + x.val) * 16 + y.val) * 16 + z.val)

def shortEscape? (b : UInt8) : Option UInt8 :=
  if b == 0x22 then some 0x22
  else if b == 0x5C then some 0x5C
  else if b == 0x2F then some 0x2F
  else if b == 0x62 then some 0x08
  else if b == 0x66 then some 0x0C
  else if b == 0x6E then some 0x0A
  else if b == 0x72 then some 0x0D
  else if b == 0x74 then some 0x09
  else none

private def isHigh (unit : Nat) : Bool :=
  0xD800 ≤ unit && unit ≤ 0xDBFF

private def isLow (unit : Nat) : Bool :=
  0xDC00 ≤ unit && unit ≤ 0xDFFF

/-- What a string holds as written: a byte, or a sixteen-bit unit spelled by an escape. -/
inductive Piece where
  | byte (b : UInt8)
  | unit (u : Nat)

/-- The pieces of a string up to its closing quote, and what follows. -/
def pieces? : List UInt8 → Option (List Piece × List UInt8)
  | [] => none
  | b :: rest =>
      if b == 0x22 then some ([], rest)
      else if b == 0x5C then
        match rest with
        | [] => none
        | e :: rest₁ =>
            if e == 0x75 then
              match rest₁ with
              | h₁ :: h₂ :: h₃ :: h₄ :: rest₂ =>
                  match unit? h₁ h₂ h₃ h₄ with
                  | some u => (pieces? rest₂).map fun found => (.unit u :: found.1, found.2)
                  | none => none
              | _ => none
            else
              match shortEscape? e with
              | some c => (pieces? rest₁).map fun found => (.byte c :: found.1, found.2)
              | none => none
      else if b < 0x20 then none
      else (pieces? rest).map fun found => (.byte b :: found.1, found.2)

/-- The bytes that pieces spell; half of a surrogate pair spells none. -/
def bytesOf? : List Piece → Option (List UInt8)
  | [] => some []
  | .byte b :: rest => (bytesOf? rest).map (b :: ·)
  | .unit u :: rest =>
      if isHigh u then
        match rest with
        | .unit low :: rest₁ =>
            if isLow low then
              let code := 0x10000 + (u - 0xD800) * 0x400 + (low - 0xDC00)
              (bytesOf? rest₁).map (String.utf8EncodeChar (Char.ofNat code) ++ ·)
            else none
        | _ => none
      else if isLow u then none
      else (bytesOf? rest).map (String.utf8EncodeChar (Char.ofNat u) ++ ·)

def stringAfterQuote? (bytes : List UInt8) : Option (Option String × List UInt8) :=
  (pieces? bytes).map fun body => ((bytesOf? body.1).bind Text.decode?, body.2)

mutual

def value? : Nat → List UInt8 → Option (Json × List UInt8)
  | 0, _ => none
  | fuel + 1, bytes =>
      match skipGaps bytes with
      | [] => none
      | b :: rest =>
          if b == 0x7B then
            match skipGaps rest with
            | [] => none
            | c :: rest₁ =>
                if c == 0x7D then some (.object [], rest₁)
                else (members? fuel (c :: rest₁)).map fun found => (.object found.1, found.2)
          else if b == 0x5B then
            match skipGaps rest with
            | [] => none
            | c :: rest₁ =>
                if c == 0x5D then some (.array [], rest₁)
                else (items? fuel (c :: rest₁)).map fun found => (.array found.1, found.2)
          else if b == 0x22 then
            (stringAfterQuote? rest).map fun found => (.string found.1, found.2)
          else if b == 0x6E then
            (afterWord? [0x75, 0x6C, 0x6C] rest).map fun rest₁ => (.null, rest₁)
          else if b == 0x74 then
            (afterWord? [0x72, 0x75, 0x65] rest).map fun rest₁ => (.bool true, rest₁)
          else if b == 0x66 then
            (afterWord? [0x61, 0x6C, 0x73, 0x65] rest).map fun rest₁ => (.bool false, rest₁)
          else (number? (b :: rest)).map fun found => (.number found.1, found.2)

def items? : Nat → List UInt8 → Option (List Json × List UInt8)
  | 0, _ => none
  | fuel + 1, bytes => do
      let (item, rest) ← value? fuel bytes
      match skipGaps rest with
      | [] => none
      | c :: rest₁ =>
          if c == 0x2C then (items? fuel rest₁).map fun found => (item :: found.1, found.2)
          else if c == 0x5D then some ([item], rest₁)
          else none

def members? : Nat → List UInt8 → Option (List (Option String × Json) × List UInt8)
  | 0, _ => none
  | fuel + 1, bytes =>
      match skipGaps bytes with
      | [] => none
      | q :: rest =>
          if q == 0x22 then do
            let (key, rest₁) ← stringAfterQuote? rest
            match skipGaps rest₁ with
            | [] => none
            | colon :: rest₂ =>
                if colon == 0x3A then do
                  let (item, rest₃) ← value? fuel rest₂
                  match skipGaps rest₃ with
                  | [] => none
                  | c :: rest₄ =>
                      if c == 0x2C then
                        (members? fuel rest₄).map fun found => ((key, item) :: found.1, found.2)
                      else if c == 0x7D then some ([(key, item)], rest₄)
                      else none
                else none
          else none

end

/-- The value of a JSON text.  Each byte of the text costs at most two levels of descent. -/
def parse? (bytes : List UInt8) : Option Json :=
  match value? (2 * bytes.length + 2) bytes with
  | some (value, rest) => if (skipGaps rest).isEmpty then some value else none
  | none => none

def parseText? (text : String) : Option Json :=
  parse? (Text.encode text)

end TokenAcquisition.Json
