import TokenAcquisition.Text.Characters
import TokenAcquisition.Url.Basic

/-!
Numeric hosts: version 4 addresses in their many spellings, and version 6 addresses.
-/

namespace TokenAcquisition.Url

/-- The parts of a text between the dots. -/
def splitAt (separator : Char) : List Char → List (List Char)
  | [] => [[]]
  | c :: rest =>
      if c = separator then [] :: splitAt separator rest
      else
        match splitAt separator rest with
        | first :: others => (c :: first) :: others
        | [] => [[c]]

def digitsValue? (base : Nat) (digits : List Char) : Option Nat :=
  digits.foldl
    (fun value? c => value?.bind fun value =>
      match Text.hexValue? c.toNat with
      | some digit => if digit.val < base then some (value * base + digit.val) else none
      | none => none)
    (some 0)

/-- A part of a version 4 address: hexadecimal after `0x`, octal after another zero, else
decimal. -/
def ipv4Part? (part : List Char) : Option Nat :=
  match part with
  | [] => none
  | '0' :: 'x' :: digits => digitsValue? 16 digits
  | '0' :: 'X' :: digits => digitsValue? 16 digits
  | '0' :: d :: digits => digitsValue? 8 (d :: digits)
  | _ => digitsValue? 10 part

/-- A host whose last part that is not empty is a number has to be a version 4 address. -/
def endsInNumber (host : List Char) : Bool :=
  let parts := (splitAt '.' host).reverse
  let last? :=
    match parts with
    | [] => none
    | [] :: next :: _ => some next
    | [] :: [] => none
    | last :: _ => some last
  match last? with
  | some last => (!last.isEmpty && last.all Char.isDigit) || (ipv4Part? last).isSome
  | none => false

/-- The version 4 address of a host: up to four parts, the last of which fills the bytes that the
others leave. -/
def ipv4? (host : List Char) : Option Nat := do
  let parts := splitAt '.' host
  let parts := if parts.getLast? = some [] then parts.dropLast else parts
  if parts.length > 4 then none
  else
    let numbers ← parts.mapM ipv4Part?
    let last ← numbers.getLast?
    let leading := numbers.dropLast
    if last ≥ 1 <<< (8 * (4 - leading.length)) || leading.any (· > 255) then none
    else
      some (leading.zipIdx.foldl (fun sum part => sum + part.1 <<< (8 * (3 - part.2))) last)

def renderIpv4 (address : Nat) : String :=
  ".".intercalate
    ([3, 2, 1, 0].map fun place => toString ((address >>> (8 * place)) % 256))

def ipv6Piece? (digits : List Char) : Option Nat :=
  if digits.isEmpty || digits.length > 4 then none else digitsValue? 16 digits

/-- One to three decimal digits without a leading zero, below 256. -/
def ipv6Byte? (digits : List Char) : Option Nat :=
  match digits with
  | [] => none
  | '0' :: _ :: _ => none
  | _ =>
      if digits.length > 3 then none
      else (digitsValue? 10 digits).filter (· < 256)

def ipv6Tail? (text : List Char) : Option (List Nat) :=
  match (splitAt '.' text).mapM ipv6Byte? with
  | some [a, b, c, d] => some [a * 256 + b, c * 256 + d]
  | _ => none

/-- The pieces of a part without a gap.  Only the last part of an address may end in a version 4
address. -/
def ipv6Pieces? (isLast : Bool) (text : List Char) : Option (List Nat) :=
  if text.isEmpty then some []
  else
    let groups := splitAt ':' text
    match groups.getLast? with
    | some last =>
        if isLast && last.contains '.' then do
          let leading ← groups.dropLast.mapM ipv6Piece?
          let tail ← ipv6Tail? last
          some (leading ++ tail)
        else groups.mapM ipv6Piece?
    | none => none

/-- Splits at the first pair of colons. -/
def splitGap? : List Char → Option (List Char × List Char)
  | ':' :: ':' :: rest => some ([], rest)
  | c :: rest => (splitGap? rest).map fun found => (c :: found.1, found.2)
  | [] => none

def ipv6? (text : List Char) : Option (List Nat) :=
  match splitGap? text with
  | none =>
      if text.isEmpty then none else (ipv6Pieces? true text).filter fun pieces => pieces.length == 8
  | some (before, after) => do
      let leading ← ipv6Pieces? false before
      let trailing ← ipv6Pieces? true after
      let held := leading.length + trailing.length
      if held ≤ 7 then some (leading ++ List.replicate (8 - held) 0 ++ trailing) else none

private def hexText (n : Nat) : String :=
  String.ofList (Nat.toDigits 16 n)

def zeroRun (pieces : List Nat) : Nat :=
  (pieces.takeWhile (· == 0)).length

def longestRun (pieces : List Nat) : Nat × Nat :=
  (List.range pieces.length).foldl
    (fun best place =>
      let run := zeroRun (pieces.drop place)
      if run > best.2 then (place, run) else best)
    (0, 0)

/-- The shortest form, with the first longest run of two or more zeros left out. -/
def renderIpv6 (pieces : List Nat) : String :=
  let (place, run) := longestRun pieces
  if run ≥ 2 then
    ":".intercalate ((pieces.take place).map hexText) ++ "::" ++
      ":".intercalate ((pieces.drop (place + run)).map hexText)
  else ":".intercalate (pieces.map hexText)

end TokenAcquisition.Url
