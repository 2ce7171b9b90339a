import TokenAcquisition.Text.Characters
import TokenAcquisition.Toml.Value

/-!
Scalars of TOML documents: strings in their four spellings, numbers, truth values and times.
-/

namespace TokenAcquisition.Toml

/-- A character that no string or comment holds as it is. -/
def isForbidden (c : Char) : Bool :=
  (c.toNat < 0x20 && c != '\t') || c.toNat == 0x7F

def isGap (c : Char) : Bool :=
  c == ' ' || c == '\t'

/-- The character of a number that can be one. -/
def scalar? (code : Nat) : Option Char :=
  if code.isValidChar then some (Char.ofNat code) else none

def hexNumber? (digits : List Char) : Option Nat :=
  digits.foldl
    (fun value? c => value?.bind fun value =>
      (Text.hexValue? c.toNat).map fun digit => 16 * value + digit.val)
    (some 0)

/-- The character of an escape and the number of characters that spell it, the backslash left
out. -/
def escape? : List Char → Option (Char × Nat)
  | [] => none
  | e :: rest =>
      let spelled (count : Nat) : Option (Char × Nat) :=
        if (rest.take count).length = count then
          ((hexNumber? (rest.take count)).bind scalar?).map fun c => (c, count + 1)
        else none
      match e with
      | 'b' => some ('\x08', 1)
      | 't' => some ('\t', 1)
      | 'n' => some ('\n', 1)
      | 'f' => some ('\x0C', 1)
      | 'r' => some ('\r', 1)
      | 'e' => some ('\x1B', 1)
      | '"' => some ('"', 1)
      | '\\' => some ('\\', 1)
      | 'x' => spelled 2
      | 'u' => spelled 4
      | 'U' => spelled 8
      | _ => none

/-- A string between quotes on one line, from behind the first quote. -/
def basic? : List Char → Option (List Char × List Char)
  | [] => none
  | c :: rest =>
      if c = '"' then some ([], rest)
      else if c = '\\' then
        match escape? rest with
        | some (e, size) => (basic? (rest.drop size)).map fun found => (e :: found.1, found.2)
        | none => none
      else if isForbidden c then none
      else (basic? rest).map fun found => (c :: found.1, found.2)
termination_by text => text.length
decreasing_by
  · simp only [List.length_cons, List.length_drop]
    omega
  · simp only [List.length_cons]
    omega

def literal? : List Char → Option (List Char × List Char)
  | [] => none
  | c :: rest =>
      if c = '\'' then some ([], rest)
      else if isForbidden c then none
      else (literal? rest).map fun found => (c :: found.1, found.2)

def afterNewline? : List Char → Option (List Char)
  | '\n' :: rest => some rest
  | '\r' :: '\n' :: rest => some rest
  | _ => none

/-- A line end directly behind the opening quotes does not belong to a string. -/
def withoutFirstNewline (text : List Char) : List Char :=
  (afterNewline? text).getD text

def skipSpace : List Char → List Char
  | [] => []
  | '\r' :: '\n' :: rest => skipSpace rest
  | c :: rest => if isGap c || c == '\n' then skipSpace rest else c :: rest

theorem length_skipSpace (text : List Char) : (skipSpace text).length ≤ text.length := by
  fun_induction skipSpace text with
  | case1 => exact Nat.le_refl _
  | case2 rest ih => exact Nat.le_succ_of_le (Nat.le_succ_of_le ih)
  | case3 c rest _ _ ih => exact Nat.le_succ_of_le ih
  | case4 => exact Nat.le_refl _

/-- The quotes at the start of a text that close a string over several lines, if there are at
least three: those that still belong to the string, and what follows.  Up to two do. -/
def closing? (quote : Char) (text : List Char) : Option (List Char × List Char) :=
  let count := min 5 (text.takeWhile (· == quote)).length
  if count ≥ 3 then some (List.replicate (count - 3) quote, text.drop count) else none

/-- A line that ends in a backslash is joined with the next one that is not blank. -/
def joinsLines (text : List Char) : Bool :=
  (afterNewline? (text.dropWhile isGap)).isSome

def basicLines? (text : List Char) : Option (List Char × List Char) :=
  match text with
  | [] => none
  | c :: rest =>
      match closing? '"' (c :: rest) with
      | some found => some found
      | none =>
          if c = '\\' then
            if joinsLines rest then basicLines? (skipSpace rest)
            else
              match escape? rest with
              | some (e, size) =>
                  (basicLines? (rest.drop size)).map fun found => (e :: found.1, found.2)
              | none => none
          else if c = '\r' then
            match rest with
            | '\n' :: rest₁ =>
                (basicLines? rest₁).map fun found => ('\r' :: '\n' :: found.1, found.2)
            | _ => none
          else if isForbidden c && c != '\n' then none
          else (basicLines? rest).map fun found => (c :: found.1, found.2)
termination_by text.length
decreasing_by
  · have shorter := length_skipSpace rest
    simp only [List.length_cons]
    omega
  · simp only [List.length_cons, List.length_drop]
    omega
  · simp only [List.length_cons]
    omega
  · simp only [List.length_cons]
    omega

def literalLines? : List Char → Option (List Char × List Char)
  | [] => none
  | c :: rest =>
      match closing? '\'' (c :: rest) with
      | some found => some found
      | none =>
          if c = '\r' && rest.head? != some '\n' then none
          else if isForbidden c && c != '\r' && c != '\n' then none
          else (literalLines? rest).map fun found => (c :: found.1, found.2)

/-- The digits of a number without the underscores, each of which stands between two digits. -/
def separated? (isDigit : Char → Bool) : List Char → Option (List Char)
  | [] => none
  | [c] => if isDigit c then some [c] else none
  | c :: '_' :: rest => if isDigit c then (separated? isDigit rest).map (c :: ·) else none
  | c :: rest => if isDigit c then (separated? isDigit rest).map (c :: ·) else none

def isHexDigit (c : Char) : Bool :=
  (Text.hexValue? c.toNat).isSome

def inBase (base : Nat) (digits : List Char) : Nat :=
  digits.foldl
    (fun value c => value * base + ((Text.hexValue? c.toNat).map Fin.val).getD 0) 0

/-- Decimal digits without a leading zero. -/
def decimal? (digits : List Char) : Option Nat :=
  match separated? Char.isDigit digits with
  | some ('0' :: _ :: _) => none
  | some plain => some (inBase 10 plain)
  | none => none

def splitSign : List Char → Bool × List Char
  | '-' :: rest => (true, rest)
  | '+' :: rest => (false, rest)
  | plain => (false, plain)

def integerToken? (token : List Char) : Option Int :=
  match token with
  | '0' :: 'x' :: digits => (separated? isHexDigit digits).map fun d => inBase 16 d
  | '0' :: 'o' :: digits =>
      (separated? (fun c => '0' ≤ c && c ≤ '7') digits).map fun d => inBase 8 d
  | '0' :: 'b' :: digits =>
      (separated? (fun c => c == '0' || c == '1') digits).map fun d => inBase 2 d
  | _ =>
      let (negative, digits) := splitSign token
      (decimal? digits).map fun n => if negative then -(n : Int) else n

/-- An integer of at most 128 bits. -/
def isModerate (value : Int) : Bool :=
  let bound (bits : Nat) : Int := Int.ofNat (1 <<< bits)
  value < bound 128 && -value ≤ bound 127

/-- The value of digits, moved by some decimal places, is beyond the largest floating-point number
of 64 bits and not rounded to it.  Far from that number the count of digits decides. -/
def isBeyondFloats (digits : List Char) (places : Int) : Bool :=
  let significant := digits.dropWhile (· == '0')
  let size : Int := significant.length + places
  let bound := (1 <<< 1024) - (1 <<< 970)
  if significant.isEmpty || size < 309 then false
  else if size > 310 then true
  else
    inBase 10 significant * Nat.pow 10 places.toNat ≥ bound * Nat.pow 10 (-places).toNat

def float? (token : List Char) : Option Toml :=
  let body := (splitSign token).2
  if body = "inf".toList || body = "nan".toList then some .float
  else
    let isExponentMark (c : Char) : Bool := c == 'e' || c == 'E'
    let mantissa := body.takeWhile fun c => !isExponentMark c
    let exponent := splitSign ((body.dropWhile fun c => !isExponentMark c).drop 1)
    let hasExponent := mantissa.length < body.length
    let whole := mantissa.takeWhile (· != '.')
    let fraction := (mantissa.dropWhile (· != '.')).drop 1
    let hasFraction := whole.length < mantissa.length
    let digits? (isThere : Bool) (text : List Char) : Option (List Char) :=
      if isThere then separated? Char.isDigit text else some []
    if (decimal? whole).isNone || !(hasExponent || hasFraction) then none
    else do
      let whole ← digits? true whole
      let fraction ← digits? hasFraction fraction
      let size : Int := inBase 10 (← digits? hasExponent exponent.2)
      let places := (if exponent.1 then -size else size) - fraction.length
      some (if isBeyondFloats (whole ++ fraction) places then .oversized else .float)

def twoDigits? (text : List Char) : Option (Nat × List Char) :=
  match text with
  | a :: b :: rest =>
      if a.isDigit && b.isDigit then some (inBase 10 [a, b], rest) else none
  | _ => none

def daysIn (year month : Nat) : Nat :=
  if month = 2 then
    if year % 4 = 0 ∧ (year % 100 ≠ 0 ∨ year % 400 = 0) then 29 else 28
  else if month = 4 ∨ month = 6 ∨ month = 9 ∨ month = 11 then 30
  else 31

def date? (text : List Char) : Option (List Char × List Char) := do
  let (century, rest) ← twoDigits? text
  let (year, rest) ← twoDigits? rest
  let rest ← (match rest with | '-' :: r => some r | _ => none)
  let (month, rest) ← twoDigits? rest
  let rest ← (match rest with | '-' :: r => some r | _ => none)
  let (day, rest) ← twoDigits? rest
  if 1 ≤ month && month ≤ 12 && 1 ≤ day && day ≤ daysIn (100 * century + year) month then
    some (text.take 10, rest)
  else none

def minutes? (text : List Char) : Option (List Char × List Char) := do
  let (hour, rest) ← twoDigits? text
  let rest ← (match rest with | ':' :: r => some r | _ => none)
  let (minute, rest) ← twoDigits? rest
  if hour ≤ 23 && minute ≤ 59 then some (text.take 5, rest) else none

/-- The fraction of a second to nine places, without zeros at its end. -/
def shortFraction (digits : List Char) : List Char :=
  let kept := ((digits.take 9).reverse.dropWhile (· == '0')).reverse
  if kept.isEmpty then ['0'] else kept

/-- The seconds of a time, which may be left out, and what follows them. -/
def seconds? (text : List Char) : Option (List Char × List Char) :=
  match text with
  | ':' :: digits => do
      let (second, rest) ← twoDigits? digits
      if second > 60 then none
      else
        let whole := text.take 3
        match rest with
        | '.' :: tail =>
            let fraction := tail.takeWhile Char.isDigit
            if fraction.isEmpty then none
            else some (whole ++ '.' :: shortFraction fraction, tail.dropWhile Char.isDigit)
        | _ => some (whole, rest)
  | _ => some ([], text)

def clock? (text : List Char) : Option (List Char × List Char) := do
  let (minutes, rest) ← minutes? text
  let (seconds, rest) ← seconds? rest
  some (minutes ++ seconds, rest)

/-- The distance to universal time at the end of a time, which may be left out. -/
def offset? (text : List Char) : Option (List Char) :=
  match text with
  | [] => some []
  | sign :: rest =>
      if rest.isEmpty && (sign == 'Z' || sign == 'z') then some ['Z']
      else
        match minutes? rest with
        | some (minutes, []) =>
            if sign == '+' || (sign == '-' && minutes = "00:00".toList) then some ('+' :: minutes)
            else if sign == '-' then some ('-' :: minutes)
            else none
        | _ => none

def time? (token : List Char) : Option (List Char) :=
  match date? token with
  | some (date, []) => some date
  | some (date, mark :: rest) =>
      if mark == 'T' || mark == 't' || mark == ' ' then do
        let (clock, rest) ← clock? rest
        some (date ++ 'T' :: clock ++ (← offset? rest))
      else none
  | none =>
      match clock? token with
      | some (clock, []) => some clock
      | _ => none

def isTokenChar (c : Char) : Bool :=
  c.isAlphanum || "+-_.:".toList.contains c

/-- A scalar without quotes, and what follows it.  A date and a time may be parted by a blank. -/
def token? (text : List Char) : Option (Toml × List Char) :=
  let first := text.takeWhile isTokenChar
  let rest := text.dropWhile isTokenChar
  let (token, rest) :=
    match date? first, rest with
    | some (_, []), ' ' :: d :: tail =>
        if d.isDigit then
          (first ++ ' ' :: (d :: tail).takeWhile isTokenChar, (d :: tail).dropWhile isTokenChar)
        else (first, rest)
    | _, _ => (first, rest)
  if token = "true".toList then some (.bool true, rest)
  else if token = "false".toList then some (.bool false, rest)
  else
    match integerToken? token with
    | some value => some (if isModerate value then .integer value else .oversized, rest)
    | none =>
        let time := (time? token).map fun text => Toml.time (String.ofList text)
        (float? token <|> time).map fun value => (value, rest)

def string? (text : List Char) : Option (String × List Char) :=
  let found :=
    match text with
    | '"' :: '"' :: '"' :: rest => basicLines? (withoutFirstNewline rest)
    | '"' :: rest => basic? rest
    | '\'' :: '\'' :: '\'' :: rest => literalLines? (withoutFirstNewline rest)
    | '\'' :: rest => literal? rest
    | _ => none
  found.map fun found => (String.ofList found.1, found.2)

end TokenAcquisition.Toml
