/-!
Base64 with the URL-safe alphabet and no padding.  Three bytes are four symbols of six bits; a
last group of one or two bytes is two or three symbols whose spare bits are zero.  `decode`
accepts these written forms and no others.
-/

namespace TokenAcquisition.Text.Base64Url

/-- The values of the symbols that spell the bytes. -/
def sextets : List UInt8 → List Nat
  | [] => []
  | [x] => [x.toNat / 4, x.toNat % 4 * 16]
  | [x, y] => [x.toNat / 4, x.toNat % 4 * 16 + y.toNat / 16, y.toNat % 16 * 4]
  | x :: y :: z :: rest =>
      x.toNat / 4 :: (x.toNat % 4 * 16 + y.toNat / 16) :: (y.toNat % 16 * 4 + z.toNat / 64) ::
        z.toNat % 64 :: sextets rest

/-- The bytes spelled by symbol values; a lone last symbol and spare bits that are set are
refused. -/
def unpack? : List Nat → Option (List UInt8)
  | [] => some []
  | [_] => none
  | [a, b] => if b % 16 = 0 then some [UInt8.ofNat (a * 4 + b / 16)] else none
  | [a, b, c] =>
      if c % 4 = 0 then
        some [UInt8.ofNat (a * 4 + b / 16), UInt8.ofNat (b % 16 * 16 + c / 4)]
      else none
  | a :: b :: c :: d :: rest =>
      (unpack? rest).map fun bytes =>
        UInt8.ofNat (a * 4 + b / 16) :: UInt8.ofNat (b % 16 * 16 + c / 4) ::
          UInt8.ofNat (c % 4 * 64 + d) :: bytes

def symbolCode (value : Nat) : Nat :=
  if value < 26 then 65 + value
  else if value < 52 then 71 + value
  else if value < 62 then value - 4
  else if value = 62 then 45
  else 95

def symbolValue? (code : Nat) : Option Nat :=
  if 65 ≤ code ∧ code ≤ 90 then some (code - 65)
  else if 97 ≤ code ∧ code ≤ 122 then some (code - 71)
  else if 48 ≤ code ∧ code ≤ 57 then some (code + 4)
  else if code = 45 then some 62
  else if code = 95 then some 63
  else none

theorem symbolValue?_symbolCode {value : Nat} (small : value < 64) :
    symbolValue? (symbolCode value) = some value := by
  have every : ∀ v : Fin 64, symbolValue? (symbolCode v.val) = some v.val := by decide
  exact every ⟨value, small⟩

def encode (bytes : List UInt8) : String :=
  String.ofList ((sextets bytes).map fun value => Char.ofNat (symbolCode value))

inductive Fault where
  /-- A byte outside the alphabet. -/
  | symbol (byte : UInt8) (offset : Nat)
  /-- A last symbol whose spare bits are set. -/
  | lastSymbol (byte : UInt8) (offset : Nat)
  /-- A lone last symbol. -/
  | length (size : Nat)
  deriving DecidableEq, Repr

def Fault.message : Fault → String
  | .symbol byte offset =>
      "Invalid symbol " ++ toString byte.toNat ++ ", offset " ++ toString offset ++ "."
  | .lastSymbol byte offset =>
      "Invalid last symbol " ++ toString byte.toNat ++ ", offset " ++ toString offset ++ "."
  | .length size => "Invalid input length: " ++ toString size

/-- The first byte outside the alphabet, with its place. -/
def stray? (offset : Nat) : List UInt8 → Option (UInt8 × Nat)
  | [] => none
  | b :: rest =>
      match symbolValue? b.toNat with
      | some _ => stray? (offset + 1) rest
      | none => some (b, offset)

/-- The fault of bytes that are no written form.  A lone last byte outside the alphabet is named
before any other. -/
def faultOf (text : List UInt8) : Fault :=
  let size := text.length
  let lone? : Option UInt8 :=
    if size % 4 = 1 then
      text.getLast?.filter fun b => (symbolValue? b.toNat).isNone
    else none
  match lone? with
  | some b => .symbol b (size - 1)
  | none =>
      match stray? 0 text with
      | some (b, offset) => .symbol b offset
      | none =>
          if size % 4 = 1 then .length size
          else .lastSymbol (text.getLast?.getD 0) (size - 1)

def decode (text : List UInt8) : Except Fault (List UInt8) :=
  match (text.mapM fun b => symbolValue? b.toNat).bind unpack? with
  | some bytes => .ok bytes
  | none => .error (faultOf text)

end TokenAcquisition.Text.Base64Url
