/-!
Text as bytes.  `decode?` is strict; `decodeLossy` replaces every maximal ill-formed run by one
replacement character.
-/

namespace TokenAcquisition.Text

def encodeChars (cs : List Char) : List UInt8 :=
  cs.flatMap String.utf8EncodeChar

def encode (s : String) : List UInt8 :=
  encodeChars s.toList

@[simp]
theorem encodeChars_nil : encodeChars [] = [] := rfl

@[simp]
theorem encodeChars_append (cs ds : List Char) :
    encodeChars (cs ++ ds) = encodeChars cs ++ encodeChars ds := by
  simp [encodeChars]

/-- The text written by well-formed UTF-8 bytes. -/
def decode? (bytes : List UInt8) : Option String :=
  (bytes.toByteArray.utf8Decode?).map fun cs => String.ofList cs.toList

@[simp]
theorem decode?_encode (s : String) : decode? (encode s) = some s := by
  have bytes : (encode s).toByteArray = s.toList.utf8Encode := rfl
  rw [decode?, bytes, List.utf8Decode?_utf8Encode]
  simp

def firstChar? (bytes : List UInt8) : Option Char :=
  (bytes.take 4).toByteArray.utf8DecodeChar? 0

/-- The character that stands for an ill-formed run. -/
def replacement : Char :=
  Char.ofNat 0xFFFD

private def isContinuation (b : UInt8) : Bool :=
  0x80 ≤ b && b ≤ 0xBF

/-- The second bytes allowed after the leading byte of a sequence of three or four bytes. -/
private def maySecond (lead b : UInt8) : Bool :=
  if lead == 0xE0 then 0xA0 ≤ b && b ≤ 0xBF
  else if lead == 0xED then 0x80 ≤ b && b ≤ 0x9F
  else if lead == 0xF0 then 0x90 ≤ b && b ≤ 0xBF
  else if lead == 0xF4 then 0x80 ≤ b && b ≤ 0x8F
  else isContinuation b

/-- How many bytes after `lead` belong to a sequence that starts well and then breaks off. -/
def brokenTail (lead : UInt8) (rest : List UInt8) : Nat :=
  if 0xE0 ≤ lead && lead ≤ 0xF4 then
    match rest with
    | b :: c :: _ =>
        if maySecond lead b then (if 0xF0 ≤ lead && isContinuation c then 2 else 1) else 0
    | [b] => if maySecond lead b then 1 else 0
    | [] => 0
  else 0

/-- The characters of bytes, with one replacement character for each maximal ill-formed run. -/
def decodeLossy : List UInt8 → List Char
  | [] => []
  | lead :: rest =>
      match firstChar? (lead :: rest) with
      | some c => c :: decodeLossy (rest.drop (c.utf8Size - 1))
      | none => replacement :: decodeLossy (rest.drop (brokenTail lead rest))
termination_by bytes => bytes.length
decreasing_by all_goals (simp only [List.length_cons, List.length_drop]; omega)

end TokenAcquisition.Text
