import TokenAcquisition.Record
import TokenAcquisition.SortedMap

/-!
The values of JSON texts, and what is written as one or read from one.  Two things are kept that a value alone would lose: a number stays as
it was written, and a string whose escapes or bytes spell no text stays in place as `none`, so
that it spoils only the readers that ask for it.
-/

namespace TokenAcquisition

inductive Json where
  | null
  | bool (value : Bool)
  /-- A number as written, in ASCII bytes. -/
  | number (text : List UInt8)
  | string (text : Option String)
  | array (items : List Json)
  /-- The members in order, repeated keys included. -/
  | object (members : List (Option String × Json))

namespace Json

def digitBytes (n : Nat) : List UInt8 :=
  (Nat.toDigits 10 n).map fun c => UInt8.ofNat c.toNat

def text (s : String) : Json :=
  .string (some s)

def natural (n : Nat) : Json :=
  .number (digitBytes n)

def integer (i : Int) : Json :=
  match i with
  | .ofNat n => .number (digitBytes n)
  | .negSucc n => .number (45 :: digitBytes (n + 1))

def optional {α : Type} (write : α → Json) : Option α → Json
  | some a => write a
  | none => .null

def record (members : List (String × Json)) : Json :=
  .object (members.map fun m => (some m.1, m.2))

def ofDigits? (digits : List UInt8) : Option Nat :=
  if digits.isEmpty then none
  else
    digits.foldl
      (fun n? b => n?.bind fun n =>
        if 48 ≤ b && b ≤ 57 then some (n * 10 + (b.toNat - 48)) else none)
      (some 0)

def text? : Json → Option String
  | .string text => text
  | _ => none

/-- The integer of a number written without fraction, exponent or a negative zero. -/
def integer? : Json → Option Int
  | .number (45 :: digits) =>
      match ofDigits? digits with
      | some (n + 1) => some (Int.negSucc n)
      | _ => none
  | .number digits => (ofDigits? digits).map Int.ofNat
  | _ => none

/-- A natural number of at most 64 bits. -/
def word? (value : Json) : Option UInt64 :=
  match value.integer? with
  | some (.ofNat n) => if n < UInt64.size then some (UInt64.ofNat n) else none
  | _ => none

/-- An integer of `bits` bits in two's complement. -/
def signed? (bits : Nat) (value : Json) : Option Int :=
  let bound : Int := Int.ofNat (1 <<< (bits - 1))
  value.integer?.filter fun i => decide (-bound ≤ i ∧ i < bound)

def list? {α : Type} (read : Json → Option α) : Json → Option (List α)
  | .array items => items.mapM read
  | _ => none

/-! ### What has a JSON form -/

class Encode (α : Type) where
  encode : α → Json

export Encode (encode)

instance : Encode Json := ⟨id⟩

instance : Encode String := ⟨.text⟩

instance : Encode Bool := ⟨.bool⟩

instance : Encode Nat := ⟨.natural⟩

instance : Encode Int := ⟨.integer⟩

instance : Encode UInt64 := ⟨fun n => .natural n.toNat⟩

instance {α : Type} [Encode α] : Encode (Option α) := ⟨.optional encode⟩

instance {α : Type} [Encode α] : Encode (List α) := ⟨fun items => .array (items.map encode)⟩

/-- A map is an object with its entries in order. -/
instance {α : Type} [Encode α] : Encode (SortedMap α) :=
  ⟨fun m => .record (m.entries.map fun entry => (entry.1, encode entry.2))⟩

/-! ### Records: objects, or arrays of the fields in order -/

def namedMembers? (members : List (Option String × Json)) : Option (List (String × Json)) :=
  members.mapM fun m => m.1.map fun key => (key, m.2)

def record? (fields : List Field) : Json → Option (Record Json)
  | .object members => (namedMembers? members).bind (Record.ofMembers? fields)
  | .array items => Record.ofItems? fields items
  | _ => none

def nullable {α : Type} (read : Json → Option α) : Json → Option (Option α)
  | .null => some none
  | value => (read value).map some

/-- The entries of an object read as a map: of a repeated key the last entry counts. -/
def map? {α : Type} (read : Json → Option α) : Json → Option (SortedMap α)
  | .object members => do
      let named ← namedMembers? members
      let found ← named.mapM fun m => (read m.2).map fun value => (m.1, value)
      some (SortedMap.ofList found)
  | _ => none

end Json

namespace Record

variable {α : Type}

def optional (record : Record Json) (name : String) (read : Json → Option α) :
    Option (Option α) :=
  record.withDefault name none (Json.nullable read)

end Record

end TokenAcquisition
