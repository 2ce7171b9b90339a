import TokenAcquisition.Record
import TokenAcquisition.SortedMap

/-!
The values of TOML documents.
-/

namespace TokenAcquisition

/-- A TOML value.  Of floating-point numbers only their presence is kept. -/
inductive Toml where
  | str (value : String)
  | integer (value : Int)
  | float
  /-- A number that is too large.  It may stand where nobody looks at it. -/
  | oversized
  | bool (value : Bool)
  | time (text : String)
  | array (items : List Toml)
  | table (entries : List (String × Toml))

namespace Toml

def str? : Toml → Option String
  | .str value => some value
  | _ => none

def bool? : Toml → Option Bool
  | .bool value => some value
  | _ => none

def integer? : Toml → Option Int
  | .integer value => some value
  | _ => none

def list? {α : Type} (read : Toml → Option α) : Toml → Option (List α)
  | .array items => items.mapM read
  | _ => none

/-- The name of the one entry of a time that is read as a table. -/
def timeKey : String := "$__toml_private_datetime"

/-- The entries of a table.  A time is one with its text as the only entry. -/
def entries? : Toml → Option (List (String × Toml))
  | .table entries => some entries
  | .time text => some [(timeKey, .str text)]
  | _ => none

mutual

/-- The value can be looked at to its depths. -/
def isReadable : Toml → Bool
  | .oversized => false
  | .array items => areReadable items
  | .table entries => holdReadable entries
  | _ => true

def areReadable : List Toml → Bool
  | [] => true
  | item :: rest => item.isReadable && areReadable rest

def holdReadable : List (String × Toml) → Bool
  | [] => true
  | (_, value) :: rest => value.isReadable && holdReadable rest

end

def map? {α : Type} (read : Toml → Option α) (value : Toml) : Option (SortedMap α) :=
  value.entries?.bind fun entries =>
    (entries.mapM fun e => (read e.2).map fun value => (e.1, value)).map SortedMap.ofList

/-- The record that a value writes: a table, or an array that starts with the fields in order.
The entries of a table that are no fields are looked at all the same, while nobody looks at what
follows the fields in an array. -/
def record? (fields : List Field) : Toml → Option (Record Toml)
  | .array items => Record.ofItems? fields (items.take fields.length)
  | value =>
      value.entries?.bind fun entries =>
        if entries.all fun e => fields.any (·.isNamed e.1) || e.2.isReadable then
          Record.ofMembers? fields entries
        else none

end Toml

end TokenAcquisition

namespace TokenAcquisition.Record

def given {α : Type} (record : Record Toml) (name : String) (read : Toml → Option α) :
    Option (Option α) :=
  record.withDefault name none fun value => (read value).map some

end TokenAcquisition.Record
