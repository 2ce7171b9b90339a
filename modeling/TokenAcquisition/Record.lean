/-!
Reading records.  A record is written either as named members, where unknown names are skipped
and a known name may occur once, or as a list of its fields in order, where fields at the end may
be left out.
-/

namespace TokenAcquisition

/-- A declared field: its name and the other names it may be written under. -/
structure Field where
  name : String
  aliases : List String := []

def Field.isNamed (field : Field) (name : String) : Bool :=
  field.name == name || field.aliases.contains name

/-- The fields of a record that were written, each under its declared name. -/
structure Record (V : Type) where
  entries : List (String × V)

namespace Record

variable {V α : Type}

/-- The values of the members that carry a name of the field. -/
def written (field : Field) (members : List (String × V)) : List V :=
  (members.filter fun m => field.isNamed m.1).map Prod.snd

def ofMembers? (fields : List Field) (members : List (String × V)) : Option (Record V) :=
  let single? (field : Field) : Option (List (String × V)) :=
    match written field members with
    | [] => some []
    | [value] => some [(field.name, value)]
    | _ => none
  (fields.mapM single?).map fun found => ⟨found.flatten⟩

def ofItems? (fields : List Field) (items : List V) : Option (Record V) :=
  if items.length ≤ fields.length then
    some ⟨(fields.zip items).map fun pair => (pair.1.name, pair.2)⟩
  else none

def value? (record : Record V) (name : String) : Option V :=
  record.entries.lookup name

def required (record : Record V) (name : String) (read : V → Option α) : Option α :=
  (record.value? name).bind read

/-- A field with a value for when it was left out. -/
def withDefault (record : Record V) (name : String) (default : α) (read : V → Option α) :
    Option α :=
  match record.value? name with
  | some value => read value
  | none => some default

end Record

end TokenAcquisition
