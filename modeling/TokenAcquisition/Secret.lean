import TokenAcquisition.Json.Printer
import TokenAcquisition.Json.Value

/-!
Texts that are not shown by accident: a secret prints as a fixed mark, and only `expose` and its
JSON form give the text.
-/

namespace TokenAcquisition

/-- A text that is not to be shown. -/
structure Secret where
  expose : String
  deriving DecidableEq

namespace Secret

def mark : String := "[REDACTED]"

instance : ToString Secret := ⟨fun _ => mark⟩

instance : Repr Secret := ⟨fun _ _ => mark⟩

@[simp]
theorem toString_eq (secret : Secret) : toString secret = mark := rfl

def toJson (secret : Secret) : Json :=
  .text secret.expose

instance : Json.Encode Secret := ⟨toJson⟩

def ofJson? (value : Json) : Option Secret :=
  value.text?.map Secret.mk

@[simp]
theorem ofJson?_toJson (secret : Secret) : ofJson? secret.toJson = some secret := rfl

/-- A secret that holds some text, be it blank. -/
def isFilled (secret : Secret) : Bool :=
  !secret.expose.isEmpty

end Secret

end TokenAcquisition
