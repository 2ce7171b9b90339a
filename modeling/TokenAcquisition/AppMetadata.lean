import TokenAcquisition.Json.Value

/-!
What is kept of an application beside its credentials.
-/

namespace TokenAcquisition

structure AppMetadata where
  clientId : String
  environment : String
  /-- The mark of a family of clients. -/
  foci : Option String := none
  applicationUid : Int
  deriving DecidableEq, Repr

namespace AppMetadata

open Json (encode)

def isFamilyMember (entry : AppMetadata) : Bool :=
  entry.foci.any fun mark => !mark.isEmpty

def sameOwner (a b : AppMetadata) : Bool :=
  a.clientId == b.clientId && a.environment == b.environment

def fields : List Field :=
  [⟨"client_id", []⟩, ⟨"environment", []⟩, ⟨"foci", []⟩, ⟨"application_uid", []⟩]

def ofJson? (value : Json) : Option AppMetadata := do
  let r ← value.record? fields
  some
    { clientId := ← r.required "client_id" Json.text?
      environment := ← r.required "environment" Json.text?
      foci := ← r.optional "foci" Json.text?
      applicationUid := ← r.required "application_uid" (Json.signed? 32) }

/-- The mark is left out when there is none. -/
def toJson (entry : AppMetadata) : Json :=
  .record
    ([("client_id", encode entry.clientId), ("environment", encode entry.environment)] ++
      (match entry.foci with
      | some mark => [("foci", encode mark)]
      | none => []) ++
      [("application_uid", encode entry.applicationUid)])

instance : Json.Encode AppMetadata := ⟨toJson⟩

end AppMetadata

end TokenAcquisition
