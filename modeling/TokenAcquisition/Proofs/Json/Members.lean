import TokenAcquisition.Proofs.Json.Records

/-!
Members of a record that are written out among others.
-/

namespace TokenAcquisition.Json

variable {fields : List Field} {own kept extra all : List (String × Json)} {name : String}

/-- A record's members are written in `all`, in any order and among others that are none of its
fields.  Those that are null may be left out. -/
structure IsWrittenIn (fields : List Field) (own kept extra all : List (String × Json)) :
    Prop where
  among : kept.Sublist own
  complete : ∀ member ∈ own, member ∈ kept ∨ member.2 = .null
  unknown : ∀ member ∈ extra, member.1 ∉ fields.map Field.name
  order : all.Perm (kept ++ extra)

theorem isWrittenIn_self (fields : List Field) (own : List (String × Json)) :
    IsWrittenIn fields own own [] own where
  among := .refl _
  complete _ inside := .inl inside
  unknown := nofun
  order := by rw [List.append_nil]

/-- What is there is kept, and what is null may be left out. -/
theorem IsWrittenIn.lookup_cases (written : IsWrittenIn fields own kept extra all)
    (distinct : (own.map Prod.fst).Nodup) {value : Json} (inside : (name, value) ∈ own) :
    kept.lookup name = some value ∨ value = .null ∧ kept.lookup name = none := by
  have distinctToo : (kept.map Prod.fst).Nodup := distinct.sublist (written.among.map Prod.fst)
  rcases written.complete _ inside with still | null
  · exact .inl (Record.lookup_of_mem distinctToo still)
  · cases found : kept.lookup name with
    | none => exact .inr ⟨null, rfl⟩
    | some other =>
        obtain ⟨before, after, rfl, -⟩ := List.lookup_eq_some_iff.mp found
        have among : (name, other) ∈ own := written.among.subset (by simp)
        have same := Record.lookup_of_mem distinct among
        rw [Record.lookup_of_mem distinct inside] at same
        exact .inl same.symm

/-- A value that is there is not left out. -/
theorem IsWrittenIn.lookup_of_ne (written : IsWrittenIn fields own kept extra all)
    (distinct : (own.map Prod.fst).Nodup) {value : Json} (inside : (name, value) ∈ own)
    (filled : value ≠ .null) : kept.lookup name = some value := by
  rcases written.lookup_cases distinct inside with still | ⟨null, -⟩
  · exact still
  · exact absurd null filled

theorem IsWrittenIn.means (written : IsWrittenIn fields own kept extra all)
    (distinct : (own.map Prod.fst).Nodup) {α : Type} [Encode α] {read : Json → Option α}
    (reads : ∀ a, read (encode a) = some a) (filled : ∀ a : α, encode a ≠ Json.null)
    {o : Option α} (inside : (name, encode o) ∈ own) : Means read (kept.lookup name) o := by
  cases o with
  | none =>
      rcases written.lookup_cases distinct inside with still | ⟨-, absent⟩
      · rw [still]
        exact .null
      · rw [absent]
        exact .absent
  | some a =>
      rw [written.lookup_of_ne distinct inside (filled a)]
      exact .value (reads a)

/-- The fields have what the members say. -/
theorem IsWrittenIn.fills (written : IsWrittenIn fields own kept extra all)
    (plain : ∀ field ∈ fields, field.aliases = [])
    (distinct : (fields.map Field.name).Nodup)
    (named : own.map Prod.fst = fields.map Field.name) :
    Fills fields (fun name => kept.lookup name) (record all) :=
  fills_of_perm plain distinct (named ▸ written.among.map Prod.fst) written.unknown written.order

end TokenAcquisition.Json
