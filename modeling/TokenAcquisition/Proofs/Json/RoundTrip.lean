import TokenAcquisition.Proofs.Json.Grammar

/-!
A value that is written, on one line or with one member or item a line, is read back as it was,
whatever texts it holds, as long as its numbers are integers.
-/

namespace TokenAcquisition.Json

open Text (encodeChars encodeChars_append)

variable {value item : Json} {items : List Json} {members : List (String × Json)} {depth : Nat}
  {after : List UInt8}

/-- A value whose numbers are integers and whose strings are texts. -/
inductive IsExact : Json → Prop where
  | null : IsExact .null
  | bool (value : Bool) : IsExact (.bool value)
  | number {text : List UInt8} : IsNumeral text → IsExact (.number text)
  | text (s : String) : IsExact (text s)
  | array {items : List Json} : (∀ item ∈ items, IsExact item) → IsExact (.array items)
  | record {members : List (String × Json)} :
      (∀ member ∈ members, IsExact member.2) → IsExact (record members)

/-- The members of a record as they are kept in a value. -/
def named (members : List (String × Json)) : List (Option String × Json) :=
  members.map fun m => (some m.1, m.2)

/-! ### Scalars -/

/-- A text is written between its quotes as the grammar has it. -/
theorem exists_spelled_escape (s : String) :
    ∃ pieces, Spelled pieces (encodeChars (s.toList.flatMap escape)) ∧ textOf? pieces = some s := by
  obtain ⟨pieces, body, spelled, isText, same⟩ :=
    stringAfterQuote?_eq_some_iff.mp (stringAfterQuote?_quoted s [])
  rw [List.append_cancel_right same]
  exact ⟨pieces, spelled, isText⟩

/-- The marks between the parts of a text are written in one byte each. -/
theorem encodeChars_cons_ascii {c : Char} (ascii : c.toNat < 128) (cs : List Char) :
    encodeChars (c :: cs) = UInt8.ofNat c.toNat :: encodeChars cs := by
  have own := Text.utf8EncodeChar_ofNat ascii
  rw [Char.ofNat_toNat] at own
  rw [encodeChars, List.flatMap_cons, own]
  rfl

theorem encode_quoted (s : String) :
    encodeChars (quoted s) = 0x22 :: (encodeChars (s.toList.flatMap escape) ++ [0x22]) :=
  congrArg (List.cons 0x22) (encodeChars_append _ _)

theorem writes_text (s : String) : Writes (text s) (encodeChars (quoted s)) := by
  obtain ⟨pieces, spelled, isText⟩ := exists_spelled_escape s
  rw [encode_quoted, text, ← isText]
  exact .string spelled

theorem isWhole_digitBytes (n : Nat) : IsWhole (digitBytes n) := by
  obtain ⟨b, rest, same, zero⟩ := exists_digitBytes_eq_cons n
  have all : ∀ c ∈ digitBytes n, isDigit c = true := fun c => isDigit_of_mem_digitBytes
  rw [same] at all ⊢
  by_cases begins : b = 48
  · obtain ⟨-, rfl⟩ := zero begins
    rw [begins]
    exact .zero
  · exact .digits begins ⟨by simp, all⟩

theorem IsNumeral.isNumber {numeral : List UInt8} (isNumeral : IsNumeral numeral) :
    IsNumber numeral := by
  obtain ⟨n, rfl | rfl⟩ := isNumeral
  · exact ⟨[], _, [], [], .inl rfl, isWhole_digitBytes n, .nothing, .nothing, by simp⟩
  · exact ⟨[45], _, [], [], .inr rfl, isWhole_digitBytes n, .nothing, .nothing, by simp⟩

theorem IsNumeral.ascii {numeral : List UInt8} (isNumeral : IsNumeral numeral) :
    ∀ b ∈ numeral, b.toNat < 128 := by
  have digits (n : Nat) : ∀ b ∈ digitBytes n, b.toNat < 128 := by
    intro b member
    have := ascii_of_isDigit (isDigit_of_mem_digitBytes member)
    omega
  obtain ⟨n, rfl | rfl⟩ := isNumeral
  · exact digits n
  · exact List.forall_mem_cons.mpr ⟨by decide, digits n⟩

theorem encodeChars_ascii {bytes : List UInt8} (ascii : ∀ b ∈ bytes, b.toNat < 128) :
    encodeChars (bytes.map fun b => Char.ofNat b.toNat) = bytes := by
  induction bytes with
  | nil => rfl
  | cons b bytes inductionHypothesis =>
      have own := Text.utf8EncodeChar_ofNat (ascii b (by simp))
      have others := inductionHypothesis fun c member => ascii c (by simp [member])
      rw [UInt8.ofNat_toNat] at own
      rw [List.map_cons, encodeChars, List.flatMap_cons, own, ← encodeChars, others,
        List.singleton_append]

theorem IsNumeral.writes {numeral : List UInt8} (isNumeral : IsNumeral numeral) :
    Writes (.number numeral) (encodeChars (numeral.map fun b => Char.ofNat b.toNat)) := by
  rw [encodeChars_ascii isNumeral.ascii]
  exact .number isNumeral.isNumber

/-! ### Members -/

theorem Writes.stands {bytes : List UInt8} (written : Writes value bytes) : Stands value bytes := by
  have own := Stands.between areGaps_nil written areGaps_nil
  rwa [List.nil_append, List.append_nil] at own

variable {before bytes others : List UInt8} {more : List (Option String × Json)}

theorem writesMembers_singleton (key : String) (areGaps : AreGaps before)
    (stands : Stands value bytes) :
    WritesMembers [(some key, value)] (before ++ (encodeChars (quoted key) ++ 0x3A :: bytes)) := by
  obtain ⟨pieces, spelled, isText⟩ := exists_spelled_escape key
  have whole := WritesMembers.last areGaps spelled areGaps_nil stands
  simpa [isText, encode_quoted] using whole

theorem writesMembers_cons (key : String) (areGaps : AreGaps before)
    (stands : Stands value bytes) (written : WritesMembers more others) :
    WritesMembers ((some key, value) :: more)
      (before ++ (encodeChars (quoted key) ++ 0x3A :: (bytes ++ 0x2C :: others))) := by
  obtain ⟨pieces, spelled, isText⟩ := exists_spelled_escape key
  have whole := WritesMembers.more areGaps spelled areGaps_nil stands written
  simpa [isText, encode_quoted] using whole

/-! ### On one line -/

theorem writesItems_compact (some : items ≠ [])
    (written : ∀ item ∈ items, Writes item (encodeChars (compact item))) :
    WritesItems items (encodeChars (compactItems items)) := by
  induction items with
  | nil => exact absurd rfl some
  | cons item items inductionHypothesis =>
      have own := (written item (by simp)).stands
      by_cases last : items = []
      · subst last
        exact .last own
      · have tail := inductionHypothesis last fun other member => written other (by simp [member])
        rw [compactItems.eq_3 _ _ last, encodeChars_append]
        exact .more own tail

theorem writesMembers_compact (some : members ≠ [])
    (written : ∀ member ∈ members, Writes member.2 (encodeChars (compact member.2))) :
    WritesMembers (named members) (encodeChars (compactMembers (named members))) := by
  induction members with
  | nil => exact absurd rfl some
  | cons member members inductionHypothesis =>
      have own := (written member (by simp)).stands
      by_cases last : members = []
      · subst last
        have whole := writesMembers_singleton member.1 areGaps_nil own
        rw [named, List.map_singleton, compactMembers, encodeChars_append]
        exact whole
      · have tail := inductionHypothesis last fun other inside => written other (by simp [inside])
        have filled : named members ≠ [] := by simpa [named] using last
        rw [named, List.map_cons, ← named, compactMembers.eq_3 _ _ _ filled, List.append_assoc,
          encodeChars_append]
        have whole := writesMembers_cons member.1 areGaps_nil own tail
        simpa [encodeChars_cons_ascii] using whole

theorem IsExact.writes_compact (exact : IsExact value) :
    Writes value (encodeChars (compact value)) := by
  induction exact with
  | null => exact .null
  | bool b => cases b <;> first | exact .yes | exact .no
  | number numeral => exact numeral.writes
  | text s => exact writes_text s
  | @array items _ inductionHypothesis =>
      by_cases filled : items = []
      · subst filled
        exact .emptyArray areGaps_nil
      · have own := Writes.array (writesItems_compact filled inductionHypothesis)
        rw [compact, encodeChars_append]
        exact own
  | @record members _ inductionHypothesis =>
      by_cases filled : members = []
      · subst filled
        exact .emptyObject areGaps_nil
      · have own := Writes.object (writesMembers_compact filled inductionHypothesis)
        rw [Json.record, compact, encodeChars_append]
        exact own

/-! ### On lines -/

/-- The bytes of a line break with its blanks. -/
def gap (depth : Nat) : List UInt8 :=
  encodeChars (newline depth)

theorem areGaps_gap (depth : Nat) : AreGaps (gap depth) := by
  have blanks (n : Nat) : AreGaps (encodeChars (List.replicate n ' ')) := by
    induction n with
    | zero => exact areGaps_nil
    | succ n inductionHypothesis => exact List.forall_mem_cons.mpr ⟨rfl, inductionHypothesis⟩
  exact List.forall_mem_cons.mpr ⟨rfl, blanks _⟩

theorem writesItems_lines (some : items ≠ [])
    (written : ∀ item ∈ items, Writes item (encodeChars (lines depth item)))
    (areGaps : AreGaps after) :
    WritesItems items (encodeChars (lineItems depth items) ++ after) := by
  induction items with
  | nil => exact absurd rfl some
  | cons item items inductionHypothesis =>
      have own := written item (by simp)
      by_cases last : items = []
      · subst last
        rw [lineItems, encodeChars_append, List.append_assoc]
        exact .last (.between (areGaps_gap depth) own areGaps)
      · have tail := inductionHypothesis last fun other member => written other (by simp [member])
        rw [lineItems.eq_3 _ _ _ last, encodeChars_append, encodeChars_append]
        have whole := WritesItems.more (.between (areGaps_gap depth) own areGaps_nil) tail
        simpa [gap, encodeChars_cons_ascii] using whole

theorem writesMembers_lines (some : members ≠ [])
    (written : ∀ member ∈ members, Writes member.2 (encodeChars (lines depth member.2)))
    (areGaps : AreGaps after) :
    WritesMembers (named members) (encodeChars (lineMembers depth (named members)) ++ after) := by
  have blank : AreGaps [0x20] := by simp [AreGaps, isGap]
  induction members with
  | nil => exact absurd rfl some
  | cons member members inductionHypothesis =>
      have own := written member (by simp)
      by_cases last : members = []
      · subst last
        have whole := writesMembers_singleton member.1 (areGaps_gap depth)
          (.between blank own areGaps)
        rw [named, List.map_singleton, lineMembers]
        simpa [gap, encodeChars_cons_ascii] using whole
      · have tail := inductionHypothesis last fun other inside => written other (by simp [inside])
        have filled : named members ≠ [] := by simpa [named] using last
        have whole := writesMembers_cons member.1 (areGaps_gap depth)
          (.between blank own areGaps_nil) tail
        rw [named, List.map_cons, ← named, lineMembers.eq_3 _ _ _ _ filled]
        simpa [gap, encodeChars_cons_ascii] using whole

theorem IsExact.writes_lines (exact : IsExact value) (depth : Nat) :
    Writes value (encodeChars (lines depth value)) := by
  induction exact generalizing depth with
  | null => exact .null
  | bool b => cases b <;> first | exact .yes | exact .no
  | number numeral => exact numeral.writes
  | text s => exact writes_text s
  | @array items _ inductionHypothesis =>
      by_cases filled : items = []
      · subst filled
        exact .emptyArray areGaps_nil
      · have own := Writes.array (writesItems_lines filled
          (fun item inside => inductionHypothesis item inside (depth + 1)) (areGaps_gap depth))
        rw [lines, if_neg (by simpa using filled)]
        simpa [gap, encodeChars_cons_ascii] using own
  | @record members _ inductionHypothesis =>
      by_cases filled : members = []
      · subst filled
        exact .emptyObject areGaps_nil
      · have own := Writes.object (writesMembers_lines filled
          (fun member inside => inductionHypothesis member inside (depth + 1)) (areGaps_gap depth))
        have more : (named members).isEmpty = false := by simpa [named] using filled
        rw [Json.record, ← named, lines, if_neg (by simp [more])]
        simpa [gap, encodeChars_cons_ascii] using own

/-! ### Whole texts -/

/-- The text of a value on one line is read back as the value. -/
theorem parseText?_render (exact : IsExact value) : parseText? value.render = some value := by
  rw [parseText?_eq_some_iff, IsTextOf, Text.encode, render, String.toList_ofList]
  exact exact.writes_compact.stands

/-- The text of a value on lines is read back as the value. -/
theorem parseText?_renderLines (exact : IsExact value) :
    parseText? value.renderLines = some value := by
  rw [parseText?_eq_some_iff, IsTextOf, Text.encode, renderLines, String.toList_ofList]
  exact (exact.writes_lines 0).stands

end TokenAcquisition.Json
