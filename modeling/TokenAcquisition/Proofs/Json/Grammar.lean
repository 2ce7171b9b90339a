import Mathlib.Data.List.DropRight
import TokenAcquisition.Proofs.Json.Text
import TokenAcquisition.Proofs.Lists

/-!
The grammar of JSON texts, and that it is what is read: a text is read as a value if and only if
the grammar writes the value as that text.  The grammar says nothing of how far a reader looks or
of how deep it descends.
-/

namespace TokenAcquisition.Json

variable {bytes rest text digits : List UInt8}

/-- What is made of what is read leaves the same rest. -/
theorem exists_of_map {α β : Type} (make : α → β) {found : Option (α × List UInt8)} {made : β}
    (read : (found.map fun pair => (make pair.1, pair.2)) = some (made, rest)) :
    ∃ inner, found = some (inner, rest) ∧ make inner = made := by
  obtain ⟨⟨inner, after⟩, own, same⟩ := Option.map_eq_some_iff.mp read
  obtain ⟨rfl, rfl⟩ := Prod.mk.inj same
  exact ⟨inner, own, rfl⟩

/-! ### Gaps -/

/-- The bytes are gaps between tokens. -/
def AreGaps (bytes : List UInt8) : Prop :=
  ∀ b ∈ bytes, isGap b = true

theorem areGaps_nil : AreGaps [] := nofun

theorem skipGaps_of_head {b : UInt8} (other : isGap b = false) (rest : List UInt8) :
    skipGaps (b :: rest) = b :: rest :=
  List.dropWhile_cons_of_neg (by simp [other])

theorem AreGaps.skipGaps_append (gaps : AreGaps bytes) (rest : List UInt8) :
    skipGaps (bytes ++ rest) = skipGaps rest :=
  List.dropWhile_append_of_pos gaps

theorem AreGaps.skipGaps_append_cons (gaps : AreGaps bytes) {b : UInt8}
    (other : isGap b = false) (rest : List UInt8) :
    skipGaps (bytes ++ b :: rest) = b :: rest := by
  rw [gaps.skipGaps_append, skipGaps_of_head other]

theorem skipGaps_skipGaps (bytes : List UInt8) : skipGaps (skipGaps bytes) = skipGaps bytes :=
  List.dropWhile_idempotent _ _

/-- What is skipped are the gaps in front. -/
theorem exists_gaps (bytes : List UInt8) :
    ∃ gaps, AreGaps gaps ∧ bytes = gaps ++ skipGaps bytes :=
  ⟨bytes.takeWhile isGap, fun _ member => List.mem_takeWhile_imp member,
    List.takeWhile_append_dropWhile.symm⟩

/-! ### Numbers -/

theorem ascii_of_isDigit {b : UInt8} (digit : isDigit b = true) : 48 ≤ b.toNat ∧ b.toNat ≤ 57 := by
  simpa [isDigit, UInt8.le_iff_toNat_le] using digit

/-- One digit or more. -/
def AreDigits (bytes : List UInt8) : Prop :=
  bytes ≠ [] ∧ ∀ b ∈ bytes, isDigit b = true

inductive IsWhole : List UInt8 → Prop where
  | zero : IsWhole [48]
  | digits {b : UInt8} {rest : List UInt8} :
      b ≠ 48 → AreDigits (b :: rest) → IsWhole (b :: rest)

inductive IsFraction : List UInt8 → Prop where
  | nothing : IsFraction []
  | digits {digits : List UInt8} : AreDigits digits → IsFraction (46 :: digits)

inductive IsExponent : List UInt8 → Prop where
  | nothing : IsExponent []
  | plain {e : UInt8} {digits : List UInt8} :
      e = 101 ∨ e = 69 → AreDigits digits → IsExponent (e :: digits)
  | signed {e sign : UInt8} {digits : List UInt8} :
      e = 101 ∨ e = 69 → sign = 43 ∨ sign = 45 → AreDigits digits →
      IsExponent (e :: sign :: digits)

/-- A number as the grammar has it: a whole part that may be negative, a fraction, an exponent. -/
def IsNumber (bytes : List UInt8) : Prop :=
  ∃ sign whole fraction exponent, (sign = [] ∨ sign = [45]) ∧ IsWhole whole ∧
    IsFraction fraction ∧ IsExponent exponent ∧ bytes = sign ++ whole ++ fraction ++ exponent

/-- Nothing here goes on with digits. -/
def EndsDigits (bytes : List UInt8) : Prop :=
  ∀ b ∈ bytes.head?, isDigit b = false

theorem endsDigits_cons {b : UInt8} (other : isDigit b = false) (rest : List UInt8) :
    EndsDigits (b :: rest) := by
  rintro c ⟨⟩
  exact other

theorem EndsNumber.endsDigits (ends : EndsNumber rest) : EndsDigits rest :=
  fun b head => (ends b head).1

theorem AreDigits.read (areDigits : AreDigits digits) (ends : EndsDigits rest) :
    digits? (digits ++ rest) = some (digits, rest) := by
  have filled : digits.isEmpty = false := by simpa using areDigits.1
  simp only [digits?, Lists.takeWhile_append_of_stops areDigits.2 ends,
    Lists.dropWhile_append_of_stops areDigits.2 ends, filled, Bool.false_eq_true, if_false]

theorem areDigits_of_digits? (read : digits? bytes = some (digits, rest)) :
    AreDigits digits ∧ bytes = digits ++ rest := by
  simp only [digits?] at read
  split at read
  next => cases read
  next filled =>
    obtain ⟨rfl, rfl⟩ := Prod.mk.inj (Option.some.inj read)
    refine ⟨⟨by simpa using filled, fun b member => List.mem_takeWhile_imp member⟩, ?_⟩
    exact List.takeWhile_append_dropWhile.symm

theorem IsWhole.read {whole : List UInt8} (isWhole : IsWhole whole) (ends : EndsDigits rest) :
    whole? (whole ++ rest) = some (whole, rest) := by
  cases isWhole with
  | zero =>
      rw [List.singleton_append, whole?]
      have other : rest.head?.any isDigit = false := by
        cases rest with
        | nil => rfl
        | cons b rest => exact ends b rfl
      simp [other]
  | digits other areDigits =>
      rw [List.cons_append, whole?, if_neg (by simpa using other), ← List.cons_append]
      exact areDigits.read ends

theorem isWhole_of_whole? {whole : List UInt8} (read : whole? bytes = some (whole, rest)) :
    IsWhole whole ∧ bytes = whole ++ rest := by
  cases bytes with
  | nil => cases read
  | cons b bytes =>
      rw [whole?] at read
      split at read
      next zero =>
        obtain rfl := eq_of_beq zero
        split at read
        next => cases read
        next =>
          obtain ⟨rfl, rfl⟩ := Prod.mk.inj (Option.some.inj read)
          exact ⟨.zero, rfl⟩
      next other =>
        obtain ⟨areDigits, same⟩ := areDigits_of_digits? read
        obtain ⟨c, others, rfl⟩ := List.exists_cons_of_ne_nil areDigits.1
        obtain ⟨rfl, -⟩ := List.cons.inj same
        exact ⟨.digits (by simpa using other) areDigits, same⟩

theorem IsFraction.read {fraction : List UInt8} (isFraction : IsFraction fraction)
    (ends : EndsDigits rest) (other : ∀ b ∈ rest.head?, b ≠ 46) :
    fraction? (fraction ++ rest) = some (fraction, rest) := by
  cases isFraction with
  | nothing =>
      cases rest with
      | nil => rfl
      | cons b rest => simp [fraction?, other b rfl]
  | digits areDigits => simp [fraction?, areDigits.read ends]

theorem isFraction_of_fraction? {fraction : List UInt8}
    (read : fraction? bytes = some (fraction, rest)) :
    IsFraction fraction ∧ bytes = fraction ++ rest := by
  cases bytes with
  | nil =>
      obtain ⟨rfl, rfl⟩ := Prod.mk.inj (Option.some.inj read)
      exact ⟨.nothing, rfl⟩
  | cons b bytes =>
      rw [fraction?] at read
      split at read
      next point =>
        obtain rfl := eq_of_beq point
        obtain ⟨digits, own, rfl⟩ := exists_of_map (46 :: ·) read
        obtain ⟨areDigits, rfl⟩ := areDigits_of_digits? own
        exact ⟨.digits areDigits, rfl⟩
      next =>
        obtain ⟨rfl, rfl⟩ := Prod.mk.inj (Option.some.inj read)
        exact ⟨.nothing, rfl⟩

theorem IsExponent.read {exponent : List UInt8} (isExponent : IsExponent exponent)
    (ends : EndsNumber rest) : exponent? (exponent ++ rest) = some (exponent, rest) := by
  cases isExponent with
  | nothing =>
      cases rest with
      | nil => rfl
      | cons b rest =>
          obtain ⟨-, -, small, capital⟩ := ends b rfl
          simp [exponent?, small, capital]
  | plain letter areDigits =>
      obtain ⟨b, others, rfl⟩ := List.exists_cons_of_ne_nil areDigits.1
      have digit := areDigits.2 b (by simp)
      have unsigned : b ≠ 43 ∧ b ≠ 45 := by
        constructor <;> rintro rfl <;> cases digit
      have read := areDigits.read ends.endsDigits
      rw [List.cons_append] at read
      simp [exponent?, letter, unsigned, read]
  | signed letter sign areDigits =>
      simp [exponent?, letter, sign, areDigits.read ends.endsDigits]

theorem isExponent_of_exponent? {exponent : List UInt8}
    (read : exponent? bytes = some (exponent, rest)) :
    IsExponent exponent ∧ bytes = exponent ++ rest := by
  cases bytes with
  | nil =>
      obtain ⟨rfl, rfl⟩ := Prod.mk.inj (Option.some.inj read)
      exact ⟨.nothing, rfl⟩
  | cons e bytes =>
      rw [exponent?.eq_def] at read
      dsimp only at read
      split at read
      next letter =>
        have letter : e = 101 ∨ e = 69 := by simpa using letter
        cases bytes with
        | nil => cases read
        | cons c bytes =>
            dsimp only at read
            split at read
            next sign =>
              obtain ⟨digits, own, rfl⟩ := exists_of_map (e :: c :: ·) read
              obtain ⟨areDigits, rfl⟩ := areDigits_of_digits? own
              exact ⟨.signed letter (by simpa using sign) areDigits, rfl⟩
            next =>
              obtain ⟨digits, own, rfl⟩ := exists_of_map (e :: ·) read
              obtain ⟨areDigits, whole⟩ := areDigits_of_digits? own
              exact ⟨.plain letter areDigits, by rw [whole]; rfl⟩
      next =>
        obtain ⟨rfl, rfl⟩ := Prod.mk.inj (Option.some.inj read)
        exact ⟨.nothing, rfl⟩

/-- A number is read to its end. -/
theorem IsNumber.read (isNumber : IsNumber text) (ends : EndsNumber rest) :
    number? (text ++ rest) = some (text, rest) := by
  obtain ⟨sign, whole, fraction, exponent, isSign, isWhole, isFraction, isExponent, rfl⟩ :=
    isNumber
  have afterFraction : EndsDigits (exponent ++ rest) ∧ ∀ b ∈ (exponent ++ rest).head?, b ≠ 46 := by
    cases isExponent with
    | nothing => exact ⟨ends.endsDigits, fun b head => (ends b head).2.1⟩
    | plain letter =>
        obtain rfl | rfl := letter <;> exact ⟨endsDigits_cons rfl _, by simp⟩
    | signed letter =>
        obtain rfl | rfl := letter <;> exact ⟨endsDigits_cons rfl _, by simp⟩
  have afterWhole : EndsDigits (fraction ++ (exponent ++ rest)) := by
    cases isFraction with
    | nothing => exact afterFraction.1
    | digits => exact endsDigits_cons rfl _
  have wholeRead := isWhole.read afterWhole
  have fractionRead := isFraction.read afterFraction.1 afterFraction.2
  have exponentRead := isExponent.read ends
  simp only [List.append_assoc]
  obtain rfl | rfl := isSign
  · have unsigned : ((whole ++ (fraction ++ (exponent ++ rest))).head? == some 45) = false := by
      cases isWhole with
      | zero => rfl
      | digits other areDigits =>
          rw [beq_eq_false_iff_ne]
          rintro ⟨⟩
          cases areDigits.2 45 (by simp)
    rw [number?, List.nil_append, unsigned]
    simp [wholeRead, fractionRead, exponentRead]
  · simp [number?, wholeRead, fractionRead, exponentRead]

/-- A number begins with a digit or with a minus. -/
theorem IsNumber.opens (isNumber : IsNumber text) :
    ∃ b others, text = b :: others ∧ 45 ≤ b.toNat ∧ b.toNat ≤ 57 := by
  obtain ⟨sign, whole, fraction, exponent, rfl | rfl, isWhole, -, -, rfl⟩ := isNumber
  · cases isWhole with
    | zero => exact ⟨48, _, rfl, by decide, by decide⟩
    | digits _ areDigits =>
        have digit := ascii_of_isDigit (areDigits.2 _ List.mem_cons_self)
        exact ⟨_, _, rfl, by omega, by omega⟩
  · exact ⟨45, _, rfl, by decide, by decide⟩

theorem isGap_eq_false {b : UInt8} (least : 45 ≤ b.toNat) (most : b.toNat ≤ 57) :
    isGap b = false := by
  simp only [isGap, Bool.or_eq_false_iff, beq_eq_false_iff_ne]
  refine ⟨⟨⟨?_, ?_⟩, ?_⟩, ?_⟩ <;> rintro rfl <;> exact absurd least (by decide)

theorem isNumber_of_number? (read : number? bytes = some (text, rest)) :
    IsNumber text ∧ bytes = text ++ rest := by
  simp only [number?, Option.bind_eq_bind, Option.bind_eq_some_iff, Option.some.injEq,
    Prod.mk.injEq, Prod.exists] at read
  obtain ⟨whole, rest₁, wholeRead, fraction, rest₂, fractionRead, exponent, rest₃, exponentRead,
    rfl, rfl⟩ := read
  obtain ⟨isWhole, afterSign⟩ := isWhole_of_whole? wholeRead
  obtain ⟨isFraction, rfl⟩ := isFraction_of_fraction? fractionRead
  obtain ⟨isExponent, rfl⟩ := isExponent_of_exponent? exponentRead
  by_cases negative : bytes.head? = some 45
  · obtain ⟨bytes, rfl⟩ : ∃ others, bytes = 45 :: others := by
      cases bytes with
      | nil => cases negative
      | cons b bytes => exact ⟨bytes, by rw [Option.some.inj negative]⟩
    refine ⟨⟨[45], whole, fraction, exponent, .inr rfl, isWhole, isFraction, isExponent, rfl⟩, ?_⟩
    have afterSign : bytes = whole ++ (fraction ++ (exponent ++ rest₃)) := afterSign
    simp [afterSign]
  · have unsigned : (bytes.head? == some 45) = false := by simpa using negative
    simp only [unsigned, Bool.false_eq_true, if_false, List.length_nil, List.drop_zero]
      at afterSign ⊢
    refine ⟨⟨[], whole, fraction, exponent, .inl rfl, isWhole, isFraction, isExponent, rfl⟩, ?_⟩
    simp [afterSign]

/-! ### Strings -/

/-- What stands between the quotes of a string. -/
inductive Spelled : List Piece → List UInt8 → Prop where
  | nothing : Spelled [] []
  | byte {b : UInt8} {pieces : List Piece} {bytes : List UInt8} :
      b ≠ 0x22 → b ≠ 0x5C → ¬ b < 0x20 → Spelled pieces bytes →
      Spelled (.byte b :: pieces) (b :: bytes)
  | short {e b : UInt8} {pieces : List Piece} {bytes : List UInt8} :
      shortEscape? e = some b → Spelled pieces bytes →
      Spelled (.byte b :: pieces) (0x5C :: e :: bytes)
  | unit {a b c d : UInt8} {u : Nat} {pieces : List Piece} {bytes : List UInt8} :
      unit? a b c d = some u → Spelled pieces bytes →
      Spelled (.unit u :: pieces) (0x5C :: 0x75 :: a :: b :: c :: d :: bytes)

/-- The text that pieces spell, if they do. -/
def textOf? (pieces : List Piece) : Option String :=
  (bytesOf? pieces).bind Text.decode?

theorem Spelled.read {pieces : List Piece} (spelled : Spelled pieces bytes)
    (rest : List UInt8) : pieces? (bytes ++ 0x22 :: rest) = some (pieces, rest) := by
  induction spelled with
  | nothing =>
      rw [List.nil_append, pieces?.eq_def]
      rfl
  | byte quote backslash visible _ inductionHypothesis =>
      rw [List.cons_append, pieces?.eq_def]
      simp [quote, backslash, visible, inductionHypothesis]
  | @short e b _ _ isEscape _ inductionHypothesis =>
      have other : e ≠ 0x75 := by
        rintro rfl
        cases isEscape
      rw [List.cons_append, List.cons_append, pieces?.eq_def]
      simp [other, isEscape, inductionHypothesis]
  | unit isUnit _ inductionHypothesis =>
      simp only [List.cons_append]
      rw [pieces?.eq_def]
      simp [isUnit, inductionHypothesis]

theorem exists_spelled {pieces : List Piece} (read : pieces? bytes = some (pieces, rest)) :
    ∃ body, Spelled pieces body ∧ bytes = body ++ 0x22 :: rest := by
  revert pieces
  fun_induction pieces? bytes with
  | case2 b bytes quote =>
      intro pieces read
      obtain ⟨rfl, rfl⟩ := Prod.mk.inj (Option.some.inj read)
      exact ⟨[], .nothing, by rw [eq_of_beq quote]; rfl⟩
  | case4 b _ backslash e letter h₁ h₂ h₃ h₄ bytes u isUnit inductionHypothesis =>
      intro pieces read
      obtain ⟨others, own, rfl⟩ := exists_of_map (Piece.unit u :: ·) read
      obtain ⟨body, spelled, rfl⟩ := inductionHypothesis own
      exact ⟨_, .unit isUnit spelled, by rw [eq_of_beq backslash, eq_of_beq letter]; rfl⟩
  | case7 b _ backslash e bytes _ c isEscape inductionHypothesis =>
      intro pieces read
      obtain ⟨others, own, rfl⟩ := exists_of_map (Piece.byte c :: ·) read
      obtain ⟨body, spelled, rfl⟩ := inductionHypothesis own
      exact ⟨_, .short isEscape spelled, by rw [eq_of_beq backslash]; rfl⟩
  | case10 b bytes quote backslash visible inductionHypothesis =>
      intro pieces read
      obtain ⟨others, own, rfl⟩ := exists_of_map (Piece.byte b :: ·) read
      obtain ⟨body, spelled, rfl⟩ := inductionHypothesis own
      exact ⟨_, .byte (by simpa using quote) (by simpa using backslash) visible spelled, rfl⟩
  | _ =>
      intro pieces read
      cases read

theorem stringAfterQuote?_eq_some_iff {found : Option String} :
    stringAfterQuote? bytes = some (found, rest) ↔
      ∃ pieces body, Spelled pieces body ∧ textOf? pieces = found ∧
        bytes = body ++ 0x22 :: rest := by
  constructor
  · intro read
    obtain ⟨pieces, own, rfl⟩ := exists_of_map textOf? read
    obtain ⟨body, spelled, rfl⟩ := exists_spelled own
    exact ⟨pieces, body, spelled, rfl, rfl⟩
  · rintro ⟨pieces, body, spelled, rfl, rfl⟩
    rw [stringAfterQuote?, spelled.read, Option.map_some]
    rfl

/-! ### Values -/

mutual

/-- The bytes write the value. -/
inductive Writes : Json → List UInt8 → Prop where
  | null : Writes .null [0x6E, 0x75, 0x6C, 0x6C]
  | yes : Writes (.bool true) [0x74, 0x72, 0x75, 0x65]
  | no : Writes (.bool false) [0x66, 0x61, 0x6C, 0x73, 0x65]
  | number {text : List UInt8} : IsNumber text → Writes (.number text) text
  | string {pieces : List Piece} {body : List UInt8} :
      Spelled pieces body → Writes (.string (textOf? pieces)) (0x22 :: (body ++ [0x22]))
  | emptyArray {gaps : List UInt8} : AreGaps gaps → Writes (.array []) (0x5B :: (gaps ++ [0x5D]))
  | array {items : List Json} {bytes : List UInt8} :
      WritesItems items bytes → Writes (.array items) (0x5B :: (bytes ++ [0x5D]))
  | emptyObject {gaps : List UInt8} :
      AreGaps gaps → Writes (.object []) (0x7B :: (gaps ++ [0x7D]))
  | object {members : List (Option String × Json)} {bytes : List UInt8} :
      WritesMembers members bytes → Writes (.object members) (0x7B :: (bytes ++ [0x7D]))

/-- The bytes write the value between gaps. -/
inductive Stands : Json → List UInt8 → Prop where
  | between {value : Json} {before bytes after : List UInt8} :
      AreGaps before → Writes value bytes → AreGaps after →
      Stands value (before ++ (bytes ++ after))

inductive WritesItems : List Json → List UInt8 → Prop where
  | last {item : Json} {bytes : List UInt8} : Stands item bytes → WritesItems [item] bytes
  | more {item : Json} {items : List Json} {bytes others : List UInt8} :
      Stands item bytes → WritesItems items others →
      WritesItems (item :: items) (bytes ++ 0x2C :: others)

inductive WritesMembers : List (Option String × Json) → List UInt8 → Prop where
  | last {value : Json} {pieces : List Piece} {before body after bytes : List UInt8} :
      AreGaps before → Spelled pieces body → AreGaps after → Stands value bytes →
      WritesMembers [(textOf? pieces, value)]
        (before ++ 0x22 :: (body ++ 0x22 :: (after ++ 0x3A :: bytes)))
  | more {value : Json} {members : List (Option String × Json)} {pieces : List Piece}
      {before body after bytes others : List UInt8} :
      AreGaps before → Spelled pieces body → AreGaps after → Stands value bytes →
      WritesMembers members others →
      WritesMembers ((textOf? pieces, value) :: members)
        (before ++ 0x22 :: (body ++ 0x22 :: (after ++ 0x3A :: (bytes ++ 0x2C :: others))))

end

variable {value : Json} {items : List Json} {members : List (Option String × Json)} {fuel : Nat}

/-! ### What the grammar writes is read -/

theorem Writes.opens : Writes value bytes →
    ∃ b others, bytes = b :: others ∧ isGap b = false ∧ b ≠ 0x5D ∧ b ≠ 0x7D
  | .null | .yes | .no | .string _ | .emptyArray _ | .array _ | .emptyObject _ | .object _ =>
      ⟨_, _, rfl, rfl, by decide, by decide⟩
  | .number isNumber => by
      obtain ⟨b, others, rfl, least, most⟩ := isNumber.opens
      refine ⟨b, others, rfl, isGap_eq_false least most, ?_⟩
      constructor <;> rintro rfl <;> exact absurd most (by decide)

theorem WritesItems.opens (written : WritesItems items bytes) (rest : List UInt8) :
    ∃ b others, skipGaps (bytes ++ rest) = b :: others ∧ isGap b = false ∧ b ≠ 0x5D ∧
      b ≠ 0x7D := by
  have opens {item : Json} {own : List UInt8} (stands : Stands item own) (rest : List UInt8) :
      ∃ b others, skipGaps (own ++ rest) = b :: others ∧ isGap b = false ∧ b ≠ 0x5D ∧
        b ≠ 0x7D := by
    obtain ⟨areBefore, written, areAfter⟩ := stands
    obtain ⟨b, others, rfl, visible, other⟩ := written.opens
    rw [List.append_assoc, List.append_assoc, List.cons_append,
      areBefore.skipGaps_append_cons visible]
    exact ⟨b, _, rfl, visible, other⟩
  cases written with
  | last stands => exact opens stands rest
  | more stands others =>
      rw [List.append_assoc]
      exact opens stands _

theorem WritesMembers.opens (written : WritesMembers members bytes) (rest : List UInt8) :
    ∃ others, skipGaps (bytes ++ rest) = 0x22 :: others := by
  cases written with
  | last areBefore | more areBefore =>
      rw [List.append_assoc, List.cons_append, areBefore.skipGaps_append_cons rfl]
      exact ⟨_, rfl⟩

theorem value?_skipGaps (fuel : Nat) (bytes : List UInt8) :
    value? fuel (skipGaps bytes) = value? fuel bytes := by
  cases fuel with
  | zero => rw [value?, value?]
  | succ fuel => rw [value?, value?, skipGaps_skipGaps]

theorem items?_skipGaps (fuel : Nat) (bytes : List UInt8) :
    items? fuel (skipGaps bytes) = items? fuel bytes := by
  cases fuel with
  | zero => rw [items?, items?]
  | succ fuel => rw [items?, items?, value?_skipGaps]

theorem members?_skipGaps (fuel : Nat) (bytes : List UInt8) :
    members? fuel (skipGaps bytes) = members? fuel bytes := by
  cases fuel with
  | zero => rw [members?, members?]
  | succ fuel => rw [members?, members?, skipGaps_skipGaps]

theorem value?_gaps {gaps : List UInt8} (areGaps : AreGaps gaps) (fuel : Nat)
    (bytes : List UInt8) : value? fuel (gaps ++ bytes) = value? fuel bytes := by
  rw [← value?_skipGaps, areGaps.skipGaps_append, value?_skipGaps]

theorem endsNumber_gaps {gaps : List UInt8} (areGaps : AreGaps gaps) (ends : EndsNumber rest) :
    EndsNumber (gaps ++ rest) := by
  cases gaps with
  | nil => exact ends
  | cons b gaps =>
      have own := areGaps b (by simp)
      simp only [isGap, Bool.or_eq_true, beq_iff_eq] at own
      rcases own with ((rfl | rfl) | rfl) | rfl <;> exact endsNumber_cons (by decide)

theorem endsNumber_of_mark {mark : UInt8} (isMark : mark = 0x2C ∨ mark = 0x5D ∨ mark = 0x7D)
    (rest : List UInt8) : EndsNumber (mark :: rest) := by
  rcases isMark with rfl | rfl | rfl <;> exact endsNumber_cons (by decide)

mutual

/-- The bytes of a value are as many as the levels of descent that reading it takes. -/
theorem Writes.read : ∀ {value : Json} {bytes rest : List UInt8} {fuel : Nat},
    Writes value bytes → EndsNumber rest → bytes.length ≤ fuel →
    value? fuel (bytes ++ rest) = some (value, rest)
  | _, _, _, 0, written, _, enough => by
      obtain ⟨b, others, rfl, -⟩ := written.opens
      simp at enough
  | _, _, _, fuel + 1, .null, _, _ => by
      simp [value?, skipGaps_of_head (b := 0x6E) rfl, afterWord?]
  | _, _, _, fuel + 1, .yes, _, _ => by
      simp [value?, skipGaps_of_head (b := 0x74) rfl, afterWord?]
  | _, _, _, fuel + 1, .no, _, _ => by
      simp [value?, skipGaps_of_head (b := 0x66) rfl, afterWord?]
  | _, _, rest, fuel + 1, .number isNumber, ends, _ => by
      have own := isNumber.read ends
      obtain ⟨b, others, rfl, least, most⟩ := isNumber.opens
      have ne (c : UInt8) (other : c.toNat < 45 ∨ 57 < c.toNat) : b ≠ c := by
        rintro rfl
        omega
      rw [List.cons_append] at own ⊢
      rw [value?, skipGaps_of_head (isGap_eq_false least most)]
      simp [ne 0x7B (by decide), ne 0x5B (by decide), ne 0x22 (by decide), ne 0x6E (by decide),
        ne 0x74 (by decide), ne 0x66 (by decide), own]
  | _, _, rest, fuel + 1, .string spelled, _, _ => by
      simp [value?, skipGaps_of_head (b := 0x22) rfl, stringAfterQuote?, spelled.read, textOf?]
  | _, _, rest, fuel + 1, .emptyArray areGaps, _, _ => by
      simp [value?, skipGaps_of_head (b := 0x5B) rfl,
        areGaps.skipGaps_append_cons (b := 0x5D) rfl]
  | _, _, rest, fuel + 1, @Writes.array items bytes written, _, enough => by
      have small : bytes.length < fuel := by
        simp only [List.length_cons, List.length_append, List.length_nil] at enough
        omega
      have own := written.read rest small
      obtain ⟨b, others, same, -, other, -⟩ := written.opens (0x5D :: rest)
      rw [← items?_skipGaps, same] at own
      simp [value?, skipGaps_of_head (b := 0x5B) rfl, same, other, own]
  | _, _, rest, fuel + 1, .emptyObject areGaps, _, _ => by
      simp [value?, skipGaps_of_head (b := 0x7B) rfl,
        areGaps.skipGaps_append_cons (b := 0x7D) rfl]
  | _, _, rest, fuel + 1, @Writes.object members bytes written, _, enough => by
      have small : bytes.length < fuel := by
        simp only [List.length_cons, List.length_append, List.length_nil] at enough
        omega
      have own := written.read rest small
      obtain ⟨others, same⟩ := written.opens (0x7D :: rest)
      rw [← members?_skipGaps, same] at own
      simp [value?, skipGaps_of_head (b := 0x7B) rfl, same, own]

theorem Stands.read : ∀ {value : Json} {bytes rest : List UInt8} {fuel : Nat},
    Stands value bytes → EndsNumber rest → bytes.length ≤ fuel →
    ∃ after, AreGaps after ∧ value? fuel (bytes ++ rest) = some (value, after ++ rest)
  | _, _, rest, fuel, @Stands.between _ before bytes after areBefore written areAfter, ends,
      enough => by
      refine ⟨after, areAfter, ?_⟩
      simp only [List.length_append] at enough
      rw [List.append_assoc, List.append_assoc, value?_gaps areBefore]
      exact written.read (endsNumber_gaps areAfter ends) (by omega)

theorem WritesItems.read : ∀ {items : List Json} {bytes : List UInt8} {fuel : Nat},
    WritesItems items bytes → ∀ rest, bytes.length < fuel →
    items? fuel (bytes ++ 0x5D :: rest) = some (items, rest)
  | _, _, fuel + 1, .last stands, rest, enough => by
      obtain ⟨after, areGaps, own⟩ := stands.read (endsNumber_of_mark (.inr (.inl rfl)) rest)
        (Nat.le_of_lt_succ enough)
      simp [items?, own, areGaps.skipGaps_append_cons (b := 0x5D) rfl]
  | _, _, fuel + 1, @WritesItems.more item items bytes others stands written, rest, enough => by
      simp only [List.length_append, List.length_cons] at enough
      obtain ⟨after, areGaps, own⟩ := stands.read
        (endsNumber_of_mark (.inl rfl) (others ++ 0x5D :: rest))
        (show bytes.length ≤ fuel by omega)
      have more := written.read rest (show others.length < fuel by omega)
      simp [items?, own, areGaps.skipGaps_append_cons (b := 0x2C) rfl, more]

theorem WritesMembers.read : ∀ {members : List (Option String × Json)} {bytes : List UInt8}
    {fuel : Nat}, WritesMembers members bytes → ∀ rest, bytes.length < fuel →
    members? fuel (bytes ++ 0x7D :: rest) = some (members, rest)
  | _, _, fuel + 1, @WritesMembers.last _ _ before body after bytes areBefore spelled areAfter
      stands, rest, enough => by
      simp only [List.length_append, List.length_cons] at enough
      obtain ⟨behind, areBehind, own⟩ := stands.read
        (endsNumber_of_mark (.inr (.inr rfl)) rest) (show bytes.length ≤ fuel by omega)
      simp [members?, areBefore.skipGaps_append_cons (b := 0x22) rfl,
        stringAfterQuote?, spelled.read, areAfter.skipGaps_append_cons (b := 0x3A) rfl, own,
        areBehind.skipGaps_append_cons (b := 0x7D) rfl, textOf?]
  | _, _, fuel + 1, @WritesMembers.more _ _ _ before body after bytes others areBefore spelled
      areAfter stands written, rest, enough => by
      simp only [List.length_append, List.length_cons] at enough
      obtain ⟨behind, areBehind, own⟩ := stands.read
        (endsNumber_of_mark (.inl rfl) (others ++ 0x7D :: rest))
        (show bytes.length ≤ fuel by omega)
      have more := written.read rest (show others.length < fuel by omega)
      simp [members?, areBefore.skipGaps_append_cons (b := 0x22) rfl,
        stringAfterQuote?, spelled.read, areAfter.skipGaps_append_cons (b := 0x3A) rfl, own,
        areBehind.skipGaps_append_cons (b := 0x2C) rfl, more, textOf?]

end

/-! ### What is read is written by the grammar -/

theorem eq_of_afterWord? {word : List UInt8} (read : afterWord? word bytes = some rest) :
    bytes = word ++ rest := by
  unfold afterWord? at read
  split at read
  next same =>
    obtain rfl := Option.some.inj read
    have whole := List.take_append_drop word.length bytes
    rw [eq_of_beq same] at whole
    exact whole.symm
  next => cases read

/-- What is read in so many levels of descent is written by the grammar. -/
structure ReadsOnlyWritten (fuel : Nat) : Prop where
  value : ∀ {bytes rest : List UInt8} {value : Json}, value? fuel bytes = some (value, rest) →
    ∃ gaps own, AreGaps gaps ∧ Writes value own ∧ bytes = gaps ++ (own ++ rest)
  items : ∀ {bytes rest : List UInt8} {items : List Json},
    items? fuel bytes = some (items, rest) →
    ∃ own, WritesItems items own ∧ bytes = own ++ 0x5D :: rest
  members : ∀ {bytes rest : List UInt8} {members : List (Option String × Json)},
    members? fuel bytes = some (members, rest) →
    ∃ own, WritesMembers members own ∧ bytes = own ++ 0x7D :: rest

/-- A value that is read stands before the next token. -/
theorem ReadsOnlyWritten.stands (sound : ReadsOnlyWritten fuel) {b : UInt8}
    {others : List UInt8} (read : value? fuel bytes = some (value, rest))
    (next : skipGaps rest = b :: others) :
    ∃ own, Stands value own ∧ bytes = own ++ b :: others := by
  obtain ⟨before, own, areBefore, written, rfl⟩ := sound.value read
  obtain ⟨after, areAfter, whole⟩ := exists_gaps rest
  rw [next] at whole
  exact ⟨before ++ (own ++ after), .between areBefore written areAfter, by simp [whole]⟩

/-- What is read behind an opening mark, and the mark, write what is enclosed. -/
theorem exists_enclosed {α : Type} (make : α → Json) {opening closing : UInt8} {nothing : Json}
    {inside? : List UInt8 → Option (α × List UInt8)}
    (skips : ∀ bytes, inside? (skipGaps bytes) = inside? bytes)
    (blank : ∀ {gaps}, AreGaps gaps → Writes nothing (opening :: (gaps ++ [closing])))
    (filled : ∀ {bytes rest found}, inside? bytes = some (found, rest) →
      ∃ own, Writes (make found) (opening :: (own ++ [closing])) ∧ bytes = own ++ closing :: rest)
    (read : (match skipGaps bytes with
      | [] => none
      | c :: more =>
          if c == closing then some (nothing, more)
          else (inside? (c :: more)).map fun found => (make found.1, found.2)) =
      some (value, rest)) :
    ∃ own, Writes value own ∧ opening :: bytes = own ++ rest := by
  obtain ⟨gaps, areGaps, whole⟩ := exists_gaps bytes
  split at read
  next => cases read
  next c more skipped =>
    rw [skipped] at whole
    split at read
    next isClosing =>
      obtain rfl := eq_of_beq isClosing
      obtain ⟨rfl, rfl⟩ := Prod.mk.inj (Option.some.inj read)
      exact ⟨_, blank areGaps, by simp [whole]⟩
    next =>
      obtain ⟨found, own, rfl⟩ := exists_of_map make read
      rw [← skipped, skips] at own
      obtain ⟨inner, written, rfl⟩ := filled own
      exact ⟨_, written, by simp⟩

/-- Behind an item there is a comma and more, or the closing mark. -/
theorem further_cases {α : Type} {x : α} {xs : List α} {closing : UInt8}
    {further? : List UInt8 → Option (List α × List UInt8)}
    (read : (match skipGaps bytes with
      | [] => none
      | c :: more =>
          if c == 0x2C then (further? more).map fun found => (x :: found.1, found.2)
          else if c == closing then some ([x], more)
          else none) = some (xs, rest)) :
    ∃ c more, skipGaps bytes = c :: more ∧
      ((∃ others, c = 0x2C ∧ further? more = some (others, rest) ∧ xs = x :: others) ∨
        c = closing ∧ more = rest ∧ xs = [x]) := by
  split at read
  next => cases read
  next c more skipped =>
    refine ⟨c, more, skipped, ?_⟩
    split at read
    next comma =>
      obtain ⟨others, own, rfl⟩ := exists_of_map (x :: ·) read
      exact .inl ⟨others, eq_of_beq comma, own, rfl⟩
    split at read
    next isClosing =>
      obtain ⟨rfl, rfl⟩ := Prod.mk.inj (Option.some.inj read)
      exact .inr ⟨eq_of_beq isClosing, rfl, rfl⟩
    next => cases read

theorem exists_writes_word {word : List UInt8} {b : UInt8} (found : Json)
    (writes : Writes found (b :: word))
    (read : (afterWord? word bytes).map (fun rest => (found, rest)) = some (value, rest)) :
    ∃ own, Writes value own ∧ b :: bytes = own ++ rest := by
  obtain ⟨after, own, same⟩ := Option.map_eq_some_iff.mp read
  obtain ⟨rfl, rfl⟩ := Prod.mk.inj same
  obtain rfl := eq_of_afterWord? own
  exact ⟨_, writes, rfl⟩

theorem ReadsOnlyWritten.value_succ (sound : ReadsOnlyWritten fuel)
    (read : value? (fuel + 1) bytes = some (value, rest)) :
    ∃ gaps own, AreGaps gaps ∧ Writes value own ∧ bytes = gaps ++ (own ++ rest) := by
  obtain ⟨gaps, areGaps, whole⟩ := exists_gaps bytes
  rw [value?] at read
  split at read
  next => cases read
  next b more skipped =>
    suffices written : ∃ own, Writes value own ∧ b :: more = own ++ rest by
      obtain ⟨own, written, same⟩ := written
      rw [skipped, same] at whole
      exact ⟨gaps, own, areGaps, written, whole⟩
    split at read
    next brace =>
      obtain rfl := eq_of_beq brace
      exact exists_enclosed .object (members?_skipGaps fuel) .emptyObject
        (fun own => (sound.members own).imp fun _ => And.imp_left .object) read
    split at read
    next bracket =>
      obtain rfl := eq_of_beq bracket
      exact exists_enclosed .array (items?_skipGaps fuel) .emptyArray
        (fun own => (sound.items own).imp fun _ => And.imp_left .array) read
    split at read
    next quote =>
      obtain rfl := eq_of_beq quote
      obtain ⟨found, own, rfl⟩ := exists_of_map Json.string read
      obtain ⟨pieces, body, spelled, rfl, rfl⟩ := stringAfterQuote?_eq_some_iff.mp own
      exact ⟨_, .string spelled, by simp⟩
    split at read
    next letter =>
      obtain rfl := eq_of_beq letter
      exact exists_writes_word .null .null read
    split at read
    next letter =>
      obtain rfl := eq_of_beq letter
      exact exists_writes_word (.bool true) .yes read
    split at read
    next letter =>
      obtain rfl := eq_of_beq letter
      exact exists_writes_word (.bool false) .no read
    next =>
      obtain ⟨found, own, rfl⟩ := exists_of_map Json.number read
      obtain ⟨isNumber, whole⟩ := isNumber_of_number? own
      exact ⟨_, .number isNumber, whole⟩

theorem ReadsOnlyWritten.items_succ (sound : ReadsOnlyWritten fuel)
    (read : items? (fuel + 1) bytes = some (items, rest)) :
    ∃ own, WritesItems items own ∧ bytes = own ++ 0x5D :: rest := by
  rw [items?, Option.bind_eq_bind, Option.bind_eq_some_iff] at read
  obtain ⟨⟨item, after⟩, itemRead, read⟩ := read
  obtain ⟨c, more, skipped, further⟩ := further_cases read
  obtain ⟨own, stands, rfl⟩ := sound.stands itemRead skipped
  rcases further with ⟨others, rfl, othersRead, rfl⟩ | ⟨rfl, rfl, rfl⟩
  · obtain ⟨tail, written, rfl⟩ := sound.items othersRead
    exact ⟨_, .more stands written, by simp⟩
  · exact ⟨own, .last stands, rfl⟩

theorem ReadsOnlyWritten.members_succ (sound : ReadsOnlyWritten fuel)
    (read : members? (fuel + 1) bytes = some (members, rest)) :
    ∃ own, WritesMembers members own ∧ bytes = own ++ 0x7D :: rest := by
  obtain ⟨before, areBefore, whole⟩ := exists_gaps bytes
  rw [members?] at read
  split at read
  next => cases read
  next q more skipped =>
    rw [skipped] at whole
    split at read
    next quote =>
      obtain rfl := eq_of_beq quote
      rw [Option.bind_eq_bind, Option.bind_eq_some_iff] at read
      obtain ⟨⟨key, behind⟩, keyRead, read⟩ := read
      obtain ⟨pieces, body, spelled, rfl, rfl⟩ := stringAfterQuote?_eq_some_iff.mp keyRead
      obtain ⟨after, areAfter, between⟩ := exists_gaps behind
      dsimp only at read
      split at read
      next => cases read
      next colon cell next =>
        rw [next] at between
        split at read
        next isColon =>
          obtain rfl := eq_of_beq isColon
          rw [Option.bind_eq_bind, Option.bind_eq_some_iff] at read
          obtain ⟨⟨item, remaining⟩, itemRead, read⟩ := read
          obtain ⟨c, more, skipped, further⟩ := further_cases read
          obtain ⟨own, stands, rfl⟩ := sound.stands itemRead skipped
          rcases further with ⟨others, rfl, othersRead, rfl⟩ | ⟨rfl, rfl, rfl⟩
          · obtain ⟨tail, written, rfl⟩ := sound.members othersRead
            exact ⟨_, .more areBefore spelled areAfter stands written, by simp [whole, between]⟩
          · exact ⟨_, .last areBefore spelled areAfter stands, by simp [whole, between]⟩
        next => cases read
    next => cases read

/-- Whatever is read, however deep, is written by the grammar. -/
theorem readsOnlyWritten (fuel : Nat) : ReadsOnlyWritten fuel := by
  induction fuel with
  | zero => exact ⟨nofun, nofun, nofun⟩
  | succ fuel inductionHypothesis =>
      exact ⟨inductionHypothesis.value_succ, inductionHypothesis.items_succ,
        inductionHypothesis.members_succ⟩

/-! ### Whole texts -/

/-- The text writes the value between gaps. -/
def IsTextOf (text : String) (value : Json) : Prop :=
  Stands value (Text.encode text)

theorem parse?_eq_some_iff : parse? bytes = some value ↔ Stands value bytes := by
  constructor
  · intro read
    unfold parse? at read
    split at read
    next found rest own =>
      split at read
      next ends =>
        obtain rfl := Option.some.inj read
        obtain ⟨before, inner, areBefore, written, rfl⟩ := (readsOnlyWritten _).value own
        obtain ⟨after, areAfter, same⟩ := exists_gaps rest
        rw [List.isEmpty_iff.mp ends, List.append_nil] at same
        exact .between areBefore written (same ▸ areAfter)
      next => cases read
    next => cases read
  · intro stands
    obtain ⟨after, areAfter, read⟩ := stands.read endsNumber_nil
      (show bytes.length ≤ 2 * bytes.length + 2 by omega)
    rw [List.append_nil, List.append_nil] at read
    have ends : skipGaps after = [] := by
      rw [← List.append_nil after, areAfter.skipGaps_append]
      rfl
    simp [parse?, read, ends]

/-- A text is read as a value if and only if the grammar writes the value so. -/
theorem parseText?_eq_some_iff {text : String} :
    parseText? text = some value ↔ IsTextOf text value :=
  parse?_eq_some_iff

end TokenAcquisition.Json
