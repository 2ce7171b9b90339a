import Mathlib.Data.List.Basic
import TokenAcquisition.Proofs.Url.Form
import TokenAcquisition.Text.Characters

/-!
Capital and small letters.  What does not tell them apart is the same for a text in small letters
as for the text itself, and the bytes of one are those of the other with the same letters changed.
-/

namespace TokenAcquisition.Text

/-! ### Characters -/

theorem toLower_cases (c : Char) :
    c.toLower = c ∨ ∃ n < 26, c = Char.ofNat (65 + n) ∧ c.toLower = Char.ofNat (97 + n) := by
  have small : ∀ n < 26, (Char.ofNat (65 + n)).toLower = Char.ofNat (97 + n) := by decide
  by_cases capital : 65 ≤ c.toNat ∧ c.toNat ≤ 90
  · have own : c = Char.ofNat (65 + (c.toNat - 65)) := by
      rw [Nat.add_sub_cancel' capital.1, Char.ofNat_toNat]
    refine .inr ⟨c.toNat - 65, by omega, own, ?_⟩
    rw [← small _ (by omega), ← own]
  · exact .inl (dif_neg capital)

/-- The same for capital letters as for small ones. -/
def IgnoresCase {α : Type} (f : Char → α) : Prop :=
  ∀ c, f c.toLower = f c

variable {α : Type} {f : Char → α} {p : Char → Bool} {c d : Char} {cs : List Char}

theorem ignoresCase_of_letters
    (letters : ∀ n < 26, f (Char.ofNat (97 + n)) = f (Char.ofNat (65 + n))) : IgnoresCase f := by
  intro c
  rcases toLower_cases c with same | ⟨n, small, own, lowered⟩
  · rw [same]
  · rw [lowered, letters n small, ← own]

theorem toLower_toLower (c : Char) : c.toLower.toLower = c.toLower := by
  have ignores : IgnoresCase Char.toLower := ignoresCase_of_letters (by decide)
  exact ignores c

/-- A character that is no letter is not another one in small letters. -/
theorem toLower_eq_iff (sign : d.isAlpha = false) : c.toLower = d ↔ c = d := by
  have letters : ∀ n < 26, (Char.ofNat (65 + n)).isAlpha = true ∧
      (Char.ofNat (97 + n)).isAlpha = true := by decide
  rcases toLower_cases c with same | ⟨n, small, own, lowered⟩
  · rw [same]
  · rw [lowered, own]
    constructor
    · rintro rfl
      exact absurd (letters n small).2 (by simp [sign])
    · rintro rfl
      exact absurd (letters n small).1 (by simp [sign])

theorem map_toLower_eq_some_iff (sign : d.isAlpha = false) {c? : Option Char} :
    c?.map Char.toLower = some d ↔ c? = some d := by
  simp [Option.map_eq_some_iff, toLower_eq_iff sign]

theorem contains_map_toLower (sign : d.isAlpha = false) (cs : List Char) :
    (cs.map Char.toLower).contains d = cs.contains d := by
  simp [toLower_eq_iff sign]

namespace IgnoresCase

theorem comp (ignores : IgnoresCase f) : f ∘ Char.toLower = f :=
  funext ignores

theorem takeWhile (ignores : IgnoresCase p) :
    (cs.map Char.toLower).takeWhile p = (cs.takeWhile p).map Char.toLower := by
  rw [List.takeWhile_map, ignores.comp]

theorem dropWhile (ignores : IgnoresCase p) :
    (cs.map Char.toLower).dropWhile p = (cs.dropWhile p).map Char.toLower := by
  rw [List.dropWhile_map, ignores.comp]

theorem filter (ignores : IgnoresCase p) :
    (cs.map Char.toLower).filter p = (cs.filter p).map Char.toLower := by
  rw [List.filter_map, ignores.comp]

theorem any_head? (ignores : IgnoresCase p) :
    (cs.map Char.toLower).head?.any p = cs.head?.any p := by
  rw [List.head?_map, Option.any_map]
  exact congrArg (Option.any · cs.head?) ignores.comp

end IgnoresCase

theorem ignoresCase_beq (sign : d.isAlpha = false) : IgnoresCase (· == d) := by
  intro c
  rw [Bool.eq_iff_iff, beq_iff_eq, beq_iff_eq, toLower_eq_iff sign]

theorem IgnoresCase.or {q : Char → Bool} (first : IgnoresCase p) (second : IgnoresCase q) :
    IgnoresCase fun c => p c || q c :=
  fun c => congr (congrArg (fun a b => a || b) (first c)) (second c)

/-! ### Bytes -/

/-- The byte of a small letter in place of that of a capital one. -/
def lowerByte (b : UInt8) : UInt8 :=
  if 65 ≤ b.toNat ∧ b.toNat ≤ 90 then b + 32 else b

theorem lowerByte_of_le {b : UInt8} (beyond : 128 ≤ b.toNat) : lowerByte b = b :=
  if_neg (by omega)

theorem lowerByte_of_lowerByte {b : UInt8} (beyond : 128 ≤ (lowerByte b).toNat) :
    lowerByte b = b := by
  unfold lowerByte at beyond ⊢
  split
  next capital =>
    rw [if_pos capital, UInt8.toNat_add] at beyond
    exact absurd beyond (by show ¬ 128 ≤ (b.toNat + 32) % 256; omega)
  next => rfl

theorem lowerByte_lowerByte (b : UInt8) : lowerByte (lowerByte b) = lowerByte b := by
  have every : ∀ n < 256, lowerByte (lowerByte (UInt8.ofNat n)) = lowerByte (UInt8.ofNat n) := by
    decide +kernel
  simpa using every b.toNat b.toNat_lt

theorem toLower_of_le (beyond : 128 ≤ c.toNat) : c.toLower = c :=
  dif_neg (show ¬ (65 ≤ c.toNat ∧ c.toNat ≤ 90) by omega)

theorem utf8EncodeChar_toLower (c : Char) :
    String.utf8EncodeChar c.toLower = (String.utf8EncodeChar c).map lowerByte := by
  by_cases ascii : c.toNat < 128
  · have lowered : ∀ n < 128, String.utf8EncodeChar (Char.ofNat n).toLower =
        [lowerByte (UInt8.ofNat n)] := by decide +kernel
    rw [← Char.ofNat_toNat c, lowered _ ascii, utf8EncodeChar_ofNat ascii, List.map_singleton]
  · rw [toLower_of_le (by omega), List.map_congr_left (g := id), List.map_id]
    intro b member
    rcases mem_utf8EncodeChar member with ⟨-, small⟩ | beyond
    · exact absurd small ascii
    · exact lowerByte_of_le beyond

theorem encodeChars_cons (c : Char) (cs : List Char) :
    encodeChars (c :: cs) = String.utf8EncodeChar c ++ encodeChars cs :=
  rfl

theorem encodeChars_map_toLower (cs : List Char) :
    encodeChars (cs.map Char.toLower) = (encodeChars cs).map lowerByte := by
  rw [encodeChars, encodeChars, List.flatMap_map, List.map_flatMap]
  exact List.flatMap_congr fun c _ => utf8EncodeChar_toLower c

/-- Bytes that are those of a text in small letters once their letters are small are those of a
text. -/
theorem exists_encodeChars {bytes : List UInt8} (lowered : bytes.map lowerByte = encodeChars cs) :
    ∃ own, bytes = encodeChars own := by
  induction cs generalizing bytes with
  | nil => exact ⟨[], List.map_eq_nil_iff.mp lowered⟩
  | cons c cs inductionHypothesis =>
      rw [encodeChars_cons] at lowered
      obtain ⟨first, rest, rfl, letter, others⟩ := List.map_eq_append_iff.mp lowered
      obtain ⟨own, rfl⟩ := inductionHypothesis others
      by_cases ascii : c.toNat < 128
      · rw [← Char.ofNat_toNat c, utf8EncodeChar_ofNat ascii] at letter
        obtain ⟨b, rfl, same⟩ := List.map_eq_singleton_iff.mp letter
        have small : b.toNat < 128 := by
          refine Nat.lt_of_not_le fun beyond => ?_
          rw [lowerByte_of_le beyond] at same
          rw [same, UInt8.toNat_ofNat'] at beyond
          omega
        refine ⟨Char.ofNat b.toNat :: own, ?_⟩
        rw [encodeChars_cons, utf8EncodeChar_ofNat small, UInt8.ofNat_toNat]
      · have same : first.map lowerByte = first := by
          rw [List.map_congr_left (g := id), List.map_id]
          intro b member
          have written : lowerByte b ∈ String.utf8EncodeChar c :=
            letter ▸ List.mem_map_of_mem member
          rcases mem_utf8EncodeChar written with ⟨-, small⟩ | beyond
          · exact absurd small ascii
          · exact lowerByte_of_lowerByte beyond
        exact ⟨c :: own, by rw [← same, letter, encodeChars_cons]⟩

theorem exists_of_decode? {bytes : List UInt8} {text : String} (read : decode? bytes = some text) :
    ∃ cs, bytes = encodeChars cs := by
  obtain ⟨chars, decoded, -⟩ := Option.map_eq_some_iff.mp read
  have valid := ByteArray.isSome_utf8Decode?_iff.mp (Option.isSome_of_eq_some decoded)
  obtain ⟨cs, written⟩ := valid
  exact ⟨cs, List.toByteArray_inj.mp written⟩

/-- Bytes are those of a text just if they are with small letters, and then of the same one. -/
theorem decode?_map_lowerByte (bytes : List UInt8) :
    decode? (bytes.map lowerByte) = (decode? bytes).map lowerAscii := by
  have read (cs : List Char) : decode? (encodeChars cs) = some (String.ofList cs) := by
    simpa [encode] using decode?_encode (String.ofList cs)
  by_cases written : ∃ cs, bytes = encodeChars cs
  · obtain ⟨cs, rfl⟩ := written
    rw [← encodeChars_map_toLower, read, read, Option.map_some]
    simp [lowerAscii]
  · have unread {bytes : List UInt8} (unwritten : ¬ ∃ cs, bytes = encodeChars cs) :
        decode? bytes = none := by
      cases found : decode? bytes with
      | none => rfl
      | some text => exact absurd (exists_of_decode? found) unwritten
    rw [unread written, Option.map_none]
    refine unread ?_
    rintro ⟨cs, lowered⟩
    exact written (exists_encodeChars lowered)

end TokenAcquisition.Text
