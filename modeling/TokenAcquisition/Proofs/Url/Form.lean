import TokenAcquisition.Url.Basic

/-!
The form encoding is read back as it was written: pairs of any texts, in their order, and those
appended to a query behind those that were there.
-/

namespace TokenAcquisition

namespace Text

theorem firstChar?_utf8EncodeChar_append (c : Char) (rest : List UInt8) :
    firstChar? (String.utf8EncodeChar c ++ rest) = some c := by
  have size : (String.utf8EncodeChar c).length ≤ 4 := by
    rw [String.length_utf8EncodeChar]
    exact c.utf8Size_le_four
  have own : (String.utf8EncodeChar c).toByteArray.utf8DecodeChar? 0 = some c := by
    have single := List.utf8DecodeChar?_utf8Encode_singleton (c := c)
    rwa [List.utf8Encode_singleton] at single
  rw [firstChar?, List.take_append, List.take_of_length_le size, List.toByteArray_append]
  exact ByteArray.utf8DecodeChar?_append_eq_some own _

/-- Text that is read leniently from well-formed bytes is the text that they were written from. -/
theorem decodeLossy_encodeChars (cs : List Char) : decodeLossy (encodeChars cs) = cs := by
  induction cs with
  | nil => simp [encodeChars, decodeLossy]
  | cons c cs inductionHypothesis =>
      have first := firstChar?_utf8EncodeChar_append c (encodeChars cs)
      have size : (String.utf8EncodeChar c).length = c.utf8Size := String.length_utf8EncodeChar c
      have whole : encodeChars (c :: cs) = String.utf8EncodeChar c ++ encodeChars cs := rfl
      rw [whole]
      cases bytes : String.utf8EncodeChar c with
      | nil =>
          rw [bytes, List.length_nil] at size
          exact absurd size.symm (Nat.ne_of_gt c.utf8Size_pos)
      | cons lead others =>
          rw [bytes] at first size
          have tail : c.utf8Size - 1 = others.length := by
            rw [List.length_cons] at size
            omega
          rw [List.cons_append] at first ⊢
          rw [decodeLossy, first]
          simp only [tail, List.drop_left, inductionHypothesis]

theorem utf8EncodeChar_ofNat {code : Nat} (ascii : code < 128) :
    String.utf8EncodeChar (Char.ofNat code) = [UInt8.ofNat code] := by
  have value : (Char.ofNat code).val.toNat = code := by
    rw [Char.ofNat, dif_pos (.inl (by omega))]
    rfl
  have size : (Char.ofNat code).utf8Size = 1 := by
    rw [Char.utf8Size_eq_one_iff]
    exact UInt32.le_iff_toNat_le.mpr (by rw [value]; exact Nat.le_of_lt_succ ascii)
  rw [String.utf8EncodeChar_eq_singleton size]
  congr 1
  apply UInt8.toNat_inj.mp
  show (Char.ofNat code).val.toUInt8.toNat = (UInt8.ofNat code).toNat
  rw [UInt32.toNat_toUInt8, value, UInt8.toNat_ofNat']

/-- A character is written as itself, or in bytes beyond those of ASCII. -/
theorem mem_utf8EncodeChar {c : Char} {b : UInt8} (member : b ∈ String.utf8EncodeChar c) :
    b = UInt8.ofNat c.toNat ∧ c.toNat < 128 ∨ 128 ≤ b.toNat := by
  have value : c.val.toNat = c.toNat := rfl
  have lead (n m : Nat) (large : 128 ≤ n + m) (small : n + m < 256) :
      128 ≤ (UInt8.ofNat (n + m)).toNat := by
    rw [UInt8.toNat_ofNat']
    omega
  unfold String.utf8EncodeChar at member
  simp only [value] at member
  split at member
  next ascii => exact .inl ⟨by simpa using member, by omega⟩
  next =>
    right
    split at member
    next =>
      simp only [List.mem_cons, List.not_mem_nil, or_false] at member
      rcases member with rfl | rfl <;> exact lead _ _ (by omega) (by omega)
    next =>
      split at member
      next =>
        simp only [List.mem_cons, List.not_mem_nil, or_false] at member
        rcases member with rfl | rfl | rfl <;> exact lead _ _ (by omega) (by omega)
      next =>
        simp only [List.mem_cons, List.not_mem_nil, or_false] at member
        rcases member with rfl | rfl | rfl | rfl <;> exact lead _ _ (by omega) (by omega)

end Text

namespace Url

/-- The digits of a byte, read back. -/
theorem ofNat_nibbles (b : UInt8) :
    UInt8.ofNat (16 * (Text.nibbles b).1.val + (Text.nibbles b).2.val) = b := by
  have small := b.toNat_lt
  have whole : 16 * (Text.nibbles b).1.val + (Text.nibbles b).2.val = b.toNat := by
    simp only [Text.nibbles, Text.nibble, Fin.ofNat]
    omega
  rw [whole, UInt8.ofNat_toNat]

namespace Form

/-- A byte as it is written. -/
def written (b : UInt8) : List UInt8 :=
  Text.encodeChars (encodeByte b)

/-- A byte with every `+` read as a blank. -/
def spaced (b : UInt8) : UInt8 :=
  if b == 0x2B then 0x20 else b

theorem isPlain_lt {b : UInt8} (plain : isPlain b = true) : b.toNat < 128 := by
  simp only [isPlain, Bool.or_eq_true, Bool.and_eq_true, decide_eq_true_eq, beq_iff_eq,
    UInt8.le_iff_toNat_le, ← UInt8.toNat_inj, UInt8.toNat_ofNat] at plain
  omega

theorem isPlain_ne {b c : UInt8} (plain : isPlain b = true) (other : isPlain c = false) :
    b ≠ c := by
  rintro rfl
  rw [plain] at other
  cases other

theorem hexCapital_cases (digit : Fin 16) :
    48 ≤ Text.hexCapital digit ∧ Text.hexCapital digit ≤ 57 ∨
      65 ≤ Text.hexCapital digit ∧ Text.hexCapital digit ≤ 70 := by
  revert digit
  decide

/-- A byte is written as it is, as a `+`, or as two digits behind a percent sign. -/
theorem written_cases (b : UInt8) :
    isPlain b = true ∧ written b = [b] ∨
      b = 0x20 ∧ written b = [0x2B] ∨
      ∃ high low, UInt8.ofNat (16 * high.val + low.val) = b ∧
        written b =
          [0x25, UInt8.ofNat (Text.hexCapital high), UInt8.ofNat (Text.hexCapital low)] := by
  unfold written encodeByte
  split
  next plain =>
    refine .inl ⟨plain, ?_⟩
    rw [Text.encodeChars, List.flatMap_singleton, Text.utf8EncodeChar_ofNat (isPlain_lt plain),
      UInt8.ofNat_toNat]
  next =>
    split
    next blank =>
      exact .inr (.inl ⟨beq_iff_eq.mp blank, by decide⟩)
    next =>
      have digit (d : Fin 16) : String.utf8EncodeChar (Char.ofNat (Text.hexCapital d)) =
          [UInt8.ofNat (Text.hexCapital d)] := by
        apply Text.utf8EncodeChar_ofNat
        have := hexCapital_cases d
        omega
      refine .inr (.inr ⟨_, _, ofNat_nibbles b, ?_⟩)
      simp only [Text.encodeChars, percentByte, List.flatMap_cons, List.flatMap_nil, digit]
      rfl

/-- No written byte is one that separates pairs or names from values. -/
theorem plain_of_mem_written {b c : UInt8} (member : c ∈ written b) :
    c ≠ 0x26 ∧ c ≠ 0x3D := by
  rcases written_cases b with ⟨plain, same⟩ | ⟨-, same⟩ | ⟨high, low, -, same⟩
  · obtain rfl : c = b := by simpa [same] using member
    exact ⟨isPlain_ne plain (by decide), isPlain_ne plain (by decide)⟩
  · obtain rfl : c = 0x2B := by simpa [same] using member
    decide
  · have digit (d : Fin 16) : UInt8.ofNat (Text.hexCapital d) ≠ 0x26 ∧
        UInt8.ofNat (Text.hexCapital d) ≠ 0x3D := by
      revert d
      decide
    rw [same] at member
    rcases List.mem_cons.mp member with rfl | member
    · decide
    · rcases List.mem_cons.mp member with rfl | member
      · exact digit high
      · obtain rfl := List.mem_singleton.mp member
        exact digit low

/-- A written byte is read back, whatever comes behind it. -/
theorem percentDecode_written (b : UInt8) (rest : List UInt8) :
    percentDecode ((written b).map spaced ++ rest) = b :: percentDecode rest := by
  have unspaced (d : Fin 16) : spaced (UInt8.ofNat (Text.hexCapital d)) =
      UInt8.ofNat (Text.hexCapital d) := by
    revert d
    decide
  have read (d : Fin 16) : Text.hexValue? (UInt8.ofNat (Text.hexCapital d)).toNat = some d := by
    revert d
    decide
  have other {b : UInt8} (different : b ≠ 0x25) :
      percentDecode (b :: rest) = b :: percentDecode rest := by
    rw [percentDecode]
    rintro a c more same -
    exact different same
  rcases written_cases b with ⟨plain, same⟩ | ⟨rfl, same⟩ | ⟨high, low, whole, same⟩
  · have kept : spaced b = b := by
      simp [spaced, isPlain_ne plain (show isPlain 0x2B = false by decide)]
    rw [same, List.map_singleton, kept]
    exact other (isPlain_ne plain (by decide))
  · rw [same]
    exact other (by decide)
  · simp only [same, List.map_cons, List.map_nil, unspaced, List.cons_append, List.nil_append]
    rw [show spaced 0x25 = 0x25 by decide, percentDecode]
    simp only [read, whole]

theorem encodeChars_encodeText (s : String) :
    Text.encodeChars (encodeText s) = (Text.encode s).flatMap written := by
  rw [encodeText, Text.encodeChars, List.flatMap_assoc]
  rfl

theorem percentDecode_flatMap_written (bytes : List UInt8) :
    percentDecode ((bytes.flatMap written).map spaced) = bytes := by
  induction bytes with
  | nil => rfl
  | cons b bytes inductionHypothesis =>
      rw [List.flatMap_cons, List.map_append, percentDecode_written, inductionHypothesis]

/-- A written text is read back. -/
theorem decodeText_encodeText (s : String) :
    decodeText (Text.encodeChars (encodeText s)) = s := by
  have bytes := percentDecode_flatMap_written (Text.encode s)
  rw [decodeText, encodeChars_encodeText]
  show String.ofList (Text.decodeLossy (percentDecode (((Text.encode s).flatMap written).map
    spaced))) = s
  rw [bytes, Text.encode, Text.decodeLossy_encodeChars, String.ofList_toList]

theorem plain_of_mem_encodeText {s : String} {b : UInt8}
    (member : b ∈ Text.encodeChars (encodeText s)) : b ≠ 0x26 ∧ b ≠ 0x3D := by
  rw [encodeChars_encodeText] at member
  obtain ⟨c, -, written⟩ := List.mem_flatMap.mp member
  exact plain_of_mem_written written

/-! ### Pairs -/

/-- The bytes of a written pair. -/
def writtenPair (pair : String × String) : List UInt8 :=
  Text.encodeChars (encodePair pair)

theorem writtenPair_eq (pair : String × String) :
    writtenPair pair =
      Text.encodeChars (encodeText pair.1) ++ 0x3D :: Text.encodeChars (encodeText pair.2) := by
  rw [writtenPair, encodePair, Text.encodeChars_append]
  rfl

theorem writtenPair_ne_nil (pair : String × String) : writtenPair pair ≠ [] := by
  simp [writtenPair_eq]

theorem separator_notMem_writtenPair (pair : String × String) : 0x26 ∉ writtenPair pair := by
  intro member
  rw [writtenPair_eq] at member
  rcases List.mem_append.mp member with name | member
  · exact (plain_of_mem_encodeText name).1 rfl
  · rcases List.mem_cons.mp member with mark | value
    · cases mark
    · exact (plain_of_mem_encodeText value).1 rfl

theorem decodePair_writtenPair (pair : String × String) :
    decodePair (writtenPair pair) = pair := by
  have name : ∀ b ∈ Text.encodeChars (encodeText pair.1), (b != 0x3D) = true := by
    intro b member
    simpa using (plain_of_mem_encodeText member).2
  rw [decodePair, writtenPair_eq, List.takeWhile_append_of_pos name,
    List.dropWhile_append_of_pos name]
  simp [decodeText_encodeText]

/-! ### Lists of pairs -/

theorem split_of_notMem {separator : UInt8} {bytes : List UInt8} (absent : separator ∉ bytes) :
    split separator bytes = [bytes] := by
  induction bytes with
  | nil => rfl
  | cons b bytes inductionHypothesis =>
      obtain ⟨other, absent⟩ := List.ne_and_not_mem_of_not_mem_cons absent
      simp [split, inductionHypothesis absent, Ne.symm other]

theorem split_ne_nil (separator : UInt8) (bytes : List UInt8) : split separator bytes ≠ [] := by
  cases bytes with
  | nil => simp [split]
  | cons b bytes =>
      unfold split
      split
      next => simp
      next => split <;> simp

theorem split_append (separator : UInt8) (bytes rest : List UInt8) :
    split separator (bytes ++ separator :: rest) =
      split separator bytes ++ split separator rest := by
  induction bytes with
  | nil => simp [split]
  | cons b bytes inductionHypothesis =>
      rw [List.cons_append, split, split, inductionHypothesis]
      split
      next => rfl
      next =>
        obtain ⟨first, others, parts⟩ :=
          List.exists_cons_of_ne_nil (split_ne_nil separator bytes)
        rw [parts]
        rfl

theorem decode_nil : decode [] = [] := rfl

theorem decode_append (text rest : List Char) :
    decode (text ++ '&' :: rest) = decode text ++ decode rest := by
  have bytes : Text.encodeChars (text ++ '&' :: rest) =
      Text.encodeChars text ++ 0x26 :: Text.encodeChars rest := by
    rw [Text.encodeChars_append]
    rfl
  rw [decode, bytes, split_append, List.filter_append, List.map_append]
  rfl

theorem decode_encodePair (pair : String × String) : decode (encodePair pair) = [pair] := by
  have whole := split_of_notMem (separator_notMem_writtenPair pair)
  have filled : (writtenPair pair).isEmpty = false := by
    simp [writtenPair_ne_nil]
  rw [decode, show Text.encodeChars (encodePair pair) = writtenPair pair from rfl, whole]
  simp [filled, decodePair_writtenPair]

/-- A query that is to be continued. -/
def stem (query : List Char) : List Char :=
  if query.isEmpty then [] else query ++ ['&']

theorem append_cons (query : List Char) (pair : String × String)
    (pairs : List (String × String)) :
    append query (pair :: pairs) = append (stem query ++ encodePair pair) pairs := rfl

/-- What is appended to a query is read behind what was there. -/
theorem decode_append_pairs (query : List Char) (pairs : List (String × String)) :
    decode (append query pairs) = decode query ++ pairs := by
  induction pairs generalizing query with
  | nil => simp [append]
  | cons pair pairs inductionHypothesis =>
      rw [append_cons, inductionHypothesis]
      cases query with
      | nil => simp [stem, decode_encodePair, decode_nil]
      | cons c query =>
          have joined : c :: query ++ ['&'] ++ encodePair pair =
              c :: query ++ '&' :: encodePair pair := by simp
          simp only [stem, List.isEmpty_cons, Bool.false_eq_true, ↓reduceIte]
          rw [joined, decode_append, decode_encodePair]
          simp

/-! ### The text of a form -/

/-- The characters that are written in a form.  None of them ends a query, and none of them is
encoded in one. -/
def isWritten (c : Char) : Bool :=
  c.isAlphanum || "*-._+%=&".toList.contains c

theorem encodePair_ne_nil (pair : String × String) : encodePair pair ≠ [] := by
  simp [encodePair]

theorem stem_append {front text : List Char} (filled : text ≠ []) :
    stem (front ++ text) = front ++ stem text := by
  simp [stem, filled]

/-- What stands at the front of a query stays where it is. -/
theorem append_front (front : List Char) {text : List Char} (filled : text ≠ [])
    (pairs : List (String × String)) :
    append (front ++ text) pairs = front ++ append text pairs := by
  induction pairs generalizing text with
  | nil => rfl
  | cons pair pairs inductionHypothesis =>
      have longer : stem text ++ encodePair pair ≠ [] := by
        simp [encodePair_ne_nil]
      rw [append_cons, append_cons, stem_append filled, List.append_assoc,
        inductionHypothesis longer]

theorem append_eq_stem (query : List Char) {pairs : List (String × String)}
    (filled : pairs ≠ []) : append query pairs = stem query ++ append [] pairs := by
  cases pairs with
  | nil => exact absurd rfl filled
  | cons pair pairs =>
      rw [append_cons, append_cons, append_front _ (encodePair_ne_nil pair)]
      rfl

theorem isWritten_encodeByte {b : UInt8} {c : Char} (member : c ∈ encodeByte b) :
    isWritten c = true := by
  have each : ∀ high low : Fin 16,
      (encodeByte (UInt8.ofNat (16 * high.val + low.val))).all isWritten = true := by
    decide +kernel
  rw [← ofNat_nibbles b] at member
  exact List.all_eq_true.mp (each _ _) c member

theorem isWritten_encodeText {s : String} {c : Char} (member : c ∈ encodeText s) :
    isWritten c = true := by
  obtain ⟨b, -, member⟩ := List.mem_flatMap.mp member
  exact isWritten_encodeByte member

theorem isWritten_encodePair {pair : String × String} {c : Char} (member : c ∈ encodePair pair) :
    isWritten c = true := by
  rcases List.mem_append.mp member with name | member
  · exact isWritten_encodeText name
  · rcases List.mem_cons.mp member with rfl | value
    · decide
    · exact isWritten_encodeText value

/-- A form is written in characters that need no encoding in a query. -/
theorem isWritten_append {query : List Char} (written : ∀ c ∈ query, isWritten c = true)
    (pairs : List (String × String)) : ∀ c ∈ append query pairs, isWritten c = true := by
  induction pairs generalizing query with
  | nil => exact written
  | cons pair pairs inductionHypothesis =>
      rw [append_cons]
      refine inductionHypothesis fun c member => ?_
      rcases List.mem_append.mp member with stem | member
      · unfold Form.stem at stem
        split at stem
        · cases stem
        · rcases List.mem_append.mp stem with own | mark
          · exact written c own
          · obtain rfl := List.mem_singleton.mp mark
            decide
      · exact isWritten_encodePair member

end Form

/-- The parameters appended to a URL are carried behind those that it had. -/
theorem queryPairs_appendQuery (url : Url) (pairs : List (String × String)) :
    (url.appendQuery pairs).queryPairs = url.queryPairs ++ pairs := by
  have read : (url.appendQuery pairs).queryPairs =
      Form.decode (Form.append (url.query.getD "").toList pairs) := by
    simp [queryPairs, appendQuery]
  rw [read, Form.decode_append_pairs]
  cases query : url.query with
  | none => simp [queryPairs, query, Form.decode_nil]
  | some text => simp [queryPairs, query]

end Url

end TokenAcquisition
