import TokenAcquisition.Json.Parser
import TokenAcquisition.Json.Printer
import TokenAcquisition.Json.Value
import TokenAcquisition.Proofs.Url.Form

/-!
Numbers and strings of JSON texts are read back as they were written: an integer in its digits, a
text with some of its characters escaped.
-/

namespace TokenAcquisition

namespace Json

/-! ### Numbers -/

/-- Nothing here goes on with a number. -/
def EndsNumber (bytes : List UInt8) : Prop :=
  ∀ b ∈ bytes.head?, isDigit b = false ∧ b ≠ 46 ∧ b ≠ 101 ∧ b ≠ 69

theorem endsNumber_nil : EndsNumber [] := nofun

theorem endsNumber_cons {b : UInt8} {rest : List UInt8}
    (other : isDigit b = false ∧ b ≠ 46 ∧ b ≠ 101 ∧ b ≠ 69) : EndsNumber (b :: rest) := by
  rintro c ⟨⟩
  exact other

/-- The last digit of a number, and those before it. -/
theorem digitBytes_eq (n : Nat) :
    digitBytes n =
      if n < 10 then [UInt8.ofNat (48 + n)]
      else digitBytes (n / 10) ++ [UInt8.ofNat (48 + n % 10)] := by
  have digit (k : Nat) (small : k < 10) :
      UInt8.ofNat k.digitChar.toNat = UInt8.ofNat (48 + k) := by
    revert small
    revert k
    decide
  unfold digitBytes
  rw [Nat.toDigits_eq_if (by decide)]
  split
  next small => rw [List.map_singleton, digit n small]
  next => rw [List.map_append, List.map_singleton, digit _ (Nat.mod_lt n (by decide))]

theorem isDigit_ofNat {k : Nat} (small : k < 10) : isDigit (UInt8.ofNat (48 + k)) = true := by
  revert small
  revert k
  decide

theorem isDigit_of_mem_digitBytes {n : Nat} {b : UInt8} (member : b ∈ digitBytes n) :
    isDigit b = true := by
  induction n using Nat.strongRecOn with
  | ind n inductionHypothesis =>
      rw [digitBytes_eq] at member
      split at member
      next small =>
        obtain rfl := List.mem_singleton.mp member
        exact isDigit_ofNat small
      next large =>
        rcases List.mem_append.mp member with earlier | last
        · exact inductionHypothesis (n / 10) (by omega) earlier
        · obtain rfl := List.mem_singleton.mp last
          exact isDigit_ofNat (Nat.mod_lt n (by decide))

/-- A number is written with a first digit, and only zero begins with a zero. -/
theorem exists_digitBytes_eq_cons (n : Nat) :
    ∃ b rest, digitBytes n = b :: rest ∧ (b = 48 → n = 0 ∧ rest = []) := by
  induction n using Nat.strongRecOn with
  | ind n inductionHypothesis =>
      rw [digitBytes_eq]
      split
      next small =>
        refine ⟨_, [], rfl, fun zero => ⟨?_, rfl⟩⟩
        have same := congrArg UInt8.toNat zero
        rw [UInt8.toNat_ofNat'] at same
        change (48 + n) % 256 = 48 at same
        omega
      next large =>
        obtain ⟨b, rest, same, zero⟩ := inductionHypothesis (n / 10) (by omega)
        refine ⟨b, rest ++ [_], by rw [same, List.cons_append], fun begins => ?_⟩
        have := (zero begins).1
        omega

/-- A number is written as an integer is. -/
def IsNumeral (text : List UInt8) : Prop :=
  ∃ n, text = digitBytes n ∨ text = 45 :: digitBytes n

theorem ofDigits?_concat {digits : List UInt8} {n k : Nat} (read : ofDigits? digits = some n)
    (small : k < 10) :
    ofDigits? (digits ++ [UInt8.ofNat (48 + k)]) = some (n * 10 + k) := by
  have some : digits.isEmpty = false := by
    cases digits with
    | nil => cases read
    | cons => rfl
  have last : (48 ≤ UInt8.ofNat (48 + k) && UInt8.ofNat (48 + k) ≤ 57) = true :=
    isDigit_ofNat small
  have value : (UInt8.ofNat (48 + k)).toNat - 48 = k := by
    rw [UInt8.toNat_ofNat']
    omega
  unfold ofDigits? at read ⊢
  rw [some] at read
  rw [if_neg nofun] at read
  rw [if_neg (by simp), List.foldl_append, read, List.foldl_cons, List.foldl_nil,
    Option.bind_some, if_pos last, value]

theorem ofDigits?_digitBytes (n : Nat) : ofDigits? (digitBytes n) = some n := by
  induction n using Nat.strongRecOn with
  | ind n inductionHypothesis =>
      rw [digitBytes_eq]
      split
      next small =>
        clear inductionHypothesis
        revert small
        revert n
        decide
      next large =>
        rw [ofDigits?_concat (inductionHypothesis (n / 10) (by omega))
          (Nat.mod_lt n (by decide))]
        congr 1
        omega

theorem integer?_of_isDigit {b : UInt8} {rest : List UInt8} (digit : isDigit b = true) :
    (number (b :: rest)).integer? = (ofDigits? (b :: rest)).map Int.ofNat := by
  have unsigned (digits : List UInt8) : b :: rest ≠ 45 :: digits := by
    rintro ⟨⟩
    cases digit
  rw [integer?.eq_2 _ fun digits => unsigned digits]

theorem integer?_natural (n : Nat) : (natural n).integer? = some (Int.ofNat n) := by
  obtain ⟨b, rest, same, -⟩ := exists_digitBytes_eq_cons n
  have digit : isDigit b = true := isDigit_of_mem_digitBytes (n := n) (by simp [same])
  rw [natural, same, integer?_of_isDigit digit, ← same, ofDigits?_digitBytes, Option.map_some]

theorem integer?_integer (i : Int) : (integer i).integer? = some i := by
  cases i with
  | ofNat n => exact integer?_natural n
  | negSucc n => simp only [integer, integer?, ofDigits?_digitBytes]

/-- A word of 64 bits is read back. -/
theorem word?_encode (w : UInt64) : word? (encode w) = some w := by
  have read : (encode w : Json).integer? = some (Int.ofNat w.toNat) := integer?_natural w.toNat
  have small : w.toNat < UInt64.size := w.toNat_lt
  simp only [word?, read, if_pos small, UInt64.ofNat_toNat]

theorem signed?_encode {bits : Nat} {i : Int} (least : -Int.ofNat (1 <<< (bits - 1)) ≤ i)
    (most : i < Int.ofNat (1 <<< (bits - 1))) : signed? bits (encode i) = some i := by
  have read : (encode i : Json).integer? = some i := integer?_integer i
  simp only [signed?, read, Option.filter_some, least, most, and_self, decide_true, if_pos]

/-! ### Strings -/

theorem pieces?_append {bytes : List UInt8} (plain : ∀ b ∈ bytes, b ≠ 0x22 ∧ b ≠ 0x5C ∧ ¬ b < 0x20)
    (rest : List UInt8) :
    pieces? (bytes ++ rest) =
      (pieces? rest).map fun found => (bytes.map Piece.byte ++ found.1, found.2) := by
  induction bytes with
  | nil => simp
  | cons b bytes inductionHypothesis =>
      obtain ⟨quote, backslash, visible⟩ := plain b (by simp)
      have others := inductionHypothesis fun c member => plain c (by simp [member])
      rw [List.cons_append, pieces?.eq_def]
      simp [quote, backslash, visible, others, Function.comp_def]

theorem bytesOf?_append (bytes : List UInt8) (more : List Piece) :
    bytesOf? (bytes.map Piece.byte ++ more) = (bytesOf? more).map (bytes ++ ·) := by
  induction bytes with
  | nil => simp
  | cons b bytes inductionHypothesis =>
      simp [bytesOf?, inductionHypothesis, Function.comp_def]

/-- A control character that has no short escape is spelled by its number. -/
theorem pieces?_unit {u : Nat} (control : u < 32) (rest : List UInt8) :
    pieces? (0x5C :: 0x75 :: 48 :: 48 ::
        UInt8.ofNat (Text.hexCode (Text.nibble (u / 16))) ::
        UInt8.ofNat (Text.hexCode (Text.nibble u)) :: rest) =
      (pieces? rest).map fun found => (.unit u :: found.1, found.2) := by
  have spelled : unit? 48 48 (UInt8.ofNat (Text.hexCode (Text.nibble (u / 16))))
      (UInt8.ofNat (Text.hexCode (Text.nibble u))) = some u := by
    revert control
    revert u
    decide
  rw [pieces?.eq_def]
  simp [spelled]

theorem bytesOf?_unit {u : Nat} (control : u < 32) (more : List Piece) :
    bytesOf? (.unit u :: more) =
      (bytesOf? more).map (String.utf8EncodeChar (Char.ofNat u) ++ ·) := by
  rw [bytesOf?.eq_def]
  dsimp only
  split
  next high =>
    have high : (decide (0xD800 ≤ u) && decide (u ≤ 0xDBFF)) = true := high
    simp only [Bool.and_eq_true, decide_eq_true_eq] at high
    omega
  next =>
    split
    next low =>
      have low : (decide (0xDC00 ≤ u) && decide (u ≤ 0xDFFF)) = true := low
      simp only [Bool.and_eq_true, decide_eq_true_eq] at low
      omega
    next => rfl

/-- What a character is written in spells the character. -/
structure Spells (written : List UInt8) (c : Char) (spelled : List Piece) : Prop where
  read : ∀ rest, pieces? (written ++ rest) =
    (pieces? rest).map fun found => (spelled ++ found.1, found.2)
  bytes : ∀ more, bytesOf? (spelled ++ more) =
    (bytesOf? more).map (String.utf8EncodeChar c ++ ·)

theorem spells_short {c : Char} {written : List UInt8} {e b : UInt8}
    (short : shortEscape? e = some b) (other : (e == 0x75) = false)
    (own : String.utf8EncodeChar c = [b]) (same : written = [0x5C, e]) :
    Spells written c [.byte b] where
  read rest := by
    rw [same, List.cons_append, pieces?.eq_def]
    simp [other, short]
  bytes more := by
    rw [own]
    exact bytesOf?_append [b] more

theorem spells_plain {c : Char} (quote : c ≠ '"') (backslash : c ≠ '\\')
    (visible : ¬ c.toNat < 32) :
    Spells (Text.encodeChars [c]) c ((String.utf8EncodeChar c).map Piece.byte) := by
  have bytes : Text.encodeChars [c] = String.utf8EncodeChar c := List.append_nil _
  rw [bytes]
  refine ⟨pieces?_append fun b member => ?_, bytesOf?_append _⟩
  rw [UInt8.lt_iff_toNat_lt]
  rcases Text.mem_utf8EncodeChar member with ⟨rfl, ascii⟩ | large
  · have value : (UInt8.ofNat c.toNat).toNat = c.toNat := by
      rw [UInt8.toNat_ofNat']
      omega
    have own (d : Char) (code : UInt8) (same : code.toNat = d.toNat) (other : c ≠ d) :
        UInt8.ofNat c.toNat ≠ code := by
      intro equal
      rw [← equal, value] at same
      exact other (Char.toNat_inj.mp same)
    exact ⟨own '"' _ rfl quote, own '\\' _ rfl backslash, by rw [value]; exact visible⟩
  · refine ⟨?_, ?_, ?_⟩
    · rintro rfl
      exact absurd large (by decide)
    · rintro rfl
      exact absurd large (by decide)
    · intro small
      exact absurd (Nat.lt_of_le_of_lt large small) (by decide)

/-- Whatever is escaped spells the character again. -/
theorem exists_spells (c : Char) : ∃ spelled, Spells (Text.encodeChars (escape c)) c spelled := by
  have short {e b : UInt8} {d : Char} (same : d = c) (short : shortEscape? e = some b)
      (other : (e == 0x75) = false) (own : String.utf8EncodeChar d = [b])
      (written : Text.encodeChars (escape d) = [0x5C, e]) :
      ∃ spelled, Spells (Text.encodeChars (escape c)) c spelled := by
    subst same
    exact ⟨_, spells_short short other own written⟩
  by_cases quote : c = '"'
  · exact short (e := 0x22) quote.symm rfl rfl rfl (by decide)
  by_cases backslash : c = '\\'
  · exact short (e := 0x5C) backslash.symm rfl rfl rfl (by decide)
  by_cases backspace : c = '\x08'
  · exact short (e := 0x62) backspace.symm rfl rfl rfl (by decide)
  by_cases tab : c = '\t'
  · exact short (e := 0x74) tab.symm rfl rfl rfl (by decide)
  by_cases line : c = '\n'
  · exact short (e := 0x6E) line.symm rfl rfl rfl (by decide)
  by_cases page : c = '\x0C'
  · exact short (e := 0x66) page.symm rfl rfl rfl (by decide)
  by_cases carriage : c = '\r'
  · exact short (e := 0x72) carriage.symm rfl rfl rfl (by decide)
  rw [escape, if_neg quote, if_neg backslash, if_neg backspace, if_neg tab, if_neg line,
    if_neg page, if_neg carriage]
  by_cases control : c.toNat < 32
  · rw [if_pos control]
    refine ⟨[.unit c.toNat], fun rest => ?_, fun more => ?_⟩
    · have written : Text.encodeChars ['\\', 'u', '0', '0',
          Text.hexDigit (Text.nibble (c.toNat / 16)), Text.hexDigit (Text.nibble c.toNat)] =
          [0x5C, 0x75, 48, 48, UInt8.ofNat (Text.hexCode (Text.nibble (c.toNat / 16))),
            UInt8.ofNat (Text.hexCode (Text.nibble c.toNat))] := by
        generalize c.toNat = u at control
        revert control
        revert u
        decide
      rw [written]
      exact pieces?_unit control rest
    · have spelled := bytesOf?_unit control more
      rwa [Char.ofNat_toNat] at spelled
  · rw [if_neg control]
    exact ⟨_, spells_plain quote backslash control⟩

/-- What a text is written in between its quotes spells the text. -/
theorem exists_pieces (cs : List Char) (rest : List UInt8) :
    ∃ spelled, pieces? (Text.encodeChars (cs.flatMap escape) ++ 0x22 :: rest) =
        some (spelled, rest) ∧
      bytesOf? spelled = some (Text.encodeChars cs) := by
  induction cs with
  | nil =>
      refine ⟨[], ?_, rfl⟩
      rw [List.flatMap_nil, Text.encodeChars_nil, List.nil_append, pieces?.eq_def]
      rfl
  | cons c cs inductionHypothesis =>
      obtain ⟨others, read, bytes⟩ := inductionHypothesis
      obtain ⟨own, spells⟩ := exists_spells c
      refine ⟨own ++ others, ?_, ?_⟩
      · rw [List.flatMap_cons, Text.encodeChars_append, List.append_assoc, spells.read, read,
          Option.map_some]
      · rw [spells.bytes, bytes, Option.map_some]
        rfl

/-- A text is read back from between its quotes. -/
theorem stringAfterQuote?_quoted (s : String) (rest : List UInt8) :
    stringAfterQuote? (Text.encodeChars (s.toList.flatMap escape) ++ 0x22 :: rest) =
      some (some s, rest) := by
  obtain ⟨spelled, read, bytes⟩ := exists_pieces s.toList rest
  have decoded : Text.decode? (Text.encodeChars s.toList) = some s := Text.decode?_encode s
  rw [stringAfterQuote?, read, Option.map_some, bytes, Option.bind_some, decoded]

end Json

end TokenAcquisition
