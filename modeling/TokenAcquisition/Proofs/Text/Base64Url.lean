import TokenAcquisition.Proofs.Json.RoundTrip
import TokenAcquisition.Proofs.Lists
import TokenAcquisition.Text.Base64Url

/-!
Bytes have one written form in Base64, and it is the only text that they are read from.
-/

namespace TokenAcquisition.Text

theorem encodeChars_injective {cs ds : List Char} (same : encodeChars cs = encodeChars ds) :
    cs = ds := by
  have read := congrArg decode? same
  have first := decode?_encode (String.ofList cs)
  have second := decode?_encode (String.ofList ds)
  rw [encode, String.toList_ofList] at first second
  rw [first, second] at read
  simpa using congrArg String.toList (Option.some.inj read)

namespace Base64Url

variable {bytes text : List UInt8} {values : List Nat}

/-! ### Groups of bytes -/

theorem lt_of_mem_sextets {value : Nat} (member : value ∈ sextets bytes) : value < 64 := by
  induction bytes using sextets.induct with
  | case1 => cases member
  | case2 x =>
      have := x.toNat_lt
      simp only [sextets, List.mem_cons, List.not_mem_nil, or_false] at member
      omega
  | case3 x y =>
      have := x.toNat_lt
      have := y.toNat_lt
      simp only [sextets, List.mem_cons, List.not_mem_nil, or_false] at member
      omega
  | case4 x y z rest inductionHypothesis =>
      have := x.toNat_lt
      have := y.toNat_lt
      have := z.toNat_lt
      simp only [sextets, List.mem_cons] at member
      rcases member with rfl | rfl | rfl | rfl | later
      case inr.inr.inr.inr => exact inductionHypothesis later
      all_goals omega

/-- A byte is put together from its parts. -/
theorem ofNat_eq {b : UInt8} {n : Nat} (same : n = b.toNat) : UInt8.ofNat n = b := by
  rw [same, UInt8.ofNat_toNat]

theorem unpack?_sextets (bytes : List UInt8) : unpack? (sextets bytes) = some bytes := by
  induction bytes using sextets.induct with
  | case1 => rfl
  | case2 x =>
      have := x.toNat_lt
      rw [sextets, unpack?, if_pos (by omega), ofNat_eq (b := x) (by omega)]
  | case3 x y =>
      have := x.toNat_lt
      have := y.toNat_lt
      rw [sextets, unpack?, if_pos (by omega), ofNat_eq (b := x) (by omega),
        ofNat_eq (b := y) (by omega)]
  | case4 x y z rest inductionHypothesis =>
      have := x.toNat_lt
      have := y.toNat_lt
      have := z.toNat_lt
      rw [sextets, unpack?, inductionHypothesis, Option.map_some, ofNat_eq (b := x) (by omega),
        ofNat_eq (b := y) (by omega), ofNat_eq (b := z) (by omega)]

/-- Values that are read as bytes are those that spell the bytes. -/
theorem sextets_of_unpack? (small : ∀ value ∈ values, value < 64)
    (read : unpack? values = some bytes) : sextets bytes = values := by
  induction values using unpack?.induct generalizing bytes with
  | case1 =>
      obtain rfl := Option.some.inj read
      rfl
  | case2 => cases read
  | case3 a b spare =>
      simp only [List.forall_mem_cons] at small
      rw [unpack?, if_pos spare] at read
      obtain rfl := Option.some.inj read
      simp only [sextets, UInt8.toNat_ofNat', List.cons.injEq, and_true]
      omega
  | case5 a b c spare =>
      simp only [List.forall_mem_cons] at small
      rw [unpack?, if_pos spare] at read
      obtain rfl := Option.some.inj read
      simp only [sextets, UInt8.toNat_ofNat', List.cons.injEq, and_true]
      omega
  | case4 a b spare | case6 a b c spare =>
      rw [unpack?, if_neg spare] at read
      cases read
  | case7 a b c d rest inductionHypothesis =>
      simp only [List.forall_mem_cons] at small
      obtain ⟨others, found, rfl⟩ := Option.map_eq_some_iff.mp read
      have rest := inductionHypothesis small.2.2.2.2 found
      simp only [sextets, rest, UInt8.toNat_ofNat', List.cons.injEq, and_true]
      omega

/-! ### Symbols -/

theorem symbolCode_of_symbolValue? {code value : Nat} (read : symbolValue? code = some value) :
    value < 64 ∧ symbolCode value = code := by
  grind [symbolValue?, symbolCode]

theorem symbolCode_lt (value : Nat) : symbolCode value < 128 := by
  grind [symbolCode]

/-- The byte of a symbol. -/
def symbolByte (value : Nat) : UInt8 :=
  UInt8.ofNat (symbolCode value)

theorem toNat_symbolByte (value : Nat) : (symbolByte value).toNat = symbolCode value := by
  have := symbolCode_lt value
  rw [symbolByte, UInt8.toNat_ofNat']
  omega

/-- Bytes are read as the values whose symbols they are. -/
theorem mapM_symbolValue?_iff :
    (text.mapM fun b => symbolValue? b.toNat) = some values ↔
      (∀ value ∈ values, value < 64) ∧ text = values.map symbolByte := by
  constructor
  · intro read
    induction text generalizing values with
    | nil =>
        obtain rfl : [] = values := by simpa using read
        exact ⟨nofun, rfl⟩
    | cons b text inductionHypothesis =>
        simp only [List.mapM_cons, Option.bind_eq_bind, Option.bind_eq_some_iff] at read
        obtain ⟨value, own, rest, others, same⟩ := read
        obtain rfl : value :: rest = values := by simpa using same
        obtain ⟨small, code⟩ := symbolCode_of_symbolValue? own
        obtain ⟨smallToo, whole⟩ := inductionHypothesis others
        refine ⟨List.forall_mem_cons.mpr ⟨small, smallToo⟩, ?_⟩
        rw [List.map_cons, ← whole, symbolByte, code, UInt8.ofNat_toNat]
  · rintro ⟨small, rfl⟩
    refine Lists.mapM_map fun value inside => ?_
    rw [toNat_symbolByte]
    exact symbolValue?_symbolCode (small value inside)

theorem encodeChars_encode (bytes : List UInt8) :
    encodeChars (encode bytes).toList = (sextets bytes).map symbolByte := by
  have chars : (encode bytes).toList =
      ((sextets bytes).map symbolByte).map fun b => Char.ofNat b.toNat := by
    rw [encode, String.toList_ofList, List.map_map]
    exact List.map_congr_left fun value _ => by rw [Function.comp_apply, toNat_symbolByte]
  rw [chars, Json.encodeChars_ascii]
  intro b member
  obtain ⟨value, -, rfl⟩ := List.mem_map.mp member
  rw [toNat_symbolByte]
  exact symbolCode_lt value

/-- Bytes are read from their written form and from nothing else. -/
theorem decode_eq_ok_iff {cs : List Char} :
    decode (encodeChars cs) = .ok bytes ↔ cs = (encode bytes).toList := by
  have read : decode (encodeChars cs) = .ok bytes ↔
      ((encodeChars cs).mapM fun b => symbolValue? b.toNat).bind unpack? = some bytes := by
    unfold decode
    split
    next found own => rw [own, Except.ok.injEq, Option.some.injEq]
    next none => simp [none]
  rw [read, Option.bind_eq_some_iff]
  simp only [mapM_symbolValue?_iff]
  constructor
  · rintro ⟨values, ⟨small, written⟩, packed⟩
    apply encodeChars_injective
    rw [encodeChars_encode, written, sextets_of_unpack? small packed]
  · rintro rfl
    exact ⟨_, ⟨fun value => lt_of_mem_sextets, encodeChars_encode bytes⟩, unpack?_sextets bytes⟩

/-- The written form holds neither dots nor padding. -/
theorem ne_of_mem_encode {c : Char} (member : c ∈ (encode bytes).toList) : c ≠ '.' ∧ c ≠ '=' := by
  rw [encode, String.toList_ofList] at member
  obtain ⟨value, among, rfl⟩ := List.mem_map.mp member
  have every : ∀ v : Fin 64, Char.ofNat (symbolCode v.val) ≠ '.' ∧
      Char.ofNat (symbolCode v.val) ≠ '=' := by decide
  exact every ⟨value, lt_of_mem_sextets among⟩

end Base64Url

end TokenAcquisition.Text
