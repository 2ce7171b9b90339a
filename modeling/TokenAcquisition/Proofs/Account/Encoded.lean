import TokenAcquisition.Account
import TokenAcquisition.Proofs.Json.Members
import TokenAcquisition.Proofs.Text.Base64Url
import TokenAcquisition.Proofs.Token.Answers

/-!
What an id token and a client info carry.  Both are read from the texts that carry them and from
no others; what is not read has one of a few faults.
-/

namespace TokenAcquisition

open Json (Fills IsWrittenIn Means Stands encode text?)
open Text (encodeChars)

/-! ### Base64 with padding -/

/-- The text is the written form of the bytes, with any padding behind it. -/
def IsBase64Of (text : List Char) (bytes : List UInt8) : Prop :=
  ∃ padding, text = (Text.Base64Url.encode bytes).toList ++ List.replicate padding '='

/-- What is left without its padding is all that stands before the padding. -/
theorem unpadded_eq_iff {text core : List Char} (own : core.getLast? ≠ some '=') :
    (text.reverse.dropWhile (· = '=')).reverse = core ↔
      ∃ padding, text = core ++ List.replicate padding '=' := by
  constructor
  · rintro rfl
    refine ⟨(text.reverse.takeWhile (· = '=')).length, ?_⟩
    have padding : text.reverse.takeWhile (· = '=') =
        List.replicate (text.reverse.takeWhile (· = '=')).length '=' := by
      refine List.eq_replicate_iff.mpr ⟨rfl, fun c member => ?_⟩
      simpa using List.mem_takeWhile_imp member
    rw [← List.reverse_inj, List.reverse_append, List.reverse_reverse, List.reverse_replicate,
      ← padding, List.takeWhile_append_dropWhile]
  · rintro ⟨padding, rfl⟩
    have ends : core.reverse.dropWhile (· = '=') = core.reverse := by
      rw [← List.head?_reverse] at own
      cases same : core.reverse with
      | nil => rfl
      | cons c rest =>
          rw [same] at own
          exact List.dropWhile_cons_of_neg (by simpa using own)
    rw [List.reverse_append, List.reverse_replicate,
      List.dropWhile_append_of_pos (by simp), ends, List.reverse_reverse]

theorem getLast?_encode_ne (bytes : List UInt8) :
    (Text.Base64Url.encode bytes).toList.getLast? ≠ some '=' :=
  fun same => (Text.Base64Url.ne_of_mem_encode (List.mem_of_getLast? same)).2 rfl

theorem isBase64Of_iff {text : List Char} {bytes : List UInt8} :
    IsBase64Of text bytes ↔
      Text.Base64Url.decode (encodeChars (text.reverse.dropWhile (· = '=')).reverse) =
        .ok bytes := by
  rw [Text.Base64Url.decode_eq_ok_iff, unpadded_eq_iff (getLast?_encode_ne bytes)]
  rfl

theorem IsBase64Of.unique {text : List Char} {bytes others : List UInt8}
    (isBase64 : IsBase64Of text bytes) (isBase64Too : IsBase64Of text others) :
    others = bytes :=
  Except.ok.inj ((isBase64Of_iff.mp isBase64Too).symm.trans (isBase64Of_iff.mp isBase64))

theorem readEncoded_eq_ok_iff {α : Type} {read : Json → Option α} {text : List Char} {a : α} :
    readEncoded read text = .ok a ↔
      ∃ bytes, IsBase64Of text bytes ∧ (Json.parse? bytes).bind read = some a := by
  simp only [isBase64Of_iff, readEncoded]
  split
  next fault refused => simp [refused]
  next bytes decoded =>
    simp only [decoded, Except.ok.injEq, exists_eq_left']
    split
    next value own => rw [own, Except.ok.injEq, Option.some.injEq]
    next none => simp [none]

/-- The bytes are those of a value that gives `given` to the fields of a record. -/
def Json.BytesFill (fields : List Field) (given : String → Option Json) (bytes : List UInt8) :
    Prop :=
  ∃ value, Stands value bytes ∧ Fills fields given value

variable {given other : String → Option Json} {value : Json} {bytes : List UInt8} {raw : String}
  {kept extra all : List (String × Json)}

theorem Json.bind_eq_some_iff_bytesFill {α : Type} {fields : List Field} {read : Json → Option α}
    {states : (String → Option Json) → α → Prop}
    (reads : ∀ {value a}, read value = some a ↔
      ∃ given, Fills fields given value ∧ states given a) {a : α} :
    (parse? bytes).bind read = some a ↔ ∃ given, BytesFill fields given bytes ∧ states given a := by
  simp only [Option.bind_eq_some_iff, parse?_eq_some_iff, reads]
  constructor
  · rintro ⟨value, stands, given, fills, stated⟩
    exact ⟨given, ⟨value, stands, fills⟩, stated⟩
  · rintro ⟨given, ⟨value, stands, fills⟩, stated⟩
    exact ⟨value, stands, given, fills, stated⟩

theorem Json.BytesFill.ne_nil {fields : List Field} (fill : BytesFill fields given bytes) :
    bytes ≠ [] := by
  rintro rfl
  obtain ⟨value, stands, -⟩ := fill
  cases parse?_eq_some_iff.mpr stands

/-! ### Claims -/

namespace IdTokenClaims

variable {claims : IdTokenClaims}

/-- What the fields are given states the claims. -/
structure Stated (given : String → Option Json) (claims : IdTokenClaims) : Prop where
  iss : Means text? (given "iss") claims.iss
  sub : Means text? (given "sub") claims.sub
  oid : Means text? (given "oid") claims.oid
  tid : Means text? (given "tid") claims.tid
  preferredUsername : Means text? (given "preferred_username") claims.preferredUsername
  name : Means text? (given "name") claims.name

/-- The bytes are JSON that states the claims. -/
def IsStatedBy (claims : IdTokenClaims) (bytes : List UInt8) : Prop :=
  ∃ given, Json.BytesFill fields given bytes ∧ Stated given claims

def members (claims : IdTokenClaims) : List (String × Json) :=
  [("iss", encode claims.iss),
   ("sub", encode claims.sub),
   ("oid", encode claims.oid),
   ("tid", encode claims.tid),
   ("preferred_username", encode claims.preferredUsername),
   ("name", encode claims.name)]

theorem distinct_fields : (fields.map Field.name).Nodup := by decide

theorem Stated.congr (stated : Stated given claims)
    (same : ∀ field ∈ fields, other field.name = given field.name) : Stated other claims := by
  simp only [fields, List.forall_mem_cons, List.not_mem_nil, false_implies, implies_true,
    and_true] at same
  obtain ⟨iss, sub, oid, tid, preferredUsername, name⟩ := same
  exact
    { iss := iss ▸ stated.iss
      sub := sub ▸ stated.sub
      oid := oid ▸ stated.oid
      tid := tid ▸ stated.tid
      preferredUsername := preferredUsername ▸ stated.preferredUsername
      name := name ▸ stated.name }

/-- Claims are read from a value if and only if what it gives to their fields states them. -/
theorem ofJson?_eq_some_iff :
    ofJson? value = some claims ↔ ∃ given, Fills fields given value ∧ Stated given claims := by
  have optional {r : Record Json} {name : String} {o : Option String} :
      r.optional name text? = some o ↔ Means text? (r.value? name) o :=
    Record.optional_eq_some_iff rfl
  constructor
  · intro read
    simp only [ofJson?, Option.bind_eq_bind, Option.bind_eq_some_iff, Option.some.injEq] at read
    obtain ⟨r, made, _, iss, _, sub, _, oid, _, tid, _, preferredUsername, _, name, rfl⟩ := read
    exact ⟨r.value?, Json.fills_of_record? distinct_fields made,
      { iss := optional.mp iss
        sub := optional.mp sub
        oid := optional.mp oid
        tid := optional.mp tid
        preferredUsername := optional.mp preferredUsername
        name := optional.mp name }⟩
  · rintro ⟨given, fills, stated⟩
    obtain ⟨r, made, same⟩ := fills.exists_record distinct_fields
    have stated := stated.congr same
    simp only [ofJson?, made, Option.bind_eq_bind, Option.bind_some, optional.mpr stated.iss,
      optional.mpr stated.sub, optional.mpr stated.oid, optional.mpr stated.tid,
      optional.mpr stated.preferredUsername, optional.mpr stated.name]

theorem read_eq_some_iff :
    (Json.parse? bytes).bind ofJson? = some claims ↔ claims.IsStatedBy bytes :=
  Json.bind_eq_some_iff_bytesFill ofJson?_eq_some_iff

/-- Claims are stated by the JSON of an object in which they are written. -/
theorem isStatedBy_of_isWrittenIn (written : IsWrittenIn fields claims.members kept extra all)
    (stands : Stands (.record all) bytes) : claims.IsStatedBy bytes := by
  have fills := written.fills (by decide) distinct_fields rfl
  have text {name : String} {o : Option String} (inside : (name, encode o) ∈ claims.members) :
      Means text? (kept.lookup name) o :=
    written.means distinct_fields (fun _ => rfl) Json.encode_text_ne_null inside
  refine ⟨_, ⟨_, stands, fills⟩, ?_⟩
  constructor <;> exact text (by simp [members])

/-- All claims can be written out in JSON. -/
theorem stands_members (claims : IdTokenClaims) :
    Stands (.record claims.members) (Text.encode (Json.record claims.members).render) := by
  have optional := Json.keeps_optional Json.keeps_text Json.encode_text_ne_null
  have exact : Json.IsExact (.record claims.members) := by
    refine .record ?_
    simp [members, (optional _).exact]
  exact Json.parseText?_eq_some_iff.mp (Json.parseText?_render exact)

end IdTokenClaims

/-! ### Id tokens -/

namespace IdToken

variable {payload : List Char} {claims : IdTokenClaims} {token : IdToken}

/-- The text has the segment behind its first dot, up to the next dot or to its end. -/
structure HasPayload (raw : String) (payload : List Char) : Prop where
  undotted : '.' ∉ payload
  placed : ∃ header rest, '.' ∉ header ∧ (rest = [] ∨ rest.head? = some '.') ∧
    raw.toList = header ++ '.' :: (payload ++ rest)

/-- The text carries the claims in its second segment. -/
def Carries (raw : String) (claims : IdTokenClaims) : Prop :=
  ∃ payload bytes, HasPayload raw payload ∧ IsBase64Of payload bytes ∧ claims.IsStatedBy bytes

/-- What is wrong with a text that carries no claims. -/
inductive IsFaulty (raw : String) : Prop where
  | undivided : '.' ∉ raw.toList → IsFaulty raw
  | blank : HasPayload raw [] → IsFaulty raw
  | notBase64 {payload : List Char} : HasPayload raw payload →
      (∀ bytes, ¬ IsBase64Of payload bytes) → IsFaulty raw
  | notClaims {payload : List Char} {bytes : List UInt8} : HasPayload raw payload →
      IsBase64Of payload bytes → (∀ claims : IdTokenClaims, ¬ claims.IsStatedBy bytes) →
      IsFaulty raw

/-- A dot ends what is taken up to one. -/
theorem dot_of_mem_head? {text : List Char} (ends : text = [] ∨ text.head? = some '.') :
    ∀ c ∈ text.head?, decide (c ≠ '.') = false := by
  rcases ends with rfl | begins
  · exact nofun
  · rw [begins]
    rintro c ⟨⟩
    rfl

theorem ne_dot_of_mem {text : List Char} (undotted : '.' ∉ text) :
    ∀ c ∈ text, decide (c ≠ '.') = true :=
  fun _ member => decide_eq_true fun same => undotted (same ▸ member)

theorem undotted_takeWhile (text : List Char) : '.' ∉ text.takeWhile (· ≠ '.') :=
  fun member => by simpa using List.mem_takeWhile_imp member

/-- What is left behind the part before the first dot begins with that dot. -/
theorem dropWhile_cases (text : List Char) :
    text.dropWhile (· ≠ '.') = [] ∨ (text.dropWhile (· ≠ '.')).head? = some '.' := by
  have stop := List.head?_dropWhile_not (· ≠ '.') text
  cases left : text.dropWhile (· ≠ '.') with
  | nil => exact .inl rfl
  | cons c others =>
      rw [left] at stop
      exact .inr (by simpa using stop)

theorem payload?_eq_some_iff : payload? raw = some payload ↔ HasPayload raw payload := by
  constructor
  · intro own
    unfold payload? at own
    split at own
    next dot rest divided =>
      obtain rfl := Option.some.inj own
      obtain rfl : dot = '.' := by
        rcases dropWhile_cases raw.toList with same | same <;> rw [divided] at same
        · cases same
        · exact Option.some.inj same
      refine ⟨undotted_takeWhile rest, raw.toList.takeWhile (· ≠ '.'), rest.dropWhile (· ≠ '.'),
        undotted_takeWhile raw.toList, dropWhile_cases rest, ?_⟩
      rw [List.takeWhile_append_dropWhile, ← divided, List.takeWhile_append_dropWhile]
    next => cases own
  · rintro ⟨undotted, header, rest, bare, ends, placed⟩
    have divided : raw.toList.dropWhile (· ≠ '.') = '.' :: (payload ++ rest) := by
      rw [placed]
      exact Lists.dropWhile_append_of_stops (ne_dot_of_mem bare) (dot_of_mem_head? (.inr rfl))
    rw [payload?, divided]
    exact congrArg some
      (Lists.takeWhile_append_of_stops (ne_dot_of_mem undotted) (dot_of_mem_head? ends))

theorem HasPayload.unique {other : List Char} (has : HasPayload raw payload)
    (hasToo : HasPayload raw other) : other = payload :=
  Option.some.inj ((payload?_eq_some_iff.mpr hasToo).symm.trans (payload?_eq_some_iff.mpr has))

theorem payload?_eq_none_iff : payload? raw = none ↔ '.' ∉ raw.toList := by
  have divided : payload? raw = none ↔ raw.toList.dropWhile (· ≠ '.') = [] := by
    unfold payload?
    split
    next same =>
      rw [same]
      exact ⟨nofun, nofun⟩
    next same => exact ⟨fun _ => same, fun _ => rfl⟩
  rw [divided, List.dropWhile_eq_nil_iff]
  constructor
  · intro all member
    simpa using all _ member
  · exact ne_dot_of_mem

theorem Carries.exists_payload (carries : Carries raw claims) :
    ∃ payload bytes, payload? raw = some payload ∧ payload ≠ [] ∧ IsBase64Of payload bytes ∧
      claims.IsStatedBy bytes := by
  obtain ⟨payload, bytes, has, isBase64, stated⟩ := carries
  refine ⟨payload, bytes, payload?_eq_some_iff.mpr has, ?_, isBase64, stated⟩
  rintro rfl
  obtain ⟨given, fill, -⟩ := stated
  exact fill.ne_nil (IsBase64Of.unique ⟨0, rfl⟩ isBase64)

/-- An id token is read from the texts that carry its claims. -/
theorem parse_eq_ok_iff :
    parse raw = .ok token ↔ token.raw = raw ∧ Carries raw token.claims := by
  constructor
  · intro read
    unfold parse at read
    split at read
    next => cases read
    next payload own =>
      split at read
      next claims found =>
        obtain rfl := Except.ok.inj read
        obtain ⟨bytes, isBase64, stated⟩ := readEncoded_eq_ok_iff.mp found
        obtain ⟨has, -⟩ := Option.filter_eq_some_iff.mp own
        exact ⟨rfl, payload, bytes, payload?_eq_some_iff.mp has, isBase64,
          IdTokenClaims.read_eq_some_iff.mp stated⟩
      next => cases read
  · rintro ⟨rfl, carries⟩
    obtain ⟨payload, bytes, own, filled, isBase64, stated⟩ := carries.exists_payload
    have found : readEncoded IdTokenClaims.ofJson? payload = .ok token.claims :=
      readEncoded_eq_ok_iff.mpr ⟨bytes, isBase64, IdTokenClaims.read_eq_some_iff.mpr stated⟩
    have given : (payload? token.raw).filter (fun payload => !payload.isEmpty) = some payload := by
      rw [own, Option.filter_some, if_pos (by simpa using filled)]
    simp only [parse, given, found]

theorem Carries.parse (carries : Carries raw claims) : parse raw = .ok ⟨raw, claims⟩ :=
  parse_eq_ok_iff.mpr ⟨rfl, carries⟩

/-- A text that carries no claims has a fault. -/
theorem isFaulty_iff : IsFaulty raw ↔ ∀ claims, ¬ Carries raw claims := by
  constructor
  · rintro faulty claims carries
    obtain ⟨payload, bytes, own, filled, isBase64, stated⟩ := carries.exists_payload
    have has := payload?_eq_some_iff.mp own
    cases faulty with
    | undivided undotted => cases own.symm.trans (payload?_eq_none_iff.mpr undotted)
    | blank hasNothing => exact filled (hasNothing.unique has)
    | notBase64 hasOther none =>
        obtain rfl := has.unique hasOther
        exact none _ isBase64
    | notClaims hasOther isBase64Too none =>
        obtain rfl := has.unique hasOther
        obtain rfl := isBase64.unique isBase64Too
        exact none _ stated
  · intro none
    cases own : payload? raw with
    | none => exact .undivided (payload?_eq_none_iff.mp own)
    | some payload =>
        have has := payload?_eq_some_iff.mp own
        by_cases isBase64 : ∃ bytes, IsBase64Of payload bytes
        · obtain ⟨bytes, isBase64⟩ := isBase64
          exact .notClaims has isBase64 fun claims stated =>
            none claims ⟨payload, bytes, has, isBase64, stated⟩
        · exact .notBase64 has (not_exists.mp isBase64)

theorem parse_cases (raw : String) :
    (∃ token, parse raw = .ok token) ∨
      ∃ message, parse raw = .error (.client ClientCode.invalidIdToken message) := by
  unfold parse
  split
  next => exact .inr ⟨_, rfl⟩
  next => split <;> simp

end IdToken

/-! ### Client infos -/

namespace ClientInfo

variable {info : ClientInfo}

/-- What the fields are given states the two halves. -/
structure Stated (given : String → Option Json) (info : ClientInfo) : Prop where
  uid : given "uid" = some (.text info.uid)
  utid : given "utid" = some (.text info.utid)

/-- The bytes are JSON that states the two halves. -/
def IsStatedBy (info : ClientInfo) (bytes : List UInt8) : Prop :=
  ∃ given, Json.BytesFill fields given bytes ∧ Stated given info

def members (info : ClientInfo) : List (String × Json) :=
  [("uid", encode info.uid), ("utid", encode info.utid)]

/-- The text carries the two halves. -/
def Carries (raw : String) (info : ClientInfo) : Prop :=
  ∃ bytes, IsBase64Of raw.toList bytes ∧ info.IsStatedBy bytes

/-- What is wrong with a text that does not. -/
inductive IsFaulty (raw : String) : Prop where
  | notBase64 : (∀ bytes, ¬ IsBase64Of raw.toList bytes) → IsFaulty raw
  | notHalves {bytes : List UInt8} : IsBase64Of raw.toList bytes →
      (∀ info : ClientInfo, ¬ info.IsStatedBy bytes) → IsFaulty raw

theorem distinct_fields : (fields.map Field.name).Nodup := by decide

/-- The halves are read from a value if and only if what it gives to their fields states them. -/
theorem ofJson?_eq_some_iff :
    ofJson? value = some info ↔ ∃ given, Fills fields given value ∧ Stated given info := by
  constructor
  · intro read
    simp only [ofJson?, Option.bind_eq_bind, Option.bind_eq_some_iff, Option.some.injEq] at read
    obtain ⟨r, made, _, uid, _, utid, rfl⟩ := read
    exact ⟨r.value?, Json.fills_of_record? distinct_fields made,
      ⟨Record.required_text_eq_some_iff.mp uid, Record.required_text_eq_some_iff.mp utid⟩⟩
  · rintro ⟨given, fills, stated⟩
    obtain ⟨r, made, same⟩ := fills.exists_record distinct_fields
    simp only [fields, List.forall_mem_cons, List.not_mem_nil, false_implies, implies_true,
      and_true] at same
    simp only [ofJson?, made, Option.bind_eq_bind, Option.bind_some,
      Record.required_text_eq_some_iff.mpr (same.1.trans stated.uid),
      Record.required_text_eq_some_iff.mpr (same.2.trans stated.utid)]

theorem read_eq_some_iff :
    (Json.parse? bytes).bind ofJson? = some info ↔ info.IsStatedBy bytes :=
  Json.bind_eq_some_iff_bytesFill ofJson?_eq_some_iff

/-- The halves are stated by the JSON of an object in which they are written. -/
theorem isStatedBy_of_isWrittenIn (written : IsWrittenIn fields info.members kept extra all)
    (stands : Stands (.record all) bytes) : info.IsStatedBy bytes := by
  have fills := written.fills (by decide) distinct_fields rfl
  have text {name s : String} (inside : (name, encode s) ∈ info.members) :
      kept.lookup name = some (.text s) :=
    written.lookup_of_ne distinct_fields inside (Json.encode_text_ne_null s)
  refine ⟨_, ⟨_, stands, fills⟩, ?_⟩
  constructor <;> exact text (by simp [members])

/-- All halves can be written out in JSON. -/
theorem stands_members (info : ClientInfo) :
    Stands (.record info.members) (Text.encode (Json.record info.members).render) := by
  have exact : Json.IsExact (.record info.members) := by
    refine .record ?_
    simp [members, (Json.keeps_text _).exact]
  exact Json.parseText?_eq_some_iff.mp (Json.parseText?_render exact)

/-- A client info is read from the texts that carry it. -/
theorem parse_eq_ok_iff : parse raw = .ok info ↔ Carries raw info := by
  have own : parse raw = .ok info ↔ readEncoded ofJson? raw.toList = .ok info := by
    unfold parse
    split
    next found read => rw [read, Except.ok.injEq, Except.ok.injEq]
    next fault refused => simp [refused]
  rw [own, readEncoded_eq_ok_iff]
  simp only [read_eq_some_iff]
  rfl

/-- A text that carries no client info has a fault. -/
theorem isFaulty_iff : IsFaulty raw ↔ ∀ info, ¬ Carries raw info := by
  constructor
  · rintro (none | ⟨isBase64Too, none⟩) info ⟨bytes, isBase64, stated⟩
    · exact none bytes isBase64
    · obtain rfl := isBase64.unique isBase64Too
      exact none info stated
  · intro none
    by_cases isBase64 : ∃ bytes, IsBase64Of raw.toList bytes
    · obtain ⟨bytes, isBase64⟩ := isBase64
      exact .notHalves isBase64 fun info stated => none info ⟨bytes, isBase64, stated⟩
    · exact .notBase64 (not_exists.mp isBase64)

theorem parse_cases (raw : String) :
    (∃ info, parse raw = .ok info) ∨
      ∃ message, parse raw = .error (.client ClientCode.invalidClientInfo message) := by
  unfold parse
  split <;> simp

end ClientInfo

end TokenAcquisition
