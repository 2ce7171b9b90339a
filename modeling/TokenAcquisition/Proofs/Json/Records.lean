import TokenAcquisition.Json.Value
import TokenAcquisition.Proofs.Json.RoundTrip
import TokenAcquisition.Proofs.Lists

/-!
Records in JSON: which values are read as a record, and what each field of it is given.  A record
that was written is read back as it was.
-/

namespace TokenAcquisition

namespace Json

/-- A value from which something is read back. -/
structure Keeps {α : Type} (read : Json → Option α) (value : Json) (a : α) : Prop where
  exact : IsExact value
  read : read value = some a

theorem keeps_text (s : String) : Keeps text? (encode s) s :=
  ⟨.text s, rfl⟩

theorem keeps_word (w : UInt64) : Keeps word? (encode w) w :=
  ⟨.number ⟨w.toNat, .inl rfl⟩, word?_encode w⟩

theorem keeps_signed {bits : Nat} {i : Int} (least : -Int.ofNat (1 <<< (bits - 1)) ≤ i)
    (most : i < Int.ofNat (1 <<< (bits - 1))) : Keeps (signed? bits) (encode i) i := by
  refine ⟨?_, signed?_encode least most⟩
  cases i with
  | ofNat n => exact .number ⟨n, .inl rfl⟩
  | negSucc n => exact .number ⟨n + 1, .inr rfl⟩

variable {α : Type} {read : Json → Option α}

theorem nullable_of_ne {value : Json} (other : value ≠ .null) :
    nullable read value = (read value).map some := by
  cases value <;> first | rfl | exact absurd rfl other

/-- What is left out is told from everything that is written. -/
theorem keeps_optional [Encode α] (keeps : ∀ a, Keeps read (encode a) a)
    (other : ∀ a : α, encode a ≠ .null) (o : Option α) : Keeps (nullable read) (encode o) o := by
  cases o with
  | none => exact ⟨.null, rfl⟩
  | some a =>
      refine ⟨(keeps a).exact, ?_⟩
      show nullable read (encode a) = _
      rw [nullable_of_ne (other a), (keeps a).read, Option.map_some]

theorem keeps_list [Encode α] {items : List α} (keeps : ∀ a ∈ items, Keeps read (encode a) a) :
    Keeps (list? read) (encode items) items := by
  constructor
  · refine .array fun value member => ?_
    obtain ⟨a, inside, rfl⟩ := List.mem_map.mp member
    exact (keeps a inside).exact
  · exact Lists.mapM_map fun a inside => (keeps a inside).read

theorem namedMembers?_named (members : List (String × Json)) :
    namedMembers? (named members) = some members :=
  Lists.mapM_map fun _ _ => rfl

theorem record?_record (fields : List Field) (members : List (String × Json)) :
    record? fields (record members) = Record.ofMembers? fields members := by
  show (namedMembers? (named members)).bind _ = _
  rw [namedMembers?_named, Option.bind_some]

end Json

namespace Record

variable {V : Type} {field : Field} {fields : List Field} {members : List (String × V)}

/-- What a field is given by members, unless more than one of them carries a name of it. -/
def single? (members : List (String × V)) (field : Field) : Option (List (String × V)) :=
  match written field members with
  | [] => some []
  | [value] => some [(field.name, value)]
  | _ => none

theorem written_append (field : Field) (members more : List (String × V)) :
    written field (members ++ more) = written field members ++ written field more := by
  rw [written, List.filter_append, List.map_append]
  rfl

theorem written_of_notMem (plain : field.aliases = [])
    (absent : field.name ∉ members.map Prod.fst) : written field members = [] := by
  rw [written, List.map_eq_nil_iff, List.filter_eq_nil_iff]
  intro member inside named
  rw [Field.isNamed, plain, List.contains_nil, Bool.or_false] at named
  exact absent (eq_of_beq named ▸ List.mem_map_of_mem inside)

theorem written_self (field : Field) (value : V) :
    written field [(field.name, value)] = [value] := by
  rw [written, List.filter_cons_of_pos (by rw [Field.isNamed, beq_self_eq_true, Bool.true_or])]
  rfl

/-- What the fields are given by members that carry some of their names, in their order; members
before them that carry other names make no difference. -/
theorem exists_mapM_single? {earlier : List (String × V)}
    (plain : ∀ field ∈ fields, field.aliases = [])
    (distinct : (fields.map Field.name).Nodup)
    (among : (members.map Prod.fst).Sublist (fields.map Field.name))
    (other : ∀ field ∈ fields, field.name ∉ earlier.map Prod.fst) :
    ∃ parts, fields.mapM (single? (earlier ++ members)) = some parts ∧
      parts.flatten = members := by
  induction fields generalizing members earlier with
  | nil =>
      obtain rfl : members = [] := by simpa using among
      exact ⟨[], rfl, rfl⟩
  | cons field fields inductionHypothesis =>
      obtain ⟨new, others⟩ := List.nodup_cons.mp distinct
      have own := plain field (by simp)
      have before := written_of_notMem own (other field (by simp))
      have plainRest : ∀ field ∈ fields, field.aliases = [] :=
        fun _ inside => plain _ (List.mem_cons_of_mem _ inside)
      have otherRest : ∀ field ∈ fields, field.name ∉ earlier.map Prod.fst :=
        fun _ inside => other _ (List.mem_cons_of_mem _ inside)
      rcases List.sublist_cons_iff.mp among with absent | ⟨names, same, rest⟩
      · have nothing := written_of_notMem own fun inside => new (absent.subset inside)
        obtain ⟨parts, read, whole⟩ := inductionHypothesis plainRest others absent otherRest
        refine ⟨[] :: parts, ?_, whole⟩
        rw [List.mapM_cons, read, single?, written_append, before, nothing]
        rfl
      · obtain ⟨⟨name, value⟩, members, rfl, rfl, rfl⟩ := List.map_eq_cons_iff.mp same
        have nothing := written_of_notMem own fun inside => new (rest.subset inside)
        have otherToo : ∀ later ∈ fields,
            later.name ∉ (earlier ++ [(field.name, value)]).map Prod.fst := by
          intro later inside again
          rw [List.map_append, List.mem_append] at again
          rcases again with old | own
          · exact otherRest later inside old
          · have same : later.name = field.name := List.mem_singleton.mp own
            exact new (same ▸ List.mem_map_of_mem inside)
        obtain ⟨parts, read, whole⟩ := inductionHypothesis plainRest others rest otherToo
        refine ⟨[(field.name, value)] :: parts, ?_, by rw [List.flatten_cons, whole]; rfl⟩
        rw [List.append_cons, List.mapM_cons, read, single?, written_append, written_append, before,
          written_self, nothing]
        rfl

theorem ofMembers?_of_sublist (plain : ∀ field ∈ fields, field.aliases = [])
    (distinct : (fields.map Field.name).Nodup)
    (among : (members.map Prod.fst).Sublist (fields.map Field.name)) :
    ofMembers? fields members = some ⟨members⟩ := by
  have nothing (field : Field) (_ : field ∈ fields) :
      field.name ∉ ([] : List (String × V)).map Prod.fst := List.not_mem_nil
  obtain ⟨parts, read, whole⟩ := exists_mapM_single? plain distinct among nothing
  show (fields.mapM (single? members)).map _ = _
  rw [List.nil_append] at read
  rw [read, Option.map_some, whole]

end Record

namespace SortedMap

variable {V : Type}

theorem insertEntry_of_above {key : String} {value : V} {entries : List (String × V)}
    (above : ∀ entry ∈ entries, entry.1 < key) :
    insertEntry key value entries = entries ++ [(key, value)] := by
  induction entries with
  | nil => rfl
  | cons entry entries inductionHypothesis =>
      have below := above entry (by simp)
      have others := inductionHypothesis fun other member => above other (by simp [member])
      rw [insertEntry, if_neg (fun less => String.lt_irrefl _ (String.lt_trans less below)),
        if_neg (fun same => String.lt_irrefl _ (same ▸ below)), others, List.cons_append]

theorem foldl_insert {more : List (String × V)} {m whole : SortedMap V}
    (parts : whole.entries = m.entries ++ more) :
    more.foldl (fun m entry => m.insert entry.1 entry.2) m = whole := by
  induction more generalizing m with
  | nil =>
      obtain ⟨entries, ascending⟩ := m
      obtain ⟨others, _⟩ := whole
      obtain rfl : others = entries := by simpa using parts
      rfl
  | cons entry more inductionHypothesis =>
      have inOrder := whole.ascending
      rw [parts] at inOrder
      have above := (List.pairwise_append.mp inOrder).2.2
      apply inductionHypothesis
      have inserted : (m.insert entry.1 entry.2).entries = m.entries ++ [entry] :=
        insertEntry_of_above fun other member => above other member entry (by simp)
      rw [parts, inserted, List.append_cons]

/-- A map is made of its entries. -/
theorem ofList_entries (m : SortedMap V) : ofList m.entries = m :=
  foldl_insert (List.nil_append _).symm

end SortedMap

namespace Json

variable {α : Type} {read : Json → Option α}

theorem keeps_map [Encode α] {m : SortedMap α}
    (keeps : ∀ entry ∈ m.entries, Keeps read (encode entry.2) entry.2) :
    Keeps (map? read) (encode m) m := by
  constructor
  · refine .record fun member inside => ?_
    obtain ⟨entry, among, rfl⟩ := List.mem_map.mp inside
    exact (keeps entry among).exact
  · have found : (m.entries.map fun entry => (entry.1, encode entry.2)).mapM
        (fun member => (read member.2).map fun value => (member.1, value)) = some m.entries := by
      refine Lists.mapM_map fun entry inside => ?_
      rw [(keeps entry inside).read, Option.map_some]
    show (namedMembers? (named _)).bind _ = _
    rw [namedMembers?_named, Option.bind_some, found, Option.bind_eq_bind, Option.bind_some,
      SortedMap.ofList_entries]

theorem encode_text_ne_null (s : String) : encode s ≠ Json.null := nofun

end Json

/-! ### What the fields are given -/

namespace Record

variable {V : Type} {fields : List Field} {members : List (String × V)}
  {parts : List (List (String × V))} {r : Record V}

theorem single?_eq_some_iff {field : Field} {part : List (String × V)} :
    single? members field = some part ↔
      (written field members).length ≤ 1 ∧
        part = (written field members).map fun value => (field.name, value) := by
  unfold single?
  split
  next same => simp [same, eq_comm]
  next value same => simp [same, eq_comm]
  next none single =>
    constructor
    · nofun
    · rintro ⟨few, -⟩
      cases inside : written field members with
      | nil => exact absurd inside none
      | cons value others =>
          rw [inside] at few
          obtain rfl : others = [] := by simpa using few
          exact absurd inside (single value)

theorem lookup_map_pair {values : List V} (few : values.length ≤ 1) (name other : String) :
    (values.map fun value => (name, value)).lookup other =
      if other = name then values.head? else none := by
  match values, few with
  | [], _ => simp
  | [value], _ =>
      by_cases same : other = name
      · simp [same]
      · simp [List.lookup_cons, beq_eq_false_iff_ne.mpr same, same]

theorem lookup_flatten_of_notMem {name : String}
    (made : fields.mapM (single? members) = some parts)
    (other : name ∉ fields.map Field.name) : parts.flatten.lookup name = none := by
  induction fields generalizing parts with
  | nil =>
      obtain rfl : [] = parts := by simpa using made
      rfl
  | cons field fields inductionHypothesis =>
      simp only [List.mapM_cons, Option.bind_eq_bind, Option.bind_eq_some_iff] at made
      obtain ⟨part, own, rest, others, same⟩ := made
      obtain rfl : part :: rest = parts := by simpa using same
      obtain ⟨unlike, absent⟩ := List.ne_and_not_mem_of_not_mem_cons other
      obtain ⟨few, rfl⟩ := single?_eq_some_iff.mp own
      rw [List.flatten_cons, List.lookup_append, inductionHypothesis others absent,
        lookup_map_pair few, if_neg unlike]
      rfl

theorem lookup_of_mem {entries : List (String × V)} (distinct : (entries.map Prod.fst).Nodup)
    {name : String} {value : V} (member : (name, value) ∈ entries) :
    entries.lookup name = some value := by
  induction entries with
  | nil => cases member
  | cons entry entries inductionHypothesis =>
      obtain ⟨new, others⟩ := List.nodup_cons.mp distinct
      rcases List.mem_cons.mp member with rfl | later
      · simp
      · obtain ⟨key, first⟩ := entry
        have unlike : name ≠ key := fun same => new (same ▸ List.mem_map_of_mem later : key ∈ _)
        rw [List.lookup_cons, beq_eq_false_iff_ne.mpr unlike]
        exact inductionHypothesis others later

/-- A field has what was written under its names, and that is one value at most. -/
theorem toList_value? (distinct : (fields.map Field.name).Nodup)
    (read : ofMembers? fields members = some r) {field : Field} (inside : field ∈ fields) :
    written field members = (r.value? field.name).toList := by
  obtain ⟨parts, made, rfl⟩ :
      ∃ parts, fields.mapM (single? members) = some parts ∧ ⟨parts.flatten⟩ = r :=
    Option.map_eq_some_iff.mp read
  clear read
  unfold value?
  induction fields generalizing parts with
  | nil => cases inside
  | cons first fields inductionHypothesis =>
      simp only [List.mapM_cons, Option.bind_eq_bind, Option.bind_eq_some_iff] at made
      obtain ⟨part, own, rest, others, same⟩ := made
      obtain rfl : part :: rest = parts := by simpa using same
      obtain ⟨few, rfl⟩ := single?_eq_some_iff.mp own
      obtain ⟨new, distinct⟩ := List.nodup_cons.mp distinct
      dsimp only
      rw [List.flatten_cons, List.lookup_append, lookup_map_pair few]
      rcases List.mem_cons.mp inside with rfl | later
      · rw [lookup_flatten_of_notMem others new, if_pos rfl, Option.or_none]
        match written field members, few with
        | [], _ => rfl
        | [value], _ => rfl
      · have unlike : field.name ≠ first.name := by
          intro same
          exact new (same ▸ List.mem_map_of_mem later)
        rw [if_neg unlike, Option.none_or]
        exact inductionHypothesis distinct later rest others

theorem exists_ofMembers? (few : ∀ field ∈ fields, (written field members).length ≤ 1) :
    ∃ r, ofMembers? fields members = some r := by
  obtain ⟨parts, made⟩ : ∃ parts, fields.mapM (single? members) = some parts := by
    induction fields with
    | nil => exact ⟨[], rfl⟩
    | cons field fields inductionHypothesis =>
        obtain ⟨parts, made⟩ := inductionHypothesis fun other inside => few other (by simp [inside])
        have own := single?_eq_some_iff.mpr ⟨few field (by simp), rfl⟩
        exact ⟨_ :: parts, by rw [List.mapM_cons, own, made]; rfl⟩
  refine ⟨⟨parts.flatten⟩, ?_⟩
  show (fields.mapM (single? members)).map _ = _
  rw [made, Option.map_some]

/-- A field has the item in its place. -/
theorem value?_of_ofItems? {items : List V} (distinct : (fields.map Field.name).Nodup)
    (made : ofItems? fields items = some r) (i : Nat) (inside : i < fields.length) :
    r.value? fields[i].name = items[i]? := by
  unfold ofItems? at made
  split at made
  next few =>
    obtain rfl := Option.some.inj made
    unfold value?
    clear made
    induction fields generalizing items i with
    | nil => cases inside
    | cons field fields inductionHypothesis =>
        obtain ⟨new, distinct⟩ := List.nodup_cons.mp distinct
        cases items with
        | nil => rfl
        | cons item items =>
            cases i with
            | zero => simp
            | succ i =>
                have later : i < fields.length := by simpa using inside
                have unlike : fields[i].name ≠ field.name := fun same =>
                  new (same ▸ List.mem_map_of_mem (List.getElem_mem later))
                have own := inductionHypothesis distinct i later (Nat.le_of_succ_le_succ few)
                simpa [List.lookup_cons, beq_eq_false_iff_ne.mpr unlike] using own
  next => cases made

end Record

namespace Json

variable {fields : List Field} {given : String → Option Json} {value : Json}

/-- The value gives `given` to the fields of a record: by members of their names, in any order and
among others, each field once at most; or by items in their places, where the last ones may be
missing. -/
inductive Fills (fields : List Field) (given : String → Option Json) : Json → Prop where
  | members {members : List (String × Json)} :
      (∀ field ∈ fields, Record.written field members = (given field.name).toList) →
      Fills fields given (record members)
  | items {items : List Json} :
      items.length ≤ fields.length →
      (∀ (i : Nat) (inside : i < fields.length), given fields[i].name = items[i]?) →
      Fills fields given (.array items)

/-- Members of the fields, in whatever order and among whatever others, give the fields their
values. -/
theorem fills_of_perm {own extra members : List (String × Json)}
    (plain : ∀ field ∈ fields, field.aliases = []) (distinct : (fields.map Field.name).Nodup)
    (among : (own.map Prod.fst).Sublist (fields.map Field.name))
    (unknown : ∀ member ∈ extra, member.1 ∉ fields.map Field.name)
    (order : members.Perm (own ++ extra)) :
    Fills fields (fun name => own.lookup name) (record members) := by
  refine .members fun field inside => ?_
  have whole : (Record.written field members).Perm
      (Record.written field own ++ Record.written field extra) := by
    rw [← Record.written_append]
    exact (order.filter _).map _
  have nothing : Record.written field extra = [] := by
    refine Record.written_of_notMem (plain field inside) fun again => ?_
    obtain ⟨member, among, same⟩ := List.mem_map.mp again
    exact unknown member among (same ▸ List.mem_map_of_mem inside)
  have given := Record.toList_value? distinct
    (Record.ofMembers?_of_sublist plain distinct among) inside
  rw [nothing, List.append_nil, given] at whole
  cases found : own.lookup field.name with
  | none =>
      have found : Record.value? ⟨own⟩ field.name = none := found
      rw [found] at whole
      exact whole.eq_nil
  | some value =>
      have found : Record.value? ⟨own⟩ field.name = some value := found
      rw [found] at whole
      exact whole.eq_singleton

theorem eq_named_of_namedMembers? {members : List (Option String × Json)}
    {found : List (String × Json)} (read : namedMembers? members = some found) :
    members = named found := by
  induction members generalizing found with
  | nil =>
      obtain rfl : [] = found := by simpa [namedMembers?] using read
      rfl
  | cons member members inductionHypothesis =>
      simp only [namedMembers?, List.mapM_cons, Option.bind_eq_bind, Option.bind_eq_some_iff,
        Option.map_eq_some_iff] at read
      obtain ⟨_, ⟨key, isKey, rfl⟩, rest, others, same⟩ := read
      obtain rfl : (key, member.2) :: rest = found := by simpa using same
      rw [named, List.map_cons, ← named, ← inductionHypothesis others, ← isKey]

/-- What is read as a record gives its fields what the record has for them. -/
theorem fills_of_record? (distinct : (fields.map Field.name).Nodup) {r : Record Json}
    (read : record? fields value = some r) : Fills fields r.value? value := by
  cases value with
  | object members =>
      obtain ⟨found, names, made⟩ := Option.bind_eq_some_iff.mp read
      rw [eq_named_of_namedMembers? names]
      exact .members fun field inside => Record.toList_value? distinct made inside
  | array items =>
      have few : items.length ≤ fields.length := by
        simp only [record?, Record.ofItems?] at read
        split at read
        next few => exact few
        next => cases read
      exact .items few (Record.value?_of_ofItems? distinct read)
  | _ => cases read

/-- What gives the fields of a record their values is read as a record of them. -/
theorem Fills.exists_record (distinct : (fields.map Field.name).Nodup)
    (fills : Fills fields given value) :
    ∃ r, record? fields value = some r ∧
      ∀ field ∈ fields, r.value? field.name = given field.name := by
  cases fills with
  | @members members written =>
      have few : ∀ field ∈ fields, (Record.written field members).length ≤ 1 := by
        intro field inside
        rw [written field inside]
        exact Option.length_toList_le
      obtain ⟨r, made⟩ := Record.exists_ofMembers? few
      refine ⟨r, by rw [record?_record, made], fun field inside => ?_⟩
      have own := Record.toList_value? distinct made inside
      rw [written field inside] at own
      cases found : r.value? field.name <;> cases same : given field.name <;>
        simp_all
  | @items items few placed =>
      have made : Record.ofItems? fields items = some _ := if_pos few
      refine ⟨_, made, fun field inside => ?_⟩
      obtain ⟨i, among, rfl⟩ := List.getElem_of_mem inside
      rw [Record.value?_of_ofItems? distinct made i among, placed i among]

theorem exists_fills_record (distinct : (fields.map Field.name).Nodup)
    {members : List (String × Json)}
    (few : ∀ field ∈ fields, (Record.written field members).length ≤ 1) :
    ∃ given, Fills fields given (record members) ∧
      ∀ field ∈ fields, Record.written field members = (given field.name).toList := by
  obtain ⟨r, made⟩ := Record.exists_ofMembers? few
  have given (field : Field) (inside : field ∈ fields) :=
    Record.toList_value? distinct made inside
  exact ⟨r.value?, .members given, given⟩

theorem Fills.exists_named {members : List (Option String × Json)}
    (fills : Fills fields given (.object members)) :
    ∃ found, members = named found ∧
      ∀ field ∈ fields, Record.written field found = (given field.name).toList := by
  generalize same : Json.object members = value at fills
  cases fills with
  | @members found written => exact ⟨found, Json.object.inj same, written⟩
  | items => cases same

/-- What an optional field is given says that it is left out, or says a value. -/
inductive Means {α : Type} (read : Json → Option α) : Option Json → Option α → Prop where
  | absent : Means read none none
  | null : Means read (some .null) none
  | value {value : Json} {a : α} : read value = some a → Means read (some value) (some a)

/-- What a field with a value for when it is left out is given says a value. -/
inductive MeansOr {α : Type} (default : α) (read : Json → Option α) : Option Json → α → Prop where
  | absent : MeansOr default read none default
  | value {value : Json} {a : α} : read value = some a → MeansOr default read (some value) a

end Json

namespace Record

variable {α : Type} {r : Record Json} {name : String} {read : Json → Option α}

theorem withDefault_eq_some_iff {default a : α} :
    r.withDefault name default read = some a ↔ Json.MeansOr default read (r.value? name) a := by
  unfold withDefault
  cases r.value? name with
  | none =>
      constructor
      · intro same
        exact Option.some.inj same ▸ .absent
      · rintro ⟨⟩
        rfl
  | some value =>
      constructor
      · exact .value
      · rintro (_ | own)
        exact own

theorem optional_eq_some_iff (blank : read .null = none) {o : Option α} :
    r.optional name read = some o ↔ Json.Means read (r.value? name) o := by
  unfold optional withDefault
  cases r.value? name with
  | none =>
      constructor
      · intro same
        exact Option.some.inj same ▸ .absent
      · rintro ⟨⟩
        rfl
  | some value =>
      constructor
      · intro same
        by_cases null : value = .null
        · subst null
          exact Option.some.inj same ▸ .null
        · obtain ⟨a, own, rfl⟩ := Option.map_eq_some_iff.mp
            ((Json.nullable_of_ne null).symm.trans same)
          exact .value own
      · rintro (_ | _ | own)
        next => rfl
        next =>
          have filled : value ≠ .null := by
            rintro rfl
            cases blank.symm.trans own
          show Json.nullable read value = _
          rw [Json.nullable_of_ne filled, own, Option.map_some]

end Record

end TokenAcquisition
