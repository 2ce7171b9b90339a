import TokenAcquisition.Proofs.Lists
import TokenAcquisition.Proofs.Url.Web
import TokenAcquisition.Url.Host

/-!
Hosts of web URLs.  Whatever text a host is read from, it holds nothing that ends or divides a
host in a URL, so that the parts of a URL around it stay apart when another host is put in.
-/

namespace TokenAcquisition

theorem Text.mem_toDigits {n : Nat} {c : Char} (member : c ∈ Nat.toDigits 16 n) :
    (Text.hexValue? c.toNat).isSome = true := by
  have single : ∀ d < 16, (Text.hexValue? (Nat.digitChar d).toNat).isSome = true := by decide
  induction n using Nat.strongRecOn with
  | ind n inductionHypothesis =>
      by_cases small : n < 16
      · rw [Nat.toDigits_of_lt_base small] at member
        exact List.mem_singleton.mp member ▸ single n small
      · rw [Nat.toDigits_of_base_le (by decide) (by omega)] at member
        rcases List.mem_append.mp member with first | last
        · exact inductionHypothesis (n / 16) (by omega) first
        · exact List.mem_singleton.mp last ▸ single _ (Nat.mod_lt n (by decide))

namespace Url

/-- A host that stands apart from what is around it in a URL: nothing in it ends an authority or
the credentials before it, and a colon is between brackets. -/
structure IsApart (host : String) : Prop where
  filled : host ≠ ""
  undivided : ∀ c ∈ host.toList, c ∉ ['/', '\\', '?', '#', '@']
  enclosed : ':' ∈ host.toList → host.toList.head? = some '[' ∧ host.toList.getLast? = some ']'

variable {text : List Char} {host : String} {c : Char}

/-! ### Addresses -/

/-- A version 6 address is written in digits and colons. -/
theorem mem_renderIpv6 {pieces : List Nat} (member : c ∈ (renderIpv6 pieces).toList) :
    c = ':' ∨ (Text.hexValue? c.toNat).isSome = true := by
  have joined (pieces : List Nat)
      (member : c ∈ (":".intercalate
        (pieces.map fun n => String.ofList (Nat.toDigits 16 n))).toList) :
      c = ':' ∨ (Text.hexValue? c.toNat).isSome = true := by
    rw [String.toList_intercalate] at member
    rcases Lists.mem_intercalate member with colon | ⟨part, among, inside⟩
    · exact .inl (List.mem_singleton.mp colon)
    · obtain ⟨_, written, rfl⟩ := List.mem_map.mp among
      obtain ⟨n, -, rfl⟩ := List.mem_map.mp written
      rw [String.toList_ofList] at inside
      exact .inr (Text.mem_toDigits inside)
  unfold renderIpv6 at member
  dsimp only at member
  split at member
  next =>
    simp only [String.toList_append, List.mem_append] at member
    rcases member with (before | gap) | after
    · exact joined _ before
    · exact .inl (by simpa using gap)
    · exact joined _ after
  next => exact joined _ member

theorem mem_renderIpv4 {address : Nat} (member : c ∈ (renderIpv4 address).toList) :
    c = '.' ∨ c.isDigit = true := by
  rw [renderIpv4, String.toList_intercalate] at member
  rcases Lists.mem_intercalate member with dot | ⟨part, among, inside⟩
  · exact .inl (List.mem_singleton.mp dot)
  · obtain ⟨_, written, rfl⟩ := List.mem_map.mp among
    obtain ⟨place, -, rfl⟩ := List.mem_map.mp written
    rw [Nat.toString_eq_ofList_toDigits, String.toList_ofList] at inside
    exact .inr (Nat.isDigit_of_mem_toDigits (by decide) (by decide) inside)

theorem isApart_of_plain (filled : host ≠ "")
    (plain : ∀ c ∈ host.toList, DomainName.isForbidden c = false) : IsApart host where
  filled := filled
  undivided c member among := by
    have allowed := plain c member
    have forbidden : ∀ c ∈ ['/', '\\', '?', '#', '@'], DomainName.isForbidden c = true :=
      List.all_iff_forall_prop.mp (by decide)
    rw [forbidden c among] at allowed
    cases allowed
  enclosed colon := by cases plain ':' colon

theorem isApart_renderIpv6 (pieces : List Nat) : IsApart ("[" ++ renderIpv6 pieces ++ "]") where
  filled := by simp
  undivided c member among := by
    have marks : ∀ c ∈ ['/', '\\', '?', '#', '@'],
        c ≠ '[' ∧ c ≠ ']' ∧ c ≠ ':' ∧ (Text.hexValue? c.toNat).isSome = false :=
      List.all_iff_forall_prop.mp (by decide)
    obtain ⟨opening, closing, colon, digit⟩ := marks c among
    simp only [String.toList_append, List.mem_append] at member
    rcases member with (first | inside) | last
    · exact opening (by simpa using first)
    · rcases mem_renderIpv6 inside with same | hex
      · exact colon same
      · rw [digit] at hex
        cases hex
    · exact closing (by simpa using last)
  enclosed _ := by
    rw [String.toList_append, String.toList_append]
    exact ⟨rfl, List.getLast?_concat⟩

/-! ### Names -/

namespace DomainName

/-- Which ASCII characters no name has can be looked up. -/
theorem isForbidden_eq_false {p : Char → Bool}
    (every : ∀ n : Fin 128, p (Char.ofNat n) = true → isForbidden (Char.ofNat n) = false)
    (ascii : c.toNat < 128) (own : p c = true) : isForbidden c = false := by
  have answer := every ⟨c.toNat, ascii⟩
  rw [Char.ofNat_toNat] at answer
  exact answer own

theorem isForbidden_of_isDigit (digit : c.isDigit = true) : isForbidden c = false := by
  have ascii : c.toNat < 128 := by
    simp only [Char.isDigit, Bool.and_eq_true, decide_eq_true_eq, ge_iff_le,
      UInt32.le_iff_toNat_le] at digit
    exact Nat.lt_of_le_of_lt digit.2 (by decide)
  exact isForbidden_eq_false (p := Char.isDigit) (by decide) ascii digit

theorem isForbidden_of_digitValue? (digit : (Text.Punycode.digitValue? c).isSome = true) :
    isForbidden c = false := by
  have ascii : c.toNat < 128 := by
    unfold Text.Punycode.digitValue? at digit
    dsimp only at digit
    repeat' split at digit
    all_goals first | omega | cases digit
  exact isForbidden_eq_false (p := fun c => (Text.Punycode.digitValue? c).isSome)
    (by decide) ascii digit

theorem isForbidden_digitChar {digit : Nat} (small : digit < 36) :
    isForbidden (Text.Punycode.digitChar digit) = false := by
  have every : ∀ digit < 36, isForbidden (Text.Punycode.digitChar digit) = false := by decide
  exact every digit small

theorem guard_bind_eq_some_iff {α : Type} {p : Prop} [Decidable p] {next : Unit → Option α}
    {a : α} : (guard p >>= next) = some a ↔ p ∧ next () = some a := by
  by_cases holds : p
  · rw [guard, if_pos holds]
    exact ⟨fun made => ⟨holds, made⟩, And.right⟩
  · rw [guard, if_neg holds]
    exact ⟨nofun, fun both => absurd both.1 holds⟩

variable {letters : List Char} {label : Label}

theorem Label.allowed_of_isWellFormed (wellFormed : isWellFormed letters = true) :
    ∀ c ∈ letters, isForbidden c = false := by
  simp only [isWellFormed, Bool.and_eq_true, Bool.not_eq_true', List.any_eq_false] at wellFormed
  exact fun c member => Bool.eq_false_iff.mpr (wellFormed.1.1 c member)

theorem Label.allowed_codeMark : ∀ c ∈ codeMark, isForbidden c = false :=
  List.all_iff_forall_prop.mp (by decide)

/-- A code that is read as letters without forbidden characters has none itself. -/
theorem Label.allowed_of_ofCode? (marked : codeMark.isPrefixOf letters = true)
    (made : ofCode? letters = some label) : ∀ c ∈ label.ascii, isForbidden c = false := by
  unfold ofCode? at made
  obtain ⟨-, made⟩ := guard_bind_eq_some_iff.mp made
  obtain ⟨spelled, read, made⟩ := Option.bind_eq_some_iff.mp made
  obtain ⟨_, made⟩ := guard_bind_eq_some_iff.mp made
  obtain ⟨holds, made⟩ := guard_bind_eq_some_iff.mp made
  have wellFormed := (Bool.and_eq_true_iff.mp holds).2
  obtain rfl := Option.some.inj made
  obtain ⟨code, rfl⟩ := List.isPrefixOf_iff_prefix.mp marked
  rw [List.drop_left] at read
  intro c member
  rcases List.mem_append.mp member with mark | inside
  · exact allowed_codeMark c mark
  · rcases Text.Punycode.mem_of_decode? read inside with letter | rfl | digit
    · exact allowed_of_isWellFormed wellFormed c letter
    · decide
    · exact isForbidden_of_digitValue? digit

theorem Label.allowed_of_ofLetters? (made : ofLetters? letters = some label) :
    ∀ c ∈ label.ascii, isForbidden c = false := by
  by_cases marked : codeMark.isPrefixOf letters = true
  · rw [ofLetters?, if_pos marked] at made
    exact allowed_of_ofCode? marked made
  · rw [ofLetters?, if_neg marked] at made
    obtain ⟨wellFormed, made⟩ := guard_bind_eq_some_iff.mp made
    have allowed := allowed_of_isWellFormed wellFormed
    by_cases ascii : letters.all Text.isAscii = true
    · rw [if_pos ascii] at made
      obtain rfl := Option.some.inj made
      exact allowed
    · rw [if_neg ascii] at made
      obtain ⟨-, made⟩ := guard_bind_eq_some_iff.mp made
      obtain rfl := Option.some.inj made
      intro c member
      rcases List.mem_append.mp member with mark | inside
      · exact allowed_codeMark c mark
      · rcases Text.Punycode.mem_encode inside with letter | rfl | ⟨digit, small, rfl⟩
        · exact allowed c letter
        · decide
        · exact isForbidden_digitChar small

/-- The ASCII form of a name has none of the characters that no name has. -/
theorem allowed_of_toAscii? {bytes : List UInt8} {name : String}
    (made : toAscii? bytes = some name) : ∀ c ∈ name.toList, isForbidden c = false := by
  unfold toAscii? at made
  obtain ⟨text, -, made⟩ := Option.bind_eq_some_iff.mp made
  dsimp only at made
  split at made
  next =>
    split at made
    next => cases made
    next allowed =>
      obtain rfl := Option.some.inj made
      simpa using allowed
  next =>
    obtain ⟨labels, read, made⟩ := Option.bind_eq_some_iff.mp made
    obtain rfl := Option.some.inj made
    rw [String.toList_ofList]
    intro c member
    rcases Lists.mem_intercalate member with dot | ⟨part, among, inside⟩
    · rw [List.mem_singleton.mp dot]
      decide
    · obtain ⟨label, own, rfl⟩ := List.mem_map.mp among
      unfold labels? at read
      obtain ⟨mapped, -, read⟩ := Option.bind_eq_some_iff.mp read
      obtain ⟨found, each, read⟩ := Option.bind_eq_some_iff.mp read
      dsimp only at read
      rw [guard_bind_eq_some_iff] at read
      obtain rfl := Option.some.inj read.2
      obtain ⟨letters, -, made⟩ := Lists.mem_of_mapM each own
      exact Label.allowed_of_ofLetters? made c inside

end DomainName

theorem isApart_renderIpv4 (address : Nat) : IsApart (renderIpv4 address) := by
  refine isApart_of_plain ?_ fun c member => ?_
  · simp [renderIpv4, String.intercalate_cons_cons]
  · rcases mem_renderIpv4 member with rfl | digit
    · decide
    · exact DomainName.isForbidden_of_isDigit digit

/-- Every host of a web URL stands apart. -/
theorem isApart_of_specialHost (made : specialHost text = .ok host) : IsApart host := by
  unfold specialHost at made
  split at made
  next answer own =>
    unfold bracketed? at own
    split at own
    next =>
      obtain rfl := Option.some.inj own
      split at made
      next =>
        split at made
        next pieces _ =>
          obtain rfl := Except.ok.inj made
          exact isApart_renderIpv6 pieces
        next => cases made
      next => cases made
    next => cases own
  next =>
    split at made
    next => cases made
    next name read =>
      split at made
      next => cases made
      next filled =>
        split at made
        next =>
          split at made
          next address _ =>
            obtain rfl := Except.ok.inj made
            exact isApart_renderIpv4 address
          next => cases made
        next =>
          obtain rfl := Except.ok.inj made
          exact isApart_of_plain (by simpa [String.isEmpty_iff] using filled)
            (DomainName.allowed_of_toAscii? read)


/-! ### Another host -/

variable {url moved : Url} {name : String} {authority : Authority}

/-- A URL with another host in place of its own.  Every other component is what it was, and so is
the text around the host, which the new one stands apart from. -/
structure IsRehosted (url moved : Url) (host : String) : Prop where
  components : ∃ authority, url.authority = some authority ∧
    moved = { url with authority := some { authority with host } }
  text : ∃ before after, url.render = before ++ url.host ++ after ∧
    moved.render = before ++ host ++ after
  isApart : IsApart host

theorem Authority.exists_render (authority : Authority) :
    ∃ behind, ∀ host, Authority.render { authority with host } =
      authority.renderUserinfo ++ host ++ behind := by
  obtain ⟨username, password, _, _ | port⟩ := authority
  · exact ⟨"", fun _ => rfl⟩
  · exact ⟨":" ++ toString port, fun _ => rfl⟩

theorem exists_render (url : Url) :
    ∃ query fragment, ∀ authority, Url.render { url with authority := some authority } =
      url.scheme ++ ":" ++ ("//" ++ authority.render) ++ url.path ++ query ++ fragment := by
  obtain ⟨scheme, _, path, _ | query, _ | fragment⟩ := url
  · exact ⟨"", "", fun _ => rfl⟩
  · exact ⟨"", "#" ++ fragment, fun _ => rfl⟩
  · exact ⟨"?" ++ query, "", fun _ => rfl⟩
  · exact ⟨"?" ++ query, "#" ++ fragment, fun _ => rfl⟩

theorem exists_render_host (url : Url) (authority : Authority) :
    ∃ before after, ∀ host,
      Url.render { url with authority := some { authority with host } } =
        before ++ host ++ after := by
  obtain ⟨query, fragment, whole⟩ := url.exists_render
  obtain ⟨behind, own⟩ := authority.exists_render
  refine ⟨url.scheme ++ ":" ++ "//" ++ authority.renderUserinfo,
    behind ++ url.path ++ query ++ fragment, fun host => ?_⟩
  rw [whole, own]
  simp only [String.append_assoc]

theorem isRehosted (located : url.authority = some authority) (isApart : IsApart host) :
    url.IsRehosted { url with authority := some { authority with host } } host where
  components := ⟨authority, located, rfl⟩
  text := by
    obtain ⟨before, after, written⟩ := url.exists_render_host authority
    refine ⟨before, after, ?_, written host⟩
    have own := written authority.host
    rw [Url.host, located, Option.map_some, Option.getD_some, ← own, ← located]
  isApart := isApart

/-- A host that is read from nothing is none. -/
theorem specialHost_nil : specialHost [] = .error .emptyHost := by
  decide +kernel

/-- What a URL of the web becomes when it is given another host by name. -/
theorem IsWeb.withHost (isWeb : url.IsWeb)
    (made : specialHost (beforePort name.toList) = .ok host) :
    ∃ moved, url.withHost name = .ok moved ∧ url.IsRehosted moved host := by
  obtain ⟨authority, located⟩ := isWeb.located
  have named : beforePort name.toList ≠ [] := by
    intro none
    rw [none, specialHost_nil] at made
    cases made
  have filled : name.toList ≠ [] := by
    intro none
    rw [none] at named
    exact named rfl
  refine ⟨_, ?_, isRehosted located (isApart_of_specialHost made)⟩
  unfold Url.withHost
  simp [isWeb.hasPathText, isWeb.kind, named, filled, Kind.host, Kind.isSpecial, made, located]

/-- A URL of the web is given no host by a name from which none is read. -/
theorem IsWeb.withHost_of_error (isWeb : url.IsWeb) {fault : Fault}
    (failed : specialHost (beforePort name.toList) = .error fault) :
    ∃ fault, url.withHost name = .error fault := by
  simp only [Url.withHost, isWeb.hasPathText, isWeb.kind, Kind.host, Kind.isSpecial, bne_iff_ne,
    ne_eq, reduceCtorEq, not_false_eq_true, if_true, failed]
  repeat' split
  all_goals exact ⟨_, rfl⟩

end Url

end TokenAcquisition
