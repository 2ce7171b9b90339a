import TokenAcquisition.Failure
import TokenAcquisition.Proofs.Text.LetterCase
import TokenAcquisition.Proofs.Url.Web

/-!
The case of letters in a URL of the web.  Texts that differ in it alone point to the same host: it
is read in small letters, whether it is written as it is, with percent signs, in Punycode or as an
address.
-/

namespace TokenAcquisition.Url

open Text

variable {cs : List Char} {separator : Char}

/-! ### Addresses -/

theorem ignoresCase_hexValue? : IgnoresCase fun c => hexValue? c.toNat :=
  ignoresCase_of_letters (by decide)

theorem splitAt_ne_nil (separator : Char) (cs : List Char) : splitAt separator cs ≠ [] := by
  cases cs with
  | nil => exact List.cons_ne_nil [] []
  | cons c rest =>
      rw [splitAt]
      split
      · exact List.cons_ne_nil _ _
      · split <;> exact List.cons_ne_nil _ _

theorem splitAt_map_toLower (sign : separator.isAlpha = false) (cs : List Char) :
    splitAt separator (cs.map Char.toLower) =
      (splitAt separator cs).map (List.map Char.toLower) := by
  induction cs with
  | nil => rfl
  | cons c rest inductionHypothesis =>
      rw [List.map_cons, splitAt, splitAt]
      simp only [toLower_eq_iff sign, inductionHypothesis]
      split
      · rfl
      · cases parts : splitAt separator rest with
        | nil => exact absurd parts (splitAt_ne_nil separator rest)
        | cons first others => rfl

/-- Parts that are read without regard to case are so in a text of several. -/
theorem mapM_splitAt_map_toLower {α : Type} {read : List Char → Option α}
    (ignores : ∀ part, read (part.map Char.toLower) = read part)
    (sign : separator.isAlpha = false) (cs : List Char) :
    (splitAt separator (cs.map Char.toLower)).mapM read = (splitAt separator cs).mapM read := by
  rw [splitAt_map_toLower sign, List.mapM_map]
  exact congrArg (List.mapM · _) (funext ignores)

theorem digitsValue?_map_toLower (base : Nat) (digits : List Char) :
    digitsValue? base (digits.map Char.toLower) = digitsValue? base digits := by
  rw [digitsValue?, digitsValue?, List.foldl_map]
  simp only [ignoresCase_hexValue? _]

theorem ipv6Piece?_map_toLower (digits : List Char) :
    ipv6Piece? (digits.map Char.toLower) = ipv6Piece? digits := by
  simp only [ipv6Piece?, List.isEmpty_map, List.length_map, digitsValue?_map_toLower]

theorem ipv6Byte?_map_toLower (digits : List Char) :
    ipv6Byte? (digits.map Char.toLower) = ipv6Byte? digits := by
  by_cases zero : ∃ d rest, digits = '0' :: d :: rest
  · obtain ⟨d, rest, rfl⟩ := zero
    rfl
  · cases digits with
    | nil => rfl
    | cons c rest =>
        rw [ipv6Byte?, ipv6Byte?, digitsValue?_map_toLower, List.length_map]
        · exact nofun
        · exact fun d rest same => zero ⟨d, rest, same⟩
        · exact nofun
        · intro d others same
          obtain ⟨first, rest'⟩ := List.cons.inj same
          obtain ⟨e, others', rfl, -⟩ := List.map_eq_cons_iff.mp rest'
          exact zero ⟨e, others', by rw [(toLower_eq_iff (by decide)).mp first]⟩

theorem ipv6Tail?_map_toLower (text : List Char) :
    ipv6Tail? (text.map Char.toLower) = ipv6Tail? text := by
  rw [ipv6Tail?, ipv6Tail?, mapM_splitAt_map_toLower ipv6Byte?_map_toLower (by decide)]

theorem ipv6Pieces?_map_toLower (isLast : Bool) (text : List Char) :
    ipv6Pieces? isLast (text.map Char.toLower) = ipv6Pieces? isLast text := by
  have dot : Char.isAlpha '.' = false := by decide
  have pieces (groups : List (List Char)) :
      (groups.map (List.map Char.toLower)).mapM ipv6Piece? = groups.mapM ipv6Piece? := by
    rw [List.mapM_map]
    exact congrArg (List.mapM · _) (funext ipv6Piece?_map_toLower)
  rw [ipv6Pieces?, ipv6Pieces?, List.isEmpty_map, splitAt_map_toLower (by decide)]
  simp only [List.getLast?_map]
  cases (splitAt ':' text).getLast? with
  | none => rfl
  | some last =>
      simp only [Option.map_some, contains_map_toLower dot, ← List.map_dropLast, pieces,
        ipv6Tail?_map_toLower]

theorem splitGap?_map_toLower (text : List Char) :
    splitGap? (text.map Char.toLower) =
      (splitGap? text).map (Prod.map (List.map Char.toLower) (List.map Char.toLower)) := by
  have colon (c : Char) : c.toLower = ':' ↔ c = ':' := toLower_eq_iff (by decide)
  induction text using splitGap?.induct with
  | case1 rest => rfl
  | case2 c rest apart inductionHypothesis =>
      rw [splitGap?.eq_2 c rest apart, List.map_cons, splitGap?.eq_2, inductionHypothesis]
      · cases splitGap? rest <;> rfl
      · intro others first second
        obtain ⟨d, rest, rfl, same, rfl⟩ := List.map_eq_cons_iff.mp second
        exact apart rest ((colon c).mp first) (by rw [(colon d).mp same])
  | case3 => rfl

theorem ipv6?_map_toLower (text : List Char) : ipv6? (text.map Char.toLower) = ipv6? text := by
  rw [ipv6?, ipv6?, splitGap?_map_toLower]
  cases splitGap? text with
  | none => simp only [Option.map_none, List.isEmpty_map, ipv6Pieces?_map_toLower]
  | some parts =>
      obtain ⟨before, after⟩ := parts
      simp only [Option.map_some, Prod.map_apply, ipv6Pieces?_map_toLower]

theorem bracketed?_of_ne {c : Char} (unopened : c ≠ '[') (rest : List Char) :
    bracketed? (c :: rest) = none := by
  unfold bracketed?
  split
  next same => exact absurd (List.cons.inj same).1 unopened
  next => rfl

theorem bracketed?_map_toLower (text : List Char) :
    bracketed? (text.map Char.toLower) = bracketed? text := by
  cases text with
  | nil => rfl
  | cons c rest =>
      by_cases opening : c = '['
      · subst opening
        have closing : (rest.map Char.toLower).getLast? = some ']' ↔ rest.getLast? = some ']' := by
          rw [List.getLast?_map, map_toLower_eq_some_iff (by decide)]
        show some _ = some _
        simp only [closing, ← List.map_dropLast, ipv6?_map_toLower]
      · have others : c.toLower ≠ '[' := fun same => opening ((toLower_eq_iff (by decide)).mp same)
        rw [List.map_cons, bracketed?_of_ne others, bracketed?_of_ne opening]

/-! ### Names -/

theorem map_lowerByte_percentDecode (bytes : List UInt8) :
    (percentDecode (bytes.map lowerByte)).map lowerByte =
      (percentDecode bytes).map lowerByte := by
  have digit (b : UInt8) : hexValue? (lowerByte b).toNat = hexValue? b.toNat := by
    have every : ∀ n < 256, hexValue? (lowerByte (UInt8.ofNat n)).toNat =
        hexValue? (UInt8.ofNat n).toNat := by decide +kernel
    simpa using every b.toNat b.toNat_lt
  have percent (b : UInt8) : lowerByte b = 37 ↔ b = 37 := by
    have every : ∀ n < 256, lowerByte (UInt8.ofNat n) = 37 ↔ UInt8.ofNat n = 37 := by
      decide +kernel
    simpa using every b.toNat b.toNat_lt
  induction bytes using percentDecode.induct with
  | case1 a b rest x y second first inductionHypothesis =>
      rw [List.map_cons, List.map_cons, List.map_cons, (percent 37).mpr rfl, percentDecode,
        percentDecode, digit, digit, first, second]
      simp only [List.map_cons, inductionHypothesis]
  | case2 a b rest undigital inductionHypothesis =>
      have kept {a b : UInt8} {rest : List UInt8} (undigital : ∀ x y,
          hexValue? a.toNat = some x → hexValue? b.toNat = some y → False) :
          percentDecode (37 :: a :: b :: rest) = 37 :: percentDecode (a :: b :: rest) := by
        rw [percentDecode]
        split
        next x y first second => exact (undigital x y first second).elim
        next => rfl
      rw [kept undigital, List.map_cons, List.map_cons, List.map_cons, (percent 37).mpr rfl, kept]
      · simpa using inductionHypothesis
      · simpa only [digit] using undigital
  | case3 b rest plain inductionHypothesis =>
      rw [List.map_cons, percentDecode.eq_2 b rest plain, percentDecode.eq_2]
      · rw [List.map_cons, List.map_cons, inductionHypothesis, lowerByte_lowerByte]
      · intro first second others same after
        obtain ⟨a, rest', rfl, -, more⟩ := List.map_eq_cons_iff.mp after
        obtain ⟨d, rest, rfl, -, -⟩ := List.map_eq_cons_iff.mp more
        exact plain a d rest ((percent b).mp same) rfl
  | case4 => rfl

/-- A domain name is read from the text of its bytes in small letters. -/
theorem toAscii?_eq_of_map_lowerByte {first second : List UInt8}
    (same : first.map lowerByte = second.map lowerByte) :
    DomainName.toAscii? first = DomainName.toAscii? second := by
  have text : (decode? first).map lowerAscii = (decode? second).map lowerAscii := by
    rw [← decode?_map_lowerByte, same, decode?_map_lowerByte]
  rw [DomainName.toAscii?, DomainName.toAscii?]
  cases read : decode? first with
  | none =>
      rw [read, Option.map_none, eq_comm, Option.map_eq_none_iff] at text
      rw [text]
  | some own =>
      rw [read, Option.map_some, eq_comm, Option.map_eq_some_iff] at text
      obtain ⟨other, read', lowered⟩ := text
      rw [read']
      simp only [Option.bind_eq_bind, Option.bind_some, lowered]

theorem specialHost_map_toLower (text : List Char) :
    specialHost (text.map Char.toLower) = specialHost text := by
  rw [specialHost, specialHost, bracketed?_map_toLower, encodeChars_map_toLower,
    toAscii?_eq_of_map_lowerByte (map_lowerByte_percentDecode (encodeChars text))]

/-! ### Sites -/

/-- What a URL points to. -/
structure Site where
  scheme : String
  host : String
  port : Option Nat

def site (url : Url) : Site where
  scheme := url.scheme
  host := url.host
  port := url.authority.bind Authority.port

/-- The port that a text starts with behind a colon. -/
def portBehind? (scheme : String) : List Char → Except Fault (Option Nat)
  | ':' :: afterColon => (port? scheme 0 false afterColon).map Prod.fst
  | _ => .ok none

/-- What a text without credentials points to behind the slashes of a URL of the web. -/
def site? (scheme : String) (text : List Char) : Except Fault Site := do
  let size := hostLength .web false text
  if (text.take size).isEmpty then throw .emptyHost
  let host ← specialHost (text.take size)
  if host.isEmpty then throw .emptyHost
  let port ← portBehind? scheme (text.drop size)
  return { scheme, host, port }

theorem map_site_afterSlashes {scheme : String} (web : Kind.ofScheme scheme = .web)
    (text : List Char) :
    (afterSlashes scheme text).map site =
      ((splitUserinfo .web text).map Prod.snd).bind (site? scheme) := by
  rw [afterSlashes, web]
  cases splitUserinfo .web text with
  | error fault => rfl
  | ok found =>
      obtain ⟨⟨username, password⟩, rest⟩ := found
      have special : Kind.isSpecial .web = true := rfl
      show _ = site? scheme rest
      simp only [site?, bind, Except.bind, pure, Except.pure, throw, throwThe,
        MonadExceptOf.throw, Kind.host, special, beq_self_eq_true, Bool.true_and,
        Bool.or_true, Bool.and_true, if_true]
      cases (rest.take (hostLength .web false rest)).isEmpty with
      | true => rfl
      | false =>
          cases specialHost (rest.take (hostLength .web false rest)) with
          | error fault => rfl
          | ok host =>
              dsimp only
              cases host.isEmpty with
              | true => rfl
              | false =>
                  generalize rest.drop (hostLength .web false rest) = behind
                  simp only [Bool.false_eq_true, if_false, Bool.false_and]
                  split
                  next afterColon =>
                    rw [portBehind?]
                    cases port? scheme 0 false afterColon <;> rfl
                  next colonless =>
                    rw [portBehind?.eq_2 scheme behind colonless]
                    rfl

theorem ignoresCase_isSlash (kind : Kind) : IgnoresCase kind.isSlash :=
  ignoresCase_of_letters (by cases kind <;> decide)

theorem ignoresCase_endsPath : IgnoresCase endsPath :=
  ignoresCase_of_letters (by decide)

theorem hostLength_map_toLower (kind : Kind) (inBrackets : Bool) (text : List Char) :
    hostLength kind inBrackets (text.map Char.toLower) = hostLength kind inBrackets text := by
  induction text generalizing inBrackets with
  | nil => rfl
  | cons c rest inductionHypothesis =>
      have colon : (c.toLower == ':') = (c == ':') := ignoresCase_beq (by decide) c
      have opening : (c.toLower == '[') = (c == '[') := ignoresCase_beq (by decide) c
      have closing : (c.toLower == ']') = (c == ']') := ignoresCase_beq (by decide) c
      rw [List.map_cons, hostLength, hostLength, ignoresCase_isSlash kind c,
        ignoresCase_endsPath c, colon, opening, closing, inductionHypothesis]

theorem map_fst_port?_map_toLower (scheme : String) (value : Nat) (hasDigit : Bool)
    (text : List Char) :
    (port? scheme value hasDigit (text.map Char.toLower)).map Prod.fst =
      (port? scheme value hasDigit text).map Prod.fst := by
  have digit : IgnoresCase fun c => (c.isDigit, if c.isDigit then c.toNat else 0) :=
    ignoresCase_of_letters (by decide)
  have slash : IgnoresCase isAnySlash := ignoresCase_of_letters (by decide)
  induction text generalizing value hasDigit with
  | nil => rfl
  | cons c rest inductionHypothesis =>
      obtain ⟨isDigit, own⟩ := Prod.mk.inj (digit c)
      rw [List.map_cons, port?, port?, isDigit, slash c, ignoresCase_endsPath c]
      split
      next written =>
        rw [isDigit, written, if_pos rfl, if_pos rfl] at own
        rw [own]
        dsimp only
        split
        next => rfl
        next => exact inductionHypothesis _ _
      next => split <;> rfl

theorem map_snd_splitUserinfo_map_toLower (kind : Kind) (text : List Char) :
    (splitUserinfo kind (text.map Char.toLower)).map Prod.snd =
      ((splitUserinfo kind text).map Prod.snd).map (List.map Char.toLower) := by
  have ends : IgnoresCase fun c => kind.isSlash c || endsPath c :=
    (ignoresCase_isSlash kind).or ignoresCase_endsPath
  have goesOn : IgnoresCase fun c => !(kind.isSlash c || endsPath c) :=
    fun c => congrArg not (ends c)
  have sign : IgnoresCase fun c => c != '@' :=
    fun c => congrArg not (ignoresCase_beq (by decide) c)
  unfold splitUserinfo
  simp only [goesOn.takeWhile, contains_map_toLower (show Char.isAlpha '@' = false by decide),
    ← List.map_reverse, sign.takeWhile, List.length_map, ← List.map_take, ← List.map_drop,
    List.isEmpty_map, ends.any_head?]
  split
  next => rfl
  next => split <;> rfl

theorem portBehind?_map_toLower (scheme : String) (text : List Char) :
    portBehind? scheme (text.map Char.toLower) = portBehind? scheme text := by
  cases text with
  | nil => rfl
  | cons c behind =>
      by_cases colon : c = ':'
      · subst colon
        exact map_fst_port?_map_toLower scheme 0 false behind
      · have others : c.toLower ≠ ':' := fun same => colon ((toLower_eq_iff (by decide)).mp same)
        rw [List.map_cons, portBehind?, portBehind?]
        · exact fun behind same => colon (List.cons.inj same).1
        · exact fun behind same => others (List.cons.inj same).1

theorem site?_map_toLower (scheme : String) (text : List Char) :
    site? scheme (text.map Char.toLower) = site? scheme text := by
  unfold site?
  simp only [hostLength_map_toLower, ← List.map_take, ← List.map_drop, List.isEmpty_map,
    specialHost_map_toLower, portBehind?_map_toLower]

theorem map_site_afterSlashes_map_toLower {scheme : String} (web : Kind.ofScheme scheme = .web)
    (text : List Char) :
    (afterSlashes scheme (text.map Char.toLower)).map site =
      (afterSlashes scheme text).map site := by
  rw [map_site_afterSlashes web, map_site_afterSlashes web, map_snd_splitUserinfo_map_toLower]
  cases (splitUserinfo .web text).map Prod.snd with
  | error fault => rfl
  | ok rest => exact site?_map_toLower scheme rest

/-! ### Whole texts -/

theorem trimmed_map_toLower (text : List Char) :
    trimmed (text.map Char.toLower) = (trimmed text).map Char.toLower := by
  have edge : IgnoresCase fun c => decide (c.toNat ≤ 0x20) := ignoresCase_of_letters (by decide)
  rw [trimmed, trimmed, edge.dropWhile, ← List.map_reverse, edge.dropWhile, ← List.map_reverse]

theorem withoutBreaks_map_toLower (text : List Char) :
    withoutBreaks (text.map Char.toLower) = (withoutBreaks text).map Char.toLower := by
  have unbroken : IgnoresCase fun c => !isBreak c := ignoresCase_of_letters (by decide)
  exact unbroken.filter

theorem scheme?_map_toLower (text : List Char) :
    scheme? (text.map Char.toLower) =
      (scheme? text).map (Prod.map id (List.map Char.toLower)) := by
  have alpha : IgnoresCase Char.isAlpha := ignoresCase_of_letters (by decide)
  have belongs : IgnoresCase fun c =>
      c.isAlphanum || c == '+' || c == '-' || c == '.' || isBreak c :=
    ignoresCase_of_letters (by decide)
  have lowered (cs : List Char) :
      (cs.map Char.toLower).map Char.toLower = cs.map Char.toLower := by
    rw [List.map_map]
    exact List.map_congr_left fun c _ => toLower_toLower c
  unfold scheme?
  simp only [alpha.any_head?, belongs.dropWhile, belongs.takeWhile, withoutBreaks_map_toLower,
    lowered]
  split
  next =>
    cases text.dropWhile _ with
    | nil => rfl
    | cons c behind =>
        by_cases colon : c = ':'
        · subst colon
          rfl
        · have others : c.toLower ≠ ':' := fun same => colon ((toLower_eq_iff (by decide)).mp same)
          simp [colon, others]
  next => rfl

theorem exists_scheme? {text : String} {url : Url} (read : parse text = .ok url)
    (isWeb : url.scheme = "http" ∨ url.scheme = "https") :
    ∃ scheme behind, scheme? (trimmed text.toList) = some (scheme, behind) ∧
      Kind.ofScheme scheme = .web := by
  have web : Kind.ofScheme url.scheme = .web := by
    rcases isWeb with same | same <;> rw [same] <;> decide
  unfold parse parseFrom at read
  cases found : scheme? (trimmed text.toList) with
  | none =>
      simp only [found] at read
      cases read
  | some parts =>
      obtain ⟨scheme, behind⟩ := parts
      refine ⟨scheme, behind, rfl, ?_⟩
      simp only [found, Option.filter_none] at read
      split at read
      next =>
        rw [scheme_of_file read] at web
        cases web
      next own => exact own
      next isOther =>
        rw [scheme_of_other read, isOther] at web
        cases web

theorem parse_of_scheme? {text scheme : String} {behind : List Char}
    (found : scheme? (trimmed text.toList) = some (scheme, behind))
    (web : Kind.ofScheme scheme = .web) :
    parse text = afterSlashes scheme ((withoutBreaks behind).dropWhile isAnySlash) := by
  unfold parse parseFrom
  simp only [found, web]
  have parts := List.takeWhile_append_dropWhile (p := isAnySlash) (l := withoutBreaks behind)
  exact congrArg (afterSlashes scheme)
    ((congrArg (List.drop _) parts.symm).trans List.drop_left)

/-- Texts that differ in the case of letters alone point to the same site of the web. -/
theorem site_of_sameIgnoringCase {first second : String} {url : Url}
    (same : sameIgnoringCase first second = true) (read : parse first = .ok url)
    (isWeb : url.scheme = "http" ∨ url.scheme = "https") :
    ∃ other, parse second = .ok other ∧ other.site = url.site := by
  have slash : IgnoresCase isAnySlash := ignoresCase_of_letters (by decide)
  obtain ⟨scheme, behind, found, web⟩ := exists_scheme? read isWeb
  have lowered : first.toList.map Char.toLower = second.toList.map Char.toLower := by
    rw [← toList_lowerAscii, (sameIgnoringCase_eq_true_iff first second).mp same,
      toList_lowerAscii]
  have schemes : (scheme? (trimmed second.toList)).map (Prod.map id (List.map Char.toLower)) =
      some (scheme, behind.map Char.toLower) := by
    rw [← scheme?_map_toLower, ← trimmed_map_toLower, ← lowered, trimmed_map_toLower,
      scheme?_map_toLower, found]
    rfl
  obtain ⟨⟨own, behind'⟩, found', parts⟩ := Option.map_eq_some_iff.mp schemes
  obtain ⟨same, rest⟩ := Prod.mk.inj parts
  obtain rfl : own = scheme := same
  have small (behind : List Char) :
      (afterSlashes own ((withoutBreaks behind).dropWhile isAnySlash)).map site =
        (afterSlashes own ((withoutBreaks (behind.map Char.toLower)).dropWhile isAnySlash)).map
          site := by
    rw [withoutBreaks_map_toLower, slash.dropWhile, map_site_afterSlashes_map_toLower web]
  have sites : (parse second).map site = (parse first).map site := by
    rw [parse_of_scheme? found web, parse_of_scheme? found' web, small behind', rest,
      ← small behind]
  rw [read] at sites
  exact exceptMap_eq_ok_iff.mp sites

end TokenAcquisition.Url
