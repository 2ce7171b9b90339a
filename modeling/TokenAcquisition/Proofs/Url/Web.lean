import Mathlib.Data.List.TakeWhile
import TokenAcquisition.Proofs.Url.Path

/-!
URLs of the web.  Every one that is read from a text has a host and a path of segments, and a
reference that is nothing but segments is put behind the last slash of that path.
-/

namespace TokenAcquisition.Url

/-- A URL of the web has a host. -/
structure IsWeb (url : Url) : Prop where
  scheme : url.scheme = "http" ∨ url.scheme = "https"
  located : ∃ authority, url.authority = some authority

variable {scheme text : String} {cs : List Char} {url base : Url}

theorem IsWeb.kind (isWeb : url.IsWeb) : url.kind = .web := by
  rcases isWeb.scheme with http | https
  · rw [Url.kind, http]
    decide
  · rw [Url.kind, https]
    decide

theorem IsWeb.hasPathText (isWeb : url.IsWeb) : url.hasPathText = false := by
  obtain ⟨authority, located⟩ := isWeb.located
  rw [Url.hasPathText, located]
  rfl

/-! ### Reading -/

/-- What is read behind two slashes has a host, and a path that is read from what is left. -/
theorem afterSlashes_cases (made : afterSlashes scheme cs = .ok url) :
    url.scheme = scheme ∧ (∃ authority, url.authority = some authority) ∧
      ∃ pathText, url.path = startPath (Kind.ofScheme scheme) pathText := by
  simp only [afterSlashes, bind, Except.bind, pure, Except.pure, throw, throwThe,
    MonadExceptOf.throw] at made
  repeat' split at made
  all_goals cases made
  all_goals exact ⟨rfl, ⟨_, rfl⟩, _, rfl⟩

theorem scheme_of_file (made : file none cs = .ok url) : url.scheme = "file" := by
  unfold file at made
  dsimp only at made
  split at made
  next =>
    split at made
    next =>
      split at made
      next =>
        split at made
        next =>
          simp only [fileAfterSlashes, bind, Except.bind, pure, Except.pure] at made
          repeat' split at made
          all_goals cases made
          all_goals rfl
        next =>
          cases made
          rfl
      next =>
        cases made
        rfl
    next =>
      cases made
      rfl
  next =>
    cases made
    rfl

theorem scheme_of_other (made : other scheme cs = .ok url) : url.scheme = scheme := by
  unfold other at made
  split at made
  next => exact (afterSlashes_cases made).1
  next =>
    cases made
    rfl
  next =>
    cases made
    rfl

/-- A URL of the web that is read from a text has a host and a path of segments. -/
theorem isWeb_of_parse (read : parse text = .ok url)
    (scheme : url.scheme = "http" ∨ url.scheme = "https") :
    url.IsWeb ∧ IsWebPath url.path.toList := by
  have web : Kind.ofScheme url.scheme = .web := by
    rcases scheme with same | same <;> rw [same] <;> decide
  unfold parse parseFrom at read
  cases found : scheme? (trimmed text.toList) with
  | none =>
      simp only [found] at read
      cases read
  | some parts =>
      obtain ⟨own, behind⟩ := parts
      simp only [found, Option.filter_none] at read
      split at read
      next =>
        rw [scheme_of_file read] at web
        cases web
      next isWeb =>
        obtain ⟨-, located, pathText, path⟩ := afterSlashes_cases read
        refine ⟨⟨scheme, located⟩, ?_⟩
        rw [path, isWeb]
        exact isWebPath_startPath pathText
      next isOther =>
        rw [scheme_of_other read, isOther] at web
        cases web

/-! ### References -/

/-- A reference that is nothing but segments, told from a URL and from a path from the root. -/
structure IsSegments (reference : List Char) : Prop where
  segments : ∃ segments last, (∀ segment ∈ segments, IsSegment segment) ∧ IsSegment last ∧
    reference = closed segments ++ last
  trimmed : trimmed reference = reference
  schemeless : scheme? reference = none
  relative : reference.head?.any isAnySlash = false
  filled : reference ≠ []
  unended : ∀ c ∈ reference, endsPath c = false
  unbroken : ∀ c ∈ reference, isBreak c = false

theorem IsClosedPath.basePath (isClosed : IsClosedPath base.path.toList) (isWeb : base.IsWeb) :
    base.basePath = base.path.toList.reverse := by
  obtain ⟨rest, reversed⟩ := isClosed.exists_reverse
  rw [Url.basePath, isWeb.kind, reversed]
  rfl

/-- Segments are resolved as they stand behind a path that ends in a slash. -/
theorem IsWeb.relative (isWeb : base.IsWeb) (isSegments : IsSegments text.toList)
    (isClosed : IsClosedPath base.path.toList) :
    base.relative text.toList =
      .ok { base with path := base.path ++ text, query := none, fragment := none } := by
  have whole : text.toList.takeWhile (fun c => !endsPath c) = text.toList := by
    rw [List.takeWhile_eq_self_iff]
    simpa using isSegments.unended
  have ends : text.toList.dropWhile (fun c => !endsPath c) = [] := by
    rw [List.dropWhile_eq_nil_iff]
    simpa using isSegments.unended
  have path : resolvePath base.kind base.path.toList.reverse text.toList = base.path ++ text := by
    obtain ⟨segments, last, all, isSegment, parts⟩ := isSegments.segments
    rw [← String.toList_inj, isWeb.kind, parts, resolvePath_closed all isSegment, ← parts,
      String.toList_append]
  have filled : base.path.toList.reverse.isEmpty = false := by
    obtain ⟨rest, reversed⟩ := isClosed.exists_reverse
    rw [reversed]
    rfl
  have unended : ∀ c ∈ text.toList, c ≠ '?' ∧ c ≠ '#' := by
    intro c member
    simpa [endsPath] using isSegments.unended c member
  unfold Url.relative
  simp only [whole, ends]
  split
  next none => exact absurd none isSegments.filled
  next same => exact absurd rfl (unended '?' (by simp [same])).1
  next same => exact absurd rfl (unended '#' (by simp [same])).2
  next c others _ _ same =>
    have relative := isSegments.relative
    rw [same, List.head?_cons, Option.any_some] at relative
    rw [if_neg (by simp [relative]), isClosed.basePath isWeb, filled]
    simp only [Bool.false_eq_true, ↓reduceIte, path]
    rfl

/-- Segments are put behind the last slash of a path. -/
theorem IsWeb.join (isWeb : base.IsWeb) (isClosed : IsClosedPath base.path.toList)
    (isSegments : IsSegments text.toList) :
    base.join text =
      .ok { base with path := base.path ++ text, query := none, fragment := none } := by
  have unbroken : withoutBreaks text.toList = text.toList := by
    rw [withoutBreaks, List.filter_eq_self]
    simpa using isSegments.unbroken
  have inFront : text.toList.head? ≠ some '#' := by
    intro hash
    have ends := isSegments.unended '#' (List.mem_of_head? hash)
    cases ends
  unfold Url.join parseFrom
  simp only [isSegments.trimmed, isSegments.schemeless]
  rw [if_neg (by simpa using inFront), if_neg (by simp [isWeb.hasPathText]),
    if_neg (by simp [isWeb.kind]), unbroken, isWeb.relative isSegments isClosed]

end TokenAcquisition.Url
