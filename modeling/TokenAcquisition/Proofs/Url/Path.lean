import Mathlib.Data.Bool.AllAny
import TokenAcquisition.Proofs.Url.Form
import TokenAcquisition.Url.Parser

/-!
Paths of web URLs.  Whatever text a path is read from, it is one of segments behind slashes, each
of characters that are written as they are, and none of them a dot segment.  Such a path is read
as it stands, and segments that come behind its last slash are put there.
-/

namespace TokenAcquisition.Url

/-- A character that is written in a segment as it is. -/
structure IsSegmentChar (c : Char) : Prop where
  ascii : c.toNat < 0x80
  plain : inPathSet c = false
  slashless : isAnySlash c = false

instance (c : Char) : Decidable (IsSegmentChar c) :=
  decidable_of_iff (c.toNat < 0x80 ∧ inPathSet c = false ∧ isAnySlash c = false)
    ⟨fun ⟨ascii, plain, slashless⟩ => ⟨ascii, plain, slashless⟩,
      fun ⟨ascii, plain, slashless⟩ => ⟨ascii, plain, slashless⟩⟩

/-- A text that is a segment as it stands. -/
structure IsSegment (segment : List Char) : Prop where
  chars : ∀ c ∈ segment, IsSegmentChar c
  dotless : isDot segment = false
  still : isDoubleDot segment = false

instance (segment : List Char) : Decidable (IsSegment segment) :=
  decidable_of_iff
    (segment.all (IsSegmentChar ·) = true ∧ isDot segment = false ∧ isDoubleDot segment = false)
    ⟨fun ⟨chars, dotless, still⟩ => ⟨List.all_iff_forall_prop.mp chars, dotless, still⟩,
      fun ⟨chars, dotless, still⟩ => ⟨List.all_iff_forall_prop.mpr chars, dotless, still⟩⟩

theorem isSegment_nil : IsSegment [] := by decide

/-- Segments with a slash behind each of them. -/
def closed (segments : List (List Char)) : List Char :=
  segments.flatMap (· ++ ['/'])

/-- A path of closed segments behind the first slash. -/
def IsClosedPath (path : List Char) : Prop :=
  ∃ segments, (∀ segment ∈ segments, IsSegment segment) ∧ path = '/' :: closed segments

/-- A path of segments behind slashes.  The last segment may be empty. -/
def IsWebPath (path : List Char) : Prop :=
  ∃ before last, IsClosedPath before ∧ IsSegment last ∧ path = before ++ last

variable {path text segment last : List Char} {segments : List (List Char)} {c : Char}

theorem isClosedPath_slash : IsClosedPath ['/'] :=
  ⟨[], nofun, rfl⟩

theorem closed_concat (segments : List (List Char)) (segment : List Char) :
    closed (segments ++ [segment]) = closed segments ++ segment ++ ['/'] := by
  simp [closed]

theorem IsClosedPath.isWebPath (isClosed : IsClosedPath path) : IsWebPath path :=
  ⟨path, [], isClosed, isSegment_nil, (List.append_nil path).symm⟩

theorem IsClosedPath.concat (isClosed : IsClosedPath path) (isSegment : IsSegment segment) :
    IsClosedPath (path ++ segment ++ ['/']) := by
  obtain ⟨segments, all, rfl⟩ := isClosed
  refine ⟨segments ++ [segment], ?_, by simp [closed_concat]⟩
  intro other member
  rcases List.mem_append.mp member with old | new
  · exact all other old
  · exact List.mem_singleton.mp new ▸ isSegment

/-- The last segment taken away. -/
theorem IsClosedPath.cases (isClosed : IsClosedPath path) :
    path = ['/'] ∨ ∃ before segment, IsClosedPath before ∧ IsSegment segment ∧
      path = before ++ segment ++ ['/'] := by
  obtain ⟨segments, all, rfl⟩ := isClosed
  rcases List.eq_nil_or_concat segments with rfl | ⟨others, segment, rfl⟩
  · exact .inl rfl
  · refine .inr ⟨'/' :: closed others, segment, ⟨others, ?_, rfl⟩, all _ (by simp), ?_⟩
    · exact fun other member => all other (by simp [member])
    · rw [List.concat_eq_append, closed_concat]
      rfl

theorem IsClosedPath.exists_reverse (isClosed : IsClosedPath path) :
    ∃ rest, path.reverse = '/' :: rest := by
  rcases isClosed.cases with rfl | ⟨before, segment, -, -, rfl⟩
  · exact ⟨[], rfl⟩
  · exact ⟨_, by rw [List.reverse_append]; rfl⟩

theorem IsSegmentChar.ne_slash (isChar : IsSegmentChar c) : c ≠ '/' := by
  rintro rfl
  cases isChar.slashless

theorem IsSegmentChar.isSlash (isChar : IsSegmentChar c) (kind : Kind) :
    kind.isSlash c = false := by
  have slashless := isChar.slashless
  simp only [isAnySlash, Bool.or_eq_false_iff] at slashless
  rw [Kind.isSlash, slashless.1, slashless.2, Bool.and_false, Bool.or_false]

theorem IsSegmentChar.isBreak (isChar : IsSegmentChar c) : isBreak c = false := by
  have plain := isChar.plain
  simp only [inPathSet, inFragmentSet, isControl, Bool.or_eq_false_iff] at plain
  have printed : 32 ≤ c.toNat := by simpa using plain.1.1.1
  have differs (d : Char) (small : d.toNat < 32) : (c == d) = false := by
    rw [beq_eq_false_iff_ne]
    rintro rfl
    omega
  rw [Url.isBreak, differs _ (by decide), differs _ (by decide), differs _ (by decide)]
  rfl

/-! ### Written characters -/

theorem percentEncode_of_isSegmentChar (all : ∀ c ∈ text, IsSegmentChar c) :
    percentEncode inPathSet text = text := by
  induction text with
  | nil => rfl
  | cons c text inductionHypothesis =>
      have own := all c (by simp)
      have others := inductionHypothesis fun d member => all d (by simp [member])
      rw [percentEncode] at others ⊢
      rw [List.flatMap_cons, others, own.plain]
      simp [own.ascii]

theorem isSegmentChar_of_mem_percentByte {b : UInt8} (member : c ∈ percentByte b) :
    IsSegmentChar c := by
  have digit (d : Fin 16) : IsSegmentChar (Char.ofNat (Text.hexCapital d)) := by
    constructor <;> revert d <;> decide
  simp only [percentByte, List.mem_cons, List.not_mem_nil, or_false] at member
  rcases member with rfl | rfl | rfl
  · constructor <;> decide
  · exact digit _
  · exact digit _

/-- What is encoded is written in characters that stand for themselves. -/
theorem isSegmentChar_of_mem_percentEncode (slashless : ∀ c ∈ text, isAnySlash c = false)
    (member : c ∈ percentEncode inPathSet text) : IsSegmentChar c := by
  obtain ⟨d, among, own⟩ := List.mem_flatMap.mp member
  split at own
  next kept =>
    obtain rfl := List.mem_singleton.mp own
    simp only [Bool.and_eq_true, decide_eq_true_eq, Bool.not_eq_true'] at kept
    exact ⟨kept.1, kept.2, slashless c among⟩
  next =>
    obtain ⟨b, -, own⟩ := List.mem_flatMap.mp own
    exact isSegmentChar_of_mem_percentByte own

namespace PathDraft

/-! ### Segments that are read as they stand -/

theorem readAll_chars (all : ∀ c ∈ text, IsSegmentChar c) (draft : PathDraft) (rest : List Char) :
    draft.readAll .web (text ++ rest) =
      { draft with pending := text.reverse ++ draft.pending }.readAll .web rest := by
  induction text generalizing draft with
  | nil => rfl
  | cons c text inductionHypothesis =>
      have own := all c (by simp)
      have others := inductionHypothesis (fun d member => all d (by simp [member]))
        { draft with pending := c :: draft.pending }
      rw [List.cons_append, readAll, if_neg (by simp [own.isBreak]), if_neg (by simp [own.isSlash])]
      exact others.trans (by simp)

theorem endSegment_of_isSegment (isSegment : IsSegment segment) (path : List Char)
    (hasSlash : Bool) :
    { behind path with pending := segment.reverse }.endSegment .web hasSlash =
      behind ((if hasSlash then ['/'] else []) ++ (segment.reverse ++ path)) := by
  have written : percentEncode inPathSet segment = segment :=
    percentEncode_of_isSegmentChar isSegment.chars
  have size : (segment.reverse ++ path).length - path.length = segment.reverse.length := by simp
  simp only [endSegment, flush, behind, List.reverse_reverse, written, size, List.take_left,
    isSegment.still, isSegment.dotless, Bool.false_eq_true, ↓reduceIte]
  rfl

theorem readAll_segment (isSegment : IsSegment segment) (path rest : List Char) :
    (behind path).readAll .web (segment ++ '/' :: rest) =
      (behind ('/' :: (segment.reverse ++ path))).readAll .web rest := by
  rw [readAll_chars isSegment.chars, readAll, if_neg (by decide), if_pos (by decide)]
  have ends := endSegment_of_isSegment isSegment path true
  rw [show (behind path).pending = [] from rfl, List.append_nil, ends]
  rfl

theorem readAll_last (isSegment : IsSegment segment) (path : List Char) :
    (behind path).readAll .web segment = behind (segment.reverse ++ path) := by
  have whole := readAll_chars isSegment.chars (behind path) []
  have ends := endSegment_of_isSegment isSegment path false
  rw [List.append_nil] at whole
  rw [whole, readAll, show (behind path).pending = [] from rfl, List.append_nil, ends]
  rfl

/-- Segments come behind a path as they stand. -/
theorem readAll_closed (all : ∀ segment ∈ segments, IsSegment segment) (path rest : List Char) :
    (behind path).readAll .web (closed segments ++ rest) =
      (behind ((closed segments).reverse ++ path)).readAll .web rest := by
  induction segments generalizing path with
  | nil => rfl
  | cons segment segments inductionHypothesis =>
      have own := all segment (by simp)
      have others := inductionHypothesis fun other member => all other (by simp [member])
      have split : closed (segment :: segments) ++ rest =
          segment ++ '/' :: (closed segments ++ rest) := by
        simp [closed]
      rw [split, readAll_segment own, others]
      simp [closed]

/-! ### What any text is read as -/

/-- A draft of a web path, with the path before its last segment and what is written of that. -/
structure IsSound (draft : PathDraft) (before written : List Char) : Prop where
  isClosed : IsClosedPath before
  path : draft.path = written.reverse ++ before.reverse
  start : draft.start = before.reverse.length
  chars : ∀ c ∈ written, IsSegmentChar c
  slashless : ∀ c ∈ draft.pending, isAnySlash c = false

variable {draft : PathDraft} {before written : List Char}

theorem isSound_behind (isClosed : IsClosedPath before) :
    (behind before.reverse).IsSound before [] :=
  ⟨isClosed, rfl, rfl, nofun, nofun⟩

theorem IsSound.exists_flush (sound : draft.IsSound before written) :
    ∃ more, draft.flush.IsSound before more := by
  have slashless : ∀ c ∈ draft.pending.reverse, isAnySlash c = false :=
    fun c member => sound.slashless c (List.mem_reverse.mp member)
  refine ⟨written ++ percentEncode inPathSet draft.pending.reverse, sound.isClosed, ?_,
    sound.start, ?_, nofun⟩
  · rw [flush, sound.path, List.reverse_append, List.append_assoc]
  · intro c member
    rcases List.mem_append.mp member with old | new
    · exact sound.chars c old
    · exact isSegmentChar_of_mem_percentEncode slashless new

theorem IsSound.read (sound : draft.IsSound before written) (slashless : isAnySlash c = false) :
    (draft.read .web c).IsSound before written :=
  ⟨sound.isClosed, sound.path, sound.start, sound.chars,
    List.forall_mem_cons.mpr ⟨slashless, sound.slashless⟩⟩

/-- A step up from a closed path leads to a closed path. -/
theorem exists_ascend (isClosed : IsClosedPath before) :
    ∃ upper, IsClosedPath upper ∧ ascend .web before.reverse = upper.reverse := by
  obtain ⟨rest, last⟩ := isClosed.exists_reverse
  have drops (path : List Char) (filled : path ≠ []) :
      (if path.isEmpty || (Kind.web == .file && isWrittenDrive path.reverse) then path
        else dropSegment .web path) = path.dropWhile (· != '/') := by
    rw [if_neg (by simpa [List.isEmpty_iff] using filled)]
    rfl
  unfold ascend
  split
  next goes =>
    rcases isClosed.cases with rfl | ⟨upper, segment, isClosedToo, isSegment, rfl⟩
    · cases goes
    · refine ⟨upper, isClosedToo, ?_⟩
      obtain ⟨tail, lastToo⟩ := isClosedToo.exists_reverse
      have slashless : ∀ c ∈ segment.reverse, (c != '/') = true := by
        intro c member
        exact bne_iff_ne.mpr (isSegment.chars c (List.mem_reverse.mp member)).ne_slash
      have split : (upper ++ segment ++ ['/']).reverse.drop 1 =
          segment.reverse ++ '/' :: tail := by
        simp [← lastToo]
      rw [split]
      dsimp only
      rw [drops _ (by simp), List.dropWhile_append_of_pos slashless, lastToo]
      rfl
  next =>
    refine ⟨before, isClosed, ?_⟩
    dsimp only
    rw [drops _ (by simp [last]), last]
    rfl

theorem endWithSlash_reverse (isClosed : IsClosedPath before) :
    endWithSlash before.reverse = before.reverse := by
  obtain ⟨rest, last⟩ := isClosed.exists_reverse
  rw [endWithSlash, last]
  rfl

/-- The end of a segment leaves a closed path, or the path of the segments. -/
theorem IsSound.endSegment_cases (sound : draft.IsSound before written) (hasSlash : Bool) :
    ∃ after, (∃ namesDrive,
        draft.endSegment .web hasSlash = { behind after.reverse with namesDrive }) ∧
      (IsClosedPath after ∨ hasSlash = false ∧ IsWebPath after) := by
  obtain ⟨more, sound⟩ := sound.exists_flush
  have size : draft.flush.path.length - draft.flush.start = more.reverse.length := by
    rw [sound.path, sound.start, List.length_append, Nat.add_sub_cancel]
  have segment : (draft.flush.path.take more.reverse.length).reverse = more := by
    rw [sound.path, List.take_left, List.reverse_reverse]
  have earlier : draft.flush.path.drop more.reverse.length = before.reverse := by
    rw [sound.path, List.drop_left]
  unfold endSegment
  simp only [size, segment, earlier]
  split
  next =>
    obtain ⟨upper, isClosed, same⟩ := exists_ascend sound.isClosed
    refine ⟨upper, ⟨draft.namesDrive, ?_⟩, .inl isClosed⟩
    rw [same, endWithSlash_reverse isClosed, ite_self]
    rfl
  next moves =>
    split
    next =>
      refine ⟨before, ⟨draft.namesDrive, ?_⟩, .inl sound.isClosed⟩
      rw [endWithSlash_reverse sound.isClosed]
      rfl
    next stands =>
      have isSegment : IsSegment more :=
        ⟨sound.chars, Bool.eq_false_iff.mpr stands, Bool.eq_false_iff.mpr moves⟩
      rw [if_neg (by simp)]
      cases hasSlash with
      | true =>
          refine ⟨before ++ more ++ ['/'], ⟨draft.namesDrive, ?_⟩,
            .inl (sound.isClosed.concat isSegment)⟩
          rw [sound.path]
          simp [flush]
      | false =>
          refine ⟨before ++ more, ⟨draft.namesDrive, ?_⟩,
            .inr ⟨rfl, before, more, sound.isClosed, isSegment, rfl⟩⟩
          rw [sound.path]
          simp [flush]

theorem IsSound.readAll (sound : draft.IsSound before written) (text : List Char) :
    IsWebPath (draft.readAll .web text).path.reverse := by
  induction text generalizing draft before written with
  | nil =>
      obtain ⟨after, ⟨_, same⟩, isClosed | ⟨-, isWeb⟩⟩ := sound.endSegment_cases false
      all_goals rw [PathDraft.readAll, same, behind, List.reverse_reverse]
      · exact isClosed.isWebPath
      · exact isWeb
  | cons c text inductionHypothesis =>
      rw [PathDraft.readAll]
      split
      next =>
        obtain ⟨more, sound⟩ := sound.exists_flush
        exact inductionHypothesis sound
      next =>
        split
        next =>
          obtain ⟨after, ⟨_, same⟩, isClosed | ⟨other, -⟩⟩ := sound.endSegment_cases true
          · have behind := isSound_behind isClosed
            rw [same]
            exact inductionHypothesis
              ⟨behind.isClosed, behind.path, behind.start, behind.chars, behind.slashless⟩
          · cases other
        next slashless => exact inductionHypothesis (sound.read (Bool.eq_false_iff.mpr slashless))

end PathDraft

/-! ### Whole paths -/

/-- Whatever text comes behind a closed path, the path is one of segments. -/
theorem isWebPath_resolvePath (isClosed : IsClosedPath path) (text : List Char) :
    IsWebPath (resolvePath .web path.reverse text).toList := by
  have whole := (PathDraft.isSound_behind isClosed).readAll text
  simpa [resolvePath, PathDraft.written] using whole

theorem isWebPath_startPath (text : List Char) : IsWebPath (startPath .web text).toList :=
  isWebPath_resolvePath isClosedPath_slash _

/-- Segments come behind a path as they stand. -/
theorem resolvePath_closed (all : ∀ segment ∈ segments, IsSegment segment)
    (isSegment : IsSegment last) (path : List Char) :
    (resolvePath .web path.reverse (closed segments ++ last)).toList =
      path ++ (closed segments ++ last) := by
  rw [resolvePath, PathDraft.readAll_closed all, PathDraft.readAll_last isSegment]
  simp [PathDraft.written, PathDraft.behind]

/-- A path of segments is read as it stands. -/
theorem IsWebPath.startPath (isWeb : IsWebPath path) :
    startPath .web path = String.ofList path := by
  obtain ⟨_, last, ⟨segments, all, rfl⟩, isSegment, rfl⟩ := isWeb
  rw [← String.toList_inj, String.toList_ofList]
  exact resolvePath_closed all isSegment ['/']

end TokenAcquisition.Url
