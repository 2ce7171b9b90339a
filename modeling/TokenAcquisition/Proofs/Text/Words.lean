import TokenAcquisition.Proofs.Text.LetterCase
import TokenAcquisition.Text.Characters

/-!
Words of a text.  Texts joined by blanks hold the words of all of them, and the words of a text do
not depend on the case of its letters.  A text is its words joined by single blanks when nothing
else stands between them, before the first or behind the last.
-/

namespace TokenAcquisition.Text

theorem isBlank_toLower (c : Char) : isBlank c.toLower = isBlank c := by
  have ignores : IgnoresCase isBlank := ignoresCase_of_letters (by decide)
  exact ignores c

theorem allBlank_lowerAscii (s : String) : allBlank (lowerAscii s) = allBlank s := by
  simp [allBlank, Function.comp_def, isBlank_toLower]

/-- Texts that differ in the case of letters only are blank together. -/
theorem allBlank_of_sameIgnoringCase {s t : String} (same : sameIgnoringCase s t = true) :
    allBlank s = allBlank t := by
  rw [← allBlank_lowerAscii s, (sameIgnoringCase_eq_true_iff s t).mp same, allBlank_lowerAscii]

variable {letters cs : List Char} {s t : String}

/-! ### Where words end -/

theorem wordsFrom_cons_of_isBlank {blank : Char} (isBlank : isBlank blank = true)
    (letters rest : List Char) :
    wordsFrom letters (blank :: rest) =
      (if letters.isEmpty then [] else [letters.reverse]) ++ wordsFrom [] rest := by
  rw [wordsFrom, if_pos isBlank]
  split <;> rfl

theorem wordsFrom_cons_of_not_isBlank {c : Char} (isLetter : isBlank c = false)
    (letters rest : List Char) : wordsFrom letters (c :: rest) = wordsFrom (c :: letters) rest := by
  rw [wordsFrom, isLetter]
  rfl

/-- A blank parts the words before it from those behind it. -/
theorem wordsFrom_append_cons {blank : Char} (isBlank : isBlank blank = true)
    (letters before behind : List Char) :
    wordsFrom letters (before ++ blank :: behind) =
      wordsFrom letters before ++ wordsFrom [] behind := by
  induction before generalizing letters with
  | nil => exact wordsFrom_cons_of_isBlank isBlank letters behind
  | cons c before inductionHypothesis =>
      cases own : Text.isBlank c with
      | true =>
          rw [List.cons_append, wordsFrom_cons_of_isBlank own, wordsFrom_cons_of_isBlank own,
            inductionHypothesis, List.append_assoc]
      | false =>
          rw [List.cons_append, wordsFrom_cons_of_not_isBlank own,
            wordsFrom_cons_of_not_isBlank own, inductionHypothesis]

theorem words_append (s t : String) : words (s ++ " " ++ t) = words s ++ words t := by
  have joined : (s ++ " " ++ t).toList = s.toList ++ ' ' :: t.toList := by simp
  rw [words, joined, wordsFrom_append_cons (by decide), List.map_append]
  rfl

theorem words_intercalate (entries : List String) :
    words (" ".intercalate entries) = entries.flatMap words := by
  induction entries with
  | nil => rfl
  | cons entry rest inductionHypothesis =>
      cases rest with
      | nil => simp
      | cons next rest =>
          rw [String.intercalate_cons_cons, words_append, inductionHypothesis]
          exact List.flatMap_cons.symm

theorem wordsFrom_map_toLower (letters cs : List Char) :
    wordsFrom (letters.map Char.toLower) (cs.map Char.toLower) =
      (wordsFrom letters cs).map (List.map Char.toLower) := by
  induction cs generalizing letters with
  | nil => cases letters <;> simp [wordsFrom]
  | cons c cs inductionHypothesis =>
      cases own : isBlank c with
      | true =>
          have lowered : isBlank c.toLower = true := (isBlank_toLower c).trans own
          have rest := inductionHypothesis []
          rw [List.map_nil] at rest
          rw [List.map_cons, wordsFrom_cons_of_isBlank lowered, wordsFrom_cons_of_isBlank own, rest]
          cases letters <;> simp
      | false =>
          have lowered : isBlank c.toLower = false := (isBlank_toLower c).trans own
          rw [List.map_cons, wordsFrom_cons_of_not_isBlank lowered,
            wordsFrom_cons_of_not_isBlank own, ← inductionHypothesis, List.map_cons]

/-- The words of a text in small letters are its words in small letters. -/
theorem words_lowerAscii (s : String) : words (lowerAscii s) = (words s).map lowerAscii := by
  have lowered := wordsFrom_map_toLower [] s.toList
  rw [List.map_nil] at lowered
  simp only [words, toList_lowerAscii, lowered, List.map_map]
  refine List.map_congr_left fun word _ => ?_
  simp [lowerAscii]

/-! ### What a word is -/

theorem wordsFrom_of_unbroken (unbroken : ∀ c ∈ cs, isBlank c = false) (filled : cs ≠ []) :
    wordsFrom letters cs = [letters.reverse ++ cs] := by
  induction cs generalizing letters with
  | nil => exact absurd rfl filled
  | cons c cs inductionHypothesis =>
      obtain ⟨own, others⟩ := List.forall_mem_cons.mp unbroken
      rw [wordsFrom_cons_of_not_isBlank own]
      cases cs with
      | nil => simp [wordsFrom]
      | cons next cs => simp [inductionHypothesis others (List.cons_ne_nil next cs)]

theorem unbroken_of_mem_wordsFrom (unbroken : ∀ c ∈ letters, isBlank c = false)
    {word : List Char} (member : word ∈ wordsFrom letters cs) :
    word ≠ [] ∧ ∀ c ∈ word, isBlank c = false := by
  have finished {letters : List Char} (unbroken : ∀ c ∈ letters, isBlank c = false)
      (member : word ∈ if letters.isEmpty then [] else [letters.reverse]) :
      word ≠ [] ∧ ∀ c ∈ word, isBlank c = false := by
    split at member
    next => cases member
    next filled =>
      obtain rfl := List.mem_singleton.mp member
      exact ⟨by simpa using filled, fun c inside => unbroken c (List.mem_reverse.mp inside)⟩
  induction cs generalizing letters with
  | nil => exact finished unbroken member
  | cons c cs inductionHypothesis =>
      cases own : isBlank c with
      | true =>
          rw [wordsFrom_cons_of_isBlank own] at member
          rcases List.mem_append.mp member with first | later
          · exact finished unbroken first
          · exact inductionHypothesis (List.forall_mem_nil _) later
      | false =>
          rw [wordsFrom_cons_of_not_isBlank own] at member
          exact inductionHypothesis (List.forall_mem_cons.mpr ⟨own, unbroken⟩) member

/-- A word is its own only word. -/
theorem words_of_mem_words {word : String} (member : word ∈ words s) : words word = [word] := by
  obtain ⟨cs, inside, rfl⟩ := List.mem_map.mp member
  obtain ⟨filled, unbroken⟩ := unbroken_of_mem_wordsFrom (List.forall_mem_nil _) inside
  rw [words, String.toList_ofList, wordsFrom_of_unbroken unbroken filled]
  rfl

theorem flatMap_words_words (s : String) : (words s).flatMap words = words s := by
  rw [List.flatMap_congr fun word member => words_of_mem_words member, List.flatMap_singleton']

/-- Nothing but blanks is left out of the words of a text. -/
theorem flatten_wordsFrom (letters cs : List Char) :
    (wordsFrom letters cs).flatten = letters.reverse ++ cs.filter fun c => !isBlank c := by
  induction cs generalizing letters with
  | nil => cases letters <;> simp [wordsFrom]
  | cons c cs inductionHypothesis =>
      cases own : isBlank c with
      | true =>
          rw [wordsFrom_cons_of_isBlank own, List.flatten_append, inductionHypothesis]
          cases letters <;> simp [own]
      | false =>
          rw [wordsFrom_cons_of_not_isBlank own, inductionHypothesis]
          simp [own]

/-! ### Single blanks -/

/-- A text of words with single blanks between them and nothing around them. -/
def IsSpaced (s : String) : Prop :=
  words s ≠ [] ∧ s = " ".intercalate (words s)

instance (s : String) : Decidable (IsSpaced s) :=
  inferInstanceAs (Decidable (_ ∧ _))

theorem isSpaced_of_mem_words {word : String} (member : word ∈ words s) : IsSpaced word := by
  rw [IsSpaced, words_of_mem_words member]
  exact ⟨List.cons_ne_nil word [], String.intercalate_singleton.symm⟩

theorem length_intercalate_cons_le (word : String) (others : List String) :
    (" ".intercalate (word :: others)).length ≤
      word.length + 1 + (" ".intercalate others).length := by
  cases others with
  | nil =>
      rw [String.intercalate_singleton]
      omega
  | cons next others =>
      rw [String.intercalate_cons_cons, String.length_append, String.length_append]
      exact Nat.le_refl _

theorem length_intercalate_wordsFrom_le (letters cs : List Char) :
    (" ".intercalate ((wordsFrom letters cs).map String.ofList)).length ≤
      letters.length + cs.length := by
  induction cs generalizing letters with
  | nil => cases letters <;> simp [wordsFrom]
  | cons c cs inductionHypothesis =>
      cases own : isBlank c with
      | true =>
          have rest := inductionHypothesis []
          rw [wordsFrom_cons_of_isBlank own]
          cases letters with
          | nil =>
              simp only [List.isEmpty_nil, if_true, List.nil_append, List.length_cons,
                List.length_nil] at rest ⊢
              omega
          | cons letter letters =>
              have word := length_intercalate_cons_le (String.ofList (letter :: letters).reverse)
                ((wordsFrom [] cs).map String.ofList)
              simp only [List.isEmpty_cons, Bool.false_eq_true, if_false, List.singleton_append,
                List.map_cons, String.length_ofList, List.length_reverse, List.length_cons,
                List.length_nil] at rest word ⊢
              omega
      | false =>
          have rest := inductionHypothesis (c :: letters)
          rw [wordsFrom_cons_of_not_isBlank own]
          simp only [List.length_cons] at rest ⊢
          omega

/-- No text is shorter than its words joined by single blanks. -/
theorem length_intercalate_words_le (s : String) :
    (" ".intercalate (words s)).length ≤ s.length := by
  have whole := length_intercalate_wordsFrom_le [] s.toList
  rwa [List.length_nil, Nat.zero_add, String.length_toList] at whole

theorem isSpaced_append_iff : IsSpaced (s ++ " " ++ t) ↔ IsSpaced s ∧ IsSpaced t := by
  have first := length_intercalate_words_le s
  have second := length_intercalate_words_le t
  unfold IsSpaced
  rw [words_append]
  constructor
  · rintro ⟨-, whole⟩
    have size := congrArg String.length whole
    rw [String.length_append, String.length_append, show " ".length = 1 from rfl] at size
    -- With no words on one side, those of the other would have to fill more than their own text.
    by_cases none : words s = []
    · rw [none, List.nil_append] at size
      omega
    by_cases none' : words t = []
    · rw [none', List.append_nil] at size
      omega
    rw [String.intercalate_append_of_ne_nil none none'] at whole size
    rw [String.length_append, String.length_append, show " ".length = 1 from rfl] at size
    have parts := congrArg String.toList whole
    simp only [String.toList_append, List.append_assoc] at parts
    obtain ⟨before, behind⟩ := List.append_inj parts (by
      simp only [String.length_toList]
      omega)
    exact ⟨⟨none, String.toList_inj.mp before⟩, none',
      String.toList_inj.mp (List.append_cancel_left behind)⟩
  · rintro ⟨⟨filled, own⟩, filled', own'⟩
    refine ⟨by simp [filled], ?_⟩
    rw [String.intercalate_append_of_ne_nil filled filled', ← own, ← own']

theorem isSpaced_intercalate_iff {entries : List String} (filled : entries ≠ []) :
    IsSpaced (" ".intercalate entries) ↔ ∀ entry ∈ entries, IsSpaced entry := by
  induction entries with
  | nil => exact absurd rfl filled
  | cons entry rest inductionHypothesis =>
      cases rest with
      | nil => simp
      | cons next rest =>
          rw [String.intercalate_cons_cons, isSpaced_append_iff,
            inductionHypothesis (List.cons_ne_nil next rest),
            List.forall_mem_cons (l := next :: rest)]

theorem toLower_of_isBlank {c : Char} (blank : isBlank c = true) : c.toLower = c := by
  have letters : ∀ n < 26, isBlank (Char.ofNat (65 + n)) = false := by decide
  rcases toLower_cases c with same | ⟨n, small, own, -⟩
  · exact same
  · rw [own, letters n small] at blank
    cases blank

/-- Texts that differ in the case of letters only are the same when their letters are. -/
theorem eq_of_map_toLower {ds : List Char} (same : cs.map Char.toLower = ds.map Char.toLower)
    (letters : cs.filter (fun c => !isBlank c) = ds.filter fun c => !isBlank c) : cs = ds := by
  induction cs generalizing ds with
  | nil => exact (List.map_eq_nil_iff.mp same.symm).symm
  | cons c cs inductionHypothesis =>
      cases ds with
      | nil => cases same
      | cons d ds =>
          obtain ⟨first, rest⟩ := List.cons.inj same
          have alike : isBlank c = isBlank d := by
            rw [← isBlank_toLower c, first, isBlank_toLower]
          cases own : isBlank c with
          | true =>
              rw [toLower_of_isBlank own, toLower_of_isBlank (alike ▸ own)] at first
              have others : cs.filter (fun c => !isBlank c) = ds.filter fun c => !isBlank c := by
                simpa [own, ← alike] using letters
              rw [first, inductionHypothesis rest others]
          | false =>
              have others : c = d ∧
                  cs.filter (fun c => !isBlank c) = ds.filter fun c => !isBlank c := by
                simpa [own, ← alike] using letters
              rw [others.1, inductionHypothesis rest others.2]

theorem filter_intercalate_words (s : String) :
    (" ".intercalate (words s)).toList.filter (fun c => !isBlank c) =
      s.toList.filter fun c => !isBlank c := by
  have letters := flatten_wordsFrom [] (" ".intercalate (words s)).toList
  have own := flatten_wordsFrom [] s.toList
  have same : words (" ".intercalate (words s)) = words s := by
    rw [words_intercalate, flatMap_words_words]
  have parts : wordsFrom [] (" ".intercalate (words s)).toList = wordsFrom [] s.toList :=
    List.map_injective_iff.mpr (fun _ _ => String.ofList_injective) same
  rw [parts, own] at letters
  simpa using letters.symm

theorem lowerAscii_intercalate (entries : List String) :
    lowerAscii (" ".intercalate entries) = " ".intercalate (entries.map lowerAscii) := by
  induction entries with
  | nil => rfl
  | cons entry rest inductionHypothesis =>
      cases rest with
      | nil => simp
      | cons next rest =>
          rw [List.map_cons] at inductionHypothesis
          rw [List.map_cons, List.map_cons, String.intercalate_cons_cons,
            String.intercalate_cons_cons, lowerAscii_append, lowerAscii_append,
            inductionHypothesis]
          rfl

theorem isSpaced_lowerAscii_iff : IsSpaced (lowerAscii s) ↔ IsSpaced s := by
  unfold IsSpaced
  rw [words_lowerAscii, ← lowerAscii_intercalate, ne_eq, List.map_eq_nil_iff]
  refine and_congr_right fun _ => ⟨fun same => ?_, fun same => congrArg lowerAscii same⟩
  have folded := congrArg String.toList same
  rw [toList_lowerAscii, toList_lowerAscii] at folded
  exact String.toList_inj.mp (eq_of_map_toLower folded (filter_intercalate_words s).symm)

end TokenAcquisition.Text
