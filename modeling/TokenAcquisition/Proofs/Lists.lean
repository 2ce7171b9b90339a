import Mathlib.Data.List.Induction
import Mathlib.Data.List.Nodup
import Mathlib.Data.List.Perm.Basic
import Mathlib.Data.Set.Pairwise.List

/-!
Lists in which one entry is exchanged for another, and what the entries bring together.
-/

namespace TokenAcquisition.Lists

variable {α β : Type}

theorem perm_of_countP {first second : List α}
    (agree : ∀ p : α → Bool, first.countP p = second.countP p) : first.Perm second := by
  classical
  exact List.perm_iff_count.mpr fun entry => agree (· == entry)

/-- Entries that are each read back from what is written of them are read back together. -/
theorem mapM_map {write : α → β} {read : β → Option α} {entries : List α}
    (reads : ∀ entry ∈ entries, read (write entry) = some entry) :
    (entries.map write).mapM read = some entries := by
  induction entries with
  | nil => rfl
  | cons entry rest inductionHypothesis =>
      have others := inductionHypothesis fun other member => reads other (by simp [member])
      rw [List.map_cons, List.mapM_cons, reads entry (by simp), others]
      rfl

theorem exists_mapM {read : β → Option α} {values : List β}
    (reads : ∀ value ∈ values, ∃ entry, read value = some entry) :
    ∃ entries, values.mapM read = some entries := by
  induction values with
  | nil => exact ⟨[], rfl⟩
  | cons value values inductionHypothesis =>
      obtain ⟨entry, own⟩ := reads value (by simp)
      obtain ⟨entries, others⟩ :=
        inductionHypothesis fun other inside => reads other (by simp [inside])
      exact ⟨entry :: entries, by rw [List.mapM_cons, own, others]; rfl⟩

theorem read_of_mapM {read : β → Option α} {values : List β} {entries : List α}
    (reads : values.mapM read = some entries) {value : β} (inside : value ∈ values) :
    ∃ entry, read value = some entry := by
  induction values generalizing entries with
  | nil => cases inside
  | cons first values inductionHypothesis =>
      simp only [List.mapM_cons, Option.bind_eq_bind, Option.bind_eq_some_iff] at reads
      obtain ⟨entry, own, rest, others, -⟩ := reads
      rcases List.mem_cons.mp inside with rfl | later
      · exact ⟨entry, own⟩
      · exact inductionHypothesis others later

theorem mem_of_mapM {read : β → Option α} {values : List β} {entries : List α} {entry : α}
    (reads : values.mapM read = some entries) (member : entry ∈ entries) :
    ∃ value ∈ values, read value = some entry := by
  induction values generalizing entries with
  | nil =>
      obtain rfl : [] = entries := by simpa using reads
      cases member
  | cons value values inductionHypothesis =>
      simp only [List.mapM_cons, Option.bind_eq_bind, Option.bind_eq_some_iff] at reads
      obtain ⟨first, own, rest, others, same⟩ := reads
      obtain rfl : first :: rest = entries := by simpa using same
      rcases List.mem_cons.mp member with rfl | inRest
      · exact ⟨value, by simp, own⟩
      · obtain ⟨other, inside, found⟩ := inductionHypothesis others inRest
        exact ⟨other, by simp [inside], found⟩

theorem nodup_eraseDups [BEq α] [LawfulBEq α] (entries : List α) : entries.eraseDups.Nodup := by
  induction length : entries.length using Nat.strongRecOn generalizing entries with
  | ind n inductionHypothesis =>
      cases entries with
      | nil => exact List.nodup_nil
      | cons entry rest =>
          rw [List.eraseDups_cons, List.nodup_cons]
          refine ⟨fun again => ?_, ?_⟩
          · simpa using List.mem_eraseDups.mp again
          · refine inductionHypothesis _ ?_ _ rfl
            have := List.length_filter_le (fun other => !other == entry) rest
            simp only [List.length_cons] at length
            omega

theorem eraseDups_of_nodup [BEq α] [LawfulBEq α] {entries : List α} (distinct : entries.Nodup) :
    entries.eraseDups = entries := by
  induction entries with
  | nil => rfl
  | cons entry rest inductionHypothesis =>
      obtain ⟨new, others⟩ := List.nodup_cons.mp distinct
      have unlike : rest.filter (fun other => !other == entry) = rest :=
        List.filter_eq_self.mpr fun other inside => by
          simpa using fun same : other = entry => new (same ▸ inside)
      rw [List.eraseDups_cons, unlike, inductionHypothesis others]

/-- Only the first of equal entries is kept. -/
theorem eraseDups_concat [BEq α] [LawfulBEq α] (entries : List α) (entry : α) :
    (entries ++ [entry]).eraseDups =
      if entry ∈ entries then entries.eraseDups else entries.eraseDups ++ [entry] := by
  rw [List.eraseDups_append, List.removeAll, List.filter_singleton]
  by_cases again : entry ∈ entries
  · simp [again]
  · simp [again, List.eraseDups_cons]

/-- Entries that are left out as repeated bring nothing that is not there before them. -/
theorem eraseDups_flatMap_eraseDups [BEq α] [LawfulBEq α] [BEq β] [LawfulBEq β]
    (entries : List α) (f : α → List β) :
    (entries.eraseDups.flatMap f).eraseDups = (entries.flatMap f).eraseDups := by
  induction entries using List.reverseRecOn with
  | nil => rfl
  | append_singleton entries entry inductionHypothesis =>
      have brought (b : β) : b ∈ entries.eraseDups.flatMap f ↔ b ∈ entries.flatMap f := by simp
      rw [eraseDups_concat, List.flatMap_append, List.flatMap_singleton]
      split
      next again =>
        have nothing : (f entry).removeAll (entries.flatMap f) = [] :=
          List.filter_eq_nil_iff.mpr fun b inside => by
            simpa using ⟨entry, again, inside⟩
        rw [inductionHypothesis, List.eraseDups_append, nothing, List.eraseDups_nil,
          List.append_nil]
      next =>
        have rest : (f entry).removeAll (entries.eraseDups.flatMap f) =
            (f entry).removeAll (entries.flatMap f) :=
          List.filter_congr fun b _ => by simp [brought]
        rw [List.flatMap_append, List.flatMap_singleton, List.eraseDups_append,
          List.eraseDups_append, inductionHypothesis, rest]

theorem eraseDups_append_congr [BEq α] [LawfulBEq α] {first second : List α}
    (same : first.eraseDups = second.eraseDups) (more : List α) :
    (first ++ more).eraseDups = (second ++ more).eraseDups := by
  have inside (entry : α) : entry ∈ first ↔ entry ∈ second := by
    rw [← List.mem_eraseDups, same, List.mem_eraseDups]
  have rest : more.removeAll first = more.removeAll second :=
    List.filter_congr fun entry _ => by simp [inside]
  rw [List.eraseDups_append, List.eraseDups_append, same, rest]

/-- Each entry brings what no other brings, and nothing twice. -/
def AreApart (entries : List α) (f : α → List β) : Prop :=
  (∀ entry ∈ entries, (f entry).Nodup) ∧
    ∀ entry ∈ entries, ∀ other ∈ entries, entry ≠ other → (f entry).Disjoint (f other)

theorem nodup_flatMap_eraseDups_iff [BEq α] [LawfulBEq α] {entries : List α} {f : α → List β} :
    (entries.eraseDups.flatMap f).Nodup ↔ AreApart entries f := by
  rw [List.nodup_flatMap, AreApart]
  have symmetric : Std.Symm (Function.onFun List.Disjoint f) :=
    ⟨fun _ _ apart => List.disjoint_comm.mp apart⟩
  rw [← (nodup_eraseDups entries).pairwise_coe]
  simp only [Set.Pairwise, Set.mem_ofPred_eq, List.mem_eraseDups, Function.onFun]

/-- What is brought together changes with the entry that is exchanged. -/
theorem countP_flatMap_set {entries : List α} {n : Nat} {old : α} (new : α) (f : α → List β)
    (p : β → Bool) (found : entries[n]? = some old) :
    ((entries.set n new).flatMap f).countP p + (f old).countP p =
      (entries.flatMap f).countP p + (f new).countP p := by
  induction entries generalizing n with
  | nil => simp at found
  | cons first rest inductionHypothesis =>
      cases n with
      | zero =>
          obtain rfl : first = old := by simpa using found
          simp only [List.set_cons_zero, List.flatMap_cons, List.countP_append]
          omega
      | succ n =>
          have := inductionHypothesis (by simpa using found)
          simp only [List.set_cons_succ, List.flatMap_cons, List.countP_append]
          omega

theorem countP_set {entries : List α} {n : Nat} {old : α} (new : α) (p : α → Bool)
    (found : entries[n]? = some old) :
    (entries.set n new).countP p + [old].countP p = entries.countP p + [new].countP p := by
  simpa using countP_flatMap_set new (fun entry => [entry]) p found

theorem eq_singleton_of_mem {entries : List α} {entry : α} (few : entries.length ≤ 1)
    (member : entry ∈ entries) : entries = [entry] := by
  match entries with
  | [] => simp at member
  | [only] => simpa [eq_comm] using member
  | _ :: _ :: _ => simp at few

/-- At most one entry brings anything when not more than one thing is brought. -/
theorem eq_of_flatMap_length_le {entries : List α} {f : α → List β} {i j : Nat} {first second : α}
    (few : (entries.flatMap f).length ≤ 1) (atFirst : entries[i]? = some first)
    (atSecond : entries[j]? = some second) (some : f first ≠ []) (more : f second ≠ []) :
    i = j := by
  have positive {entry : α} {n : Nat} {entries : List α} (found : entries[n]? = .some entry)
      (brings : f entry ≠ []) : 0 < (entries.flatMap f).length := by
    refine List.length_pos_iff.mpr fun nothing => brings ?_
    exact List.flatMap_eq_nil_iff.mp nothing entry (List.mem_of_getElem? found)
  induction entries generalizing i j with
  | nil => simp at atFirst
  | cons head rest inductionHypothesis =>
      simp only [List.flatMap_cons, List.length_append] at few
      cases i with
      | zero =>
          obtain rfl : head = first := by simpa using atFirst
          cases j with
          | zero => rfl
          | succ j =>
              have := positive (by simpa using atSecond) more
              have := List.length_pos_iff.mpr some
              omega
      | succ i =>
          cases j with
          | zero =>
              obtain rfl : head = second := by simpa using atSecond
              have := positive (by simpa using atFirst) some
              have := List.length_pos_iff.mpr more
              omega
          | succ j =>
              congr 1
              exact inductionHypothesis (by omega) (by simpa using atFirst)
                (by simpa using atSecond)

theorem set_eq_self {entries : List α} {n : Nat} {entry : α} (found : entries[n]? = some entry) :
    entries.set n entry = entries := by
  obtain ⟨inside, rfl⟩ := List.getElem?_eq_some_iff.mp found
  exact List.set_getElem_self inside

/-- An entry was put in or was there before. -/
theorem getElem?_set_cases {entries : List α} {n k : Nat} {new entry : α}
    (found : (entries.set n new)[k]? = some entry) :
    (k = n ∧ entry = new) ∨ (k ≠ n ∧ entries[k]? = some entry) := by
  rw [List.getElem?_set] at found
  split at found
  next same =>
    split at found
    next => exact .inl ⟨same.symm, (Option.some.inj found).symm⟩
    next => cases found
  next other => exact .inr ⟨fun same => other same.symm, found⟩

theorem mem_set_cases {entries : List α} {n : Nat} {new entry : α}
    (member : entry ∈ entries.set n new) :
    entry = new ∨ ∃ m, m ≠ n ∧ entries[m]? = some entry := by
  obtain ⟨m, found⟩ := List.mem_iff_getElem?.mp member
  rcases getElem?_set_cases found with ⟨-, same⟩ | other
  · exact .inl same
  · exact .inr ⟨m, other⟩

theorem getElem?_concat_cases {entries : List α} {k : Nat} {new entry : α}
    (found : (entries ++ [new])[k]? = some entry) :
    entries[k]? = some entry ∨ (k = entries.length ∧ entry = new) := by
  rw [List.getElem?_append] at found
  split at found
  next => exact .inl found
  next outside =>
    rw [List.getElem?_singleton] at found
    split at found
    next => exact .inr ⟨by omega, (Option.some.inj found).symm⟩
    next => cases found

/-- A list is taken apart in one way only at an entry that a function picks and none else. -/
theorem split_unique {pick : α → Option β} {before after first rest : List α} {entry chosen : α}
    (same : before ++ entry :: after = first ++ chosen :: rest)
    (nothing : before.filterMap pick = []) (nothing' : after.filterMap pick = [])
    (picked : pick chosen ≠ none) : before = first ∧ entry = chosen ∧ after = rest := by
  have absent {entries : List α} (unpicked : entries.filterMap pick = []) : chosen ∉ entries :=
    fun member => picked (List.filterMap_eq_nil_iff.mp unpicked chosen member)
  rcases List.append_eq_append_iff.mp same with ⟨more, rfl, parts⟩ | ⟨more, rfl, parts⟩
  · cases more with
    | nil =>
        obtain ⟨rfl, rfl⟩ := List.cons.inj parts
        exact ⟨(List.append_nil _).symm, rfl, rfl⟩
    | cons other more =>
        obtain ⟨-, rfl⟩ := List.cons.inj parts
        exact absurd (by simp) (absent nothing')
  · cases more with
    | nil =>
        obtain ⟨rfl, rfl⟩ := List.cons.inj parts
        exact ⟨List.append_nil _, rfl, rfl⟩
    | cons other more =>
        obtain ⟨rfl, -⟩ := List.cons.inj parts
        exact absurd (by simp) (absent nothing)

/-- What satisfies a condition is taken up to the first entry that does not. -/
theorem takeWhile_append_of_stops {p : α → Bool} {front rest : List α}
    (all : ∀ entry ∈ front, p entry = true) (stops : ∀ entry ∈ rest.head?, p entry = false) :
    (front ++ rest).takeWhile p = front := by
  rw [List.takeWhile_append_of_pos all]
  cases rest with
  | nil => exact List.append_nil front
  | cons entry rest =>
      rw [List.takeWhile_cons_of_neg (by simp [stops entry rfl]), List.append_nil]

theorem dropWhile_append_of_stops {p : α → Bool} {front rest : List α}
    (all : ∀ entry ∈ front, p entry = true) (stops : ∀ entry ∈ rest.head?, p entry = false) :
    (front ++ rest).dropWhile p = rest := by
  rw [List.dropWhile_append_of_pos all]
  cases rest with
  | nil => rfl
  | cons entry rest => exact List.dropWhile_cons_of_neg (by simp [stops entry rfl])

/-- The entries at all the places of a list are the list. -/
theorem filterMap_range' (entries : List α) (base : Nat) :
    ((List.range' base entries.length).filterMap fun n => entries[n - base]?) = entries := by
  induction entries generalizing base with
  | nil => rfl
  | cons entry rest inductionHypothesis =>
      have shifted (n : Nat) (member : n ∈ List.range' (base + 1) rest.length) :
          (entry :: rest)[n - base]? = rest[n - (base + 1)]? := by
        have above : base + 1 ≤ n := (List.mem_range'_1.mp member).1
        rw [show n - base = n - (base + 1) + 1 by omega, List.getElem?_cons_succ]
      have first : (entry :: rest)[base - base]? = some entry := by simp
      rw [List.length_cons, List.range'_succ, List.filterMap_cons, first,
        List.filterMap_congr shifted, inductionHypothesis]

theorem mem_intercalate {separator : List α} {parts : List (List α)} {a : α}
    (member : a ∈ separator.intercalate parts) : a ∈ separator ∨ ∃ part ∈ parts, a ∈ part := by
  induction parts with
  | nil => cases member
  | cons part parts inductionHypothesis =>
      cases parts with
      | nil =>
          rw [List.intercalate_singleton] at member
          exact .inr ⟨part, by simp, member⟩
      | cons next others =>
          rw [List.intercalate_cons_cons] at member
          rcases List.mem_append.mp member with first | later
          · rcases List.mem_append.mp first with own | between
            · exact .inr ⟨part, by simp, own⟩
            · exact .inl between
          · rcases inductionHypothesis later with between | ⟨other, among, inside⟩
            · exact .inl between
            · exact .inr ⟨other, List.mem_cons_of_mem _ among, inside⟩

end TokenAcquisition.Lists
