import Mathlib.Data.List.Range
import TokenAcquisition.Proofs.Credential.Family
import TokenAcquisition.Proofs.Credential.Sharing

/-!
Many callers save to one cache at once.  Each has the store for itself while it changes and writes
it, so what all of them make of it is what their calls make of it one after another, in the order
in which they got it.  Whatever that order is, each credential is kept.
-/

namespace TokenAcquisition.Cache

namespace Occurrence

/-- Which call has got the store for itself. -/
def taker? : Occurrence → Option Nat
  | .took n => some n
  | _ => none

end Occurrence

namespace Sharing

/-- The calls in the order in which each had the store for itself. -/
def turns (trace : List Occurrence) : List Nat :=
  trace.filterMap Occurrence.taker?

def call? (s : Sharing) (n : Nat) : Option Call :=
  s.calls[n]?.map Underway.call

/-- What the calls make of a store one after another. -/
def madeBy (s : Sharing) (store : Store) (order : List Nat) : Store :=
  (order.filterMap s.call?).foldl Call.made store

def HasReturned (s : Sharing) (n : Nat) : Prop :=
  ∃ call answer, s.calls[n]? = some { call, answer := some answer }

variable {start s t u v : Sharing} {trace later occurrences : List Occurrence} {n : Nat}
  {store : Store} {order : List Nat} {family : List Save}

@[simp]
theorem turns_append (earlier later : List Occurrence) :
    turns (earlier ++ later) = turns earlier ++ turns later :=
  List.filterMap_append

/-- A call stays as it is until it returns. -/
theorem Step.entry (step : Step s occurrences t) {entry : Underway}
    (found : s.calls[n]? = some entry) :
    t.calls[n]? = some entry ∨ entry.answer = none ∧
      ∃ answer, t.calls[n]? = some { entry with answer := some answer } := by
  have answered {m : Nat} {call : Call} (own : s.calls[m]? = some { call }) (told : Answer) :
      (s.answer m call told).calls[n]? = some entry ∨ entry.answer = none ∧
        ∃ answer, (s.answer m call told).calls[n]? = some { entry with answer := some answer } := by
    have inside := (List.getElem?_eq_some_iff.mp own).1
    by_cases same : m = n
    · subst same
      obtain rfl := Option.some.inj (own.symm.trans found)
      exact .inr ⟨rfl, told, List.getElem?_set_self inside⟩
    · exact .inl ((List.getElem?_set_ne same).trans found)
  cases step with
  | call call =>
      have inside := (List.getElem?_eq_some_iff.mp found).1
      exact .inl ((List.getElem?_append_left inside).trans found)
  | skip _ _ own => exact answered own _
  | finish _ own => exact answered own _
  | fail _ _ own => exact answered own _
  | _ => exact .inl found

theorem Step.hasReturned (step : Step s occurrences t) (returned : s.HasReturned n) :
    t.HasReturned n := by
  obtain ⟨call, answer, found⟩ := returned
  rcases step.entry found with same | ⟨unanswered, -⟩
  · exact ⟨call, answer, same⟩
  · cases unanswered

theorem Step.call? (step : Step s occurrences t) (known : (s.call? n).isSome) :
    t.call? n = s.call? n := by
  obtain ⟨call, own⟩ := Option.isSome_iff_exists.mp known
  obtain ⟨entry, found, rfl⟩ := Option.map_eq_some_iff.mp own
  rw [own]
  rcases step.entry found with same | ⟨-, answer, same⟩
  · simp only [Sharing.call?, same, Option.map_some]
  · simp only [Sharing.call?, same, Option.map_some]

theorem Step.madeBy (step : Step s occurrences t) (known : ∀ n ∈ order, (s.call? n).isSome) :
    t.madeBy store order = s.madeBy store order := by
  simp only [Sharing.madeBy]
  rw [List.filterMap_congr fun n member => step.call? (known n member)]

/-- Whoever returns had the store, or found nothing to change. -/
theorem Step.returned_cases (step : Step s occurrences t) {call : Call} {answer : Answer}
    (returned : t.calls[n]? = some { call, answer := some answer }) :
    s.calls[n]? = some { call, answer := some answer } ∨
      (∃ stage, s.writing = some (.call n, stage)) ∨ ∃ held, call.change? held = none := by
  cases step with
  | call other =>
      rcases Lists.getElem?_concat_cases returned with old | ⟨-, new⟩
      · exact .inl old
      · cases new
  | skip _ _ _ nothing =>
      rcases Lists.getElem?_set_cases returned with ⟨rfl, same⟩ | ⟨-, old⟩
      · cases same
        exact .inr (.inr ⟨_, nothing⟩)
      · exact .inl old
  | finish held =>
      rcases Lists.getElem?_set_cases returned with ⟨rfl, -⟩ | ⟨-, old⟩
      · exact .inr (.inl ⟨_, held⟩)
      · exact .inl old
  | fail held =>
      rcases Lists.getElem?_set_cases returned with ⟨rfl, -⟩ | ⟨-, old⟩
      · exact .inr (.inl ⟨_, held⟩)
      · exact .inl old
  | _ => exact .inl returned

/-- How far those have got that came to a cache at which nobody was at work. -/
structure Served (start s : Sharing) (store : Store) (later : List Occurrence) (u : Sharing) :
    Prop where
  /-- Memory holds what they make of it in turn. -/
  memory : u.memory = some (u.madeBy store (turns later))
  once : (turns later).Nodup
  recent : ∀ n ∈ turns later, s.calls.length ≤ n
  old : ∀ n < s.calls.length, u.HasReturned n
  /-- Whoever had a turn still has it, or has returned. -/
  past : ∀ n ∈ turns later,
    (∃ stage, u.writing = some (.call n, stage)) ∨ u.HasReturned n
  writer : ∀ {author stage}, u.writing = some (author, stage) →
    ∃ n ∈ turns later, author = .call n
  /-- Whoever has returned had a turn, or found nothing to change. -/
  returned : ∀ {n call answer}, s.calls.length ≤ n →
    u.calls[n]? = some { call, answer := some answer } →
    n ∈ turns later ∨ ∃ held, call.change? held = none
  /-- When nobody is at work the file holds what memory does, unless a write failed. -/
  file : u.writing = none → turns later = [] ∨ u.file = start.file.holding u.store ∨
    ∃ n failure, s.calls.length ≤ n ∧ .returned (.call n) (.error failure) ∈ later

namespace Served

theorem known (served : Served start s store later u) (attended : Attended trace u) :
    ∀ n ∈ turns later, (u.call? n).isSome := by
  intro n member
  rcases served.past n member with ⟨stage, held⟩ | ⟨call, answer, found⟩
  · obtain ⟨-, call, found⟩ := attended.called held
    simp [call?, found]
  · simp [call?, found]

/-- When nobody is at work, whoever had a turn has returned. -/
theorem hasReturned (served : Served start s store later u) (idle : u.writing = none) :
    ∀ n ∈ turns later, u.HasReturned n := by
  intro n member
  rcases served.past n member with ⟨stage, held⟩ | returned
  · rw [idle] at held
    cases held
  · exact returned

theorem nobody (loaded : s.memory = some store) (idle : s.writing = none)
    (answered : ∀ n < s.calls.length, s.HasReturned n) : Served start s store [] s where
  memory := loaded
  once := List.nodup_nil
  recent := nofun
  old := answered
  past := nofun
  writer held := by simp [idle] at held
  returned recent found := absurd (List.getElem?_eq_some_iff.mp found).1 (Nat.not_lt.mpr recent)
  file _ := .inl rfl

/-- A step in which nobody gets the store. -/
theorem untaken (served : Served start s store later u) (attended : Attended trace u)
    (after : Attended (trace ++ occurrences) v) (step : Step u occurrences v)
    (silent : turns occurrences = []) (memory : v.memory = u.memory)
    (writer : ∀ {author stage}, v.writing = some (author, stage) →
      ∃ before, u.writing = some (author, before))
    (file : v.writing = none → turns later = [] ∨ v.file = start.file.holding v.store ∨
      ∃ n failure, s.calls.length ≤ n ∧
        .returned (.call n) (.error failure) ∈ later ++ occurrences) :
    Served start s store (later ++ occurrences) v := by
  have same : turns (later ++ occurrences) = turns later := by
    rw [turns_append, silent, List.append_nil]
  constructor
  case memory => rw [memory, served.memory, same, step.madeBy (served.known attended)]
  case once => exact same ▸ served.once
  case recent => exact same ▸ served.recent
  case old => exact fun n inside => step.hasReturned (served.old n inside)
  case past =>
    intro n member
    rcases served.past n (same ▸ member) with ⟨stage, held⟩ | returned
    · rcases step.writing_cases held with ⟨next, still, -⟩ | ⟨answer, rfl⟩
      · exact .inl ⟨next, still⟩
      · obtain ⟨call, found⟩ : ∃ call, v.calls[n]? = some { call, answer := some answer } :=
          after.answered (by simp)
        exact .inr ⟨call, answer, found⟩
    · exact .inr (step.hasReturned returned)
  case writer =>
    intro author stage held
    obtain ⟨before, held⟩ := writer held
    exact same ▸ served.writer held
  case returned =>
    intro n call answer recent found
    rw [same]
    rcases step.returned_cases found with old | ⟨stage, held⟩ | nothing
    · exact served.returned recent old
    · obtain ⟨m, member, own⟩ := served.writer held
      cases own
      exact .inl member
    · exact .inr nothing
  case file => exact same ▸ file

/-- A call gets the store and changes it. -/
theorem took (served : Served start s store later u) {held changed : Store} {call : Call}
    (loaded : u.memory = some held) (idle : u.writing = none) (found : u.calls[n]? = some { call })
    (changes : call.change? held = some changed) :
    Served start s store (later ++ [.took n])
      { u with memory := some changed, writing := some (.call n, .drafting) } := by
  have turn : turns (later ++ [.took n]) = turns later ++ [n] := turns_append later [.took n]
  have waiting : ¬ u.HasReturned n := by
    rintro ⟨call, answer, returned⟩
    rw [found] at returned
    cases returned
  constructor
  case memory =>
    -- The last turn comes after all the others, which is the order of the fold.
    have holds : held = u.madeBy store (turns later) :=
      Option.some.inj (loaded.symm.trans served.memory)
    have made : call.made held = changed := by rw [Call.made, changes, Option.getD_some]
    have own : u.call? n = some call := by rw [call?, found, Option.map_some]
    rw [turn, ← made, holds]
    show some _ = some (u.madeBy store (turns later ++ [n]))
    rw [madeBy, madeBy, List.filterMap_append, List.foldl_append, List.filterMap_cons_some own]
    rfl
  case once =>
    rw [turn]
    refine List.nodup_append.mpr ⟨served.once, by simp, ?_⟩
    rintro m member _ last rfl
    obtain rfl := List.mem_singleton.mp last
    exact waiting (served.hasReturned idle m member)
  case recent =>
    rw [turn]
    intro m member
    rcases List.mem_append.mp member with before | last
    · exact served.recent m before
    · obtain rfl := List.mem_singleton.mp last
      exact Nat.le_of_not_lt fun inside => waiting (served.old m inside)
  case old => exact served.old
  case past =>
    rw [turn]
    intro m member
    rcases List.mem_append.mp member with before | last
    · exact .inr (served.hasReturned idle m before)
    · obtain rfl := List.mem_singleton.mp last
      exact .inl ⟨_, rfl⟩
  case writer =>
    intro author stage writing
    cases writing
    exact ⟨n, by simp [turn], rfl⟩
  case returned =>
    intro m other answer recent returned
    rw [turn, List.mem_append]
    exact (served.returned recent returned).imp_left .inl
  case file =>
    intro idle
    cases idle

theorem step (served : Served start s store later u) (attended : Attended trace u)
    (ready : Ready start u) (step : Step u occurrences v) :
    Served start s store (later ++ occurrences) v := by
  have after := step.attended attended
  have loaded := served.memory
  have unopened {stage : Stage} : u.writing ≠ some (.opener, stage) := by
    intro held
    obtain ⟨n, -, own⟩ := served.writer held
    cases own
  have onward := served.untaken attended after step
  have still (idle : u.writing = none) :
      turns later = [] ∨ u.file = start.file.holding u.store ∨
        ∃ n failure, s.calls.length ≤ n ∧
          .returned (.call n) (.error failure) ∈ later ++ occurrences := by
    rcases served.file idle with none | holds | ⟨n, failure, recent, member⟩
    · exact .inl none
    · exact .inr (.inl holds)
    · exact .inr (.inr ⟨n, failure, recent, by simp [member]⟩)
  cases step with
  | read unloaded => simp [loaded] at unloaded
  | refuse unloaded => simp [loaded] at unloaded
  | create unloaded => simp [loaded] at unloaded
  | call => exact onward rfl rfl (fun held => ⟨_, held⟩) still
  | skip _ idle => exact onward rfl rfl nofun fun _ => still idle
  | take same idle found changes => exact served.took same idle found changes
  | scribble _ held =>
      refine onward rfl rfl (fun held => ⟨_, held⟩) fun idle => ?_
      simp [held] at idle
  | draft _ held =>
      refine onward rfl rfl (fun moved => ?_) nofun
      cases moved
      exact ⟨_, held⟩
  | close held =>
      refine onward rfl rfl (fun moved => ?_) nofun
      cases moved
      exact ⟨_, held⟩
  | replace held =>
      refine onward rfl rfl (fun moved => ?_) nofun
      cases moved
      exact ⟨_, held⟩
  | opened held => exact absurd held unopened
  | giveUp held => exact absurd held unopened
  | finish held => exact onward rfl rfl nofun fun _ => .inr (.inl (ready.replaced held))
  | @fail n call stage fault held =>
      obtain ⟨m, member, own⟩ := served.writer held
      cases own
      exact onward rfl rfl nofun fun _ =>
        .inr (.inr ⟨n, fault.failure, served.recent n member, by simp⟩)

end Served

theorem Run.served (fresh : start.IsFresh) (before : start.Run trace s)
    (loaded : s.memory = some store) (idle : s.writing = none)
    (answered : ∀ n < s.calls.length, s.HasReturned n) (run : s.Run later u) :
    Served start s store later u := by
  induction run with
  | refl => exact .nobody loaded idle answered
  | step run last inductionHypothesis =>
      have whole := before.trans run
      exact inductionHypothesis.step (whole.attended fresh) (whole.ready fresh) last

/-! ### Saves at once -/

/-- Some credentials are saved by as many calls, which come in any order, and none of them
fails. -/
structure Completes (s : Sharing) (family : List Save) (later : List Occurrence) (t : Sharing) :
    Prop where
  run : s.Run later t
  calls : ∃ issued : List Save, issued.Perm family ∧
    t.calls = s.calls ++ issued.map fun save => { call := save.call, answer := some (.ok none) }

namespace Completes

theorem entry (completes : Completes s family later t) {entry : Underway}
    (recent : s.calls.length ≤ n) (found : t.calls[n]? = some entry) :
    ∃ save ∈ family, entry = { call := save.call, answer := some (.ok none) } := by
  obtain ⟨issued, perm, calls⟩ := completes.calls
  rw [calls, List.getElem?_append_right recent, List.getElem?_map,
    Option.map_eq_some_iff] at found
  obtain ⟨save, own, rfl⟩ := found
  exact ⟨save, perm.subset (List.mem_of_getElem? own), rfl⟩

theorem length (completes : Completes s family later t) :
    t.calls.length = s.calls.length + family.length := by
  obtain ⟨issued, perm, calls⟩ := completes.calls
  rw [calls, List.length_append, List.length_map, perm.length_eq]

section

variable (completes : Completes s family later t) (attended : Attended trace t)
  (served : Served start s store later t)
include completes attended served

theorem idle : t.writing = none := by
  cases writing : t.writing with
  | none => rfl
  | some held =>
      obtain ⟨author, stage⟩ := held
      obtain ⟨n, member, rfl⟩ := served.writer writing
      obtain ⟨-, call, found⟩ := attended.called writing
      obtain ⟨save, -, answered⟩ := completes.entry (served.recent n member) found
      cases answered

/-- Each call had the store once. -/
theorem turns_perm : (turns later).Perm (List.range' s.calls.length family.length) := by
  refine (List.perm_ext_iff_of_nodup served.once List.nodup_range').mpr fun n => ?_
  rw [List.mem_range'_1]
  constructor
  · intro member
    obtain ⟨call, found⟩ := Option.isSome_iff_exists.mp (served.known attended n member)
    obtain ⟨entry, own, -⟩ := Option.map_eq_some_iff.mp found
    have inside := (List.getElem?_eq_some_iff.mp own).1
    exact ⟨served.recent n member, completes.length ▸ inside⟩
  · rintro ⟨recent, inside⟩
    rw [← completes.length] at inside
    have found := List.getElem?_eq_getElem inside
    obtain ⟨save, -, same⟩ := completes.entry recent found
    rw [same] at found
    -- A save always has something to change, so it cannot have returned without its turn.
    rcases served.returned recent found with member | ⟨held, nothing⟩
    · exact member
    · cases nothing

/-- What memory holds is what the saves make of it in some order. -/
theorem memory :
    ∃ order : List Save, order.Perm family ∧ t.memory = some (store.saveAll order) := by
  have perm := completes.turns_perm attended served
  obtain ⟨issued, issuedPerm, calls⟩ := completes.calls
  have call (n : Nat) (member : n ∈ turns later) :
      t.call? n = (issued[n - s.calls.length]?).map Save.call := by
    rw [call?, calls, List.getElem?_append_right (served.recent n member), List.getElem?_map,
      Option.map_map]
    rfl
  refine ⟨(turns later).filterMap fun n => issued[n - s.calls.length]?, ?_, ?_⟩
  · refine .trans (perm.filterMap _) (.trans (.of_eq ?_) issuedPerm)
    rw [← issuedPerm.length_eq]
    exact Lists.filterMap_range' issued s.calls.length
  · rw [served.memory, madeBy, List.filterMap_congr call, ← List.map_filterMap, List.foldl_map]
    rfl

end

/-- When there was anything to save, the file holds what memory does. -/
theorem file (completes : Completes s family later t) (attended : Attended (trace ++ later) t)
    (loaded : s.memory = some store) (idle : s.writing = none)
    (served : Served start s store later t) :
    (family = [] → t.file = s.file) ∧
      (family ≠ [] → t.file = start.file.holding t.store) := by
  have perm := completes.turns_perm attended served
  constructor
  · rintro rfl
    have untaken (n : Nat) : .took n ∉ later := fun member => by
      have turn : n ∈ turns later := List.mem_filterMap.mpr ⟨.took n, member, rfl⟩
      cases perm.subset turn
    exact (completes.run.idle loaded idle untaken).2.2
  · intro some
    rcases served.file (completes.idle attended served) with
      none | holds | ⟨n, failure, recent, member⟩
    · rw [none] at perm
      have empty := perm.length_eq
      rw [List.length_range'] at empty
      exact absurd (List.length_eq_zero_iff.mp empty.symm) some
    · exact holds
    · obtain ⟨call, found⟩ := attended.answered (List.mem_append_right trace member)
      obtain ⟨save, -, same⟩ := completes.entry recent found
      cases same

end Completes

/-! ### Any order -/

theorem exists_run_calls (loaded : s.memory = some store)
    (fits : ∀ save ∈ family, save.call.Fits) :
    ∃ t, s.Run [] t ∧ t.memory = some store ∧ t.writing = s.writing ∧
      t.calls = s.calls ++ family.map fun save => { call := save.call } := by
  induction family generalizing s with
  | nil => exact ⟨s, .refl, loaded, rfl, by simp⟩
  | cons save rest inductionHypothesis =>
      have called := Run.refl.step (Step.call save.call loaded (fits save (by simp)))
      obtain ⟨t, run, same, writing, calls⟩ :=
        inductionHypothesis (s := { s with calls := s.calls ++ [{ call := save.call }] }) loaded
          fun other inside => fits other (by simp [inside])
      exact ⟨t, called.trans run, same, writing, by simp [calls]⟩

theorem exists_run_save (loaded : s.memory.isSome) (idle : s.writing = none) {save : Save}
    (found : s.calls[n]? = some { call := save.call }) :
    ∃ later t, s.Run later t ∧ turns later = [n] ∧ t.memory.isSome ∧ t.writing = none ∧
      t.calls = s.calls.set n { call := save.call, answer := some (.ok none) } := by
  obtain ⟨held, loaded⟩ := Option.isSome_iff_exists.mp loaded
  have taken := Run.refl.step (.take loaded idle found rfl)
  have drafted := taken.step (.draft CacheFile.ownerOnly rfl)
  have replaced := (drafted.step (.close rfl rfl)).step (.replace rfl rfl)
  exact ⟨_, _, replaced.step (.finish rfl found), rfl, rfl, rfl, rfl⟩

/-- Those who wait can have their turns in any order. -/
theorem exists_run_turns (loaded : s.memory.isSome) (idle : s.writing = none)
    (once : order.Nodup)
    (waiting : ∀ n ∈ order, ∃ save : Save, s.calls[n]? = some { call := save.call }) :
    ∃ later t, s.Run later t ∧ turns later = order ∧
      ∀ n, t.calls[n]? =
        if n ∈ order then s.calls[n]?.map fun entry => { entry with answer := some (.ok none) }
        else s.calls[n]? := by
  induction order generalizing s with
  | nil => exact ⟨[], s, .refl, rfl, by simp⟩
  | cons n rest inductionHypothesis =>
      obtain ⟨fresh, once⟩ := List.nodup_cons.mp once
      obtain ⟨save, found⟩ := waiting n (by simp)
      obtain ⟨first, u, run, turn, loaded, idle, calls⟩ := exists_run_save loaded idle found
      have other {m : Nat} (different : m ≠ n) : u.calls[m]? = s.calls[m]? := by
        rw [calls, List.getElem?_set_ne (Ne.symm different)]
      have apart {m : Nat} (member : m ∈ rest) : m ≠ n := fun same => fresh (same ▸ member)
      obtain ⟨later, t, further, turns, entries⟩ :=
        inductionHypothesis loaded idle once fun m member => by
          rw [other (apart member)]
          exact waiting m (by simp [member])
      refine ⟨first ++ later, t, run.trans further, by simp [turn, turns], fun m => ?_⟩
      rw [entries]
      by_cases same : m = n
      · subst same
        have inside := (List.getElem?_eq_some_iff.mp found).1
        rw [if_neg fresh, if_pos (by simp), calls, List.getElem?_set_self inside, found]
        rfl
      · simp only [other same, List.mem_cons, same, false_or]

theorem exists_completes (loaded : s.memory = some store) (idle : s.writing = none)
    (fits : ∀ save ∈ family, save.call.Fits)
    (perm : order.Perm (List.range' s.calls.length family.length)) :
    ∃ later t, Completes s family later t ∧ turns later = order := by
  obtain ⟨u, called, same, writing, calls⟩ := exists_run_calls loaded fits
  have recent {n : Nat} :
      n ∈ order ↔ s.calls.length ≤ n ∧ n < s.calls.length + family.length := by
    rw [perm.mem_iff, List.mem_range'_1]
  have waiting (n : Nat) (member : n ∈ order) :
      ∃ save : Save, u.calls[n]? = some { call := save.call } := by
    obtain ⟨above, below⟩ := recent.mp member
    have inside : n - s.calls.length < family.length := by omega
    exact ⟨family[n - s.calls.length], by
      rw [calls, List.getElem?_append_right above, List.getElem?_map,
        List.getElem?_eq_getElem inside, Option.map_some]⟩
  obtain ⟨later, t, run, turns, entries⟩ :=
    exists_run_turns (by simp [same]) (writing.trans idle)
      (perm.nodup_iff.mpr List.nodup_range') waiting
  refine ⟨later, t, ⟨called.trans run, family, .refl _, List.ext_getElem? fun n => ?_⟩, turns⟩
  rw [entries, calls]
  split
  next member =>
    obtain ⟨above, -⟩ := recent.mp member
    rw [List.getElem?_append_right above, List.getElem?_append_right above, List.getElem?_map,
      List.getElem?_map, Option.map_map]
    rfl
  next absent =>
    by_cases old : n < s.calls.length
    · rw [List.getElem?_append_left old, List.getElem?_append_left old]
    · have beyond : family.length ≤ n - s.calls.length := by
        have := mt recent.mpr absent
        omega
      rw [List.getElem?_append_right (Nat.le_of_not_lt old),
        List.getElem?_append_right (Nat.le_of_not_lt old)]
      simp [beyond]

/-- What comes of saving some credentials at once. -/
structure SavedTogether (s : Sharing) (store : Store) (family : List Save) : Prop where
  /-- Each call has the store once. -/
  turns : ∀ {later t}, Completes s family later t →
    (turns later).Perm (List.range' s.calls.length family.length)
  /-- Nothing is lost, neither in memory nor in the file. -/
  saves : ∀ {later t}, Completes s family later t →
    ∃ final, t.memory = some final ∧ store.Saves family final ∧
      (family = [] → t.file = s.file) ∧
      (family ≠ [] → t.file = s.file.holding final ∧ t.file.load = .ok (final, t.file))
  /-- It does not matter who came first. -/
  agree : ∀ {later later' t t' final final'}, Completes s family later t →
    Completes s family later' t' → t.memory = some final → t'.memory = some final' →
    final.credentials = final'.credentials ∧ final.metadata.Perm final'.metadata
  /-- The calls can have the store in any order. -/
  reached : ∀ {order}, (∀ save ∈ family, save.call.Fits) →
    order.Perm (List.range' s.calls.length family.length) →
    ∃ later t, Completes s family later t ∧ Sharing.turns later = order

/-- Credentials that are saved at once are all kept, whoever comes first. -/
theorem saved_together (fresh : start.IsFresh) (before : start.Run trace s)
    (loaded : s.memory = some store) (idle : s.writing = none)
    (answered : ∀ entry ∈ s.calls, entry.answer.isSome) (compatible : Save.Compatible family) :
    SavedTogether s store family := by
  have returned (n : Nat) (inside : n < s.calls.length) : s.HasReturned n := by
    have found := List.getElem?_eq_getElem inside
    obtain ⟨answer, told⟩ :=
      Option.isSome_iff_exists.mp (answered _ (List.getElem_mem inside))
    exact ⟨_, answer, found.trans (congrArg some (by rw [← told]))⟩
  have served {later t} (completes : Completes s family later t) :
      Served start s store later t := before.served fresh loaded idle returned completes.run
  have attended {later t} (completes : Completes s family later t) :
      Attended (trace ++ later) t := (before.trans completes.run).attended fresh
  have ready {later t} (completes : Completes s family later t) : Ready start t :=
    (before.trans completes.run).ready fresh
  have saves {later t final} (completes : Completes s family later t)
      (holds : t.memory = some final) : store.Saves family final := by
    obtain ⟨order, perm, memory⟩ := completes.memory (attended completes) (served completes)
    obtain rfl := Option.some.inj (holds.symm.trans memory)
    exact (store.saves_saveAll (compatible.perm perm)).perm perm
  have sound {later t final} (completes : Completes s family later t)
      (holds : t.memory = some final) : final.IsSound := by
    have sound := (ready completes).sound
    rwa [Sharing.store, holds] at sound
  constructor
  case turns => exact fun completes => completes.turns_perm (attended completes) (served completes)
  case saves =>
    intro later t completes
    obtain ⟨order, -, holds⟩ := completes.memory (attended completes) (served completes)
    obtain ⟨unchanged, written⟩ :=
      completes.file (attended completes) loaded idle (served completes)
    refine ⟨_, holds, saves completes holds, unchanged, fun some => ?_⟩
    have file : t.file = s.file.holding (store.saveAll order) := by
      obtain ⟨_, _, same⟩ := (before.ready fresh).based
      rw [written some, Sharing.store, holds, same]
      rfl
    rw [file]
    exact ⟨rfl, CacheFile.load_holding _ (sound completes holds)⟩
  case agree =>
    intro later later' t t' final final' completes completes' holds holds'
    have first := saves completes holds
    have second := saves completes' holds'
    exact ⟨first.credentials_eq second,
      first.metadata_perm second (sound completes holds) (sound completes' holds')⟩
  case reached => exact fun fits perm => exists_completes loaded idle fits perm

/-- Credentials of two accounts, which come with the same entry for their application. -/
def sampleFamily : List Save :=
  let metadata : AppMetadata := { clientId := "app", environment := "e", applicationUid := 0 }
  [{ clientId := "app", credential := { account := sampleAccount }, metadata },
    { clientId := "app"
      credential := { account := { sampleAccount with homeAccountId := "v" } }
      metadata }]

theorem exists_run_opened :
    ∃ trace s, sample.Run trace s ∧ s.memory = some {} ∧ s.writing = none ∧ s.calls = [] := by
  have created := Run.refl.step (Step.create (s := sample) rfl rfl (.inl rfl))
  have drafted := created.step (.draft 0o644 rfl)
  have opened := ((drafted.step (.close rfl rfl)).step (.replace rfl rfl)).step (.opened rfl)
  exact ⟨_, _, opened, rfl, rfl, rfl⟩

/-- The cache has just been made, and two callers save at once. -/
theorem sample_saved_together :
    ∃ trace s, sample.IsFresh ∧ sample.Run trace s ∧ s.memory = some {} ∧ s.writing = none ∧
      (∀ entry ∈ s.calls, entry.answer.isSome) ∧ Save.Compatible sampleFamily ∧
      SavedTogether s {} sampleFamily := by
  have compatible : Save.Compatible sampleFamily := ⟨by decide +kernel, by simp [sampleFamily]⟩
  obtain ⟨trace, s, opened, loaded, idle, none⟩ := exists_run_opened
  have answered : ∀ entry ∈ s.calls, entry.answer.isSome := by simp [none]
  exact ⟨trace, s, sample_isFresh, opened, loaded, idle, answered, compatible,
    saved_together sample_isFresh opened loaded idle answered compatible⟩

end Sharing

end TokenAcquisition.Cache
