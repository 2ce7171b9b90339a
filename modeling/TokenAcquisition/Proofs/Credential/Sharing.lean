import TokenAcquisition.Proofs.Credential.Encoding

/-!
One cache that any number of callers share.  Whoever changes the store keeps everyone else from it
until it is written: to a draft beside the cache file, which is closed to other users and then
takes the place of the file.  Half of a draft may be there at any time, each step may fail, and
the next caller may come after any of them.  Still the file is the one of the beginning, or holds
the whole store that memory held at the last write that did not fail, and is read as that store.
-/

namespace TokenAcquisition.Cache

/-- The file that is written before it takes the place of the cache file. -/
structure Draft where
  content : String
  mode : Nat

/-- How far a write has got. -/
inductive Stage where
  | drafting
  | closing
  | replacing
  | replaced
  deriving DecidableEq

/-- What can go wrong with the next step of a write. -/
def Stage.Raises : Stage → CacheFile.Fault → Prop
  | .drafting, .noParent => True
  | .drafting, .writing _ => True
  | .closing, .closing _ => True
  | .replacing, .renaming _ => True
  | _, _ => False

/-- Whoever writes: the one who loads the cache, when there is no file, or a call. -/
inductive Author where
  | opener
  | call (n : Nat)
  deriving DecidableEq

abbrev Answer := Except Failure (Option Bool)

structure Underway where
  call : Call
  answer : Option Answer := none

/-- What is to be seen of a step. -/
inductive Occurrence where
  /-- A call has the store for itself and has changed it in memory. -/
  | took (n : Nat)
  | wrote (author : Author)
  | returned (author : Author) (answer : Answer)

/-- A cache with its file and everyone who uses it. -/
structure Sharing where
  /-- Nothing before the cache is loaded. -/
  memory : Option Store := none
  file : CacheFile
  draft : Option Draft := none
  /-- Who has the store for itself, and how far its write has got. -/
  writing : Option (Author × Stage) := none
  calls : List Underway := []

namespace Sharing

/-- The store that a write writes: an empty one when the cache is being made. -/
def store (s : Sharing) : Store :=
  s.memory.getD {}

/-- A call returns. -/
def answer (s : Sharing) (n : Nat) (call : Call) (answer : Answer) : Sharing :=
  { s with writing := none, calls := s.calls.set n { call, answer := some answer } }

/-- One step of anyone. -/
inductive Step : Sharing → List Occurrence → Sharing → Prop where
  /-- The cache is loaded from its file. -/
  | read {s : Sharing} {store} :
      s.memory = none → s.writing = none → s.file.load = .ok (store, s.file) →
      Step s [.returned .opener (.ok none)] { s with memory := some store }
  | refuse {s : Sharing} {fault} :
      s.memory = none → s.writing = none → s.file.load = .error fault →
      Step s [.returned .opener (.error fault.failure)] s
  /-- There is no file, and the cache is to be loaded. -/
  | create {s : Sharing} :
      s.memory = none → s.writing = none → s.file.entry = .absent ∨ s.file.entry = .impossible →
      Step s [] { s with writing := some (.opener, .drafting) }
  | call {s : Sharing} {store} (call : Call) :
      s.memory = some store → call.Fits →
      Step s [] { s with calls := s.calls ++ [{ call }] }
  /-- A call finds nothing to change. -/
  | skip {s : Sharing} {n call store} :
      s.memory = some store → s.writing = none → s.calls[n]? = some { call } →
      call.change? store = none →
      Step s [.returned (.call n) (.ok (call.told false))]
        (s.answer n call (.ok (call.told false)))
  | take {s : Sharing} {n call store changed} :
      s.memory = some store → s.writing = none → s.calls[n]? = some { call } →
      call.change? store = some changed →
      Step s [.took n]
        { s with memory := some changed, writing := some (.call n, .drafting) }
  /-- Part of the draft is there, or it is empty again, or something else is in it. -/
  | scribble {s : Sharing} {author} (draft : Option Draft) :
      s.writing = some (author, .drafting) → Step s [] { s with draft }
  | draft {s : Sharing} {author} (mode : Nat) :
      s.writing = some (author, .drafting) →
      Step s []
        { s with
          draft := some { content := CacheFile.print s.store, mode }
          writing := some (author, .closing) }
  | close {s : Sharing} {author draft} :
      s.writing = some (author, .closing) → s.draft = some draft →
      Step s []
        { s with
          draft := some { draft with mode := CacheFile.ownerOnly }
          writing := some (author, .replacing) }
  | replace {s : Sharing} {author draft} :
      s.writing = some (author, .replacing) → s.draft = some draft →
      Step s [.wrote author]
        { s with
          file := { s.file with entry := .text draft.content, mode := draft.mode }
          draft := none
          writing := some (author, .replaced) }
  | opened {s : Sharing} :
      s.writing = some (.opener, .replaced) →
      Step s [.returned .opener (.ok none)] { s with memory := some s.store, writing := none }
  | giveUp {s : Sharing} {stage fault} :
      s.writing = some (.opener, stage) → stage.Raises fault →
      Step s [.returned .opener (.error fault.failure)] { s with writing := none }
  | finish {s : Sharing} {n call} :
      s.writing = some (.call n, .replaced) → s.calls[n]? = some { call } →
      Step s [.returned (.call n) (.ok (call.told true))]
        (s.answer n call (.ok (call.told true)))
  | fail {s : Sharing} {n call stage fault} :
      s.writing = some (.call n, stage) → stage.Raises fault → s.calls[n]? = some { call } →
      Step s [.returned (.call n) (.error fault.failure)]
        (s.answer n call (.error fault.failure))

inductive Run (s : Sharing) : List Occurrence → Sharing → Prop where
  | refl : Run s [] s
  | step {trace t occurrences u} :
      Run s trace t → Step t occurrences u → Run s (trace ++ occurrences) u

variable {start s t u v : Sharing} {trace earlier later occurrences : List Occurrence}
  {author : Author} {stage : Stage} {n : Nat}

theorem Run.trans (run : s.Run trace t) (further : t.Run later u) : s.Run (trace ++ later) u := by
  induction further with
  | refl => simpa using run
  | step _ last inductionHypothesis =>
      rw [← List.append_assoc]
      exact inductionHypothesis.step last

/-- Nobody has loaded the cache yet. -/
structure IsFresh (s : Sharing) : Prop where
  memory : s.memory = none
  writing : s.writing = none
  calls : s.calls = []

/-! ### What is ready to be written -/

/-- The draft is as far as the write says, and what is to be written can be read back. -/
structure Ready (start s : Sharing) : Prop where
  fits : ∀ entry ∈ s.calls, entry.call.Fits
  sound : s.store.IsSound
  based : ∃ entry mode, s.file = { start.file with entry, mode }
  drafted : ∀ {author}, s.writing = some (author, .closing) →
    ∃ mode, s.draft = some { content := CacheFile.print s.store, mode }
  closed : ∀ {author}, s.writing = some (author, .replacing) →
    s.draft = some { content := CacheFile.print s.store, mode := CacheFile.ownerOnly }
  replaced : ∀ {author}, s.writing = some (author, .replaced) →
    s.file = start.file.holding s.store

theorem IsFresh.ready (fresh : start.IsFresh) : Ready start start where
  fits := by simp [fresh.calls]
  sound := by
    rw [store, fresh.memory]
    exact Store.isSound_empty
  based := ⟨_, _, rfl⟩
  drafted held := by simp [fresh.writing] at held
  closed held := by simp [fresh.writing] at held
  replaced held := by simp [fresh.writing] at held

/-- Whoever does not have the store leaves no write behind. -/
theorem Ready.idle (ready : Ready start s) (fits : ∀ entry ∈ t.calls, entry.call.Fits)
    (sound : t.store.IsSound) (file : t.file = s.file) (idle : t.writing = none) :
    Ready start t where
  fits := fits
  sound := sound
  based := file ▸ ready.based
  drafted held := by simp [idle] at held
  closed held := by simp [idle] at held
  replaced held := by simp [idle] at held

theorem Ready.answer (ready : Ready start s) {call : Call}
    (found : s.calls[n]? = some { call }) (told : Answer) :
    Ready start (s.answer n call told) := by
  refine ready.idle (fun entry member => ?_) ready.sound rfl rfl
  rcases Lists.mem_set_cases member with rfl | ⟨m, -, other⟩
  · exact ready.fits { call } (List.mem_of_getElem? found)
  · exact ready.fits _ (List.mem_of_getElem? other)

/-- A write that begins has nothing ready. -/
theorem Ready.begin (ready : Ready start s) {t : Sharing} (calls : t.calls = s.calls)
    (sound : t.store.IsSound) (file : t.file = s.file)
    (begun : t.writing = some (author, .drafting)) : Ready start t where
  fits := calls ▸ ready.fits
  sound := sound
  based := file ▸ ready.based
  drafted held := by simp [begun] at held
  closed held := by simp [begun] at held
  replaced held := by simp [begun] at held

theorem Step.ready (ready : Ready start s) (step : Step s occurrences t) : Ready start t := by
  cases step with
  | read _ idle loads =>
      exact ready.idle ready.fits (CacheFile.load_cases loads).1 rfl idle
  | refuse => exact ready
  | create => exact ready.begin rfl ready.sound rfl rfl
  | call call _ fits =>
      refine ⟨fun entry member => ?_, ready.sound, ready.based, ready.drafted, ready.closed,
        ready.replaced⟩
      rcases List.mem_append.mp member with old | new
      · exact ready.fits entry old
      · obtain rfl := List.mem_singleton.mp new
        exact fits
  | skip _ _ found => exact ready.answer found _
  | take loaded _ found changed =>
      refine ready.begin rfl ?_ rfl rfl
      have sound := ready.sound
      rw [store, loaded] at sound
      exact sound.change? (ready.fits _ (List.mem_of_getElem? found)) changed
  | scribble draft held => exact ready.begin rfl ready.sound rfl held
  | draft mode =>
      refine ⟨ready.fits, ready.sound, ready.based, fun _ => ⟨mode, rfl⟩, ?_, ?_⟩
      · intro author held
        cases held
      · intro author held
        cases held
  | close held found =>
      obtain ⟨mode, whole⟩ := ready.drafted held
      obtain rfl := Option.some.inj (found.symm.trans whole)
      refine ⟨ready.fits, ready.sound, ready.based, ?_, fun _ => rfl, ?_⟩
      · intro author held
        cases held
      · intro author held
        cases held
  | replace held found =>
      obtain rfl := Option.some.inj (found.symm.trans (ready.closed held))
      obtain ⟨entry, mode, same⟩ := ready.based
      refine ⟨ready.fits, ready.sound, ⟨_, _, by rw [same]⟩, ?_, ?_, fun _ => ?_⟩
      · intro author held
        cases held
      · intro author held
        cases held
      · simp only [same]
        rfl
  | opened => exact ready.idle ready.fits ready.sound rfl rfl
  | giveUp => exact ready.idle ready.fits ready.sound rfl rfl
  | finish _ found => exact ready.answer found _
  | fail _ _ found => exact ready.answer found _

theorem Run.ready (fresh : start.IsFresh) (run : start.Run trace s) : Ready start s := by
  induction run with
  | refl => exact fresh.ready
  | step _ last inductionHypothesis => exact last.ready inductionHypothesis

/-! ### Who writes -/

/-- Whoever has the store is underway, and whoever wrote it does not fail any more. -/
structure Attended (trace : List Occurrence) (s : Sharing) : Prop where
  opening : ∀ {stage}, s.writing = some (.opener, stage) → s.memory = none
  called : ∀ {n stage}, s.writing = some (.call n, stage) →
    s.memory.isSome ∧ ∃ call, s.calls[n]? = some { call }
  unopened : ∀ {author}, s.memory = none → .wrote author ∈ trace →
    s.writing = some (.opener, .replaced)
  answered : ∀ {n answer}, .returned (.call n) answer ∈ trace →
    ∃ call, s.calls[n]? = some { call, answer := some answer }
  wrote : ∀ {n}, .wrote (.call n) ∈ trace → s.writing = some (.call n, .replaced) ∨
    ∃ call told, s.calls[n]? = some { call, answer := some (.ok told) }

theorem IsFresh.attended (fresh : start.IsFresh) : Attended [] start where
  opening held := by simp [fresh.writing] at held
  called held := by simp [fresh.writing] at held
  unopened _ member := by cases member
  answered member := by cases member
  wrote member := by cases member

namespace Attended

/-- A step that answers no call, and not of a call that has written. -/
theorem unanswered (attended : Attended trace s) (calls : t.calls = s.calls)
    (unfinished : ∀ n, s.writing ≠ some (.call n, .replaced))
    (silent : ∀ n answer, .returned (.call n) answer ∉ occurrences)
    (opening : ∀ {stage}, t.writing = some (.opener, stage) → t.memory = none)
    (called : ∀ {n stage}, t.writing = some (.call n, stage) →
      t.memory.isSome ∧ ∃ call, s.calls[n]? = some { call })
    (unopened : ∀ {author}, t.memory = none → .wrote author ∈ trace ++ occurrences →
      t.writing = some (.opener, .replaced))
    (wrote : ∀ {n}, .wrote (.call n) ∈ occurrences → t.writing = some (.call n, .replaced)) :
    Attended (trace ++ occurrences) t := by
  constructor
  · exact opening
  · rw [calls]
    exact called
  · exact unopened
  · intro n answer member
    rw [calls]
    rcases List.mem_append.mp member with old | new
    · exact attended.answered old
    · exact absurd new (silent n answer)
  · intro n member
    rw [calls]
    rcases List.mem_append.mp member with old | new
    · rcases attended.wrote old with replaced | told
      · exact absurd replaced (unfinished n)
      · exact .inr told
    · exact .inl (wrote new)

/-- Nothing is to be seen of a step of a write, but its end. -/
theorem moved (attended : Attended trace s) (memory : t.memory = s.memory)
    (calls : t.calls = s.calls) {before after : Stage} (held : s.writing = some (author, before))
    (unfinished : before ≠ .replaced) (moved : t.writing = some (author, after))
    (seen : occurrences = [] ∨ occurrences = [.wrote author] ∧ after = .replaced) :
    Attended (trace ++ occurrences) t := by
  have before_of {other : Author} {stage : Stage} (same : t.writing = some (other, stage)) :
      s.writing = some (other, before) := by
    rw [moved] at same
    cases same
    exact held
  have not_replaced {other : Author} : s.writing ≠ some (other, .replaced) := by
    rw [held]
    simp [unfinished]
  have wrote {other : Author} (new : .wrote other ∈ occurrences) :
      t.writing = some (other, .replaced) := by
    rcases seen with rfl | ⟨rfl, rfl⟩
    · cases new
    · obtain rfl : other = author := by simpa using new
      exact moved
  refine attended.unanswered calls (fun _ => not_replaced) ?_ ?_ ?_ ?_ wrote
  · intro n answer member
    rcases seen with rfl | ⟨rfl, -⟩ <;> simp at member
  · exact fun same => memory ▸ attended.opening (before_of same)
  · exact fun same => memory ▸ attended.called (before_of same)
  · intro other unloaded member
    rcases List.mem_append.mp member with old | new
    · exact absurd (attended.unopened (memory ▸ unloaded) old) not_replaced
    · cases other with
      | opener => exact wrote new
      | call n =>
          have loaded := (attended.called (before_of (wrote new))).1
          simp [← memory, unloaded] at loaded

theorem answer (attended : Attended trace s) {call : Call} {told : Answer}
    (found : s.calls[n]? = some { call }) (loaded : s.memory.isSome)
    (alone : s.writing = none ∨ ∃ stage, s.writing = some (.call n, stage))
    (fine : .wrote (.call n) ∈ trace → ∃ b, told = .ok b) :
    Attended (trace ++ [.returned (.call n) told]) (s.answer n call told) := by
  have inside : n < s.calls.length := (List.getElem?_eq_some_iff.mp found).1
  have own : (s.answer n call told).calls[n]? = some { call, answer := some told } :=
    List.getElem?_set_self inside
  have other {m : Nat} (different : m ≠ n) : (s.answer n call told).calls[m]? = s.calls[m]? :=
    List.getElem?_set_ne (Ne.symm different)
  constructor
  · nofun
  · nofun
  · intro author unloaded
    have unloaded : s.memory = none := unloaded
    simp [unloaded] at loaded
  · intro m answer member
    rcases List.mem_append.mp member with old | new
    · obtain ⟨before, answered⟩ := attended.answered old
      by_cases same : m = n
      · subst same
        rw [found] at answered
        cases answered
      · exact ⟨before, by rw [other same, answered]⟩
    · simp only [List.mem_singleton, Occurrence.returned.injEq, Author.call.injEq] at new
      obtain ⟨rfl, rfl⟩ := new
      exact ⟨call, own⟩
  · intro m member
    have old : .wrote (.call m) ∈ trace := by simpa using member
    by_cases same : m = n
    · subst same
      obtain ⟨b, rfl⟩ := fine old
      exact .inr ⟨call, b, own⟩
    · rw [other same]
      rcases attended.wrote old with replaced | told
      · rcases alone with idle | ⟨stage, held⟩
        · rw [idle] at replaced
          cases replaced
        · rw [held] at replaced
          cases replaced
          exact absurd rfl same
      · exact .inr told

/-- Nobody has written the store who has not got to the end of it. -/
theorem not_wrote (attended : Attended trace s) {call : Call}
    (found : s.calls[n]? = some { call }) (unfinished : s.writing ≠ some (.call n, .replaced)) :
    .wrote (.call n) ∉ trace := by
  intro member
  rcases attended.wrote member with replaced | ⟨_, _, answered⟩
  · exact unfinished replaced
  · rw [found] at answered
    cases answered

end Attended

theorem raises_ne_replaced {fault : CacheFile.Fault} (raises : stage.Raises fault) :
    stage ≠ .replaced := by
  rintro rfl
  cases fault <;> exact raises

theorem Step.attended (attended : Attended trace s) (step : Step s occurrences t) :
    Attended (trace ++ occurrences) t := by
  cases step with
  | read unloaded idle =>
      refine attended.unanswered rfl ?_ ?_ ?_ ?_ nofun ?_ <;> simp [idle]
  | refuse unloaded idle =>
      refine attended.unanswered rfl ?_ ?_ ?_ ?_ (fun _ member => ?_) ?_ <;> simp [idle]
      simpa [idle] using attended.unopened unloaded (by simpa using member)
  | create unloaded idle =>
      refine attended.unanswered rfl ?_ ?_ (fun _ => unloaded) ?_ (fun _ member => ?_) ?_ <;>
        simp [idle]
      simpa [idle] using attended.unopened unloaded (by simpa using member)
  | call call loaded =>
      have kept {n : Nat} {entry : Underway} (found : s.calls[n]? = some entry) :
          (s.calls ++ [({ call } : Underway)])[n]? = some entry := by
        rw [List.getElem?_append_left (List.getElem?_eq_some_iff.mp found).1, found]
      rw [List.append_nil]
      constructor
      · exact attended.opening
      · intro n stage held
        obtain ⟨isLoaded, other, found⟩ := attended.called held
        exact ⟨isLoaded, other, kept found⟩
      · exact attended.unopened
      · intro n answer member
        obtain ⟨other, found⟩ := attended.answered member
        exact ⟨other, kept found⟩
      · intro n member
        rcases attended.wrote member with replaced | ⟨other, told, found⟩
        · exact .inl replaced
        · exact .inr ⟨other, told, kept found⟩
  | skip loaded idle found =>
      exact attended.answer found (by simp [loaded]) (.inl idle) fun _ => ⟨_, rfl⟩
  | take loaded idle found =>
      refine attended.unanswered rfl ?_ ?_ ?_ (fun same => ?_) nofun ?_ <;> simp [idle]
      cases same
      exact ⟨_, found⟩
  | scribble draft held => exact attended.moved rfl rfl held nofun held (.inl rfl)
  | draft mode held => exact attended.moved rfl rfl held nofun rfl (.inl rfl)
  | close held => exact attended.moved rfl rfl held nofun rfl (.inl rfl)
  | replace held => exact attended.moved rfl rfl held nofun rfl (.inr ⟨rfl, rfl⟩)
  | opened held =>
      refine attended.unanswered rfl ?_ ?_ ?_ ?_ nofun ?_ <;> simp [held]
  | giveUp held raises =>
      have unfinished := raises_ne_replaced raises
      refine attended.unanswered rfl ?_ ?_ ?_ ?_ (fun unloaded member => ?_) ?_ <;> simp [held]
      have replaced := attended.unopened unloaded (by simpa using member)
      rw [held] at replaced
      cases replaced
      exact unfinished rfl
  | finish held found =>
      exact attended.answer found (attended.called held).1 (.inr ⟨_, held⟩) fun _ => ⟨_, rfl⟩
  | fail held raises found =>
      refine attended.answer found (attended.called held).1 (.inr ⟨_, held⟩) fun member => ?_
      refine absurd member (attended.not_wrote found fun replaced => ?_)
      rw [held] at replaced
      cases replaced
      exact raises_ne_replaced raises rfl

theorem Run.attended (fresh : start.IsFresh) (run : start.Run trace s) : Attended trace s := by
  induction run with
  | refl => exact fresh.attended
  | step _ last inductionHypothesis => exact last.attended inductionHypothesis

/-! ### What is in the file -/

/-- Only a write that has got to its end changes the file, and it writes what memory holds. -/
theorem Step.file_cases (ready : Ready start s) (step : Step s occurrences t) :
    (t.file = s.file ∧ ∀ author, .wrote author ∉ occurrences) ∨
      ∃ author, occurrences = [.wrote author] ∧ t.file = start.file.holding s.store := by
  have after := step.ready ready
  cases step with
  | replace held => exact .inr ⟨_, rfl, after.replaced rfl⟩
  | _ => exact .inl ⟨rfl, by simp⟩

/-- The file is that of the beginning, or the last write wrote all that memory held then. -/
theorem Run.whole (fresh : start.IsFresh) (run : start.Run trace s) :
    (s.file = start.file ∧ ∀ author, .wrote author ∉ trace) ∨
    ∃ earlier u author v later, trace = earlier ++ .wrote author :: later ∧
      start.Run earlier u ∧ Step u [.wrote author] v ∧ v.Run later s ∧
      (∀ other, .wrote other ∉ later) ∧ s.file = start.file.holding u.store ∧
      s.file.load = .ok (u.store, s.file) := by
  induction run with
  | refl => exact .inl ⟨rfl, by simp⟩
  | @step trace s occurrences t run last inductionHypothesis =>
      have ready := run.ready fresh
      rcases last.file_cases ready with ⟨same, silent⟩ | ⟨author, rfl, written⟩
      · rcases inductionHypothesis with ⟨old, never⟩ |
          ⟨earlier, u, author, v, later, rfl, before, wrote, since, none, holds, loads⟩
        · refine .inl ⟨same.trans old, fun author member => ?_⟩
          rcases List.mem_append.mp member with old | new
          · exact never author old
          · exact silent author new
        · refine .inr ⟨earlier, u, author, v, later ++ occurrences, by simp, before, wrote,
            since.step last, fun other member => ?_, same.trans holds, same ▸ loads⟩
          rcases List.mem_append.mp member with old | new
          · exact none other old
          · exact silent other new
      · refine .inr ⟨trace, s, author, t, [], rfl, run, last, .refl, nofun, written, ?_⟩
        rw [written]
        exact CacheFile.load_holding _ ready.sound

/-- Whoever has the store keeps it until they return, and only their own write changes the
file. -/
theorem Step.writing_cases (step : Step s occurrences t)
    (held : s.writing = some (author, stage)) :
    (∃ next, t.writing = some (author, next) ∧ (stage = .replaced → next = .replaced) ∧
      (next = .replaced ∨ t.file = s.file)) ∨
    ∃ answer, occurrences = [.returned author answer] := by
  cases step with
  | read _ idle => simp [idle] at held
  | refuse _ idle => simp [idle] at held
  | create _ idle => simp [idle] at held
  | call => exact .inl ⟨stage, held, id, .inr rfl⟩
  | skip _ idle => simp [idle] at held
  | take _ idle => simp [idle] at held
  | scribble draft own =>
      exact .inl ⟨stage, held, id, .inr rfl⟩
  | draft mode own =>
      obtain ⟨rfl, rfl⟩ := Prod.mk.inj (Option.some.inj (own.symm.trans held))
      exact .inl ⟨.closing, rfl, nofun, .inr rfl⟩
  | close own =>
      obtain ⟨rfl, rfl⟩ := Prod.mk.inj (Option.some.inj (own.symm.trans held))
      exact .inl ⟨.replacing, rfl, nofun, .inr rfl⟩
  | replace own =>
      obtain ⟨rfl, rfl⟩ := Prod.mk.inj (Option.some.inj (own.symm.trans held))
      exact .inl ⟨.replaced, rfl, fun _ => rfl, .inl rfl⟩
  | opened own =>
      obtain ⟨rfl, -⟩ := Prod.mk.inj (Option.some.inj (own.symm.trans held))
      exact .inr ⟨_, rfl⟩
  | giveUp own =>
      obtain ⟨rfl, -⟩ := Prod.mk.inj (Option.some.inj (own.symm.trans held))
      exact .inr ⟨_, rfl⟩
  | finish own =>
      obtain ⟨rfl, -⟩ := Prod.mk.inj (Option.some.inj (own.symm.trans held))
      exact .inr ⟨_, rfl⟩
  | fail own =>
      obtain ⟨rfl, -⟩ := Prod.mk.inj (Option.some.inj (own.symm.trans held))
      exact .inr ⟨_, rfl⟩

theorem Run.writing_cases (run : u.Run later s) (held : u.writing = some (author, .drafting)) :
    (∃ stage, s.writing = some (author, stage) ∧ (stage = .replaced ∨ s.file = u.file)) ∨
    ∃ answer, .returned author answer ∈ later := by
  induction run with
  | refl => exact .inl ⟨_, held, .inr rfl⟩
  | step _ last inductionHypothesis =>
      rcases inductionHypothesis with ⟨stage, own, same⟩ | ⟨answer, member⟩
      · rcases last.writing_cases own with ⟨next, own, stays, file⟩ | ⟨answer, rfl⟩
        · refine .inl ⟨next, own, ?_⟩
          rcases same with replaced | same
          · exact .inl (stays replaced)
          · exact file.imp_right fun kept => kept.trans same
        · exact .inr ⟨answer, by simp⟩
      · exact .inr ⟨answer, by simp [member]⟩

/-- A call that fails leaves the file as it was when it took the store. -/
theorem Run.unchanged {failure : Failure} (fresh : start.IsFresh) (before : start.Run earlier s)
    (takes : Step s [.took n] t) (run : t.Run later u)
    (fails : Step u [.returned (.call n) (.error failure)] v) : v.file = s.file := by
  have attended := ((before.step takes).trans run).attended fresh
  have held : t.writing = some (.call n, .drafting) := by
    cases takes
    rfl
  have same : t.file = s.file := by
    cases takes
    rfl
  cases fails with
  | fail own raises found =>
      rcases run.writing_cases held with ⟨stage, still, kept⟩ | ⟨answer, member⟩
      · obtain ⟨-, rfl⟩ := Prod.mk.inj (Option.some.inj (own.symm.trans still))
        rcases kept with replaced | kept
        · exact absurd replaced (raises_ne_replaced raises)
        · exact kept.trans same
      · obtain ⟨call, answered⟩ := attended.answered (List.mem_append_right _ member)
        rw [found] at answered
        cases answered

/-- A call that fails never writes. -/
theorem Run.failed {failure : Failure} (fresh : start.IsFresh) (run : start.Run trace s)
    (returned : .returned (.call n) (.error failure) ∈ trace) : .wrote (.call n) ∉ trace := by
  intro member
  have attended := run.attended fresh
  obtain ⟨call, failed⟩ := attended.answered returned
  rcases attended.wrote member with replaced | ⟨other, told, fine⟩
  · obtain ⟨-, other, unanswered⟩ := attended.called replaced
    rw [failed] at unanswered
    cases unanswered
  · rw [failed] at fine
    cases fine

theorem Run.file_eq (fresh : start.IsFresh) (run : start.Run trace s)
    (never : ∀ author, .wrote author ∉ trace) : s.file = start.file := by
  rcases run.whole fresh with ⟨same, -⟩ | ⟨earlier, _, author, _, later, rfl, -⟩
  · exact same
  · exact absurd (by simp) (never author)

/-- Nor is anything written by someone who fails to load the cache. -/
theorem Run.refused {failure : Failure} (fresh : start.IsFresh) (run : start.Run trace s)
    (fails : Step s [.returned .opener (.error failure)] t) : t.file = start.file := by
  have attended := run.attended fresh
  have never (author : Author) : .wrote author ∉ trace := by
    intro member
    cases fails with
    | refuse unloaded idle =>
        have replaced := attended.unopened unloaded member
        simp [idle] at replaced
    | giveUp held raises =>
        have replaced := attended.unopened (attended.opening held) member
        obtain ⟨-, rfl⟩ := Prod.mk.inj (Option.some.inj (held.symm.trans replaced))
        exact raises_ne_replaced raises rfl
  have same : t.file = s.file := by
    cases fails <;> rfl
  exact same.trans (run.file_eq fresh never)

/-- Nothing happens to a store that nobody takes. -/
theorem Run.idle (run : s.Run later t) {store : Store} (loaded : s.memory = some store)
    (idle : s.writing = none) (untaken : ∀ n, .took n ∉ later) :
    t.memory = some store ∧ t.writing = none ∧ t.file = s.file := by
  induction run with
  | refl => exact ⟨loaded, idle, rfl⟩
  | @step later t occurrences u _ last inductionHypothesis =>
      obtain ⟨memory, writing, file⟩ :=
        inductionHypothesis fun n member => untaken n (by simp [member])
      cases last with
      | call => exact ⟨memory, writing, file⟩
      | skip => exact ⟨memory, rfl, file⟩
      | take =>
          exact absurd (List.mem_append_right later (List.mem_singleton_self _)) (untaken _)
      | read unloaded => simp [unloaded] at memory
      | refuse unloaded => simp [unloaded] at memory
      | create unloaded => simp [unloaded] at memory
      | scribble draft held => simp [writing] at held
      | draft mode held => simp [writing] at held
      | close held => simp [writing] at held
      | replace held => simp [writing] at held
      | opened held => simp [writing] at held
      | giveUp held => simp [writing] at held
      | finish held => simp [writing] at held
      | fail held => simp [writing] at held

/-- Whoever wrote the store and returns leaves it in memory as it is in the file. -/
theorem Step.returned {told : Option Bool} (attended : Attended trace s) (ready : Ready start s)
    (wrote : .wrote author ∈ trace) (step : Step s [.returned author (.ok told)] t) :
    t.memory = some s.store ∧ t.writing = none ∧ t.file = start.file.holding s.store := by
  cases step with
  | read unloaded idle =>
      have replaced := attended.unopened unloaded wrote
      simp [idle] at replaced
  | skip _ idle found => exact absurd wrote (attended.not_wrote found (by simp [idle]))
  | opened held => exact ⟨rfl, rfl, ready.replaced held⟩
  | finish held found =>
      refine ⟨?_, rfl, ready.replaced held⟩
      obtain ⟨loaded, -⟩ := attended.called held
      obtain ⟨held, same⟩ := Option.isSome_iff_exists.mp loaded
      simp only [Sharing.answer, store, same, Option.getD_some]

theorem Run.reloads {told : Option Bool} (fresh : start.IsFresh) (run : start.Run trace s)
    (wrote : .wrote author ∈ trace) (returns : Step s [.returned author (.ok told)] t)
    (further : t.Run later u) (untaken : ∀ n, .took n ∉ later) :
    ∃ store, u.memory = some store ∧ u.file.load = .ok (store, u.file) := by
  have ready := run.ready fresh
  obtain ⟨loaded, idle, holds⟩ := returns.returned (run.attended fresh) ready wrote
  obtain ⟨memory, -, file⟩ := further.idle loaded idle untaken
  refine ⟨s.store, memory, ?_⟩
  rw [file, holds]
  exact CacheFile.load_holding _ ready.sound

/-- What becomes of the file of a cache, whoever uses the cache. -/
structure Kept (start : Sharing) : Prop where
  /-- At any time the file is that of the beginning, or the last write has put into it all that
  memory held then, and it is read as that. -/
  whole : ∀ {trace s}, start.Run trace s →
    (s.file = start.file ∧ ∀ author, .wrote author ∉ trace) ∨
    ∃ earlier u author v later, trace = earlier ++ .wrote author :: later ∧
      start.Run earlier u ∧ Step u [.wrote author] v ∧ v.Run later s ∧
      (∀ other, .wrote other ∉ later) ∧ s.file = start.file.holding u.store ∧
      s.file.load = .ok (u.store, s.file)
  failed : ∀ {trace s n failure}, start.Run trace s →
    .returned (.call n) (.error failure) ∈ trace → .wrote (.call n) ∉ trace
  /-- Nobody else writes between a call that fails takes the store and returns. -/
  unchanged : ∀ {earlier later n failure s t u v}, start.Run earlier s → Step s [.took n] t →
    t.Run later u → Step u [.returned (.call n) (.error failure)] v → v.file = s.file
  refused : ∀ {trace failure s t}, start.Run trace s →
    Step s [.returned .opener (.error failure)] t → t.file = start.file
  /-- When someone who wrote has returned, the file is read as the store that is in memory, until
  a call takes the store. -/
  reloads : ∀ {trace later author told s t u}, start.Run trace s → .wrote author ∈ trace →
    Step s [.returned author (.ok told)] t → t.Run later u → (∀ n, .took n ∉ later) →
    ∃ store, u.memory = some store ∧ u.file.load = .ok (store, u.file)

theorem IsFresh.kept (fresh : start.IsFresh) : Kept start where
  whole := Run.whole fresh
  failed := Run.failed fresh
  unchanged := Run.unchanged fresh
  refused := Run.refused fresh
  reloads := Run.reloads fresh

/-! ### Calls one after another -/

theorem exists_run_stage (held : s.writing = some (author, .drafting))
    (unfinished : stage ≠ .replaced) :
    ∃ t, s.Run [] t ∧ t.writing = some (author, stage) ∧ t.memory = s.memory ∧ t.file = s.file ∧
      t.calls = s.calls ∧
      (stage = .replacing → t.draft =
        some { content := CacheFile.print s.store, mode := CacheFile.ownerOnly }) := by
  have drafted := Run.refl.step (Step.draft CacheFile.ownerOnly held)
  have closed := drafted.step (.close rfl rfl)
  cases stage with
  | drafting => exact ⟨s, .refl, held, rfl, rfl, rfl, nofun⟩
  | closing => exact ⟨_, drafted, rfl, rfl, rfl, rfl, nofun⟩
  | replacing => exact ⟨_, closed, rfl, rfl, rfl, rfl, fun _ => rfl⟩
  | replaced => exact absurd rfl unfinished

/-- A file that cannot be written stops a write at one of its steps. -/
theorem write_cases (file : CacheFile) (store : Store) :
    file.write store = .ok (file.holding store) ∨
      ∃ (stage : Stage) (fault : CacheFile.Fault), stage.Raises fault ∧
        file.write store = .error fault := by
  unfold CacheFile.write
  split
  next => exact .inr ⟨.drafting, .noParent, trivial, rfl⟩
  next =>
    split
    next => exact .inr ⟨.drafting, .writing _, trivial, rfl⟩
    next =>
      split
      next => exact .inr ⟨.replacing, .renaming _, trivial, rfl⟩
      next => exact .inl rfl

/-- Whatever a call on a cache tells and makes of it, it can tell and make here. -/
theorem exists_run_perform (cache : Cache) {call : Call} (fits : call.Fits)
    (loaded : s.memory = some cache.store) (idle : s.writing = none) (file : s.file = cache.file) :
    ∃ trace t, s.Run (trace ++ [.returned (.call s.calls.length) (call.perform cache).1]) t ∧
      t.memory = some (call.perform cache).2.store ∧ t.writing = none ∧
      t.file = (call.perform cache).2.file := by
  have begun := Run.refl.step (Step.call call loaded fits)
  have found : (s.calls ++ [({ call } : Underway)])[s.calls.length]? = some { call } := by simp
  cases changed : call.change? cache.store with
  | none =>
      have skipped := begun.step (.skip loaded idle found changed)
      rw [Call.perform_of_none changed]
      exact ⟨[], _, skipped, loaded, rfl, file⟩
  | some store =>
      obtain ⟨u, taken, held, memory, same, underway⟩ : ∃ u, s.Run [.took s.calls.length] u ∧
          u.writing = some (.call s.calls.length, .drafting) ∧ u.memory = some store ∧
          u.file = cache.file ∧ u.calls[s.calls.length]? = some { call } :=
        ⟨_, begun.step (.take loaded idle found changed), rfl, rfl, file, found⟩
      rw [Call.perform_of_some changed, Cache.replace]
      rcases write_cases cache.file store with written | ⟨stage, fault, raises, failed⟩
      · rw [written]
        obtain ⟨t, ready, own, kept, sameFile, calls, draft⟩ :=
          exists_run_stage held (show Stage.replacing ≠ .replaced by decide)
        have replaced := (taken.trans ready).step (.replace own (draft rfl))
        have finished := replaced.step (.finish rfl (by rw [calls, underway]))
        refine ⟨_, _, finished, kept.trans memory, rfl, ?_⟩
        have stored : u.store = store := by rw [Sharing.store, memory, Option.getD_some]
        simp only [answer, sameFile, same, stored, CacheFile.holding]
      · rw [failed]
        obtain ⟨t, ready, own, kept, sameFile, calls, -⟩ :=
          exists_run_stage held (raises_ne_replaced raises)
        have failed := (taken.trans ready).step (.fail own raises (by rw [calls, underway]))
        exact ⟨_, _, failed, kept.trans memory, rfl, sameFile.trans same⟩

/-- Nobody has loaded a cache of which there is no file. -/
def sample : Sharing :=
  { file := {} }

def sampleSave : Call :=
  .save "app" { account := sampleAccount, refreshToken := some ⟨"kept"⟩ } none

theorem sample_isFresh : sample.IsFresh :=
  ⟨rfl, rfl, rfl⟩

/-- The cache is made; then a call writes it, and another does not get beyond the draft. -/
theorem exists_run_sample :
    ∃ trace s, sample.Run trace s ∧ .wrote .opener ∈ trace ∧ .wrote (.call 0) ∈ trace ∧
      ∃ failure, .returned (.call 1) (.error failure) ∈ trace := by
  have created := Run.refl.step (Step.create (s := sample) rfl rfl (.inl rfl))
  have drafted := created.step (.draft 0o644 rfl)
  have opened := ((drafted.step (.close rfl rfl)).step (.replace rfl rfl)).step (.opened rfl)
  have called := (opened.step (.call sampleSave rfl nofun)).step (.call sampleSave rfl nofun)
  have taken := called.step (.take (n := 0) rfl rfl rfl rfl)
  have halfway := taken.step (.scribble (some { content := "", mode := 0o600 }) rfl)
  have closed := (halfway.step (.draft 0o600 rfl)).step (.close rfl rfl)
  have finished := (closed.step (.replace rfl rfl)).step (.finish rfl rfl)
  have retaken := finished.step (.take (n := 1) rfl rfl rfl rfl)
  have redrafted := retaken.step (.draft 0o644 rfl)
  have failed := redrafted.step (@Step.fail _ _ _ _ (.closing "denied") rfl trivial rfl)
  exact ⟨_, _, failed, by simp, by simp, _, by simp; rfl⟩

theorem sample_kept : sample.IsFresh ∧ Kept sample ∧
    ∃ trace s, sample.Run trace s ∧ .wrote .opener ∈ trace ∧ .wrote (.call 0) ∈ trace ∧
      ∃ failure, .returned (.call 1) (.error failure) ∈ trace :=
  ⟨sample_isFresh, sample_isFresh.kept, exists_run_sample⟩

end Sharing

end TokenAcquisition.Cache
