import Mathlib.Data.List.Basic
import TokenAcquisition.CommandLine.Invocation

/-!
The grammar of the arguments.  They fall into clauses, an option with its value, the option without
one and the mode, and are accepted just if they are such clauses with one mode among them and no
option of the other mode.  Any text may be a value, even one that would be an option elsewhere.
-/

namespace TokenAcquisition.CommandLine

def ModeWord.text : ModeWord → String
  | .interactive => "interactive"
  | .silent => "silent"

/-- Arguments that belong together. -/
inductive Clause where
  | valued (option : ValueOption) (value : String)
  | forceRefresh
  | mode (word : ModeWord)
  deriving DecidableEq, Repr

namespace Clause

def arguments : Clause → List String
  | valued option value => [option.text, value]
  | forceRefresh => ["--force-refresh"]
  | mode word => [word.text]

/-- The option that a clause is about, if it is not the mode. -/
def option? : Clause → Option String
  | valued option _ => some option.text
  | forceRefresh => some "--force-refresh"
  | mode _ => none

def mode? : Clause → Option ModeWord
  | mode word => some word
  | _ => none

def valueOf? (option : ValueOption) : Clause → Option String
  | valued own value => if own = option then some value else none
  | _ => none

end Clause

/-- Options that make sense in a mode. -/
def ModeWord.allows : ModeWord → Clause → Bool
  | .interactive, .valued .account _ => false
  | .interactive, .forceRefresh => false
  | .silent, .valued .loginHint _ => false
  | .silent, .valued .prompt _ => false
  | _, _ => true

/-- Of the values that clauses give an option, the last one. -/
def lastValue? (clauses : List Clause) (option : ValueOption) : Option String :=
  (clauses.filterMap (Clause.valueOf? option)).getLast?

/-- What clauses say in a mode. -/
def ModeWord.invocation (word : ModeWord) (clauses : List Clause) : Invocation where
  config := lastValue? clauses .config
  mode :=
    match word with
    | .interactive => .interactive (lastValue? clauses .loginHint) (lastValue? clauses .prompt)
    | .silent => .silent (lastValue? clauses .account) (clauses.contains .forceRefresh)

/-- Arguments that write an invocation. -/
def Writes (arguments : List String) (invocation : Invocation) : Prop :=
  ∃ clauses : List Clause, ∃ word : ModeWord, arguments = clauses.flatMap Clause.arguments ∧
    clauses.filterMap Clause.mode? = [word] ∧ (∀ clause ∈ clauses, word.allows clause = true) ∧
    invocation = word.invocation clauses

def Mode.word : Mode → ModeWord
  | .interactive .. => .interactive
  | .silent .. => .silent

/-- The clause of an option that is given. -/
def Clause.given (option : ValueOption) (value : Option String) : List Clause :=
  value.toList.map (.valued option)

namespace Invocation

/-- The value that an invocation has for an option. -/
def value? (invocation : Invocation) (option : ValueOption) : Option String :=
  match option, invocation.mode with
  | .config, _ => invocation.config
  | .loginHint, .interactive loginHint _ => loginHint
  | .prompt, .interactive _ prompt => prompt
  | .account, .silent account _ => account
  | _, _ => none

/-- The clauses that an invocation says: each option that it gives, and its mode. -/
def written (invocation : Invocation) : List Clause :=
  Clause.given .config invocation.config ++
    match invocation.mode with
    | .interactive loginHint prompt =>
        .mode .interactive :: (Clause.given .loginHint loginHint ++ Clause.given .prompt prompt)
    | .silent account forceRefresh =>
        .mode .silent ::
          (Clause.given .account account ++ if forceRefresh then [.forceRefresh] else [])

end Invocation

variable {draft made : Draft} {clause first second : Clause} {clauses before : List Clause}
  {arguments rest : List String} {option other : ValueOption} {word : ModeWord}
  {invocation : Invocation} {argument : String}

/-! ### Words -/

theorem ValueOption.ofText?_text (option : ValueOption) : ofText? option.text = some option := by
  cases option <;> decide

theorem ValueOption.text_of_ofText? (found : ofText? argument = some option) :
    option.text = argument := by
  simpa using List.find?_some found

theorem ModeWord.ofText?_text (word : ModeWord) : ofText? word.text = some word := by
  cases word <;> rfl

theorem ModeWord.text_of_ofText? (found : ofText? argument = some word) :
    word.text = argument := by
  unfold ofText? at found
  split at found
  next same => exact Option.some.inj found ▸ same.symm
  next =>
    split at found
    next same => exact Option.some.inj found ▸ same.symm
    next => cases found

/-! ### Clauses -/

namespace Draft

/-- Takes in a clause.  A second mode is not expected. -/
def take (draft : Draft) : Clause → Except UsageFault Draft
  | .valued option value => .ok (draft.set option value)
  | .forceRefresh => .ok { draft with forceRefresh := true }
  | .mode word =>
      if draft.mode.isNone then .ok { draft with mode := some word }
      else .error (.unexpected word.text)

theorem read_clause (draft : Draft) (clause : Clause) (rest : List String) :
    draft.read (clause.arguments ++ rest) =
      (draft.take clause).bind fun draft => draft.read rest := by
  cases clause with
  | valued option value =>
      rw [Clause.arguments, List.cons_append, read, ValueOption.ofText?_text]
      rfl
  | forceRefresh => rfl
  | mode word =>
      have unvalued : ValueOption.ofText? word.text = none := by cases word <;> decide
      have unforced : word.text ≠ "--force-refresh" := by cases word <;> decide
      rw [Clause.arguments, List.cons_append, read, unvalued, Draft.word, if_neg unforced,
        ModeWord.ofText?_text, take]
      cases draft.mode <;> rfl

theorem read_clauses (draft : Draft) (clauses : List Clause) (rest : List String) :
    draft.read (clauses.flatMap Clause.arguments ++ rest) =
      (clauses.foldlM take draft).bind fun draft => draft.read rest := by
  induction clauses generalizing draft with
  | nil => rfl
  | cons clause clauses inductionHypothesis =>
      rw [List.flatMap_cons, List.append_assoc, read_clause, List.foldlM_cons]
      cases draft.take clause with
      | error fault => rfl
      | ok draft => exact inductionHypothesis draft

/-- A word that is read by itself is a clause. -/
theorem exists_clause (reads : draft.word argument = .ok made) :
    ∃ clause : Clause, clause.arguments = [argument] := by
  unfold Draft.word at reads
  split at reads
  next same => exact ⟨.forceRefresh, by rw [same]; rfl⟩
  next =>
    split at reads
    next word found _ => exact ⟨.mode word, by rw [← ModeWord.text_of_ofText? found]; rfl⟩
    next => cases reads

/-- Arguments that are read through are clauses. -/
theorem exists_clauses (reads : draft.read arguments = .ok made) :
    ∃ clauses : List Clause, arguments = clauses.flatMap Clause.arguments := by
  induction draft, arguments using read.induct with
  | case1 draft => exact ⟨[], rfl⟩
  | case2 draft argument option found value rest inductionHypothesis =>
      rw [read, found] at reads
      obtain ⟨clauses, rfl⟩ := inductionHypothesis reads
      exact ⟨.valued option value :: clauses, by rw [← ValueOption.text_of_ofText? found]; rfl⟩
  | case3 draft argument option found =>
      rw [read, found] at reads
      cases reads
  | case4 draft argument rest unvalued next found inductionHypothesis =>
      rw [read, unvalued, found] at reads
      obtain ⟨clause, own⟩ := exists_clause found
      obtain ⟨clauses, rfl⟩ := inductionHypothesis reads
      exact ⟨clause :: clauses, by rw [List.flatMap_cons, own]; rfl⟩
  | case5 draft argument rest unvalued fault found =>
      rw [read, unvalued, found] at reads
      cases reads

/-- What is noted of clauses. -/
def of (clauses : List Clause) : Draft where
  mode := (clauses.filterMap Clause.mode?).head?
  config := lastValue? clauses .config
  loginHint := lastValue? clauses .loginHint
  prompt := lastValue? clauses .prompt
  account := lastValue? clauses .account
  forceRefresh := clauses.contains .forceRefresh

theorem of_concat_valued (clauses : List Clause) (option : ValueOption) (value : String) :
    of (clauses ++ [.valued option value]) = (of clauses).set option value := by
  cases option <;> simp [of, set, lastValue?, Clause.mode?, Clause.valueOf?]

theorem of_concat_forceRefresh (clauses : List Clause) :
    of (clauses ++ [.forceRefresh]) = { of clauses with forceRefresh := true } := by
  simp [of, lastValue?, Clause.mode?, Clause.valueOf?]

theorem of_concat_mode (word : ModeWord) (first : clauses.filterMap Clause.mode? = []) :
    of (clauses ++ [.mode word]) = { of clauses with mode := some word } := by
  simp [of, lastValue?, Clause.mode?, Clause.valueOf?, first]

/-- A clause is taken in unless it is a second mode, and what it says is noted. -/
theorem take_of_eq_ok_iff (few : (clauses.filterMap Clause.mode?).length ≤ 1) :
    (of clauses).take clause = .ok made ↔
      ((clauses ++ [clause]).filterMap Clause.mode?).length ≤ 1 ∧
        of (clauses ++ [clause]) = made := by
  cases clause with
  | valued option value =>
      have unmoded : [Clause.valued option value].filterMap Clause.mode? = [] := rfl
      rw [take, of_concat_valued, Except.ok.injEq, List.filterMap_append, unmoded, List.append_nil,
        and_iff_right few]
  | forceRefresh =>
      have unmoded : [Clause.forceRefresh].filterMap Clause.mode? = [] := rfl
      rw [take, of_concat_forceRefresh, Except.ok.injEq, List.filterMap_append, unmoded,
        List.append_nil, and_iff_right few]
  | mode word =>
      rw [take, List.filterMap_append, List.length_append]
      cases modes : clauses.filterMap Clause.mode? with
      | nil =>
          have none : (of clauses).mode.isNone = true := by simp [of, modes]
          rw [if_pos none, of_concat_mode word modes, Except.ok.injEq]
          simp [Clause.mode?]
      | cons earlier others =>
          have some : ¬ (of clauses).mode.isNone = true := by simp [of, modes]
          rw [if_neg some]
          simp [Clause.mode?]

theorem foldlM_take_of_eq_ok_iff (few : (clauses.filterMap Clause.mode?).length ≤ 1)
    (more : List Clause) :
    more.foldlM take (of clauses) = .ok made ↔
      ((clauses ++ more).filterMap Clause.mode?).length ≤ 1 ∧ of (clauses ++ more) = made := by
  induction more generalizing clauses with
  | nil => simp [pure, Except.pure, few]
  | cons clause more inductionHypothesis =>
      rw [List.foldlM_cons, List.append_cons]
      cases taken : (of clauses).take clause with
      | ok draft =>
          obtain ⟨still, rfl⟩ := (take_of_eq_ok_iff few).mp taken
          exact inductionHypothesis still
      | error fault =>
          refine ⟨nofun, fun ⟨still, _⟩ => ?_⟩
          have fewer : ((clauses ++ [clause]).filterMap Clause.mode?).length ≤ 1 := by
            rw [List.filterMap_append, List.length_append] at still
            omega
          rw [(take_of_eq_ok_iff few).mpr ⟨fewer, rfl⟩] at taken
          cases taken

/-- Clauses are read through just if there is at most one mode among them. -/
theorem read_eq_ok_iff :
    ({} : Draft).read arguments = .ok made ↔
      ∃ clauses : List Clause, arguments = clauses.flatMap Clause.arguments ∧
        (clauses.filterMap Clause.mode?).length ≤ 1 ∧ of clauses = made := by
  have read (clauses : List Clause) :
      ({} : Draft).read (clauses.flatMap Clause.arguments) = clauses.foldlM take (of []) := by
    have whole := read_clauses (of []) clauses []
    rw [List.append_nil] at whole
    refine whole.trans ?_
    cases clauses.foldlM take (of []) <;> rfl
  have none : (([] : List Clause).filterMap Clause.mode?).length ≤ 1 := Nat.zero_le 1
  constructor
  · intro reads
    obtain ⟨clauses, rfl⟩ := exists_clauses reads
    rw [read, foldlM_take_of_eq_ok_iff none] at reads
    exact ⟨clauses, rfl, reads⟩
  · rintro ⟨clauses, rfl, taken⟩
    rw [read, foldlM_take_of_eq_ok_iff none]
    exact taken

end Draft

/-! ### Modes -/

theorem isSome_lastValue?_iff :
    (lastValue? clauses option).isSome = true ↔ ∃ value, .valued option value ∈ clauses := by
  rw [lastValue?, List.getLast?_isSome, ← List.length_pos_iff, List.length_pos_iff_exists_mem]
  simp only [List.mem_filterMap]
  constructor
  · rintro ⟨value, clause, inside, own⟩
    cases clause with
    | valued other given =>
        obtain ⟨same, -⟩ : other = option ∧ given = value := by simpa [Clause.valueOf?] using own
        exact ⟨given, same ▸ inside⟩
    | forceRefresh => cases own
    | mode word => cases own
  · rintro ⟨value, inside⟩
    exact ⟨value, _, inside, if_pos rfl⟩

theorem allows_interactive_iff :
    (∀ clause ∈ clauses, ModeWord.interactive.allows clause = true) ↔
      (lastValue? clauses .account).isSome = false ∧ clauses.contains .forceRefresh = false := by
  rw [← Bool.not_eq_true, ← Bool.not_eq_true, isSome_lastValue?_iff, List.contains_iff_mem]
  constructor
  · intro allowed
    refine ⟨fun ⟨value, inside⟩ => ?_, fun inside => ?_⟩
    · cases allowed _ inside
    · cases allowed _ inside
  · rintro ⟨unnamed, unforced⟩ clause inside
    cases clause with
    | valued option value =>
        cases option with
        | account => exact absurd ⟨value, inside⟩ unnamed
        | _ => rfl
    | forceRefresh => exact absurd inside unforced
    | mode word => rfl

theorem allows_silent_iff :
    (∀ clause ∈ clauses, ModeWord.silent.allows clause = true) ↔
      (lastValue? clauses .loginHint).isSome = false ∧
        (lastValue? clauses .prompt).isSome = false := by
  rw [← Bool.not_eq_true, ← Bool.not_eq_true, isSome_lastValue?_iff, isSome_lastValue?_iff]
  constructor
  · intro allowed
    refine ⟨fun ⟨value, inside⟩ => ?_, fun ⟨value, inside⟩ => ?_⟩
    · cases allowed _ inside
    · cases allowed _ inside
  · rintro ⟨unhinted, unprompted⟩ clause inside
    cases clause with
    | valued option value =>
        cases option with
        | loginHint => exact absurd ⟨value, inside⟩ unhinted
        | prompt => exact absurd ⟨value, inside⟩ unprompted
        | _ => rfl
    | forceRefresh => rfl
    | mode word => rfl

theorem Draft.invocation_of_eq_ok_iff (few : (clauses.filterMap Clause.mode?).length ≤ 1) :
    (Draft.of clauses).invocation = .ok invocation ↔
      ∃ word : ModeWord, clauses.filterMap Clause.mode? = [word] ∧
        (∀ clause ∈ clauses, word.allows clause = true) ∧
        invocation = word.invocation clauses := by
  cases modes : clauses.filterMap Clause.mode? with
  | nil =>
      have unmoded : (Draft.of clauses).invocation = .error .missingMode := by
        simp [Draft.invocation, Draft.of, modes]
      rw [unmoded]
      exact ⟨nofun, nofun⟩
  | cons word others =>
      obtain rfl : others = [] := by
        rw [modes, List.length_cons] at few
        exact List.eq_nil_of_length_eq_zero (by omega)
      have own : (Draft.of clauses).mode = some word := by simp [Draft.of, modes]
      have refused {faulty : Bool} {fault : UsageFault} {made : Invocation} :
          (if faulty = true then .error fault else .ok made) = Except.ok invocation ↔
            faulty = false ∧ invocation = made := by
        cases faulty <;> simp [eq_comm]
      have single : (∃ other : ModeWord, [word] = [other] ∧
          (∀ clause ∈ clauses, other.allows clause = true) ∧
          invocation = other.invocation clauses) ↔
          (∀ clause ∈ clauses, word.allows clause = true) ∧
          invocation = word.invocation clauses :=
        ⟨fun ⟨_, same, stated⟩ => (List.cons.inj same).1 ▸ stated,
          fun stated => ⟨word, rfl, stated⟩⟩
      rw [single, Draft.invocation, own]
      cases word with
      | interactive =>
          rw [allows_interactive_iff, ← Bool.or_eq_false_iff]
          exact refused
      | silent =>
          rw [allows_silent_iff, ← Bool.or_eq_false_iff]
          exact refused

/-- Arguments are accepted just if they write an invocation, which is then what is read. -/
theorem Invocation.parse_eq_ok_iff :
    Invocation.parse arguments = .ok invocation ↔ Writes arguments invocation := by
  constructor
  · intro parsed
    cases reads : ({} : Draft).read arguments with
    | error fault =>
        rw [Invocation.parse, reads] at parsed
        cases parsed
    | ok made =>
        obtain ⟨clauses, own, few, rfl⟩ := Draft.read_eq_ok_iff.mp reads
        rw [Invocation.parse, reads] at parsed
        obtain ⟨word, modes, allowed, same⟩ := (Draft.invocation_of_eq_ok_iff few).mp parsed
        exact ⟨clauses, word, own, modes, allowed, same⟩
  · rintro ⟨clauses, word, own, modes, allowed, same⟩
    have few : (clauses.filterMap Clause.mode?).length ≤ 1 := by rw [modes]; exact Nat.le_refl 1
    rw [Invocation.parse, Draft.read_eq_ok_iff.mpr ⟨clauses, own, few, rfl⟩]
    exact (Draft.invocation_of_eq_ok_iff few).mpr ⟨word, modes, allowed, same⟩

/-! ### Renderings -/

@[simp]
theorem filterMap_mode?_given (option : ValueOption) (value : Option String) :
    (Clause.given option value).filterMap Clause.mode? = [] := by
  cases value <;> rfl

@[simp]
theorem filterMap_valueOf?_given (option other : ValueOption) (value : Option String) :
    (Clause.given option value).filterMap (Clause.valueOf? other) =
      if option = other then value.toList else [] := by
  cases value with
  | none => simp [Clause.given]
  | some value =>
      by_cases same : option = other <;> simp [Clause.given, Clause.valueOf?, same]

theorem forall_mem_given {allowed : Clause → Prop} {value : Option String}
    (each : ∀ own, allowed (.valued option own)) :
    ∀ clause ∈ Clause.given option value, allowed clause := by
  simp [Clause.given, each]

theorem filterMap_mode?_written (invocation : Invocation) :
    invocation.written.filterMap Clause.mode? = [invocation.mode.word] := by
  obtain ⟨config, ⟨loginHint, prompt⟩ | ⟨account, forceRefresh⟩⟩ := invocation
  · simp [Invocation.written, Clause.mode?, Mode.word]
  · cases forceRefresh <;> simp [Invocation.written, Clause.mode?, Mode.word]

theorem filterMap_valueOf?_written (invocation : Invocation) (option : ValueOption) :
    invocation.written.filterMap (Clause.valueOf? option) =
      (invocation.value? option).toList := by
  have unvalued (word : ModeWord) (others : List Clause) :
      (Clause.mode word :: others).filterMap (Clause.valueOf? option) =
        others.filterMap (Clause.valueOf? option) := rfl
  obtain ⟨config, ⟨loginHint, prompt⟩ | ⟨account, forceRefresh⟩⟩ := invocation
  · cases option <;> simp [Invocation.written, Invocation.value?, unvalued]
  · cases forceRefresh <;> cases option <;>
      simp [Invocation.written, Invocation.value?, unvalued, Clause.valueOf?]

theorem allows_written (invocation : Invocation) :
    ∀ clause ∈ invocation.written, invocation.mode.word.allows clause = true := by
  obtain ⟨config, ⟨loginHint, prompt⟩ | ⟨account, forceRefresh⟩⟩ := invocation
  · refine List.forall_mem_append.mpr ⟨forall_mem_given fun _ => rfl, ?_⟩
    refine List.forall_mem_cons.mpr ⟨rfl, List.forall_mem_append.mpr ⟨?_, ?_⟩⟩
    · exact forall_mem_given fun _ => rfl
    · exact forall_mem_given fun _ => rfl
  · refine List.forall_mem_append.mpr ⟨forall_mem_given fun _ => rfl, ?_⟩
    refine List.forall_mem_cons.mpr ⟨rfl, List.forall_mem_append.mpr ⟨?_, ?_⟩⟩
    · exact forall_mem_given fun _ => rfl
    · cases forceRefresh <;> simp [Mode.word, ModeWord.allows]

theorem contains_forceRefresh_written {config account : Option String} {forceRefresh : Bool} :
    (Invocation.written ⟨config, .silent account forceRefresh⟩).contains .forceRefresh =
      forceRefresh := by
  cases forceRefresh <;> simp [Invocation.written, Clause.given]

/-- What an invocation says is itself. -/
theorem invocation_written (invocation : Invocation) :
    invocation.mode.word.invocation invocation.written = invocation := by
  have last (option : ValueOption) :
      lastValue? invocation.written option = invocation.value? option := by
    rw [lastValue?, filterMap_valueOf?_written]
    cases invocation.value? option <;> rfl
  obtain ⟨config, ⟨loginHint, prompt⟩ | ⟨account, forceRefresh⟩⟩ := invocation
  · simp only [ModeWord.invocation, Mode.word, last, Invocation.value?]
  · simp only [ModeWord.invocation, Mode.word, last, Invocation.value?,
      contains_forceRefresh_written]

theorem filterMap_of_perm {α : Type} {f : Clause → Option α} (same : clauses.Perm before)
    (few : (before.filterMap f).length ≤ 1) : clauses.filterMap f = before.filterMap f := by
  have picked := same.filterMap f
  match found : before.filterMap f with
  | [] => exact List.perm_nil.mp (found ▸ picked)
  | [only] => exact List.perm_singleton.mp (found ▸ picked)
  | _ :: _ :: _ =>
      rw [found, List.length_cons, List.length_cons] at few
      omega

/-- Clauses that name no option twice say the same in any order. -/
theorem writes_of_perm (same : clauses.Perm before) (modes : before.filterMap Clause.mode? = [word])
    (allowed : ∀ clause ∈ before, word.allows clause = true)
    (few : ∀ option, (before.filterMap (Clause.valueOf? option)).length ≤ 1) :
    Writes (clauses.flatMap Clause.arguments) (word.invocation before) := by
  have last (option : ValueOption) : lastValue? clauses option = lastValue? before option :=
    congrArg List.getLast? (filterMap_of_perm same (few option))
  have forced : clauses.contains .forceRefresh = before.contains .forceRefresh := by
    rw [Bool.eq_iff_iff, List.contains_iff_mem, List.contains_iff_mem, same.mem_iff]
  refine ⟨clauses, word, rfl, ?_, fun clause inside => allowed clause (same.mem_iff.mp inside), ?_⟩
  · rw [← modes]
    exact filterMap_of_perm same (by rw [modes]; exact Nat.le_refl 1)
  · simp only [ModeWord.invocation, last, forced]

/-- What an invocation says may be given in any order. -/
theorem Invocation.writes (rendered : clauses.Perm invocation.written) :
    Writes (clauses.flatMap Clause.arguments) invocation := by
  have few (option : ValueOption) :
      (invocation.written.filterMap (Clause.valueOf? option)).length ≤ 1 := by
    rw [filterMap_valueOf?_written]
    cases invocation.value? option <;> simp
  have writes := writes_of_perm rendered (filterMap_mode?_written invocation)
    (allows_written invocation) few
  rwa [invocation_written] at writes

/-! ### Orders -/

namespace Draft

theorem set_comm (draft : Draft) {first second : String} (apart : option ≠ other) :
    (draft.set option first).set other second = (draft.set other second).set option first := by
  cases option <;> cases other <;> first | rfl | exact absurd rfl apart

theorem take_valued_mode (draft : Draft) (option : ValueOption) (value : String)
    (word : ModeWord) :
    (draft.take (.valued option value)).bind (·.take (.mode word)) =
      (draft.take (.mode word)).bind (·.take (.valued option value)) := by
  cases noted : draft.mode <;> cases option <;> simp [take, set, noted, Except.bind]

theorem take_forceRefresh_mode (draft : Draft) (word : ModeWord) :
    (draft.take .forceRefresh).bind (·.take (.mode word)) =
      (draft.take (.mode word)).bind (·.take .forceRefresh) := by
  cases noted : draft.mode <;> simp [take, noted, Except.bind]

/-- Clauses about different options, and a mode among options, are taken in in either order. -/
theorem take_comm (draft : Draft) (apart : first.option? ≠ second.option?) :
    (draft.take first).bind (·.take second) = (draft.take second).bind (·.take first) := by
  cases first with
  | valued option value =>
      cases second with
      | valued other given =>
          have different : option ≠ other := fun same => apart (by rw [same]; rfl)
          exact congrArg Except.ok (draft.set_comm different)
      | forceRefresh => cases option <;> rfl
      | mode word =>
          exact draft.take_valued_mode option value word
  | forceRefresh =>
      cases second with
      | valued option value => cases option <;> rfl
      | forceRefresh => rfl
      | mode word => exact draft.take_forceRefresh_mode word
  | mode word =>
      cases second with
      | valued option value => exact (draft.take_valued_mode option value word).symm
      | forceRefresh => exact (draft.take_forceRefresh_mode word).symm
      | mode other => exact absurd rfl apart

end Draft

/-- Clauses next to each other may change places. -/
theorem Invocation.parse_swap (before : List Clause) (apart : first.option? ≠ second.option?)
    (rest : List String) :
    Invocation.parse
        (before.flatMap Clause.arguments ++ (first.arguments ++ (second.arguments ++ rest))) =
      Invocation.parse
        (before.flatMap Clause.arguments ++ (second.arguments ++ (first.arguments ++ rest))) := by
  have swapped (draft : Draft) :
      draft.read (first.arguments ++ (second.arguments ++ rest)) =
        draft.read (second.arguments ++ (first.arguments ++ rest)) := by
    have pair (first second : Clause) :
        draft.read (first.arguments ++ (second.arguments ++ rest)) =
          ((draft.take first).bind (·.take second)).bind fun draft => draft.read rest := by
      rw [Draft.read_clause]
      cases draft.take first with
      | error fault => rfl
      | ok draft => exact draft.read_clause second rest
    rw [pair, pair, draft.take_comm apart]
  simp only [Invocation.parse, Draft.read_clauses, swapped]

/-- Arguments are read just if they are by the grammar, and say then what the last clause for each
option says; an invocation is read back from any order of its clauses, and clauses about different
things may change places among any arguments, whether these are read or refused. -/
theorem Invocation.parse_exact :
    (∀ arguments invocation,
      Invocation.parse arguments = .ok invocation ↔ Writes arguments invocation) ∧
    (∀ (invocation : Invocation) (clauses : List Clause), clauses.Perm invocation.written →
      Invocation.parse (clauses.flatMap Clause.arguments) = .ok invocation) ∧
    ∀ (before : List Clause) (first second : Clause) (rest : List String),
      first.option? ≠ second.option? →
      Invocation.parse
          (before.flatMap Clause.arguments ++ (first.arguments ++ (second.arguments ++ rest))) =
        Invocation.parse
          (before.flatMap Clause.arguments ++ (second.arguments ++ (first.arguments ++ rest))) :=
  ⟨fun _ _ => parse_eq_ok_iff, fun _ _ rendered => parse_eq_ok_iff.mpr (writes rendered),
    fun before _ _ rest apart => parse_swap before apart rest⟩

/-- What stands behind an option is its value, whatever it looks like. -/
example : Invocation.parse ["--account", "interactive", "silent", "--account", "--prompt"] =
    .ok { config := none, mode := .silent (some "--prompt") false } := by
  decide

end TokenAcquisition.CommandLine
