import TokenAcquisition.CommandLine.Run
import TokenAcquisition.Proofs.Program.Alone

/-!
The end of a silent run.  Its command has the scheduler to itself, so the run comes to what the
work of the command comes to alone: it prints the outcome of that, and leaves the cache as that
leaves it.  Neither the turns that the scheduler takes nor the waits that a run is good for are
ever used up, since the work is over after a few steps, whatever it is told.
-/

namespace TokenAcquisition

namespace Program

/-- However it is answered, a program is over after so many steps, and asks its user for nothing.
A request takes two steps: it is sent, and its answer is waited for. -/
inductive EndsWithin : Nat → Program (Except Breakdown Acquisition) → Prop where
  | done {steps : Nat} (result : Except Breakdown Acquisition) : EndsWithin steps (.done result)
  | now {steps : Nat} {next : UInt64 → Program (Except Breakdown Acquisition)}
      (ends : ∀ time, EndsWithin steps (next time)) : EndsWithin (steps + 1) (.now next)
  | sleep {steps milliseconds : Nat} {next : Program (Except Breakdown Acquisition)}
      (ends : EndsWithin steps next) : EndsWithin (steps + 1) (.sleep milliseconds next)
  | lookup {steps : Nat} {clientId : String} {account : Account}
      {next : Lookup → Program (Except Breakdown Acquisition)}
      (ends : ∀ answer, EndsWithin steps (next answer)) :
      EndsWithin (steps + 1) (.lookup clientId account next)
  | save {steps : Nat} {clientId : String} {credential : Credential}
      {metadata : Option AppMetadata}
      {next : Except Failure Unit → Program (Except Breakdown Acquisition)}
      (ends : ∀ answer, EndsWithin steps (next answer)) :
      EndsWithin (steps + 1) (.save clientId credential metadata next)
  | invalidate {steps : Nat} {clientId : String} {account : Account}
      {next : Except Failure Unit → Program (Except Breakdown Acquisition)}
      (ends : ∀ answer, EndsWithin steps (next answer)) :
      EndsWithin (steps + 1) (.invalidate clientId account next)
  | post {steps : Nat} {request : TokenRequest}
      {next : Except Failure HttpResponse → Program (Except Breakdown Acquisition)}
      (ends : ∀ answer, EndsWithin steps (next answer)) :
      EndsWithin (steps + 2) (.post request next)

/-- What the work of a command came to. -/
def Ending.work? : Ending (Except Breakdown Acquisition) → Option (Except Breakdown Acquisition)
  | .value result => some result
  | .panicked message => some (.error (.panic message))
  | .stuck => none

/-- A program comes to a result alone, and leaves a cache behind. -/
def ComesTo (program : Program (Except Breakdown Acquisition)) (around : Surroundings)
    (result : Except Breakdown Acquisition) (cache : Cache) : Prop :=
  (program.runAlone around).1.work? = some result ∧ (program.runAlone around).2.cache = cache

variable {steps : Nat} {program : Program (Except Breakdown Acquisition)} {around : Surroundings}
  {result : Except Breakdown Acquisition} {cache : Cache}

/-- What comes of a request is what comes of the wait for its answer. -/
theorem comesTo_post_iff {request : TokenRequest}
    {next : Except Failure HttpResponse → Program (Except Breakdown Acquisition)} :
    (Program.post request next).ComesTo around result cache ↔
      (afterPost next around.answer).ComesTo (around.posted request) result cache := by
  rw [ComesTo, runAlone_post, ComesTo]
  cases around.answer with
  | respond response delay => exact Iff.rfl
  | fail failure delay => exact Iff.rfl
  | panic message delay => exact Iff.rfl

theorem EndsWithin.exists_comesTo (ends : program.EndsWithin steps) (around : Surroundings) :
    ∃ result cache, program.ComesTo around result cache := by
  induction ends generalizing around with
  | done result => exact ⟨result, around.cache, rfl, rfl⟩
  | sleep ends inductionHypothesis => exact inductionHypothesis around
  | now ends inductionHypothesis => exact inductionHypothesis _ around
  | lookup ends inductionHypothesis => exact inductionHypothesis _ around
  | save ends inductionHypothesis => exact inductionHypothesis _ _
  | invalidate ends inductionHypothesis => exact inductionHypothesis _ _
  | @post steps request next ends inductionHypothesis =>
      simp only [comesTo_post_iff]
      cases around.answer with
      | respond response delay => exact inductionHypothesis _ _
      | fail failure delay => exact inductionHypothesis _ _
      | panic message delay => exact ⟨_, _, rfl, rfl⟩

end Program

open Program

/-- What came of a refresh token is written down. -/
theorem Operation.endsWithin_afterRefresh (op : Operation) (p : SilentParameters)
    (bound : Option String) (cached : Credential) (token : Secret) (steps : Nat)
    (answer : Except Failure HttpResponse) :
    (op.afterRefresh p bound cached token answer).EndsWithin (steps + 2) := by
  cases answer with
  | error failure => exact .done _
  | ok response =>
      rw [afterRefresh]
      rcases response.tokenResult with failure | tokens | e
      · exact .done _
      · dsimp only
        cases op.renewed p token bound cached tokens with
        | error failure => exact .done _
        | ok account =>
            refine .now fun now => .save fun answer => ?_
            cases answer with
            | error failure => exact .done _
            | ok written => exact .done _
      · dsimp only
        split
        next =>
          refine .invalidate fun answer => ?_
          cases answer with
          | error failure => exact .done _
          | ok written => exact .done _
        next => exact .done _

theorem Operation.endsWithin_refreshing (op : Operation) (p : SilentParameters)
    (bound : Option String) (cached : Credential) (steps : Nat) :
    (op.refreshing p bound cached).EndsWithin (steps + 4) := by
  rw [refreshing]
  split
  next token _ => exact .post (op.endsWithin_afterRefresh p bound cached token steps)
  next => exact .done _

theorem Operation.endsWithin_silent (op : Operation) (p : SilentParameters)
    (bound : Option String) : (supervised (op.silent p bound)).EndsWithin 6 := by
  rw [supervised_silent]
  refine .lookup fun found => ?_
  cases found with
  | notFound => exact .done _
  | uiRequired => exact .done _
  | found cached =>
      rw [afterLookup]
      split
      next => exact op.endsWithin_refreshing p bound cached 1
      next =>
        refine .now fun now => ?_
        rcases cached.hasValidAccessToken p.scopes now with panic | _ | _
        · exact .done _
        · exact op.endsWithin_refreshing p bound cached 0
        · exact .done _

namespace CommandLine

open Dispatch

/-! ### A scheduler with one silent command -/

/-- The command, with so much of its work left. -/
def workingJob (id : String) (program : Program (Except Breakdown Acquisition)) : Job :=
  { correlationId := id, lane := .silent, reply := 0, progress := .running program }

/-- A dispatcher that has one command, and at which nothing is under way. -/
def holding (d : Dispatcher) (around : Surroundings) (job : Job) : Dispatcher :=
  { d with
    now := around.now
    cache := around.cache
    transport := around.transport
    lock := none
    write := .none
    jobs := [job]
    current := none
    replies := [{}] }

/-- The command is at work. -/
def working (d : Dispatcher) (around : Surroundings) (id : String)
    (program : Program (Except Breakdown Acquisition)) : Scheduler :=
  { dispatcher := holding d around (workingJob id program), ready := [] }

/-- It rests until a time. -/
def resting (d : Dispatcher) (around : Surroundings) (id : String)
    (program : Program (Except Breakdown Acquisition)) (deadline : Nat) : Scheduler :=
  { dispatcher := holding d around { workingJob id program with deadline := some deadline }
    ready := []
    timed := [0] }

/-- It has got hold of the cache. -/
def seizing (d : Dispatcher) (around : Surroundings) (id : String)
    (program : Program (Except Breakdown Acquisition)) : Scheduler :=
  { dispatcher := { holding d around (workingJob id program) with lock := some 0 }, ready := [] }

/-- A store that it wants is being written. -/
def writing (d : Dispatcher) (around : Surroundings) (id : String)
    (program : Program (Except Breakdown Acquisition)) (store : Store) : Scheduler :=
  { dispatcher :=
      { holding d { around with cache := { around.cache with store } } (workingJob id program) with
        lock := some 0, write := .underWay }
    ready := [] }

/-- The write has come to its end. -/
def written (d : Dispatcher) (around : Surroundings) (id : String)
    (program : Program (Except Breakdown Acquisition)) (store : Store) : Scheduler :=
  { dispatcher :=
      { holding d { around with cache := (around.cache.replace store).2 }
          (workingJob id program) with
        lock := some 0, write := .ended (around.cache.replace store).1 }
    ready := [] }

/-- Its work is over. -/
def closing (d : Dispatcher) (around : Surroundings) (id : String) (stage : Closing)
    (result : Except Breakdown Acquisition) : Dispatcher :=
  holding d around { workingJob id (.done result) with progress := .closing stage result }

/-- Its outcome has been counted, and these deliveries wait for its caller. -/
def reported (d : Dispatcher) (around : Surroundings) (id : String)
    (result : Except Breakdown Acquisition) (waiting : List Delivery) : Dispatcher :=
  { closing d around id .posted result with
    metrics := d.metrics.record Lane.silent.label (Outcome.ofWork (some id) result).label
    replies := [{ waiting }] }

/-- There is something to be seen. -/
def isThere (s : Scheduler) : Bool :=
  (delivered? s).isSome || (launched? s).isSome

/-- Nothing has been seen of a dispatcher but its requests. -/
def IsQuiet (d : Dispatcher) : Prop :=
  ∀ event ∈ d.events, ∃ request, event = .deed (.post request)

variable {d : Dispatcher} {around : Surroundings} {id : String} {deadline : Nat}
  {program : Program (Except Breakdown Acquisition)} {result : Except Breakdown Acquisition}
  {cache : Cache} {s : Scheduler}

theorem IsQuiet.findSome?_eq_none {α : Type} {look : Event → Option α} (quiet : IsQuiet d)
    (blind : ∀ request, look (.deed (.post request)) = none) : d.events.findSome? look = none := by
  rw [List.findSome?_eq_none_iff]
  intro event seen
  obtain ⟨request, rfl⟩ := quiet event seen
  exact blind request

theorem IsQuiet.isThere_eq_false (quiet : IsQuiet s.dispatcher) : isThere s = false := by
  rw [isThere, delivered?, launched?, quiet.findSome?_eq_none fun _ => rfl,
    quiet.findSome?_eq_none fun _ => rfl]
  rfl

theorem IsQuiet.posted (quiet : IsQuiet d) (request : TokenRequest) :
    IsQuiet (d.log [.deed (.post request)]) := by
  intro event seen
  rcases List.mem_cons.mp seen with rfl | before
  · exact ⟨request, rfl⟩
  · exact quiet event before

/-! ### How it goes on -/

/-- What a run may still use up until there is something to be seen. -/
structure Left where
  /-- Steps of the work that is polled. -/
  work : Nat
  turns : Nat
  waits : Nat

/-- A run may still use up what so many steps need. -/
structure Left.Suffices (left : Left) (steps : Nat) : Prop where
  work : 3 * steps < left.work
  turns : 2 * steps + 2 < left.turns
  waits : steps ≤ left.waits
  /-- They are few enough for a fresh turn, too. -/
  few : steps ≤ 100

/-- When nothing can go on, time passes, unless there is something to be seen. -/
def goOnAfter (waits : Nat) (s : Scheduler) : Scheduler :=
  if isThere s then s
  else
    match s.nextDeadline? with
    | some deadline => goOnUntil isThere waits (s.moveTo deadline)
    | none => s

/-- A run whose command is polled goes on. -/
def goOn (left : Left) (s : Scheduler) : Scheduler :=
  goOnAfter left.waits (Scheduler.runReady left.turns (Scheduler.runWork left.work 0 s))

theorem goOnUntil_succ (waits : Nat) (s : Scheduler) :
    goOnUntil isThere (waits + 1) s = goOnAfter waits s.run := rfl

section Steps

variable {work turns waits : Nat}

theorem goOn_now (next : UInt64 → Program (Except Breakdown Acquisition)) :
    goOn ⟨work + 1, turns, waits⟩ (working d around id (.now next)) =
      goOn ⟨work, turns, waits⟩ (working d around id (next around.now)) := rfl

theorem goOn_lookup (clientId : String) (account : Account)
    (next : Lookup → Program (Except Breakdown Acquisition)) :
    goOn ⟨work + 2, turns, waits⟩ (working d around id (.lookup clientId account next)) =
      goOn ⟨work, turns, waits⟩
        (working d around id (next (around.cache.store.lookup clientId account))) := rfl

theorem goOn_post (request : TokenRequest)
    (next : Except Failure HttpResponse → Program (Except Breakdown Acquisition)) :
    goOn ⟨work + 1, turns, waits⟩ (working d around id (.post request next)) =
      goOn ⟨work, turns, waits⟩
        (working (d.log [.deed (.post request)]) (around.posted request) id
          (afterPost next around.answer)) := rfl

/-- A write ends as soon as nothing else can go on, and the command goes on where it was. -/
theorem runReady_writing (program : Program (Except Breakdown Acquisition)) (store : Store) :
    Scheduler.runReady (turns + 2) (writing d around id program store) =
      Scheduler.runReady turns
        (Scheduler.runWork Scheduler.workSteps 0 (written d around id program store)) := rfl

theorem workSteps_eq : Scheduler.workSteps = 999 + 1 := rfl

theorem runWork_save (clientId : String) (credential : Credential) (metadata : Option AppMetadata)
    (next : Except Failure Unit → Program (Except Breakdown Acquisition)) :
    Scheduler.runWork (work + 3) 0
        (working d around id (.save clientId credential metadata next)) =
      writing d around id (.save clientId credential metadata next)
        (around.cache.store.save clientId credential metadata) := rfl

theorem runWork_saved (clientId : String) (credential : Credential)
    (metadata : Option AppMetadata) (store : Store)
    (next : Except Failure Unit → Program (Except Breakdown Acquisition)) :
    Scheduler.runWork (work + 1) 0
        (written d around id (.save clientId credential metadata next) store) =
      Scheduler.runWork work 0
        (working d { around with cache := (around.cache.replace store).2 } id
          (next (around.cache.replace store).1)) := rfl

theorem goOn_save (clientId : String) (credential : Credential) (metadata : Option AppMetadata)
    (next : Except Failure Unit → Program (Except Breakdown Acquisition)) :
    goOn ⟨work + 3, turns + 2, waits⟩
        (working d around id (.save clientId credential metadata next)) =
      goOn ⟨999, turns, waits⟩
        (working d { around with cache := (around.cache.save clientId credential metadata).2 } id
          (next (around.cache.save clientId credential metadata).1)) := by
  rw [goOn, runWork_save, runReady_writing, workSteps_eq, runWork_saved]
  rfl

theorem runWork_invalidated (clientId : String) (account : Account) (store : Store)
    (next : Except Failure Unit → Program (Except Breakdown Acquisition)) :
    Scheduler.runWork (work + 1) 0
        (written d around id (.invalidate clientId account next) store) =
      Scheduler.runWork work 0
        (working d { around with cache := (around.cache.replace store).2 } id
          (next (around.cache.replace store).1)) := rfl

theorem runWork_seize (clientId : String) (account : Account)
    (next : Except Failure Unit → Program (Except Breakdown Acquisition)) :
    Scheduler.runWork (work + 1) 0 (working d around id (.invalidate clientId account next)) =
      Scheduler.runWork work 0 (seizing d around id (.invalidate clientId account next)) := rfl

theorem advance?_seizing (clientId : String) (account : Account)
    (next : Except Failure Unit → Program (Except Breakdown Acquisition)) :
    (seizing d around id (.invalidate clientId account next)).dispatcher.advance? 0 =
      (seizing d around id (.invalidate clientId account next)).dispatcher.change? 0
        (workingJob id (.invalidate clientId account next))
        (around.cache.store.invalidate? clientId account) next :=
  Dispatcher.advance?_invalidate rfl rfl

theorem goOn_keep {clientId : String} {account : Account}
    {next : Except Failure Unit → Program (Except Breakdown Acquisition)}
    (nothing : around.cache.store.invalidate? clientId account = none) :
    goOn ⟨work + 2, turns, waits⟩ (working d around id (.invalidate clientId account next)) =
      goOn ⟨work, turns, waits⟩ (working d around id (next (.ok ()))) := by
  rw [goOn, runWork_seize, Scheduler.runWork, advance?_seizing, nothing]
  rfl

theorem goOn_invalidate {clientId : String} {account : Account} {store : Store}
    {next : Except Failure Unit → Program (Except Breakdown Acquisition)}
    (dropped : around.cache.store.invalidate? clientId account = some store) :
    goOn ⟨work + 3, turns + 2, waits⟩ (working d around id (.invalidate clientId account next)) =
      goOn ⟨999, turns, waits⟩
        (working d { around with cache := (around.cache.replace store).2 } id
          (next (around.cache.replace store).1)) := by
  have begun : Scheduler.runWork (work + 3) 0
      (working d around id (.invalidate clientId account next)) =
        writing d around id (.invalidate clientId account next) store := by
    rw [runWork_seize, Scheduler.runWork, advance?_seizing, dropped]
    rfl
  rw [goOn, begun, runReady_writing, workSteps_eq, runWork_invalidated]
  rfl

theorem runWork_done :
    Scheduler.runWork (work + 1) 0 (working d around id (.done result)) =
      { dispatcher := closing d around id .ended result, ready := [.runner 0] } := rfl

theorem runReady_closing :
    Scheduler.runReady (turns + 1)
        { dispatcher := closing d around id .ended result, ready := [.runner 0] } =
      Scheduler.runReady turns
        { dispatcher :=
            reported d around id result [{ job := 0, outcome := .ofWork (some id) result }]
          ready := [.reply 0] } := rfl

theorem runReady_reported (delivery : Delivery) :
    Scheduler.runReady (turns + 2)
        { dispatcher := reported d around id result [delivery], ready := [.reply 0] } =
      { dispatcher := (reported d around id result []).log [.delivered delivery]
        ready := [] } := rfl

theorem goOn_done :
    goOn ⟨work + 1, turns + 3, waits⟩ (working d around id (.done result)) =
      goOnAfter waits
        { dispatcher :=
            (reported d around id result []).log
              [.delivered { job := 0, outcome := .ofWork (some id) result }]
          ready := [] } := by
  rw [goOn, runWork_done, runReady_closing, runReady_reported]

theorem runWork_sleep (milliseconds : Nat) (next : Program (Except Breakdown Acquisition)) :
    Scheduler.runWork (work + 1) 0 (working d around id (.sleep milliseconds next)) =
      Scheduler.runWork work 0
        (resting d around id (.sleep milliseconds next) (d.clock + milliseconds)) := rfl

theorem runWork_rested {milliseconds : Nat} {next : Program (Except Breakdown Acquisition)}
    (passed : deadline ≤ d.clock) :
    Scheduler.runWork (work + 1) 0 (resting d around id (.sleep milliseconds next) deadline) =
      Scheduler.runWork work 0 (working d around id next) := by
  have advanced : (resting d around id (.sleep milliseconds next) deadline).dispatcher.advance? 0 =
      some (working d around id next).dispatcher := if_pos passed
  rw [Scheduler.runWork, advanced]
  rfl

theorem runWork_resting {milliseconds : Nat} {next : Program (Except Breakdown Acquisition)}
    (early : d.clock < deadline) :
    Scheduler.runWork (work + 1) 0 (resting d around id (.sleep milliseconds next) deadline) =
      resting d around id (.sleep milliseconds next) deadline := by
  have waits : (resting d around id (.sleep milliseconds next) deadline).dispatcher.advance? 0 =
      none := if_neg (Nat.not_le_of_lt early)
  rw [Scheduler.runWork, waits]
  rfl

theorem runReady_resting : Scheduler.runReady turns (resting d around id program deadline) =
    resting d around id program deadline := by
  cases turns with
  | zero => rfl
  | succ turns => rfl

theorem timed_resting : (resting d around id program deadline).timed = [0] := rfl

theorem deadline_resting :
    ((resting d around id program deadline).job? 0).bind Job.deadline = some deadline := rfl

theorem nextDeadline?_resting (early : d.clock < deadline) :
    (resting d around id program deadline).nextDeadline? = some deadline := by
  have ahead : (some deadline).filter
      (fun deadline => (resting d around id program deadline).dispatcher.clock < deadline) =
        some deadline :=
    Option.filter_eq_some_iff.mpr ⟨rfl, decide_eq_true early⟩
  rw [Scheduler.nextDeadline?, timed_resting, List.filterMap_cons_some
    (by rw [deadline_resting]; exact ahead)]
  rfl

theorem dueBy_resting : (resting d around id program deadline).dueBy deadline = [0] := by
  have passed : (some deadline).filter (· ≤ deadline) = some deadline :=
    Option.filter_eq_some_iff.mpr ⟨rfl, decide_eq_true (Nat.le_refl deadline)⟩
  rw [Scheduler.dueBy, timed_resting,
    List.filterMap_cons_some (by rw [deadline_resting, passed]; rfl), List.filterMap_nil,
    List.mergeSort_singleton]
  rfl

theorem moveTo_resting :
    (resting d around id program deadline).moveTo deadline =
      { resting { d with clock := deadline } around id program deadline with
        ready := [.work 0] } := by
  rw [Scheduler.moveTo, dueBy_resting]
  rfl

/-- The wait of the command is over, and it goes on in a fresh turn. -/
theorem run_rested (milliseconds : Nat) (next : Program (Except Breakdown Acquisition)) :
    ((resting d around id (.sleep milliseconds next) deadline).moveTo deadline).run =
      Scheduler.runReady 1099
        (Scheduler.runWork 999 0 (working { d with clock := deadline } around id next)) := by
  have turns : ((resting d around id (.sleep milliseconds next) deadline).moveTo deadline).turns =
      1099 + 1 := by
    rw [moveTo_resting]
    rfl
  rw [Scheduler.run, turns, moveTo_resting, Scheduler.runReady]
  show Scheduler.runReady 1099 (Scheduler.runWork Scheduler.workSteps 0
    (resting { d with clock := deadline } around id (.sleep milliseconds next) deadline)) = _
  rw [workSteps_eq, runWork_rested (Nat.le_refl deadline)]

/-- A wait that takes no time is over at once. -/
theorem goOn_sleep_zero (next : Program (Except Breakdown Acquisition)) :
    goOn ⟨work + 2, turns, waits⟩ (working d around id (.sleep 0 next)) =
      goOn ⟨work, turns, waits⟩ (working d around id next) := by
  have passed : d.clock + 0 ≤ d.clock := Nat.le_refl d.clock
  rw [goOn, runWork_sleep, runWork_rested passed]
  rfl

/-- A wait that takes time is one of those that a run is good for. -/
theorem goOn_sleep {milliseconds : Nat} (some : 0 < milliseconds) (quiet : IsQuiet d)
    (next : Program (Except Breakdown Acquisition)) :
    goOn ⟨work + 2, turns, waits + 1⟩ (working d around id (.sleep milliseconds next)) =
      goOn ⟨999, 1099, waits⟩
        (working { d with clock := d.clock + milliseconds } around id next) := by
  have early : d.clock < d.clock + milliseconds := Nat.lt_add_of_pos_right some
  have unseen : isThere
      (resting d around id (.sleep milliseconds next) (d.clock + milliseconds)) = false :=
    IsQuiet.isThere_eq_false quiet
  rw [goOn, runWork_sleep, runWork_resting early, runReady_resting, goOnAfter,
    if_neg (Bool.eq_false_iff.mp unseen), nextDeadline?_resting early]
  show goOnUntil isThere (waits + 1) _ = _
  rw [goOnUntil_succ, run_rested]
  rfl

end Steps

/-! ### How it ends -/

namespace Left

variable {left : Left} {steps work turns waits : Nat}

theorem Suffices.exists_more (enough : left.Suffices (steps + 1)) :
    ∃ work turns waits, left = ⟨work + 3, turns + 2, waits + 1⟩ ∧
      Suffices ⟨work, turns, waits⟩ steps := by
  obtain ⟨work, turns, waits⟩ := left
  obtain ⟨works, turning, waiting, few⟩ := enough
  dsimp only at works turning waiting
  have same : (⟨work, turns, waits⟩ : Left) = ⟨work - 3 + 3, turns - 2 + 2, waits - 1 + 1⟩ := by
    rw [Left.mk.injEq]
    omega
  refine ⟨work - 3, turns - 2, waits - 1, same, ?_⟩
  exact
    { work := (by omega : 3 * steps < work - 3)
      turns := (by omega : 2 * steps + 2 < turns - 2)
      waits := (by omega : steps ≤ waits - 1)
      few := (by omega : steps ≤ 100) }

theorem Suffices.spare (enough : Suffices ⟨work, turns, waits⟩ steps) (unused : Nat) :
    Suffices ⟨work + unused, turns + 2, waits + 1⟩ steps where
  work := Nat.lt_add_right unused enough.work
  turns := Nat.lt_add_right 2 enough.turns
  waits := Nat.le_succ_of_le enough.waits
  few := enough.few

/-- Work that is polled anew has all of its steps left. -/
theorem Suffices.polled (enough : Suffices ⟨work, turns, waits⟩ steps) :
    Suffices ⟨999, turns, waits + 1⟩ steps where
  work := Nat.lt_of_le_of_lt (Nat.mul_le_mul_left 3 enough.few) (by decide : 3 * 100 < 999)
  turns := enough.turns
  waits := Nat.le_succ_of_le enough.waits
  few := enough.few

/-- After a wait all of the turns are left, too. -/
theorem Suffices.rested (enough : Suffices ⟨work, turns, waits⟩ steps) :
    Suffices ⟨999, 1099, waits⟩ steps where
  work := enough.polled.work
  turns := by
    have few := enough.few
    show 2 * steps + 2 < 1099
    omega
  waits := enough.waits
  few := enough.few

end Left

/-- The outcome of the command has been handed out, and the cache is left behind. -/
def IsOver (id : String) (result : Except Breakdown Acquisition) (cache : Cache)
    (s : Scheduler) : Prop :=
  delivered? s = some (.ofWork (some id) result) ∧ s.dispatcher.cache = cache

theorem goOnAfter_of_delivered {waits : Nat} {outcome : Outcome}
    (delivered : delivered? s = some outcome) : goOnAfter waits s = s := by
  rw [goOnAfter, if_pos (by rw [isThere, delivered]; rfl)]

variable {left : Left} {steps : Nat}

theorem isOver_goOn_done (enough : left.Suffices steps) :
    IsOver id result around.cache (goOn left (working d around id (.done result))) := by
  obtain ⟨work, turns, waits⟩ := left
  obtain ⟨work, rfl⟩ := Nat.exists_eq_add_of_lt enough.work
  obtain ⟨turns, rfl⟩ := Nat.exists_eq_add_of_lt enough.turns
  have same : 2 * steps + 2 + turns + 1 = 2 * steps + turns + 3 := by omega
  rw [same, goOn_done, goOnAfter_of_delivered rfl]
  exact ⟨rfl, rfl⟩

/-- After a wait a command comes to what it comes to without it. -/
theorem isOver_goOn_sleep {milliseconds : Nat} {next : Program (Except Breakdown Acquisition)}
    (enough : left.Suffices (steps + 1)) (quiet : IsQuiet d)
    (isOver : ∀ {d left}, left.Suffices steps → IsQuiet d →
      IsOver id result cache (goOn left (working d around id next))) :
    IsOver id result cache (goOn left (working d around id (.sleep milliseconds next))) := by
  obtain ⟨work, turns, waits, rfl, less⟩ := enough.exists_more
  cases milliseconds with
  | zero =>
      rw [goOn_sleep_zero]
      exact isOver (less.spare _) quiet
  | succ milliseconds =>
      rw [goOn_sleep (Nat.succ_pos milliseconds) quiet]
      exact isOver less.rested quiet

/-- So it does when it waits for the answer to a request. -/
theorem isOver_goOn_afterPost {next : Except Failure HttpResponse →
      Program (Except Breakdown Acquisition)} {answer : TransportAnswer}
    (enough : left.Suffices (steps + 1)) (quiet : IsQuiet d)
    (comes : (afterPost next answer).ComesTo around result cache)
    (isOver : ∀ {answer d left}, left.Suffices steps → IsQuiet d →
      (next answer).ComesTo around result cache →
        IsOver id result cache (goOn left (working d around id (next answer)))) :
    IsOver id result cache (goOn left (working d around id (afterPost next answer))) := by
  cases answer with
  | respond response delay =>
      exact isOver_goOn_sleep enough quiet fun less quiet => isOver less quiet comes
  | fail failure delay =>
      exact isOver_goOn_sleep enough quiet fun less quiet => isOver less quiet comes
  | panic message delay =>
      obtain ⟨own, rfl⟩ := comes
      cases own
      exact isOver_goOn_sleep enough quiet fun less quiet => isOver_goOn_done less

/-- A command that is at work comes to what its program comes to alone. -/
theorem isOver_goOn (id : String) (ends : program.EndsWithin steps)
    (enough : left.Suffices steps) (quiet : IsQuiet d)
    (comes : program.ComesTo around result cache) :
    IsOver id result cache (goOn left (working d around id program)) := by
  -- on what the program asks for next; a step uses up no more than its share of what is left
  induction ends generalizing d around left with
  | done value =>
      obtain ⟨own, rfl⟩ := comes
      cases own
      exact isOver_goOn_done enough
  | now ends inductionHypothesis =>
      obtain ⟨work, turns, waits, rfl, less⟩ := enough.exists_more
      rw [goOn_now]
      exact inductionHypothesis _ (less.spare _) quiet comes
  | sleep ends inductionHypothesis =>
      exact isOver_goOn_sleep enough quiet fun less quiet => inductionHypothesis less quiet comes
  | lookup ends inductionHypothesis =>
      obtain ⟨work, turns, waits, rfl, less⟩ := enough.exists_more
      rw [goOn_lookup]
      exact inductionHypothesis _ (less.spare _) quiet comes
  | save ends inductionHypothesis =>
      obtain ⟨work, turns, waits, rfl, less⟩ := enough.exists_more
      rw [goOn_save]
      exact inductionHypothesis _ less.polled quiet comes
  | @invalidate steps clientId account next ends inductionHypothesis =>
      obtain ⟨work, turns, waits, rfl, less⟩ := enough.exists_more
      rw [ComesTo, Program.runAlone, Cache.invalidate] at comes
      cases drops : around.cache.store.invalidate? clientId account with
      | none =>
          rw [drops] at comes
          rw [goOn_keep drops]
          exact inductionHypothesis _ (less.spare _) quiet comes
      | some store =>
          rw [drops] at comes
          rw [goOn_invalidate drops]
          exact inductionHypothesis _ less.polled quiet comes
  | post ends inductionHypothesis =>
      obtain ⟨work, turns, waits, rfl, less⟩ := enough.exists_more
      rw [comesTo_post_iff] at comes
      rw [goOn_post]
      exact isOver_goOn_afterPost (less.spare 2) (quiet.posted _) comes (inductionHypothesis _)

/-! ### A run -/

/-- What is around the work of the one command of a run. -/
def Outside.surroundings (outside : Outside) (cache : Cache) : Surroundings where
  now := outside.now
  cache := cache
  transport := outside.transport
  supply := outside.supply

/-- The lane looks for commands, the watcher of the command starts it, and it is polled. -/
theorem runReady_submit (turns : Nat) (cache : Cache) (outside : Outside) (id : String)
    (program : Program (Except Breakdown Acquisition)) :
    Scheduler.runReady (turns + 3) ((dispatcher outside cache).submit .silent id 0 program) =
      Scheduler.runReady turns (Scheduler.runWork 1000 0
        (working (dispatcher outside cache).dispatcher (outside.surroundings cache) id program)) :=
  rfl

theorem goOnUntil_submit (waits : Nat) (cache : Cache) (outside : Outside) (id : String)
    (program : Program (Except Breakdown Acquisition)) :
    goOnUntil isThere (waits + 1) ((dispatcher outside cache).submit .silent id 0 program) =
      goOn ⟨1000, 1097, waits⟩ (working (dispatcher outside cache).dispatcher
        (outside.surroundings cache) id program) := by
  have turns : ((dispatcher outside cache).submit .silent id 0 program).turns = 1097 + 3 := rfl
  rw [goOnUntil_succ, Scheduler.run, turns, runReady_submit, goOn]

theorem quiet_dispatcher (outside : Outside) (cache : Cache) :
    IsQuiet (dispatcher outside cache).dispatcher :=
  fun _ seen => (List.not_mem_nil seen).elim

theorem IsOver.turn_eq (isOver : IsOver id result cache s) :
    turn s = .ended (.ofOutcome (.ofWork (some id) result)) cache := by
  obtain ⟨delivered, rfl⟩ := isOver
  rw [turn, delivered]

theorem start_of_command {settings : Settings} {op : Operation} {mode : Mode} {lane : Lane}
    {outside : Outside} (configured : operation settings = .ok op)
    (commanded : command settings op cache.store mode outside.correlationId =
      .ok (lane, program)) :
    start settings cache mode outside =
      turn (goOnUntil isThere waits
        ((dispatcher outside cache).submit lane outside.correlationId 0 program)) := by
  unfold start
  rw [configured]
  dsimp only [Bind.bind, Except.bind]
  rw [commanded]
  rfl

/-- A silent run that knows its account ends with the outcome of its command, which is what the
work of the command comes to alone, and leaves the cache as that does. -/
theorem start_silent {settings : Settings} {op : Operation} {wanted : Option String}
    {account : Account} (configured : operation settings = .ok op)
    (selected : selectAccount cache.store settings.clientId wanted = some account)
    (force : Bool) (outside : Outside) :
    ∃ result left,
      (Operation.supervised (op.silent (silentParameters settings account force)
        (some outside.correlationId))).ComesTo (outside.surroundings cache) result left ∧
      start settings cache (.silent wanted force) outside =
        .ended (.ofOutcome (.ofWork (some outside.correlationId) result)) left := by
  have ends := op.endsWithin_silent (silentParameters settings account force)
    (some outside.correlationId)
  obtain ⟨result, left, comes⟩ := ends.exists_comesTo (outside.surroundings cache)
  have commanded : command settings op cache.store (.silent wanted force) outside.correlationId =
      .ok (.silent, Operation.supervised (op.silent (silentParameters settings account force)
        (some outside.correlationId))) := by
    rw [command, selected]
  have enough : Left.Suffices ⟨1000, 1097, 99⟩ 6 := by constructor <;> decide
  have isOver :=
    isOver_goOn outside.correlationId ends enough (quiet_dispatcher outside cache) comes
  rw [← goOnUntil_submit] at isOver
  refine ⟨result, left, comes, ?_⟩
  rw [start_of_command configured commanded]
  exact isOver.turn_eq

end CommandLine

end TokenAcquisition
