import TokenAcquisition.Proofs.Dispatch.Whole
import TokenAcquisition.Proofs.Flow.Resolution

/-!
Reports of completions.  Whoever reports one asks first which command is registered, and then
calls on the flow of that command.  In between the command may end and the next one begin, so a
report may come to a flow that is over, and a late one to a flow that is not its own.

`Desk.Step` is one step of a report or of anyone else around the dispatcher.  The main statement
says of any run what the answer to a report means: a report that is told to have resolved a flow
names the launch of the command that was registered when it asked, and no other report of that
token is told so; and a report that is told otherwise has changed nothing.
-/

namespace TokenAcquisition

namespace Flow

namespace Call

/-- What a completion has returned: whether it resolved the flow. -/
def verdict? : Call → Option Bool
  | .complete _ _ _ (.resolved _) => some true
  | .complete _ _ _ .ignored => some false
  | _ => none

variable {flow flow' : Flow} {call call' : Call} {contacts : List Contact}

/-- A completion keeps its arguments. -/
theorem Step.complete_of {requestCode : Int} {token : Uuid} {completion : Completion}
    {progress : Completing}
    (step : Step flow (.complete requestCode token completion progress) contacts flow' call') :
    ∃ progress', call' = .complete requestCode token completion progress' := by
  cases step <;> exact ⟨_, rfl⟩

/-- Whoever took the request from the flow keeps it. -/
theorem Step.taken_ne_nil (step : Step flow call contacts flow' call') (took : call.taken ≠ []) :
    call'.taken ≠ [] := by
  cases step <;> simp_all [taken]

/-- A completion that takes nothing tells the user agent nothing. -/
theorem Step.contacts_eq_nil (step : Step flow call contacts flow' call')
    (nothing : call'.TookNothing) : contacts = [] := by
  cases step <;> simp_all [TookNothing]

theorem IsBegun.taken_eq_nil (begun : call.IsBegun) : call.taken = [] := by
  unfold IsBegun at begun
  split at begun <;> simp_all [taken]

theorem verdict?_eq_true_iff :
    call.verdict? = some true ↔ ∃ requestCode token completion pending,
      call = .complete requestCode token completion (.resolved pending) := by
  unfold verdict?
  split <;> simp_all

theorem verdict?_eq_false_iff :
    call.verdict? = some false ↔ ∃ requestCode token completion,
      call = .complete requestCode token completion .ignored := by
  unfold verdict?
  split <;> simp_all

end Call

namespace Shared

variable {s t : Shared} {n : Nat} {call : Call}

/-- Nobody has taken the request of the flow: no completion, no disposal, no failed launch. -/
def IsUnresolved (s : Shared) : Prop :=
  ∀ call ∈ s.calls, call.taken = []

/-- Whoever took the request from the flow has it for good. -/
theorem Run.exists_taker (run : Run s t) (found : s.calls[n]? = some call)
    (took : call.taken ≠ []) : ∃ call', t.calls[n]? = some call' ∧ call'.taken ≠ [] := by
  induction run with
  | refl => exact ⟨call, found, took⟩
  | tail _ last inductionHypothesis =>
      obtain ⟨m, last⟩ := last
      obtain ⟨middle, atMiddle, took⟩ := inductionHypothesis
      obtain ⟨call', after, same | ⟨contacts, step⟩⟩ := last.call_cases atMiddle
      · exact ⟨call', after, same ▸ took⟩
      · exact ⟨call', after, step.taken_ne_nil took⟩

/-- Nobody had taken the request before the call that resolved the flow looked at it. -/
theorem Run.isUnresolved (run : Run s t) (reached : t.Reachable)
    (begun : ∀ earlier, s.calls[n]? = some earlier → earlier.IsBegun)
    (found : t.calls[n]? = some call) (resolved : call.HasResolved) : s.IsUnresolved := by
  intro earlier member
  by_contra took
  obtain ⟨m, atEarlier⟩ := List.mem_iff_getElem?.mp member
  obtain ⟨taker, atTaker, kept⟩ := run.exists_taker atEarlier took
  obtain rfl : m = n := reached.coherent.taker_unique atTaker found kept resolved.taken_ne_nil
  exact took (begun earlier atEarlier).taken_eq_nil

end Shared

end Flow

namespace Dispatch

/-- How far a report is. -/
inductive Report.Progress where
  | begun
  /-- No command was registered. -/
  | orphaned
  /-- A command was registered, and the call on its flow has a number. -/
  | routed (session : Session) (call : Nat)

/-- A completion that somebody reports. -/
structure Report where
  requestCode : Int
  token : Uuid
  completion : Completion
  progress : Report.Progress := .begun

namespace Report

/-- The report of the URL that the user agent was redirected to. -/
def redirected (token : Uuid) (url : String) : Report :=
  { requestCode := Flow.browserFlow, token, completion := .ofRedirect url }

def cancelled (token : Uuid) : Report :=
  { requestCode := Flow.browserFlow, token, completion := .cancelled }

def moved (report : Report) (progress : Progress) : Report :=
  { report with progress }

/-- The call on the flow that the report is routed to. -/
def call (report : Report) (progress : Flow.Call.Completing) : Flow.Call :=
  .complete report.requestCode report.token report.completion progress

end Report

/-- A system with the reports of completions, in the order in which they began. -/
structure Desk where
  system : System
  reports : List Report := []

namespace Desk

/-- What a report was told: whether it resolved a flow. -/
def answer? (d : Desk) (i : Nat) : Option Bool :=
  d.reports[i]?.bind fun report =>
    match report.progress with
    | .begun => none
    | .orphaned => some false
    | .routed session k => (d.system.uses session.id).calls[k]?.bind Flow.Call.verdict?

/-- Nobody goes on with the calls of reports. -/
def Rests (d : Desk) (after : System) : Prop :=
  ∀ report ∈ d.reports, ∀ session k, report.progress = .routed session k →
    (after.uses session.id).calls[k]? = (d.system.uses session.id).calls[k]?

/-- One step of the report of a number, or of anyone else. -/
inductive Step : Desk → Option Nat → Desk → Prop where
  | enter {d} (report : Report) :
      report.progress = .begun →
      Step d (some d.reports.length) { d with reports := d.reports ++ [report] }
  | orphan {d : Desk} {i report} :
      d.reports[i]? = some report → report.progress = .begun →
      d.system.dispatcher.session = none →
      Step d (some i)
        { system :=
            { d.system with
              dispatcher :=
                { d.system.dispatcher with
                  metrics := d.system.dispatcher.metrics.recordOrphan } }
          reports := d.reports.set i (report.moved .orphaned) }
  /-- The report has seen which command is registered, and its call on the flow begins. -/
  | route {d : Desk} {i report session job} :
      d.reports[i]? = some report → report.progress = .begun →
      d.system.dispatcher.session = some session →
      d.system.dispatcher.jobs[session.id]? = some job →
      Step d (some i)
        { system :=
            d.system.share session.id job
              { d.system.shared session.id with
                calls := (d.system.shared session.id).calls ++ [report.call .begun] }
          reports :=
            d.reports.set i
              (report.moved (.routed session (d.system.uses session.id).calls.length)) }
  | go {d : Desk} {i report session k job after} :
      d.reports[i]? = some report → report.progress = .routed session k →
      d.system.dispatcher.jobs[session.id]? = some job →
      Flow.Shared.Step (d.system.shared session.id) k after →
      Step d (some i) { d with system := d.system.share session.id job after }
  | world {d : Desk} {occurrences system} :
      System.Step d.system occurrences system → d.Rests system →
      Step d none { d with system }

def Run : Desk → Desk → Prop :=
  Relation.ReflTransGen fun d e => ∃ label, Step d label e

/-- Nothing has been submitted or reported yet. -/
structure IsFresh (d : Desk) : Prop where
  system : d.system.IsFresh
  reports : d.reports = []

variable {d e f : Desk} {i j : Nat} {label : Option Nat} {report : Report}

theorem Step.system (step : Step d label e) :
    e.system = d.system ∨ ∃ occurrences, System.Step d.system occurrences e.system := by
  cases step with
  | enter => exact .inl rfl
  | orphan _ _ nobody => exact .inr ⟨_, .orphan nobody⟩
  | route _ _ _ found => exact .inr ⟨_, .call found (.enter _ trivial)⟩
  | go _ _ found step => exact .inr ⟨_, .call found step⟩
  | world step => exact .inr ⟨_, step⟩

/-- A desk runs as the system does on it. -/
theorem Run.exists_run (run : d.Run e) : ∃ trace, d.system.Run trace e.system := by
  induction run with
  | refl => exact ⟨[], .refl⟩
  | tail _ last inductionHypothesis =>
      obtain ⟨label, last⟩ := last
      obtain ⟨trace, before⟩ := inductionHypothesis
      rcases last.system with same | ⟨occurrences, step⟩
      · exact ⟨trace, same ▸ before⟩
      · exact ⟨_, before.step step⟩

theorem Run.reachable (run : d.Run e) (fresh : d.IsFresh) (n : Nat) :
    (e.system.shared n).Reachable := by
  obtain ⟨trace, run⟩ := run.exists_run
  exact run.shared_reachable fresh.system n

theorem Run.shared_run (run : d.Run e) (n : Nat) :
    Flow.Shared.Run (d.system.shared n) (e.system.shared n) := by
  obtain ⟨trace, run⟩ := run.exists_run
  exact run.shared_run n

/-- The report of a number asks which command is registered and finds one, and its call on the flow
of that command begins. -/
structure Asks (d : Desk) (i : Nat) (report : Report) (session : Session) (e : Desk) : Prop where
  before : d.reports[i]? = some (report.moved .begun)
  after : e.reports[i]? = some report
  registered : d.system.dispatcher.session = some session
  routed : report.progress = .routed session (d.system.uses session.id).calls.length
  called : (e.system.uses session.id).calls[(d.system.uses session.id).calls.length]? =
    some (report.call .begun)

theorem calls_share (s : System) (n m : Nat) (job : Job) (after : Flow.Shared) :
    ((s.share n job after).uses m).calls = if m = n then after.calls else (s.uses m).calls := by
  by_cases here : m = n
  · subst here
    simp [System.share]
  · simp [System.share, here]

/-- A report is left alone, is new, has found nobody, or asks. -/
theorem Step.report_cases (step : Step d label e) (found : e.reports[i]? = some report) :
    d.reports[i]? = some report ∨ report.progress = .begun ∨ report.progress = .orphaned ∨
      label = some i ∧ ∃ session, d.Asks i report session e := by
  cases step with
  | enter new begun =>
      rcases Lists.getElem?_concat_cases found with before | ⟨-, rfl⟩
      · exact .inl before
      · exact .inr (.inl begun)
  | orphan =>
      rcases Lists.getElem?_set_cases found with ⟨-, rfl⟩ | ⟨-, before⟩
      · exact .inr (.inr (.inl rfl))
      · exact .inl before
  | @route k own session job atK begun registered there =>
      rcases Lists.getElem?_set_cases found with ⟨rfl, rfl⟩ | ⟨-, before⟩
      · refine .inr (.inr (.inr ⟨rfl, session, ?_, found, registered, rfl, ?_⟩))
        · rw [atK, Report.moved, Report.moved, ← begun]
        · rw [calls_share, if_pos rfl]
          exact List.getElem?_concat_length
      · exact .inl before
  | go | world => exact .inl found

/-- A report that has asked which command is registered does not ask again. -/
theorem Step.report_kept (step : Step d label e) (found : d.reports[i]? = some report)
    (asked : report.progress ≠ .begun) : e.reports[i]? = some report := by
  have inside := (List.getElem?_eq_some_iff.mp found).1
  have other {k : Nat} {own : Report} (atK : d.reports[k]? = some own)
      (begun : own.progress = .begun) : k ≠ i := by
    rintro rfl
    obtain rfl : own = report := Option.some.inj (atK.symm.trans found)
    exact asked begun
  cases step with
  | enter => rw [List.getElem?_append_left inside, found]
  | orphan atK begun => rw [List.getElem?_set_ne (other atK begun), found]
  | route atK begun => rw [List.getElem?_set_ne (other atK begun), found]
  | go | world => exact found

theorem Run.report_kept (run : d.Run e) (found : d.reports[i]? = some report)
    (asked : report.progress ≠ .begun) : e.reports[i]? = some report := by
  induction run with
  | refl => exact found
  | tail _ last inductionHypothesis =>
      obtain ⟨label, last⟩ := last
      exact last.report_kept inductionHypothesis asked

/-- Every report that was routed has a call of its own on the flow of the command it found. -/
structure Sound (d : Desk) : Prop where
  called : ∀ {i : Nat} {report : Report} {session : Session} {k : Nat},
    d.reports[i]? = some report → report.progress = .routed session k →
    ∃ progress, (d.system.uses session.id).calls[k]? = some (report.call progress)
  distinct : ∀ {i j : Nat} {first second : Report} {session other : Session} {k : Nat},
    d.reports[i]? = some first → d.reports[j]? = some second →
    first.progress = .routed session k → second.progress = .routed other k →
    session.id = other.id → i = j

theorem IsFresh.sound (fresh : d.IsFresh) : d.Sound := by
  constructor <;> simp [fresh.reports]

/-- Calls that begin and calls that go on leave every report its call. -/
theorem Step.called (step : Step d label e) (sound : d.Sound) {session : Session} {k : Nat}
    (found : d.reports[i]? = some report) (routed : report.progress = .routed session k) :
    ∃ progress, (e.system.uses session.id).calls[k]? = some (report.call progress) := by
  obtain ⟨progress, atK⟩ := sound.called found routed
  have inside := (List.getElem?_eq_some_iff.mp atK).1
  cases step with
  | enter | orphan => exact ⟨progress, atK⟩
  | world _ rests =>
      refine ⟨progress, ?_⟩
      rw [rests report (List.mem_of_getElem? found) session k routed, atK]
  | @route _ _ other =>
      refine ⟨progress, ?_⟩
      rw [calls_share]
      split
      next here =>
        show ((d.system.uses other.id).calls ++ _)[k]? = _
        rw [here] at inside atK
        rw [List.getElem?_append_left inside]
        exact atK
      next => exact atK
  | @go _ _ other m _ after _ _ _ moved =>
      rw [calls_share]
      split
      next here =>
        rw [← here] at moved
        obtain ⟨call', atCall, same | ⟨contacts, step⟩⟩ := moved.call_cases atK
        · exact ⟨progress, same ▸ atCall⟩
        · obtain ⟨progress', rfl⟩ := step.complete_of
          exact ⟨progress', atCall⟩
      next => exact ⟨progress, atK⟩

theorem Step.routed_cases (step : Step d label e) {session : Session} {k : Nat}
    (found : e.reports[i]? = some report) (routed : report.progress = .routed session k) :
    d.reports[i]? = some report ∨
      label = some i ∧ d.Asks i report session e ∧
        k = (d.system.uses session.id).calls.length := by
  rcases step.report_cases found with same | began | orphaned | ⟨own, _, asks⟩
  · exact .inl same
  · cases began.symm.trans routed
  · cases orphaned.symm.trans routed
  · cases asks.routed.symm.trans routed
    exact .inr ⟨own, asks, rfl⟩

theorem Step.sound (step : Step d label e) (sound : d.Sound) : e.Sound := by
  -- A call that was there before is not the one that begins for a report that asks.
  have older {i : Nat} {report : Report} {session own : Session} {k : Nat}
      (found : d.reports[i]? = some report) (routed : report.progress = .routed session k)
      (same : session.id = own.id) : k ≠ (d.system.uses own.id).calls.length := by
    obtain ⟨progress, atK⟩ := sound.called found routed
    have inside := (List.getElem?_eq_some_iff.mp atK).1
    rw [same] at inside
    omega
  constructor
  · intro i report session k found routed
    rcases step.routed_cases found routed with before | ⟨-, asks, rfl⟩
    · exact step.called sound before routed
    · exact ⟨.begun, asks.called⟩
  · intro i j first second session other k atFirst atSecond routed routed' same
    rcases step.routed_cases atFirst routed with before | ⟨mine, -, asked⟩
    · rcases step.routed_cases atSecond routed' with before' | ⟨-, -, asked⟩
      · exact sound.distinct before before' routed routed' same
      · exact absurd asked (older before routed same)
    · rcases step.routed_cases atSecond routed' with before' | ⟨yours, -, -⟩
      · exact absurd asked (older before' routed' same.symm)
      · exact Option.some.inj (mine.symm.trans yours)

theorem Run.sound (run : d.Run e) (fresh : d.IsFresh) : e.Sound := by
  induction run with
  | refl => exact fresh.sound
  | tail _ last inductionHypothesis =>
      obtain ⟨label, last⟩ := last
      exact last.sound inductionHypothesis

/-- Every report that was routed has once asked. -/
theorem Run.exists_asks (run : d.Run e) (fresh : d.IsFresh) {session : Session} {k : Nat}
    (found : e.reports[i]? = some report) (routed : report.progress = .routed session k) :
    ∃ before after, d.Run before ∧ Step before (some i) after ∧ after.Run e ∧
      before.Asks i report session after ∧ k = (before.system.uses session.id).calls.length := by
  induction run with
  | refl => simp [fresh.reports] at found
  | @tail middle last earlier step inductionHypothesis =>
      obtain ⟨label, step⟩ := step
      rcases step.routed_cases found routed with same | ⟨rfl, asks, atK⟩
      · obtain ⟨before, after, first, asking, rest, asks, atK⟩ := inductionHypothesis same
        exact ⟨before, after, first, asking, rest.tail ⟨label, step⟩, asks, atK⟩
      · exact ⟨middle, last, earlier, step, .refl, asks, atK⟩

/-! ### Answers -/

theorem answer?_eq_true (answered : d.answer? i = some true) :
    ∃ report session k call, d.reports[i]? = some report ∧
      report.progress = .routed session k ∧
      (d.system.uses session.id).calls[k]? = some call ∧ call.verdict? = some true := by
  obtain ⟨report, found, answered⟩ := Option.bind_eq_some_iff.mp answered
  split at answered
  next => cases answered
  next => cases answered
  next session k routed =>
    obtain ⟨call, atK, verdict⟩ := Option.bind_eq_some_iff.mp answered
    exact ⟨report, session, k, call, found, routed, atK, verdict⟩

/-- The flow of a report that was told to have resolved it, and the launch of that flow. -/
theorem Run.resolver_of_answer (run : d.Run e) (fresh : d.IsFresh)
    (answered : e.answer? i = some true) :
    ∃ report session k pending launch, e.reports[i]? = some report ∧
      report.progress = .routed session k ∧
      (e.system.shared session.id).calls[k]? = some (report.call (.resolved pending)) ∧
      report.requestCode = Flow.browserFlow ∧
      (e.system.shared session.id).launches = [launch] ∧ launch.token = report.token := by
  obtain ⟨report, session, k, call, found, routed, atK, verdict⟩ := answer?_eq_true answered
  obtain ⟨progress, own⟩ := (run.sound fresh).called found routed
  obtain rfl : call = report.call progress := Option.some.inj (atK.symm.trans own)
  obtain ⟨requestCode, token, completion, pending, same⟩ :=
    Flow.Call.verdict?_eq_true_iff.mp verdict
  cases same
  have coherent := (run.reachable fresh session.id).coherent
  obtain ⟨known, launch, launched, -, named⟩ :=
    coherent.resolver_known (List.mem_of_getElem? own)
  exact ⟨report, session, k, pending, launch, found, routed, own, known, launched, named⟩

theorem answer?_eq_false (answered : d.answer? i = some false)
    (found : d.reports[i]? = some report) {session : Session} {k : Nat}
    (routed : report.progress = .routed session k) :
    ∃ call, (d.system.shared session.id).calls[k]? = some call ∧ call.TookNothing := by
  rw [answer?, found] at answered
  simp only [Option.bind_some, routed] at answered
  obtain ⟨call, atK, verdict⟩ := Option.bind_eq_some_iff.mp answered
  obtain ⟨_, _, _, rfl⟩ := Flow.Call.verdict?_eq_false_iff.mp verdict
  exact ⟨_, atK, trivial⟩

/-- Nothing around a dispatcher is other than it was, but for the count of completions that found
nobody. -/
def Unmoved (before after : Dispatcher) : Prop :=
  after = before ∨
    before.session = none ∧ after = { before with metrics := before.metrics.recordOrphan }

theorem dispatcher_share {s : System} {n : Nat} {job : Job} {after : Flow.Shared}
    (found : s.dispatcher.jobs[n]? = some job) (same : after.flow = (s.shared n).flow)
    (quiet : after.contacts = (s.shared n).contacts) :
    (s.share n job after).dispatcher = s.dispatcher := by
  have own : { job with flow := after.flow } = job := by
    rw [same, show (s.shared n).flow = job.flow from Dispatcher.flow_eq found]
  have nothing : System.news (s.shared n) after = [] := by simp [System.news, quiet]
  rw [System.share, own, nothing]
  simp [Dispatcher.setJob, Lists.set_eq_self found, Dispatcher.log]

/-- No step of a report that comes to be told that it resolved nothing changes anything. -/
theorem Step.unmoved (step : Step d label e) (own : label = some i) (run : e.Run f)
    (sound : d.Sound) (answered : f.answer? i = some false) :
    Unmoved d.system.dispatcher e.system.dispatcher := by
  cases step with
  | enter => exact .inl rfl
  | orphan _ _ nobody => exact .inr ⟨nobody, rfl⟩
  | route _ _ _ found => exact .inl (dispatcher_share found rfl rfl)
  | world => cases own
  | @go _ report session k job after atI routed found moved =>
      obtain rfl := Option.some.inj own
      obtain ⟨progress, atK⟩ := sound.called atI routed
      have later := run.report_kept atI (by simp [routed])
      obtain ⟨last, atLast, nothing⟩ := answer?_eq_false answered later routed
      have there : (d.system.share session.id job after).shared session.id = after := by
        rw [System.shared_share found, if_pos rfl]
      have further := run.shared_run session.id
      rw [there] at further
      refine .inl (dispatcher_share found ?_ ?_)
      · exact moved.flow_eq_of_tookNothing further atLast nothing
      · cases moved with
        | enter => rfl
        | @go _ _ contacts _ next before step =>
            have inside := (List.getElem?_eq_some_iff.mp before).1
            have now : ((d.system.shared session.id).calls.set k next)[k]? = some next := by
              simp [inside]
            simp [step.contacts_eq_nil (further.tookNothing now atLast nothing)]

/-- The launches of different flows have different tokens. -/
def HasOwnTokens (s : System) : Prop :=
  ∀ {m n : Nat} {first second : Launch}, first ∈ (s.shared m).launches →
    second ∈ (s.shared n).launches → first.token = second.token → m = n

/-- What the answers to reports say. -/
structure Answered (start d : Desk) : Prop where
  /-- Only a report of the code and the token of a launch is told that it resolved a flow: of the
  launch of the command that was registered when it asked, whose flow nobody had resolved then. -/
  own : ∀ {i : Nat}, d.answer? i = some true →
    ∃ report session launch before after, start.Run before ∧ Step before (some i) after ∧
      after.Run d ∧ before.Asks i report session after ∧
      (before.system.shared session.id).IsUnresolved ∧
      (d.system.shared session.id).launches = [launch] ∧ launch.token = report.token ∧
      report.requestCode = Flow.browserFlow
  /-- No two reports of one token are told so. -/
  once : HasOwnTokens d.system → ∀ {i j : Nat} {first second : Report},
    d.reports[i]? = some first → d.reports[j]? = some second → first.token = second.token →
    d.answer? i = some true → d.answer? j = some true → i = j
  /-- A report that is told otherwise has changed nothing by any of its steps. -/
  unmoved : ∀ {i : Nat} {before after : Desk}, start.Run before → Step before (some i) after →
    after.Run d → d.answer? i = some false →
    Unmoved before.system.dispatcher after.system.dispatcher

theorem Run.answered (fresh : d.IsFresh) (run : d.Run e) : Answered d e := by
  constructor
  · intro i answered
    obtain ⟨report, session, k, pending, launch, found, routed, resolved, known, launched, named⟩ :=
      run.resolver_of_answer fresh answered
    obtain ⟨before, after, first, asking, rest, asks, rfl⟩ := run.exists_asks fresh found routed
    refine ⟨report, session, launch, before, after, first, asking, rest, asks, ?_, launched, named,
      known⟩
    have whole := Relation.ReflTransGen.head ⟨some i, asking⟩ rest
    refine (Run.shared_run whole session.id).isUnresolved (run.reachable fresh session.id)
      (fun call inside => ?_) resolved trivial
    exact absurd (List.getElem?_eq_some_iff.mp inside).1 (Nat.lt_irrefl _)
  · intro distinct i j first second atFirst atSecond same answered answered'
    obtain ⟨report, session, k, pending, launch, found, routed, resolved, -, launched, named⟩ :=
      run.resolver_of_answer fresh answered
    obtain ⟨report', other, l, pending', launch', found', routed', resolved', -, launched',
      named'⟩ := run.resolver_of_answer fresh answered'
    obtain rfl : first = report := Option.some.inj (atFirst.symm.trans found)
    obtain rfl : second = report' := Option.some.inj (atSecond.symm.trans found')
    have inFirst : launch ∈ (e.system.shared session.id).launches := by simp [launched]
    have inSecond : launch' ∈ (e.system.shared other.id).launches := by simp [launched']
    have flows : session.id = other.id :=
      distinct inFirst inSecond (by rw [named, named', same])
    rw [← flows] at resolved'
    have calls : k = l := (run.reachable fresh session.id).coherent.taker_unique resolved resolved'
      (Flow.Call.HasResolved.taken_ne_nil trivial) (Flow.Call.HasResolved.taken_ne_nil trivial)
    subst calls
    exact (run.sound fresh).distinct found found' routed routed' flows
  · intro i before after earlier step rest answered
    exact step.unmoved rfl rest (earlier.sound fresh) answered

/-- While nobody reports anything, a desk may do what the system on it does. -/
theorem Run.of_system {s t : System} {trace : List Occurrence} (run : s.Run trace t) :
    Desk.Run { system := s } { system := t } := by
  induction run with
  | refl => exact .refl
  | @step _ middle _ last _ step inductionHypothesis =>
      have rests : Rests { system := middle } last := by
        intro report member
        cases member
      exact inductionHypothesis.tail ⟨none, .world step rests⟩

/-- Work that asks the user and takes any answer. -/
def asking : Program (Except Breakdown Acquisition) :=
  .launch Flow.signIn fun _ => .await none fun _ => .done (.ok { authorization := some .cancel })

/-- The user backs out, and a redirect of the same launch comes too late. -/
theorem sample_answered :
    ∃ d, Desk.Run { system := System.sample } d ∧ HasOwnTokens d.system ∧
      d.reports.map Report.token = [Flow.signInLaunch.token, Flow.signInLaunch.token] ∧
      d.answer? 0 = some true ∧ d.answer? 1 = some false ∧
      Answered { system := System.sample } d := by
  have submitted : System.sample.Run [] _ :=
    System.Run.refl.step (.submit .interactive "id" 0 asking)
  have received := submitted.step (.receive (n := 0) rfl rfl rfl)
  have registered := received.step (.register (n := 0) rfl rfl)
  have started := registered.step (.spawn (n := 0) rfl rfl)
  have asked := started.step (.beginLaunch (n := 0) rfl rfl rfl)
  have checked := asked.step (.call (n := 0) rfl (.go (n := 0) rfl (.check rfl)))
  have selected := checked.step
    (.call (n := 0) rfl (.go (n := 0) rfl (.select { name := "browser" })))
  have launched := selected.step
    (.call (n := 0) rfl (.go (n := 0) rfl (.dispatch Flow.signInLaunch.token rfl)))
  have waiting := Run.of_system launched
  have reported := waiting.tail
    ⟨some 0, .enter (Report.cancelled Flow.signInLaunch.token) rfl⟩
  have late := reported.tail
    ⟨some 1, .enter (Report.redirected Flow.signInLaunch.token "app://done?code=late") rfl⟩
  have first := late.tail ⟨some 0, .route (i := 0) rfl rfl rfl rfl⟩
  have second := first.tail ⟨some 1, .route (i := 1) rfl rfl rfl rfl⟩
  have took := second.tail ⟨some 0, .go (i := 0) rfl rfl rfl (.go (n := 1) rfl (.take rfl))⟩
  have ignored := took.tail ⟨some 1, .go (i := 1) rfl rfl rfl (.go (n := 2) rfl (.ignore rfl))⟩
  have released := ignored.tail
    ⟨some 0, .go (i := 0) rfl rfl rfl (.go (n := 1) rfl .releaseTaken)⟩
  have resolved := released.tail ⟨some 0, .go (i := 0) rfl rfl rfl (.go (n := 1) rfl .resolve)⟩
  refine ⟨_, resolved, ?_, rfl, rfl, rfl, Run.answered ⟨System.sample_isFresh, rfl⟩ resolved⟩
  -- Nobody calls on any flow but the first.
  intro m n one other inFirst inSecond _
  cases m with
  | succ m => cases inFirst
  | zero =>
      cases n with
      | succ n => cases inSecond
      | zero => rfl

end Desk

end Dispatch

end TokenAcquisition
