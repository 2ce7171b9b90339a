import TokenAcquisition.Dispatch.Dispatcher

/-!
A scheduler on one thread.  Whatever can go on waits in a queue and goes on as far as it can when
its turn comes; the cache goes to whoever asked first, and a write of the cache file ends when
nothing else can go on.  The clock stands still meanwhile.
-/

namespace TokenAcquisition.Dispatch

inductive Task where
  | lane
  /-- The watcher of a silent command. -/
  | runner (n : Nat)
  | work (n : Nat)
  | reply (n : Nat)
  deriving DecidableEq, Repr

/-- A dispatcher with the tasks that can go on.  A new lane has still to look for commands. -/
structure Scheduler where
  dispatcher : Dispatcher
  ready : List Task := [.lane]
  /-- Commands that wait for a time, in the order in which they began to. -/
  timed : List Nat := []
  /-- Commands that wait for the cache, the first to ask first. -/
  cacheQueue : List Nat := []
  autoReply : Bool := true

namespace Scheduler

/-- Puts a task behind those that can go on, unless it is among them. -/
def wake (s : Scheduler) (task : Task) : Scheduler :=
  if s.ready.contains task then s else { s with ready := s.ready ++ [task] }

def job? (s : Scheduler) (n : Nat) : Option Job :=
  s.dispatcher.jobs[n]?

/-- Wakes whoever watches the work of a command. -/
def wakeWatcher (s : Scheduler) (n : Nat) : Scheduler :=
  match s.job? n with
  | some job => s.wake (if job.lane = .interactive then .lane else .runner n)
  | none => s

def wakeReply (s : Scheduler) (n : Nat) : Scheduler :=
  match s.job? n with
  | some job => if s.autoReply then s.wake (.reply job.reply) else s
  | none => s

/-- Hands the cache to the command that has waited for it longest. -/
def handOver (s : Scheduler) : Scheduler :=
  match s.dispatcher.lock, s.cacheQueue with
  | none, n :: rest =>
      match s.dispatcher.acquire? n with
      | some dispatcher => { s with dispatcher, cacheQueue := rest }.wake (.work n)
      | none => { s with cacheQueue := rest }
  | _, _ => s

def noteWait (s : Scheduler) (n : Nat) : Scheduler :=
  if ((s.job? n).bind Job.deadline).isNone then { s with timed := s.timed.erase n }
  else if s.timed.contains n then s
  else { s with timed := s.timed ++ [n] }

def runWork : Nat → Nat → Scheduler → Scheduler
  | 0, _, s => s
  | fuel + 1, n, s =>
      match s.dispatcher.advance? n with
      | some dispatcher =>
          let s := (({ s with dispatcher } : Scheduler).noteWait n).handOver
          match (s.job? n).map Job.progress with
          | some (.closing .ended _) => s.wakeWatcher n
          | _ => runWork fuel n s
      | none =>
          match s.dispatcher.acquire? n with
          | some dispatcher => runWork fuel n { s with dispatcher }
          | none =>
              match (s.job? n).map Job.progress with
              | some (.running program) =>
                  if Dispatcher.needsCache program && s.dispatcher.lock != some n
                      && !s.cacheQueue.contains n then
                    { s with cacheQueue := s.cacheQueue ++ [n] }
                  else s
              | _ => s

/-- Far more steps than the work of a command has between two waits. -/
def workSteps : Nat := 1000

def finish (s : Scheduler) (n : Nat) : Scheduler :=
  match s.dispatcher.finish? n with
  | some dispatcher => ({ s with dispatcher } : Scheduler).wakeReply n
  | none => s

def runReply (s : Scheduler) (reply : Nat) : Scheduler :=
  let count := ((s.dispatcher.replies[reply]?).map fun loop => loop.waiting.length).getD 0
  (List.range count).foldl
    (fun s _ =>
      match s.dispatcher.deliver? reply with
      | some dispatcher => { s with dispatcher }
      | none => s)
    s

def poll (s : Scheduler) : Task → Scheduler
  | .lane =>
      let s :=
        match s.dispatcher.current with
        | some n => s.finish n
        | none => s
      match s.dispatcher.startInteractive? with
      | some dispatcher =>
          let s : Scheduler := { s with dispatcher }
          match dispatcher.current with
          | some n => s.wake (.work n)
          | none => s
      | none => s
  | .runner n =>
      match s.dispatcher.startSilent? n with
      | some dispatcher => ({ s with dispatcher } : Scheduler).wake (.work n)
      | none => s.finish n
  | .work n => runWork workSteps n s
  | .reply n => s.runReply n

def runTasks (s : Scheduler) : Nat → Scheduler
  | 0 => s
  | fuel + 1 =>
      match s.ready with
      | task :: rest => runTasks (({ s with ready := rest } : Scheduler).poll task) fuel
      | [] => s

def endWrite? (s : Scheduler) : Option Scheduler :=
  match s.dispatcher.endWrite?, s.dispatcher.lock with
  | some dispatcher, some n => some (({ s with dispatcher } : Scheduler).wake (.work n))
  | _, _ => none

/-- Everything that can go on goes on, for at most some turns. -/
def runReady : Nat → Scheduler → Scheduler
  | 0, s => s
  | fuel + 1, s =>
      match s.ready with
      | task :: rest => runReady fuel (({ s with ready := rest } : Scheduler).poll task)
      | [] =>
          match s.endWrite? with
          | some s => runReady fuel s
          | none => s

/-- Each command is polled a few times for each thing it asks for. -/
def turns (s : Scheduler) : Nat :=
  1000 + 100 * s.dispatcher.jobs.length

def run (s : Scheduler) : Scheduler :=
  runReady s.turns s

/-- The numbers of the commands whose wait ends by a time, the earliest end first and, at the same
time, the earliest start first. -/
def dueBy (s : Scheduler) (time : Nat) : List Nat :=
  let ends := s.timed.filterMap fun n =>
    (((s.job? n).bind Job.deadline).filter (· ≤ time)).map fun deadline => (deadline, n)
  (ends.mergeSort fun a b => a.1 ≤ b.1).map Prod.snd

/-- The clock moves to a time, and whatever waited for it can go on. -/
def moveTo (s : Scheduler) (time : Nat) : Scheduler :=
  (s.dueBy time).foldl (fun s n => s.wake (.work n))
    { s with dispatcher := { s.dispatcher with clock := time } }

def nextDeadline? (s : Scheduler) : Option Nat :=
  (s.timed.filterMap fun n =>
    ((s.job? n).bind Job.deadline).filter fun deadline => s.dispatcher.clock < deadline).min?

/-- Everything that can go on goes on, then a millisecond passes. -/
def settle (s : Scheduler) : Scheduler :=
  let s := s.run
  s.moveTo (s.dispatcher.clock + 1)

/-- Time passes up to an instant, from the end of one wait to the end of the next. -/
def sleepUntil : Nat → Nat → Scheduler → Scheduler
  | 0, time, s => s.run.moveTo time
  | fuel + 1, time, s =>
      let s := s.run
      match s.nextDeadline? with
      | some deadline =>
          if deadline < time then sleepUntil fuel time (s.moveTo deadline) else s.moveTo time
      | none => s.moveTo time

/-- Some milliseconds pass.  When there are none, nothing else goes on meanwhile. -/
def elapse (s : Scheduler) (milliseconds : Nat) : Scheduler :=
  if milliseconds = 0 then s else sleepUntil s.turns (s.dispatcher.clock + milliseconds) s

/-- Takes a command.  The lane hears of it when it has nothing to do. -/
def submit (s : Scheduler) (lane : Lane) (correlationId : String) (reply : Nat)
    (program : Program (Except Breakdown Acquisition)) : Scheduler :=
  let n := s.dispatcher.jobs.length
  let s : Scheduler :=
    { s with dispatcher := s.dispatcher.submit lane correlationId reply program }
  match lane with
  | .interactive =>
      if !s.dispatcher.laneIsOpen then s.wakeReply n
      else if s.dispatcher.current.isNone then s.wake .lane
      else s
  | .silent => s.wake (.runner n)

def complete (s : Scheduler) (requestCode : Int) (token : Uuid) (completion : Completion) :
    Bool × Scheduler :=
  let (resolved, dispatcher) := s.dispatcher.complete requestCode token completion
  let woken :=
    match resolved, s.dispatcher.session with
    | true, some session => ({ s with dispatcher } : Scheduler).wake (.work session.id)
    | _, _ => { s with dispatcher }
  (resolved, woken)

def deliver (s : Scheduler) (reply : Nat) : Bool × Scheduler :=
  match s.dispatcher.deliver? reply with
  | some dispatcher => (true, { s with dispatcher })
  | none => (false, s)

/-- The owner of a reply loop waits a millisecond for a delivery, for at most some rounds of what
can go on and of the end of a write. -/
def awaitRounds : Nat → Nat → Scheduler → Bool × Scheduler
  | 0, _, s => (false, s)
  | fuel + 1, reply, s =>
      match s.deliver reply with
      | (true, s) => (true, s)
      | (false, s) =>
          let s := s.runTasks s.turns
          match s.deliver reply, s.endWrite? with
          | (true, s), _ => (true, s)
          | (false, _), some s => awaitRounds fuel reply s
          | (false, s), none => (false, s.moveTo (s.dispatcher.clock + 1))

/-- The owner of a reply loop waits a millisecond for a delivery; tells whether there was one. -/
def awaitDelivery (s : Scheduler) (reply : Nat) : Bool × Scheduler :=
  awaitRounds s.turns reply s

end Scheduler

end TokenAcquisition.Dispatch
