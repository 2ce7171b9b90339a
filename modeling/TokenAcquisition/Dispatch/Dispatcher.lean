import TokenAcquisition.Command
import TokenAcquisition.Credential.File
import TokenAcquisition.Dispatch.Metrics
import TokenAcquisition.Dispatch.Reply
import TokenAcquisition.Flow
import TokenAcquisition.Program
import TokenAcquisition.Token.Response

/-!
The dispatcher.  Interactive commands run one at a time in the order of their submission, silent
commands all at once.  The outcome of a command is posted to the reply loop that its caller named
and delivered there.

A dispatcher changes by small steps: a command starts, its work goes on to the next thing that it
asks for, a write of the cache file comes to its end, a command is finished, an outcome is
delivered, a completion arrives, time passes.  Each step is a function; which one is next is
decided elsewhere.
-/

namespace TokenAcquisition.Dispatch

inductive Lane where
  | interactive
  | silent
  deriving DecidableEq, Repr

def Lane.label : Lane → String
  | .interactive => "interactive"
  | .silent => "silent"

/-- What has been done for a command whose work has not begun. -/
inductive Opening where
  | queued
  /-- The lane has turned to it. -/
  | received
  | registered
  deriving DecidableEq, Repr

/-- What has been done for a command since its work ended. -/
inductive Closing where
  /-- Nobody has looked at the result yet. -/
  | ended
  | unregistered
  | disposed
  | recorded
  | posted
  deriving DecidableEq, Repr

/-- The last that is done for a command before its outcome is recorded.  Only commands of the
interactive lane have a session and a flow. -/
def Lane.settled : Lane → Closing
  | .interactive => .disposed
  | .silent => .ended

inductive Progress where
  /-- There is no lane for it, which its caller has or has not yet been told. -/
  | refused (isTold : Bool)
  | opening (stage : Opening) (program : Program (Except Breakdown Acquisition))
  | running (program : Program (Except Breakdown Acquisition))
  | closing (stage : Closing) (result : Except Breakdown Acquisition)

structure Job where
  correlationId : String
  lane : Lane
  /-- The reply loop of the caller. -/
  reply : Nat
  progress : Progress
  flow : Flow := {}
  /-- When what the work waits for is over. -/
  deadline : Option Nat := none

namespace Job

def isUntold (job : Job) : Bool :=
  match job.progress with
  | .refused isTold => !isTold
  | _ => false

/-- The program of a job for which just so much has been done. -/
def opening? (job : Job) (stage : Opening) :
    Option (Program (Except Breakdown Acquisition)) :=
  match job.progress with
  | .opening reached program => if reached = stage then some program else none
  | _ => none

/-- The result of a job for which just so much has been done since. -/
def closing? (job : Job) (stage : Closing) : Option (Except Breakdown Acquisition) :=
  match job.progress with
  | .closing reached result => if reached = stage then some result else none
  | _ => none

theorem isUntold_iff {job : Job} : job.isUntold = true ↔ job.progress = .refused false := by
  unfold isUntold
  split <;> simp_all

theorem opening?_eq_some_iff {job : Job} {stage : Opening}
    {program : Program (Except Breakdown Acquisition)} :
    job.opening? stage = some program ↔ job.progress = .opening stage program := by
  unfold opening?
  split <;> simp_all

theorem closing?_eq_some_iff {job : Job} {stage : Closing}
    {result : Except Breakdown Acquisition} :
    job.closing? stage = some result ↔ job.progress = .closing stage result := by
  unfold closing?
  split <;> simp_all

def moved (job : Job) (progress : Progress) : Job :=
  { job with progress }

def outcome (job : Job) (result : Except Breakdown Acquisition) : Outcome :=
  .ofWork (some job.correlationId) result

end Job

/-- The interactive command that completions are routed to. -/
structure Session where
  /-- The number of the command. -/
  id : Nat
  correlationId : String
  deriving DecidableEq, Repr

def Session.series (first : Nat) (correlationIds : List String) : List Session :=
  correlationIds.zipIdx.map fun entry =>
    { id := first + entry.2, correlationId := entry.1 }

/-- An outcome on its way to the caller. -/
structure Delivery where
  job : Nat
  outcome : Outcome

/-- A write of the cache file by the holder of the lock. -/
inductive Write where
  | none
  | underWay
  | ended (result : Except Failure Unit)

/-- What others can see. -/
inductive Event where
  | deed (deed : Deed)
  | delivered (delivery : Delivery)

structure Dispatcher where
  /-- Milliseconds since the start. -/
  clock : Nat := 0
  /-- The Unix time in milliseconds. -/
  now : UInt64
  cache : Cache
  /-- The command that has the cache to itself. -/
  lock : Option Nat := none
  write : Write := .none
  transport : List TransportAnswer := []
  agents : List Agent := []
  launchAnswer : LaunchAnswer := .launched
  supply : Supply
  launches : Nat := 0
  jobs : List Job := []
  laneIsOpen : Bool := true
  current : Option Nat := none
  session : Option Session := none
  replies : List (ReplyLoop Delivery) := [{}]
  metrics : Metrics := {}
  /-- What has been seen, the last first. -/
  events : List Event := []

namespace Dispatcher

variable {d d' : Dispatcher} {n : Nat}

def setJob (d : Dispatcher) (n : Nat) (job : Job) : Dispatcher :=
  { d with jobs := d.jobs.set n job }

def log (d : Dispatcher) (events : List Event) : Dispatcher :=
  { d with events := events.reverse ++ d.events }

def turn (d : Dispatcher) (n : Nat) : Dispatcher :=
  { d with current := some n }

def leave (d : Dispatcher) (n : Nat) : Dispatcher :=
  { d with current := d.current.filter fun running => running ≠ n }

/-- Completions are routed to a command. -/
def route (d : Dispatcher) (n : Nat) (job : Job) : Dispatcher :=
  { d with session := some { id := n, correlationId := job.correlationId } }

def unroute (d : Dispatcher) (n : Nat) : Dispatcher :=
  { d with session := d.session.filter fun session => session.id ≠ n }

def count (d : Dispatcher) (lane : Lane) (outcome : Outcome) : Dispatcher :=
  { d with metrics := d.metrics.record lane.label outcome.label }

def post (d : Dispatcher) (n : Nat) (job : Job) (outcome : Outcome) : Dispatcher :=
  { d with replies := d.replies.modify job.reply fun loop => loop.post { job := n, outcome } }

/-! ### Submission -/

/-- The outcome of an interactive command that nobody takes. -/
def refusal (correlationId : String) : Outcome :=
  .error ((Failure.unknown "interactive lane is not running" []).stamped (some correlationId))

/-- Hands a command to its lane.  An interactive one is refused when the lane is gone. -/
def enqueue (d : Dispatcher) (lane : Lane) (correlationId : String) (reply : Nat)
    (program : Program (Except Breakdown Acquisition)) : Dispatcher :=
  let progress : Progress :=
    if lane = .interactive ∧ !d.laneIsOpen then .refused false else .opening .queued program
  { d with jobs := d.jobs ++ [{ correlationId, lane, reply, progress }] }

/-- Posts the outcome of a refused command. -/
def tell? (d : Dispatcher) (n : Nat) : Option Dispatcher := do
  let job ← d.jobs[n]?
  if job.isUntold then
    some ((d.setJob n (job.moved (.refused true))).post n job (refusal job.correlationId))
  else none

theorem tell?_eq_some_iff :
    d.tell? n = some d' ↔
      ∃ job, d.jobs[n]? = some job ∧ job.progress = .refused false ∧
        (d.setJob n (job.moved (.refused true))).post n job (refusal job.correlationId) = d' := by
  simp only [tell?, Option.bind_eq_bind, Option.bind_eq_some_iff, Option.ite_none_right_eq_some,
    Option.some.injEq, Job.isUntold_iff]

def submit (d : Dispatcher) (lane : Lane) (correlationId : String) (reply : Nat)
    (program : Program (Except Breakdown Acquisition)) : Dispatcher :=
  let taken := d.enqueue lane correlationId reply program
  (taken.tell? d.jobs.length).getD taken

/-! ### Start of commands -/

def nextInteractive? (d : Dispatcher) : Option Nat :=
  d.jobs.findIdx? fun job => job.lane = .interactive && (job.opening? .queued).isSome

/-- The lane turns to the next interactive command when it has nothing to do. -/
def receive? (d : Dispatcher) : Option Dispatcher :=
  if d.current.isSome then none
  else do
    let n ← d.nextInteractive?
    let job ← d.jobs[n]?
    let program ← job.opening? .queued
    some ((d.setJob n (job.moved (.opening .received program))).turn n)

theorem receive?_eq_some_iff :
    d.receive? = some d' ↔
      d.current = none ∧ ∃ n job program, d.nextInteractive? = some n ∧ d.jobs[n]? = some job ∧
        job.progress = .opening .queued program ∧
        (d.setJob n (job.moved (.opening .received program))).turn n = d' := by
  simp only [receive?, Option.ite_none_left_eq_some, Option.isSome_iff_ne_none, ne_eq,
    Decidable.not_not, Option.bind_eq_bind, Option.bind_eq_some_iff, Job.opening?_eq_some_iff,
    Option.some.injEq, exists_and_left]

def register? (d : Dispatcher) (n : Nat) : Option Dispatcher := do
  let job ← d.jobs[n]?
  let program ← job.opening? .received
  some ((d.setJob n (job.moved (.opening .registered program))).route n job)

theorem register?_eq_some_iff :
    d.register? n = some d' ↔
      ∃ job program, d.jobs[n]? = some job ∧ job.progress = .opening .received program ∧
        (d.setJob n (job.moved (.opening .registered program))).route n job = d' := by
  simp only [register?, Option.bind_eq_bind, Option.bind_eq_some_iff, Job.opening?_eq_some_iff,
    Option.some.injEq, exists_and_left]

def spawn? (d : Dispatcher) (n : Nat) : Option Dispatcher := do
  let job ← d.jobs[n]?
  let program ← job.opening? .registered
  some (d.setJob n (job.moved (.running program)))

theorem spawn?_eq_some_iff :
    d.spawn? n = some d' ↔
      ∃ job program, d.jobs[n]? = some job ∧ job.progress = .opening .registered program ∧
        d.setJob n (job.moved (.running program)) = d' := by
  simp only [spawn?, Option.bind_eq_bind, Option.bind_eq_some_iff, Job.opening?_eq_some_iff,
    Option.some.injEq, exists_and_left]

/-- Starts the next interactive command when none is running. -/
def startInteractive? (d : Dispatcher) : Option Dispatcher := do
  let d ← d.receive?
  let n ← d.current
  let d ← d.register? n
  d.spawn? n

def startSilent? (d : Dispatcher) (n : Nat) : Option Dispatcher := do
  let job ← d.jobs[n]?
  if job.lane = .silent then
    let program ← job.opening? .queued
    some (d.setJob n (job.moved (.running program)))
  else none

theorem startSilent?_eq_some_iff :
    d.startSilent? n = some d' ↔
      ∃ job program, d.jobs[n]? = some job ∧ job.lane = .silent ∧
        job.progress = .opening .queued program ∧
        d.setJob n (job.moved (.running program)) = d' := by
  simp only [startSilent?, Option.bind_eq_bind, Option.bind_eq_some_iff,
    Option.ite_none_right_eq_some, Job.opening?_eq_some_iff, Option.some.injEq, exists_and_left]

/-! ### End of commands -/

/-- Gives up the session of a command whose work has ended. -/
def unregister? (d : Dispatcher) (n : Nat) : Option Dispatcher := do
  let job ← d.jobs[n]?
  let result ← job.closing? .ended
  if job.lane = .interactive then
    some ((d.setJob n (job.moved (.closing .unregistered result))).unroute n)
  else none

theorem unregister?_eq_some_iff :
    d.unregister? n = some d' ↔
      ∃ job result, d.jobs[n]? = some job ∧ job.progress = .closing .ended result ∧
        job.lane = .interactive ∧
        (d.setJob n (job.moved (.closing .unregistered result))).unroute n = d' := by
  simp only [unregister?, Option.bind_eq_bind, Option.bind_eq_some_iff,
    Option.ite_none_right_eq_some, Job.closing?_eq_some_iff, Option.some.injEq, exists_and_left]

def disposeFlow? (d : Dispatcher) (n : Nat) : Option Dispatcher := do
  let job ← d.jobs[n]?
  let result ← job.closing? .unregistered
  let (flow, handle) := job.flow.dispose
  some ((d.setJob n ({ job with flow }.moved (.closing .disposed result))).log
    ((Flow.released handle).map fun e => .deed (.agent e)))

def record? (d : Dispatcher) (n : Nat) : Option Dispatcher := do
  let job ← d.jobs[n]?
  let result ← job.closing? job.lane.settled
  some ((d.setJob n (job.moved (.closing .recorded result))).count job.lane (job.outcome result))

theorem record?_eq_some_iff :
    d.record? n = some d' ↔
      ∃ job result, d.jobs[n]? = some job ∧ job.progress = .closing job.lane.settled result ∧
        (d.setJob n (job.moved (.closing .recorded result))).count job.lane
          (job.outcome result) = d' := by
  simp only [record?, Option.bind_eq_bind, Option.bind_eq_some_iff, Job.closing?_eq_some_iff,
    Option.some.injEq, exists_and_left]

/-- Posts the outcome of a command, and the lane is free for the next one. -/
def post? (d : Dispatcher) (n : Nat) : Option Dispatcher := do
  let job ← d.jobs[n]?
  let result ← job.closing? .recorded
  some (((d.setJob n (job.moved (.closing .posted result))).leave n).post n job
    (job.outcome result))

theorem post?_eq_some_iff :
    d.post? n = some d' ↔
      ∃ job result, d.jobs[n]? = some job ∧ job.progress = .closing .recorded result ∧
        ((d.setJob n (job.moved (.closing .posted result))).leave n).post n job
          (job.outcome result) = d' := by
  simp only [post?, Option.bind_eq_bind, Option.bind_eq_some_iff, Job.closing?_eq_some_iff,
    Option.some.injEq, exists_and_left]

/-- Does all that is done for a command whose work has ended. -/
def finish? (d : Dispatcher) (n : Nat) : Option Dispatcher := do
  let job ← d.jobs[n]?
  let d ←
    match job.lane with
    | .interactive => (d.unregister? n).bind fun d => d.disposeFlow? n
    | .silent => some d
  let d ← d.record? n
  d.post? n

/-! ### Work -/

def resume (d : Dispatcher) (n : Nat) (job : Job)
    (program : Program (Except Breakdown Acquisition)) : Dispatcher :=
  d.setJob n { job with progress := .running program, deadline := none }

/-- The work goes on with what follows the start of its flow, unless that panicked. -/
def afterLaunch (d : Dispatcher) (n : Nat) (job : Job)
    (next : Except Failure Unit → Program (Except Breakdown Acquisition)) :
    Flow.Started → Dispatcher
  | .awaiting => d.resume n job (next (.ok ()))
  | .refused failure => d.resume n job (next (.error failure))
  | .panicked message =>
      d.setJob n (job.moved (.closing .ended (.error (.panic message))))

def launch (d : Dispatcher) (n : Nat) (job : Job) (request : AuthorizationRequest)
    (next : Except Failure Unit → Program (Except Breakdown Acquisition)) : Dispatcher :=
  let number := d.launches + 1
  let (started, flow, events) :=
    job.flow.request d.agents request (d.supply.token number) (some job.correlationId)
      Flow.undisturbed (Flow.answering d.launchAnswer)
  let launched := events.any Flow.Event.isLaunch
  let job := { job with flow }
  let d := { d with launches := if launched then number else d.launches }
  (d.log (events.map fun e => .deed (.agent e))).afterLaunch n job next started

def needsCache : Program (Except Breakdown Acquisition) → Bool
  | .lookup _ _ _ => true
  | .save _ _ _ _ => true
  | .invalidate _ _ _ => true
  | _ => false

/-- Gives the cache to a command that asks for it, when nobody has it. -/
def acquire? (d : Dispatcher) (n : Nat) : Option Dispatcher :=
  match d.lock, d.jobs[n]? with
  | none, some job =>
      match job.progress with
      | .running program => if needsCache program then some { d with lock := some n } else none
      | _ => none
  | _, _ => none

theorem eq_of_acquire? (acquired : d.acquire? n = some d') : { d with lock := some n } = d' := by
  unfold acquire? at acquired
  split at acquired
  next =>
    split at acquired
    next =>
      split at acquired
      next => exact Option.some.inj acquired
      next => cases acquired
    next => cases acquired
  next => cases acquired

/-- A change of the store by the holder of the lock: memory first, then the file, then the answer
and the end of the hold. -/
def change? (d : Dispatcher) (n : Nat) (job : Job) (store : Option Store)
    (next : Except Failure Unit → Program (Except Breakdown Acquisition)) : Option Dispatcher :=
  if d.lock ≠ some n then none
  else
    match d.write with
    | .underWay => none
    | .ended result =>
        some ({ d with write := .none, lock := none }.resume n job (next result))
    | .none =>
        match store with
        | some store => some { d with cache := { d.cache with store }, write := .underWay }
        | none => some ({ d with lock := none }.resume n job (next (.ok ())))

def endWrite? (d : Dispatcher) : Option Dispatcher :=
  match d.write with
  | .underWay =>
      let (result, cache) := d.cache.replace d.cache.store
      some { d with cache, write := .ended result }
  | _ => none

theorem exists_eq_of_endWrite? (ended : d.endWrite? = some d') :
    ∃ cache write, { d with cache, write } = d' := by
  unfold endWrite? at ended
  split at ended
  next => exact ⟨_, _, Option.some.inj ended⟩
  next => cases ended

/-- The work of a command goes on by one step, unless it waits for something. -/
def advance? (d : Dispatcher) (n : Nat) : Option Dispatcher :=
  match d.jobs[n]? with
  | none => none
  | some job =>
      match job.progress with
      | .running program =>
          match program with
          | .done result => some (d.setJob n (job.moved (.closing .ended result)))
          | .now next => some (d.resume n job (next d.now))
          | .seeds next => some (d.resume n job (next (d.supply.seeds (d.launches + 1))))
          | .sleep milliseconds next =>
              match job.deadline with
              | none => some (d.setJob n { job with deadline := some (d.clock + milliseconds) })
              | some deadline =>
                  if deadline ≤ d.clock then some (d.resume n job next) else none
          | .lookup clientId account next =>
              if d.lock = some n then
                let answer := d.cache.store.lookup clientId account
                some ({ d with lock := none }.resume n job (next answer))
              else none
          | .save clientId credential metadata next =>
              d.change? n job (some (d.cache.store.save clientId credential metadata)) next
          | .invalidate clientId account next =>
              d.change? n job (d.cache.store.invalidate? clientId account) next
          | .post request next =>
              let (answer, rest) := TransportAnswer.next d.transport
              let program : Program (Except Breakdown Acquisition) :=
                match answer with
                | .respond response delay => .sleep delay (next (.ok response))
                | .fail failure delay => .sleep delay (next (.error failure))
                | .panic message delay => .sleep delay (.done (.error (.panic message)))
              some (({ d with transport := rest }.log [.deed (.post request)]).resume n job program)
          | .launch request next => some (d.launch n job request next)
          | .await seconds next =>
              match job.flow.answer with
              | some answer => some (d.resume n job (next (some answer)))
              | none =>
                  match seconds with
                  | none => none
                  | some seconds =>
                      match job.deadline with
                      | none =>
                          some (d.setJob n
                            { job with deadline := some (d.clock + 1000 * seconds) })
                      | some deadline =>
                          if deadline ≤ d.clock then some (d.resume n job (next none)) else none
          | .dispose next =>
              let (flow, handle) := job.flow.dispose
              let d := d.log ((Flow.released handle).map fun e => .deed (.agent e))
              some (d.resume n { job with flow } next)
      | _ => none

/-! ### Completions and deliveries -/

/-- Routes a completion to the registered command, and tells whether it resolved its flow. -/
def complete (d : Dispatcher) (requestCode : Int) (token : Uuid) (completion : Completion) :
    Bool × Dispatcher :=
  match d.session with
  | none => (false, { d with metrics := d.metrics.recordOrphan })
  | some session =>
      match d.jobs[session.id]? with
      | none => (false, d)
      | some job =>
          match job.flow.complete? requestCode token completion with
          | none => (false, d)
          | some (flow, handle) =>
              let d := d.log ((Flow.released handle).map fun e => .deed (.agent e))
              (true, d.setJob session.id { job with flow })

def deliver? (d : Dispatcher) (reply : Nat) : Option Dispatcher :=
  match d.replies[reply]? with
  | some loop =>
      match loop.runOnce with
      | (.ran delivery, loop) =>
          some ({ d with replies := d.replies.set reply loop }.log [.delivered delivery])
      | _ => none
  | none => none

end Dispatcher

end TokenAcquisition.Dispatch
