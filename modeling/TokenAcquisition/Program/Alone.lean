import TokenAcquisition.Acquisition
import TokenAcquisition.Credential.File
import TokenAcquisition.Flow
import TokenAcquisition.Program
import TokenAcquisition.Token.Response

/-!
A program that runs alone: nothing else touches the cache, the network or its flow, and time
passes only while it waits.
-/

namespace TokenAcquisition

/-- All that a program meets when it runs alone. -/
structure Surroundings where
  now : UInt64
  cache : Cache
  transport : List TransportAnswer := []
  flow : Flow := {}
  agents : List Agent := []
  whileLaunching : Launch → Flow → (Flow × List Flow.Event) × LaunchAnswer :=
    Flow.answering .launched
  supply : Supply
  launches : Nat := 0
  bound : Option String := none
  /-- What the program did, the last first. -/
  deeds : List Deed := []

inductive Program.Ending (α : Type) where
  | value (value : α)
  | panicked (message : String)
  /-- It waits for a redirect that nobody reports. -/
  | stuck

/-- What a supervisor makes of the ending of some work, unless it is stuck. -/
def Program.Ending.result? {α : Type} :
    Program.Ending (Except Breakdown α) → Option (Except Failure α)
  | .value result => some (result.mapError Breakdown.failure)
  | .panicked message => some (.error (Breakdown.panic message).failure)
  | .stuck => none

namespace Surroundings

def log (s : Surroundings) (deeds : List Deed) : Surroundings :=
  { s with deeds := deeds.reverse ++ s.deeds }

def launch (s : Surroundings) (request : AuthorizationRequest) : Flow.Started × Surroundings :=
  let number := s.launches + 1
  let (started, flow, events) :=
    s.flow.request s.agents request (s.supply.token number) s.bound Flow.undisturbed
      s.whileLaunching
  let launched := events.any Flow.Event.isLaunch
  (started,
    ({ s with flow, launches := if launched then number else s.launches } : Surroundings).log
      (events.map .agent))

def dispose (s : Surroundings) : Surroundings :=
  let (flow, handle) := s.flow.dispose
  ({ s with flow } : Surroundings).log ((Flow.released handle).map .agent)

def post (s : Surroundings) (request : TokenRequest) : TransportAnswer × Surroundings :=
  let (answer, rest) := TransportAnswer.next s.transport
  (answer, ({ s with transport := rest } : Surroundings).log [.post request])

end Surroundings

def Program.runAlone {α : Type} : Program α → Surroundings → Program.Ending α × Surroundings
  | .done value, s => (.value value, s)
  | .now next, s => (next s.now).runAlone s
  | .seeds next, s => (next (s.supply.seeds (s.launches + 1))).runAlone s
  | .sleep _ next, s => next.runAlone s
  | .lookup clientId account next, s =>
      (next (s.cache.store.lookup clientId account)).runAlone s
  | .save clientId credential metadata next, s =>
      let (answer, cache) := s.cache.save clientId credential metadata
      (next answer).runAlone { s with cache }
  | .invalidate clientId account next, s =>
      let (answer, cache) := s.cache.invalidate clientId account
      (next answer).runAlone { s with cache }
  | .post request next, s =>
      match s.post request with
      | (.respond response _, s) => (next (.ok response)).runAlone s
      | (.fail failure _, s) => (next (.error failure)).runAlone s
      | (.panic message _, s) => (.panicked message, s)
  | .launch request next, s =>
      match s.launch request with
      | (.awaiting, s) => (next (.ok ())).runAlone s
      | (.refused failure, s) => (next (.error failure)).runAlone s
      | (.panicked message, s) => (.panicked message, s)
  | .await seconds next, s =>
      match s.flow.answer, seconds with
      | some answer, _ => (next (some answer)).runAlone s
      | none, some _ => (next none).runAlone s
      | none, none => (.stuck, s)
  | .dispose next, s => next.runAlone s.dispose

end TokenAcquisition
