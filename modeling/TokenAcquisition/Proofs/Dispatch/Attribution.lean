import TokenAcquisition.Proofs.Dispatch.Commands
import TokenAcquisition.Proofs.Dispatch.Delivery
import TokenAcquisition.Proofs.Dispatch.Invalidation
import TokenAcquisition.Proofs.Dispatch.Threads

/-!
Whose correlation id is to be seen.  Whatever else goes on around a dispatcher and in whatever
scopes, all that is launched, asked for and told on behalf of a command has the id on it that was
generated when the command was submitted.
-/

namespace TokenAcquisition

theorem Outcome.reaction_injective : Function.Injective Outcome.reaction := by
  intro outcome other same
  cases outcome <;> cases other <;> cases same <;> rfl

theorem TokenRequest.headers_of_correlation {request : TokenRequest} {id : Uuid}
    (named : request.correlation = some id) :
    request.headers = [("client-request-id", id.render), ("return-client-request-id", "true")] := by
  simp [headers, named]

namespace Dispatch

/-- What is left of a command carries the id. -/
def Progress.Carries (kind : Failure → Prop) (id : Uuid) : Progress → Prop
  | .refused _ => True
  | .opening _ program => program.Carries kind id
  | .running program => program.Carries kind id
  | .closing _ result => EndsWith kind id.render result

theorem Progress.Step.carries {s : System} {n : Nat} {before after : Progress}
    {dealt : Option Dealing} {kind : Failure → Prop} {id : Uuid}
    (step : before.Step s n dealt after) (carries : before.Carries kind id)
    (fails : ∀ dealing, dealt = some dealing → s.Gives n dealing →
      ∀ failure, dealing.failure? = some failure → kind failure) :
    after.Carries kind id ∧ ∀ dealing, dealt = some dealing → dealing.IsOwn id := by
  cases step with
  | @deal program dealing program' answered gives =>
      have running : program.Carries kind id := carries
      refine ⟨running.step answered (fails dealing rfl gives), ?_⟩
      rintro _ ⟨⟩
      exact running.isOwn answered
  | tell | panic => exact ⟨trivial, fun _ nothing => by cases nothing⟩
  | _ => exact ⟨carries, fun _ nothing => by cases nothing⟩

/-- The request that a program launches under an id is made under it. -/
theorem IsAsked.isOwn {program : Program (Except Breakdown Acquisition)} {call : Flow.Call}
    {kind kind' : Failure → Prop} {id : Uuid} (asked : IsAsked id.render program call)
    (carries : program.Carries kind id) (begun : call.IsBegun) : call.IsOwn kind' id := by
  unfold IsAsked at asked
  split at asked
  next progress =>
    obtain ⟨rfl, rfl, rfl⟩ := asked
    refine ⟨carries.1, rfl, rfl, ?_⟩
    cases progress with
    | begun => exact nofun
    | _ => cases begun
  next => exact trivial
  next => cases asked

namespace System

variable {s t : System} {n : Nat} {job job' : Job} {id : Uuid} {op : Operation}
  {sights more : List Sight} {occurrences : List Occurrence} {dealt : Option Dealing}

/-- A failure came up on this side of the wire, or was handed to the command. -/
def IsGiven (sights : List Sight) (n : Nat) (failure : Failure) : Prop :=
  failure.IsBare ∨ .handed n failure ∈ sights

theorem IsGiven.mono {failure : Failure} (given : IsGiven sights n failure) (more : List Sight) :
    IsGiven (sights ++ more) n failure :=
  given.imp_right (List.mem_append_left more)

/-- What holds of a command that was submitted under an id, and has been seen to do so much. -/
structure Owned (sights : List Sight) (s : System) (n : Nat) (job : Job) (id : Uuid) : Prop where
  named : job.correlationId = id.render
  carries : ∀ {kind : Failure → Prop}, (∀ {failure}, IsGiven sights n failure → kind failure) →
    job.progress.Carries kind id
  flow : (s.shared n).IsOwn (IsGiven sights n) id
  asked : ∀ {dealing}, .dealt n dealing ∈ sights → dealing.IsOwn id

namespace Owned

theorem mono (own : Owned sights s n job id) (others : ∀ sight ∈ more, sight.about? ≠ some n) :
    Owned (sights ++ more) s n job id where
  named := own.named
  carries given := own.carries fun before => given (before.mono more)
  flow call member := (own.flow call member).mono fun before => before.mono more
  asked := by
    intro dealing member
    rcases List.mem_append.mp member with before | now
    · exact own.asked before
    · exact absurd rfl (others _ now)

/-- A step changes the calls on a flow as it may, and begins requests under the id only. -/
theorem flow_of_step (own : Owned sights s n job id) (step : Step s occurrences t)
    (begun : ∀ {k : Nat} {call : Flow.Call}, call.IsBegun → (s.uses n).calls[k]? = none →
      (t.uses n).calls[k]? = some call → call.IsOwn (IsGiven (sights ++ more) n) id)
    (handed : ∀ failure ∈ Flow.Shared.handed (s.uses n).calls (t.uses n).calls,
      .handed n failure ∈ more) :
    (t.shared n).IsOwn (IsGiven (sights ++ more) n) id := by
  have before : (s.shared n).IsOwn (IsGiven (sights ++ more) n) id :=
    fun call member => (own.flow call member).mono fun given => given.mono more
  rcases step.shared n with same | ⟨k, step⟩
  · rwa [same]
  · exact before.step step .inl begun fun failure member =>
      .inr (List.mem_append_right _ (handed failure member))

/-- Whatever goes on that spares a command. -/
theorem spared (own : Owned sights s n job id) (step : Step s occurrences t)
    (spares : s.Spares n occurrences t) (found : s.dispatcher.jobs[n]? = some job)
    (found' : t.dispatcher.jobs[n]? = some job') (others : ∀ sight ∈ more, sight.about? ≠ some n) :
    Owned (sights ++ more) t n job' id := by
  obtain ⟨other, dealt, atN, named, further⟩ := step.exists_progress found
  obtain rfl := Option.some.inj (atN.symm.trans found')
  obtain rfl := spares.dealt_eq_none found found' further
  have kept := own.mono others
  refine ⟨named.trans own.named, fun given => ?_, ?_, kept.asked⟩
  · exact (further.carries (kept.carries given) fun _ nothing => by cases nothing).1
  · refine own.flow_of_step step (fun {k call} _ new begun => ?_) fun failure member => ?_
    · refine .of_not_isRequest fun request => ?_
      rw [(spares.requests request).mp begun] at new
      cases new
    · obtain ⟨k, call, call', before, after, handed⟩ := Flow.Shared.exists_of_mem_handed member
      -- A request that is handed something changes.
      have same := (spares.requests (Flow.Call.isRequest_of_handed? handed)).mpr before
      obtain rfl := Option.some.inj (same.symm.trans after)
      simp at handed

/-- What a command is answered with fails with nothing but what it was handed, if others have
stamped it. -/
theorem isGiven_of_gives (own : Owned sights s n job id) (coherent : (s.shared n).Coherent)
    (write : ∀ answer, s.dispatcher.write = .ended answer → FailsBare answer) {dealing : Dealing}
    (gives : s.Gives n dealing) {failure : Failure} (failed : dealing.failure? = some failure) :
    IsGiven sights n failure ∨ dealing.handed? = some failure := by
  unfold Dealing.failure? at failed
  split at failed
  next =>
    obtain rfl := Option.some.inj failed
    exact .inl (.inl (write _ gives.2 _ rfl))
  next =>
    obtain rfl := Option.some.inj failed
    obtain ⟨-, ended | ⟨-, ok, -⟩⟩ := gives
    · exact .inl (.inl (write _ ended _ rfl))
    · cases ok
  next => exact .inr failed
  next =>
    obtain rfl := Option.some.inj failed
    obtain ⟨k, call, started, -, called, returned, told⟩ := gives
    refine .inl (own.flow.of_refused (List.mem_of_getElem? called) ?_)
    cases started <;> cases told
    exact returned
  next =>
    obtain rfl := Option.some.inj failed
    exact .inl (.inl (coherent.failsBare_answer own.flow gives _ rfl))
  next => cases failed

/-- A step that is taken for the command. -/
theorem tended (own : Owned sights s n job id) (coherent : (s.shared n).Coherent)
    (write : ∀ answer, s.dispatcher.write = .ended answer → FailsBare answer)
    (step : Step s occurrences t) (engaged : t.Engaged)
    (found : s.dispatcher.jobs[n]? = some job) (found' : t.dispatcher.jobs[n]? = some job')
    (further : job.progress.Step s n dealt job'.progress)
    (begun : ∀ {k call}, call.IsRequest → (s.uses n).calls[k]? = none →
      (t.uses n).calls[k]? = some call → (t.uses n).workCall = some k) :
    Owned (sights ++ s.sights n dealt occurrences t) t n job' id := by
  obtain ⟨other, _, atN, named, -⟩ := step.exists_progress found
  obtain rfl := Option.some.inj (atN.symm.trans found')
  have named := named.trans own.named
  have carried {kind : Failure → Prop}
      (given : ∀ {failure}, IsGiven (sights ++ s.sights n dealt occurrences t) n failure →
        kind failure) :
      other.progress.Carries kind id ∧ ∀ dealing, dealt = some dealing → dealing.IsOwn id := by
    refine further.carries (own.carries fun before => given (before.mono _)) ?_
    rintro dealing rfl gives failure failed
    rcases own.isGiven_of_gives coherent write gives failed with before | now
    · exact given (before.mono _)
    · have member : failure ∈ s.handed n (some dealing) t := by simp [System.handed, now]
      exact given (.inr (List.mem_append_right _ (mem_sights.mpr (.inl ⟨failure, member, rfl⟩))))
  refine ⟨named, fun given => (carried given).1, ?_, fun {dealing} member => ?_⟩
  · refine own.flow_of_step step (fun {k call} new before atK => ?_) fun failure member => ?_
    · by_cases request : call.IsRequest
      · obtain ⟨job', program, call', atJob, progress, atK', asked⟩ :=
          engaged.asked (begun request before atK)
        obtain rfl := Option.some.inj (atJob.symm.trans found')
        obtain rfl := Option.some.inj (atK'.symm.trans atK)
        have carries := (carried fun given => given).1
        rw [progress] at carries
        exact (named ▸ asked).isOwn carries new
      · exact .of_not_isRequest request
    · refine mem_sights.mpr (.inl ⟨failure, ?_, rfl⟩)
      exact List.mem_append_left _ member
  · rcases List.mem_append.mp member with before | now
    · exact own.asked before
    · rcases mem_sights.mp now with ⟨_, -, same⟩ | ⟨_, answered, same⟩ | ⟨_, -, same⟩
      · cases same
      · cases same
        exact (carried fun given => given).2 dealing answered
      · cases same

end Owned

/-- The write of the cache fails with nothing that has an id on it. -/
def WritesBare (s : System) : Prop :=
  ∀ answer, s.dispatcher.write = .ended answer → FailsBare answer

theorem WritesBare.step (bare : s.WritesBare) (step : Step s occurrences t) : t.WritesBare := by
  intro answer answered
  rcases step.write_cases with ⟨-, same | idle | underWay⟩ | ended
  · exact bare answer (same ▸ answered)
  · cases idle.symm.trans answered
  · cases underWay.symm.trans answered
  · unfold Dispatcher.endWrite? at ended
    split at ended
    next =>
      rw [← Option.some.inj ended] at answered
      cases answered
      exact (Cache.failsClient_replace _ _).bare
    next => cases ended

/-- What holds of a dispatcher that has been handed commands. -/
structure Attributed (sights : List Sight) (s : System) : Prop where
  known : ∀ {sight : Sight} {n : Nat}, sight ∈ sights → sight.about? = some n →
    n < s.dispatcher.jobs.length
  unasked : ∀ {n : Nat} {call : Flow.Call}, s.dispatcher.jobs.length ≤ n →
    call ∈ (s.uses n).calls → ¬ call.IsRequest
  write : s.WritesBare
  owned : ∀ {n : Nat} {job : Job}, s.dispatcher.jobs[n]? = some job →
    ∃ id, (∀ other, .submitted n other ∈ sights ↔ other = id) ∧ Owned sights s n job id

theorem IsFresh.attributed (fresh : s.IsFresh) (idle : s.dispatcher.write = .none) :
    Attributed [] s where
  known member := by cases member
  unasked _ member := by simp [fresh.uses] at member
  write := by
    intro answer ended
    cases idle.symm.trans ended
  owned found := by simp [fresh.jobs] at found

namespace Attributed

/-- A command that is spared has been submitted once, still. -/
theorem spared (attributed : Attributed sights s) (step : Step s occurrences t)
    (spares : s.Spares n occurrences t) (found : s.dispatcher.jobs[n]? = some job)
    (found' : t.dispatcher.jobs[n]? = some job') (others : ∀ sight ∈ more, sight.about? ≠ some n) :
    ∃ id, (∀ other, .submitted n other ∈ sights ++ more ↔ other = id) ∧
      Owned (sights ++ more) t n job' id := by
  obtain ⟨id, once, own⟩ := attributed.owned found
  refine ⟨id, fun other => ?_, own.spared step spares found found' others⟩
  rw [List.mem_append, once]
  exact or_iff_left fun now => others _ now rfl

theorem unasked_of_spares (attributed : Attributed sights s) {call : Flow.Call}
    (spares : s.Spares n occurrences t) (outside : s.dispatcher.jobs.length ≤ n)
    (member : call ∈ (t.uses n).calls) : ¬ call.IsRequest := by
  intro request
  obtain ⟨k, atK⟩ := List.mem_iff_getElem?.mp member
  have before := List.mem_of_getElem? ((spares.requests request).mp atK)
  exact attributed.unasked outside before request

theorem submit (attributed : Attributed sights s) (command : Command) (id : Uuid) (reply : Nat) :
    Attributed (sights ++ [.submitted s.dispatcher.jobs.length id])
      (s.submitted (laneOf command) id.render reply (command.program op (some id.render))) := by
  have length : (s.submitted (laneOf command) id.render reply
      (command.program op (some id.render))).dispatcher.jobs.length =
        s.dispatcher.jobs.length + 1 := by
    simp [submitted, Dispatcher.enqueue]
  constructor
  · intro sight n member about
    rw [length]
    rcases List.mem_append.mp member with before | now
    · exact Nat.lt_succ_of_lt (attributed.known before about)
    · obtain rfl := List.mem_singleton.mp now
      cases about
      exact Nat.lt_succ_self _
  · intro n call outside member
    rw [length] at outside
    exact attributed.unasked (Nat.le_of_succ_le outside) member
  · exact attributed.write
  · intro n job found
    rcases submitted_cases found with ⟨old, other⟩ | ⟨rfl, named, progress⟩
    · have spares : s.Spares n [] (s.submitted (laneOf command) id.render reply
          (command.program op (some id.render))) := by
        refine ⟨fun atN running => ⟨job, found, ?_⟩, fun _ => Iff.rfl, List.not_mem_nil⟩
        rwa [← Option.some.inj (atN.symm.trans old)]
      refine attributed.spared (.submit ..) spares old found fun sight now about => ?_
      obtain rfl := List.mem_singleton.mp now
      exact other (Option.some.inj about).symm
    · -- Nothing has been seen of the command yet.
      have unseen (sight : Sight) (about : sight.about? = some s.dispatcher.jobs.length) :
          sight ∉ sights :=
        fun before => Nat.lt_irrefl _ (attributed.known before about)
      refine ⟨id, fun other => ?_, named, fun given => ?_, fun call member => ?_,
        fun {dealing} member => ?_⟩
      · simp [unseen (.submitted s.dispatcher.jobs.length other) rfl]
      · rcases progress with refused | queued
        · rw [refused]
          exact trivial
        · rw [queued]
          exact command.carries op (fun bare => given (.inl bare)) id
      · exact .of_not_isRequest (attributed.unasked (Nat.le_refl _) member)
      · simp [unseen (.dealt s.dispatcher.jobs.length dealing) rfl] at member

theorem idle (attributed : Attributed sights s) (idles : s.Idles more t) :
    Attributed (sights ++ more) t := by
  obtain @⟨occurrences, _, step, length, spares⟩ := idles
  have unseen (n : Nat) : ∀ sight ∈ occurrences.map Sight.occurred, sight.about? ≠ some n := by
    simp [Sight.about?]
  constructor
  · intro sight n member about
    rw [length]
    rcases List.mem_append.mp member with before | now
    · exact attributed.known before about
    · exact absurd about (unseen n _ now)
  · intro n call outside member
    exact attributed.unasked_of_spares (spares n) (length ▸ outside) member
  · exact attributed.write.step step
  · intro n job' found'
    have inside := (List.getElem?_eq_some_iff.mp found').1
    rw [length] at inside
    exact attributed.spared step (spares n) (List.getElem?_eq_getElem inside) found' (unseen n)

theorem tend (attributed : Attributed sights s) (engaged : t.Engaged)
    (coherent : (s.shared n).Coherent) (tends : s.Tends n more t) :
    Attributed (sights ++ more) t := by
  obtain @⟨occurrences, _, _, _, dealt, step, length, found, found', further, spares, begun⟩ :=
    tends
  have others {m : Nat} (other : m ≠ n) :
      ∀ sight ∈ s.sights n dealt occurrences t, sight.about? ≠ some m :=
    fun sight member about => other (eq_of_mem_sights member about).symm
  constructor
  · intro sight m member about
    rw [length]
    rcases List.mem_append.mp member with before | now
    · exact attributed.known before about
    · rw [← eq_of_mem_sights now about]
      exact (List.getElem?_eq_some_iff.mp found).1
  · intro m call outside member
    have other : m ≠ n := by
      rintro rfl
      exact Nat.not_lt_of_le outside (List.getElem?_eq_some_iff.mp found').1
    exact attributed.unasked_of_spares (spares m other) (length ▸ outside) member
  · exact attributed.write.step step
  · intro m other atM
    by_cases here : m = n
    · subst here
      obtain rfl := Option.some.inj (atM.symm.trans found')
      obtain ⟨id, once, own⟩ := attributed.owned found
      refine ⟨id, fun other => ?_,
        own.tended coherent attributed.write step engaged found found' further begun⟩
      rw [List.mem_append, once]
      refine or_iff_left fun now => ?_
      rcases mem_sights.mp now with ⟨_, -, same⟩ | ⟨_, -, same⟩ | ⟨_, -, same⟩ <;> cases same
    · have inside := (List.getElem?_eq_some_iff.mp atM).1
      rw [length] at inside
      exact attributed.spared step (spares m here) (List.getElem?_eq_getElem inside) atM
        (others here)

end Attributed

theorem Acts.attributed (acts : s.Acts op sights t) (fresh : s.IsFresh)
    (idle : s.dispatcher.write = .none) : Attributed sights t := by
  induction acts with
  | refl => exact fresh.attributed idle
  | step before last inductionHypothesis =>
      cases last with
      | submit command id reply => exact inductionHypothesis.submit command id reply
      | idle idles => exact inductionHypothesis.idle idles
      | @tend n _ _ tends =>
          have engaged := (before.step (.tend tends)).run.engaged fresh
          have coherent := (before.run.shared_reachable fresh n).coherent
          exact inductionHypothesis.tend engaged coherent tends

end System

/-- What is told of a command that nobody took, or whose work has ended. -/
theorem Job.posted_cases {job : Job} {reply : Nat} {outcome : Outcome}
    (posted : .posted reply outcome ∈ job.history) :
    outcome = Dispatcher.refusal job.correlationId ∨
      ∃ stage result, job.progress = .closing stage result ∧ outcome = job.outcome result := by
  cases progress : job.progress with
  | refused isTold =>
      cases isTold <;> simp [history, progress] at posted
      exact .inl posted.2
  | «opening» stage program => cases stage <;> simp [history, progress] at posted
  | running program =>
      cases lane : job.lane <;> simp [history, progress, lane, Lane.before] at posted
  | closing stage result =>
      refine .inr ⟨stage, result, rfl, ?_⟩
      cases lane : job.lane <;> cases stage <;>
        simp [history, closed, progress, lane, Lane.before, Lane.after] at posted <;>
        exact posted.2

theorem Job.stamped_of_posted {job : Job} {reply : Nat} {failure : Failure}
    (posted : .posted reply (.error failure) ∈ job.history) : failure.correlationId ≠ none := by
  rcases posted_cases posted with refused | ⟨_, result, -, told⟩
  · rw [Outcome.error.inj refused]
    exact nofun
  · exact Outcome.stamped_of_error told.symm

namespace System.Owned

variable {sights : List Sight} {s : System} {n reply : Nat} {job : Job} {id : Uuid}

theorem ends (own : Owned sights s n job id) {stage : Closing}
    {result : Except Breakdown Acquisition} (progress : job.progress = .closing stage result) :
    EndsWith (IsGiven sights n) id.render result := by
  have carries := own.carries fun {failure} given => given
  rwa [progress] at carries

theorem of_success (own : Owned sights s n job id) {authentication : Authentication}
    (posted : .posted reply (.success authentication) ∈ job.history) :
    authentication.correlationId = some id.render := by
  rcases Job.posted_cases posted with refused | ⟨stage, result, progress, told⟩
  · cases refused
  · rw [Job.outcome, own.named] at told
    exact Outcome.own_of_success (own.ends progress) told.symm

/-- Nobody but those who handed it a failure has another id told. -/
theorem of_error (own : Owned sights s n job id) {failure : Failure}
    (posted : .posted reply (.error failure) ∈ job.history) :
    failure.correlationId = some id.render ∨ .handed n failure ∈ sights := by
  rcases Job.posted_cases posted with refused | ⟨stage, result, progress, told⟩
  · rw [Outcome.error.inj refused, own.named]
    exact .inl rfl
  · rw [Job.outcome, own.named] at told
    rcases Outcome.own_of_error (own.ends progress) told.symm with same | bare | handed
    · exact .inl same
    · exact absurd bare (Outcome.stamped_of_error told.symm)
    · exact .inr handed

end System.Owned

theorem mem_milestones_iff {sights : List Sight} {n : Nat} {milestone : Milestone} :
    milestone ∈ milestones n (sights.filterMap Sight.occurrence?) ↔
      .occurred (.reached n milestone) ∈ sights := by
  simp [milestones, Occurrence.milestone?_eq_some_iff, Sight.occurrence?_eq_some_iff]

theorem mem_reactions_of_mem {sights : List Sight} {reply n : Nat}
    {reaction : Callback.Reaction} (member : .occurred (.reacted reply n reaction) ∈ sights) :
    (n, reaction) ∈ reactions reply (sights.filterMap Sight.occurrence?) := by
  refine List.mem_filterMap.mpr ⟨_, List.mem_filterMap.mpr ⟨_, member, rfl⟩, ?_⟩
  simp [Occurrence.reaction?]

/-- An outcome of the command is posted to its caller, or its callback is used for one. -/
def Told (sights : List Sight) (n : Nat) (outcome : Outcome) : Prop :=
  ∃ reply, .occurred (.reached n (.posted reply outcome)) ∈ sights ∨
    .occurred (.reacted reply n outcome.reaction) ∈ sights

/-- The callback is used for what was posted. -/
theorem Told.exists_posted {sights : List Sight} {n : Nat} {outcome : Outcome} {s t : System}
    (told : Told sights n outcome) (fresh : s.IsFresh)
    (run : s.Run (sights.filterMap Sight.occurrence?) t) :
    ∃ reply, .posted reply outcome ∈ milestones n (sights.filterMap Sight.occurrence?) := by
  obtain ⟨reply, posted | reacted⟩ := told
  · exact ⟨reply, mem_milestones_iff.mpr posted⟩
  · have reacted := mem_reactions_of_mem reacted
    have loop := List.getElem?_eq_getElem ((run.lanes fresh).lt_of_reacted reacted)
    obtain ⟨other, posted, same⟩ := ((run.traced fresh).reacted_once loop).2 reacted
    exact ⟨reply, Outcome.reaction_injective same ▸ posted⟩

namespace Threaded

/-- Every id that is seen on behalf of a command is the one that was generated for it. -/
structure Correlated (sights : List Sight) (t : Threaded) (n : Nat) (id : Uuid) : Prop where
  /-- Whoever works for the command finds the id. -/
  found : ∀ {k}, (t.threads k).owner? = some n → (t.threads k).bound = some id.render
  launched : ∀ {launch}, launch ∈ (t.system.shared n).launches →
    launch.correlationId = some id.render
  requested : ∀ {authorization classify bound progress},
    .request authorization classify bound progress ∈ (t.system.shared n).calls →
    authorization.correlation = some id
  posted : ∀ {request answer}, .dealt n (.posted request answer) ∈ sights →
    request.headers = [("client-request-id", id.render), ("return-client-request-id", "true")]
  signed : ∀ {authentication}, Told sights n (.success authentication) →
    authentication.correlationId = some id.render
  /-- Nobody is told of a failure without an id. -/
  stamped : ∀ {failure}, Told sights n (.error failure) → failure.correlationId ≠ none
  /-- A failure that has an id on it keeps it.  This is the id of the command, unless others handed
  the command just this failure, with the id of someone else on it. -/
  failed : ∀ {failure}, Told sights n (.error failure) →
    failure.correlationId = some id.render ∨ .handed n failure ∈ sights

variable {op : Operation} {t u : Threaded} {sights : List Sight} {n : Nat}

theorem Run.correlated (fresh : t.IsFresh) (run : Run op t sights u)
    (submitted : n < u.system.dispatcher.jobs.length) :
    ∃ id, (∀ other, .submitted n other ∈ sights ↔ other = id) ∧ Correlated sights u n id := by
  obtain ⟨sound, acts⟩ := run.erases fresh.sound
  have atN := List.getElem?_eq_getElem submitted
  obtain ⟨id, once, own⟩ := (acts.attributed fresh.system fresh.write).owned atN
  have coherent := (acts.run.shared_reachable fresh.system n).coherent
  have history := (acts.run.milestones_eq fresh.system atN).1
  have posted {outcome : Outcome} (told : Told sights n outcome) :
      ∃ reply, .posted reply outcome ∈ (u.system.dispatcher.jobs[n]).history :=
    history ▸ told.exists_posted fresh.system acts.run
  refine ⟨id, once, ?_, fun member => coherent.correlationId_eq own.flow member, ?_, ?_, ?_, ?_, ?_⟩
  · intro k working
    obtain ⟨other, bound, named⟩ := (sound.threads k).bound_eq working
    obtain ⟨job, found, rfl⟩ := System.idOf_eq_some_iff.mp named
    obtain rfl := Option.some.inj (atN.symm.trans found)
    rw [bound, own.named]
  · exact fun member => (own.flow _ member).1
  · exact fun member => TokenRequest.headers_of_correlation (own.asked member)
  · intro authentication told
    obtain ⟨reply, posted⟩ := posted told
    exact own.of_success posted
  · intro failure told
    obtain ⟨reply, posted⟩ := posted told
    exact Job.stamped_of_posted posted
  · intro failure told
    obtain ⟨reply, posted⟩ := posted told
    exact own.of_error posted

end Threaded

/-! ### A command that redeems a code -/

/-- Only the call that the work of a command makes begins with it. -/
theorem System.workCall_of_beginWorkCall {s : System} {n m k : Nat} {call call' : Flow.Call}
    (missing : (s.uses m).calls[k]? = none)
    (present : ((s.beginWorkCall n call).uses m).calls[k]? = some call') :
    ((s.beginWorkCall n call).uses m).workCall = some k := by
  by_cases here : m = n
  · subst here
    simp only [beginWorkCall, Function.update_self] at present ⊢
    have inside := (List.getElem?_eq_some_iff.mp present).1
    rw [List.length_append] at inside
    exact congrArg some (Nat.le_antisymm (List.getElem?_eq_none_iff.mp missing)
      (Nat.le_of_lt_succ inside))
  · have same : (s.beginWorkCall n call).uses m = s.uses m := Function.update_of_ne here ..
    rw [same, missing] at present
    cases present

/-- What a command was answered on the way is to be seen. -/
def System.Shows (op : Operation) (s : System) (n : Nat) (dealings : List Dealing) (t : System) :
    Prop :=
  ∃ sights, s.Acts op sights t ∧ ∀ dealing ∈ dealings, .dealt n dealing ∈ sights

namespace System.Shows

variable {op : Operation} {s t u : System} {n : Nat} {dealings : List Dealing}
  {occurrences : List Occurrence} {job job' : Job}

theorem step {dealt : Option Dealing} (shows : Shows op s n dealings t)
    (step : Step t occurrences u) (same : u.dispatcher.jobs.length = t.dispatcher.jobs.length)
    (begun : ∀ {m k call}, call.IsRequest → (t.uses m).calls[k]? = none →
      (u.uses m).calls[k]? = some call → (u.uses m).workCall = some k)
    (found : t.dispatcher.jobs[n]? = some job) (found' : u.dispatcher.jobs[n]? = some job')
    (further : job.progress.Step t n dealt job'.progress) :
    Shows op s n (dealings ++ dealt.toList) u := by
  obtain ⟨sights, acts, shown⟩ := shows
  obtain ⟨more, act, answered⟩ := step.exists_act op same begun found found' further
  refine ⟨_, acts.step act, fun dealing member => ?_⟩
  rcases List.mem_append.mp member with before | now
  · exact List.mem_append_left more (shown dealing before)
  · exact List.mem_append_right sights (answered dealing (Option.mem_toList.mp now))

/-- A step in which no call begins. -/
theorem further {dealt : Option Dealing} (shows : Shows op s n dealings t)
    (step : Step t occurrences u) (same : u.dispatcher.jobs.length = t.dispatcher.jobs.length)
    (quiet : ∀ m, (u.uses m).calls = (t.uses m).calls)
    (found : t.dispatcher.jobs[n]? = some job) (found' : u.dispatcher.jobs[n]? = some job')
    (further : job.progress.Step t n dealt job'.progress) :
    Shows op s n (dealings ++ dealt.toList) u := by
  refine shows.step step same (fun {m k call} _ missing present => ?_) found found' further
  rw [quiet m, missing] at present
  cases present

/-- A step in which the work goes on, and no call begins. -/
theorem deal {program program' : Program (Except Breakdown Acquisition)} {dealing : Dealing}
    (shows : Shows op s n dealings t) (step : Step t occurrences u)
    (same : u.dispatcher.jobs.length = t.dispatcher.jobs.length)
    (quiet : ∀ m, (u.uses m).calls = (t.uses m).calls)
    (found : t.dispatcher.jobs[n]? = some job) (found' : u.dispatcher.jobs[n]? = some job')
    (progress : job.progress = .running program) (progress' : job'.progress = .running program')
    (answered : program.Step dealing program') (gives : t.Gives n dealing) :
    Shows op s n (dealings ++ [dealing]) u := by
  have own : job.progress.Step t n (some dealing) job'.progress := by
    rw [progress, progress']
    exact .deal answered gives
  exact shows.further step same quiet found found' own

/-- Whatever becomes of the calls on its flow, if no request begins. -/
theorem exists_share {after : Flow.Shared} (shows : Shows op s n dealings t)
    (found : t.dispatcher.jobs[n]? = some job) (run : Flow.Shared.Run (t.shared n) after)
    (kept : ∀ {k call}, call.IsRequest → after.calls[k]? = some call →
      k < (t.shared n).calls.length) :
    ∃ u, Shows op s n dealings u ∧
      u.dispatcher.jobs = t.dispatcher.jobs.set n { job with flow := after.flow } ∧
      u.shared n = after ∧ (u.uses n).workCall = (t.uses n).workCall ∧
      (t.shared n).calls.length ≤ after.calls.length := by
  induction run with
  | refl =>
      have own : { job with flow := (t.shared n).flow } = job := by
        rw [show (t.shared n).flow = job.flow from Dispatcher.flow_eq found]
      exact ⟨t, shows, by rw [own, Lists.set_eq_self found], rfl, rfl, Nat.le_refl _⟩
  | @tail middle after _ last inductionHypothesis =>
      obtain ⟨k, last⟩ := last
      obtain ⟨u, before, jobs, rfl, busy, longer⟩ :=
        inductionHypothesis fun {j call} request atJ => by
          obtain ⟨call', atJ', rfl | ⟨contacts, further⟩⟩ := last.call_cases atJ
          · exact kept request atJ'
          · exact kept (further.isRequest request) atJ'
      have inside := (List.getElem?_eq_some_iff.mp found).1
      have atN : u.dispatcher.jobs[n]? = some { job with flow := (u.shared n).flow } := by
        rw [jobs, List.getElem?_set_self inside]
      generalize named : { job with flow := (u.shared n).flow } = own at atN
      have shared : (u.share n own after).shared n = after := (shared_share atN).trans (if_pos rfl)
      have length : (u.share n own after).dispatcher.jobs.length = u.dispatcher.jobs.length :=
        List.length_set
      have moved := before.step (.call atN last) length
        (fun {m j call} request missing present => ?_) atN (Dispatcher.getElem?_setJob _ atN) .stay
      · refine ⟨_, by simpa using moved, ?_, shared, ?_, longer.trans last.length_calls_le⟩
        · simp [share, Dispatcher.log, Dispatcher.setJob, jobs, ← named]
        · simpa [share] using busy
      · exfalso
        by_cases here : m = n
        · subst here
          have early := kept request ((congrArg (·.calls[j]?) shared).symm.trans present)
          have late := List.getElem?_eq_none_iff.mp missing
          exact absurd (Nat.lt_of_lt_of_le early longer) (Nat.not_lt_of_le late)
        · have same : (u.share n own after).uses m = u.uses m := Function.update_of_ne here ..
          rw [same, missing] at present
          cases present

theorem exists_launched {request : AuthorizationRequest}
    {next : Except Failure Unit → Program (Except Breakdown Acquisition)} {k : Nat}
    {call : Flow.Call} (shows : Shows op s n dealings t)
    (found : t.dispatcher.jobs[n]? = some job)
    (progress : job.progress = .running (.launch request next))
    (busy : (t.uses n).workCall = some k) (called : (t.uses n).calls[k]? = some call)
    (returned : call.started? = some .awaiting) :
    ∃ u job', Shows op s n (dealings ++ [.launched request (.ok ())]) u ∧
      u.dispatcher.jobs[n]? = some job' ∧ job'.progress = .running (next (.ok ())) ∧
      job'.flow = job.flow ∧ u.dispatcher.jobs.length = t.dispatcher.jobs.length := by
  have length : (t.dispatcher.resume n job (next (.ok ()))).jobs.length =
      t.dispatcher.jobs.length := List.length_set
  have atEnd := Dispatcher.getElem?_setJob
    { job with progress := .running (next (.ok ())), deadline := none } found
  refine ⟨_, _, shows.deal (.endLaunch found progress busy called returned) length (fun m => ?_)
    found atEnd progress rfl (.launch (.ok ())) ⟨k, call, .awaiting, busy, called, returned, rfl⟩,
    atEnd, rfl, rfl, length⟩
  by_cases here : m = n
  · subst here
    simp [endWorkCall]
  · simp [endWorkCall, here]

theorem exists_worked {d : Dispatcher} {program program' : Program (Except Breakdown Acquisition)}
    {dealing : Dealing} (shows : Shows op s n dealings t)
    (found : t.dispatcher.jobs[n]? = some job) (progress : job.progress = .running program)
    (isLocal : IsLocal program)
    (advanced : t.dispatcher.advance? n = some (d.resume n job program'))
    (jobs : d.jobs = t.dispatcher.jobs) (answered : program.Step dealing program')
    (gives : t.Gives n dealing) :
    ∃ u job', Shows op s n (dealings ++ [dealing]) u ∧ u.dispatcher.jobs[n]? = some job' ∧
      job'.progress = .running program' ∧ job'.flow = job.flow ∧
      u.dispatcher.jobs.length = t.dispatcher.jobs.length := by
  have length : (d.resume n job program').jobs.length = t.dispatcher.jobs.length := by
    rw [← jobs]
    exact List.length_set
  have atEnd := Dispatcher.getElem?_setJob
    { job with progress := .running program', deadline := none } (jobs ▸ found)
  exact ⟨_, _, shows.deal (.work found progress isLocal advanced) length (fun _ => rfl) found atEnd
    progress rfl answered gives, atEnd, rfl, rfl, length⟩

variable {seeds : Seeds} {first : Seeds → Program (Except Breakdown Acquisition)}
  {next : Except Failure Unit → Program (Except Breakdown Acquisition)}
  {answered : Option (Except Failure AuthorizationResult) → Program (Except Breakdown Acquisition)}
  {posted : Except Failure HttpResponse → Program (Except Breakdown Acquisition)}
  {request : AuthorizationRequest} {tokenRequest : TokenRequest} {seconds : Option Nat}
  {completion : Completion} {id : String} {reply : Nat}

/-- A first interactive command comes to its launch. -/
theorem exists_asked
    (shows : Shows op s 0 [] ((drawing seeds).submitted .interactive id reply (.seeds first)))
    (launching : first seeds = .launch request next) :
    ∃ t job, Shows op s 0 [.seeds seeds] t ∧ t.dispatcher.jobs = [job] ∧
      job.progress = .running (.launch request next) ∧ (t.uses 0).workCall = some 0 ∧
      t.shared 0 = { calls := [.request request Flow.byState (some id) .begun] } := by
  have received := shows.further (.receive (n := 0) rfl rfl rfl) rfl (fun _ => rfl) rfl rfl .turn
  have registered := received.further (.register (n := 0) rfl rfl) rfl (fun _ => rfl) rfl rfl .turn
  have started := registered.further (.spawn (n := 0) rfl rfl) rfl (fun _ => rfl) rfl rfl .start
  have drawn := started.further (.work (n := 0) rfl rfl trivial rfl) rfl (fun _ => rfl) rfl rfl
    (.deal (.seeds _) rfl)
  have asked := drawn.step (.beginLaunch (n := 0) rfl (congrArg _ launching) rfl) rfl
    (fun _ missing present => workCall_of_beginWorkCall missing present) rfl rfl .stay
  exact ⟨_, _, asked, rfl, congrArg _ launching, rfl, rfl⟩

/-- Its user agrees, and the code is redeemed. -/
theorem exists_redeemed
    (shows : Shows op s 0 [] ((drawing seeds).submitted .interactive id reply (.seeds first)))
    (launching : first seeds = .launch request next)
    (awaiting : next (.ok ()) = .await seconds answered)
    (posting : answered (some (completion.result request.state)) = .post tokenRequest posted) :
    ∃ answer t, t.dispatcher.jobs.length = 1 ∧
      Shows op s 0
        [.seeds seeds, .launched request (.ok ()),
          .awaited seconds (some (completion.result request.state)), .posted tokenRequest answer]
        t := by
  obtain ⟨t, job, asked, jobs, progress, busy, shared⟩ := shows.exists_asked launching
  obtain ⟨after, launch, pending, run, calls, told⟩ :=
    Flow.Shared.exists_answered request (some id) completion
  have found : t.dispatcher.jobs[0]? = some job := by rw [jobs]; rfl
  rw [← shared] at run
  obtain ⟨u, shares, jobs', there, same, -⟩ := asked.exists_share found run
    (fun {k call} isRequest atK => by
      rw [calls] at atK
      rw [shared]
      match k with
      | 0 => exact Nat.zero_lt_one
      | 1 =>
          obtain rfl := Option.some.inj atK
          exact isRequest.elim
      | k + 2 => cases atK)
  have called : (u.uses 0).calls = _ := (congrArg (·.calls) there).trans calls
  have atU : u.dispatcher.jobs[0]? = some { job with flow := after.flow } := by
    rw [jobs', jobs]
    rfl
  obtain ⟨v, waiting, returned, atV, waits, flow, length⟩ := shares.exists_launched atU progress
    (same.trans busy) (congrArg (·[0]?) called) rfl
  rw [awaiting] at waits
  rw [← congrArg Flow.answer flow] at told
  obtain ⟨w, asking, awaited, atW, asks, -, length'⟩ := returned.exists_worked atV waits trivial
    (Dispatcher.advance?_await atV waits told) rfl (.await _)
    (by rwa [← Dispatcher.flow_eq atV] at told)
  rw [posting] at asks
  obtain ⟨x, -, redeemed, -, -, -, length''⟩ := awaited.exists_worked atW asks trivial
    (Dispatcher.advance?_post atW asks) rfl (.post _) rfl
  exact ⟨_, x, by rw [length'', length', length, jobs', jobs]; rfl, redeemed⟩

end System.Shows

/-- A command that redeems a code, worked for on threads that the id of someone else is bound on. -/
theorem Threaded.sample_correlated :
    ∃ t sights u request tokenRequest answer,
      t.IsFresh ∧ (∀ k, (t.threads k).bound = some "elsewhere") ∧ Run service t sights u ∧
      .dealt 0 (.launched request (.ok ())) ∈ sights ∧
      .dealt 0 (.posted tokenRequest answer) ∈ sights ∧ 0 < u.system.dispatcher.jobs.length ∧
      ∃ id, (∀ other, .submitted 0 other ∈ sights ↔ other = id) ∧ Correlated sights u 0 id := by
  let t : Threaded :=
    { system := System.drawing drawnSeeds
      work := fun _ _ => .done (.ok {})
      threads := fun _ =>
        { bound := some "elsewhere", scopes := [{ owner := none, outer := none }] } }
  have fresh : t.IsFresh := ⟨System.drawing_isFresh drawnSeeds, rfl, by simp [t]⟩
  have shows : System.Shows service (System.drawing drawnSeeds) 0 [] _ :=
    ⟨_, .step .refl (.submit (.interactive sampleParameters) (.ofRandom []) 0), by simp⟩
  have work : Command.program service (some (Uuid.ofRandom []).render)
      (.interactive sampleParameters) = .seeds _ := Operation.supervised_interactive ..
  rw [work] at shows
  obtain ⟨request, built, succeeded⟩ := sampleCompletion_agrees
  obtain ⟨answer, s, length, sights, acts, shown⟩ := shows.exists_redeemed
    (launching_of_build built) rfl (posting_of_success succeeded rfl)
  obtain ⟨u, run, rfl, -⟩ := Threaded.exists_run (t := t) acts fresh.sound
  have inside : 0 < u.system.dispatcher.jobs.length := length ▸ Nat.zero_lt_one
  exact ⟨t, sights, u, request, _, answer, fresh, fun _ => rfl, run, shown _ (by simp),
    shown _ (List.mem_of_getLast? rfl), inside, run.correlated fresh inside⟩

/-! ### A command that is handed the failure of someone else -/

/-- A silent command ends with what the network fails with. -/
theorem System.exists_failed {store : Store} {cached : Credential} {token : Secret}
    (op : Operation) (p : SilentParameters) (id : Uuid) (failure : Failure)
    (forced : p.forceRefresh = true)
    (stored : store.lookup p.clientId p.account = .found cached)
    (own : cached.refreshToken = some token) (filled : token.isFilled = true) :
    ∃ sights t job, (System.caching store [.fail failure 0]).Acts op sights t ∧
      t.dispatcher.jobs[0]? = some job ∧ job.correlationId = id.render ∧
      job.progress = .closing .posted (.error (.typed failure)) := by
  have work : Command.program op (some id.render) (.silent p) =
      .lookup p.clientId p.account (op.afterLookup p (some id.render)) :=
    Operation.supervised_silent ..
  have posting : op.afterLookup p (some id.render) (store.lookup p.clientId p.account) =
      .post (op.refreshRequest p token (some id.render))
        (op.afterRefresh p (some id.render) cached token) := by
    rw [stored, Operation.afterLookup_found forced own filled]
  have submitted : Shows op (System.caching store [.fail failure 0]) 0 [] _ :=
    ⟨_, .step .refl (.submit (.silent p) id 0), by simp⟩
  rw [work] at submitted
  have started := submitted.further (.startSilent (n := 0) rfl) rfl (fun _ => rfl) rfl rfl .start
  have held := started.further (.acquire (n := 0) rfl) rfl (fun _ => rfl) rfl rfl .stay
  have looked := held.deal (.work (n := 0) rfl rfl trivial rfl) rfl (fun _ => rfl) rfl rfl rfl rfl
    (.lookup _) ⟨rfl, rfl⟩
  have posted := looked.deal (.work (n := 0) rfl (congrArg _ posting) trivial
    (Dispatcher.advance?_post rfl (congrArg _ posting))) rfl (fun _ => rfl) rfl rfl
    (congrArg _ posting) rfl (.post _) rfl
  -- The network takes no time, and is waited for all the same.
  have asleep := posted.further (.work (n := 0) rfl rfl trivial rfl) rfl (fun _ => rfl) rfl rfl
    .stay
  have woken := asleep.deal (.work (n := 0) rfl rfl trivial rfl) rfl (fun _ => rfl) rfl rfl rfl rfl
    .sleep trivial
  have ended := woken.further (.finish (n := 0) rfl rfl rfl) rfl (fun _ => rfl) rfl rfl .finish
  have recorded := ended.further (.record (n := 0) rfl rfl nofun rfl) rfl (fun _ => rfl) rfl rfl
    .close
  obtain ⟨sights, acts, -⟩ := recorded.further (.post (n := 0) rfl rfl nofun rfl) rfl
    (fun _ => rfl) rfl rfl .close
  exact ⟨sights, _, _, acts, rfl, rfl, rfl⟩

/-- What a network fails with that works for someone else as well. -/
def lostElsewhere : Failure :=
  { cause := .unknown "token request failed" [], correlationId := some "elsewhere" }

/-- Nothing has been submitted yet, and this is what the network is to fail with. -/
def Threaded.losing : Threaded :=
  { system :=
      System.caching (Store.save {} renewal.clientId oldCredential none) [.fail lostElsewhere 0]
    work := fun _ _ => .done (.ok {})
    threads := fun _ => {} }

/-- Its caller is told of a failure with an id on it that is not that of the command. -/
theorem Threaded.foreign_id_told :
    losing.IsFresh ∧ ∃ sights t id, Run service losing sights t ∧
      (∀ other, .submitted 0 other ∈ sights ↔ other = id) ∧
      Told sights 0 (.error lostElsewhere) ∧ lostElsewhere.correlationId ≠ some id.render := by
  have fresh : losing.IsFresh :=
    ⟨by constructor <;> simp [losing, System.caching, System.sample], rfl, by simp [losing]⟩
  have cached : (Store.save {} renewal.clientId oldCredential none).lookup renewal.clientId
      renewal.account = .found oldCredential :=
    Store.lookup_save {} renewal.clientId none rfl (by decide)
  obtain ⟨sights, s, job, acts, found, named, progress⟩ := System.exists_failed service renewal
    (.ofRandom []) lostElsewhere rfl cached rfl (by decide)
  obtain ⟨id, once, own⟩ := (acts.attributed fresh.system fresh.write).owned found
  obtain ⟨t, run, -, -⟩ := exists_run (t := losing) acts fresh.sound
  have told : job.outcome (.error (.typed lostElsewhere)) = .error lostElsewhere :=
    congrArg Outcome.error (Failure.stamped_of_ne_none (Option.some_ne_none _) _)
  have posted := Job.posted_mem_history progress
  rw [told, ← (acts.run.milestones_eq fresh.system found).1] at posted
  refine ⟨fresh, sights, t, id, run, once, ⟨_, .inl (mem_milestones_iff.mp posted)⟩, ?_⟩
  rw [← own.named, named]
  decide +kernel

end Dispatch

end TokenAcquisition
