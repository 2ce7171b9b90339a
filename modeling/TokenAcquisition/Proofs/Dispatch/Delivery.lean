import TokenAcquisition.Proofs.Dispatch.Completion

/-!
One outcome for each command.  Whatever its work does, the caller is told once, of that and of
nothing else.
-/

namespace TokenAcquisition

/-- What the callback of a command is asked to do about an outcome. -/
def Outcome.reaction : Outcome → Callback.Reaction
  | .success authentication => .onSuccess authentication
  | .cancel => .onCancel
  | .error failure => .onError failure

theorem Outcome.deliver_noting (outcome : Outcome) :
    outcome.deliver .noting = [outcome.reaction] := by
  cases outcome <;> rfl

namespace Dispatch

theorem Delivery.flatMap_reactions (deliveries : List Delivery) :
    deliveries.flatMap Delivery.reactions =
      deliveries.map fun delivery => (delivery.job, delivery.outcome.reaction) := by
  have one (delivery : Delivery) :
      delivery.reactions = [(delivery.job, delivery.outcome.reaction)] := by
    simp [Delivery.reactions, delivery.outcome.deliver_noting]
  simp only [List.map_eq_flatMap, funext one]

namespace Outline

variable {o : Outline} {reply : Nat} {outcome : Outcome}

/-- What is posted for a command that its lane took is what its work has come to, which is counted
before. -/
theorem Fits.posted_of_accepted (fits : o.Fits) (accepted : o.isAccepted = true)
    (posted : .posted reply outcome ∈ o.history) :
    reply = o.reply ∧ o.counted = [(o.lane.label, outcome.label)] ∧
      ∃ result, outcome = o.outcome result ∧
        [.started, .ended result, .recorded outcome.label, .posted reply outcome].Sublist
          o.history := by
  obtain ⟨result, whole⟩ := fits.isOver posted
  have all : o.history = o.lane.before ++ ([.started, .ended result] ++ (o.lane.after ++
      [.recorded (o.outcome result).label, .posted o.reply (o.outcome result)])) := by
    simp [whole, life, accepted]
  have own : reply = o.reply ∧ outcome = o.outcome result := by
    rw [all] at posted
    cases lane : o.lane <;> simpa [lane, Lane.before, Lane.after] using posted
  obtain ⟨rfl, rfl⟩ := own
  refine ⟨rfl, ?_, result, rfl, ?_⟩
  · rw [counted, all]
    cases o.lane <;> simp [Lane.before, Lane.after, List.filterMap_cons, Milestone.label?]
  · rw [all]
    refine .trans ?_ (List.sublist_append_right _ _)
    exact .append_left (List.sublist_append_right _ _) [_, _]

/-- Nothing but a refusal comes of a command that nobody takes. -/
theorem Fits.refused (fits : o.Fits) (refused : o.isAccepted = false) :
    o.history = [] ∨ o.history = [.posted o.reply (Dispatcher.refusal o.correlationId)] := by
  obtain ⟨result, first⟩ := fits
  rw [life, if_neg (by simp [refused]), List.prefix_cons_iff] at first
  rcases first with nothing | ⟨rest, all, none⟩
  · exact .inl nothing
  · exact .inr (by rw [all, List.prefix_nil.mp none])

end Outline

theorem Job.progress_of_refused {job : Job} (refused : job.isAccepted = false)
    (nothing : job.history = []) : job.progress = .refused false := by
  unfold isAccepted at refused
  unfold history at nothing
  split at nothing <;> simp_all

namespace Lanes.Traced

variable {start l : Lanes} {trace : List Occurrence} {reply n : Nat} {loop : ReplyLoop Delivery}

theorem exists_ran (traced : Traced start trace l) (found : l.replies[reply]? = some loop) :
    ∃ ran, ran <+: posts reply trace ∧
      reactions reply trace = ran.map (fun delivery => (delivery.job, delivery.outcome.reaction)) ∧
      (loop.isOpen = true → posts reply trace = ran ++ loop.waiting) := by
  obtain ⟨ran, faithful, told⟩ := traced.faithful found
  exact ⟨ran, faithful.ran_prefix, told.trans (Delivery.flatMap_reactions ran), faithful.waiting⟩

theorem reacted_once (traced : Traced start trace l) (found : l.replies[reply]? = some loop) :
    ((reactions reply trace).countP fun entry => entry.1 = n) ≤ 1 ∧
      ∀ {reaction}, (n, reaction) ∈ reactions reply trace →
        ∃ outcome, .posted reply outcome ∈ milestones n trace ∧ outcome.reaction = reaction := by
  obtain ⟨ran, first, all, -⟩ := traced.exists_ran found
  rw [all]
  constructor
  · calc (ran.map fun delivery => (delivery.job, delivery.outcome.reaction)).countP
          (fun entry => entry.1 = n)
        = ran.countP fun delivery => delivery.job = n := by
          rw [List.countP_map]
          rfl
      _ ≤ (posts reply trace).countP fun delivery => delivery.job = n := first.sublist.countP_le
      _ ≤ (milestones n trace).countP Milestone.isPosted := countP_posts_le reply n trace
      _ ≤ 1 := traced.countP_isPosted_le n
  · intro reaction member
    obtain ⟨delivery, ran, same⟩ := List.mem_map.mp member
    obtain ⟨rfl, rfl⟩ := Prod.mk.inj same
    exact ⟨delivery.outcome, mem_posts_iff.mp (first.subset ran), rfl⟩

end Lanes.Traced

namespace Lanes

variable {start l l' : Lanes} {trace occurrences : List Occurrence} {reply n : Nat}
  {reaction : Callback.Reaction}

theorem Step.length_replies (step : Step l occurrences l') :
    l'.replies.length = l.replies.length := by
  cases step with
  | submit => rfl
  | @reach _ _ milestone =>
      cases milestone with
      | posted => exact List.length_modify ..
      | _ => rfl
  | deliver => exact List.length_set
  | closeLoop => exact List.length_modify ..

theorem Step.lt_of_reacted (step : Step l occurrences l')
    (reacted : (n, reaction) ∈ reactions reply occurrences) : reply < l.replies.length := by
  cases step with
  | @deliver target _ _ _ found =>
      obtain ⟨occurrence, member, here⟩ := List.mem_filterMap.mp reacted
      obtain ⟨_, -, rfl⟩ := List.mem_map.mp member
      obtain ⟨rfl, -⟩ := Option.ite_none_right_eq_some.mp here
      exact (List.getElem?_eq_some_iff.mp found).1
  | _ => simp [reactions, Occurrence.reaction?] at reacted

/-- Callbacks are used by the owners of reply loops only. -/
theorem Run.lt_of_reacted (run : start.Run trace l)
    (reacted : (n, reaction) ∈ reactions reply trace) : reply < l.replies.length := by
  induction run with
  | refl => cases reacted
  | step _ last inductionHypothesis =>
      rw [last.length_replies]
      rw [reactions, List.filterMap_append] at reacted
      rcases List.mem_append.mp reacted with before | now
      · exact inductionHypothesis before
      · exact last.lt_of_reacted now

end Lanes

namespace System

variable {s t : System} {trace : List Occurrence} {n : Nat} {job : Job}

/-- What callers are told of their commands. -/
structure DeliveredOnce (start : System) (trace : List Occurrence) (s : System) : Prop where
  /-- At most one outcome is posted for a command. -/
  posted_le : ∀ n, (milestones n trace).countP Milestone.isPosted ≤ 1
  /-- It is posted to the loop of its caller, and uses one method of the callback. -/
  to_caller : ∀ {n reply outcome}, .posted reply outcome ∈ milestones n trace →
    (∃ job, s.dispatcher.jobs[n]? = some job ∧ job.reply = reply) ∧
      ∃ reaction, outcome.deliver .noting = [reaction]
  /-- If the lane took the command, it is what the work ended with, and posted after that. -/
  after_work : ∀ {n : Nat} {job : Job} {reply outcome}, s.dispatcher.jobs[n]? = some job →
    job.isAccepted = true → .posted reply outcome ∈ milestones n trace →
    ∃ result, outcome = job.outcome result ∧
      [.started, .ended result, .recorded outcome.label, .posted reply outcome].Sublist
        (milestones n trace)
  /-- It has been posted when the lane is done with the command. -/
  by_the_end : ∀ {n : Nat} {job : Job}, s.dispatcher.jobs[n]? = some job → job.isAccepted = true →
    job.lane = .interactive ∧ milestones n trace ≠ [] ∧ s.dispatcher.current ≠ some n ∨
      (∃ result, job.progress = .closing .posted result) →
    (milestones n trace).countP Milestone.isPosted = 1
  /-- Nothing keeps the lane, while it is there, from posting it once the work has ended. -/
  not_stuck : ∀ {n : Nat} {job : Job} {stage result}, s.dispatcher.jobs[n]? = some job →
    job.progress = .closing stage result → s.dispatcher.IsServed job.lane → s.CanPost n
  /-- If nobody took the command, an unknown failure is posted and nothing else is done for it. -/
  of_refused : ∀ {n : Nat} {job : Job}, s.dispatcher.jobs[n]? = some job → job.isAccepted = false →
    ∃ failure, failure.cause.kind = "unknown" ∧
      (milestones n trace = [.posted job.reply (.error failure)] ∨
        milestones n trace = [] ∧ ∃ t, Step s [.reached n (.posted job.reply (.error failure))] t)
  /-- A loop runs what is posted to it in this order, each once, while it is there. -/
  in_order : ∀ {reply loop}, s.dispatcher.replies[reply]? = some loop →
    ∃ ran, ran <+: posts reply trace ∧
      reactions reply trace = ran.map (fun delivery => (delivery.job, delivery.outcome.reaction)) ∧
      (loop.isOpen = true → posts reply trace = ran ++ loop.waiting)
  /-- The callback of a command is used once, and asked for what was posted for the command. -/
  reacted_once : ∀ {reply loop n}, s.dispatcher.replies[reply]? = some loop →
    ((reactions reply trace).countP fun entry => entry.1 = n) ≤ 1 ∧
      ∀ {reaction}, (n, reaction) ∈ reactions reply trace →
        ∃ outcome, .posted reply outcome ∈ milestones n trace ∧ outcome.reaction = reaction
  /-- Commands are counted by their lane and outcome. -/
  counted : ∀ lane label, s.dispatcher.metrics.count lane label =
    start.dispatcher.metrics.count lane label +
      (s.dispatcher.jobs.flatMap fun job => job.outline.counted).count (lane, label)
  /-- A command that ran on a lane is counted once, by the outcome that is posted. -/
  counted_once : ∀ {n : Nat} {job : Job} {reply outcome}, s.dispatcher.jobs[n]? = some job →
    job.isAccepted = true → .posted reply outcome ∈ milestones n trace →
    job.outline.counted = [(job.lane.label, outcome.label)]
  /-- A command that nobody took is not counted. -/
  not_counted : ∀ {n : Nat} {job : Job}, s.dispatcher.jobs[n]? = some job → job.isAccepted = false →
    job.outline.counted = []

/-- What has been done for a command can be told from its job. -/
theorem Run.milestones_eq (run : s.Run trace t) (fresh : s.IsFresh)
    (found : t.dispatcher.jobs[n]? = some job) :
    milestones n trace = job.history ∧ job.outline.Fits := by
  have traced := run.traced fresh
  have atN := Dispatcher.getElem?_entries found
  exact ⟨traced.milestones_eq_history atN, traced.orderly.fits _ (List.mem_of_getElem? atN)⟩

theorem Run.exists_caller (run : s.Run trace t) (fresh : s.IsFresh) {reply : Nat}
    {outcome : Outcome} (posted : .posted reply outcome ∈ milestones n trace) :
    ∃ job, t.dispatcher.jobs[n]? = some job ∧ job.reply = reply := by
  obtain ⟨o, found, -⟩ := (run.traced fresh).exists_entry posted
  obtain ⟨job, atN, rfl⟩ := Dispatcher.exists_job found
  obtain ⟨all, fits⟩ := run.milestones_eq fresh atN
  rw [all] at posted
  refine ⟨job, atN, ?_⟩
  cases accepted : job.isAccepted with
  | true => exact (fits.posted_of_accepted accepted posted).1.symm
  | false =>
      rcases fits.refused accepted with nothing | told
      · exact absurd posted (by simp [show job.history = [] from nothing])
      · rw [show job.history = [_] from told, List.mem_singleton] at posted
        exact (Milestone.posted.inj posted).1.symm

theorem Run.isOver_of_done (run : s.Run trace t) (fresh : s.IsFresh)
    (found : t.dispatcher.jobs[n]? = some job) (accepted : job.isAccepted = true)
    (finished : job.lane = .interactive ∧ milestones n trace ≠ [] ∧
        t.dispatcher.current ≠ some n ∨
      ∃ result, job.progress = .closing .posted result) : job.outline.IsOver := by
  obtain ⟨all, fits⟩ := run.milestones_eq fresh found
  rcases finished with ⟨interactive, turned, left⟩ | ⟨result, progress⟩
  · rw [all] at turned
    by_contra unfinished
    exact left ((run.traced fresh).orderly.current_of_isUnderway
      (Dispatcher.getElem?_entries found) ⟨⟨accepted, interactive⟩, turned, unfinished⟩)
  · exact fits.isOver (Job.posted_mem_history progress)

/-- The caller of a refused command has been told so or can be told, and that is all. -/
theorem Run.told_or_can_tell (run : s.Run trace t) (fresh : s.IsFresh)
    (found : t.dispatcher.jobs[n]? = some job) (refused : job.isAccepted = false) :
    milestones n trace = [.posted job.reply (Dispatcher.refusal job.correlationId)] ∨
      milestones n trace = [] ∧
        ∃ u, Step t [.reached n (.posted job.reply (Dispatcher.refusal job.correlationId))] u := by
  obtain ⟨all, fits⟩ := run.milestones_eq fresh found
  rw [all]
  rcases fits.refused refused with nothing | told
  · have told := Dispatcher.tell?_eq_some_iff.mpr
      ⟨job, found, Job.progress_of_refused refused nothing, rfl⟩
    exact .inr ⟨nothing, _, .tell found told⟩
  · exact .inl told

theorem Run.deliveredOnce (fresh : s.IsFresh) (run : s.Run trace t) :
    DeliveredOnce s trace t where
  posted_le := (run.traced fresh).countP_isPosted_le
  to_caller posted := ⟨run.exists_caller fresh posted, _, Outcome.deliver_noting _⟩
  after_work found accepted posted := by
    obtain ⟨all, fits⟩ := run.milestones_eq fresh found
    rw [all] at posted ⊢
    exact (fits.posted_of_accepted accepted posted).2.2
  by_the_end found accepted finished := by
    rw [(run.milestones_eq fresh found).1]
    exact (run.isOver_of_done fresh found accepted finished).countP_isPosted_eq
  not_stuck found progress served := run.canPost fresh found progress served
  of_refused found refused := ⟨_, rfl, run.told_or_can_tell fresh found refused⟩
  in_order found := (run.traced fresh).exists_ran found
  reacted_once found := (run.traced fresh).reacted_once found
  counted lane label := by
    have all := (run.traced fresh).counted_perm.count_eq (lane, label)
    rw [List.count_append] at all
    simpa [Dispatcher.lanes, Metrics.count, List.flatMap_map] using all
  counted_once found accepted posted := by
    obtain ⟨all, fits⟩ := run.milestones_eq fresh found
    rw [all] at posted
    exact (fits.posted_of_accepted accepted posted).2.1
  not_counted found refused := by
    rcases (run.milestones_eq fresh found).2.refused refused with nothing | told
    · simp [Outline.counted, nothing]
    · simp [Outline.counted, told, Milestone.label?]

theorem sample_deliveredOnce :
    ∃ t, sample.Run sampleTrace t ∧ (milestones 0 sampleTrace).countP Milestone.isPosted = 1 ∧
      DeliveredOnce sample sampleTrace t := by
  obtain ⟨t, run, -⟩ := sample_run
  exact ⟨t, run, rfl, Run.deliveredOnce sample_isFresh run⟩

end System

end Dispatch

end TokenAcquisition
