import TokenAcquisition.Proofs.Dispatch.Lanes

/-!
What is to be seen of a run of the lanes.  It tells for each command just what has been done for
it, for each reply loop what was posted to it and what ran of that, and what was counted.
-/

namespace TokenAcquisition.Dispatch

/-- What was done for a command, if this is it. -/
def Occurrence.milestone? (n : Nat) : Occurrence → Option Milestone
  | .reached m milestone => if m = n then some milestone else none
  | .reacted _ _ _ => none

theorem Occurrence.milestone?_eq_some_iff {occurrence : Occurrence} {n : Nat}
    {milestone : Milestone} :
    occurrence.milestone? n = some milestone ↔ occurrence = .reached n milestone := by
  cases occurrence <;> simp [milestone?]

def Occurrence.post? (reply : Nat) : Occurrence → Option Delivery
  | .reached n (.posted target outcome) =>
      if target = reply then some { job := n, outcome } else none
  | _ => none

def Occurrence.reaction? (reply : Nat) : Occurrence → Option (Nat × Callback.Reaction)
  | .reacted target n reaction => if target = reply then some (n, reaction) else none
  | .reached _ _ => none

/-- What was done for a command, in this order. -/
def milestones (n : Nat) (trace : List Occurrence) : List Milestone :=
  trace.filterMap (Occurrence.milestone? n)

def posts (reply : Nat) (trace : List Occurrence) : List Delivery :=
  trace.filterMap (Occurrence.post? reply)

/-- What the owner of a reply loop asked of callbacks, and of which ones, in this order. -/
def reactions (reply : Nat) (trace : List Occurrence) : List (Nat × Callback.Reaction) :=
  trace.filterMap (Occurrence.reaction? reply)

/-- What a delivery asks of the callback of its command. -/
def Delivery.reactions (delivery : Delivery) : List (Nat × Callback.Reaction) :=
  (delivery.outcome.deliver .noting).map fun reaction => (delivery.job, reaction)

theorem Delivery.reactions_eq (delivery : Delivery) (reply : Nat) :
    ((delivery.outcome.deliver .noting).map (.reacted reply delivery.job)).filterMap
      (Occurrence.reaction? reply) = delivery.reactions := by
  have noted : Occurrence.reaction? reply ∘ Occurrence.reacted reply delivery.job =
      fun reaction => some (delivery.job, reaction) := by
    funext reaction
    simp [Occurrence.reaction?]
  rw [List.filterMap_map, noted, List.filterMap_eq_map']
  rfl

def Milestone.label? : Milestone → Option String
  | .recorded label => some label
  | _ => none

def Outline.counted (o : Outline) : List (String × String) :=
  (o.history.filterMap Milestone.label?).map fun label => (o.lane.label, label)

theorem Outline.counted_extend (o : Outline) (milestone : Milestone) :
    (o.extend milestone).counted =
      o.counted ++ milestone.label?.toList.map fun label => (o.lane.label, label) := by
  cases milestone <;> simp [Outline.counted, Milestone.label?]

theorem Lanes.counted_reach (l : Lanes) (n : Nat) (o : Outline) (milestone : Milestone) :
    (l.reach n o milestone).counted =
      l.counted ++ milestone.label?.toList.map fun label => (o.lane.label, label) := by
  cases milestone <;> simp [Lanes.reach, Milestone.label?]

theorem mem_posts_iff {reply : Nat} {trace : List Occurrence} {delivery : Delivery} :
    delivery ∈ posts reply trace ↔
      .posted reply delivery.outcome ∈ milestones delivery.job trace := by
  simp only [posts, milestones, List.mem_filterMap]
  constructor
  · rintro ⟨occurrence, member, posted⟩
    refine ⟨occurrence, member, ?_⟩
    unfold Occurrence.post? at posted
    split at posted
    next =>
      split at posted
      next same =>
        obtain rfl := Option.some.inj posted
        simp [Occurrence.milestone?, same]
      next => cases posted
    next => cases posted
  · rintro ⟨occurrence, member, posted⟩
    refine ⟨occurrence, member, ?_⟩
    unfold Occurrence.milestone? at posted
    split at posted
    next =>
      split at posted
      next same =>
        obtain rfl := Option.some.inj posted
        simp [Occurrence.post?, same]
      next => cases posted
    next => cases posted

/-- A loop has no more for a command than was posted for it. -/
theorem countP_posts_le (reply n : Nat) (trace : List Occurrence) :
    (posts reply trace).countP (fun delivery => delivery.job = n) ≤
      (milestones n trace).countP Milestone.isPosted := by
  induction trace with
  | nil => exact Nat.le_refl _
  | cons occurrence rest inductionHypothesis =>
      have one : ((occurrence.post? reply).toList.countP fun delivery => delivery.job = n) ≤
          (occurrence.milestone? n).toList.countP Milestone.isPosted := by
        unfold Occurrence.post?
        split
        next m target outcome =>
          by_cases here : m = n
          · simp only [Occurrence.milestone?, here, if_true]
            split <;> simp [Milestone.isPosted]
          · split <;> simp [here]
        next => exact Nat.zero_le _
      have split {β : Type} (f : Occurrence → Option β) :
          (occurrence :: rest).filterMap f = (f occurrence).toList ++ rest.filterMap f := by
        cases seen : f occurrence <;> simp [seen]
      simp only [posts, milestones, split, List.countP_append] at *
      omega

/-- Deliveries were run in the order in which they were posted; while there is someone to run
them, the others wait. -/
structure ReplyLoop.Faithful (loop : ReplyLoop Delivery) (posted ran : List Delivery) : Prop where
  ran_prefix : ran <+: posted
  waiting : loop.isOpen = true → posted = ran ++ loop.waiting
  senders : loop.isOpen = true → loop.senders ≠ 0

namespace ReplyLoop.Faithful

variable {loop rest : ReplyLoop Delivery} {posted ran : List Delivery} {delivery : Delivery}

theorem post (faithful : loop.Faithful posted ran) :
    (loop.post delivery).Faithful (posted ++ [delivery]) ran := by
  cases isOpen : loop.isOpen with
  | false =>
      have same : loop.post delivery = loop := by simp [ReplyLoop.post, isOpen]
      rw [same]
      refine ⟨faithful.ran_prefix.trans (List.prefix_append _ _), ?_, ?_⟩ <;> simp [isOpen]
  | true =>
      have left : loop.post delivery = { loop with waiting := loop.waiting ++ [delivery] } := by
        simp [ReplyLoop.post, isOpen, faithful.senders isOpen]
      rw [left]
      refine ⟨faithful.ran_prefix.trans (List.prefix_append _ _), fun _ => ?_, faithful.senders⟩
      rw [faithful.waiting isOpen, List.append_assoc]

theorem runOnce (faithful : loop.Faithful posted ran)
    (next : loop.runOnce = (.ran delivery, rest)) : rest.Faithful posted (ran ++ [delivery]) := by
  unfold ReplyLoop.runOnce at next
  split at next
  next => cases next
  next isOpen =>
    split at next
    next others waiting =>
      have isOpen : loop.isOpen = true := by simpa using isOpen
      cases next
      have all := faithful.waiting isOpen
      rw [waiting] at all
      exact ⟨⟨others, by simp [all]⟩, fun _ => by simp [all], faithful.senders⟩
    next => split at next <;> cases next

theorem close (faithful : loop.Faithful posted ran) : loop.close.Faithful posted ran :=
  ⟨faithful.ran_prefix, by simp [ReplyLoop.close], by simp [ReplyLoop.close]⟩

end ReplyLoop.Faithful

namespace Lanes

inductive Run (l : Lanes) : List Occurrence → Lanes → Prop where
  | refl : Run l [] l
  | step {trace l' occurrences l''} :
      Run l trace l' → Step l' occurrences l'' → Run l (trace ++ occurrences) l''

structure IsFresh (l : Lanes) : Prop where
  entries : l.entries = []
  current : l.current = none
  session : l.session = none
  replies : ∀ loop ∈ l.replies, loop.waiting = [] ∧ loop.isOpen = true ∧ loop.senders ≠ 0

/-- What is to be seen of a run from its start tells how far the lanes are. -/
structure Traced (start : Lanes) (trace : List Occurrence) (l : Lanes) : Prop where
  orderly : l.Orderly
  milestones_eq : ∀ n, milestones n trace = (l.entries[n]?.map Outline.history).getD []
  counted_perm : l.counted.Perm (start.counted ++ l.entries.flatMap Outline.counted)
  faithful : ∀ {reply loop}, l.replies[reply]? = some loop →
    ∃ ran, loop.Faithful (posts reply trace) ran ∧
      reactions reply trace = ran.flatMap Delivery.reactions

namespace Traced

variable {start l : Lanes} {trace : List Occurrence}

theorem initial (fresh : start.IsFresh) : Traced start [] start where
  orderly := .initial fresh.entries fresh.current fresh.session
  milestones_eq n := by simp [milestones, fresh.entries]
  counted_perm := by simp [fresh.entries]
  faithful found := by
    obtain ⟨waiting, -, senders⟩ := fresh.replies _ (List.mem_of_getElem? found)
    exact ⟨[], ⟨List.nil_prefix, fun _ => waiting.symm, fun _ => senders⟩, rfl⟩

theorem submit (traced : Traced start trace l) {o : Outline} (nothing : o.history = []) :
    Traced start trace { l with entries := l.entries ++ [o] } where
  orderly := traced.orderly.submit nothing
  milestones_eq n := by
    rw [traced.milestones_eq, List.getElem?_append]
    split
    next => rfl
    next outside =>
      rw [List.getElem?_eq_none (by omega), List.getElem?_singleton]
      split <;> simp [nothing]
  counted_perm := by simpa [Outline.counted, nothing] using traced.counted_perm
  faithful := traced.faithful

theorem reach (traced : Traced start trace l) {n : Nat} {o : Outline} {milestone : Milestone}
    (found : l.entries[n]? = some o) (next : o.Next milestone)
    (free : milestone = .received → l.IsFree n) :
    Traced start (trace ++ [.reached n milestone]) (l.reach n o milestone) where
  orderly := traced.orderly.reach found next free
  milestones_eq k := by
    have inside := (List.getElem?_eq_some_iff.mp found).1
    have before := traced.milestones_eq k
    simp only [milestones, entries_reach, List.filterMap_append] at *
    by_cases same : n = k
    · subst same
      rw [found] at before
      simp [before, inside, Occurrence.milestone?]
    · simp [before, same, Occurrence.milestone?, List.getElem?_set_ne same]
  counted_perm := by
    refine Lists.perm_of_countP fun p => ?_
    have before := traced.counted_perm.countP_eq p
    have moved := Lists.countP_flatMap_set (o.extend milestone) Outline.counted p found
    rw [o.counted_extend] at moved
    simp only [counted_reach, entries_reach, List.countP_append] at *
    omega
  faithful := by
    intro reply loop atReply
    have quiet : reactions reply (trace ++ [.reached n milestone]) = reactions reply trace := by
      simp [reactions, Occurrence.reaction?]
    rw [quiet]
    -- Nothing but an outcome reaches a loop, and only that of its caller.
    cases milestone with
    | posted target outcome =>
        by_cases same : target = reply
        · subst same
          obtain ⟨loop, before, rfl⟩ : ∃ loop', l.replies[target]? = some loop' ∧
              loop'.post { job := n, outcome } = loop := by
            simpa [Lanes.reach, List.getElem?_modify] using atReply
          obtain ⟨ran, faithful, told⟩ := traced.faithful before
          refine ⟨ran, ?_, told⟩
          simpa [posts, Occurrence.post?] using faithful.post
        · have before : l.replies[reply]? = some loop := by
            simpa [Lanes.reach, List.getElem?_modify, same] using atReply
          simpa [posts, Occurrence.post?, same] using traced.faithful before
    | _ => simpa [posts, List.filterMap_cons, Occurrence.post?] using traced.faithful atReply

theorem deliver (traced : Traced start trace l) {reply : Nat} {loop rest : ReplyLoop Delivery}
    {delivery : Delivery} (found : l.replies[reply]? = some loop)
    (next : loop.runOnce = (.ran delivery, rest)) :
    Traced start
      (trace ++ (delivery.outcome.deliver .noting).map (.reacted reply delivery.job))
      { l with replies := l.replies.set reply rest } where
  orderly := traced.orderly.replies _
  milestones_eq n := by simp [milestones, Occurrence.milestone?, ← traced.milestones_eq n]
  counted_perm := traced.counted_perm
  faithful := by
    intro other loop' atOther
    have unposted : posts other (trace ++ (delivery.outcome.deliver .noting).map
        (.reacted reply delivery.job)) = posts other trace := by
      simp [posts, Occurrence.post?]
    rw [unposted]
    rcases Lists.getElem?_set_cases atOther with ⟨rfl, rfl⟩ | ⟨different, before⟩
    · obtain ⟨ran, faithful, told⟩ := traced.faithful found
      refine ⟨ran ++ [delivery], faithful.runOnce next, ?_⟩
      simp only [reactions, List.filterMap_append, delivery.reactions_eq] at *
      simp [told]
    · obtain ⟨ran, faithful, told⟩ := traced.faithful before
      refine ⟨ran, faithful, ?_⟩
      simp only [reactions, List.filterMap_append] at *
      simp [told, Occurrence.reaction?, Ne.symm different]

theorem closeLoop (traced : Traced start trace l) (reply : Nat) :
    Traced start trace { l with replies := l.replies.modify reply ReplyLoop.close } where
  orderly := traced.orderly.replies _
  milestones_eq := traced.milestones_eq
  counted_perm := traced.counted_perm
  faithful := by
    intro other loop atOther
    by_cases same : reply = other
    · subst same
      obtain ⟨loop, before, rfl⟩ : ∃ loop', l.replies[reply]? = some loop' ∧
          loop'.close = loop := by
        simpa [List.getElem?_modify] using atOther
      obtain ⟨ran, faithful, told⟩ := traced.faithful before
      exact ⟨ran, faithful.close, told⟩
    · have before : l.replies[other]? = some loop := by
        simpa [List.getElem?_modify, same] using atOther
      exact traced.faithful before

theorem milestones_eq_history (traced : Traced start trace l) {n : Nat} {o : Outline}
    (found : l.entries[n]? = some o) : milestones n trace = o.history := by
  simp [traced.milestones_eq n, found]

theorem exists_entry (traced : Traced start trace l) {n : Nat} {milestone : Milestone}
    (member : milestone ∈ milestones n trace) :
    ∃ o, l.entries[n]? = some o ∧ milestone ∈ o.history := by
  rw [traced.milestones_eq] at member
  cases found : l.entries[n]? with
  | none => simp [found] at member
  | some o => exact ⟨o, rfl, by simpa [found] using member⟩

theorem countP_isPosted_le (traced : Traced start trace l) (n : Nat) :
    (milestones n trace).countP Milestone.isPosted ≤ 1 := by
  rw [traced.milestones_eq n]
  cases found : l.entries[n]? with
  | none => simp
  | some o => exact (traced.orderly.fits o (List.mem_of_getElem? found)).countP_isPosted_le

end Traced

theorem Run.traced {start l : Lanes} {trace : List Occurrence} (run : start.Run trace l)
    (fresh : start.IsFresh) : Traced start trace l := by
  induction run with
  | refl => exact .initial fresh
  | step _ last inductionHypothesis =>
      cases last with
      | submit nothing => simpa using inductionHypothesis.submit nothing
      | reach found next free => exact inductionHypothesis.reach found next free
      | deliver found next => exact inductionHypothesis.deliver found next
      | closeLoop reply => simpa using inductionHypothesis.closeLoop reply

end Lanes

end TokenAcquisition.Dispatch
