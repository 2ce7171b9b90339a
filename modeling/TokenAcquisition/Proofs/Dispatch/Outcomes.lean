import TokenAcquisition.Command

/-!
What the caller of a command is told, by the way its task ended.
-/

namespace TokenAcquisition

namespace Raised

open Layer

theorem exists_texts {layers : List Layer} (untyped : ∀ layer ∈ layers, layer.typed? = none) :
    ∃ texts : List String, layers = texts.map text := by
  induction layers with
  | nil => exact ⟨[], rfl⟩
  | cons layer rest inductionHypothesis =>
      obtain ⟨texts, same⟩ := inductionHypothesis fun layer member => untyped layer (.tail _ member)
      cases layer with
      | typed failure => cases untyped _ (.head _)
      | text message => exact ⟨message :: texts, by rw [same, List.map_cons]⟩

theorem typed?_of_mem_texts {texts : List String} {layer : Layer}
    (member : layer ∈ texts.map text) : layer.typed? = none := by
  obtain ⟨message, -, rfl⟩ := List.mem_map.mp member
  rfl

theorem map_message_texts (texts : List String) : (texts.map text).map message = texts := by
  rw [List.map_map]
  exact List.map_id texts

/-- A failure is found under texts only. -/
theorem typed?_eq_some_iff {raised : Raised} {failure : Failure} :
    raised.typed? = some failure ↔
      ∃ (texts : List String) (inner : List Layer),
        raised.layers = texts.map text ++ .typed failure :: inner := by
  rw [typed?, List.findSome?_eq_some_iff]
  constructor
  · rintro ⟨outer, layer, inner, whole, found, untyped⟩
    obtain ⟨texts, rfl⟩ := exists_texts untyped
    cases layer with
    | typed failure =>
        cases found
        exact ⟨texts, inner, whole⟩
    | text message => cases found
  · rintro ⟨texts, inner, whole⟩
    exact ⟨texts.map text, .typed failure, inner, whole, rfl, fun _ => typed?_of_mem_texts⟩

theorem typed?_eq_none_iff {raised : Raised} :
    raised.typed? = none ↔ ∃ texts : List String, raised.layers = texts.map text := by
  rw [typed?, List.findSome?_eq_none_iff]
  constructor
  · exact exists_texts
  · rintro ⟨texts, whole⟩ layer member
    exact typed?_of_mem_texts (whole ▸ member)

end Raised

/-- Only a new sign-in helps. -/
structure TokenError.RejectsGrant (e : TokenError) : Prop where
  error : Text.sameIgnoringCase e.error "invalid_grant" = true
  suberror : ∃ s, e.suberror = some s ∧ Text.sameIgnoringCase s "bad_token" = true

theorem TokenError.rejectsGrant_iff (e : TokenError) : e.RejectsGrant ↔ e.isBadToken = true := by
  rw [isBadToken, TokenAcquisition.isBadToken, Bool.and_eq_true, Option.any_eq_true]
  exact ⟨fun rejects => ⟨rejects.error, rejects.suberror⟩, fun both => ⟨both.1, both.2⟩⟩

namespace Acquisition

variable {a : Acquisition} {e : TokenError}

/-- Nothing went wrong in the authorization leg, as far as it came. -/
structure Unobjected (a : Acquisition) : Prop where
  uncancelled : a.authorization ≠ some .cancel
  unrefused (e : AuthorizationError) : a.authorization ≠ some (.error e)

theorem failure_of_refused {e : AuthorizationError} (refused : a.authorization = some (.error e)) :
    a.failure = .service e.error e.subcode e.message := by
  rw [failure, refused]

/-- Where nothing went wrong in the authorization leg, the token leg decides. -/
theorem failure_of_unobjected (unobjected : a.Unobjected) :
    a.failure =
      match a.token with
      | some (.error e) =>
          if e.isBadToken then .uiRequired e.error e.suberror e.message
          else (Failure.service e.error e.suberror e.message).withStatus e.status
      | _ =>
          .unknown "unknown_error: token acquisition failed without an error response" [] := by
  unfold failure
  split
  next cancelled => exact absurd cancelled unobjected.uncancelled
  next e refused => exact absurd refused (unobjected.unrefused e)
  next => rfl

theorem failure_of_rejected (unobjected : a.Unobjected) (failed : a.token = some (.error e))
    (rejects : e.RejectsGrant) : a.failure = .uiRequired e.error e.suberror e.message := by
  rw [failure_of_unobjected unobjected, failed]
  exact if_pos (e.rejectsGrant_iff.mp rejects)

theorem failure_of_failed (unobjected : a.Unobjected) (failed : a.token = some (.error e))
    (accepts : ¬ e.RejectsGrant) :
    a.failure = (Failure.service e.error e.suberror e.message).withStatus e.status := by
  rw [failure_of_unobjected unobjected, failed]
  exact if_neg fun bad => accepts (e.rejectsGrant_iff.mpr bad)

theorem failure_of_errorless (unobjected : a.Unobjected)
    (unfailed : ∀ e, a.token ≠ some (.error e)) :
    a.failure =
      .unknown "unknown_error: token acquisition failed without an error response" [] := by
  rw [failure_of_unobjected unobjected]
  split
  next e failed => exact absurd failed (unfailed e)
  next => rfl

end Acquisition

namespace Outcome

/-- What the caller of the command `id` is told of the end of its task. -/
inductive Tells (id : String) : TaskEnd → Outcome → Prop
  | success {a : Acquisition} {authentication : Authentication}
      (got : a.local? = some authentication) : Tells id (.returned a) (.success authentication)
  | cancel {a : Acquisition} (tokenless : a.local? = none)
      (cancelled : a.authorization = some .cancel) : Tells id (.returned a) .cancel
  | refused {a : Acquisition} {e : AuthorizationError} (tokenless : a.local? = none)
      (refused : a.authorization = some (.error e)) :
      Tells id (.returned a)
        (.error
          ⟨.service e.error e.subcode ((e.description <|> e.subcode).getD e.error) none, some id⟩)
  | rejected {a : Acquisition} {e : TokenError} (tokenless : a.local? = none)
      (unobjected : a.Unobjected) (failed : a.token = some (.error e)) (rejects : e.RejectsGrant) :
      Tells id (.returned a)
        (.error ⟨.uiRequired e.error e.suberror (e.description.getD e.error), some id⟩)
  | failed {a : Acquisition} {e : TokenError} (tokenless : a.local? = none)
      (unobjected : a.Unobjected) (failed : a.token = some (.error e))
      (accepts : ¬ e.RejectsGrant) :
      Tells id (.returned a)
        (.error
          ⟨.service e.error e.suberror (e.description.getD e.error) (some e.status), some id⟩)
  | errorless {a : Acquisition} (tokenless : a.local? = none) (unobjected : a.Unobjected)
      (unfailed : ∀ e, a.token ≠ some (.error e)) :
      Tells id (.returned a)
        (.error
          ⟨.unknown "unknown_error: token acquisition failed without an error response" [],
            some id⟩)
  /-- A failure of this library stays what it is, under any texts around it. -/
  | typed {raised : Raised} {texts : List String} {failure : Failure} {inner : List Raised.Layer}
      (whole : raised.layers = texts.map .text ++ .typed failure :: inner) :
      Tells id (.failed raised)
        (.error ⟨failure.cause, some (failure.correlationId.getD id)⟩)
  /-- Any other error is kept whole, as what caused the failure. -/
  | foreign {raised : Raised} {outermost : String} {texts : List String}
      (whole : raised.layers = .text outermost :: texts.map .text) :
      Tells id (.failed raised) (.error ⟨.unknown outermost (outermost :: texts), some id⟩)
  | panicked {payload : Option String} {message : String}
      (said : payload.getD "non-string panic payload" = message) :
      Tells id (.panicked payload)
        (.error ⟨.unknown ("command panicked: " ++ message) [message], some id⟩)
  | aborted {message : String} :
      Tells id (.aborted message) (.error ⟨.unknown message [message], some id⟩)

variable {id : String} {task : TaskEnd} {outcome : Outcome} {a : Acquisition}

theorem ofTask_success {authentication : Authentication} (got : a.local? = some authentication) :
    ofTask (some id) (.returned a) = .success authentication := by
  simp only [ofTask, TaskEnd.work, ofWork, got]

theorem ofTask_cancel (tokenless : a.local? = none) (cancelled : a.authorization = some .cancel) :
    ofTask (some id) (.returned a) = .cancel := by
  simp only [ofTask, TaskEnd.work, ofWork, tokenless, Acquisition.failure, cancelled]
  rfl

theorem ofTask_failure {failure : Failure} (tokenless : a.local? = none)
    (stands : a.failure = failure) (given : failure.cause ≠ .userCancel) :
    ofTask (some id) (.returned a) = .error (failure.stamped (some id)) := by
  subst stands
  simp only [ofTask, TaskEnd.work, ofWork, tokenless]

theorem ofTask_typed {raised : Raised} {failure : Failure} (found : raised.typed? = some failure) :
    ofTask (some id) (.failed raised) =
      .error ⟨failure.cause, some (failure.correlationId.getD id)⟩ := by
  have stamp : (failure.correlationId <|> some id) = some (failure.correlationId.getD id) := by
    cases failure.correlationId <;> rfl
  simp only [ofTask, TaskEnd.work, ofWork, Raised.breakdown, found, Breakdown.failure,
    Failure.stamped, stamp]

theorem ofTask_foreign {raised : Raised} (untyped : raised.typed? = none) :
    ofTask (some id) (.failed raised) =
      .error ⟨.unknown raised.outermost.message (raised.layers.map Raised.Layer.message),
        some id⟩ := by
  simp only [ofTask, TaskEnd.work, ofWork, Raised.breakdown, untyped]
  rfl

theorem Tells.outcome_eq (tells : Tells id task outcome) : ofTask (some id) task = outcome := by
  cases tells with
  | success got => exact ofTask_success got
  | cancel tokenless cancelled => exact ofTask_cancel tokenless cancelled
  | refused tokenless refused =>
      exact ofTask_failure tokenless (Acquisition.failure_of_refused refused) nofun
  | rejected tokenless unobjected failed rejects =>
      exact ofTask_failure tokenless (Acquisition.failure_of_rejected unobjected failed rejects)
        nofun
  | failed tokenless unobjected failed accepts =>
      exact ofTask_failure tokenless (Acquisition.failure_of_failed unobjected failed accepts) nofun
  | errorless tokenless unobjected unfailed =>
      exact ofTask_failure tokenless (Acquisition.failure_of_errorless unobjected unfailed) nofun
  | typed whole => exact ofTask_typed (Raised.typed?_eq_some_iff.mpr ⟨_, _, whole⟩)
  | @foreign raised outermost texts whole =>
      have untyped := Raised.typed?_eq_none_iff.mpr ⟨outermost :: texts, whole⟩
      have first : raised.outermost = .text outermost := (List.cons.inj whole).1
      rw [ofTask_foreign untyped, first, whole, ← List.map_cons, Raised.map_message_texts]
      rfl
  | panicked said =>
      subst said
      rfl
  | aborted => rfl

/-- An attempt without tokens is told of in one of five ways. -/
theorem exists_tells_returned (tokenless : a.local? = none) :
    ∃ outcome, Tells id (.returned a) outcome := by
  by_cases unobjected : a.Unobjected
  · by_cases unfailed : ∀ e, a.token ≠ some (.error e)
    · exact ⟨_, .errorless tokenless unobjected unfailed⟩
    · obtain ⟨e, failed⟩ := Classical.not_forall_not.mp unfailed
      by_cases rejects : e.RejectsGrant
      · exact ⟨_, .rejected tokenless unobjected failed rejects⟩
      · exact ⟨_, .failed tokenless unobjected failed rejects⟩
  · by_cases cancelled : a.authorization = some .cancel
    · exact ⟨_, .cancel tokenless cancelled⟩
    · obtain ⟨e, refused⟩ : ∃ e, a.authorization = some (.error e) :=
        Classical.not_forall_not.mp fun unrefused => unobjected ⟨cancelled, unrefused⟩
      exact ⟨_, .refused tokenless refused⟩

theorem exists_tells_failed (raised : Raised) : ∃ outcome, Tells id (.failed raised) outcome := by
  cases found : raised.typed? with
  | some failure =>
      obtain ⟨texts, inner, whole⟩ := Raised.typed?_eq_some_iff.mp found
      exact ⟨_, .typed whole⟩
  | none =>
      obtain ⟨_ | ⟨outermost, texts⟩, whole⟩ := Raised.typed?_eq_none_iff.mp found
      · cases whole
      · exact ⟨_, .foreign whole⟩

/-- However its task ends, the caller of a command is told. -/
theorem exists_tells (id : String) (task : TaskEnd) : ∃ outcome, Tells id task outcome := by
  cases task with
  | returned a =>
      cases got : a.local? with
      | some authentication => exact ⟨_, .success got⟩
      | none => exact exists_tells_returned got
  | failed raised => exact exists_tells_failed raised
  | panicked payload => exact ⟨_, .panicked rfl⟩
  | aborted message => exact ⟨_, .aborted⟩

theorem ofTask_eq_iff : ofTask (some id) task = outcome ↔ Tells id task outcome := by
  refine ⟨?_, Tells.outcome_eq⟩
  obtain ⟨other, tells⟩ := exists_tells id task
  rintro rfl
  rwa [tells.outcome_eq]

/-- What the caller of the command `id` is told is decided by the end of its task alone: which
tokens it has, which leg went wrong, which failure it raised. -/
structure Decided (id : String) (task : TaskEnd) : Prop where
  exact (outcome : Outcome) : ofTask (some id) task = outcome ↔ Tells id task outcome
  success (authentication : Authentication) :
    ofTask (some id) task = .success authentication ↔
      ∃ a, task = .returned a ∧ a.local? = some authentication
  cancel :
    ofTask (some id) task = .cancel ↔
      ∃ a, task = .returned a ∧ a.local? = none ∧ a.authorization = some .cancel

theorem decided (id : String) (task : TaskEnd) : Decided id task := by
  constructor
  case exact => exact fun outcome => ofTask_eq_iff
  case success =>
    refine fun authentication => ⟨fun told => ?_, ?_⟩
    · cases ofTask_eq_iff.mp told with
      | success got => exact ⟨_, rfl, got⟩
    · rintro ⟨a, rfl, got⟩
      exact ofTask_success got
  case cancel =>
    refine ⟨fun told => ?_, ?_⟩
    · cases ofTask_eq_iff.mp told with
      | cancel tokenless cancelled => exact ⟨_, rfl, tokenless, cancelled⟩
    · rintro ⟨a, rfl, tokenless, cancelled⟩
      exact ofTask_cancel tokenless cancelled

end Outcome

end TokenAcquisition
