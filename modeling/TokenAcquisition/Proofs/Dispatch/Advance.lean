import TokenAcquisition.Proofs.Dispatch.Cache

/-!
What nothing keeps a command from.  Where the cache is free and can be written, a command comes
further on its own, whatever it asks for; the others stay where they are.
-/

namespace TokenAcquisition.Dispatch

variable {s t u : System} {m n : Nat} {job : Job} {dealings more : List Dealing}
  {program program' : Program (Except Breakdown Acquisition)} {store store' : Store}
  {transport transport' : List TransportAnswer}

namespace Dispatcher

variable {d : Dispatcher}

theorem advance?_sleep {milliseconds deadline : Nat} {next : Program (Except Breakdown Acquisition)}
    (found : d.jobs[m]? = some job) (progress : job.progress = .running (.sleep milliseconds next))
    (due : job.deadline = some deadline) (passed : deadline ≤ d.clock) :
    d.advance? m = some (d.resume m job next) := by
  simp only [advance?, found, progress, due, if_pos passed]

theorem advance?_save {clientId : String} {credential : Credential}
    {metadata : Option AppMetadata}
    {next : Except Failure Unit → Program (Except Breakdown Acquisition)}
    (found : d.jobs[m]? = some job)
    (progress : job.progress = .running (.save clientId credential metadata next)) :
    d.advance? m =
      d.change? m job (some (d.cache.store.save clientId credential metadata)) next := by
  simp only [advance?, found, progress]

theorem advance?_invalidate {clientId : String} {account : Account}
    {next : Except Failure Unit → Program (Except Breakdown Acquisition)}
    (found : d.jobs[m]? = some job)
    (progress : job.progress = .running (.invalidate clientId account next)) :
    d.advance? m = d.change? m job (d.cache.store.invalidate? clientId account) next := by
  simp only [advance?, found, progress]

end Dispatcher

/-- A command has come to a program, and nothing is in its way. -/
structure Stands (m : Nat) (program : Program (Except Breakdown Acquisition)) (s : System) :
    Prop where
  exists_job : ∃ job, s.dispatcher.jobs[m]? = some job ∧ job.progress = .running program ∧
    job.deadline = none
  free : s.dispatcher.lock = none
  idle : s.dispatcher.write = .none
  writable : s.dispatcher.cache.file.IsWritable

/-- A command has come to a program on its own, with what it dealt with on its way. -/
structure Goes (m : Nat) (s : System) (dealings : List Dealing)
    (program : Program (Except Breakdown Acquisition)) (store : Store)
    (transport : List TransportAnswer) (t : System) : Prop where
  deals : Deals m s dealings t
  stands : Stands m program t
  others : ∀ n, n ≠ m → t.dispatcher.jobs[n]? = s.dispatcher.jobs[n]?
  store : t.store = store
  transport : t.dispatcher.transport = transport

namespace Goes

theorem trans (goes : Goes m s dealings program store transport t)
    (further : Goes m t more program' store' transport' u) :
    Goes m s (dealings ++ more) program' store' transport' u where
  deals := goes.deals.trans further.deals
  stands := further.stands
  others n other := (further.others n other).trans (goes.others n other)
  store := further.store
  transport := further.transport

theorem reaches (goes : Goes m s dealings program store transport t) : s.Reaches t :=
  goes.deals.exists_run

/-- Another command stays where it is. -/
theorem stands_other (goes : Goes m s dealings program store transport t)
    (stands : Stands n program' s) (other : n ≠ m) : Stands n program' t := by
  obtain ⟨job, found, rest⟩ := stands.exists_job
  exact ⟨⟨job, (goes.others n other).trans found, rest⟩, goes.stands.free, goes.stands.idle,
    goes.stands.writable⟩

/-- What another command does is nothing to it. -/
theorem deals_other (goes : Goes m s dealings program store transport t)
    (deals : Deals n u more s) (stands : Stands n program' s) (other : n ≠ m) :
    Deals n u more t := by
  obtain ⟨_, run⟩ := goes.reaches
  obtain ⟨job, found, progress, -⟩ := stands.exists_job
  obtain ⟨job', found', progress', -⟩ := (goes.stands_other stands other).exists_job
  exact deals.of_same run found progress found' progress'

end Goes

/-- The last answer to a command lets it go on where nothing is in its way. -/
theorem Goes.of_deal {d : Dispatcher} {dealing : Dealing} (deals : Deals m s dealings u)
    (others : ∀ n, n ≠ m → u.dispatcher.jobs[n]? = s.dispatcher.jobs[n]?)
    (found : u.dispatcher.jobs[m]? = some job) (progress : job.progress = .running program)
    (isLocal : IsLocal program)
    (advanced : u.dispatcher.advance? m = some (d.resume m job program'))
    (step : program.Step dealing program') (gives : u.Gives m dealing)
    (jobs : d.jobs = u.dispatcher.jobs) (free : d.lock = none) (idle : d.write = .none)
    (writable : d.cache.file.IsWritable) :
    Goes m s (dealings ++ [dealing]) program' d.cache.store d.transport
      { u with dispatcher := d.resume m job program' } := by
  have atEnd : (d.resume m job program').jobs[m]? =
      some { job with progress := .running program', deadline := none } :=
    Dispatcher.getElem?_setJob _ (jobs ▸ found)
  refine ⟨deals.deal (.work found progress isLocal advanced) found atEnd progress rfl step gives,
    ⟨⟨_, atEnd, rfl, rfl⟩, free, idle, writable⟩, fun n other => ?_, rfl, rfl⟩
  rw [← others n other, ← jobs]
  exact List.getElem?_set_ne (Ne.symm other)

namespace Stands

/-- A command is told the time. -/
theorem dates {next : UInt64 → Program (Except Breakdown Acquisition)}
    (stands : Stands m (.now next) s) :
    ∃ t, Goes m s [.now s.dispatcher.now] (next s.dispatcher.now) s.store s.dispatcher.transport
      t := by
  obtain ⟨⟨job, found, progress, -⟩, free, idle, writable⟩ := stands
  exact ⟨_, .of_deal .start (fun _ _ => rfl) found progress trivial
    (Dispatcher.advance?_now found progress) (.now _) rfl rfl free idle writable⟩

/-- Time passes for a command, and nothing else changes. -/
theorem passes (stands : Stands m program s) (now : UInt64) :
    ∃ t, Goes m s [] program s.store s.dispatcher.transport t ∧ t.dispatcher.now = now := by
  obtain ⟨⟨job, found, progress, awake⟩, free, idle, writable⟩ := stands
  have passed := (Deals.start (n := m) (s := s)).further (.pass s.dispatcher.clock now
    s.dispatcher.transport s.dispatcher.agents s.dispatcher.launchAnswer s.dispatcher.supply
    s.dispatcher.launches) found found .stay
  exact ⟨_, ⟨passed, ⟨⟨job, found, progress, awake⟩, free, idle, writable⟩, fun _ _ => rfl, rfl,
    rfl⟩, rfl⟩

/-- A command is told what the cache holds. -/
theorem looks {clientId : String} {account : Account}
    {next : Lookup → Program (Except Breakdown Acquisition)}
    (stands : Stands m (.lookup clientId account next) s) :
    ∃ t, Goes m s [.lookedUp clientId account (s.store.lookup clientId account)]
      (next (s.store.lookup clientId account)) s.store s.dispatcher.transport t := by
  obtain ⟨⟨job, found, progress, -⟩, free, idle, writable⟩ := stands
  have wants : job.progress.WantsCache := progress ▸ rfl
  have given := (Deals.start (n := m) (s := s)).further
    (.acquire (Dispatcher.acquire?_eq_some_iff.mpr ⟨free, job, found, wants, rfl⟩)) found found
    .stay
  have advanced : Dispatcher.advance? { s.dispatcher with lock := some m } m =
      some (Dispatcher.resume { s.dispatcher with lock := none } m job
        (next (s.store.lookup clientId account))) := by
    simp only [Dispatcher.advance?, found, progress, if_pos, System.store]
  have goes := Goes.of_deal given (fun _ _ => rfl) found progress trivial advanced (.lookup _)
    ⟨rfl, rfl⟩ rfl rfl idle writable
  exact ⟨_, goes⟩

/-- A command rests. -/
theorem rests {milliseconds : Nat} {next : Program (Except Breakdown Acquisition)}
    (stands : Stands m (.sleep milliseconds next) s) :
    ∃ t, Goes m s [.slept milliseconds] next s.store s.dispatcher.transport t := by
  obtain ⟨⟨job, found, progress, awake⟩, free, idle, writable⟩ := stands
  let deadline := s.dispatcher.clock + milliseconds
  have falls : s.dispatcher.advance? m =
      some (s.dispatcher.setJob m { job with deadline := some deadline }) := by
    simp only [Dispatcher.advance?, found, progress, awake, deadline]
  have asleep := Dispatcher.getElem?_setJob { job with deadline := some deadline } found
  have begun := (Deals.start (n := m) (s := s)).further (.work found progress trivial falls) found
    asleep .stay
  have passed := begun.further (.pass deadline s.dispatcher.now s.dispatcher.transport
    s.dispatcher.agents s.dispatcher.launchAnswer s.dispatcher.supply s.dispatcher.launches) asleep
    asleep .stay
  have goes := Goes.of_deal passed (fun n other => List.getElem?_set_ne (Ne.symm other)) asleep
    progress trivial (Dispatcher.advance?_sleep asleep progress rfl (Nat.le_refl _)) .sleep trivial
    rfl free idle writable
  exact ⟨_, goes⟩

/-- A command is told what the service answers. -/
theorem asks {request : TokenRequest} {response : HttpResponse} {delay : Nat}
    {rest : List TransportAnswer}
    {next : Except Failure HttpResponse → Program (Except Breakdown Acquisition)}
    (stands : Stands m (.post request next) s)
    (answers : s.dispatcher.transport = .respond response delay :: rest) :
    ∃ t, Goes m s [.posted request (.respond response delay), .slept delay] (next (.ok response))
      s.store rest t := by
  obtain ⟨⟨job, found, progress, -⟩, free, idle, writable⟩ := stands
  have advanced := Dispatcher.advance?_post found progress
  rw [answers] at advanced
  have posted := Goes.of_deal .start (fun _ _ => rfl) found progress trivial advanced
    (.post (.respond response delay)) (by rw [System.Gives, answers]; rfl) rfl free idle writable
  obtain ⟨t, slept⟩ := posted.stands.rests
  exact ⟨t, posted.trans slept⟩

/-- A command that asks the cache for another store gets it. -/
theorem changes {dealing : Dealing}
    {next : Except Failure Unit → Program (Except Breakdown Acquisition)}
    (stands : Stands m program s) (changed : program.changed? s.store = some store)
    (asks : ∀ (d : Dispatcher) (job : Job), d.jobs[m]? = some job →
      job.progress = .running program →
        ∃ store?, d.advance? m = d.change? m job store? next)
    (step : program.Step dealing (next (.ok ())))
    (gives : ∀ u : System, u.dispatcher.lock = some m → u.dispatcher.write = .ended (.ok ()) →
      u.Gives m dealing) :
    ∃ taken after t, Deals m s [] taken ∧ taken.Takes m program after ∧ taken.store = s.store ∧
      after.Reaches t ∧ Goes m s [dealing] (next (.ok ())) store s.dispatcher.transport t := by
  obtain ⟨⟨job, found, progress, -⟩, free, idle, writable⟩ := stands
  have change := Program.isChange_of_changed? changed
  have wants : job.progress.WantsCache := progress ▸ change.needsCache
  have given := (Deals.start (n := m) (s := s)).further
    (.acquire (Dispatcher.acquire?_eq_some_iff.mpr ⟨free, job, found, wants, rfl⟩)) found found
    .stay
  let taken : System := { s with dispatcher := { s.dispatcher with lock := some m } }
  let after : System :=
    { taken with
      dispatcher :=
        { taken.dispatcher with cache := { s.dispatcher.cache with store }, write := .underWay } }
  have takes : taken.Takes m program after :=
    ⟨⟨job, found, progress⟩, rfl, idle, store, changed, rfl⟩
  let cache : Cache := { store, file := s.dispatcher.cache.file.holding store }
  let written : System :=
    { after with dispatcher := { after.dispatcher with cache, write := .ended (.ok ()) } }
  have writes : after.Step [] written :=
    .endWrite (Dispatcher.endWrite?_of_isWritable (d := after.dispatcher) rfl writable)
  have deals := (given.further takes.step found found .stay).further writes found found .stay
  obtain ⟨store?, advances⟩ := asks written.dispatcher job found progress
  have advanced : written.dispatcher.advance? m =
      some (Dispatcher.resume { s.dispatcher with cache, write := .none, lock := none } m job
        (next (.ok ()))) := by
    rw [advances]
    simp [Dispatcher.change?, written, after, taken]
  have isLocal : IsLocal program := by
    cases program <;> first | exact trivial | cases change
  have goes := Goes.of_deal deals (fun _ _ => rfl) found progress isLocal advanced step
    (gives _ rfl rfl) rfl rfl rfl (writable.holding store)
  have answered : written.Step [] _ := .work found progress isLocal advanced
  exact ⟨taken, after, _, given, takes, rfl, writes.reaches.trans answered.reaches, goes⟩

/-- A command saves a credential. -/
theorem saves {clientId : String} {credential : Credential} {metadata : Option AppMetadata}
    {next : Except Failure Unit → Program (Except Breakdown Acquisition)}
    (stands : Stands m (.save clientId credential metadata next) s) :
    ∃ taken after t, Deals m s [] taken ∧
      taken.Takes m (.save clientId credential metadata next) after ∧ taken.store = s.store ∧
      after.Reaches t ∧
      Goes m s [.saved clientId credential metadata (.ok ())] (next (.ok ()))
        (s.store.save clientId credential metadata) s.dispatcher.transport t :=
  stands.changes rfl (fun _ _ found progress => ⟨_, Dispatcher.advance?_save found progress⟩)
    (.save _) fun _ held ended => ⟨held, ended⟩

/-- A command drops the tokens of an account. -/
theorem drops {clientId : String} {account : Account}
    {next : Except Failure Unit → Program (Except Breakdown Acquisition)}
    (stands : Stands m (.invalidate clientId account next) s)
    (dropped : s.store.invalidate? clientId account = some store) :
    ∃ taken after t, Deals m s [] taken ∧
      taken.Takes m (.invalidate clientId account next) after ∧ taken.store = s.store ∧
      after.Reaches t ∧
      Goes m s [.invalidated clientId account (.ok ())] (next (.ok ())) store
        s.dispatcher.transport t :=
  stands.changes dropped
    (fun _ _ found progress => ⟨_, Dispatcher.advance?_invalidate found progress⟩)
    (.invalidate _) fun _ held ended => ⟨held, .inl ended⟩

end Stands

end TokenAcquisition.Dispatch
