import TokenAcquisition.Proofs.Credential.Expiry
import TokenAcquisition.Proofs.Dispatch.Commands
import TokenAcquisition.Proofs.Dispatch.Invalidation

/-!
What was acquired is what the cache serves.  Once a command has come to tokens of the service, a
silent command for the same account is given them again, without another request, for as long as
nobody touches what is stored under their key: in the same process or in one that was started from
the cache file.  It is given them up to five minutes before their end and for scopes that were
granted.  At any other time, and for other scopes, it is given what the service answers.
-/

namespace TokenAcquisition

/-- What a caller is told of tokens that it was given before. -/
def Authentication.again (given : Authentication) (bound : Option String) : Authentication :=
  { given with correlationId := bound, fromCache := true }

namespace TokenResponse

variable {tokens : TokenResponse} {account : Account} {requested scopes : List String}
  {time now : UInt64}

/-- Tokens that came at some time can be served at another: they last for five more minutes, and
they were granted for the scopes. -/
structure Serves (tokens : TokenResponse) (requested : List String) (time now : UInt64)
    (scopes : List String) : Prop where
  lasting : now.toNat + 300000 <
    min (time.toNat + 1000 * (tokens.expiresIn.getD 0).toNat) (UInt64.size - 1)
  covered : ∀ scope ∈ scopes, ∃ granted ∈ tokens.granted requested,
    Text.sameIgnoringCase granted scope = true

/-- The credential that is cached of tokens is valid just as long as they can be served. -/
theorem hasValidAccessToken_credential (filled : tokens.accessToken ≠ "")
    (refreshToken : Option Secret) :
    Credential.hasValidAccessToken
        { tokens.credential account requested time with refreshToken } scopes now = .ok true ↔
      tokens.Serves requested time now scopes := by
  have own : Secret.isFilled ⟨tokens.accessToken⟩ = true := by
    simp [Secret.isFilled, filled]
  rw [Credential.hasValidAccessToken_eq_true_iff]
  constructor
  · intro serves
    have lasting := serves.lasting
    rw [credential, toNat_expiresOn] at lasting
    exact ⟨lasting, serves.covered⟩
  · intro serves
    refine ⟨⟨_, rfl, own⟩, ?_, serves.covered⟩
    rw [credential, toNat_expiresOn]
    exact serves.lasting

end TokenResponse

namespace Operation

/-- The user id that is noted with applications is one of 32 bits. -/
def Fits (op : Operation) : Prop :=
  -2147483648 ≤ op.applicationUid ∧ op.applicationUid < 2147483648

variable {op : Operation} {bound : Option String}

theorem Fits.note (fits : op.Fits) (clientId : String) (account : Account)
    (tokens : TokenResponse) : ∀ entry ∈ some (op.note clientId account tokens), entry.Fits := by
  rintro entry ⟨rfl⟩
  exact fits

/-- What a command makes of a store can be written down. -/
theorem Fits.preserves (fits : op.Fits) (command : Command) :
    (command.program op bound).Preserves Store.IsSound := by
  cases command with
  | interactive p =>
      refine preserves_interactive ?_
      intro request response tokenRequest tokens account _ _ now store sound
      exact sound.save _ _ (fits.note p.clientId account tokens)
  | silent p =>
      refine preserves_silent (fun store dropped sound => sound.invalidate?) ?_
      intro seen cached token tokens account _ _ _ now store sound
      exact sound.save _ _ (fits.note p.clientId account tokens)

end Operation

namespace Dispatch

variable {s t u v : System} {n m : Nat} {key : String} {c : Credential}
  {occurrences : List Occurrence} {program : Program (Except Breakdown Acquisition)}

/-- A system has just been started from the file of the cache of another. -/
structure System.Reloads (s t : System) : Prop where
  fresh : t.IsFresh
  loads : Cache.load s.dispatcher.cache.file = .ok t.dispatcher.cache

/-- A system goes on, or is started anew from its cache file, and nobody touches what is stored
under a key. -/
inductive System.Continues (key : String) (s : System) : System → Prop where
  | refl : Continues key s s
  | move {t u : System} :
      Continues key s t → t.Move (Program.Preserves Store.IsSound) u →
      u.store.credentials.find? key = t.store.credentials.find? key → Continues key s u
  /-- Someone who is no command calls on the cache while no command has it. -/
  | call {t : System} (call : Cache.Call) :
      Continues key s t → t.dispatcher.lock = none → call.Fits →
      (call.perform t.dispatcher.cache).2.store.credentials.find? key =
        t.store.credentials.find? key →
      Continues key s
        { t with
          dispatcher := { t.dispatcher with cache := (call.perform t.dispatcher.cache).2 } }
  | reload {t u : System} : Continues key s t → t.Reloads u → Continues key s u

/-- A credential is stored under a key, in memory and in the file. -/
structure System.Holds (key : String) (c : Credential) (s : System) : Prop where
  keeps : s.Keeps Store.IsSound
  memory : s.store.credentials.find? key = some c
  file : ∃ stored, s.dispatcher.cache.file.load = .ok (stored, s.dispatcher.cache.file) ∧
    stored.credentials.find? key = some c

namespace System.Holds

/-- The file of a store that holds a credential does as well. -/
theorem of_holding {store : Store} (file : CacheFile) (sound : store.IsSound)
    (memory : store.credentials.find? key = some c) :
    ∃ stored, (file.holding store).load = .ok (stored, file.holding store) ∧
      stored.credentials.find? key = some c :=
  ⟨store, CacheFile.load_holding file sound, memory⟩

theorem move (holds : s.Holds key c) (move : s.Move (Program.Preserves Store.IsSound) t)
    (untouched : t.store.credentials.find? key = s.store.credentials.find? key) :
    t.Holds key c where
  keeps := holds.keeps.move move
  memory := untouched.trans holds.memory
  file := by
    obtain ⟨_, step⟩ := move.exists_step
    rcases step.file_cases with ⟨kept, -⟩ | written
    · rw [kept]
      exact holds.file
    · rw [written]
      exact of_holding s.dispatcher.cache.file holds.keeps.store holds.memory

theorem call (holds : s.Holds key c) {call : Cache.Call} (fits : call.Fits)
    (untouched : (call.perform s.dispatcher.cache).2.store.credentials.find? key =
      s.store.credentials.find? key) :
    ({ s with dispatcher := { s.dispatcher with cache := (call.perform s.dispatcher.cache).2 } } :
      System).Holds key c := by
  have memory := untouched.trans holds.memory
  rcases call.perform_cases s.dispatcher.cache with
    ⟨-, same⟩ | ⟨store, changed, same | ⟨failure, same⟩⟩
  · rw [same]
    exact holds
  · have sound := Store.IsSound.change? holds.keeps.store fits changed
    rw [same] at memory ⊢
    exact ⟨⟨sound, holds.keeps.programs⟩, memory, of_holding s.dispatcher.cache.file sound memory⟩
  · have sound := Store.IsSound.change? holds.keeps.store fits changed
    rw [same] at memory ⊢
    exact ⟨⟨sound, holds.keeps.programs⟩, memory, holds.file⟩

/-- The cache can be loaded at any time. -/
theorem exists_load (holds : s.Holds key c) :
    ∃ cache, Cache.load s.dispatcher.cache.file = .ok cache := by
  obtain ⟨stored, loads, -⟩ := holds.file
  exact ⟨{ store := stored, file := s.dispatcher.cache.file }, by rw [Cache.load, loads]⟩

theorem reload (holds : s.Holds key c) (reloads : s.Reloads t) : t.Holds key c := by
  obtain ⟨stored, loads, found⟩ := holds.file
  have same := reloads.loads
  rw [Cache.load, loads] at same
  have cache := (Except.ok.inj same).symm
  have sound := (CacheFile.load_cases loads).1
  constructor
  · constructor
    · rw [System.store, cache]
      exact sound
    · intro n job there
      rw [reloads.fresh.jobs] at there
      simp at there
  · rw [System.store, cache]
    exact found
  · rw [cache]
    exact ⟨stored, loads, found⟩

/-- What nobody touches stays, also where the process is another. -/
theorem continues (holds : s.Holds key c) (further : s.Continues key t) : t.Holds key c := by
  induction further with
  | refl => exact holds
  | move _ last untouched inductionHypothesis => exact inductionHypothesis.move last untouched
  | call _ _ _ fits untouched inductionHypothesis => exact inductionHypothesis.call fits untouched
  | reload _ reloads inductionHypothesis => exact inductionHypothesis.reload reloads

end System.Holds

/-! ### Silent commands for what is held -/

/-- A silent command has looked up what is stored for its account in some state of a run, and was
told the time after that. -/
structure Asks (op : Operation) (p : SilentParameters) (bound : Option String) (m : Nat)
    (asked : System) (now : UInt64) (rest : List Dealing) (t : System) : Prop where
  exists_start : ∃ start job answer, start.dispatcher.jobs[m]? = some job ∧
    job.progress.Along (Operation.supervised (op.silent p bound)) [] ∧
    Gets m start [] (.lookedUp p.clientId p.account answer) asked t ∧
    Deals m start (.lookedUp p.clientId p.account answer :: .now now :: rest) t

namespace Asks

variable {op : Operation} {p : SilentParameters} {bound : Option String} {asked : System}
  {now : UInt64} {rest : List Dealing}

/-- What it does from then on depends on what is stored in that state. -/
theorem exists_path (asks : Asks op p bound m asked now rest t) :
    ∃ last,
      (op.afterLookup p bound (asked.store.lookup p.clientId p.account)).Path (.now now :: rest)
        last ∧
      ∀ {job own}, t.dispatcher.jobs[m]? = some job → job.progress = .running own →
        own = last := by
  obtain ⟨start, job, answer, found, fresh, gets, deals⟩ := asks
  have same : answer = asked.store.lookup p.clientId p.account := gets.gives.2
  have after {last : Program (Except Breakdown Acquisition)}
      (path : (Operation.supervised (op.silent p bound)).Path
        (.lookedUp p.clientId p.account answer :: .now now :: rest) last) :
      (op.afterLookup p bound (asked.store.lookup p.clientId p.account)).Path (.now now :: rest)
        last := by
    rw [Operation.supervised_silent] at path
    cases path with
    | step first path =>
        cases first
        rwa [← same]
  obtain ⟨job', found', along⟩ := deals.along found fresh
  cases progress : job'.progress with
  | running own =>
      rw [progress] at along
      refine ⟨own, after along, fun there running => ?_⟩
      obtain rfl := Option.some.inj (found'.symm.trans there)
      exact Progress.running.inj (running.symm.trans progress)
  | _ =>
      obtain ⟨last, path⟩ := deals.exists_path found fresh
      refine ⟨last, after path, fun there running => ?_⟩
      obtain rfl := Option.some.inj (found'.symm.trans there)
      cases running.symm.trans progress

/-- Where there is a credential in that state it goes on with what the clock says of it. -/
theorem exists_path_of_found {cached : Credential}
    (asks : Asks op p bound m asked now rest t) (unforced : p.forceRefresh = false)
    (found : asked.store.lookup p.clientId p.account = .found cached) :
    ∃ last,
      (op.afterCheck p bound cached (cached.hasValidAccessToken p.scopes now)).Path rest last ∧
      ∀ {job own}, t.dispatcher.jobs[m]? = some job → job.progress = .running own →
        own = last := by
  obtain ⟨last, path, only⟩ := asks.exists_path
  rw [found, Operation.afterLookup_of_unforced unforced] at path
  cases path with
  | step first path =>
      cases first
      exact ⟨last, path, only⟩

end Asks

/-- How a silent command fares that looks up, in some state, what was given to an earlier one. -/
structure Finds (tokens : TokenResponse) (requested : List String) (time : UInt64)
    (given : Authentication) (op : Operation) (p : SilentParameters) (bound : Option String)
    (m : Nat) (asked : System) : Prop where
  found : ∃ cached, asked.store.lookup p.clientId p.account = .found cached
  /-- As long as the tokens can be served it comes to them, and asks for nothing else. -/
  served : ∀ {now rest t}, Asks op p bound m asked now rest t →
    now.toNat + 300000 < UInt64.size → tokens.Serves requested time now p.scopes →
    rest = [] ∧ ∀ {job own}, t.dispatcher.jobs[m]? = some job → job.progress = .running own →
      own = .done (.ok { local? := some (given.again bound) })
  /-- Nothing that concerns others keeps it from that. -/
  goes : Stands m (Operation.supervised (op.silent p bound)) asked →
    ∀ now : UInt64, now.toNat + 300000 < UInt64.size →
      tokens.Serves requested time now p.scopes →
      ∃ t, Goes m asked
        [.lookedUp p.clientId p.account (asked.store.lookup p.clientId p.account), .now now]
        (.done (.ok { local? := some (given.again bound) })) asked.store
        asked.dispatcher.transport t
  /-- At other times it comes to what the service answers to it, or to nothing. -/
  renewed : ∀ {now rest t job acquisition result}, Asks op p bound m asked now rest t →
    now.toNat + 300000 < UInt64.size → ¬ tokens.Serves requested time now p.scopes →
    t.dispatcher.jobs[m]? = some job → job.progress = .running (.done (.ok acquisition)) →
    acquisition.local? = some result →
    result.fromCache = false ∧ ∃ request response delay others,
      .posted request (.respond response delay) ∈ rest ∧
      response.tokenResult = .ok (.success others) ∧ result.accessToken = ⟨others.accessToken⟩

/-- What is held of tokens is what a silent command finds. -/
theorem System.Holds.finds {tokens : TokenResponse} {account : Account} {requested : List String}
    {time : UInt64} {refreshToken : Option Secret} {asked : System} {op : Operation}
    {p : SilentParameters} {bound : Option String}
    (holds : asked.Holds (Credential.keyOf p.clientId account)
      { tokens.credential account requested time with refreshToken })
    (filled : tokens.accessToken ≠ "") (own : p.account = account)
    (unforced : p.forceRefresh = false) (earlier : Option String) (m : Nat) :
    Finds tokens requested time (tokens.handed account requested time earlier) op p bound m
      asked := by
  let cached : Credential := { tokens.credential account requested time with refreshToken }
  subst own
  have stored : asked.store.get? p.clientId p.account = some cached := holds.memory
  have filled' : cached.hasAccessToken = true := by
    simp [cached, Credential.hasAccessToken, TokenResponse.credential, Secret.isFilled, filled]
  have found : asked.store.lookup p.clientId p.account = .found cached := by
    simp [Store.lookup, stored, filled']
  have valid (now : UInt64) :
      cached.hasValidAccessToken p.scopes now = .ok true ↔
        tokens.Serves requested time now p.scopes :=
    TokenResponse.hasValidAccessToken_credential filled refreshToken
  constructor
  · exact ⟨cached, found⟩
  · intro now rest t asks _ serves
    obtain ⟨last, path, only⟩ := asks.exists_path_of_found unforced found
    rw [(valid now).mpr serves] at path
    obtain ⟨rfl, rfl⟩ := path.of_done
    exact ⟨rfl, only⟩
  · intro stands now _ serves
    rw [Operation.supervised_silent] at stands
    obtain ⟨looked, looks⟩ := stands.looks
    rw [found, Operation.afterLookup_of_unforced unforced] at looks
    obtain ⟨late, passes, rfl⟩ := looks.stands.passes now
    obtain ⟨dated, dates⟩ := passes.stands.dates
    have goes := (looks.trans passes).trans dates
    rw [(valid _).mpr serves, passes.store, looks.store, passes.transport, looks.transport] at goes
    rw [found]
    exact ⟨dated, goes⟩
  · intro now rest t job acquisition result asks room unserved there running success
    obtain ⟨last, path, only⟩ := asks.exists_path_of_found unforced found
    rw [Credential.hasValidAccessToken_eq_false room (mt (valid now).mp unserved)] at path
    obtain rfl := only there running
    rcases Operation.refreshing_ended path with
      ⟨nothing, -⟩ | ⟨others, account, moment, renews⟩
    · cases nothing.symm.trans success
    · rw [renews.result] at success
      obtain rfl := Option.some.inj success
      obtain ⟨token, granted, grants, rfl⟩ := renews.granted
      obtain ⟨response, delay, rfl, made⟩ := grants.answered
      exact ⟨rfl, op.refreshRequest p token bound, response, delay, others, by simp, made, rfl⟩

/-- What becomes of what a command was given: how it came to it, and who else is served it. -/
structure Recalls (command : Command) (op : Operation) (bound : Option String) (n : Nat)
    (start u : System) (tokens : TokenResponse) (given : Authentication) (time : UInt64)
    (saved : System) : Prop where
  given_eq : given = tokens.handed given.account command.scopes time bound
  /-- It was told the time when the tokens came, and that they were saved. -/
  told : ∃ earlier dated credential metadata, Gets n start earlier (.now time) dated u ∧
    Gets n start (earlier ++ [.now time]) (.saved command.clientId credential metadata (.ok ()))
      saved u
  loads : ∀ {asked}, saved.Continues (Credential.keyOf command.clientId given.account) asked →
    ∃ cache, Cache.load asked.dispatcher.cache.file = .ok cache
  finds : ∀ {asked}, saved.Continues (Credential.keyOf command.clientId given.account) asked →
    ∀ (op' : Operation) (p : SilentParameters) (bound' : Option String) (m : Nat),
      p.clientId = command.clientId → p.account = given.account → p.forceRefresh = false →
      Finds tokens command.scopes time given op' p bound' m asked

/-- Whatever a command was given is what the cache serves from then on. -/
theorem System.RunOf.recalls (free : s.dispatcher.lock = none)
    (idle : s.dispatcher.write = .none) (keeps : s.Keeps Store.IsSound)
    (run : s.RunOf (Program.Preserves Store.IsSound) t) {op : Operation} (fits : op.Fits)
    (command : Command) (bound : Option String) (lane : Lane) (correlationId : String)
    (reply : Nat)
    (further : (t.submitted lane correlationId reply (command.program op bound)).RunOf
      (Program.Preserves Store.IsSound) u)
    {job : Job} {acquisition : Acquisition} {tokens : TokenResponse}
    (found : u.dispatcher.jobs[t.dispatcher.jobs.length]? = some job)
    (ended : job.progress = .running (.done (.ok acquisition)))
    (success : acquisition.token = some (.success tokens)) (filled : tokens.accessToken ≠ "") :
    ∃ given time saved, acquisition.local? = some given ∧
      Recalls command op bound t.dispatcher.jobs.length
        (t.submitted lane correlationId reply (command.program op bound)) u tokens given time
        saved := by
  obtain ⟨dealings, deals, along⟩ := further.exists_path found ended
  obtain ⟨earlier, account, time, rfl, given⟩ := Command.program_ended along success
  obtain ⟨dated, -, dates, -⟩ := deals.exists_gets
  rw [List.append_cons] at deals
  obtain ⟨saved, before, saves, -⟩ := deals.exists_gets
  have reached := (run.move (.submit lane correlationId reply (fits.preserves command))).trans
    before.runOf
  -- What was saved is in memory and in the file.
  obtain ⟨taken, after, next, -, takes, -, same, file, written⟩ :=
    reached.exists_saved (.of_free free idle) idle saves
  have kept := reached.keeps keeps
  have made : taken.store.save command.clientId (tokens.credential account command.scopes time)
      (some (op.note command.clientId account tokens)) = saved.store :=
    (Option.some.inj takes.changed?).trans same
  have memory := taken.store.get?_save command.clientId
    (tokens.credential account command.scopes time)
    (some (op.note command.clientId account tokens))
  rw [made] at memory
  have holds : saved.Holds (Credential.keyOf command.clientId account) _ :=
    ⟨kept, memory, by rw [written]; exact System.Holds.of_holding file kept.store memory⟩
  refine ⟨_, time, saved, given, rfl, ⟨earlier, dated, _, _, dates, saves⟩, ?_, ?_⟩
  · intro asked continues
    exact (holds.continues continues).exists_load
  · intro asked continues op' p bound' m client home unforced
    have there := holds.continues continues
    rw [← client] at there
    exact there.finds filled home unforced bound m

/-- An answer with an access token for an hour. -/
def hourly : HttpResponse :=
  { status := 200, body := "\x7b\"access_token\":\"a\",\"expires_in\":3600\x7d" }

theorem hourly_tokenResult :
    hourly.tokenResult = .ok (.success { accessToken := "a", expiresIn := some 3600 }) := by
  have read : (Json.parseText? hourly.body).bind TokenResponse.ofJson? =
      some { accessToken := "a", expiresIn := some 3600 } := by decide +kernel
  exact HttpResponse.tokenResult_of_read (by decide) read

/-- A command that renews its tokens, and so lets others be served them. -/
theorem sample_recalls :
    ∃ u given time saved, Recalls (.silent renewal) service (some "first") 0
      (System.asking (Store.save {} renewal.clientId oldCredential none) [.respond hourly 0]
        (Operation.supervised (service.silent renewal (some "first")))) u
      { accessToken := "a", expiresIn := some 3600 } given time saved := by
  let store := Store.save {} renewal.clientId oldCredential none
  let fresh := System.caching store [.respond hourly 0]
  have fits : service.Fits := ⟨by decide, by decide⟩
  have keeps : fresh.Keeps Store.IsSound := by
    constructor
    · exact Store.isSound_empty.save renewal.clientId oldCredential
        (show ∀ entry ∈ (none : Option AppMetadata), entry.Fits by simp)
    · intro n job there
      simp [fresh, System.caching, System.sample] at there
  have writable : CacheFile.IsWritable {} := by decide
  obtain ⟨begun, starts, stands, same, answers⟩ := System.exists_begun (s := fresh)
    (Program.Preserves Store.IsSound) rfl rfl writable "first" 0
    (Operation.supervised (service.silent renewal (some "first")))
  have found : begun.store.lookup renewal.clientId renewal.account = .found oldCredential := by
    rw [same]
    exact Store.lookup_save {} renewal.clientId none rfl (by decide)
  obtain ⟨u, renews⟩ := stands.renews rfl found rfl (by decide) answers hourly_tokenResult rfl 0
  obtain ⟨job, there, ended, -⟩ := renews.stands.exists_job
  have whole := starts.trans (renews.runOf stands)
  obtain ⟨given, time, saved, -, recalls⟩ := System.RunOf.recalls (s := fresh) rfl rfl keeps
    (.refl fresh) fits (.silent renewal) (some "first") .silent "first" 0 whole there ended rfl
    (by decide)
  exact ⟨u, given, time, saved, recalls⟩

end Dispatch

end TokenAcquisition
