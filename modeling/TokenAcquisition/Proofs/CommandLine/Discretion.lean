import TokenAcquisition.CommandLine.Folder
import TokenAcquisition.Proofs.Credential.Encoding
import TokenAcquisition.Proofs.Dispatch.Likeness

/-!
What a silent run shows.  Runs whose caches differ in the texts of tokens only, and whose network
answers alike, end with the same exit code and print the same, but for the correlation ids that
were made for them.  So the text of a token that is kept in the cache shows nowhere.
-/

namespace TokenAcquisition

variable {id otherId : String}

/-- What is summed up of results that are alike is what is summed up of one under two ids. -/
theorem Authentication.Alike.summary {tokens other : Authentication}
    (alike : tokens.Alike id otherId other) :
    CommandLine.summary tokens = CommandLine.summary { tokens with correlationId := some id } ∧
      CommandLine.summary other =
        CommandLine.summary { tokens with correlationId := some otherId } := by
  simp only [CommandLine.summary, alike.account, alike.expiresOn, alike.scopes, alike.tenantId,
    alike.fromCache, alike.correlationId, alike.otherCorrelationId, and_self]

namespace CommandLine

/-! ### Endings -/

/-- What is printed of tokens. -/
def shown (tokens : Authentication) : String :=
  (summary tokens).renderLines ++ "\n"

/-- Endings that are the same up to the correlation id in what is printed. -/
structure Ending.Alike (id otherId : String) (ending other : Ending) : Prop where
  exitCode : other.exitCode = ending.exitCode
  errors : other.errors = ending.errors
  output : other.output = ending.output ∨
    ∃ tokens : Authentication,
      ending.output = shown { tokens with correlationId := some id } ∧
        other.output = shown { tokens with correlationId := some otherId }

theorem Ending.Alike.refl (ending : Ending) : ending.Alike id otherId ending :=
  ⟨rfl, rfl, .inl rfl⟩

/-- Under one id the endings are the same. -/
theorem Ending.Alike.eq {ending other : Ending} (alike : ending.Alike id id other) :
    other = ending := by
  have output : other.output = ending.output := by
    rcases alike.output with same | ⟨tokens, own, another⟩
    · exact same
    · rw [own, another]
  obtain ⟨exitCode, _, errors⟩ := ending
  obtain ⟨_, _, _⟩ := other
  obtain ⟨rfl, rfl, -⟩ := alike
  exact congrArg (Ending.mk _ · _) output

theorem Ending.alike_ofOutcome {outcome other : Outcome} (alike : outcome.Alike id otherId other) :
    (Ending.ofOutcome outcome).Alike id otherId (.ofOutcome other) := by
  cases alike with
  | cancel => exact .refl _
  | error same =>
      rw [ofOutcome, ofOutcome, Report.ofFailure, Report.ofFailure, same]
      exact .refl _
  | @success tokens other same =>
      obtain ⟨own, another⟩ := same.summary
      refine ⟨rfl, rfl, .inr ⟨tokens, ?_, ?_⟩⟩
      · rw [shown, ← own]
        rfl
      · rw [shown, ← another]
        rfl

/-! ### Turns -/

open Dispatch (Scheduler)

variable {s other : Scheduler}

theorem delivered?_of_alike (alike : s.Alike id otherId other) :
    Option.Rel (Outcome.Alike id otherId) (delivered? s) (delivered? other) := by
  unfold delivered?
  have events := alike.dispatcher.events
  generalize s.dispatcher.events = seen at events
  generalize other.dispatcher.events = otherSeen at events
  induction events with
  | nil => exact .none
  | cons event _ inductionHypothesis =>
      cases event with
      | post => exact inductionHypothesis
      | delivered same => exact .some same.outcome

/-- Nothing is launched for a silent command. -/
theorem launched?_of_alike (alike : s.Alike id otherId other) :
    launched? s = none ∧ launched? other = none := by
  unfold launched?
  have events := alike.dispatcher.events
  generalize s.dispatcher.events = seen at events
  generalize other.dispatcher.events = otherSeen at events
  induction events with
  | nil => exact ⟨rfl, rfl⟩
  | cons event _ inductionHypothesis =>
      cases event with
      | post | delivered => exact inductionHypothesis

theorem isOver_of_alike (alike : s.Alike id otherId other) :
    ((delivered? other).isSome || (launched? other).isSome) =
      ((delivered? s).isSome || (launched? s).isSome) := by
  obtain ⟨unlaunched, otherUnlaunched⟩ := launched?_of_alike alike
  rw [unlaunched, otherUnlaunched]
  rcases optionRel_cases (delivered?_of_alike alike) with
    ⟨nothing, nothingToo⟩ | ⟨_, _, told, toldToo, -⟩
  · rw [nothing, nothingToo]
  · rw [told, toldToo]
    rfl

theorem alike_goOnUntil {isThere : Scheduler → Bool}
    (agrees : ∀ {s other : Scheduler}, s.Alike id otherId other → isThere other = isThere s)
    (waits : Nat) {s other : Scheduler} (alike : s.Alike id otherId other) :
    (goOnUntil isThere waits s).Alike id otherId (goOnUntil isThere waits other) := by
  induction waits generalizing s other with
  | zero => exact alike
  | succ waits inductionHypothesis =>
      have went := alike.run
      unfold goOnUntil
      dsimp only
      rw [agrees went, went.nextDeadline?]
      split
      · exact went
      · cases s.run.nextDeadline? with
        | none => exact went
        | some deadline => exact inductionHypothesis (went.moveTo deadline)

/-- Both turns are endings. -/
theorem turn_of_alike (alike : s.Alike id otherId other) :
    ∃ ending cache otherEnding otherCache, turn s = .ended ending cache ∧
      turn other = .ended otherEnding otherCache ∧ ending.Alike id otherId otherEnding := by
  obtain ⟨unlaunched, otherUnlaunched⟩ := launched?_of_alike alike
  unfold turn
  rw [unlaunched, otherUnlaunched]
  rcases optionRel_cases (delivered?_of_alike alike) with
    ⟨nothing, nothingToo⟩ | ⟨outcome, otherOutcome, told, toldToo, same⟩
  · rw [nothing, nothingToo]
    exact ⟨_, _, _, _, rfl, rfl, .refl _⟩
  · rw [told, toldToo]
    exact ⟨_, _, _, _, rfl, rfl, Ending.alike_ofOutcome same⟩

/-! ### Runs -/

/-- What lies outside of two runs: the time and the network are the same for both.  What is
generated for them may differ. -/
structure Outside.Alike (outside other : Outside) : Prop where
  now : other.now = outside.now
  transport : other.transport = outside.transport

variable {outside otherOutside : Outside} {cache otherCache : Cache}

theorem alike_dispatcher (outsides : outside.Alike otherOutside)
    (caches : cache.Alike otherCache) (id otherId : String) :
    (dispatcher outside cache).Alike id otherId (dispatcher otherOutside otherCache) where
  dispatcher :=
    { clock := rfl
      now := outsides.now
      cache := caches
      lock := rfl
      write := rfl
      transport := outsides.transport
      jobs := .nil
      idle := rfl
      otherIdle := rfl
      replies := .cons ⟨.nil, rfl, rfl⟩ .nil
      events := .nil }
  ready := rfl
  timed := rfl
  cacheQueue := rfl
  autoReply := rfl

/-- Silent runs of the same settings begin and end alike. -/
theorem start_of_alike (settings : Settings) (wanted : Option String) (forceRefresh : Bool)
    (outsides : outside.Alike otherOutside) (caches : cache.Alike otherCache) :
    ∃ ending after otherEnding otherAfter,
      start settings cache (.silent wanted forceRefresh) outside = .ended ending after ∧
      start settings otherCache (.silent wanted forceRefresh) otherOutside =
        .ended otherEnding otherAfter ∧
      ending.Alike outside.correlationId otherOutside.correlationId otherEnding := by
  unfold start command
  cases operation settings with
  | error report => exact ⟨_, _, _, _, rfl, rfl, .refl _⟩
  | ok op =>
      dsimp only
      rw [caches.store.selectAccount]
      cases selectAccount cache.store settings.clientId wanted with
      | none => exact ⟨_, _, _, _, rfl, rfl, .refl _⟩
      | some account =>
          have programs := op.alike_silent (silentParameters settings account forceRefresh)
            outside.correlationId otherOutside.correlationId
          have submitted := (alike_dispatcher outsides caches _ _).submit 0 programs
          exact turn_of_alike (alike_goOnUntil isOver_of_alike waits submitted)

namespace Folder

/-- Folders in which a run with some arguments is silent and finds the same settings, and caches
that differ in the texts of tokens only. -/
structure AlikeFor (environment : Environment) (arguments : List String)
    (folder other : Folder) : Prop where
  silent : ∀ {invocation}, Invocation.parse arguments = .ok invocation →
    ∃ wanted forceRefresh, invocation.mode = .silent wanted forceRefresh
  config : ∀ {invocation}, Invocation.parse arguments = .ok invocation →
    other.text? (Settings.path invocation.config environment.configPath) =
      folder.text? (Settings.path invocation.config environment.configPath)
  cache : ∀ {invocation text settings}, Invocation.parse arguments = .ok invocation →
    folder.text? (Settings.path invocation.config environment.configPath) = some text →
    CommandLine.settings invocation environment.configPath environment.clientId (.ok text) =
      .ok settings →
    (folder.cacheFile settings.cachePath).entry.Alike (other.cacheFile settings.cachePath).entry

/-- Of two files at one path only what is in them may differ. -/
theorem alike_cacheFile {folder other : Folder} {path : String}
    (entries : (folder.cacheFile path).entry.Alike (other.cacheFile path).entry) :
    (folder.cacheFile path).Alike (other.cacheFile path) :=
  ⟨rfl, rfl, entries⟩

/-- Two silent runs that differ in the texts of cached tokens, and in what is generated for them,
end alike. -/
theorem run_discreet {environment : Environment} {arguments : List String} {folder other : Folder}
    (folders : AlikeFor environment arguments folder other) (outsides : outside.Alike otherOutside)
    (typed otherTyped : Launch → String) :
    (folder.run environment outside typed arguments).1.Alike outside.correlationId
      otherOutside.correlationId (other.run environment otherOutside otherTyped arguments).1 := by
  unfold run
  cases parsed : Invocation.parse arguments with
  | error fault => exact .refl _
  | ok invocation =>
      obtain ⟨wanted, forceRefresh, silent⟩ := folders.silent parsed
      dsimp only [Except.mapError, bind, Except.bind, pure, Except.pure]
      -- Until the caches are opened the runs are one and the same.
      rw [folders.config parsed]
      cases found : folder.text? (Settings.path invocation.config environment.configPath) with
      | none => exact .refl _
      | some text =>
          dsimp only
          cases read : CommandLine.settings invocation environment.configPath
            environment.clientId (.ok text) with
          | error report => exact .refl _
          | ok settings =>
              dsimp only [openCache]
              rcases Cache.load_cases (alike_cacheFile (folders.cache parsed found read)) with
                ⟨failure, refused, refusedToo⟩ | ⟨cache, otherCache, opened, openedToo, caches⟩
              · rw [refused, refusedToo]
                exact .refl _
              · rw [opened, openedToo, silent]
                obtain ⟨ending, after, otherEnding, otherAfter, ends, endsToo, same⟩ :=
                  start_of_alike settings wanted forceRefresh outsides caches
                simp only [Except.mapError, ends, endsToo, finish]
                exact same

def sampleInvocation : Invocation where
  config := none
  mode := .silent none false

def sampleSettings : String :=
  "[client]\nclient_id = \"app\"\nredirect_uri = \"msauth://app\"\n"

/-- A store with an access token that is still good ten minutes after the epoch. -/
def sampleStore (token : String) : Store :=
  Store.save {} "app"
    { account := Cache.sampleAccount
      accessToken := some ⟨token⟩
      expiresOn := 1200000
      scopes := ["user.read"] } none

/-- Settings, and a cache with the store in it. -/
def sampleFolder (token : String) : Folder where
  entries :=
    [("identity-cache.json", CacheFile.print (sampleStore token)),
     ("identity-cli.toml", sampleSettings)]
  ascending := by
    have before : "identity-cache.json" < "identity-cli.toml" := by decide
    exact List.pairwise_pair.mpr before

def sampleOutside (id : String) : Outside where
  now := 600000
  transport := []
  supply := { seeds := fun _ => ⟨[], []⟩, token := fun _ => .ofRandom [] }
  correlationId := id

theorem text?_sampleFolder (token : String) :
    (sampleFolder token).text? "identity-cli.toml" = some sampleSettings := by
  have leads : place "identity-cli.toml" = .text "identity-cli.toml" := by decide +kernel
  rw [text?, leads]
  rfl

theorem entry_sampleFolder (token : String) :
    ((sampleFolder token).cacheFile "identity-cache.json").entry =
      .text (CacheFile.print (sampleStore token)) := by
  have leads : place "identity-cache.json" = .text "identity-cache.json" := by decide +kernel
  rw [cacheFile, leads]
  rfl

theorem cachePath_sampleSettings {settings : Settings}
    (read : CommandLine.settings sampleInvocation none none (.ok sampleSettings) = .ok settings) :
    settings.cachePath = "identity-cache.json" := by
  have own : (CommandLine.settings sampleInvocation none none (.ok sampleSettings)).toOption.map
      Settings.cachePath = some "identity-cache.json" := by decide +kernel
  rw [read] at own
  exact Option.some.inj own

theorem parse_sampleStore (token : String) :
    CacheFile.parse (CacheFile.print (sampleStore token)) = .ok (sampleStore token) :=
  CacheFile.parse_print ⟨List.nodup_nil, nofun⟩

/-- Two access tokens that are served under two ids. -/
theorem sample_discreet :
    AlikeFor {} ["silent"] (sampleFolder "first token") (sampleFolder "second token") ∧
      (sampleOutside "first").Alike (sampleOutside "second") ∧
      ((sampleFolder "first token").run {} (sampleOutside "first") (fun _ => "")
          ["silent"]).1.Alike "first" "second"
        ((sampleFolder "second token").run {} (sampleOutside "second") (fun _ => "")
          ["silent"]).1 := by
  have parsed : Invocation.parse ["silent"] = .ok sampleInvocation := by decide
  have stores : (sampleStore "first token").Alike (sampleStore "second token") :=
    ⟨.cons ⟨rfl, rfl, by decide, rfl, rfl, rfl, rfl⟩ .nil, rfl⟩
  have folders :
      AlikeFor {} ["silent"] (sampleFolder "first token") (sampleFolder "second token") := by
    constructor
    case silent =>
      intro invocation own
      obtain rfl := Except.ok.inj (parsed.symm.trans own)
      exact ⟨none, false, rfl⟩
    case config =>
      intro invocation own
      obtain rfl := Except.ok.inj (parsed.symm.trans own)
      exact (text?_sampleFolder _).trans (text?_sampleFolder _).symm
    case cache =>
      intro invocation text settings own found read
      obtain rfl := Except.ok.inj (parsed.symm.trans own)
      obtain rfl := Option.some.inj ((text?_sampleFolder _).symm.trans found)
      rw [cachePath_sampleSettings read, entry_sampleFolder, entry_sampleFolder]
      exact .texts (parse_sampleStore _) (parse_sampleStore _) stores
  have outsides : (sampleOutside "first").Alike (sampleOutside "second") := ⟨rfl, rfl⟩
  exact ⟨folders, outsides, run_discreet folders outsides _ _⟩

end Folder

end CommandLine

end TokenAcquisition
