import TokenAcquisition.Proofs.Credential.Store
import TokenAcquisition.Proofs.Dispatch.Advance
import TokenAcquisition.Proofs.Program.Silent

/-!
Tokens are dropped for a refresh token that was called bad.  A silent command drops the tokens
that are stored for its account when it comes to do so.  They are those that it looked up, unless
another command has saved newer ones in the meantime: these are lost as well.
-/

namespace TokenAcquisition.Dispatch

variable {s t u : System} {trace : List Occurrence} {n : Nat}
  {dealings earlier later : List Dealing} {op : Operation} {p : SilentParameters}
  {bound : Option String} {clientId : String} {account : Account}

/-- A command drops the tokens of an account. -/
def System.Drops (n : Nat) (clientId : String) (account : Account) (s t : System) : Prop :=
  ∃ next, s.Takes n (.invalidate clientId account next) t

theorem System.Drops.invalidate? (drops : s.Drops n clientId account t) :
    s.store.invalidate? clientId account = some t.store := by
  obtain ⟨next, takes⟩ := drops
  exact takes.changed?

/-- What a silent command that has dealt with so much drops, and why. -/
structure DropsRefused (op : Operation) (p : SilentParameters) (bound : Option String) (n : Nat)
    (start : System) (dealings : List Dealing) (taken after : System) : Prop where
  /-- The refresh token that it looked up was called bad.  What it drops is what it looked up,
  unless another command has changed that since. -/
  refused : ∃ cached token looks refused looked,
    dealings = .lookedUp p.clientId p.account (.found cached) :: (looks ++ refused) ∧
      (∀ dealing ∈ looks, dealing.IsSettling) ∧ op.Refused p bound cached token refused ∧
      Gets n start [] (.lookedUp p.clientId p.account (.found cached)) looked taken ∧
      (taken.store.get? p.clientId p.account = some cached ∨
        looked.Overwritten n (Credential.keyOf p.clientId p.account) taken)
  /-- Of all that is stored only the one credential is changed. -/
  only : ∀ key, after.store.credentials.find? key =
    if key = Credential.keyOf p.clientId p.account then
      (taken.store.get? p.clientId p.account).map Credential.withoutTokens
    else taken.store.credentials.find? key
  metadata : after.store.metadata = taken.store.metadata
  /-- It drops nothing a second time. -/
  once : ∀ {v w : System} {program}, after.Reaches v → ¬ v.Takes n program w
  /-- Whatever is stored later stays, unless another command changes it. -/
  kept : ∀ {v w : System} (key : String), after.Reaches v → v.Reaches w →
    w.store.credentials.find? key = v.store.credentials.find? key ∨ v.Overwritten n key w

/-- How a silent command that began in some state deals with refused refresh tokens. -/
structure Invalidates (op : Operation) (p : SilentParameters) (bound : Option String) (n : Nat)
    (start : System) : Prop where
  drops : ∀ {dealings : List Dealing} {taken after : System} {clientId : String}
    {account : Account}, Deals n start dealings taken → taken.Drops n clientId account after →
    clientId = p.clientId ∧ account = p.account ∧
      DropsRefused op p bound n start dealings taken after
  /-- When it is told that the tokens are dropped, they were, or there was nothing to drop. -/
  told : ∀ {earlier later : List Dealing} {u : System} {clientId : String} {account : Account}
    {answer : Except Failure Unit},
    Deals n start (earlier ++ .invalidated clientId account answer :: later) u →
    (∃ taken after, Deals n start earlier taken ∧ taken.Drops n clientId account after ∧
      after.Reaches u) ∨
    ∃ middle, Gets n start earlier (.invalidated clientId account answer) middle u ∧
      middle.store.get? clientId account = none

/-- Unless others change it, what is stored stays while a command does not change it. -/
theorem System.Reaches.kept_or_overwritten {key : String} (reaches : s.Reaches t)
    (others : ∀ {v w : System} {program}, s.Reaches v → v.Takes n program w → ¬ w.Reaches t) :
    t.store.credentials.find? key = s.store.credentials.find? key ∨ s.Overwritten n key t := by
  by_cases same : t.store.credentials.find? key = s.store.credentials.find? key
  · exact .inl same
  · obtain ⟨m, program, before, after, early, takes, late, changed⟩ := reaches.exists_takes same
    refine .inr ⟨m, program, before, after, ?_, early, takes, late, changed⟩
    rintro rfl
    exact others early takes late

variable {start taken after : System} {job : Job}

/-- The store that a silent command has changed once it does not change again. -/
theorem Deals.spent_silent (found : start.dispatcher.jobs[n]? = some job)
    (fresh : job.progress.Along (Operation.supervised (op.silent p bound)) [])
    (deals : Deals n start dealings s) {program : Program (Except Breakdown Acquisition)}
    (takes : s.Takes n program t) : t.Spent n :=
  deals.spent found fresh (op.changesAtMost_silent p bound) takes

theorem Deals.dropsRefused (found : start.dispatcher.jobs[n]? = some job)
    (fresh : job.progress.Along (Operation.supervised (op.silent p bound)) [])
    (deals : Deals n start dealings taken) (drops : taken.Drops n clientId account after) :
    clientId = p.clientId ∧ account = p.account ∧
      DropsRefused op p bound n start dealings taken after := by
  obtain ⟨next, takes⟩ := drops
  obtain ⟨rfl, rfl, cached, token, looks, refused, same, settling, bad⟩ :=
    Operation.invalidate_cases (deals.path_of_takes found fresh takes)
  have spent := deals.spent_silent found fresh takes
  have never {v w : System} {program} (reaches : after.Reaches v) : ¬ v.Takes n program w := by
    obtain ⟨_, run⟩ := reaches
    exact (spent.run run).not_takes
  refine ⟨rfl, rfl, ?_, ?_, ?_, never, ?_⟩
  · obtain ⟨looked, gets⟩ := Deals.exists_gets
      (show Deals n start ([] ++ .lookedUp _ _ (.found cached) :: (looks ++ refused)) taken from
        same ▸ deals)
    refine ⟨cached, token, looks, refused, looked, same, settling, bad, gets, ?_⟩
    obtain ⟨-, answer⟩ := gets.gives
    have stored := Store.get?_of_lookup answer.symm
    have others {v w : System} {program} (reaches : looked.Reaches v)
        (takes' : v.Takes n program w) : ¬ w.Reaches taken := by
      -- Having changed the store once, the command would not have come to drop anything.
      rintro ⟨_, run⟩
      obtain ⟨_, before⟩ := gets.deals.exists_run
      obtain ⟨_, between⟩ := reaches
      obtain ⟨_, _, early, -⟩ := Deals.exists_of_run (before.trans between) found
      exact ((early.spent_silent found fresh takes').run run).not_takes takes
    rcases System.Reaches.kept_or_overwritten gets.exists_run others with kept | overwritten
    · exact .inl (kept.trans stored)
    · exact .inr overwritten
  · exact Store.find?_of_invalidate? takes.changed?
  · obtain ⟨held, -, made⟩ := Store.invalidate?_eq_some_iff.mp takes.changed?
    rw [← made]
  · intro v w key first second
    exact System.Reaches.kept_or_overwritten second fun reaches takes' =>
      absurd takes' (never (first.trans reaches))

theorem Deals.exists_drops (orderly : start.Orderly) (free : start.dispatcher.lock ≠ some n)
    {answer : Except Failure Unit}
    (deals : Deals n start (earlier ++ .invalidated clientId account answer :: later) u) :
    (∃ taken after, Deals n start earlier taken ∧ taken.Drops n clientId account after ∧
      after.Reaches u) ∨
    ∃ middle, Gets n start earlier (.invalidated clientId account answer) middle u ∧
      middle.store.get? clientId account = none := by
  obtain ⟨middle, gets⟩ := deals.exists_gets
  obtain ⟨held, ended | ⟨-, -, nothing⟩⟩ := gets.gives
  · obtain ⟨job, program, next, found, progress, step⟩ := gets.exists_program
    cases step with
    | @invalidate _ _ next =>
        obtain ⟨taken, after, early, takes, reaches⟩ :=
          gets.deals.exists_takes orderly free held (by rw [ended]; nofun) found progress
        exact .inl ⟨taken, after, early, ⟨next, takes⟩, reaches.trans gets.exists_run⟩
  · exact .inr ⟨middle, gets, Option.map_eq_none_iff.mp nothing⟩

/-- Whatever goes on around a dispatcher whose cache nobody has at first, tokens are dropped for a
refused refresh token only, once, and together with whatever was saved before. -/
theorem System.Run.invalidates (free : s.dispatcher.lock = none)
    (idle : s.dispatcher.write = .none) (run : s.Run trace t) (op : Operation)
    (p : SilentParameters) (bound : Option String) (correlationId : String) (reply : Nat) :
    Invalidates op p bound t.dispatcher.jobs.length
      (t.submitted .silent correlationId reply (Operation.supervised (op.silent p bound))) := by
  obtain ⟨job, found, -, fresh⟩ := t.exists_submitted .silent correlationId reply
    (Operation.supervised (op.silent p bound))
  have orderly := (System.Orderly.of_free free idle).run run
  constructor
  · intro dealings taken after clientId account deals drops
    exact deals.dropsRefused found fresh drops
  · intro earlier later u clientId account answer deals
    refine deals.exists_drops (orderly.step (.submit ..)) ?_
    intro held
    obtain ⟨own, inside, -⟩ := orderly.holder held
    exact Nat.lt_irrefl _ (List.getElem?_eq_some_iff.mp inside).1

/-- A fresh system with a store in memory and with what the network answers. -/
def System.caching (store : Store) (transport : List TransportAnswer) : System :=
  { System.sample with
    dispatcher :=
      { System.sample.dispatcher with cache := { store, file := {} }, transport } }

/-- A silent command has been submitted to a fresh system. -/
def System.asking (store : Store) (transport : List TransportAnswer)
    (program : Program (Except Breakdown Acquisition)) : System :=
  (System.caching store transport).submitted .silent "first" 0 program

/-- Another one is submitted as well, and both start. -/
theorem System.exists_started (store : Store) (transport : List TransportAnswer)
    (program : Program (Except Breakdown Acquisition)) :
    ∃ t, Deals 0 (System.asking store transport program) [] t ∧ Stands 0 program t ∧
      Stands 1 program t ∧ t.store = store ∧ t.dispatcher.transport = transport := by
  have submitted := Deals.start (n := 0) (s := System.asking store transport program)
  have both := submitted.further (.submit .silent "second" 0 program) rfl rfl .stay
  have started := both.further (.startSilent (n := 0) rfl) rfl rfl .start
  have running := started.further (.startSilent (n := 1) rfl) rfl rfl .stay
  have writable : CacheFile.IsWritable {} := ⟨rfl, rfl, nofun, nofun⟩
  exact ⟨_, running, ⟨⟨_, rfl, rfl, rfl⟩, rfl, rfl, writable⟩,
    ⟨⟨_, rfl, rfl, rfl⟩, rfl, rfl, writable⟩, rfl, rfl⟩

/-- Two commands look up the same refresh token.  One of them gets new tokens for it, the other
one is told that it is bad, and drops what the first has saved. -/
theorem exists_newer_dropped {store : Store} {old : Credential} {token renewed : Secret}
    {grant refusal : HttpResponse} {tokens : TokenResponse} {e : TokenError}
    (op : Operation) (bound : Option String) (forced : p.forceRefresh = true)
    (stored : store.lookup p.clientId p.account = .found old) (home : old.account = p.account)
    (own : old.refreshToken = some token) (filled : token.isFilled = true)
    (granted : grant.tokenResult = .ok (.success tokens)) (plain : tokens.idToken = none)
    (brought : tokens.refreshToken.map Secret.mk = some renewed) (fills : renewed.isFilled = true)
    (refused : refusal.tokenResult = .ok (.error e)) (bad : e.isBadToken = true) :
    ∃ newer metadata next dealings looked saving saved taken after,
      Deals 0 (System.asking store [.respond grant 0, .respond refusal 0]
        (Operation.supervised (op.silent p bound)))
        [.lookedUp p.clientId p.account (.found old)] looked ∧
      looked.Reaches saving ∧ saving.Takes 1 (.save p.clientId newer metadata next) saved ∧
      newer.refreshToken = some renewed ∧ saved.store.lookup p.clientId p.account = .found newer ∧
      saved.Reaches taken ∧ taken.Drops 0 p.clientId p.account after ∧
      Deals 0 (System.asking store [.respond grant 0, .respond refusal 0]
        (Operation.supervised (op.silent p bound))) dealings taken := by
  rw [Operation.supervised_silent]
  have posting : op.afterLookup p bound (store.lookup p.clientId p.account) =
      .post (op.refreshRequest p token bound) (op.afterRefresh p bound old token) := by
    rw [stored, Operation.afterLookup_found forced own filled]
  have dropping : op.afterRefresh p bound old token (.ok refusal) =
      .invalidate p.clientId p.account (Operation.afterInvalidation e) :=
    Operation.afterRefresh_bad refused bad
  obtain ⟨newer, metadata, next, renewing, whose, fresh⟩ :
      ∃ (newer : UInt64 → Credential) (metadata : AppMetadata)
        (next : UInt64 → Except Failure Unit → Program (Except Breakdown Acquisition)),
        op.afterRefresh p bound old token (.ok grant) =
          .now (fun now => .save p.clientId (newer now) (some metadata) (next now)) ∧
        (∀ now, (newer now).account = p.account) ∧
        ∀ now, (newer now).refreshToken = some renewed := by
    have whose : op.renewed p token bound old tokens = .ok p.account := by
      simp [Operation.renewed, plain, home]
    simp only [Operation.afterRefresh, granted, whose]
    exact ⟨_, _, _, rfl, fun _ => rfl, fun _ => brought⟩
  obtain ⟨begun, early, first, second, same, answers⟩ := System.exists_started store
    [.respond grant 0, .respond refusal 0]
    (.lookup p.clientId p.account (op.afterLookup p bound))
  subst same
  -- Both look up the old credential.
  obtain ⟨looked, looks⟩ := first.looks
  rw [posting, stored, answers] at looks
  obtain ⟨known, knows⟩ := (looks.stands_other second (by decide)).looks
  rw [looks.store, posting, looks.transport] at knows
  -- The second one gets new tokens and saves them.
  obtain ⟨given, gets⟩ := knows.stands.asks knows.transport
  rw [renewing, knows.store] at gets
  obtain ⟨dated, dates⟩ := gets.stands.dates
  rw [gets.store, gets.transport] at dates
  obtain ⟨saving, saved, kept, reached, saves, -, after, keeps⟩ := dates.stands.saves
  rw [dates.store, dates.transport] at keeps
  have found (s : Store) (now : UInt64) :
      (s.save p.clientId (newer now) (some metadata)).lookup p.clientId p.account =
        .found (newer now) := by
    have found := s.lookup_save p.clientId (some metadata) (fresh now) fills
    rwa [whose] at found
  -- The first one drops them.
  have second := ((knows.trans gets).trans dates).trans keeps
  have seen := second.deals_other (early.trans looks.deals) looks.stands (by decide)
  have first := second.stands_other looks.stands (by decide)
  obtain ⟨refusing, refuses⟩ := first.asks keeps.transport
  rw [dropping, keeps.store] at refuses
  have held := Store.get?_of_lookup (found begun.store given.dispatcher.now)
  rw [← refuses.store] at held
  obtain ⟨taken, last, _, come, drops, -⟩ := refuses.stands.drops
    (Store.invalidate?_eq_some_iff.mpr ⟨_, held, rfl⟩)
  refine ⟨_, _, _, _, looked, saving, saved, taken, last, early.trans looks.deals, ?_, saves,
    fresh _, ?_, ?_, ⟨_, drops⟩, seen.trans (refuses.deals.trans come)⟩
  · exact ((knows.trans gets).trans dates).reaches.trans reached.exists_run
  · rw [Option.some.inj saves.changed?.symm]
    exact found _ _
  · exact (after.trans refuses.reaches).trans come.exists_run

/-- A command that renews its tokens, and what it is answered in turn. -/
def renewal : SilentParameters :=
  { clientId := "app"
    scopes := []
    account := { homeAccountId := "user.home", environment := "login.example" }
    forceRefresh := true }

def oldCredential : Credential :=
  { account := renewal.account, refreshToken := some ⟨"first"⟩ }

def grant : HttpResponse :=
  { status := 200, body := "\x7b\"access_token\":\"a\",\"refresh_token\":\"second\"\x7d" }

def refusal : HttpResponse :=
  { status := 400, body := "\x7b\"error\":\"invalid_grant\",\"suberror\":\"bad_token\"\x7d" }

theorem grant_tokenResult :
    grant.tokenResult =
      .ok (.success { accessToken := "a", refreshToken := some "second" }) := by
  have read : (Json.parseText? grant.body).bind TokenResponse.ofJson? =
      some { accessToken := "a", refreshToken := some "second" } := by decide +kernel
  exact HttpResponse.tokenResult_of_read (by decide) read

theorem refusal_tokenResult : refusal.tokenResult = .ok (.error refusal.tokenError) :=
  if_pos (by decide)

/-- The credential is cached, and then the command is submitted. -/
def renewing : System :=
  System.asking (Store.save {} renewal.clientId oldCredential none)
    [.respond grant 0, .respond refusal 0]
    (Operation.supervised (service.silent renewal (some "first")))

theorem exists_renewed_dropped :
    ∃ newer metadata next dealings looked saving saved taken after,
      Deals 0 renewing [.lookedUp renewal.clientId renewal.account (.found oldCredential)]
        looked ∧
      looked.Reaches saving ∧
      saving.Takes 1 (.save renewal.clientId newer metadata next) saved ∧
      newer.refreshToken = some ⟨"second"⟩ ∧
      saved.store.lookup renewal.clientId renewal.account = .found newer ∧
      saved.Reaches taken ∧ taken.Drops 0 renewal.clientId renewal.account after ∧
      Deals 0 renewing dealings taken := by
  have cached : (Store.save {} renewal.clientId oldCredential none).lookup renewal.clientId
      renewal.account = .found oldCredential :=
    Store.lookup_save {} renewal.clientId none rfl (by decide)
  exact exists_newer_dropped service (some "first") rfl cached rfl rfl (by decide)
    grant_tokenResult rfl rfl (by decide) refusal_tokenResult (by decide +kernel)

/-- Newer tokens, which another command has saved since the lookup, are dropped as well. -/
theorem newer_tokens_dropped :
    ∃ newer metadata next dealings looked saving saved taken after,
      Deals 0 renewing [.lookedUp renewal.clientId renewal.account (.found oldCredential)]
        looked ∧
      looked.Reaches saving ∧
      saving.Takes 1 (.save renewal.clientId newer metadata next) saved ∧
      newer.refreshToken ≠ oldCredential.refreshToken ∧
      saved.store.lookup renewal.clientId renewal.account = .found newer ∧
      saved.Reaches taken ∧ taken.Drops 0 renewal.clientId renewal.account after ∧
      Deals 0 renewing dealings taken ∧
      after.store.lookup renewal.clientId renewal.account = .uiRequired := by
  obtain ⟨newer, metadata, next, dealings, looked, saving, saved, taken, after, looks, later,
    saves, own, found, last, drops, deals⟩ := exists_renewed_dropped
  refine ⟨newer, metadata, next, dealings, looked, saving, saved, taken, after, looks, later,
    saves, ?_, found, last, drops, deals, Store.lookup_of_invalidate? drops.invalidate?⟩
  rw [own]
  decide

/-- A command that is told that its refresh token is bad. -/
theorem sample_invalidates :
    ∃ dealings taken after, Deals 0 renewing dealings taken ∧
      taken.Drops 0 renewal.clientId renewal.account after ∧
      Invalidates service renewal (some "first") 0 renewing := by
  obtain ⟨_, _, _, dealings, _, _, _, taken, after, -, -, -, -, -, -, drops, deals⟩ :=
    exists_renewed_dropped
  let fresh : System := System.caching (Store.save {} renewal.clientId oldCredential none)
    [.respond grant 0, .respond refusal 0]
  exact ⟨dealings, taken, after, deals, drops,
    System.Run.invalidates (s := fresh) rfl rfl .refl service renewal (some "first") "first" 0⟩

end TokenAcquisition.Dispatch
