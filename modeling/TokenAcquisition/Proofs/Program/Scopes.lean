import Mathlib.Data.List.Flatten
import TokenAcquisition.Proofs.Credential.File
import TokenAcquisition.Proofs.Lists
import TokenAcquisition.Proofs.Program.Requests
import TokenAcquisition.Proofs.Text.Words

/-!
Scopes on the wire.  Whatever scopes a command asks for, with blanks in them or not and in capital
letters or small ones, the value that it sends has every word of them and of the scopes of every
request, and the words come in the order in which they are asked for first.  That no word is sent
twice takes scopes that have no word in common; that single blanks are between the words takes
scopes that are written so.
-/

namespace TokenAcquisition

open Text

/-! ### Lists without repeats -/

theorem withoutRepeats_concat (same : String → String → Bool) (entries : List String)
    (entry : String) :
    withoutRepeats same (entries ++ [entry]) =
      if (withoutRepeats same entries).any fun kept => same kept entry then
        withoutRepeats same entries
      else withoutRepeats same entries ++ [entry] := by
  rw [withoutRepeats, List.foldl_concat]
  rfl

theorem withoutRepeats_sublist (same : String → String → Bool) (entries : List String) :
    (withoutRepeats same entries).Sublist entries := by
  induction entries using List.reverseRecOn with
  | nil => exact List.Sublist.refl []
  | append_singleton entries entry inductionHypothesis =>
      rw [withoutRepeats_concat]
      split
      · exact inductionHypothesis.trans (List.sublist_append_left entries [entry])
      · exact inductionHypothesis.append_right [entry]

/-- Entries that are told apart by their keys are those of the first occurrences of the keys. -/
theorem map_withoutRepeats (key : String → String) (entries : List String) :
    (withoutRepeats (fun a b => key a == key b) entries).map key =
      (entries.map key).eraseDups := by
  induction entries using List.reverseRecOn with
  | nil => rfl
  | append_singleton entries entry inductionHypothesis =>
      have found : ((withoutRepeats (fun a b => key a == key b) entries).any
          fun kept => key kept == key entry) = true ↔ key entry ∈ entries.map key := by
        rw [← List.mem_eraseDups, ← inductionHypothesis]
        simp
      rw [withoutRepeats_concat, List.map_append, List.map_singleton, Lists.eraseDups_concat]
      simp only [found]
      split
      · exact inductionHypothesis
      · rw [List.map_append, inductionHypothesis, List.map_singleton]

/-! ### What a value of several scopes says -/

/-- The words of a text in small letters. -/
def folded (s : String) : List String :=
  (words s).map lowerAscii

theorem mem_folded_iff {s word : String} :
    lowerAscii word ∈ folded s ↔ ∃ sent ∈ words s, sameIgnoringCase sent word = true := by
  simp [folded]

theorem folded_of_mem_words {s word : String} (member : word ∈ words s) :
    folded word = [lowerAscii word] := by
  rw [folded, words_of_mem_words member, List.map_singleton]

theorem flatMap_folded_words (s : String) : (words s).flatMap folded = folded s := by
  rw [List.flatMap_congr fun word member => folded_of_mem_words member, ← List.map_eq_flatMap]
  rfl

/-- What a value says of the scopes that are asked for. -/
structure Conveys (value : String) (asked : List String) : Prop where
  /-- Every word of them is in it, up to case. -/
  complete : ∀ scope ∈ asked, ∀ word ∈ words scope,
    ∃ sent ∈ words value, sameIgnoringCase sent word = true
  /-- It has no other words, and none in another order or spelling. -/
  written : (words value).Sublist (asked.flatMap words)
  /-- The first occurrences of words come in the same order. -/
  ordered : (folded value).eraseDups = (asked.flatMap folded).eraseDups

/-- Scopes without repeats, in one text. -/
def joined (key : String → String) (scopes : List String) : String :=
  " ".intercalate (withoutRepeats (fun a b => key a == key b) scopes)

variable {key : String → String} {f : String → List String} {value further : String}
  {scopes asked more : List String}

theorem Conveys.of_ordered (written : (words value).Sublist (asked.flatMap words))
    (ordered : (folded value).eraseDups = (asked.flatMap folded).eraseDups) :
    Conveys value asked where
  complete scope member word inside := by
    rw [← mem_folded_iff, ← List.mem_eraseDups, ordered, List.mem_eraseDups]
    exact List.mem_flatMap.mpr ⟨scope, member, List.mem_map_of_mem inside⟩
  written := written
  ordered := ordered

/-- What is conveyed by the words of a value is conveyed by way of the value. -/
theorem Conveys.trans (first : Conveys value asked)
    (second : Conveys further (words value ++ more)) : Conveys further (asked ++ more) := by
  refine .of_ordered ?_ ?_
  · refine second.written.trans ?_
    rw [List.flatMap_append, List.flatMap_append, flatMap_words_words]
    exact first.written.append_right _
  · rw [second.ordered, List.flatMap_append, List.flatMap_append, flatMap_folded_words]
    exact Lists.eraseDups_append_congr first.ordered _

section

variable (key) (own : ∀ scope, f (key scope) = folded scope)
include own

/-- Scopes of one key have the same words up to case. -/
theorem folded_joined (scopes : List String) :
    folded (joined key scopes) = (scopes.map key).eraseDups.flatMap f := by
  calc folded (joined key scopes)
    _ = (withoutRepeats (fun a b => key a == key b) scopes).flatMap folded := by
      rw [folded, joined, words_intercalate, List.map_flatMap]
      rfl
    _ = ((withoutRepeats (fun a b => key a == key b) scopes).map key).flatMap f := by
      rw [List.flatMap_map]
      exact List.flatMap_congr fun scope _ => (own scope).symm
    _ = (scopes.map key).eraseDups.flatMap f := by rw [map_withoutRepeats]

theorem conveys_joined (scopes : List String) : Conveys (joined key scopes) scopes := by
  refine .of_ordered ?_ ?_
  · rw [joined, words_intercalate]
    exact (withoutRepeats_sublist _ scopes).flatMap words
  · rw [folded_joined key own, Lists.eraseDups_flatMap_eraseDups, List.flatMap_map]
    exact congrArg List.eraseDups (List.flatMap_congr fun scope _ => own scope)

/-- No word is repeated just when scopes of different keys share none. -/
theorem nodup_folded_joined_iff :
    (folded (joined key scopes)).Nodup ↔ Lists.AreApart (scopes.map key) f := by
  rw [folded_joined key own]
  exact Lists.nodup_flatMap_eraseDups_iff

end

theorem isSpaced_joined_iff (key) (spaced : ∀ scope, IsSpaced (key scope) ↔ IsSpaced scope)
    (filled : scopes ≠ []) :
    IsSpaced (joined key scopes) ↔ ∀ scope ∈ scopes, IsSpaced scope := by
  have kept (k : String) :
      k ∈ (withoutRepeats (fun a b => key a == key b) scopes).map key ↔ k ∈ scopes.map key := by
    rw [map_withoutRepeats, List.mem_eraseDups]
  have some : withoutRepeats (fun a b => key a == key b) scopes ≠ [] := by
    intro none
    obtain ⟨first, inside⟩ := List.exists_mem_of_ne_nil scopes filled
    have found := (kept (key first)).mpr (List.mem_map_of_mem inside)
    simp [none] at found
  have each (scopes : List String) :
      (∀ scope ∈ scopes, IsSpaced scope) ↔ ∀ k ∈ scopes.map key, IsSpaced k := by
    simp [spaced]
  rw [joined, isSpaced_intercalate_iff some, each, each scopes]
  exact forall_congr' fun k => by rw [kept]

/-! ### What commands send -/

namespace Operation

/-- Scopes of a silent command are told apart ignoring case. -/
theorem requestScope_eq (scopes : List String) :
    requestScope scopes = joined lowerAscii (scopes ++ oidcScopes) :=
  rfl

theorem folded_eq_words_lowerAscii (scope : String) : words (lowerAscii scope) = folded scope :=
  words_lowerAscii scope

theorem words_requestScope_ne_nil (scopes : List String) : words (requestScope scopes) ≠ [] := by
  intro none
  have conveys := conveys_joined lowerAscii folded_eq_words_lowerAscii (scopes ++ oidcScopes)
  obtain ⟨sent, inside, -⟩ := conveys.complete "openid" (by simp [oidcScopes]) "openid" (by decide)
  rw [← requestScope_eq, none] at inside
  cases inside

/-- Every scope of a request for authorization, told apart by their spelling. -/
def fullScope (p : InteractiveParameters) : String :=
  joined id (words (requestScope p.scopes) ++ p.extraScopes)

/-- What commands send as their scope.  Silent ones tell whole scopes apart ignoring case;
interactive ones then tell the words of what they ask for from their extra scopes, but by their
spelling. -/
structure SendsScopes (op : Operation) : Prop where
  silent : ∀ p bound, ∃ value,
    (∀ dealings last, (supervised (op.silent p bound)).Path dealings last →
      ∀ request answer, .posted request answer ∈ dealings →
        request.form.lookup "scope" = some value) ∧
    Conveys value (p.scopes ++ oidcScopes) ∧
    ((folded value).Nodup ↔
      Lists.AreApart ((p.scopes ++ oidcScopes).map lowerAscii) words) ∧
    (IsSpaced value ↔ ∀ scope ∈ p.scopes, IsSpaced scope)
  /-- The request that redeems the code has the scope of the launch. -/
  interactive : ∀ p bound, ∃ value,
    (∀ dealings last, (supervised (op.interactive p bound)).Path dealings last →
      (∀ request answer, .launched request answer ∈ dealings → ∀ agent token id,
        (Flow.launchOf request agent token id).carried? "scope" = some value) ∧
      ∀ request answer, .posted request answer ∈ dealings →
        request.form.lookup "scope" = some value) ∧
    Conveys value (p.scopes ++ oidcScopes ++ p.extraScopes) ∧
    ((folded value).Nodup ↔
      Lists.AreApart (words (requestScope p.scopes) ++ p.extraScopes) folded) ∧
    (IsSpaced value ↔ ∀ scope ∈ p.extraScopes, IsSpaced scope)

variable {p : InteractiveParameters} {bound : Option String} {seeds : Seeds}
  {request : AuthorizationRequest}

theorem fullScope_of_builds (builds : Builds p seeds bound request) :
    request.fullScope = fullScope p := by
  rw [AuthorizationRequest.fullScope, builds.scope, builds.extraScopes]
  rfl

theorem carried?_scope (builds : Builds p seeds bound request) (agent : Agent) (token : Uuid)
    (id : Option String) :
    (Flow.launchOf request agent token id).carried? "scope" = some (fullScope p) := by
  rw [← fullScope_of_builds builds]
  exact (Exchange.launchedBy_launchOf builds agent token id "").scope

theorem scope_of_redeems {op : Operation} {response : AuthorizationResponse}
    {earlier : List Dealing} {tokenRequest : TokenRequest}
    (redeems : op.Redeems p bound seeds request response earlier tokenRequest) :
    tokenRequest.form.lookup "scope" = some (fullScope p) := by
  obtain ⟨endpoint, -, rfl⟩ := exceptMap_eq_ok_iff.mp redeems.made
  rw [← fullScope_of_builds (builds redeems.built)]
  rfl

theorem sendsScopes (op : Operation) : op.SendsScopes := by
  constructor
  case silent =>
    intro p bound
    have filled : p.scopes ++ oidcScopes ≠ [] := by simp [oidcScopes]
    have ofService : ∀ scope ∈ oidcScopes, IsSpaced scope := by decide
    refine ⟨requestScope p.scopes, ?_, conveys_joined lowerAscii folded_eq_words_lowerAscii _,
      nodup_folded_joined_iff lowerAscii folded_eq_words_lowerAscii, ?_⟩
    · intro dealings last path request answer posted
      have asks : (supervised (op.silent p bound)).Asks
          (fun request => request.form.lookup "scope" = some (requestScope p.scopes))
          fun _ => True :=
        op.asks_silent p bound fun token => rfl
      exact asks.path path _ posted
    · rw [requestScope_eq, isSpaced_joined_iff lowerAscii (fun _ => isSpaced_lowerAscii_iff) filled,
        List.forall_mem_append]
      exact and_iff_left ofService
  case interactive =>
    intro p bound
    have filled : words (requestScope p.scopes) ++ p.extraScopes ≠ [] := by
      simp [words_requestScope_ne_nil]
    have asked := conveys_joined lowerAscii folded_eq_words_lowerAscii (p.scopes ++ oidcScopes)
    refine ⟨fullScope p, fun dealings last path => ⟨?_, ?_⟩,
      asked.trans (conveys_joined id (fun _ => rfl) _), ?_, ?_⟩
    · intro request answer launched
      have asks : (supervised (op.interactive p bound)).Asks (fun _ => True) fun request =>
          ∀ agent token id,
            (Flow.launchOf request agent token id).carried? "scope" = some (fullScope p) :=
        op.asks_interactive p bound (fun seeds request built => carried?_scope (builds built))
          fun _ _ _ _ => trivial
      exact asks.path path _ launched
    · intro request answer posted
      rcases op.posted_cases path with
        nothing | ⟨seeds, built, response, earlier, tokenRequest, reply, later, redeems, rfl,
          settling⟩
      · have own := List.filterMap_eq_nil_iff.mp nothing _ posted
        cases own
      · rcases List.mem_append.mp posted with before | after
        · rw [redeems.earlier_eq] at before
          simp at before
        · rcases List.mem_cons.mp after with same | after
          · obtain ⟨rfl, -⟩ := Dealing.posted.inj same
            exact scope_of_redeems redeems
          · cases settling _ after
    · rw [fullScope, nodup_folded_joined_iff id fun _ => rfl, List.map_id]
    · rw [fullScope, isSpaced_joined_iff id (fun _ => Iff.rfl) filled,
        List.forall_mem_append]
      exact and_iff_right fun word inside => isSpaced_of_mem_words inside

/-- A user who is asked to consent to a scope that is always asked for, spelled in another way, is
asked for it twice; and so is the service for a scope that comes in a text with another one. -/
theorem scope_sent_twice :
    (∃ p dealings last request answer,
      (supervised (service.interactive p none)).Path dealings last ∧
      .launched request answer ∈ dealings ∧
      request.toUrl.queryPairs.lookup "scope" =
        some "user.read openid profile offline_access OpenId") ∧
    (∃ p dealings last request answer,
      (supervised (service.silent p none)).Path dealings last ∧
      .posted request answer ∈ dealings ∧
      request.form.lookup "scope" = some "user.read openid openid profile offline_access") ∧
    ¬ (folded "user.read openid profile offline_access OpenId").Nodup ∧
    ¬ (folded "user.read openid openid profile offline_access").Nodup := by
  refine ⟨?_, ?_, by decide +kernel, by decide +kernel⟩
  · let p : InteractiveParameters := { scopes := ["user.read"], extraScopes := ["OpenId"] }
    have derived : authorityEndpoint service.strategy.config.authority authorizePath =
        .ok (page "/common/oauth2/v2.0/authorize") := by decide +kernel
    obtain ⟨request, built⟩ : ∃ request,
        (service.authorizationDraft p).build { state := [0], verifier := [0] } none =
          .ok request := by
      rw [build_eq, derived]
      exact ⟨_, rfl⟩
    have launching : service.afterSeeds p none { state := [0], verifier := [0] } =
        .launch request (service.afterLaunch p none request) := by
      rw [afterSeeds, built]
    have path : (supervised (service.interactive p none)).Path
        [.seeds { state := [0], verifier := [0] }, .launched request (.ok ())]
        (service.afterLaunch p none request (.ok ())) := by
      rw [supervised_interactive]
      exact .step (.seeds _) (.step (launching ▸ .launch _) .here)
    refine ⟨p, _, _, request, .ok (), path, by simp, ?_⟩
    have carried := carried?_scope (builds built) { name := "browser" } (.ofRandom []) none
    exact carried.trans (congrArg some (by decide +kernel))
  · let cached : Credential := { account := Cache.sampleAccount, refreshToken := some ⟨"kept"⟩ }
    let p : SilentParameters :=
      { clientId := "app", scopes := ["user.read openid"], account := Cache.sampleAccount,
        forceRefresh := true }
    have posting : service.afterLookup p none (.found cached) =
        .post (service.refreshRequest p ⟨"kept"⟩ none)
          (service.afterRefresh p none cached ⟨"kept"⟩) :=
      afterLookup_found rfl rfl (by decide)
    have path : (supervised (service.silent p none)).Path
        [.lookedUp p.clientId p.account (.found cached),
          .posted (service.refreshRequest p ⟨"kept"⟩ none) (.panic "" 0)]
        (Program.afterPost (service.afterRefresh p none cached ⟨"kept"⟩) (.panic "" 0)) := by
      rw [supervised_silent]
      exact .step (.lookup (.found cached)) (.step (posting ▸ .post _) .here)
    refine ⟨p, _, _, _, _, path, List.mem_cons_of_mem _ (List.mem_cons_self ..), ?_⟩
    exact congrArg some (by decide +kernel)

end Operation

end TokenAcquisition
