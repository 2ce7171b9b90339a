import TokenAcquisition.Proofs.Dispatch.Renewal
import TokenAcquisition.Proofs.Program.Requests
import TokenAcquisition.Proofs.Url.Host

/-!
Redirects to other clouds.  A response that names a host moves the one request that redeems its
code there, and nothing of that request but the host.  Whatever codes have been redeemed before,
and wherever, requests for authorization and refresh tokens go where the settings say.
-/

namespace TokenAcquisition

open Dispatch Url

namespace Dispatch.Deals

variable {system after : System} {lane : Lane} {correlationId : String} {reply : Nat}
  {program : Program (Except Breakdown Acquisition)} {dealings : List Dealing}

/-- Whatever has gone on in a system, a command that is submitted to it follows its program. -/
theorem exists_path_of_submitted
    (deals : Deals system.dispatcher.jobs.length
      (system.submitted lane correlationId reply program) dealings after) :
    ∃ last, program.Path dealings last := by
  obtain ⟨job, found, -, fresh⟩ := system.exists_submitted lane correlationId reply program
  exact deals.exists_path found fresh

end Dispatch.Deals

namespace Strategy

variable {s : Strategy} {request : AuthorizationRequest} {response : AuthorizationResponse}
  {bound : Option String} {name : String}

/-- A response moves its request to the host of a name: several clouds are supported, and the name
is not blank. -/
structure Moves (s : Strategy) (response : AuthorizationResponse) (name : String) : Prop where
  several : s.config.multipleClouds = true
  named : response.cloudHost = some name
  filled : Text.allBlank name = false

theorem endpointFor_of_not_moves (stays : ∀ name, ¬ s.Moves response name) :
    s.endpointFor response = .ok s.config.tokenEndpoint := by
  unfold endpointFor
  dsimp only
  split
  next several host =>
    obtain ⟨named, filled⟩ := Option.filter_eq_some_iff.mp host
    exact absurd ⟨several, named, by simpa using filled⟩ (stays _)
  next => rfl

theorem Moves.cloudHost (moves : s.Moves response name) :
    response.cloudHost.filter (fun host => !Text.allBlank host) = some name := by
  rw [moves.named, Option.filter_some, moves.filled]
  rfl

theorem Moves.endpointFor_of_ok {moved : Url} (moves : s.Moves response name)
    (given : s.config.tokenEndpoint.withHost name = .ok moved) :
    s.endpointFor response = .ok moved := by
  unfold endpointFor
  simp only [moves.cloudHost, moves.several, given]

theorem Moves.endpointFor_of_error {fault : Fault} (moves : s.Moves response name)
    (failed : s.config.tokenEndpoint.withHost name = .error fault) :
    s.endpointFor response = .error (.client ClientCode.malformedUrl
      ("invalid cloud instance host " ++ name ++ ": " ++ fault.message)) := by
  unfold endpointFor
  simp only [moves.cloudHost, moves.several, failed]

theorem tokenRequest_unnamed {tokenRequest : TokenRequest}
    (made : s.tokenRequest request response bound = .ok tokenRequest) :
    s.tokenRequest request { response with cloudHost := none } bound =
      .ok { tokenRequest with endpoint := s.config.tokenEndpoint } := by
  obtain ⟨endpoint, -, rfl⟩ := exceptMap_eq_ok_iff.mp made
  have stays : ∀ name, ¬ s.Moves { response with cloudHost := none } name :=
    fun _ moves => by cases moves.named
  rw [tokenRequest, endpointFor_of_not_moves stays]
  rfl

/-- What a redirect to another cloud changes, and what it does not. -/
structure Retargets (s : Strategy) : Prop where
  /-- A response that moves nothing is redeemed at the token endpoint of the settings. -/
  unmoved : ∀ request response bound, (∀ name, ¬ s.Moves response name) →
    ∃ tokenRequest, s.tokenRequest request response bound = .ok tokenRequest ∧
      tokenRequest.endpoint = s.config.tokenEndpoint
  /-- Any other is redeemed at that endpoint on the host that is read from the name.  Only what is
  before a colon is read, unless all of it is in brackets. -/
  moved : ∀ request response bound name host, s.config.tokenEndpoint.IsWeb →
    s.Moves response name → specialHost (beforePort name.toList) = .ok host →
    ∃ tokenRequest, s.tokenRequest request response bound = .ok tokenRequest ∧
      s.config.tokenEndpoint.IsRehosted tokenRequest.endpoint host
  /-- It is not redeemed at all when no host can be read. -/
  refused : ∀ request response bound name fault, s.config.tokenEndpoint.IsWeb →
    s.Moves response name → specialHost (beforePort name.toList) = .error fault →
    ∃ message, s.tokenRequest request response bound =
      .error (.client ClientCode.malformedUrl message)
  /-- But for the endpoint, the request is the same as without a name. -/
  rest : ∀ request response bound tokenRequest,
    s.tokenRequest request response bound = .ok tokenRequest →
    s.tokenRequest request { response with cloudHost := none } bound =
      .ok { tokenRequest with endpoint := s.config.tokenEndpoint }
  /-- Whatever went on in a system before, a command that is submitted to it redeems no code but
  the one that it is told of, and no response but that one moves its request. -/
  codes : ∀ (op : Operation) p bound (system after : System) lane correlationId reply dealings,
    op.strategy = s →
    Deals system.dispatcher.jobs.length (system.submitted lane correlationId reply
      (Operation.supervised (op.interactive p bound))) dealings after →
    dealings.filterMap Dealing.posted? = [] ∨
      ∃ request response tokenRequest,
        .launched request (.ok ()) ∈ dealings ∧
        .awaited op.timeout (some (.ok (.success response))) ∈ dealings ∧
        s.tokenRequest request response bound = .ok tokenRequest ∧
        dealings.filterMap Dealing.posted? = [tokenRequest]
  /-- It hands in refresh tokens at the endpoint of the settings. -/
  refreshes : ∀ program (system after : System) lane correlationId reply dealings,
    IsCommandOf s program →
    Deals system.dispatcher.jobs.length (system.submitted lane correlationId reply program)
      dealings after →
    ∀ request answer, .posted request answer ∈ dealings → request.isRefresh = true →
      request.endpoint = s.config.tokenEndpoint
  /-- It asks for authorization at the authority of the settings, so that the host which stands
  for the issuer in the cache is always the same. -/
  launches : ∀ program (system after : System) lane correlationId reply dealings,
    IsCommandOf s program →
    Deals system.dispatcher.jobs.length (system.submitted lane correlationId reply program)
      dealings after →
    ∀ request answer, .launched request answer ∈ dealings →
      request.authority = s.config.authority ∧
        s.cacheHost request.authority = s.cacheHost s.config.authority

theorem retargets (s : Strategy) : s.Retargets := by
  constructor
  case unmoved =>
    intro request response bound stays
    exact exists_tokenRequest request bound (endpointFor_of_not_moves stays)
  case moved =>
    intro request response bound name host isWeb moves made
    obtain ⟨moved, rehosted, isRehosted⟩ := isWeb.withHost made
    obtain ⟨tokenRequest, made, rfl⟩ :=
      exists_tokenRequest request bound (moves.endpointFor_of_ok rehosted)
    exact ⟨tokenRequest, made, isRehosted⟩
  case refused =>
    intro request response bound name fault isWeb moves failed
    obtain ⟨fault, unhosted⟩ := isWeb.withHost_of_error failed
    rw [tokenRequest, moves.endpointFor_of_error unhosted]
    exact ⟨_, rfl⟩
  case rest => exact fun _ _ _ _ made => tokenRequest_unnamed made
  case codes =>
    rintro op p bound system after lane correlationId reply dealings rfl deals
    obtain ⟨last, path⟩ := deals.exists_path_of_submitted
    rcases op.posted_cases path with
      nothing | ⟨seeds, request, response, earlier, tokenRequest, answer, later, redeems, rfl,
        settling⟩
    · exact .inl nothing
    · obtain ⟨rfl, -, made⟩ := redeems
      refine .inr ⟨request, response, tokenRequest, by simp, by simp, made, ?_⟩
      have one : Dealing.posted? (.posted tokenRequest answer) = some tokenRequest := rfl
      rw [List.filterMap_append, List.filterMap_cons_some one,
        Dealing.filterMap_posted?_eq_nil settling]
      rfl
  case refreshes =>
    rintro _ system after lane correlationId reply dealings ⟨op, command, bound, rfl, rfl⟩ deals
      request answer posted
    obtain ⟨last, path⟩ := deals.exists_path_of_submitted
    exact (command.asks op bound).path path _ posted
  case launches =>
    rintro _ system after lane correlationId reply dealings ⟨op, command, bound, rfl, rfl⟩ deals
      request answer launched
    obtain ⟨last, path⟩ := deals.exists_path_of_submitted
    have same : request.authority = op.strategy.config.authority :=
      (command.asks op bound).path path _ launched
    exact ⟨same, by rw [same]⟩

example :
    let endpoint : Url := { service.strategy.config.tokenEndpoint with
      authority := some { username := "me", host := "login.example", port := some 8443 } }
    endpoint.withHost "Login.Example.US:80/a?b#c@d" =
      .ok { endpoint with
        authority :=
          some { username := "me", host := "login.example.us", port := some 8443 } } := by
  decide +kernel

end Strategy

end TokenAcquisition
