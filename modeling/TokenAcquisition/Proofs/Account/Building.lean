import TokenAcquisition.Proofs.Account.Encoded
import TokenAcquisition.Strategy

/-!
The account of a response.  It is made of what the id token and the client info carry and of the
endpoint that was asked, and the issuer that the id token names has no part in it.  A response
without an account is refused for the first of four faults.
-/

namespace TokenAcquisition

open Json (IsWrittenIn Stands)

/-- What keeps an account from being made of a response, and the code of the failure.  Each fault
counts only if those before it are absent. -/
inductive TokenResponse.LacksAccount (response : TokenResponse) : String → Prop where
  | noIdToken : response.idToken = none → LacksAccount response ClientCode.invalidIdToken
  | noClientInfo {idToken : String} : response.idToken = some idToken →
      response.clientInfo = none → LacksAccount response ClientCode.invalidClientInfo
  | faultyIdToken {idToken clientInfo : String} : response.idToken = some idToken →
      response.clientInfo = some clientInfo → IdToken.IsFaulty idToken →
      LacksAccount response ClientCode.invalidIdToken
  | faultyClientInfo {idToken clientInfo : String} {claims : IdTokenClaims} :
      response.idToken = some idToken → response.clientInfo = some clientInfo →
      IdToken.Carries idToken claims → ClientInfo.IsFaulty clientInfo →
      LacksAccount response ClientCode.invalidClientInfo

/-- The response carries what an account is made of. -/
structure TokenResponse.Identifies (response : TokenResponse) (claims : IdTokenClaims)
    (info : ClientInfo) : Prop where
  idToken : ∃ raw, response.idToken = some raw ∧ IdToken.Carries raw claims
  clientInfo : ∃ raw, response.clientInfo = some raw ∧ ClientInfo.Carries raw info

/-- A response identifies a user or lacks something for it. -/
theorem TokenResponse.identifies_or_lacksAccount (response : TokenResponse) :
    (∃ claims info, response.Identifies claims info) ∨ ∃ code, response.LacksAccount code := by
  cases own : response.idToken with
  | none => exact .inr ⟨_, .noIdToken own⟩
  | some idToken =>
      cases ownInfo : response.clientInfo with
      | none => exact .inr ⟨_, .noClientInfo own ownInfo⟩
      | some clientInfo =>
          by_cases carries : ∃ claims, IdToken.Carries idToken claims
          · obtain ⟨claims, carries⟩ := carries
            by_cases carriesInfo : ∃ info, ClientInfo.Carries clientInfo info
            · obtain ⟨info, carriesInfo⟩ := carriesInfo
              exact .inl ⟨claims, info, ⟨idToken, own, carries⟩, clientInfo, ownInfo, carriesInfo⟩
            · exact .inr ⟨_, .faultyClientInfo own ownInfo carries
                (ClientInfo.isFaulty_iff.mpr (not_exists.mp carriesInfo))⟩
          · exact .inr ⟨_, .faultyIdToken own ownInfo
              (IdToken.isFaulty_iff.mpr (not_exists.mp carries))⟩

namespace Strategy

variable {s : Strategy} {endpoint : Url} {response : TokenResponse} {claims : IdTokenClaims}
  {info : ClientInfo} {account : Account}

/-- The account of a user whom an endpoint vouches for. -/
def accountOf (s : Strategy) (endpoint : Url) (claims : IdTokenClaims) (info : ClientInfo) :
    Account :=
  { homeAccountId := info.uid ++ "." ++ info.utid
    environment := s.cacheHost endpoint
    realm := claims.tid
    localAccountId := if claims.oid.isSome then claims.oid else claims.sub
    username := claims.preferredUsername
    name := claims.name }

theorem ofIdToken_eq_accountOf (token : IdToken) (info : ClientInfo) :
    { Account.ofIdToken token info with environment := s.cacheHost endpoint } =
      s.accountOf endpoint token.claims info := by
  cases own : token.claims.oid <;> simp [Account.ofIdToken, accountOf, own] <;> rfl

theorem account_of_some {idToken clientInfo : String} (own : response.idToken = some idToken)
    (ownInfo : response.clientInfo = some clientInfo) :
    s.account endpoint response =
      (IdToken.parse idToken).bind fun token => (ClientInfo.parse clientInfo).bind fun info =>
        .ok (s.accountOf endpoint token.claims info) := by
  simp only [account, own, ownInfo]
  cases IdToken.parse idToken with
  | error failure => rfl
  | ok token =>
      cases ClientInfo.parse clientInfo with
      | error failure => rfl
      | ok info => exact congrArg Except.ok (ofIdToken_eq_accountOf token info)

theorem account_of_identifies (identifies : response.Identifies claims info) :
    s.account endpoint response = .ok (s.accountOf endpoint claims info) := by
  obtain ⟨idToken, own, carries⟩ := identifies.idToken
  obtain ⟨clientInfo, ownInfo, carriesInfo⟩ := identifies.clientInfo
  rw [account_of_some own ownInfo, carries.parse, ClientInfo.parse_eq_ok_iff.mpr carriesInfo]
  rfl

theorem account_of_lacksAccount {code : String} (lacks : response.LacksAccount code) :
    ∃ message, s.account endpoint response = .error (.client code message) := by
  cases lacks with
  | noIdToken absent =>
      simp only [account, absent]
      exact ⟨_, rfl⟩
  | noClientInfo own absent =>
      simp only [account, own, absent]
      exact ⟨_, rfl⟩
  | faultyIdToken own ownInfo faulty =>
      rcases IdToken.parse_cases _ with ⟨token, read⟩ | ⟨message, refused⟩
      · exact absurd (IdToken.parse_eq_ok_iff.mp read).2 (IdToken.isFaulty_iff.mp faulty _)
      · rw [account_of_some own ownInfo, refused]
        exact ⟨message, rfl⟩
  | faultyClientInfo own ownInfo carries faulty =>
      rcases ClientInfo.parse_cases _ with ⟨info, readInfo⟩ | ⟨message, refused⟩
      · exact absurd (ClientInfo.parse_eq_ok_iff.mp readInfo) (ClientInfo.isFaulty_iff.mp faulty _)
      · rw [account_of_some own ownInfo, carries.parse, refused]
        exact ⟨message, rfl⟩

/-- What accounts are made of, and when none is. -/
structure BuildsAccounts (s : Strategy) : Prop where
  /-- An id token gives back the claims that it carries and its own text. -/
  idToken : ∀ raw token,
    IdToken.parse raw = .ok token ↔ token.raw = raw ∧ IdToken.Carries raw token.claims
  clientInfo : ∀ raw info, ClientInfo.parse raw = .ok info ↔ ClientInfo.Carries raw info
  /-- Claims are carried by whatever header, by JSON of an object in which they are written, in
  any order and among others, with padding or without, and whatever follows the next dot. -/
  carries : ∀ (claims : IdTokenClaims) kept extra all bytes header rest padding,
    IsWrittenIn IdTokenClaims.fields claims.members kept extra all → Stands (.record all) bytes →
    '.' ∉ header → (rest = [] ∨ rest.head? = some '.') →
    IdToken.Carries (String.ofList (header ++ '.' :: ((Text.Base64Url.encode bytes).toList ++
      List.replicate padding '=' ++ rest))) claims
  carriesInfo : ∀ (info : ClientInfo) kept extra all bytes padding,
    IsWrittenIn ClientInfo.fields info.members kept extra all → Stands (.record all) bytes →
    ClientInfo.Carries (String.ofList ((Text.Base64Url.encode bytes).toList ++
      List.replicate padding '=')) info
  /-- There is such JSON of all claims. -/
  written : ∀ claims : IdTokenClaims,
    IsWrittenIn IdTokenClaims.fields claims.members claims.members [] claims.members ∧
      Stands (.record claims.members) (Text.encode (Json.record claims.members).render)
  /-- There is such JSON of all client infos. -/
  writtenInfo : ∀ info : ClientInfo,
    IsWrittenIn ClientInfo.fields info.members info.members [] info.members ∧
      Stands (.record info.members) (Text.encode (Json.record info.members).render)
  /-- An account is made of what is carried and of the endpoint. -/
  made : ∀ endpoint response account, s.account endpoint response = .ok account ↔
    ∃ claims info, response.Identifies claims info ∧ account = s.accountOf endpoint claims info
  /-- The issuer has no part in it. -/
  issuer : ∀ endpoint (response other : TokenResponse) claims iss info,
    response.Identifies claims info → other.Identifies { claims with iss } info →
    s.account endpoint response = s.account endpoint other
  /-- None is made for the first fault that a response has, and for nothing else. -/
  refused : ∀ endpoint response code,
    (∃ message, s.account endpoint response = .error (.client code message)) ↔
      response.LacksAccount code
  clientFault : ∀ endpoint response failure, s.account endpoint response = .error failure →
    ∃ code message, failure = .client code message

theorem account_eq_ok_iff :
    s.account endpoint response = .ok account ↔
      ∃ claims info, response.Identifies claims info ∧
        account = s.accountOf endpoint claims info := by
  constructor
  · intro made
    rcases response.identifies_or_lacksAccount with ⟨claims, info, identifies⟩ | ⟨code, lacks⟩
    · rw [account_of_identifies identifies] at made
      exact ⟨claims, info, identifies, (Except.ok.inj made).symm⟩
    · obtain ⟨message, refused⟩ := account_of_lacksAccount lacks
      cases made.symm.trans refused
  · rintro ⟨claims, info, identifies, rfl⟩
    exact account_of_identifies identifies

/-- A failure is due to what the response lacks. -/
theorem exists_lacksAccount {failure : Failure}
    (refused : s.account endpoint response = .error failure) :
    ∃ code message, failure = .client code message ∧ response.LacksAccount code := by
  rcases response.identifies_or_lacksAccount with ⟨claims, info, identifies⟩ | ⟨code, lacks⟩
  · cases refused.symm.trans (account_of_identifies identifies)
  · obtain ⟨message, own⟩ := account_of_lacksAccount lacks
    exact ⟨code, message, Except.error.inj (refused.symm.trans own), lacks⟩

theorem buildsAccounts (s : Strategy) : s.BuildsAccounts := by
  constructor
  case idToken => exact fun raw token => IdToken.parse_eq_ok_iff
  case clientInfo => exact fun raw info => ClientInfo.parse_eq_ok_iff
  case carries =>
    intro claims kept extra all bytes header rest padding written stands undotted ends
    refine ⟨_, bytes, ⟨?_, header, rest, undotted, ends, String.toList_ofList⟩, ⟨padding, rfl⟩,
      IdTokenClaims.isStatedBy_of_isWrittenIn written stands⟩
    intro member
    rcases List.mem_append.mp member with symbol | padding
    · exact (Text.Base64Url.ne_of_mem_encode symbol).1 rfl
    · exact absurd (List.eq_of_mem_replicate padding) (by decide)
  case carriesInfo =>
    intro info kept extra all bytes padding written stands
    exact ⟨bytes, ⟨padding, String.toList_ofList⟩,
      ClientInfo.isStatedBy_of_isWrittenIn written stands⟩
  case written => exact fun claims => ⟨Json.isWrittenIn_self _ _, claims.stands_members⟩
  case writtenInfo => exact fun info => ⟨Json.isWrittenIn_self _ _, info.stands_members⟩
  case made => exact fun endpoint response account => account_eq_ok_iff
  case issuer =>
    intro endpoint response other claims iss info identifies identifiesToo
    rw [account_of_identifies identifies, account_of_identifies identifiesToo]
    rfl
  case refused =>
    intro endpoint response code
    constructor
    · rintro ⟨message, refused⟩
      obtain ⟨own, _, same, lacks⟩ := exists_lacksAccount refused
      obtain rfl : code = own := (Failure.Cause.client.inj (congrArg Failure.cause same)).1
      exact lacks
    · exact account_of_lacksAccount
  case clientFault =>
    intro endpoint response failure refused
    obtain ⟨code, message, same, -⟩ := exists_lacksAccount refused
    exact ⟨code, message, same⟩

end Strategy

end TokenAcquisition
