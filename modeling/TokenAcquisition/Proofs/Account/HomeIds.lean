import TokenAcquisition.Proofs.Account.Building
import TokenAcquisition.Proofs.Authorization.Address
import TokenAcquisition.Proofs.Lists

/-!
Home account ids and their halves.  The id is divided at its first dot, so that a first half with
a dot of its own is not got back.  A request for an account asks for it by both halves of its id,
unless one of them is blank.
-/

namespace TokenAcquisition

/-! ### Division at the first dot -/

variable {id first : String}

theorem undotted_splitHomeAccountId (id : String) : '.' ∉ (splitHomeAccountId id).1.toList := by
  rw [splitHomeAccountId, String.toList_ofList]
  exact IdToken.undotted_takeWhile id.toList

theorem splitHomeAccountId_of_undotted (undotted : '.' ∉ id.toList) :
    splitHomeAccountId id = (id, "") := by
  have all := IdToken.ne_dot_of_mem undotted
  have front : id.toList.takeWhile (· ≠ '.') = id.toList := List.takeWhile_eq_self_iff.mpr all
  have rest : id.toList.dropWhile (· ≠ '.') = [] := List.dropWhile_eq_nil_iff.mpr all
  rw [splitHomeAccountId, front, rest, String.ofList_toList]
  rfl

theorem splitHomeAccountId_join (undotted : '.' ∉ first.toList) (second : String) :
    splitHomeAccountId (first ++ "." ++ second) = (first, second) := by
  have all := IdToken.ne_dot_of_mem undotted
  have stops : ∀ c ∈ ('.' :: second.toList).head?, decide (c ≠ '.') = false :=
    IdToken.dot_of_mem_head? (.inr rfl)
  have whole : (first ++ "." ++ second).toList = first.toList ++ '.' :: second.toList := by simp
  rw [splitHomeAccountId, whole, Lists.takeWhile_append_of_stops all stops,
    Lists.dropWhile_append_of_stops all stops]
  simp

/-- The halves of an id with a dot make up the id. -/
theorem join_splitHomeAccountId (dotted : '.' ∈ id.toList) :
    (splitHomeAccountId id).1 ++ "." ++ (splitHomeAccountId id).2 = id := by
  obtain ⟨front, rest, whole, before⟩ := List.eq_append_cons_of_mem dotted
  have same : id = String.ofList front ++ "." ++ String.ofList rest := by
    apply String.toList_inj.mp
    simp [whole]
  have undotted : '.' ∉ (String.ofList front).toList := by rwa [String.toList_ofList]
  rw [same, splitHomeAccountId_join undotted]

theorem splitHomeAccountId_homeAccountId_iff (info : ClientInfo) :
    splitHomeAccountId info.homeAccountId = (info.uid, info.utid) ↔ '.' ∉ info.uid.toList := by
  constructor
  · intro divided
    have undotted := undotted_splitHomeAccountId info.homeAccountId
    rwa [divided] at undotted
  · exact fun undotted => splitHomeAccountId_join undotted info.utid

example : splitHomeAccountId "a.b.c" = ("a", "b.c") := by decide

/-! ### Hints in requests -/

/-- Both halves of the home id have a character that is not blank. -/
def Account.HasHalves (account : Account) : Prop :=
  Text.allBlank account.tenantInfo.1 = false ∧ Text.allBlank account.tenantInfo.2 = false

instance (account : Account) : Decidable account.HasHalves :=
  inferInstanceAs (Decidable (_ ∧ _))

/-- What an account is asked for by. -/
def Account.hint? (account : Account) : Option (String × String) :=
  if account.HasHalves then some account.tenantInfo else none

theorem Account.isSome_hint?_iff {account : Account} :
    account.hint?.isSome = true ↔ account.HasHalves := by
  rw [hint?, Option.isSome_ite]

/-- The names of the two parameters that ask for an account. -/
def asksForAccount (name : String) : Bool :=
  name == "login_req" || name == "domain_req"

/-- How a request asks for an account. -/
structure AuthorizationRequest.AsksFor (request : AuthorizationRequest) (account : Account) :
    Prop where
  uid : request.uid.isSome = true ↔ account.HasHalves
  utid : request.utid.isSome = true ↔ account.HasHalves
  halves : account.HasHalves → request.uid = some account.tenantInfo.1 ∧
    request.utid = some account.tenantInfo.2
  /-- The query of the URL is that of the endpoint, then the named parameters, then what is passed
  on as it is. -/
  query : request.toUrl.queryPairs =
    request.endpoint.queryPairs ++ request.rows.filterMap AuthorizationRequest.given? ++
      request.flightParameters.entries ++ request.extraQuery
  /-- Of the named parameters two ask for the account, or none. -/
  parameters : (request.rows.filterMap AuthorizationRequest.given?).filter
      (fun parameter => asksForAccount parameter.1) =
    if account.HasHalves then
      [("login_req", account.tenantInfo.1), ("domain_req", account.tenantInfo.2)]
    else []

theorem Strategy.draft_some (s : Strategy) (account : Account) :
    s.draft (some account) =
      { s.draft none with
        uid := account.hint?.map Prod.fst
        utid := account.hint?.map Prod.snd } := by
  have halves : ((some account).map Account.tenantInfo).filter (fun halves =>
      !Text.allBlank halves.1 && !Text.allBlank halves.2) = account.hint? := by
    by_cases filled : account.HasHalves
    · rw [Account.hint?, if_pos filled]
      simp [filled.1, filled.2]
    · rw [Account.hint?, if_neg filled]
      simpa [Account.HasHalves] using filled
  rw [draft, halves]
  rfl

/-- A request has the hints of its draft. -/
theorem AuthorizationDraft.hints_of_build {draft : AuthorizationDraft} {seeds : Seeds}
    {bound : Option String} {request : AuthorizationRequest}
    (built : draft.build seeds bound = .ok request) :
    request.uid = draft.uid ∧ request.utid = draft.utid := by
  rw [build] at built
  simp only [exceptBind_eq_ok_iff] at built
  obtain ⟨clientId, -, redirectUri, -, authority, -, scope, -, made⟩ := built
  cases own : draft.endpoint with
  | some endpoint =>
      rw [own] at made
      obtain rfl := Except.ok.inj made
      exact ⟨rfl, rfl⟩
  | none =>
      rw [own] at made
      obtain ⟨endpoint, -, made⟩ := exceptBind_eq_ok_iff.mp made
      obtain rfl := Except.ok.inj made
      exact ⟨rfl, rfl⟩

namespace AuthorizationRequest

theorem filter_asksForAccount (rows : List (String × Option String)) :
    (rows.filterMap given?).filter (fun parameter => asksForAccount parameter.1) =
      (rows.filter fun row => asksForAccount row.1).filterMap given? := by
  induction rows with
  | nil => rfl
  | cons row rows inductionHypothesis =>
      obtain ⟨name, value⟩ := row
      rw [filterMap_given?_cons, List.filter_append, inductionHypothesis, List.filter_cons]
      cases asks : asksForAccount name <;> cases value <;>
        simp [given?, asks, filterMap_given?_cons]

/-- The named parameters that ask for an account are both there or both absent. -/
theorem accountParameters_eq (request : AuthorizationRequest) :
    (request.rows.filterMap given?).filter (fun parameter => asksForAccount parameter.1) =
      match request.uid, request.utid with
      | some uid, some utid => [("login_req", uid), ("domain_req", utid)]
      | _, _ => [] := by
  rw [filter_asksForAccount, rows]
  cases request.uid <;> cases request.utid <;> simp [asksForAccount, given?]

end AuthorizationRequest

namespace Strategy

variable {s : Strategy} {account : Account} {given : AuthorizationDraft} {seeds : Seeds}
  {bound : Option String} {request : AuthorizationRequest}

/-- A request that names no halves of its own asks for the account that its draft was made for. -/
theorem asksFor_of_build (uid : given.uid = none) (utid : given.utid = none)
    (built : ((s.draft (some account)).override given).build seeds bound = .ok request) :
    request.AsksFor account := by
  obtain ⟨ownUid, ownUtid⟩ := AuthorizationDraft.hints_of_build built
  have ownUid : request.uid = account.hint?.map Prod.fst := by
    simp only [ownUid, draft_some, AuthorizationDraft.override, uid, Option.orElse_eq_orElse,
      Option.orElse_none]
  have ownUtid : request.utid = account.hint?.map Prod.snd := by
    simp only [ownUtid, draft_some, AuthorizationDraft.override, utid, Option.orElse_eq_orElse,
      Option.orElse_none]
  constructor
  case uid => rw [ownUid, Option.isSome_map, Account.isSome_hint?_iff]
  case utid => rw [ownUtid, Option.isSome_map, Account.isSome_hint?_iff]
  case halves =>
    intro filled
    rw [Account.hint?, if_pos filled] at ownUid ownUtid
    exact ⟨ownUid, ownUtid⟩
  case query => exact request.carriedBy_toUrl.pairs
  case parameters =>
    rw [request.accountParameters_eq, ownUid, ownUtid, Account.hint?]
    by_cases filled : account.HasHalves
    · simp only [if_pos filled, Option.map_some]
    · simp only [if_neg filled, Option.map_none]

/-- What becomes of the halves of home account ids. -/
structure SplitsHomeIds (s : Strategy) : Prop where
  /-- The account of an id token and a client info has the halves of the client info, unless the
  first of these has a dot. -/
  halves : ∀ token (info : ClientInfo),
    (Account.ofIdToken token info).tenantInfo = (info.uid, info.utid) ↔ '.' ∉ info.uid.toList
  /-- So has the account of a response. -/
  account : ∀ {endpoint response claims info account}, response.Identifies claims info →
    s.account endpoint response = .ok account →
    (account.tenantInfo = (info.uid, info.utid) ↔ '.' ∉ info.uid.toList)
  dotted : ∀ id : String, '.' ∈ id.toList →
    (splitHomeAccountId id).1 ++ "." ++ (splitHomeAccountId id).2 = id
  undotted : ∀ id : String, '.' ∉ id.toList → splitHomeAccountId id = (id, "")
  /-- A request that names no halves of its own asks for the account that it was begun for. -/
  request : ∀ {account given seeds bound request}, given.uid = none → given.utid = none →
    ((s.draft (some account)).override given).build seeds bound = .ok request →
    request.AsksFor account

theorem splitsHomeIds (s : Strategy) : s.SplitsHomeIds := by
  constructor
  case halves => exact fun token info => splitHomeAccountId_homeAccountId_iff info
  case account =>
    intro endpoint response claims info account identifies made
    obtain rfl := Except.ok.inj (made.symm.trans (account_of_identifies identifies))
    exact splitHomeAccountId_homeAccountId_iff info
  case dotted => exact fun id dotted => join_splitHomeAccountId dotted
  case undotted => exact fun id undotted => splitHomeAccountId_of_undotted undotted
  case request => exact asksFor_of_build

end Strategy

end TokenAcquisition
