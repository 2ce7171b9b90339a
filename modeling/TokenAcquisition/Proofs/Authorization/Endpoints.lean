import TokenAcquisition.Proofs.Url.Web
import TokenAcquisition.Settings

/-!
Endpoints are under the tenant of their authority.  The path of an authority of the web is kept
whole, with a slash behind it if it has none, and the path of the endpoint comes behind that.  So
settings that are accepted have a strategy.
-/

namespace TokenAcquisition

namespace Url

variable {url : Url} {path : String}

/-- A path with a slash at its end. -/
def slashed (path : String) : String :=
  if path.toList.getLast? = some '/' then path else path ++ "/"

theorem IsWebPath.slashed (isWeb : IsWebPath path.toList) :
    IsClosedPath (slashed path).toList := by
  obtain ⟨before, last, isClosed, isSegment, parts⟩ := isWeb
  unfold Url.slashed
  split
  next ends =>
    rcases List.eq_nil_or_concat last with rfl | ⟨others, c, rfl⟩
    · rwa [parts, List.append_nil]
    · have isChar := isSegment.chars c (by simp)
      rw [parts, List.concat_eq_append, ← List.append_assoc, List.getLast?_concat] at ends
      exact absurd (Option.some.inj ends) isChar.ne_slash
  next =>
    have whole : (path ++ "/").toList = before ++ last ++ ['/'] := by
      rw [String.toList_append, parts]
      rfl
    rw [whole]
    exact isClosed.concat isSegment

theorem slashed_of_slashed (path : String) : slashed (slashed path) = slashed path := by
  by_cases ends : path.toList.getLast? = some '/'
  · have kept : slashed path = path := if_pos ends
    rw [kept, kept]
  · have added : slashed path = path ++ "/" := if_neg ends
    rw [added]
    exact if_pos (by simp)

/-- A path of segments is set as it stands. -/
theorem IsWeb.withPath (isWeb : url.IsWeb) (isWebPath : IsWebPath path.toList) :
    url.withPath path = { url with path } := by
  rw [Url.withPath, isWeb.hasPathText, isWeb.kind, isWebPath.startPath, String.ofList_toList]
  rfl

theorem isSegments_authorizePath : IsSegments authorizePath.toList where
  segments := ⟨["oauth2".toList, "v2.0".toList], "authorize".toList, by decide, by decide, rfl⟩
  trimmed := by decide
  schemeless := by decide
  relative := by decide
  filled := by decide
  unended := List.all_iff_forall_prop.mp (by decide)
  unbroken := List.all_iff_forall_prop.mp (by decide)

theorem isSegments_tokenPath : IsSegments tokenPath.toList where
  segments := ⟨["oauth2".toList, "v2.0".toList], "token".toList, by decide, by decide, rfl⟩
  trimmed := by decide
  schemeless := by decide
  relative := by decide
  filled := by decide
  unended := List.all_iff_forall_prop.mp (by decide)
  unbroken := List.all_iff_forall_prop.mp (by decide)

end Url

open Url (IsWebPath IsSegments slashed)

variable {authority : Url} {path : String}

theorem authorityEndpoint_of_isWeb (isWeb : authority.IsWeb)
    (isWebPath : IsWebPath authority.path.toList) (isSegments : IsSegments path.toList) :
    authorityEndpoint authority path =
      .ok { authority with
        path := slashed authority.path ++ path, query := none, fragment := none } := by
  have isClosed := isWebPath.slashed
  have base : (if authority.path.toList.getLast? = some '/' then authority
      else authority.withPath (authority.path ++ "/")) =
      { authority with path := slashed authority.path } := by
    unfold slashed at isClosed ⊢
    split
    next => rfl
    next open' =>
      rw [if_neg open'] at isClosed
      exact isWeb.withPath isClosed.isWebPath
  have isWebToo : Url.IsWeb { authority with path := slashed authority.path } :=
    ⟨isWeb.scheme, isWeb.located⟩
  unfold authorityEndpoint
  simp only [base, isWebToo.join isClosed isSegments]

/-- A slash behind the path of the authority makes no difference. -/
theorem authorityEndpoint_slashed (isWeb : authority.IsWeb)
    (isWebPath : IsWebPath authority.path.toList) (isSegments : IsSegments path.toList) :
    authorityEndpoint { authority with path := slashed authority.path } path =
      authorityEndpoint authority path := by
  have isWebToo : Url.IsWeb { authority with path := slashed authority.path } :=
    ⟨isWeb.scheme, isWeb.located⟩
  rw [authorityEndpoint_of_isWeb isWeb isWebPath isSegments,
    authorityEndpoint_of_isWeb isWebToo isWebPath.slashed.isWebPath isSegments]
  simp only [Url.slashed_of_slashed]

namespace Settings

variable {settings : Settings} {draft : Draft} {text : String} {clientId : Option String}

/-- What accepted settings say of the strategy is what the document says. -/
structure IsReadFrom (settings : Settings) (draft : Draft) : Prop where
  authority : Url.parse draft.authority = .ok settings.authority
  scheme : settings.authority.scheme = "https"
  slice : settings.slice = draft.slice
  dc : settings.dc = draft.dc
  multipleClouds : settings.multipleClouds = draft.multipleClouds
  flightParameters : settings.flightParameters = draft.flightParameters

theorem isReadFrom_of_ofDraft (accepted : ofDraft draft = .ok settings) :
    settings.IsReadFrom draft := by
  unfold ofDraft at accepted
  simp only [demand_bind_eq_ok_iff] at accepted
  obtain ⟨-, -, accepted⟩ := accepted
  cases read : Url.parse draft.authority with
  | error fault =>
      rw [read] at accepted
      cases accepted
  | ok url =>
      simp only [read, pure_bind, demand_bind_eq_ok_iff, beq_iff_eq] at accepted
      obtain ⟨https, -, -, -, accepted⟩ := accepted
      obtain rfl := Except.ok.inj accepted
      exact ⟨read, https, rfl, rfl, rfl, rfl⟩

theorem exists_isReadFrom (read : parse text clientId = .ok settings) :
    ∃ draft, (Toml.parse? text).bind draft? = some draft ∧ settings.IsReadFrom draft := by
  unfold parse at read
  split at read
  next draft found =>
    have accepted := isReadFrom_of_ofDraft read
    exact ⟨draft, found, accepted.authority, accepted.scheme, accepted.slice, accepted.dc,
      accepted.multipleClouds, accepted.flightParameters⟩
  next => cases read

/-- The strategy of accepted settings. -/
structure Configures (settings : Settings) (draft : Draft) (config : StrategyConfig) : Prop where
  authority : config.authority = settings.authority
  tokenEndpoint : config.tokenEndpoint =
    { settings.authority with
      path := slashed settings.authority.path ++ tokenPath, query := none, fragment := none }
  scheme : config.tokenEndpoint.scheme = "https"
  /-- There is a slice if and only if the document has one of its two parts. -/
  sliced : config.slice.isSome = true ↔ draft.slice.isSome = true ∨ draft.dc.isSome = true
  slice : ∀ slice ∈ config.slice, slice.slice = draft.slice ∧ slice.dc = draft.dc
  multipleClouds : config.multipleClouds = draft.multipleClouds
  flightParameters : config.flightParameters = draft.flightParameters

/-- No failure is left for after the settings have been accepted. -/
theorem IsReadFrom.exists_config (isReadFrom : settings.IsReadFrom draft) :
    ∃ config, settings.strategyConfig = .ok config ∧ settings.Configures draft config := by
  obtain ⟨isWeb, isWebPath⟩ := Url.isWeb_of_parse isReadFrom.authority (.inr isReadFrom.scheme)
  have derived := authorityEndpoint_of_isWeb isWeb isWebPath Url.isSegments_tokenPath
  unfold strategyConfig StrategyConfig.ofAuthority
  simp only [derived, Except.map]
  refine ⟨_, rfl, ?_⟩
  constructor
  case authority | tokenEndpoint => rfl
  case scheme => exact isReadFrom.scheme
  case sliced =>
    rw [← isReadFrom.slice, ← isReadFrom.dc, ← Bool.or_eq_true]
    split
    next given => exact iff_of_true rfl given
    next absent => exact iff_of_false nofun absent
  case slice =>
    intro slice member
    rw [← isReadFrom.slice, ← isReadFrom.dc]
    dsimp only at member
    split at member
    next =>
      obtain rfl := Option.some.inj member
      exact ⟨rfl, rfl⟩
    next => cases member
  case multipleClouds => exact isReadFrom.multipleClouds
  case flightParameters => exact isReadFrom.flightParameters

end Settings

/-- Endpoints are where their authority is, under its path, and settings that are accepted lead to
one. -/
structure TenantsAreKept : Prop where
  /-- Every URL of the web that is read from a text is one that endpoints are derived from. -/
  read : ∀ text authority, Url.parse text = .ok authority →
    (authority.scheme = "http" ∨ authority.scheme = "https") →
    authority.IsWeb ∧ IsWebPath authority.path.toList
  derived : ∀ authority path, authority.IsWeb → IsWebPath authority.path.toList →
    (path = authorizePath ∨ path = tokenPath) →
    authorityEndpoint authority path =
      .ok { authority with
        path := slashed authority.path ++ path, query := none, fragment := none }
  /-- A slash behind the authority makes no difference. -/
  slash : ∀ authority path, authority.IsWeb → IsWebPath authority.path.toList →
    (path = authorizePath ∨ path = tokenPath) →
    authorityEndpoint { authority with path := slashed authority.path } path =
      authorityEndpoint authority path
  configured : ∀ text clientId settings, Settings.parse text clientId = .ok settings →
    ∃ draft config, (Toml.parse? text).bind Settings.draft? = some draft ∧
      Url.parse draft.authority = .ok settings.authority ∧
      settings.strategyConfig = .ok config ∧ settings.Configures draft config

theorem tenantsAreKept : TenantsAreKept := by
  have segments {path : String} (known : path = authorizePath ∨ path = tokenPath) :
      IsSegments path.toList := by
    rcases known with rfl | rfl
    · exact Url.isSegments_authorizePath
    · exact Url.isSegments_tokenPath
  constructor
  case read => exact fun text authority read scheme => Url.isWeb_of_parse read scheme
  case derived =>
    exact fun authority path isWeb isWebPath known =>
      authorityEndpoint_of_isWeb isWeb isWebPath (segments known)
  case slash =>
    exact fun authority path isWeb isWebPath known =>
      authorityEndpoint_slashed isWeb isWebPath (segments known)
  case configured =>
    intro text clientId settings read
    obtain ⟨draft, found, isReadFrom⟩ := Settings.exists_isReadFrom read
    obtain ⟨config, made, configures⟩ := isReadFrom.exists_config
    exact ⟨draft, config, found, isReadFrom.authority, made, configures⟩

example : (Url.parse "https://me@login.example:444/contoso//a%2Fb?x=1#y").toOption.map
    (fun authority => (authorityEndpoint authority tokenPath).toOption.map Url.render) =
      some (some "https://me@login.example:444/contoso//a%2Fb/oauth2/v2.0/token") := by
  decide +kernel

end TokenAcquisition
