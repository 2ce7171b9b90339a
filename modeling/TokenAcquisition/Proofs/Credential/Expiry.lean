import TokenAcquisition.Credential.Basic
import TokenAcquisition.Token.Response

/-!
When an access token counts as valid.  The end that is written down with a token is held at the
last instant that a word can tell, but the time five minutes from now is not: in the last five
minutes before that instant the sum overflows, and whoever asks for the validity of a token is told
nothing.  At all other times validity is what whole numbers say, and no token outlives the lifetime
it came with.
-/

namespace TokenAcquisition

theorem toNat_saturatingAdd (a b : UInt64) :
    (saturatingAdd a b).toNat = min (a.toNat + b.toNat) (UInt64.size - 1) := by
  have below : min (a.toNat + b.toNat) (UInt64.size - 1) < UInt64.size := by
    have positive : 0 < UInt64.size := by decide
    omega
  exact UInt64.toNat_ofNat_of_lt' below

theorem toNat_saturatingMul (a b : UInt64) :
    (saturatingMul a b).toNat = min (a.toNat * b.toNat) (UInt64.size - 1) := by
  have below : min (a.toNat * b.toNat) (UInt64.size - 1) < UInt64.size := by
    have positive : 0 < UInt64.size := by decide
    omega
  exact UInt64.toNat_ofNat_of_lt' below

theorem TokenResponse.toNat_expiresOn (tokens : TokenResponse) (time : UInt64) :
    (tokens.expiresOn time).toNat =
      min (time.toNat + 1000 * (tokens.expiresIn.getD 0).toNat) (UInt64.size - 1) := by
  have thousand : (1000 : UInt64).toNat = 1000 := rfl
  rw [expiresOn, toNat_saturatingAdd, toNat_saturatingMul, thousand]
  omega

namespace Credential

variable {c : Credential} {scopes more : List String} {now earlier later : UInt64}

theorem hasAccessToken_iff :
    c.hasAccessToken = true ↔ ∃ token, c.accessToken = some token ∧ token.isFilled = true := by
  rw [hasAccessToken, Option.any_eq_true]

theorem covers_iff :
    c.covers scopes = true ↔
      ∀ scope ∈ scopes, ∃ granted ∈ c.scopes, Text.sameIgnoringCase granted scope = true := by
  simp only [covers, List.all_eq_true, List.any_eq_true]

theorem addWords_expiryBuffer_of_room (room : now.toNat + 300000 < UInt64.size) :
    ∃ soon : UInt64, addWords now expiryBuffer = .ok soon ∧ soon.toNat = now.toNat + 300000 := by
  refine ⟨now + expiryBuffer, if_pos room, ?_⟩
  rw [UInt64.toNat_add]
  exact Nat.mod_eq_of_lt room

theorem hasValidAccessToken_of_accessless (accessless : c.hasAccessToken = false) :
    c.hasValidAccessToken scopes now = .ok false := by
  rw [hasValidAccessToken, accessless]
  rfl

/-- Where the time five minutes later can be told, the end of an access token is compared with
it. -/
theorem hasValidAccessToken_of_room (access : c.hasAccessToken = true)
    (room : now.toNat + 300000 < UInt64.size) :
    c.hasValidAccessToken scopes now =
      .ok (decide (now.toNat + 300000 < c.expiresOn.toNat) && c.covers scopes) := by
  obtain ⟨soon, added, same⟩ := addWords_expiryBuffer_of_room room
  rw [hasValidAccessToken, if_pos access, added, ← same]
  rfl

theorem hasValidAccessToken_of_overflow (access : c.hasAccessToken = true)
    (late : UInt64.size ≤ now.toNat + 300000) :
    c.hasValidAccessToken scopes now = .error .overflow := by
  have unbuffered : addWords now expiryBuffer = .error .overflow := if_neg (Nat.not_lt_of_le late)
  rw [hasValidAccessToken, if_pos access, unbuffered]
  rfl

/-- Only of an access token anything else can be told than that it is not there. -/
theorem hasAccessToken_of_ne (other : c.hasValidAccessToken scopes now ≠ .ok false) :
    c.hasAccessToken = true := by
  rw [← Bool.not_eq_false]
  exact fun accessless => other (hasValidAccessToken_of_accessless accessless)

theorem hasValidAccessToken_eq_error_iff {panic : Panic} :
    c.hasValidAccessToken scopes now = .error panic ↔
      c.hasAccessToken = true ∧ UInt64.size ≤ now.toNat + 300000 ∧ panic = .overflow := by
  constructor
  · intro panics
    have access := hasAccessToken_of_ne (by rw [panics]; nofun)
    by_cases room : now.toNat + 300000 < UInt64.size
    · rw [hasValidAccessToken_of_room access room] at panics
      cases panics
    · have late := Nat.le_of_not_lt room
      rw [hasValidAccessToken_of_overflow access late] at panics
      exact ⟨access, late, (Except.error.inj panics).symm⟩
  · rintro ⟨access, late, rfl⟩
    exact hasValidAccessToken_of_overflow access late

/-- The access token of a credential can be handed out at some time: there is one, it lasts for
five more minutes, and it was granted for the scopes. -/
structure Serves (c : Credential) (scopes : List String) (now : UInt64) : Prop where
  filled : ∃ token, c.accessToken = some token ∧ token.isFilled = true
  lasting : now.toNat + 300000 < c.expiresOn.toNat
  covered : ∀ scope ∈ scopes, ∃ granted ∈ c.scopes, Text.sameIgnoringCase granted scope = true

namespace Serves

/-- The time five minutes later can be told, as no end is past the last instant. -/
theorem room (serves : c.Serves scopes now) : now.toNat + 300000 < UInt64.size :=
  Nat.lt_trans serves.lasting c.expiresOn.toNat_lt

theorem of_subset (serves : c.Serves more now) (fewer : scopes ⊆ more) : c.Serves scopes now :=
  ⟨serves.filled, serves.lasting, fun scope member => serves.covered scope (fewer member)⟩

theorem of_le (serves : c.Serves scopes later) (order : earlier ≤ later) :
    c.Serves scopes earlier := by
  have order : earlier.toNat ≤ later.toNat := UInt64.le_iff_toNat_le.mp order
  exact ⟨serves.filled, Nat.lt_of_le_of_lt (by omega) serves.lasting, serves.covered⟩

end Serves

/-- A token that counts as valid can be handed out, and one that can be counts as valid. -/
theorem hasValidAccessToken_eq_true_iff :
    c.hasValidAccessToken scopes now = .ok true ↔ c.Serves scopes now := by
  have judged (access : c.hasAccessToken = true) (room : now.toNat + 300000 < UInt64.size) :
      c.hasValidAccessToken scopes now = .ok true ↔
        now.toNat + 300000 < c.expiresOn.toNat ∧ c.covers scopes = true := by
    rw [hasValidAccessToken_of_room access room, Except.ok.injEq, Bool.and_eq_true,
      decide_eq_true_eq]
  constructor
  · intro valid
    have access := hasAccessToken_of_ne (by rw [valid]; nofun)
    by_cases room : now.toNat + 300000 < UInt64.size
    · obtain ⟨lasting, covered⟩ := (judged access room).mp valid
      exact ⟨hasAccessToken_iff.mp access, lasting, covers_iff.mp covered⟩
    · rw [hasValidAccessToken_of_overflow access (Nat.le_of_not_lt room)] at valid
      cases valid
  · intro serves
    have access := hasAccessToken_iff.mpr serves.filled
    exact (judged access serves.room).mpr ⟨serves.lasting, covers_iff.mpr serves.covered⟩

theorem hasValidAccessToken_eq_false_iff :
    c.hasValidAccessToken scopes now = .ok false ↔
      ¬ c.Serves scopes now ∧
        ¬ (c.hasAccessToken = true ∧ UInt64.size ≤ now.toNat + 300000) := by
  rw [← hasValidAccessToken_eq_true_iff]
  constructor
  · intro invalid
    refine ⟨by simp [invalid], ?_⟩
    rintro ⟨access, late⟩
    rw [hasValidAccessToken_of_overflow access late] at invalid
    cases invalid
  · rintro ⟨unserved, certain⟩
    rcases check : c.hasValidAccessToken scopes now with panic | _ | _
    · obtain ⟨access, late, -⟩ := hasValidAccessToken_eq_error_iff.mp check
      exact absurd ⟨access, late⟩ certain
    · rfl
    · exact absurd check unserved

theorem hasValidAccessToken_eq_false (room : now.toNat + 300000 < UInt64.size)
    (invalid : c.hasValidAccessToken scopes now ≠ .ok true) :
    c.hasValidAccessToken scopes now = .ok false := by
  rw [ne_eq, hasValidAccessToken_eq_true_iff] at invalid
  exact hasValidAccessToken_eq_false_iff.mpr
    ⟨invalid, fun late => Nat.not_lt_of_le late.2 room⟩

/-- When a credential is valid. -/
structure Expires (c : Credential) : Prop where
  valid_iff : ∀ scopes now,
    c.hasValidAccessToken scopes now = .ok true ↔ c.Serves scopes now
  /-- An access token is found not to be valid only at times that leave five minutes to the last
  instant. -/
  invalid_iff : ∀ scopes now,
    c.hasValidAccessToken scopes now = .ok false ↔
      ¬ c.Serves scopes now ∧ ¬ (c.hasAccessToken = true ∧ UInt64.size ≤ now.toNat + 300000)
  /-- At any later time the sum overflows, unless there is no access token to ask about. -/
  panics_iff : ∀ scopes now panic,
    c.hasValidAccessToken scopes now = .error panic ↔
      c.hasAccessToken = true ∧ UInt64.size ≤ now.toNat + 300000 ∧
        panic = ⟨"attempt to add with overflow"⟩
  /-- Asking for more scopes gains nothing. -/
  fewer_scopes : ∀ scopes more now, scopes ⊆ more → c.hasValidAccessToken more now = .ok true →
    c.hasValidAccessToken scopes now = .ok true
  never_regained : ∀ scopes earlier later, earlier ≤ later →
    c.hasValidAccessToken scopes later = .ok true →
    c.hasValidAccessToken scopes earlier = .ok true
  /-- No token outlives the lifetime that its answer gave it. -/
  within_lifetime : ∀ (tokens : TokenResponse) time, c.expiresOn = tokens.expiresOn time →
    ∀ scopes now, c.hasValidAccessToken scopes now = .ok true →
      now.toNat + 300000 < time.toNat + 1000 * (tokens.expiresIn.getD 0).toNat

theorem expires (c : Credential) : c.Expires := by
  constructor
  case valid_iff => exact fun scopes now => hasValidAccessToken_eq_true_iff
  case invalid_iff => exact fun scopes now => hasValidAccessToken_eq_false_iff
  case panics_iff => exact fun scopes now panic => hasValidAccessToken_eq_error_iff
  case fewer_scopes =>
    intro scopes more now fewer valid
    rw [hasValidAccessToken_eq_true_iff] at valid ⊢
    exact valid.of_subset fewer
  case never_regained =>
    intro scopes earlier later order valid
    rw [hasValidAccessToken_eq_true_iff] at valid ⊢
    exact valid.of_le order
  case within_lifetime =>
    intro tokens time ends scopes now valid
    have lasting := (hasValidAccessToken_eq_true_iff.mp valid).lasting
    rw [ends, TokenResponse.toNat_expiresOn] at lasting
    omega

/-- A token whose end is the last instant. -/
def sampleEndless : Credential :=
  { account := { homeAccountId := "uid.tid", environment := "login.windows.net" }
    accessToken := some ⟨"at"⟩, expiresOn := 18446744073709551615, scopes := ["user.read"] }

/-- A token that is found to be expired five minutes before the last instant is asked about in vain
at that instant, which is its own end. -/
theorem endless_token_panics :
    sampleEndless.hasValidAccessToken ["User.Read"] 18446744073709251615 = .ok false ∧
      sampleEndless.hasValidAccessToken ["User.Read"] 18446744073709551615 =
        .error ⟨"attempt to add with overflow"⟩ ∧
      ¬ (18446744073709551615 : UInt64).toNat + 300000 < sampleEndless.expiresOn.toNat := by
  have access : sampleEndless.hasAccessToken = true := by decide
  refine ⟨?_, hasValidAccessToken_of_overflow access (by decide +kernel), by decide +kernel⟩
  refine hasValidAccessToken_eq_false_iff.mpr ⟨fun serves => ?_, fun late => ?_⟩
  · exact absurd serves.lasting (by decide +kernel)
  · exact absurd late.2 (by decide +kernel)

end Credential

end TokenAcquisition
