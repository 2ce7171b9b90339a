import Mathlib.Control.Monad.Basic
import TokenAcquisition.Flow
import TokenAcquisition.Proofs.Credential.Store
import TokenAcquisition.Proofs.Text.Words

/-!
How a redirect is classified: which value of a parameter counts, and what the parameters come to
for a request of a given state.
-/

namespace TokenAcquisition

namespace SortedMap

variable {V : Type}

theorem find?_foldl_insert (entries : List (String × V)) (m : SortedMap V) (key : String) :
    (entries.foldl (fun m entry => m.insert entry.1 entry.2) m).find? key =
      (entries.reverse.lookup key).or (m.find? key) := by
  induction entries generalizing m with
  | nil => rfl
  | cons entry rest inductionHypothesis =>
      rw [List.foldl_cons, inductionHypothesis, find?_insert, List.reverse_cons,
        List.lookup_append, Option.or_assoc, lookup_cons]
      split <;> rfl

/-- Of the entries of a key the last one is found. -/
theorem find?_ofList (entries : List (String × V)) (key : String) :
    (ofList entries).find? key = entries.reverse.lookup key := by
  rw [ofList, find?_foldl_insert, show (empty : SortedMap V).find? key = none from rfl,
    Option.or_none]

/-- Of entries that are put only where there is none, the first one is found. -/
theorem find?_foldl_absent (entries : List (String × V)) (m : SortedMap V) (key : String) :
    (entries.foldl
        (fun m entry => if (m.find? entry.1).isSome then m else m.insert entry.1 entry.2) m).find?
        key =
      (m.find? key).or (entries.lookup key) := by
  induction entries generalizing m with
  | nil => simp
  | cons entry rest inductionHypothesis =>
      rw [List.foldl_cons, inductionHypothesis, lookup_cons]
      by_cases here : key = entry.1
      · subst here
        cases found : m.find? entry.1 with
        | none => simp [find?_insert]
        | some value => simp [found]
      · rw [if_neg here]
        split
        next => rfl
        next => rw [find?_insert, if_neg here]

end SortedMap

/-- The value of a parameter of a redirect: the last one in the query, or else the first one in the
fragment.  A text that is no URL has no parameters. -/
def redirectParameter (text name : String) : Option String :=
  match Url.parse text with
  | .error _ => none
  | .ok url => (url.queryPairs.reverse.lookup name).or (url.fragmentPairs.lookup name)

theorem find?_urlParameters (text name : String) :
    (urlParameters text).find? name = redirectParameter text name := by
  unfold urlParameters redirectParameter
  cases Url.parse text with
  | error fault => rfl
  | ok url => exact (SortedMap.find?_foldl_absent ..).trans (by rw [SortedMap.find?_ofList])

namespace Completion

/-- The sub-error says that the user cancelled. -/
def SaysCancel (p : String → Option String) : Prop :=
  ∃ subcode, p "error_subcode" = some subcode ∧ Text.sameIgnoringCase subcode "cancel" = true

/-- What a redirect with the parameters `p` comes to for a request of a state.  Only a redirect
without an error is asked for a code, and only one with a code is asked for its state. -/
inductive Classified (p : String → Option String) (state : String) :
    Except Failure AuthorizationResult → Prop
  | cancelled {error : String} (refused : filled (p "error") = some error)
      (cancels : SaysCancel p) : Classified p state (.ok .cancel)
  | refused {error : String} (refused : filled (p "error") = some error)
      (uncancelled : ¬ SaysCancel p) :
      Classified p state
        (.ok (.error
          { error, subcode := filled (p "error_subcode")
            description := filled (p "error_description") <|> filled (p "error_subcode") }))
  | codeless (errorless : filled (p "error") = none)
      (codeless : ∀ code, p "code" = some code → code = "") :
      Classified p state
        (.ok (.error
          { error := ClientCode.authorizationFailed
            description := some "redirect carries no authorization code" }))
  | forged (errorless : filled (p "error") = none) {code : String}
      (coded : p "code" = some code) (written : code ≠ "")
      (foreign : (p "state").getD "" ≠ state) :
      Classified p state
        (.error (.client ClientCode.stateMismatch
          "returned state does not match the authorization request"))
  | granted (errorless : filled (p "error") = none) {code : String}
      (coded : p "code" = some code) (written : code ≠ "")
      (own : (p "state").getD "" = state) :
      Classified p state
        (.ok (.success { code, state, cloudHost := p "cloud_instance_host_name" }))

section Parameters

variable {p : String → Option String} {state : String}

theorem filled_eq_some_iff {value : Option String} {text : String} :
    filled value = some text ↔ value = some text ∧ Text.allBlank text = false := by
  simp [filled, Option.filter_eq_some_iff]

/-- A sub-error that says so is not blank. -/
theorem saysCancel_iff :
    SaysCancel p ↔
      ((filled (p "error_subcode")).any fun s => Text.sameIgnoringCase s "cancel") = true := by
  rw [Option.any_eq_true]
  refine exists_congr fun subcode => ⟨fun ⟨found, cancels⟩ => ?_, fun ⟨found, cancels⟩ => ?_⟩
  · have written : Text.allBlank subcode = false :=
      (Text.allBlank_of_sameIgnoringCase cancels).trans (by decide)
    exact ⟨filled_eq_some_iff.mpr ⟨found, written⟩, cancels⟩
  · exact ⟨(filled_eq_some_iff.mp found).1, cancels⟩

namespace Classified

theorem unique {one other : Except Failure AuthorizationResult} (first : Classified p state one)
    (second : Classified p state other) : one = other := by
  cases first <;> cases second <;> simp_all

/-- A success carries the state of the request, and a code. -/
theorem of_success {response : AuthorizationResponse}
    (classified : Classified p state (.ok (.success response))) :
    response.state = state ∧ response.code ≠ "" := by
  cases classified with
  | granted errorless coded written own => exact ⟨rfl, written⟩

end Classified

end Parameters

/-- Every redirect is of one of the kinds. -/
theorem classified_result (text state : String) :
    Classified (redirectParameter text) state ((ofRedirect text).result state) := by
  unfold ofRedirect
  simp only [find?_urlParameters]
  cases refused : filled (redirectParameter text "error") with
  | some error =>
      by_cases cancels : SaysCancel (redirectParameter text)
      · rw [if_pos (saysCancel_iff.mp cancels)]
        exact .cancelled refused cancels
      · rw [if_neg fun said => cancels (saysCancel_iff.mpr said)]
        exact .refused refused cancels
  | none =>
      simp only [result, find?_urlParameters]
      split
      next uncoded =>
        refine .codeless refused fun code found => ?_
        simpa [found] using uncoded
      next code coded =>
        obtain ⟨coded, written⟩ := Option.filter_eq_some_iff.mp coded
        have written : code ≠ "" := by
          rintro rfl
          cases written
        split
        next foreign => exact .forged refused coded written foreign
        next own =>
          have own := Decidable.not_not.mp own
          have granted := Classified.granted refused coded written own
          rwa [← own] at granted ⊢

/-! ### What is made of every redirect -/

/-- What a redirect comes to for a request is decided by its parameters alone, in one way for each
redirect. -/
structure DecidesRedirect (text : String) (request : AuthorizationRequest) : Prop where
  exact (result : Except Failure AuthorizationResult) :
    Flow.byState (ofRedirect text) request = result ↔
      Classified (redirectParameter text) request.state result
  granted (response : AuthorizationResponse) :
    Flow.byState (ofRedirect text) request = .ok (.success response) →
      response.state = request.state ∧ response.code ≠ ""

theorem decidesRedirect (text : String) (request : AuthorizationRequest) :
    DecidesRedirect text request := by
  have classified := classified_result text request.state
  constructor
  case exact =>
    intro result
    refine ⟨?_, classified.unique⟩
    rintro rfl
    exact classified
  case granted =>
    intro response succeeded
    rw [Flow.byState] at succeeded
    rw [succeeded] at classified
    exact classified.of_success

/-! ### Redirects with the state of another request -/

def mismatch : Failure :=
  .client ClientCode.stateMismatch "returned state does not match the authorization request"

/-- A redirect that reports no error and has a code. -/
def OffersCode (p : String → Option String) : Prop :=
  filled (p "error") = none ∧ ∃ code, p "code" = some code ∧ code ≠ ""

theorem Classified.of_foreign {p : String → Option String} {state : String}
    {result : Except Failure AuthorizationResult} (classified : Classified p state result)
    (foreign : (p "state").getD "" ≠ state) :
    (result = .error mismatch ∧ OffersCode p) ∨
      ((result = .ok .cancel ∨ ∃ error, result = .ok (.error error)) ∧ ¬ OffersCode p) := by
  cases classified with
  | cancelled refused cancels =>
      refine .inr ⟨.inl rfl, fun offers => ?_⟩
      cases refused.symm.trans offers.1
  | refused refused uncancelled =>
      refine .inr ⟨.inr ⟨_, rfl⟩, fun offers => ?_⟩
      cases refused.symm.trans offers.1
  | codeless errorless codeless =>
      refine .inr ⟨.inr ⟨_, rfl⟩, ?_⟩
      rintro ⟨-, code, coded, written⟩
      exact written (codeless code coded)
  | forged errorless coded written => exact .inl ⟨rfl, errorless, _, coded, written⟩
  | granted errorless coded written own => exact absurd own foreign

/-- What becomes of a redirect with a foreign state.  It never leads to a success, but it is
refused only where its code would otherwise be taken: of a redirect that reports an error, or has
no code, the state is not looked at. -/
structure WithstandsForgery (text : String) (request : AuthorizationRequest) : Prop where
  withheld (response : AuthorizationResponse) :
    Flow.byState (ofRedirect text) request ≠ .ok (.success response)
  refused :
    Flow.byState (ofRedirect text) request = .error mismatch ↔
      OffersCode (redirectParameter text)
  reported (codeless : ¬ OffersCode (redirectParameter text)) :
    Flow.byState (ofRedirect text) request = .ok .cancel ∨
      ∃ error, Flow.byState (ofRedirect text) request = .ok (.error error)

theorem withstandsForgery {text returned : String} {request : AuthorizationRequest}
    (carried : redirectParameter text "state" = some returned)
    (forged : returned ≠ request.state) : WithstandsForgery text request := by
  have foreign : (redirectParameter text "state").getD "" ≠ request.state := by
    rwa [carried, Option.getD_some]
  rcases (classified_result text request.state).of_foreign foreign with
    ⟨refused, offers⟩ | ⟨reported, codeless⟩
  · refine ⟨fun response succeeded => ?_, iff_of_true refused offers, absurd offers⟩
    cases refused.symm.trans succeeded
  · refine ⟨fun response succeeded => ?_, ⟨fun refused => ?_, fun offers => absurd offers codeless⟩,
      fun _ => reported⟩
    · rcases reported with cancelled | ⟨error, refused⟩
      · cases cancelled.symm.trans succeeded
      · cases refused.symm.trans succeeded
    · rcases reported with cancelled | ⟨error, failed⟩
      · cases cancelled.symm.trans refused
      · cases failed.symm.trans refused

/-- A request with a state of its own. -/
def stateful : AuthorizationDraft where
  clientId := some "app"
  redirectUri := some "app://done"
  authority :=
    some { scheme := "https", authority := some { host := "login.example" }, path := "/common" }
  scope := some "user.read"
  state := some "s1"

theorem exists_stateful :
    ∃ request, stateful.build { state := [], verifier := [] } none = .ok request ∧
      request.state = "s1" :=
  ⟨_, rfl, rfl⟩

theorem sample_withstandsForgery :
    ∃ request, stateful.build { state := [], verifier := [] } none = .ok request ∧
      WithstandsForgery "app://done?code=c&state=forged" request := by
  obtain ⟨request, built, own⟩ := exists_stateful
  have carried :
      redirectParameter "app://done?code=c&state=forged" "state" = some "forged" := by
    decide +kernel
  have forged : "forged" ≠ request.state := by
    rw [own]
    decide
  exact ⟨request, built, withstandsForgery carried forged⟩

/-- A redirect that reports an error is believed, whatever its state. -/
theorem forged_state_believed :
    ∃ request, stateful.build { state := [], verifier := [] } none = .ok request ∧
      request.state ≠ "" ∧
      redirectParameter "app://done?error=access_denied&state=forged" "state" = some "forged" ∧
      "forged" ≠ request.state ∧
      Flow.byState (ofRedirect "app://done?error=access_denied&state=forged") request =
        .ok (.error { error := "access_denied" }) := by
  obtain ⟨request, built, own⟩ := exists_stateful
  refine ⟨request, built, ?_⟩
  simp only [Flow.byState, own]
  decide +kernel

end Completion

end TokenAcquisition
