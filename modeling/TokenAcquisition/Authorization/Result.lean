import TokenAcquisition.Failure
import TokenAcquisition.Authorization.Redirect

/-!
Results of an authorization: a code, a cancellation or an error of the server.
-/

namespace TokenAcquisition

structure AuthorizationResponse where
  code : String
  state : String
  cloudHost : Option String := none
  deriving DecidableEq, Repr

structure AuthorizationError where
  error : String
  subcode : Option String := none
  description : Option String := none
  deriving DecidableEq, Repr

/-- The description, or else the sub-error, or else the error code. -/
def AuthorizationError.message (e : AuthorizationError) : String :=
  (e.description <|> e.subcode).getD e.error

inductive AuthorizationResult where
  | success (response : AuthorizationResponse)
  | cancel
  | error (error : AuthorizationError)
  deriving DecidableEq, Repr

/-- An authorization that ended without a code or an error of the server. -/
private def AuthorizationResult.codeless (description : String) : AuthorizationResult :=
  .error { error := ClientCode.authorizationFailed, description := some description }

/-- The result of a completion for a request of the given state.  Only a redirect with a code and
that very state succeeds, and another state is refused. -/
def Completion.result (completion : Completion) (state : String) :
    Except Failure AuthorizationResult :=
  let payload := completion.payload
  match completion.code with
  | .cancel => .ok .cancel
  | .error =>
      .ok (.error
        { error := payload.error.getD ClientCode.authorizationFailed
          subcode := payload.errorSubcode
          description := payload.errorMessage })
  | .exception =>
      .ok (.error
        { error := ClientCode.authenticationException, description := payload.errorMessage })
  | .complete =>
      match payload.finalUrl with
      | none => .ok (.codeless "completion carries no redirect URL")
      | some text =>
          let parameters := urlParameters text
          match (parameters.find? "code").filter fun code => !code.isEmpty with
          | none => .ok (.codeless "redirect carries no authorization code")
          | some code =>
              let returned := (parameters.find? "state").getD ""
              if returned ≠ state then
                .error (.client ClientCode.stateMismatch
                  "returned state does not match the authorization request")
              else
                .ok (.success
                  { code, state := returned
                    cloudHost := parameters.find? "cloud_instance_host_name" })

end TokenAcquisition
