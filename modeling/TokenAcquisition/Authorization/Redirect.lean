import TokenAcquisition.Failure
import TokenAcquisition.SortedMap
import TokenAcquisition.Text.Characters
import TokenAcquisition.Url.Parser

/-!
Completions of an authorization: what the user agent reports when it is done, most often the URL
it was redirected to.
-/

namespace TokenAcquisition

inductive ResultCode where
  /-- A redirect arrived. -/
  | complete
  | cancel
  /-- The server redirected with an error. -/
  | error
  /-- The user agent failed before a redirect arrived. -/
  | exception
  deriving DecidableEq, Repr

def ResultCode.label : ResultCode → String
  | .complete => "complete"
  | .cancel => "cancel"
  | .error => "error"
  | .exception => "exception"

structure RedirectPayload where
  finalUrl : Option String := none
  error : Option String := none
  errorSubcode : Option String := none
  errorMessage : Option String := none
  deriving DecidableEq, Repr

structure Completion where
  code : ResultCode
  payload : RedirectPayload
  deriving DecidableEq, Repr

/-- The parameters of a redirect.  The last value in the query counts, and where the query has
none the first in the fragment. -/
def urlParameters (text : String) : SortedMap String :=
  match Url.parse text with
  | .error _ => .empty
  | .ok url =>
      url.fragmentPairs.foldl
        (fun m pair => if (m.find? pair.1).isSome then m else m.insert pair.1 pair.2)
        (SortedMap.ofList url.queryPairs)

namespace Completion

/-- A value that is not blank. -/
def filled (value : Option String) : Option String :=
  value.filter fun text => !Text.allBlank text

/-- What a redirect URL reports: an error, or a cancellation if the sub-error says so, or, with no
error, the URL itself. -/
def ofRedirect (text : String) : Completion :=
  let parameters := urlParameters text
  match filled (parameters.find? "error") with
  | none => { code := .complete, payload := { finalUrl := some text } }
  | some error =>
      let subcode := filled (parameters.find? "error_subcode")
      let message := filled (parameters.find? "error_description") <|> subcode
      { code :=
          if subcode.any fun s => Text.sameIgnoringCase s "cancel" then .cancel else .error
        payload := { error := some error, errorSubcode := subcode, errorMessage := message } }

def cancelled : Completion :=
  { code := .cancel, payload := {} }

def failed (message : String) : Completion :=
  { code := .exception, payload := { errorMessage := some message } }

end Completion

end TokenAcquisition
