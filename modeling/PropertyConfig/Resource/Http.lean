import PropertyConfig.Resource.Error
import PropertyConfig.Url.Basic

/-!
# Resources from the network

A client asks for a URL and gets an answer or says what went wrong. An answer counts only if its
status says that it is what was asked for.
-/

namespace PropertyConfig

/-- What came back for a URL. The text has yet to arrive, which may fail. -/
structure HttpAnswer where
  status : Nat
  text : Except Text Text

/-- Asks for a URL; where no answer comes, the text says why. -/
abbrev HttpClient := Url → Except Text HttpAnswer

/-- Whether the answer is what was asked for. -/
def HttpAnswer.isSuccess (a : HttpAnswer) : Bool := 200 ≤ a.status && a.status < 300

/-- The text that a URL has in the network (`fetch_http`). -/
def HttpClient.fetch (client : HttpClient) (u : Url) : Except LoadError Text :=
  match client u with
  | .error cause => .error (.httpFailed u.text cause)
  | .ok answer =>
    if answer.isSuccess then answer.text.mapError (.httpFailed u.text)
    else .error (.httpStatus u.text answer.status)

end PropertyConfig
