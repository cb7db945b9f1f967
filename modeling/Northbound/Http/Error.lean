import Northbound.ByteSource
import Northbound.Http.Headers
import Northbound.Http.Status
import Northbound.Json.Error
import Northbound.Url.Basic

/-!
# Failures of exchanges
-/

namespace Northbound.Http

/-- Status and header fields of a response whose body is gone. -/
structure Reply where
  status : StatusCode
  headers : Headers
deriving DecidableEq, Repr

/-- Why no request could be made. -/
inductive RequestFault where
  | noTarget
  | noHost (url : Url)
  | badHeaderValue (value : String)
  /-- Refused for a reason from outside. -/
  | other (reason : String)
deriving DecidableEq, Repr

/-- The wording of a fault. -/
def RequestFault.message : RequestFault → String
  | .noTarget => "no target URL"
  | .noHost url => "URL has no host: " ++ url.render
  | .badHeaderValue value => "invalid header value: " ++ value
  | .other reason => reason

end Northbound.Http

namespace Northbound

open Http

/-- Why an exchange failed. -/
inductive HttpError where
  | invalidRequest (fault : RequestFault)
  /-- Failed in transit; the transport may have got a response all the same. -/
  | transport (reply? : Option Reply) (reason : String)
  | unexpectedStatus (status : StatusCode)
  | decode (error : Json.Error)
  | encode (error : Json.Error)
  | readBody (reason : String)

namespace HttpError

/-- The wording of a failure. -/
def message : HttpError → String
  | .invalidRequest fault => "invalid request: " ++ fault.message
  | .transport _ reason => "transport failure: " ++ reason
  | .unexpectedStatus status => "unexpected response status: " ++ status.text
  | .decode e => "failed to decode response body: " ++ e.message
  | .encode e => "failed to encode request body: " ++ e.message
  | .readBody reason => "failed to read response body: " ++ reason

/-- The status of the response behind a failure, if there was one. -/
def status? : HttpError → Option StatusCode
  | .transport reply? _ => reply?.map Reply.status
  | .unexpectedStatus status => some status
  | _ => none

end HttpError

end Northbound
