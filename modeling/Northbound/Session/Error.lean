import Northbound.Archive.Error
import Northbound.Config.Basic
import Northbound.Http.Error
import Northbound.NsInstance

/-!
# Failures of session operations
-/

namespace Northbound

/-- Why an operation of a session failed. -/
inductive SessionError where
  | http (error : HttpError)
  | notFound (kind : EntityKind) (name : String)
  | ambiguous (name : String) (ids : List String)
  | unsupportedPackageType (path : Path)
  | archive (error : ArchiveError)
  | config (error : ConfigError)

namespace SessionError

/-- The wording of a failure. -/
def message : SessionError → String
  | .http e => e.message
  | .notFound kind name => "no " ++ kind.label ++ " found for name: " ++ name
  | .ambiguous name ids =>
    "NS instance name not bound to a single ID: " ++ name ++ " -> " ++ Text.quotedList ids
  | .unsupportedPackageType path => "unsupported package type: " ++ Text.lossy path
  | .archive e => "package archive error: " ++ e.message
  | .config e => "configuration error: " ++ e.message

/-- Whether a name was not bound to a single ID. -/
def isLookupFailure : SessionError → Bool
  | .notFound _ _ => true
  | .ambiguous _ _ => true
  | _ => false

end SessionError

end Northbound
