import Northbound.Session.Deployment
import Northbound.Session.Upload

/-!
# Runs of a session

A run performs operations one after the other, whatever their results: each starts from the session
and the traffic that the one before it left.
-/

namespace Northbound

/-- An operation that a session offers. -/
inductive Operation where
  | accessToken
  | lookupDescriptor (name : String)
  | lookupAccount (name : String)
  | lookupInstance (name : String)
  | deploy (content : NsInstanceContent)
  | upload (p : Package)
  /-- Packs and uploads a directory, with the files as they are then. -/
  | uploadDirectory (fs : FileSystem) (path : Path)

/-- What an operation answers. -/
inductive Answer where
  | token (t : Token)
  | id (id : String)
  | deployment (d : Deployment)
  | upload (u : PackageUpload)
deriving DecidableEq, Repr

/-- Performs an operation. -/
def Operation.perform (env : Surroundings) : Operation → SessionAction Answer
  | .accessToken => Answer.token <$> Session.accessToken env
  | .lookupDescriptor name => Answer.id <$> Session.lookupDescriptor env name
  | .lookupAccount name => Answer.id <$> Session.lookupAccount env name
  | .lookupInstance name => Answer.id <$> Session.lookupInstance env name
  | .deploy content => Answer.deployment <$> Session.deploy env content
  | .upload p => Answer.upload <$> Session.upload env p
  | .uploadDirectory fs path => Answer.upload <$> Session.uploadDirectory env fs path

/-- Performs operations in order. Yields their results and what they leave. -/
def Session.run (env : Surroundings) :
    List Operation → Session × Traffic → List (Except SessionError Answer) × (Session × Traffic)
  | [], st => ([], st)
  | op :: rest, st =>
    let (result, st) := op.perform env st
    let (results, st) := Session.run env rest st
    (result :: results, st)

end Northbound
