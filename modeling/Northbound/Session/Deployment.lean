import Northbound.Session.Lookup

/-!
# Deploying network service instances

An instance is created from its descriptor on its account, or its deployment unit is upgraded if
there is an instance of the name already. Nothing is changed on the server unless every name needed
is bound to a single ID.
-/

namespace Northbound

/-- What was done to bring a desired state about. -/
inductive Deployment where
  | created
  | upgraded (id : String)
deriving DecidableEq, Repr

namespace Session

/-- Creates an instance. The descriptor is looked up before the account. -/
def createInstance (env : Surroundings) (content : NsInstanceContent) : SessionAction Unit := do
  let nsdId ← lookupDescriptor env content.nsdName
  let vimAccountId ← lookupAccount env content.vimAccountName
  postDocument env .nsInstancesContent (content.createRequest nsdId vimAccountId)

/-- Upgrades the deployment unit of an instance. -/
def upgradeInstance (env : Surroundings) (id : String) (content : NsInstanceContent) :
    SessionAction Unit :=
  postDocument env (.nsInstanceAction id) content.upgradeRequest

/-- Brings about a desired state. -/
def deploy (env : Surroundings) (content : NsInstanceContent) : SessionAction Deployment :=
  fun st =>
    match lookupInstance env content.name st with
    | (.ok id, st) => ((fun _ => .upgraded id) <$> upgradeInstance env id content) st
    | (.error (.notFound _ _), st) => ((fun _ => .created) <$> createInstance env content) st
    | (.error e, st) => (.error e, st)

end Session

end Northbound
